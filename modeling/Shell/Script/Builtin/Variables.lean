import Shell.Script.Builtin.Basic
import Shell.Script.Field

/-!
# Variables, arguments and options

The commands that list, change and forget variables, the arguments and options of a script, and
those that read values into variables.
-/

namespace Shell

namespace Script

namespace Builtin

/-! ### Properties -/

/-- The name and the value of an argument of the form `name=value`. -/
def nameAndValue (arg : String) : String × Option String :=
  let name := arg.toList.takeWhile (· ≠ '=')
  (String.ofList name,
    if containsChar '=' arg then some (String.ofList (arg.toList.drop (name.length + 1))) else none)

/-- Leave with an error unless a text can be the name of a variable. -/
def checkName (name : String) : Sh Unit :=
  if isName name then pure () else Sh.fail (name ++ ": bad variable name")

/-- The lines that list some variables in order, each behind a word. -/
def listing (word : String) (vars : List (String × Variable)) : String :=
  let lead := if word = "" then "" else word ++ " "
  String.join ((vars.mergeSort fun a b => !decide (b.1 < a.1)).map fun (name, v) =>
    lead ++ name ++ (v.value.elim "" fun value => "=" ++ quoted value) ++ "\n")

/-- Give variables a property, and perhaps a value, or list those that have it. -/
def properties (word : String) (has : Variable → Bool) (give : Variable → Variable)
    (args : List String) : Sh Nat := do
  let a ← arguments [('p', false)] args
  if a.operands.isEmpty || a.has 'p' then
    print (listing word ((← Sh.get).vars.filter fun e => has e.2))
  else do
    Sh.each (fun arg => do
      let (name, value) := nameAndValue arg
      checkName name
      match value with
      | some value => Sh.assign name value
      | none => pure ()
      Sh.mark name give) a.operands
    return 0

/-- Let programs know variables. -/
def exportNames (args : List String) : Sh Nat :=
  properties "export" Variable.exported (fun v => { v with exported := true }) args

/-- Let variables keep their values. -/
def protectNames (args : List String) : Sh Nat :=
  properties "readonly" Variable.readOnly (fun v => { v with readOnly := true }) args

/-- Forget variables or functions. -/
def unset (args : List String) : Sh Nat := do
  let a ← arguments [('v', false), ('f', false)] args
  if (a.options.getLast?.map Prod.fst) = some 'f' then
    Sh.modify fun s =>
      { s with functions := s.functions.filter fun f => !a.operands.contains f.1 }
  else Sh.each (fun name => do
    checkName name
    Sh.unsetVariable name) a.operands
  return 0

/-- Let changes of variables last only until the end of the function. -/
def localNames (args : List String) : Sh Nat := do
  if (← Sh.get).locals.isEmpty then Sh.fail "not in a function"
  Sh.each (fun arg => do
    let (name, value) := nameAndValue arg
    checkName name
    Sh.keepVariable name
    match value with
    | some value => Sh.assign name value
    | none => pure ()) args
  return 0

/-! ### Options and arguments -/

/-- Set an option or take it back. -/
def setOption (letter : Char) (on : Bool) : Sh Unit :=
  if optionNames.any fun o => o.2 = some letter then
    Sh.modify fun s =>
      let others := s.options.filter (· ≠ letter)
      { s with options := if on then letter :: others else others }
  else Sh.fail ("Illegal option " ++ String.ofList [if on then '-' else '+', letter])

/-- Set an option by its name. -/
def setNamedOption (name : String) (on : Bool) : Sh Unit :=
  match optionNames.lookup name with
  | some (some letter) => setOption letter on
  | some none => pure ()
  | none => Sh.fail ("Illegal option " ++ (if on then "-" else "+") ++ "o " ++ name)

/-- The settings of the options, for people or as commands. -/
def optionListing (s : State) (forPeople : Bool) : String :=
  let isOn (letter : Option Char) : Bool := letter.any s.options.contains
  if forPeople then
    "Current option settings\n" ++ String.join (optionNames.map fun (name, letter) =>
      name ++ String.ofList (List.replicate (16 - name.length) ' ') ++
        (if isOn letter then "on" else "off") ++ "\n")
  else String.join (optionNames.map fun (name, letter) =>
    "set " ++ (if isOn letter then "-" else "+") ++ "o " ++ name ++ "\n")

/-- The options of a word of letters. An `o` takes its name from the arguments behind the word. -/
def setLetters (on : Bool) : List Char → List String → Sh (List String)
  | [], rest => pure rest
  | 'o' :: cs, rest => do
    match rest with
    | [] => do
      let _ ← print (optionListing (← Sh.get) on)
      setLetters on cs []
    | name :: rest => do
      setNamedOption name on
      setLetters on cs rest
  | c :: cs, rest => do
    setOption c on
    setLetters on cs rest

/-- Give the script other arguments. Its options are read from the first on again. -/
def setArguments (args : List String) : Sh Unit :=
  Sh.modify fun s => { s with args, optionIndex := 1, optionOffset := none }

/-- Set options and, if there are any behind them, arguments. The first argument bounds the number
of the others. -/
def setFrom : Nat → List String → Sh Unit
  | 0, _ => pure ()
  | _ + 1, [] => pure ()
  | fuel + 1, arg :: rest => do
    match arg.toList with
    | ['-'] => do
      setOption 'x' false
      setOption 'v' false
      if !rest.isEmpty then setArguments rest
    | ['-', '-'] => setArguments rest
    | '-' :: cs => do
      let rest ← setLetters true cs rest
      setFrom fuel rest
    | '+' :: cs => do
      let rest ← setLetters false cs rest
      setFrom fuel rest
    | _ => setArguments (arg :: rest)

/-- Set options and arguments, or list the variables. -/
def set (args : List String) : Sh Nat := do
  if args.isEmpty then
    return ← print (listing "" ((← Sh.get).vars.filter fun e => e.2.value.isSome))
  setFrom (args.length + 1) args
  return 0

/-- Leave out the first arguments. -/
def shift (args : List String) : Sh Nat := do
  let n ← match args with
    | [] => pure 1
    | arg :: _ => natural arg
  let s ← Sh.get
  if s.args.length < n then Sh.fail "can't shift that many"
  setArguments (s.args.drop n)
  return 0

/-! ### Reading options of a script -/

/-- Whether an option letter is among those of a specification, and whether it takes a value. -/
def optionNeed? (spec : List Char) (c : Char) : Option Bool :=
  match spec with
  | [] => none
  | d :: ':' :: rest => if c = d then some true else optionNeed? rest c
  | d :: rest => if c = d then some false else optionNeed? rest c

/-- Read the next option among some arguments. -/
def getoptsAmong (spec name : String) (args : List String) : Sh Nat := do
  let s ← Sh.get
  let index := if args.length + 1 < s.optionIndex then 1 else s.optionIndex
  let current := args[index - 2]?.getD ""
  let pendingChars : List Char :=
    match s.optionOffset with
    | some offset => if 1 < index then current.toList.drop offset else []
    | none => []
  let silent := startsWithText ":" spec
  -- The option letters to read, how many arguments were begun, and the offset in the last.
  let found : Option (List Char × Nat) :=
    if !pendingChars.isEmpty then some (pendingChars, index)
    else match (args[index - 1]?.getD "").toList with
      | ['-', '-'] => some ([], index + 1)
      | '-' :: c :: cs => some (c :: cs, index + 1)
      | _ => none
  let finish (letter : String) (index : Nat) (offset : Option Nat) (done : Nat) : Sh Nat := do
    Sh.assign "OPTIND" (toString index)
    checkName name
    Sh.assign name letter
    Sh.modify fun s => { s with optionIndex := index, optionOffset := offset }
    return done
  match found with
  | none => finish "?" index none 1
  | some ([], index) => finish "?" index none 1
  | some (c :: cs, index) =>
    let letter := String.ofList [c]
    let length := (args[index - 2]?.getD "").length
    let offset := if cs.isEmpty then none else some (length - cs.length)
    match if c = ':' then none else optionNeed? spec.toList c with
    | none =>
      if silent then Sh.assign "OPTARG" letter
      else
        let _ ← Sh.write 2 ("Illegal option -" ++ letter ++ "\n")
        Sh.unsetVariable "OPTARG"
      finish "?" index offset 0
    | some false =>
      Sh.assign "OPTARG" ""
      finish letter index offset 0
    | some true =>
      match cs, args[index - 1]? with
      | [], none =>
        if silent then
          Sh.assign "OPTARG" letter
          finish ":" index none 0
        else
          let _ ← Sh.write 2 ("No arg for -" ++ letter ++ " option\n")
          Sh.unsetVariable "OPTARG"
          finish "?" index none 0
      | [], some value =>
        Sh.assign "OPTARG" value
        finish letter (index + 1) none 0
      | cs, _ =>
        Sh.assign "OPTARG" (String.ofList cs)
        finish letter index none 0

/-- Read the next option of the script or among some arguments. -/
def getopts (args : List String) : Sh Nat := do
  match args with
  | spec :: name :: [] => getoptsAmong spec name (← Sh.get).args
  | spec :: name :: rest => getoptsAmong spec name rest
  | _ => Sh.fail "Usage: getopts optstring var [arg...]"

/-! ### Reading lines -/

/-- Read a line from standard input. A backslash protects the character behind it, or joins the next
line, unless `raw` holds. The flag tells that the end was not reached. -/
def readLine (raw : Bool) : Nat → List Segment → List Char → Sh (List Segment × Bool)
  | 0, done, run => pure ((flush run done).reverse, true)
  | fuel + 1, done, run => do
    match ← Sh.ask (.read 0 1) with
    | .ok [b] =>
      let c := Char.ofNat b.toNat
      if c = '\x00' then readLine raw fuel done run
      else if c = '\n' then pure ((flush run done).reverse, true)
      else if c = '\\' && !raw then
        match ← Sh.ask (.read 0 1) with
        | .ok [b] =>
          let c := Char.ofNat b.toNat
          let done := flush run done
          if c = '\n' then readLine raw fuel done []
          else readLine raw fuel (.ofText [c] true :: done) []
        | _ => pure ((flush run done).reverse, false)
      else readLine raw fuel done (c :: run)
    | _ => pure ((flush run done).reverse, false)
where
  /-- Add characters, which stand in reverse, to what was read. -/
  flush (run : List Char) (done : List Segment) : List Segment :=
    if run.isEmpty then done else .ofText run.reverse false .fields :: done

/-- Give variables the fields of a line; those without a field become empty. -/
def assignFields : List String → List String → Sh Unit
  | [], _ => pure ()
  | name :: names, fields => do
    checkName name
    Sh.assign name (fields.head?.getD "")
    assignFields names (fields.drop 1)

/-- Read a line and divide it among variables. -/
def read (args : List String) : Sh Nat := do
  let a ← arguments [('p', true), ('r', false)] args
  if a.operands.isEmpty then Sh.fail "arg count"
  let (segments, complete) ← readLine (a.has 'r') Parse.patience [] []
  let s ← Sh.get
  let fields := Fields.divide s.separators segments (some a.operands.length)
  assignFields a.operands (fields.map fun f => String.ofList (cellText f))
  return if complete then 0 else 1

end Builtin

end Script

end Shell
