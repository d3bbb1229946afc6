import Shell.Text.Join

/-!
# Switches

How the installed tools read their options: letters behind one dash, alone or together, and long
names behind two, which may be cut short as long as they stay unique. A value is joined to its
option or is the next argument. Options may stand among the operands until `--` ends them.
-/

namespace Shell

/-- Whether an option takes a value. -/
inductive Need
  | no
  | yes
  /-- Only a value that is joined to it. -/
  | maybe
  deriving DecidableEq, Repr

/-- An option with a long name. It stands for the option with this letter. -/
structure LongName where
  name : String
  need : Need := .no
  letter : Char
  deriving DecidableEq, Repr

/-- The options of a tool. -/
structure Switches where
  letters : List (Char × Need)
  names : List LongName := []
  /-- The first operand ends the options. -/
  strict : Bool := false
  deriving DecidableEq, Repr

namespace Switches

/-- An option as it was given. -/
abbrev Given := Char × Option String

/-- Options up to the first wrong one, the complaint about that, and the operands. -/
structure Reading where
  options : List Given := []
  complaint : Option String := none
  operands : List String := []
  deriving DecidableEq, Repr

/-- What is read before the rest. -/
def Reading.before (options : List Given) (r : Reading) : Reading :=
  { r with options := options ++ r.options }

/-- The options of a group of letters. The flag tells that the next argument is a value. -/
def letterGroup (s : Switches) (next : Option String) :
    List Char → List Given × Option String × Bool
  | [] => ([], none, false)
  | c :: rest =>
    match s.letters.lookup c with
    | none => ([], some ("invalid option -- '" ++ String.ofList [c] ++ "'"), false)
    | some .no =>
      let (options, complaint, takes) := letterGroup s next rest
      ((c, none) :: options, complaint, takes)
    | some .maybe =>
      ([(c, if rest.isEmpty then none else some (String.ofList rest))], none, false)
    | some .yes =>
      if !rest.isEmpty then ([(c, some (String.ofList rest))], none, false)
      else match next with
        | some value => ([(c, some value)], none, true)
        | none =>
          ([], some ("option requires an argument -- '" ++ String.ofList [c] ++ "'"), false)

/-- The long names that a word may mean. -/
def candidates (s : Switches) (word : String) : List LongName :=
  match s.names.find? fun n => n.name = word with
  | some n => [n]
  | none => s.names.filter fun n => startsWithText word n.name

/-- A list of names for a complaint. -/
def possibilities (names : List LongName) : String :=
  String.join (names.map fun n => " '--" ++ n.name ++ "'")

/-- The option that a word behind two dashes means. The flag tells that the next argument is its
value. -/
def longName (s : Switches) (next : Option String) (text : String) :
    Except String (Given × Bool) :=
  let word := String.ofList (text.toList.takeWhile (· ≠ '='))
  let value : Option String :=
    if containsChar '=' text then some (String.ofList (text.toList.drop (word.length + 1)))
    else none
  match s.candidates word with
  | [] => .error ("unrecognized option '--" ++ text ++ "'")
  | n :: others =>
    if others.any fun o => o.letter ≠ n.letter then
      .error ("option '--" ++ text ++ "' is ambiguous; possibilities:" ++
        possibilities (n :: others))
    else match n.need, value, next with
      | .no, some _, _ => .error ("option '--" ++ n.name ++ "' doesn't allow an argument")
      | .no, none, _ => .ok ((n.letter, none), false)
      | .maybe, v, _ => .ok ((n.letter, v), false)
      | .yes, some v, _ => .ok ((n.letter, some v), false)
      | .yes, none, some v => .ok ((n.letter, some v), true)
      | .yes, none, none => .error ("option '--" ++ n.name ++ "' requires an argument")

/-- Read arguments from the left. The first argument bounds their number. -/
def readFrom (s : Switches) : Nat → List String → Reading
  | 0, _ => {}
  | _ + 1, [] => {}
  | fuel + 1, arg :: rest =>
    match arg.toList with
    | ['-', '-'] => { operands := rest }
    | '-' :: '-' :: name =>
      match s.longName rest.head? (String.ofList name) with
      | .error complaint => { complaint := some complaint }
      | .ok (option, takes) =>
        (readFrom s fuel (if takes then rest.drop 1 else rest)).before [option]
    | '-' :: c :: cs =>
      match s.letterGroup rest.head? (c :: cs) with
      | (options, some complaint, _) => { options, complaint := some complaint }
      | (options, none, takes) =>
        (readFrom s fuel (if takes then rest.drop 1 else rest)).before options
    | _ =>
      if s.strict then { operands := arg :: rest }
      else
        let r := readFrom s fuel rest
        { r with operands := arg :: r.operands }

/-- The options and operands among some arguments. -/
def read (s : Switches) (args : List String) : Reading :=
  s.readFrom (args.length + 1) args

end Switches

end Shell
