import Shell.Script.Builtin.Basic

/-!
# The directory and the limits of a script

The commands that change and tell the directory of a script, and those for the permissions and
limits that its programs get.
-/

namespace Shell

namespace Script

namespace Builtin

/-! ### Directories -/

/-- The path that leads from a directory along another path, by their words alone: a dot is left
out, and two dots take back the step before. -/
def logicalPath (here path : String) : String :=
  let isAbsolute := startsWithText "/" path
  -- Exactly two slashes in front are kept.
  let lead := if startsWithText "//" path && !startsWithText "///" path then "//" else "/"
  let lead := if isAbsolute then lead else if startsWithText "//" here then "//" else "/"
  let start := if isAbsolute then [] else (splitText '/' here).filter (· ≠ "")
  let steps := (splitText '/' path).foldl (fun steps step =>
    if step = "" || step = "." then steps
    else if step = ".." then steps.dropLast
    else steps ++ [step]) start
  lead ++ joinText "/" steps

/-- Remember the directory by a path, and the last one. -/
def rename (here : String) (old : Option String) : Sh Unit := do
  match old with
  | some old => Sh.assign "OLDPWD" old true
  | none => pure ()
  Sh.modify fun s => { s with here }
  Sh.assign "PWD" here true

/-- Go to a directory. With `physical` its path is the one without links. -/
def enter (path : String) (physical : Bool) : Sh Bool := do
  let s ← Sh.get
  let logical := logicalPath s.here path
  match ← Sh.ask (.enter (if physical then path else logical)) with
  | .error _ => return false
  | .ok () =>
    let here ← if physical then Sh.ask .directory else pure logical
    rename here (some s.here)
    return true

/-- The path begins with a dot step. -/
def isDotted (path : String) : Bool :=
  match path.toList with
  | ['.'] | '.' :: '/' :: _ | ['.', '.'] | '.' :: '.' :: '/' :: _ => true
  | _ => false

/-- The directories in which another one is looked for. -/
def firstDirectory : List String → Sh (Option String)
  | [] => pure none
  | path :: rest => do
    match ← Sh.ask (.inspect path true) with
    | .ok { entry := .directory, .. } => pure (some path)
    | _ => firstDirectory rest

/-- Change the directory. -/
def cd (args : List String) : Sh Nat := do
  let a ← arguments [('L', false), ('P', false)] args
  let physical := (a.options.getLast?.map Prod.fst) = some 'P'
  let s ← Sh.get
  let (target, shows) := match a.operands with
    | [] => ((s.value? "HOME").getD "", false)
    | "-" :: _ => ((s.value? "OLDPWD").getD "", true)
    | target :: _ => (target, false)
  let fails : Sh Nat := Sh.fail ("can't cd to " ++ target)
  let answer (shows : Bool) : Sh Nat := do
    if shows then return ← print ((← Sh.get).here ++ "\n")
    return 0
  if startsWithText "/" target || isDotted target then
    if ← enter target physical then answer shows else fails
  else
    let target := if target = "" then "." else target
    match s.value? "CDPATH" with
    | none => if ← enter target physical then answer shows else fails
    | some list =>
      let places := (splitText ':' list).map fun dir =>
        if dir = "" then target else dir ++ "/" ++ target
      match ← firstDirectory places with
      | some path =>
        if ← enter path physical then answer (shows || path ≠ target) else fails
      | none => if ← enter target physical then answer shows else fails

/-- Print the directory. -/
def pwd (args : List String) : Sh Nat := do
  let a ← arguments [('L', false), ('P', false)] args
  if (a.options.getLast?.map Prod.fst) = some 'P' then print ((← Sh.ask .directory) ++ "\n")
  else print ((← Sh.get).here ++ "\n")

/-! ### Permissions and limits -/

/-- A number in octal digits, with zeros in front up to four. -/
def octalText (n : Nat) : String :=
  let digits := Nat.toDigits 8 n
  String.ofList (List.replicate (4 - digits.length) '0' ++ digits)

/-- The permissions that are given, in letters. -/
def permissionText (mask : Nat) : String :=
  let one (who : Char) (shift : Nat) : String :=
    let bits := 7 - (mask >>> shift) % 8
    String.ofList ([who, '='] ++ (if bits &&& 4 ≠ 0 then ['r'] else []) ++
      (if bits &&& 2 ≠ 0 then ['w'] else []) ++ (if bits &&& 1 ≠ 0 then ['x'] else []))
  joinText "," [one 'u' 6, one 'g' 3, one 'o' 0]

/-- Tell or set the permissions that new files do not get. -/
def umask (args : List String) : Sh Nat := do
  let a ← arguments [('S', false)] args
  match a.operands with
  | [] =>
    let mask ← Sh.ask (.mask 0)
    let _ ← Sh.ask (.mask mask)
    print ((if a.has 'S' then permissionText mask else octalText mask) ++ "\n")
  | text :: _ =>
    if text.toList.all (isDigitIn 8) && text ≠ "" then
      let _ ← Sh.ask (.mask (numeral 8 text.toList % 512))
      return 0
    else if text.toList.head?.any Char.isDigit then Sh.fail ("Illegal number: " ++ text)
    else Sh.fail ("Illegal mode: " ++ text)

/-- Tell the limits, of which there are none. -/
def ulimit (args : List String) : Sh Nat :=
  if args.any fun a => !startsWithText "-" a then pure 0 else print "unlimited\n"

end Builtin

end Script

end Shell
