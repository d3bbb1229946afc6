import Shell.Script.Builtin.Basic
import Shell.Script.Search

/-!
# Names of commands

The commands that tell what a name stands for and that give names to texts.
-/

namespace Shell

namespace Script

namespace Builtin

/-! ### Aliases -/

def aliasLine (name text : String) : String := name ++ "=" ++ quoted text ++ "\n"

/-- Give names to texts or list them. -/
def aliasNames (args : List String) : Sh Nat := do
  if args.isEmpty then
    let all := (← Sh.get).aliases.mergeSort fun a b => !decide (b.1 < a.1)
    return ← print (String.join (all.map fun (name, text) => aliasLine name text))
  aliasEach 0 args
where
  /-- Handle one argument after the other. -/
  aliasEach (status : Nat) : List String → Sh Nat
    | [] => pure status
    | arg :: rest => do
      -- The sign that divides name and text is not the first character.
      let name := arg.toList.take 1 ++ (arg.toList.drop 1).takeWhile (· ≠ '=')
      if name.length < arg.length then do
        let entry := (String.ofList name, String.ofList (arg.toList.drop (name.length + 1)))
        Sh.modify fun s =>
          { s with aliases := s.aliases.filter (fun a => a.1 ≠ entry.1) ++ [entry] }
        aliasEach status rest
      else
        match (← Sh.get).aliases.lookup arg with
        | some text => do
          let code ← print (aliasLine arg text)
          aliasEach (max status code) rest
        | none => do
          let _ ← Sh.write 2 ("alias: " ++ arg ++ " not found\n")
          aliasEach 1 rest

/-- Forget texts by their names. -/
def unalias (args : List String) : Sh Nat := do
  let a ← arguments [('a', false)] args
  if a.has 'a' then
    Sh.modify fun s => { s with aliases := [] }
    return 0
  unaliasEach 0 a.operands
where
  unaliasEach (status : Nat) : List String → Sh Nat
    | [] => pure status
    | name :: rest => do
      if ((← Sh.get).aliases.lookup name).isSome then
        Sh.modify fun s => { s with aliases := s.aliases.filter fun a => a.1 ≠ name }
        unaliasEach status rest
      else
        let _ ← Sh.write 2 ("unalias: " ++ name ++ " not found\n")
        unaliasEach 1 rest

/-! ### Descriptions -/

/-- What a name stands for, in words or as something to run, and the status. -/
def describe (verbose : Bool) (name : String) : Sh (String × Nat) := do
  let s ← Sh.get
  let say (words short : String) : String × Nat :=
    (if verbose then name ++ words ++ "\n" else short ++ "\n", 0)
  if keywords.contains name then return say " is a shell keyword" name
  match s.aliases.lookup name with
  | some text =>
    return if verbose then say (" is an alias for " ++ text) ""
      else ("alias " ++ aliasLine name text, 0)
  | none =>
    let known := (s.found.lookup name).isSome
    let target ← Sh.find name
    if !known then Sh.modify fun t => { t with found := s.found }
    let unknown : String × Nat := (if verbose then name ++ ": not found\n" else "", 127)
    match target with
    | .function _ => return say " is a shell function" name
    | .builtin =>
      return say (if isSpecialBuiltin name then " is a special shell builtin"
        else " is a shell builtin") name
    | .unknown _ => return unknown
    | .program path =>
      if containsChar '/' name then
        match ← Sh.ask (.inspect name true) with
        | .error _ => return unknown
        | .ok _ => return say (" is " ++ name) name
      return say (" is " ++ (if known then "a tracked alias for " else "") ++ path) path

/-- Tell what names stand for. -/
def describeAll (verbose : Bool) : Nat → List String → Sh Nat
  | status, [] => pure status
  | status, name :: rest => do
    let (text, code) ← describe verbose name
    let written ← print text
    describeAll verbose (status ||| code ||| written) rest

def typeNames (args : List String) : Sh Nat := do
  let a ← arguments [] args
  describeAll true 0 a.operands

/-- The place of a name in the order in which the programs that were found are told. -/
def bucket (name : String) : Nat :=
  let codes := name.toList.map Char.toNat
  (codes.head?.getD 0 * 16 + codes.foldl (· + ·) 0) % 32768 % 31

/-- List the programs that were found, or look for programs. -/
def hash (args : List String) : Sh Nat := do
  let a ← arguments [('r', false)] args
  if a.has 'r' then
    Sh.modify fun s => { s with found := [] }
    return 0
  if a.operands.isEmpty then
    let found := (← Sh.get).found.mergeSort fun a b => decide (bucket a.1 ≤ bucket b.1)
    return ← print (String.join (found.map fun f => f.2 ++ "\n"))
  hashEach 0 a.operands
where
  hashEach (status : Nat) : List String → Sh Nat
    | [] => pure status
    | name :: rest => do
      match ← Sh.find name with
      | .unknown e => do
        Sh.warn (name ++ ": " ++ reasonText "not found" e)
        hashEach 1 rest
      | _ => hashEach status rest

end Builtin

end Script

end Shell
