import Shell.Script.Evaluate

/-!
# The program `sh`

How a script begins: the variables it gets, the options of the program, and where the commands come
from: an argument, a file or standard input.
-/

namespace Shell

namespace Script

/-- The variables that a script has from the beginning. -/
def initialVariables (parent : Nat) : List (String × Variable) :=
  [("PS1", { value := some "$ " }), ("PS2", { value := some "> " }),
   ("PS4", { value := some "+ " }), ("PATH", { value := some standardPath }),
   ("IFS", { value := some " \t\n" }), ("OPTIND", { value := some "1" }),
   ("PPID", { value := some (toString parent) })]

/-- The variables that no other program can set. -/
def ownVariables : List String := ["IFS", "OPTIND", "PPID"]

namespace Sh

/-- Take over the variables that the program was started with, as far as they can be variables. -/
def importVariables : List String → Sh Unit
  | [] => pure ()
  | entry :: rest => do
    let (name, value) := Builtin.nameAndValue entry
    if isName name && value.isSome && !ownVariables.contains name then
      modify fun s => s.putVariable name { value, exported := true }
    importVariables rest

/-- Find out the name of the directory: the one that was told, if it leads there. -/
def initDirectory : Sh Unit := do
  let told := ((← get).value? "PWD").getD ""
  let isHere ← if !startsWithText "/" told then pure false else do
    let a ← ask (.inspect told true)
    let b ← ask (.inspect "." true)
    pure (match a, b with
      | .ok a, .ok b => a.location.isSome && a.location = b.location
      | _, _ => false)
  let here ← if isHere then pure told else ask .directory
  modify fun s => { s with here }
  assign "PWD" here true

/-- What the options of the program ask for, and the arguments behind them. -/
structure Orders where
  /-- The first argument is the script. -/
  isText : Bool := false
  args : List String := []

/-- The options of a word of letters. -/
def startLetters (on : Bool) : List Char → Orders → Sh Orders
  | [], r => pure r
  | 'c' :: cs, r => startLetters on cs { r with isText := true }
  | 'l' :: cs, r => startLetters on cs r
  | 'o' :: cs, r => do
    match r.args with
    | [] => startLetters on cs r
    | name :: rest => do
      Builtin.setNamedOption name on
      startLetters on cs { r with args := rest }
  | c :: cs, r => do
    Builtin.setOption c on
    startLetters on cs r

/-- The options of the program. The first argument bounds their number. -/
def startOptions : Nat → Orders → Sh Orders
  | 0, r => pure r
  | fuel + 1, r => do
    match r.args with
    | [] => pure r
    | arg :: rest =>
      match arg.toList with
      | ['-'] | ['-', '-'] => pure { r with args := rest }
      | '-' :: cs => do
        let r ← startLetters true cs { r with args := rest }
        startOptions fuel r
      | '+' :: cs => do
        let r ← startLetters false cs { r with args := rest }
        startOptions fuel r
      | _ => pure r

/-- Run the script that the arguments of the program name. -/
def start (inv : Invocation) : Sh Unit := do
  importVariables inv.vars
  initDirectory
  let r ← startOptions (inv.args.length + 1) { args := inv.args }
  let fuel := Parse.patience
  if r.isText then
    match r.args with
    | [] => fail "-c requires an argument"
    | text :: rest =>
      modify fun s => { s with name := rest.head?.getD s.name, args := rest.drop 1 }
      let _ ← runText fuel text
  else
    match if ← hasOption 's' then none else r.args.head? with
    | none =>
      Builtin.setOption 's' true
      modify fun s => { s with args := r.args }
      let _ ← commandsFrom fuel {} (some 0) { chars := [], isFinal := false } 0
    | some path =>
      let stream ← openScript path
      modify fun s => { s with name := path, args := r.args.drop 1 }
      let _ ← commandsFrom fuel {} (some stream) { chars := [], isFinal := false } 0

end Sh

/-- What the program `sh` does. -/
def sh (inv : Invocation) : Proc :=
  (do
    let (id, parent) ← Sh.ask .identity
    Sh.modify fun s => { s with process := id, vars := initialVariables parent }
    let _ ← Sh.attempt (Sh.start inv)
    Sh.runExitTrap Parse.patience : Sh Unit) { name := inv.name } fun _ s => .exit s.status

end Script

end Shell
