import Shell.Script.State
import Shell.Text.Join

/-!
# Finding commands

What a command name stands for: a function, a command of the shell itself, or a program in one of
the directories of the variable `PATH`.
-/

namespace Shell

namespace Script

/-- The commands of the shell itself that need not be in the scope of any function. -/
def regularBuiltins : List String :=
  ["[", "alias", "bg", "cd", "chdir", "command", "echo", "false", "fg", "getopts", "hash", "jobs",
   "kill", "local", "printf", "pwd", "read", "test", "true", "type", "ulimit", "umask", "unalias",
   "wait"]

/-- The commands of the shell whose errors end a script. -/
def isSpecialBuiltin (name : String) : Bool :=
  Parse.specialBuiltins.contains name || name = "local"

def isBuiltin (name : String) : Bool :=
  Parse.specialBuiltins.contains name || regularBuiltins.contains name

/-- What a command name stands for. -/
inductive Target
  | function (body : Node)
  | builtin
  /-- A program at a path. -/
  | program (path : String)
  /-- Nothing, for this reason. -/
  | unknown (reason : Errno)

/-- The words for a failure to run, open or create a file; `missing` stands for a missing file. -/
def reasonText (missing : String) (e : Errno) : String :=
  if e = .noEntry || e = .notDirectory then missing else e.text

namespace Sh

/-- The paths at which a name is looked for. -/
def pathsFor (path name : String) : List String :=
  (splitText ':' path).map fun dir => if dir = "" then name else dir ++ "/" ++ name

/-- The first of some paths that leads to a program. -/
def firstProgram : Errno → List String → Sh (Except Errno String)
  | reason, [] => pure (.error reason)
  | reason, path :: rest => do
    match ← ask (.inspect path true) with
    | .error e => firstProgram (if e = .noEntry || e = .notDirectory then reason else e) rest
    | .ok status =>
      if status.entry.isFile && status.entry.mayRun then pure (.ok path)
      else firstProgram .permissionDenied rest

/-- Find what a command name stands for. -/
def find (name : String) (functions : Bool := true) (path : Option String := none) :
    Sh Target := do
  let s ← get
  if containsChar '/' name then return .program name
  match if functions then s.functions.lookup name else none with
  | some body => return .function body
  | none =>
    if isBuiltin name then return .builtin
    match if path.isNone then s.found.lookup name else none with
    | some p => return .program p
    | none =>
      match ← firstProgram .noEntry (pathsFor (path.getD s.path) name) with
      | .error e => return .unknown e
      | .ok p =>
        if path.isNone then modify fun s => { s with found := s.found ++ [(name, p)] }
        return .program p

end Sh

end Script

end Shell
