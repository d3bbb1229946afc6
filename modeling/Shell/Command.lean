import Shell.Context
import Shell.Error

/-!
# Commands

A command is a name with arguments. Its name is looked up when the line is read, among the builtins
and among the programs of the file system, and the result is kept with it.
-/

namespace Shell

/-- The commands that the shell carries out itself. -/
inductive Builtin
  | echo
  | exit
  | type
  | pwd
  | cd
  | history
  deriving DecidableEq, Repr

namespace Builtin

def all : List Builtin := [.echo, .exit, .type, .pwd, .cd, .history]

def name : Builtin → String
  | .echo => "echo"
  | .exit => "exit"
  | .type => "type"
  | .pwd => "pwd"
  | .cd => "cd"
  | .history => "history"

/-- The builtin of this name. -/
def ofName? (name : String) : Option Builtin :=
  all.find? fun b => b.name = name

@[simp] theorem ofName?_name (b : Builtin) : ofName? b.name = some b := by
  cases b <;> decide

theorem name_of_ofName? {name : String} {b : Builtin} (h : ofName? name = some b) :
    b.name = name := by
  simpa using List.find?_some h

/-- The table of names in which commands are looked up before there is a builtin for them. -/
def names : List String := ["echo", "exit", "type", "pwd", "cd", "history"]

/-- The name stands in the table. -/
def isNamed (name : String) : Bool :=
  names.contains name

/-- The table has the names of all builtins and no others. -/
theorem names_eq : names = all.map name := rfl

theorem isSome_ofName?_iff (name : String) : (ofName? name).isSome = true ↔ name ∈ names := by
  rw [names_eq, List.mem_map, ofName?, List.find?_isSome]
  simp

/-- What stands in the table can be carried out, and nothing else. -/
@[simp] theorem isNamed_eq (name : String) : isNamed name = (ofName? name).isSome := by
  rw [Bool.eq_iff_iff, isSome_ofName?_iff, isNamed, List.contains_iff_mem]

end Builtin

/-- One stage of a pipeline after its name was looked up. -/
structure Command where
  /-- Missing for a segment of the line that has no word. -/
  name : Option String
  args : List String := []
  /-- The program that the name leads to. -/
  program : Option String := none
  builtin : Bool := false
  runnable : Bool := false
  /-- The working directory when the line was read. -/
  workspace : String
  deriving DecidableEq, Repr

namespace Command

/-- The stage of a segment without words. -/
def blank (workspace : String) : Command :=
  { name := none, workspace }

/-- The name in messages. -/
def displayName (c : Command) : String :=
  c.name.getD ""

end Command

/-- What carries out a command. -/
inductive Runner
  | builtin (builtin : Builtin)
  | external
  deriving DecidableEq, Repr

/-- What carries out this command. -/
def Command.runner (c : Command) : Except Error Runner :=
  if !c.runnable then .error (.commandNotFound c.displayName)
  else if c.builtin then
    match c.name.bind Builtin.ofName? with
    | some b => .ok (.builtin b)
    | none => .error (.commandNotFound c.displayName)
  else .ok .external

end Shell
