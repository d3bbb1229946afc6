import Shell.Command.Search
import Shell.Options.Usage
import Shell.Text.Number

/-!
# Builtins

Each builtin reads its arguments and then works at a desk, where it reads and saves files and prints
texts. Either may fail. A builtin ends with the first failure, and what it did before stays done.
-/

namespace Shell

/-- What a builtin works at: the files, and two streams to print on. -/
structure Desk (σ : Type) extends Disk σ where
  /-- Print a text on a stream. -/
  print : OutputStream → String → StateM σ (Except IoError Unit)

/-- Why a builtin failed. -/
inductive Failure
  | reason (text : String)
  /-- A file could not be read or saved. It is named as in the arguments. -/
  | file (name : String) (cause : IoError)
  /-- A text could not be printed. -/
  | output (cause : IoError)
  deriving DecidableEq, Repr

namespace Failure

def message : Failure → String
  | .reason text => text
  | .file name cause => name ++ ": " ++ cause.message
  | .output cause => cause.message

/-- The failure of an input or output operation behind it. -/
def cause? : Failure → Option IoError
  | .reason _ => none
  | .file _ cause => some cause
  | .output cause => some cause

/-- Nobody reads any more what was written. -/
def isBrokenPipe (f : Failure) : Bool :=
  f.cause? = some (.os .brokenPipe)

end Failure

namespace Builtin

/-- The status of a builtin whose output nobody reads any more: that of a broken pipe signal. -/
def brokenPipeStatus : Nat := 128 + 13

/-- The result of a builtin as the result of a command. -/
def outcome (b : Builtin) : Except Failure Nat → Except Error Nat
  | .ok status => .ok status
  | .error f =>
    if f.isBrokenPipe then .ok brokenPipeStatus else .error (.builtin b.name f.message)

/-- The grammar of the builtins that take options. `echo` prints all its arguments as they are. -/
def grammar : Builtin → Grammar
  | .echo => { command := "echo", summary := "", positional := .greedy "words" }
  | .exit =>
    { command := "exit"
      summary := "Exit the shell, saving pending history to the history file."
      positional := .greedy "status" }
  | .type =>
    { command := "type"
      summary := "Describe how each name would be interpreted as a command."
      positional := .greedy "names" }
  | .pwd =>
    { command := "pwd"
      summary := "Print the current working directory to standard output." }
  | .cd =>
    { command := "cd"
      summary := "Change the current working directory. If no target is provided, changes to " ++
        "the directory specified by the HOME environment variable."
      positional := .optional "target"
        "directory to switch to, absolute or relative; defaults to $HOME" }
  | .history =>
    { command := "history"
      summary := "Display the command history or copy it to and from a file."
      flags := [
        { long := "read", short := some "r"
          help := "append the lines of this file to the history." },
        { long := "write", short := some "w", help := "write the whole history to this file." },
        { long := "append", short := some "a"
          help := "append entries not yet saved to this file." }]
      positional := .optional "count" "how many of the most recent entries to show." }

/-- What `echo` prints for its arguments: the arguments with blanks between them, and a line feed
unless the first is `-n`. -/
def echoText : List String → String
  | "-n" :: rest => joinText " " rest
  | args => joinText " " args ++ "\n"

/-- How a name would be taken as a command. -/
inductive Description
  | builtin
  | program (path : String)
  | notFound
  deriving DecidableEq, Repr

/-- How a name would be taken as a command. -/
def describe (ctx : Context) (fs : FileSystem) (name : String) : Description :=
  if isNamed name then .builtin
  else match ctx.findExecutable fs name with
    | some path => .program path
    | none => .notFound

/-- The line that `type` prints for a name. -/
def Description.line (name : String) : Description → String
  | .builtin => name ++ " is a shell builtin\n"
  | .program path => name ++ " is " ++ path ++ "\n"
  | .notFound => name ++ ": not found\n"

/-- The directory that `cd` is to go to: its argument, or else the home directory. -/
def cdTarget? (target : Option String) (home : Option String) : Option String :=
  match target.filter (· ≠ "") with
  | some t => some (Path.expandTilde t home)
  | none => home.filter (· ≠ "")

/-- How many entries `history` prints for its argument; one that is not a positive number prints
none. -/
def historyLimit (count : String) : Nat :=
  match signedWord? count with
  | some n => n.toNat
  | none => 0

/-- Read the arguments of `history`. A negative number alone is a count and not an option. -/
def parseHistory (args : List String) : Except OptionError Arguments :=
  match args with
  | [count] =>
    if startsWithText "-" count && (signedWord? count).isSome then
      .ok { positionals := [count] }
    else (grammar .history).parse args
  | _ => (grammar .history).parse args

/-- Sort the arguments of a builtin. -/
def parseArguments (b : Builtin) (args : List String) : Except OptionError Arguments :=
  match b with
  | .echo => .ok { positionals := args }
  | .history => parseHistory args
  | _ => b.grammar.parse args

end Builtin

/-- What the options of `history` ask for, in the order in which it is done. -/
def Disk.operations {σ : Type} (d : Disk σ) :
    List (String × (History → String → StateM σ (Except IoError Unit × History))) :=
  [("read", History.readFile d), ("write", History.writeFile d), ("append", History.appendFile d)]

namespace Desk

open Builtin (describe)

variable {σ : Type} (d : Desk σ)

/-- Print a text and end with a status. -/
def conclude (stream : OutputStream) (text : String) (status : Nat) (ctx : Context) :
    StateM σ (Except Failure Nat × Context) := do
  match ← d.print stream text with
  | .error cause => pure (.error (.output cause), ctx)
  | .ok () => pure (.ok status, ctx)

/-- Ask the session to end. -/
def exit (ctx : Context) : StateM σ (Except Failure Nat × Context) := do
  let ctx ← ctx.requestExit d.toDisk
  pure (.ok 0, ctx)

/-- Say of each name how it would be taken. The status tells of names that were not found. -/
def type (ctx : Context) (status : Nat) :
    List String → StateM σ (Except Failure Nat × Context)
  | [] => pure (.ok status, ctx)
  | name :: names => do
    let found := describe ctx (d.files (← get)) name
    match ← d.print .stdout (found.line name) with
    | .error cause => pure (.error (.output cause), ctx)
    | .ok () => type ctx (if found = .notFound then 1 else status) names

/-- Change the working directory. -/
def cd (target : Option String) (ctx : Context) : StateM σ (Except Failure Nat × Context) := do
  match Builtin.cdTarget? target ctx.home with
  | none => pure (.error (.reason "HOME not set"), ctx)
  | some target =>
    match ctx.setWorkspace (d.files (← get)) target with
    | .ok ctx => pure (.ok 0, ctx)
    | .error _ =>
      d.conclude .stdout ("cd: " ++ target ++ ": No such file or directory\n") 1 ctx

/-- Do what is asked for by the options that were given, up to the first failure. -/
def historyFiles (a : Arguments) (ctx : Context) :
    List (String × (History → String → StateM σ (Except IoError Unit × History))) →
    StateM σ (Except Failure Unit × Context)
  | [] => pure (.ok (), ctx)
  | (option, operate) :: rest =>
    match a.value? option with
    | none => historyFiles a ctx rest
    | some file => do
      let (result, history) ← operate ctx.history (ctx.resolvePath file).text
      match result with
      | .error cause => pure (.error (.file file cause), { ctx with history })
      | .ok () => historyFiles a { ctx with history } rest

/-- Print the history, or copy it from and to files, in which case nothing is printed. -/
def history (a : Arguments) (ctx : Context) : StateM σ (Except Failure Nat × Context) := do
  if a.values.isEmpty then
    let text := ctx.history.format (a.positionals.head?.map Builtin.historyLimit)
    d.conclude .stdout text 0 ctx
  else
    let (result, ctx) ← historyFiles a ctx d.operations
    match result with
    | .error failure => pure (.error failure, ctx)
    | .ok () => pure (.ok 0, ctx)

/-- Carry out a builtin with arguments that fit its grammar. -/
def act (b : Builtin) (a : Arguments) (ctx : Context) :
    StateM σ (Except Failure Nat × Context) :=
  match b with
  | .echo => d.conclude .stdout (Builtin.echoText a.positionals) 0 ctx
  | .exit => d.exit ctx
  | .type => d.type ctx 0 a.positionals
  | .pwd => d.conclude .stdout (ctx.workspace.text ++ "\n") 0 ctx
  | .cd => d.cd a.positionals.head? ctx
  | .history => d.history a ctx

/-- Carry out a builtin. Arguments that do not fit change nothing and are an error of status one;
asking for help prints the usage text. -/
def execute (b : Builtin) (args : List String) (ctx : Context) :
    StateM σ (Except Failure Nat × Context) :=
  match b.parseArguments args with
  | .error e => d.conclude .stderr e.message 1 ctx
  | .ok a =>
    if a.help then d.conclude .stdout b.grammar.usage 0 ctx else d.act b a ctx

end Desk

end Shell
