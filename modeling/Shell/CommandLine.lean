import Shell.ReadLoop

/-!
# The command line of the shell

A single line with `-c`, or a session that reads standard input. The history file is an option or
the variable `HISTFILE`; an empty name means none.
-/

namespace Shell

namespace CommandLine

def grammar : Grammar where
  command := "pipeshell"
  summary := "A small interactive shell with pipes and redirections."
  flags := [
    { long := "histfile"
      help := "history file read at start-up and appended to on exit; overrides $HISTFILE." },
    { long := "prompt", help := "text printed before each input line." },
    { long := "command", short := some "c"
      help := "run a single command line and exit with its status." },
    { long := "plain", takesValue := false
      help := "read plain lines from standard input even on a terminal." }]

/-- The prompt when none is given. -/
def defaultPrompt : String := "$ "

/-- The status of an editor session whose input could not be read. -/
def editorFailure : Nat := 99

/-- Print text on standard output. -/
def printOut (m : Machine) (text : String) : Machine :=
  { m with session := m.session.writeOut (encode text) }

/-- Print text on standard error. -/
def printErr (m : Machine) (text : String) : Machine :=
  { m with session := m.session.writeErr (encode text) }

/-- A session in the directory of the shell's own process, with the variables that it was started
with. -/
def interpreter (vars : Variables) (m : Machine) : Interpreter :=
  let here := (⟨true, m.base⟩ : Path).text
  { context := .start here here vars.received, machine := m }

/-- Run a session over standard input. -/
def session (programs : Programs) (a : Arguments) (sh : Interpreter) : Nat × Machine :=
  let histfile := (a.value? "histfile").orElse fun _ => sh.context.var "HISTFILE"
  let sh := match histfile.filter (· ≠ "") with
    | some file => sh.loadHistory file
    | none => sh
  match runStdin programs stdinSource ((a.value? "prompt").getD defaultPrompt) sh with
  | (.ok (), sh) => (0, sh.machine)
  | (.error reason, sh) => (1, printErr sh.machine ("Error: " ++ reason ++ "\n"))

/-- Run the shell with arguments and variables until it ends. The result is its status. -/
def runShell (programs : Programs) (args : List String) (vars : Variables) (m : Machine) :
    Nat × Machine :=
  match grammar.parse args with
  | .error e =>
    (1, printErr m (e.message ++ "\nRun " ++ grammar.command ++ " --help for more information.\n"))
  | .ok a =>
    if a.help then (0, printOut m (grammar.usage ++ "\n"))
    else
      let sh := interpreter vars m
      match a.value? "command" with
      | some line =>
        let (_, sh) := sh.evaluate programs line
        (sh.lastStatus, sh.machine)
      | none => session programs a sh

/-- Run the shell with arguments and variables. Its streams are read until nobody writes to them any
more, which can be later than its end. -/
def run (programs : Programs) (args : List String) (vars : Variables) (m : Machine) :
    Nat × Machine :=
  let (status, m) := runShell programs args vars m
  (status, m.drain programs)

/-- Run a session whose lines come from a line editor without a terminal. -/
def runEditor (programs : Programs) (prompt : String) (vars : Variables) (m : Machine) :
    Nat × Machine :=
  let sh := interpreter vars m
  let showsPrompt := (sh.context.var "TERM").any isPlainTerminal
  match runStdin programs (editorSource showsPrompt) prompt sh with
  | (.ok (), sh) => (0, sh.machine.drain programs)
  | (.error reason, sh) => (editorFailure, (printErr sh.machine (reason ++ "\n")).drain programs)

end CommandLine

end Shell
