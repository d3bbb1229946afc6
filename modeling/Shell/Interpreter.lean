import Shell.Execute

/-!
# Interpreter

A session in progress: lines are recorded in the history, read and executed one by one against one
context and one machine.
-/

namespace Shell

/-- What the read loop does after a line. -/
inductive Flow
  | next
  | exit
  deriving DecidableEq, Repr

structure Interpreter where
  context : Context
  machine : Machine
  lastStatus : Nat := 0

namespace Interpreter

/-- The flow that the context asks for. -/
def flow (sh : Interpreter) : Flow :=
  if sh.context.exiting then .exit else .next

/-- The result of a line against a context in which it is already recorded. -/
def runLine (programs : Programs) (line : String) (ctx : Context) :
    StateM Machine (Except Error Nat × Context) := do
  match Pipeline.parse ctx (← get).files line with
  | .error e => pure (.error e, ctx)
  | .ok pipeline => Machine.execute programs pipeline ctx

/-- Record, read and execute a line. An error is reported and decides the status. -/
def evaluate (programs : Programs) (line : String) (sh : Interpreter) : Flow × Interpreter :=
  let ((result, context), machine) := runLine programs line (sh.context.record line) sh.machine
  let sh : Interpreter := match result with
    | .ok status => { context, machine, lastStatus := status }
    | .error e =>
      { context, machine := { machine with session := machine.session.report e }
        lastStatus := e.status }
  (sh.flow, sh)

/-- Read the history file of the last session. -/
def loadHistory (file : String) (sh : Interpreter) : Interpreter :=
  let (context, machine) := sh.context.loadHistory Machine.disk file sh.machine
  { sh with context, machine }

/-- End the session as `exit` does. -/
def finish (sh : Interpreter) : Interpreter :=
  if sh.context.exiting then sh
  else
    let (context, machine) := sh.context.requestExit Machine.disk sh.machine
    { sh with context, machine }

end Interpreter

end Shell
