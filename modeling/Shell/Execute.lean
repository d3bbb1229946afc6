import Shell.Machine.Host
import Shell.Pipeline

/-!
# Executing a pipeline

Nothing is run unless every stage can be. A redirection to a file opens the file before anything
is run. A redirection to a name that leads to a command runs the stages first and then that
command, with the words of what they printed as its arguments.
-/

namespace Shell

namespace Machine

variable (programs : Programs)

/-- The sinks of the last stage when `stream` is redirected to `sink`. -/
def redirected (stream : OutputStream) (sink : Sink) : Sink × Sink :=
  match stream with
  | .stdout => (sink, .sessionErr)
  | .stderr => (.sessionOut, sink)

/-- Run stages with their words going to `target`: what they print on `stream` becomes its
arguments. -/
def runInto (stages : List Command) (stream : OutputStream) (target : Command) (ctx : Context) :
    StateM Machine (Except Error Nat × Context) := do
  let before := (← get).capture
  modify fun m => { m with capture := [] }
  let (output, errors) := redirected stream .capture
  let (result, ctx) ← (host programs).runStages stages output errors ctx
  let text := decodeLossy (← get).capture
  modify fun m => { m with capture := before }
  match result with
  | .error e => pure (.error e, ctx)
  | .ok _ =>
    (host programs).runStages [{ target with args := words text }] .sessionOut .sessionErr ctx

/-- The name of the last stage. -/
def lastName (stages : List Command) : String :=
  (stages.getLast?.map Command.displayName).getD ""

/-- Run stages with `stream` going to a file. -/
def runToFile (stages : List Command) (r : Redirection) (ctx : Context) :
    StateM Machine (Except Error Nat × Context) := do
  let path := (ctx.resolvePath r.target).text
  match (← get).files.openFile [] path (.write r.mode) with
  | .error e => pure (.error (.redirection (lastName stages) path e), ctx)
  | .ok (f, files) => do
    modify fun m => { m with files }
    let (output, errors) := redirected r.stream (.file f r.mode)
    (host programs).runStages stages output errors ctx

/-- Execute a pipeline. The status is that of its last stage. -/
def execute (p : Pipeline) (ctx : Context) : StateM Machine (Except Error Nat × Context) := do
  if p.isNoop then pure (.ok 0, ctx)
  else match p.stages.find? fun c => !c.runnable with
    | some c => pure (.error (.commandNotFound c.displayName), ctx)
    | none =>
      match p.redirection with
      | none => (host programs).runStages p.stages .sessionOut .sessionErr ctx
      | some r => do
        let target := ctx.resolve (← get).files r.target
        if target.runnable then runInto programs p.stages r.stream target ctx
        else runToFile programs p.stages r ctx

end Machine

end Shell
