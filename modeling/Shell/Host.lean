import Shell.Command
import Shell.FileSystem.Access

/-!
# Running the stages of a pipeline

The stages of a pipeline are wired to each other by pipes, started from left to right, and brought
to an end: the last stage is waited for, then the others are stopped and waited for. How stages
are started, stopped and waited for is the business of a host, which is a parameter here.

A single stage runs in place and its builtin sees the live context. Stages that are all programs
are spawned one after the other. In any other pipeline each builtin is given to a worker, with a
context of its own.
-/

namespace Shell

/-- Where a stage reads. -/
inductive Source
  | session
  | pipe (id : Nat)
  | file (file : OpenFile)
  deriving DecidableEq, Repr

/-- Where a stream of a stage is written. -/
inductive Sink
  | sessionOut
  | sessionErr
  | pipe (id : Nat)
  | file (file : OpenFile) (mode : WriteMode)
  /-- A buffer whose words become the arguments of a command. -/
  | capture
  /-- A pipe whose reader has gone away. -/
  | closed
  deriving DecidableEq, Repr

/-- The streams of a stage. -/
structure Streams where
  input : Source
  output : Sink
  errors : Sink
  deriving DecidableEq, Repr

/-- What starts, stops and waits for stages. Processes and workers are known by handles. -/
structure Host (σ ρ ω : Type) where
  /-- Make a pipe; the result is its number. -/
  makePipe : StateM σ (Except IoError Nat)
  /-- Start the program of a command. -/
  spawn : Command → Streams → Context → StateM σ (Except Error ρ)
  isRunning : ρ → StateM σ Bool
  kill : ρ → StateM σ Unit
  wait : ρ → StateM σ (Except Error Nat)
  /-- Give a builtin to a worker, with a context of its own. -/
  work : Builtin → Command → Streams → Context → StateM σ (Except Error ω)
  join : ω → StateM σ (Except Error Nat)
  /-- Carry out a builtin on the live context. -/
  perform : Builtin → Command → Streams → Context → StateM σ (Except Error Nat × Context)
  /-- Print the message of an error. -/
  report : Error → StateM σ Unit

/-- A stage that was started. -/
inductive Stage (ρ ω : Type)
  | process (process : ρ)
  | worker (worker : ω)
  deriving DecidableEq, Repr

/-- How the stages of a pipeline are run. -/
inductive Strategy
  | single
  | external
  | mixed
  deriving DecidableEq, Repr

/-- How these stages are run. -/
def Strategy.of (stages : List Command) : Strategy :=
  if stages.length = 1 then .single
  else if stages.all fun c => !c.builtin then .external
  else .mixed

namespace Host

variable {σ ρ ω : Type} (host : Host σ ρ ω)

/-- Stop a stage if it can be stopped: a worker ends on its own when its pipes close. -/
def cancel : Stage ρ ω → StateM σ Unit
  | .worker _ => pure ()
  | .process p => do
    if ← host.isRunning p then host.kill p

def waitFor : Stage ρ ω → StateM σ (Except Error Nat)
  | .process p => host.wait p
  | .worker w => host.join w

/-- Wait for a stage before the last one. Its status is of no interest, its error is reported. -/
def reap (stage : Stage ρ ω) : StateM σ Unit := do
  match ← host.waitFor stage with
  | .ok _ => pure ()
  | .error e => host.report e

/-- Stop all these stages, then wait for each. -/
def abandon (stages : List (Stage ρ ω)) : StateM σ Unit := do
  stages.forM host.cancel
  stages.forM host.reap

/-- Wait for the last stage, then bring the others to an end. -/
def finish (stages : List (Stage ρ ω)) : StateM σ (Except Error Nat) :=
  match stages.getLast? with
  | none => pure (.ok 0)
  | some last => do
    let result ← host.waitFor last
    host.abandon stages.dropLast
    pure result

/-- Start stages one after the other behind those already started. If one cannot be started, those
before it are brought to an end and those after it are never started. -/
def startAll (start : Command → Streams → StateM σ (Except Error (Stage ρ ω)))
    (started : List (Stage ρ ω)) : List (Command × Streams) → StateM σ (Except Error Nat)
  | [] => host.finish started
  | (command, streams) :: rest => do
    match ← start command streams with
    | .ok stage => startAll start (started ++ [stage]) rest
    | .error e => do
      host.abandon started
      pure (.error e)

/-- Start the program of a command as a stage. -/
def spawnStage (ctx : Context) (command : Command) (streams : Streams) :
    StateM σ (Except Error (Stage ρ ω)) := do
  match ← host.spawn command streams ctx with
  | .ok p => pure (.ok (.process p))
  | .error e => pure (.error e)

/-- Start a command as a stage, whatever it is. A builtin works on a detached context. -/
def launch (ctx : Context) (command : Command) (streams : Streams) :
    StateM σ (Except Error (Stage ρ ω)) := do
  if command.builtin then
    match Builtin.ofName? command.displayName with
    | none => pure (.error (.commandNotFound command.displayName))
    | some b =>
      match ← host.work b command streams ctx.detach with
      | .ok w => pure (.ok (.worker w))
      | .error e => pure (.error e)
  else host.spawnStage ctx command streams

/-- The streams of stages, the first of which reads `input`. A pipe is made between neighbours, and
the stages before the last write errors to the session. -/
def wireFrom (input : Source) (output errors : Sink) :
    List Command → StateM σ (Except Error (List Streams))
  | [] => pure (.ok [])
  | [_] => pure (.ok [{ input, output, errors }])
  | command :: next :: rest => do
    match ← host.makePipe with
    | .error e => pure (.error (.pipe command.displayName e))
    | .ok pipe => do
      match ← wireFrom (.pipe pipe) output errors (next :: rest) with
      | .error e => pure (.error e)
      | .ok wiring => pure (.ok ({ input, output := .pipe pipe, errors := .sessionErr } :: wiring))

/-- The streams of the stages of a pipeline. -/
def wire (stages : List Command) (output errors : Sink) :
    StateM σ (Except Error (List Streams)) :=
  host.wireFrom .session output errors stages

/-- Wire stages to each other, then start them all. -/
def runWired (start : Command → Streams → StateM σ (Except Error (Stage ρ ω)))
    (stages : List Command) (output errors : Sink) : StateM σ (Except Error Nat) := do
  match ← host.wire stages output errors with
  | .error e => pure (.error e)
  | .ok wiring => host.startAll start [] (stages.zip wiring)

/-- Run stages that are all programs. -/
def runExternal (stages : List Command) (output errors : Sink) (ctx : Context) :
    StateM σ (Except Error Nat) :=
  host.runWired (host.spawnStage ctx) stages output errors

/-- Run stages of any kind. -/
def runMixed (stages : List Command) (output errors : Sink) (ctx : Context) :
    StateM σ (Except Error Nat) :=
  host.runWired (host.launch ctx) stages output errors

/-- Run one stage in place. -/
def runSingle (command : Command) (output errors : Sink) (ctx : Context) :
    StateM σ (Except Error Nat × Context) := do
  let streams : Streams := { input := .session, output, errors }
  match command.runner with
  | .error e => pure (.error e, ctx)
  | .ok (.builtin b) => host.perform b command streams ctx
  | .ok .external =>
    match ← host.spawn command streams ctx with
    | .error e => pure (.error e, ctx)
    | .ok p => do
      let result ← host.wait p
      pure (result, ctx)

/-- Run stages, the last of which writes to the given sinks. -/
def runStages (stages : List Command) (output errors : Sink) (ctx : Context) :
    StateM σ (Except Error Nat × Context) :=
  match Strategy.of stages with
  | .single =>
    match stages with
    | [] => pure (.ok 0, ctx)
    | command :: _ => host.runSingle command output errors ctx
  | .external => do
    let result ← host.runExternal stages output errors ctx
    pure (result, ctx)
  | .mixed => do
    let result ← host.runMixed stages output errors ctx
    pure (result, ctx)

end Host

end Shell
