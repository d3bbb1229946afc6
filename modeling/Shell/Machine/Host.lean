import Shell.Builtin.Report
import Shell.Machine.Files
import Shell.Process.Task

/-!
# The machine as a host

How the shell starts the stages of a pipeline on the machine, stops them and waits for them. The
shell itself takes no time, except that it needs a moment to notice how a stage ended; whatever else
is running goes on meanwhile.

A stream of the session that is kept in memory is relayed: its bytes are passed on by the shell, and
a stage has not ended before the last process that holds one of its relayed streams lets go of it.
-/

namespace Shell

namespace Machine

/-! ### Streams -/

/-- The stream that a process gets for a source. Input that is kept in memory is handed over as a
whole. -/
def openSource (m : Machine) (source : Source) : Nat × Machine :=
  match source with
  | .pipe id => m.openStream { channel := .pipe id, readable := true }
  | .file f => m.openStream { channel := m.channel f, readable := true }
  | .session =>
    match m.session.kind with
    | .inherited => m.openStream { channel := .input, readable := true }
    | .captured =>
      let (pipe, m) := m.addPipe m.session.stdin.rest
      let m := { m with session := { m.session with stdin := ⟨[]⟩ } }
      m.openStream { channel := .pipe pipe, readable := true }

/-- The stream that a process gets for a sink. -/
def openSink (m : Machine) (sink : Sink) : Nat × Machine :=
  match sink with
  | .sessionOut => m.openStream { channel := .output, writable := true }
  | .sessionErr => m.openStream { channel := .errors, writable := true }
  | .capture => m.openStream { channel := .capture, writable := true }
  | .pipe id => m.openStream { channel := .pipe id, writable := true }
  | .closed =>
    let (pipe, m) := m.addPipe []
    m.openStream { channel := .pipe pipe, writable := true }
  | .file f mode =>
    m.openStream { channel := m.channel f, writable := true, appending := mode = .append }

/-- The shell passes on what is written to a sink. -/
def isRelayed (m : Machine) : Sink → Bool
  | .capture => true
  | .sessionOut | .sessionErr => m.session.kind = .captured
  | _ => false

/-! ### Time -/

/-- How long it takes the shell to notice how a stage ended, in microseconds. -/
def reaction : Nat := 5000

/-- Let a moment pass. -/
def settle (programs : Programs) (m : Machine) : Machine :=
  m.advance programs (m.clock + reaction)

/-- A process has ended, and so has everyone who holds its relayed streams. -/
def isDone (id : Nat) (m : Machine) : Bool :=
  match m.process? id with
  | none => true
  | some p => !p.alive && !p.relays.any m.isHeld

/-- Let processes act until this one is done with. -/
def await (programs : Programs) (id : Nat) (m : Machine) : Machine :=
  settle programs (m.runUntil programs (isDone id) patience)

/-- Let processes act until nobody can write to the streams of the session any more. -/
def drain (programs : Programs) (m : Machine) : Machine :=
  m.runUntil programs
    (fun m => !m.anyOpen fun o => o.channel = .output || o.channel = .errors) patience

/-! ### Processes -/

/-- The variables that a program gets, each written `name=value`, in the order of their names. -/
def environment (vars : Variables) : List String :=
  (vars.mergeSort fun a b => decide (a.1 ≤ b.1)).map fun (k, v) => toOctets (k ++ "=" ++ v)

/-- The directory in which a program is started. -/
def workplace (m : Machine) (directory : String) : Except IoError Location :=
  match m.files.locate .target m.base directory with
  | .error e => .error e
  | .ok (.vacant _ _) => .error (.os .noEntry)
  | .ok (.present here .directory) => .ok here
  | .ok (.present _ _) => .error (.os .notDirectory)

/-- The program of a command, made ready, and the directory in which it is started. -/
def prepare (m : Machine) (path : String) (command : Command) (vars : Variables) :
    Except IoError (Image × Location) :=
  let texts := command.displayName :: command.args
  let values := vars.flatMap fun (k, v) => [k, v]
  if (path :: command.workspace :: texts ++ values).any (containsChar '\x00') then
    .error .nulInArgument
  else match m.workplace command.workspace with
    | .error e => .error e
    | .ok here =>
      let vars := environment vars
      match Image.find m.files here vars (toOctets path) (toOctets command.displayName)
          (command.args.map toOctets) with
      | .error e => .error e
      | .ok image =>
        if Image.isTooLong (texts.map toOctets ++ vars) then .error (.os .argumentsTooLong)
        else .ok (image, here)

/-- A program that is installed at the path is made ready, if it can be handed what it gets. -/
theorem prepare_program {m : Machine} {path program : String} {command : Command} {vars : Variables}
    (hnul : (path :: command.workspace :: (command.displayName :: command.args) ++
      vars.flatMap fun (k, v) => [k, v]).any (containsChar '\x00') = false)
    {here place : Location} (hplace : m.workplace command.workspace = .ok here)
    (hslash : containsChar '/' (toOctets path) = true) (hpath : ofOctets (toOctets path) = path)
    (hlocate : m.files.locate .target here path = .ok (.present place (.program program)))
    (hshort : Image.isTooLong ((command.displayName :: command.args).map toOctets ++
      environment vars) = false) :
    m.prepare path command vars =
      .ok ({ program, name := toOctets command.displayName
             args := command.args.map toOctets }, here) := by
  rw [prepare, hnul, if_neg Bool.false_ne_true, hplace]
  dsimp only
  rw [Image.find_program hslash hpath hlocate]
  dsimp only
  rw [hshort, if_neg Bool.false_ne_true]

/-- Add a process of the shell with these streams, which ignores these signals. -/
def launch (m : Machine) (streams : Streams) (here : Location) (todo : Proc)
    (ignored : List Nat := []) : Nat × Machine :=
  let (input, m) := m.openSource streams.input
  let (output, m) := m.openSink streams.output
  let (errors, m) := m.openSink streams.errors
  let relays := (if m.isRelayed streams.output then [output] else []) ++
    (if m.isRelayed streams.errors then [errors] else [])
  let id := m.nextId
  let process : Process :=
    { id, parent := shellId, todo, here, clock := m.clock, ignored, relays
      descriptors := [⟨0, input, false⟩, ⟨1, output, false⟩, ⟨2, errors, false⟩] }
  (id, m.add process)

/-- Start the program of a command. Its variables are those of the context, and `PWD`. -/
def spawn (programs : Programs) (command : Command) (streams : Streams) (ctx : Context)
    (m : Machine) : Except Error Nat × Machine :=
  match command.program with
  | none => (.error (.commandNotFound command.displayName), m)
  | some path =>
    let vars := ctx.vars.set "PWD" command.workspace
    match m.prepare path command vars with
    | .error e => (.error (.spawn command.displayName e), settle programs m)
    | .ok (image, here) =>
      let todo := programs image.program
        { name := image.name, args := image.args, vars := environment vars }
      let (id, m) := m.launch streams here todo
      (.ok id, m)

/-- A program that was made ready is started. -/
theorem spawn_of_prepare (programs : Programs) {command : Command} {path : String}
    (hprogram : command.program = some path) {ctx : Context} {m : Machine} {image : Image}
    {here : Location}
    (hprepare : m.prepare path command (ctx.vars.set "PWD" command.workspace) = .ok (image, here))
    (streams : Streams) :
    let vars := environment (ctx.vars.set "PWD" command.workspace)
    let launched := m.launch streams here
      (programs image.program { name := image.name, args := image.args, vars })
    spawn programs command streams ctx m = (.ok launched.1, launched.2) := by
  simp only [spawn, hprogram, hprepare]

/-- A process has not ended yet. -/
def isRunning (id : Nat) (m : Machine) : Bool :=
  (m.process? id).any Process.alive

/-- End a process by force. -/
def kill (id : Nat) (m : Machine) : Machine :=
  match m.process? id with
  | none => m
  | some p => m.deliver p killSignal m.clock

/-- Wait for the end of a process. -/
def wait (programs : Programs) (id : Nat) (m : Machine) : Except Error Nat × Machine :=
  let m := m.await programs id
  match (m.process? id).bind Process.ending with
  | none => (.error (.wait "" Errno.noChild.text), m)
  | some ending => (.ok ending.status, m)

/-! ### Builtins -/

/-- The machine while a builtin is carried out, and how many bytes it has written to its streams. -/
structure Bench where
  machine : Machine
  written : OutputStream → Nat := fun _ => 0

def Bench.part : Part Bench Machine where
  get := machine
  set w machine := { w with machine }
  set_get _ := rfl
  get_set _ _ := rfl
  set_set _ _ _ := rfl

/-- Where a builtin works that has these streams. -/
def desk (streams : Streams) : Desk Bench where
  toDisk := disk.within Bench.part
  print stream text := fun w =>
    let bytes := encode text
    match w.machine.write (stream.pick streams.output streams.errors) bytes (w.written stream) with
    | .error e => (.error e, w)
    | .ok machine =>
      let written := fun other => w.written other + if other = stream then bytes.length else 0
      (.ok (), { machine, written })

/-- Carry out a builtin in place. -/
def perform (b : Builtin) (command : Command) (streams : Streams) (ctx : Context) (m : Machine) :
    (Except Error Nat × Context) × Machine :=
  let ((result, ctx), w) := (desk streams).execute b command.args ctx { machine := m }
  ((b.outcome result, ctx), w.machine)

/-- The source that a builtin keeps open. It takes nothing from the input of the session. -/
def untaken : Source → Source
  | .session => .file (.device .null)
  | source => source

/-- A builtin that works beside the shell. -/
inductive Worker
  | done (result : Except Error Nat)
  /-- Its text is being written to a pipe. -/
  | writing (process : Nat)

/-- Write what a builtin prints and end with its status. -/
def writer (out err : Bytes) (status : Nat) : Task Nat := do
  match ← Task.writeAll 1 out with
  | .error _ => pure Builtin.brokenPipeStatus
  | .ok () =>
    match ← Task.writeAll 2 err with
    | .error _ => pure Builtin.brokenPipeStatus
    | .ok () => pure status

/-- Give a builtin to a worker. Here it acts before the next stage is started, which is one of the
orders in which workers can act; text for a pipe is written as the pipe takes it. -/
def work (b : Builtin) (command : Command) (streams : Streams) (ctx : Context) (m : Machine) :
    Worker × Machine :=
  match streams.output with
  | .pipe _ =>
    let (r, m) := b.report disk command.args ctx m
    match r.result with
    | .error failure => (.done (b.outcome (.error failure)), m)
    | .ok status =>
      let todo := (writer (encode r.stdout) (encode r.stderr) status).toProc
      let (id, m) := m.launch { streams with input := untaken streams.input } [] todo [pipeSignal]
      (.writing id, m)
  | _ =>
    let ((result, _), m) := m.perform b command streams ctx
    (.done result, m)

/-- Wait for a worker. -/
def join (programs : Programs) (w : Worker) (m : Machine) : Except Error Nat × Machine :=
  match w with
  | .done result => (result, settle programs m)
  | .writing id => m.wait programs id

/-- The host that runs stages on the machine. -/
def host (programs : Programs) : Host Machine Nat Worker where
  makePipe := fun m =>
    let (id, m) := m.addPipe []
    (.ok id, m)
  spawn command streams ctx := spawn programs command streams ctx
  isRunning id := fun m => (m.isRunning id, m)
  kill id := fun m => ((), m.kill id)
  wait id := fun m => m.wait programs id
  work b command streams ctx := fun m =>
    let (w, m) := m.work b command streams ctx
    (.ok w, m)
  join w := fun m => m.join programs w
  perform b command streams ctx := fun m => m.perform b command streams ctx
  report e := fun m => ((), { m with session := m.session.report e })

end Machine

end Shell
