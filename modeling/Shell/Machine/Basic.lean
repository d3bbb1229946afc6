import Shell.Process
import Shell.Stream
import Shell.Text.Octets

/-!
# The machine

The state that commands act on: the files, the streams of the session, and the processes that were
started, with the pipes and files that they have open.

Every process has a clock of its own; the machine lets the process act whose clock is earliest, so
that processes run side by side and a process that waits for time to pass costs nothing.
-/

namespace Shell

/-- Bytes on their way from writers to readers. -/
structure Pipe where
  /-- What was written and not read yet, in pieces. None is empty. -/
  pieces : List Bytes := []
  size : Nat := 0
  deriving DecidableEq, Repr

namespace Pipe

/-- The most bytes that a pipe holds. -/
def capacity : Nat := 65536

/-- Writes of up to this size are not divided. -/
def atomic : Nat := 4096

/-- How much of a write of `count` bytes can be taken now. -/
def room (p : Pipe) (count : Nat) : Nat :=
  let free := capacity - p.size
  if count ≤ atomic && free < count then 0 else min free count

def push (p : Pipe) (bytes : Bytes) : Pipe :=
  if bytes.isEmpty then p
  else { pieces := p.pieces ++ [bytes], size := p.size + bytes.length }

/-- Take up to `max` bytes off the front. -/
def pull (p : Pipe) (max : Nat) : Bytes × Pipe :=
  match p.pieces with
  | [] => ([], p)
  | piece :: rest =>
    let taken := piece.take max
    let left := piece.drop max
    (taken, { pieces := if left.isEmpty then rest else left :: rest
              size := p.size - taken.length })

end Pipe

/-- What an open stream is connected to. -/
inductive Channel
  /-- The standard input of the session. -/
  | input
  | output
  | errors
  /-- The buffer whose words become the arguments of a command. -/
  | capture
  | pipe (id : Nat)
  | file (file : OpenFile)
  deriving DecidableEq, Repr

/-- An open stream. Copies of it in the same process or in others share its position. -/
structure Opened where
  channel : Channel
  readable : Bool := false
  writable : Bool := false
  /-- Writes go to the end of the file. -/
  appending : Bool := false
  offset : Nat := 0
  deriving DecidableEq, Repr

/-- A number under which a process has a stream open. -/
structure Descriptor where
  number : Nat
  /-- The place of the stream among all that were opened. -/
  stream : Nat
  /-- It is closed when another program takes the place of this one. -/
  hidden : Bool := false
  deriving DecidableEq, Repr

/-- A process that was started. -/
structure Process where
  id : Nat
  parent : Nat
  todo : Proc
  descriptors : List Descriptor := []
  here : Location
  /-- The permissions that new files do not get. -/
  mask : Nat := 0o022
  /-- When it acts next, in microseconds. -/
  clock : Nat
  /-- It cannot go on before something happens. -/
  blocked : Bool := false
  ignored : List Nat := []
  caught : List Nat := []
  /-- Caught signals that it has not asked for yet. -/
  arrived : List Nat := []
  ending : Option Ending := none
  /-- The streams that the shell reads in its place; they last as long as somebody has them open. -/
  relays : List Nat := []

namespace Process

def alive (p : Process) : Bool := p.ending.isNone

/-- The stream that is open under a number. -/
def stream? (p : Process) (number : Nat) : Option Nat :=
  (p.descriptors.find? fun d => d.number = number).map Descriptor.stream

/-- Open a stream under a number, in place of what is open there. -/
def install (p : Process) (number stream : Nat) (hidden : Bool := false) : Process :=
  { p with descriptors :=
      { number, stream, hidden } :: p.descriptors.filter fun d => d.number ≠ number }

def uninstall (p : Process) (number : Nat) : Process :=
  { p with descriptors := p.descriptors.filter fun d => d.number ≠ number }

/-- The least number from `least` on under which nothing is open. -/
def freeNumber (p : Process) (least : Nat := 0) : Nat :=
  let used := p.descriptors.map Descriptor.number
  ((List.range (used.length + 1)).map (least + ·)).find? (fun n => !used.contains n)
    |>.getD (least + used.length)

end Process

structure Machine where
  files : FileSystem
  /-- The directory of the shell's own process. -/
  base : Location := []
  session : Session := {}
  capture : Bytes := []
  /-- The time when something happened last, in microseconds. -/
  clock : Nat := 0
  pipes : Array Pipe := #[]
  opened : Array Opened := #[]
  processes : List Process := []
  /-- How many processes were started. -/
  started : Nat := 0

namespace Machine

/-- The number of the shell's own process. -/
def shellId : Nat := 1

/-- The machine with the shell's own process in another directory, links on the way there resolved.
A path that leads to no directory changes nothing. -/
def enter (m : Machine) (directory : String) : Machine :=
  match m.files.stat? m.base directory with
  | some (base, .directory) => { m with base }
  | _ => m

/-! ### Processes -/

def process? (m : Machine) (id : Nat) : Option Process :=
  m.processes.find? fun p => p.id = id

/-- Replace the process of the same number. -/
def put (m : Machine) (p : Process) : Machine :=
  { m with processes := m.processes.map fun q => if q.id = p.id then p else q }

/-- The number that the next process gets. -/
def nextId (m : Machine) : Nat := shellId + 1 + m.started

/-- Add a process. -/
def add (m : Machine) (p : Process) : Machine :=
  { m with processes := m.processes ++ [p], started := m.started + 1 }

/-- How long it takes until a process goes on that could not, in microseconds. -/
def wakeDelay : Nat := 50

/-- Something happened at a time: processes that could not go on may try again. -/
def wake (m : Machine) (time : Nat) : Machine :=
  if m.processes.any Process.blocked then
    { m with processes := m.processes.map fun p =>
        if p.blocked then { p with blocked := false, clock := max p.clock (time + wakeDelay) }
        else p }
  else m

/-! ### Streams -/

def openStream (m : Machine) (o : Opened) : Nat × Machine :=
  (m.opened.size, { m with opened := m.opened.push o })

/-- A process that has not ended has the stream open. -/
def isHeld (m : Machine) (stream : Nat) : Bool :=
  m.processes.any fun p => p.descriptors.any fun d => d.stream = stream

/-- Somebody has a stream of this kind open. -/
def anyOpen (m : Machine) (f : Opened → Bool) : Bool :=
  m.processes.any fun p => p.descriptors.any fun d => m.opened[d.stream]?.any f

def hasReader (m : Machine) (pipe : Nat) : Bool :=
  m.anyOpen fun o => o.readable && o.channel = .pipe pipe

def hasWriter (m : Machine) (pipe : Nat) : Bool :=
  m.anyOpen fun o => o.writable && o.channel = .pipe pipe

/-- A new pipe that holds these bytes. -/
def addPipe (m : Machine) (bytes : Bytes) : Nat × Machine :=
  (m.pipes.size, { m with pipes := m.pipes.push (({} : Pipe).push bytes) })

/-- The two streams of a new pipe: the one to read and the one to write. -/
def openPipe (m : Machine) : (Nat × Nat) × Machine :=
  let (pipe, m) := m.addPipe []
  let (source, m) := m.openStream { channel := .pipe pipe, readable := true }
  let (target, m) := m.openStream { channel := .pipe pipe, writable := true }
  ((source, target), m)

/-! ### Ends -/

/-- A process ends. Its streams are closed, its children have no parent any more, and it is
forgotten unless somebody may still ask how it ended. -/
def finish (m : Machine) (p : Process) (ending : Ending) (time : Nat) : Machine :=
  let orphaned := m.processes.map fun q => if q.parent = p.id then { q with parent := 0 } else q
  let awaited := p.parent = shellId || orphaned.any fun q => q.id = p.parent && q.alive
  let p := { p with ending := some ending, descriptors := [], blocked := false, clock := time
                    todo := .exit 0 }
  let processes := if awaited then orphaned.map fun q => if q.id = p.id then p else q
    else orphaned.filter fun q => q.id ≠ p.id
  { m with processes := processes.filter fun q => q.alive || q.parent ≠ 0 }.wake time

/-- The signals that end a process which takes no care of them: all but those for continuing,
children, urgent data and window sizes. -/
def isFatal (number : Nat) : Bool :=
  !([0, 17, 18, 19, 20, 21, 22, 23, 28].contains number)

/-- The signal that cannot be caught or ignored. -/
def killSignal : Nat := 9

def pipeSignal : Nat := 13

/-- Send a signal to a process. -/
def deliver (m : Machine) (p : Process) (number time : Nat) : Machine :=
  if !p.alive || number = 0 then m
  else if number = killSignal then m.finish p (.killed number) time
  else if p.ignored.contains number then m
  else if p.caught.contains number then
    (m.put { p with arrived := p.arrived ++ [number] }).wake time
  else if isFatal number then m.finish p (.killed number) time
  else m

end Machine

end Shell
