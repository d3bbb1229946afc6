import Shell.Machine.Basic
import Shell.Program.Image

/-!
# Answers to requests

What the machine answers to a request of a process and what the request does to the machine. Some
requests cannot be answered before something else happens; they are made again then.
-/

namespace Shell

/-- What becomes of a request. -/
inductive Served (α : Type)
  /-- There is no answer yet. -/
  | blocked
  /-- The answer, and a signal that is sent after it, with the number of its receiver. -/
  | answered (answer : α) (process : Process) (machine : Machine)
      (signal : Option (Nat × Nat) := none)
  /-- The process does something else from now on. -/
  | replaced (process : Process) (machine : Machine)

/-- The number of a failure, where every failure has one. -/
def IoError.errno : IoError → Errno
  | .os e => e
  | .absent => .noEntry
  | _ => .invalid

namespace Machine

/-! ### Streams -/

/-- The open stream that a process knows by a number. -/
def stream? (m : Machine) (p : Process) (number : Nat) : Option (Nat × Opened) :=
  (p.stream? number).bind fun s => (m.opened[s]?).map fun o => (s, o)

def setOpened (m : Machine) (stream : Nat) (o : Opened) : Machine :=
  { m with opened := m.opened.setIfInBounds stream o }

/-- Read from a stream. -/
def serveRead (m : Machine) (p : Process) (number max : Nat) : Served (Except Errno Bytes) :=
  match m.stream? p number with
  | none => .answered (.error .badDescriptor) p m
  | some (s, o) =>
    if !o.readable then .answered (.error .badDescriptor) p m
    else match o.channel with
      | .input =>
        let (bytes, stdin) := m.session.stdin.read max
        .answered (.ok bytes) p { m with session := { m.session with stdin } }
      | .pipe id =>
        match m.pipes[id]? with
        | none => .answered (.ok []) p m
        | some pipe =>
          if pipe.pieces.isEmpty then
            if m.hasWriter id then .blocked else .answered (.ok []) p m
          else
            let (bytes, pipe) := pipe.pull max
            .answered (.ok bytes) p
              ({ m with pipes := m.pipes.setIfInBounds id pipe }.wake p.clock)
      | .file f =>
        match m.files.readAt f o.offset max with
        | .error e => .answered (.error e.errno) p m
        | .ok bytes =>
          .answered (.ok bytes) p (m.setOpened s { o with offset := o.offset + bytes.length })
      | _ => .answered (.ok []) p m

/-- Write to a stream. Who writes to a pipe that nobody reads gets a signal. -/
def serveWrite (m : Machine) (p : Process) (number : Nat) (bytes : Bytes) :
    Served (Except Errno Nat) :=
  match m.stream? p number with
  | none => .answered (.error .badDescriptor) p m
  | some (s, o) =>
    if !o.writable then .answered (.error .badDescriptor) p m
    else match o.channel with
      | .input =>
        .answered (.ok bytes.length) p { m with session := m.session.writeIn bytes }
      | .output =>
        .answered (.ok bytes.length) p { m with session := m.session.writeOut bytes }
      | .errors =>
        .answered (.ok bytes.length) p { m with session := m.session.writeErr bytes }
      | .capture => .answered (.ok bytes.length) p { m with capture := m.capture ++ bytes }
      | .pipe id =>
        if !m.hasReader id then
          .answered (.error .brokenPipe) p m (some (p.id, pipeSignal))
        else match m.pipes[id]? with
          | none => .answered (.error .brokenPipe) p m (some (p.id, pipeSignal))
          | some pipe =>
            let count := bytes.length
            let room := pipe.room count
            if room = 0 && count ≠ 0 then .blocked
            else
              let pipe := pipe.push (if room = count then bytes else bytes.take room)
              .answered (.ok room) p
                ({ m with pipes := m.pipes.setIfInBounds id pipe }.wake p.clock)
      | .file f =>
        let place := if o.appending then none else some o.offset
        match m.files.writeAt f place bytes with
        | .error e => .answered (.error e.errno) p m
        | .ok (files, offset) =>
          .answered (.ok bytes.length) p ({ m with files }.setOpened s { o with offset })

/-- A stream for a file that was opened. -/
def openedAs (channel : Channel) : Access → Opened
  | .read => { channel, readable := true }
  | .write .truncate => { channel, writable := true }
  | .write .append => { channel, writable := true, appending := true }
  | .update => { channel, readable := true, writable := true }
  | .fresh => { channel, writable := true }

/-- What a process gets that opens one of its own streams by a path. A file is opened anew. -/
def reopen (m : Machine) (p : Process) (number : Nat) (access : Access) :
    Except Errno (Channel × FileSystem) :=
  match m.stream? p number with
  | none => .error .noEntry
  | some (_, o) =>
    match o.channel with
    | .file (.file l) =>
      match m.files.openFile [] ("/" ++ joinText "/" l) access with
      | .error e => .error e.errno
      | .ok (f, files) => .ok (.file f, files)
    | channel => .ok (channel, m.files)

/-- What a path leads to that a process opens. -/
def openPath (m : Machine) (p : Process) (path : String) (access : Access) :
    Except Errno (Channel × FileSystem) :=
  match m.files.openFile p.here (ofOctets path) access (0o666 &&& (0o777 - p.mask)) with
  | .error e => .error e.errno
  | .ok (.device (.descriptor number), _) => m.reopen p number access
  | .ok (f, files) => .ok (.file f, files)

/-- Open a file under the least free number. -/
def serveOpen (m : Machine) (p : Process) (path : String) (access : Access) :
    Served (Except Errno Nat) :=
  match m.openPath p path access with
  | .error e => .answered (.error e) p m
  | .ok (channel, files) =>
    let (s, m) := { m with files }.openStream (openedAs channel access)
    let number := p.freeNumber
    .answered (.ok number) (p.install number s) m

/-- Close a stream. Whoever waits at the other end of a pipe may have to know. -/
def serveClose (m : Machine) (p : Process) (number : Nat) : Served (Except Errno Unit) :=
  match p.stream? number with
  | none => .answered (.error .badDescriptor) p m
  | some _ =>
    let p := p.uninstall number
    .answered (.ok ()) p ((m.put p).wake p.clock)

/-- Open a stream under a second number. -/
def serveCopy (m : Machine) (p : Process) (source target : Nat) : Served (Except Errno Unit) :=
  match p.stream? source with
  | none => .answered (.error .badDescriptor) p m
  | some s =>
    let p := p.install target s
    .answered (.ok ()) p ((m.put p).wake p.clock)

/-- Open a stream under a second number that programs after this one do not see. -/
def serveCopyAbove (m : Machine) (p : Process) (source least : Nat) : Served (Except Errno Nat) :=
  match p.stream? source with
  | none => .answered (.error .badDescriptor) p m
  | some s =>
    let number := p.freeNumber least
    .answered (.ok number) (p.install number s true) m

/-- Make a pipe. -/
def servePipe (m : Machine) (p : Process) : Served (Nat × Nat) :=
  let ((source, target), m) := m.openPipe
  let first := p.freeNumber
  let p := p.install first source
  let second := p.freeNumber
  .answered (first, second) (p.install second target) m

/-- Go back in a file. -/
def serveRewind (m : Machine) (p : Process) (number back : Nat) : Served (Except Errno Unit) :=
  match m.stream? p number with
  | none => .answered (.error .badDescriptor) p m
  | some (s, o) =>
    match o.channel with
    | .file _ => .answered (.ok ()) p (m.setOpened s { o with offset := o.offset - back })
    | _ => .answered (.error .illegalSeek) p m

/-! ### Files -/

/-- What stands at a path. -/
def serveInspect (m : Machine) (p : Process) (path : String) (follow : Bool) :
    Except Errno FileStatus :=
  match m.files.locate (if follow then .target else .itself) p.here (ofOctets path) with
  | .error e => .error e.errno
  | .ok (.vacant _ _) => .error .noEntry
  | .ok (.present l entry) => .ok { entry, location := some l }

/-- What a stream is connected to. -/
def serveStatus (m : Machine) (p : Process) (number : Nat) : Except Errno FileStatus :=
  match m.stream? p number with
  | none => .error .badDescriptor
  | some (_, o) =>
    match o.channel with
    | .file (.file l) | .file (.directory l) =>
      let entry := (m.files.get? l).getD (.file 0 [])
      .ok { entry, location := some l, offset := o.offset }
    | .file (.device d) => .ok { entry := .device d }
    | _ => .ok { entry := .device (.descriptor number) }

/-- The names in a directory. -/
def serveList (m : Machine) (p : Process) (path : String) : Except Errno (List String) :=
  match m.serveInspect p path true with
  | .error e => .error e
  | .ok { entry := .directory, location := some l, .. } => .ok ((m.files.children l).map toOctets)
  | .ok _ => .error .notDirectory

/-- Go to another directory. -/
def serveEnter (m : Machine) (p : Process) (path : String) : Served (Except Errno Unit) :=
  match m.serveInspect p path true with
  | .error e => .answered (.error e) p m
  | .ok { entry := .directory, location := some here, .. } =>
    .answered (.ok ()) { p with here } m
  | .ok _ => .answered (.error .notDirectory) p m

/-! ### Processes -/

/-- Tell a process how a child ended. The child is forgotten. -/
def serveWait (m : Machine) (p : Process) (child : Option Nat) (patient : Bool) :
    Served (Except Errno (Option (Nat × Ending))) :=
  let children := m.processes.filter fun q =>
    q.parent = p.id && (child = none || child = some q.id)
  match children.find? fun q => !q.alive with
  | some q =>
    let m := { m with processes := m.processes.filter fun r => r.id ≠ q.id }
    .answered (.ok (q.ending.map fun e => (q.id, e))) { p with clock := max p.clock q.clock } m
  | none =>
    if children.isEmpty then .answered (.error .noChild) p m
    else if patient && p.arrived.isEmpty then .blocked
    else .answered (.ok none) p m

/-- Send a signal. -/
def serveSignal (m : Machine) (p : Process) (target number : Nat) : Served (Except Errno Unit) :=
  if target = shellId then .answered (.ok ()) p m
  else match m.process? target with
    | none => .answered (.error .noProcess) p m
    | some _ => .answered (.ok ()) p m (some (target, number))

/-- Decide what a signal does to a process. -/
def withDisposition (p : Process) (number : Nat) (d : Disposition) : Process :=
  let ignored := p.ignored.filter (· ≠ number)
  let caught := p.caught.filter (· ≠ number)
  match d with
  | .standard => { p with ignored, caught }
  | .ignored => { p with ignored := number :: ignored, caught }
  | .caught => { p with ignored, caught := number :: caught }

/-- Go on as another program. Signals that were caught are no longer. -/
def serveExec (programs : Programs) (m : Machine) (p : Process) (path : String)
    (args vars : List String) : Served Errno :=
  let name := args.head?.getD ""
  match Image.ofPath m.files p.here path name args.tail with
  | .error e => .answered e.errno p m
  | .ok image =>
    if Image.isTooLong (args ++ vars) then .answered .argumentsTooLong p m
    else
      let todo := programs image.program { name := image.name, args := image.args, vars }
      let p := { p with todo, caught := [], arrived := []
                        descriptors := p.descriptors.filter fun d => !d.hidden }
      .replaced p ((m.put p).wake p.clock)

/-- The answer to a request. -/
def serve (programs : Programs) (m : Machine) (p : Process) : (r : Request) → Served r.Answer
  | .pause micros => .answered () { p with clock := p.clock + micros } m
  | .read number max => m.serveRead p number max
  | .write number bytes => m.serveWrite p number bytes
  | .openFile path access => m.serveOpen p path access
  | .close number => m.serveClose p number
  | .copyTo source target => m.serveCopy p source target
  | .copyAbove source least => m.serveCopyAbove p source least
  | .pipe => m.servePipe p
  | .rewind number back => m.serveRewind p number back
  | .statusOf number => .answered (m.serveStatus p number) p m
  | .inspect path follow => .answered (m.serveInspect p path follow) p m
  | .list path => .answered (m.serveList p path) p m
  | .enter path => m.serveEnter p path
  | .directory => .answered ("/" ++ toOctets (joinText "/" p.here)) p m
  | .identity => .answered (p.id, p.parent) p m
  | .wait child patient => m.serveWait p child patient
  | .signal target number => m.serveSignal p target number
  | .handle number d => .answered () (withDisposition p number d) m
  | .arrived => .answered p.arrived { p with arrived := [] } m
  | .mask bits => .answered p.mask { p with mask := bits } m
  | .exec path args vars => m.serveExec programs p path args vars

end Machine

end Shell
