import Shell.Host
import Shell.Machine.Run

/-!
# Files that the shell has open

The shell reads and saves files itself, and writes to the sinks of its stages. A device may lead it
to a stream of its own process. In a session that has inherited these streams, what is read there is
taken from the input of the session, and what is written there is output of the session. They are
pipes: bytes that were read are gone, and opening one of them once more makes no copy of it. Who
opens the input to write gets its other end, and what is written comes behind what is there.
-/

namespace Shell

namespace Machine

/-- What an open file leads to: a file, or a stream of the shell's own process. -/
def channelOf : OpenFile → Channel
  | .device (.descriptor 0) => .input
  | .device (.descriptor 1) => .output
  | .device (.descriptor 2) => .errors
  | f => .file f

/-- What a file is connected to that the shell has open. A session that is kept in memory has
nothing to do with the streams of the process. -/
def channel (m : Machine) (f : OpenFile) : Channel :=
  match m.session.kind with
  | .inherited => channelOf f
  | .captured => .file f

@[simp] theorem channel_file (m : Machine) (l : Location) :
    m.channel (.file l) = .file (.file l) := by
  cases h : m.session.kind <;> simp [channel, channelOf, h]

@[simp] theorem channel_directory (m : Machine) (l : Location) :
    m.channel (.directory l) = .file (.directory l) := by
  cases h : m.session.kind <;> simp [channel, channelOf, h]

theorem channel_ne_pipe (m : Machine) (f : OpenFile) (id : Nat) : m.channel f ≠ .pipe id := by
  unfold channel channelOf
  repeat' split
  all_goals simp

/-- Write bytes to a sink to which the same writer has written so many already. Writing nothing
always succeeds. -/
def write (m : Machine) (sink : Sink) (bytes : Bytes) (written : Nat := 0) :
    Except IoError Machine :=
  if bytes.isEmpty then .ok m
  else match sink with
    | .sessionOut => .ok { m with session := m.session.writeOut bytes }
    | .sessionErr => .ok { m with session := m.session.writeErr bytes }
    | .pipe id => .ok { m with pipes := m.pipes.modify id fun p => p.push bytes }
    | .capture => .ok { m with capture := m.capture ++ bytes }
    | .closed => .error (.os .brokenPipe)
    | .file f mode =>
      match m.channel f with
      | .input => .ok { m with session := m.session.writeIn bytes }
      | .output => .ok { m with session := m.session.writeOut bytes }
      | .errors => .ok { m with session := m.session.writeErr bytes }
      | _ =>
        match m.files.writeAt f (FileSystem.nextOffset written mode) bytes with
        | .ok (files, _) => .ok { m with files }
        | .error e => .error e

/-- Read all that an open file has, or all input that there will be. -/
def readAll (m : Machine) (f : OpenFile) : Except IoError Bytes × Machine :=
  match m.channel f with
  | .input =>
    (.ok m.session.stdin.rest, { m with session := { m.session with stdin := ⟨[]⟩ } })
  | .output | .errors => (.ok [], m)
  | _ => (m.files.readAll f, m)

/-- Where the shell itself reads and saves files. -/
def disk : Disk Machine where
  files := files
  read path := fun m =>
    match m.files.openFile [] path .read with
    | .error e => (.error e, m)
    | .ok (f, _) =>
      let (bytes, m) := m.readAll f
      (bytes.bind asText, m)
  save path mode bytes := fun m =>
    match m.files.openFile [] path (.write mode) with
    | .error e => (.error e, m)
    | .ok (f, files) =>
      let m := { m with files }
      match m.write (.file f mode) bytes with
      | .error e => (.error e, m)
      | .ok m => (.ok (), m)

end Machine

end Shell
