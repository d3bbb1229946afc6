import Shell.FileSystem.Walk
import Shell.Token

/-!
# Reading and writing files

A file is opened before it is read or written: opening makes it if it is missing and allowed to be
made, and empties it if that is asked for. An open file is read and written at a position, which
whoever opened it keeps; what is appended goes to the end of the file wherever that is by then.

The streams of a process are no part of the files. A device that leads to one gives nothing here and
takes everything; who has the stream open goes there instead. A regular file that is open takes what
is written to it: there is always space for it, so that saving fails only where opening does, or at
the device that takes nothing.
-/

namespace Shell

/-- What a file is opened for. Only `read` asks for a file that is there. -/
inductive Access
  | read
  | write (mode : WriteMode)
  /-- Reading and writing from the front. -/
  | update
  /-- Writing a file that nobody has made yet. -/
  | fresh
  deriving DecidableEq, Repr

/-- What is open. -/
inductive OpenFile
  | file (location : Location)
  | directory (location : Location)
  | device (device : Device)
  deriving DecidableEq, Repr

/-- `content` with `bytes` in place of what stands from `offset` on. A gap is filled with zeros. -/
def overlay (content : Bytes) (offset : Nat) (bytes : Bytes) : Bytes :=
  content.take offset ++ List.replicate (offset - content.length) 0 ++ bytes ++
    content.drop (offset + bytes.length)

@[simp] theorem overlay_nil_zero (bytes : Bytes) : overlay [] 0 bytes = bytes := by
  simp [overlay]

@[simp] theorem overlay_length (content bytes : Bytes) :
    overlay content content.length bytes = content ++ bytes := by
  simp [overlay]

/-- What comes right behind what was put in place. -/
theorem overlay_overlay (content : Bytes) (offset : Nat) (bytes more : Bytes) :
    overlay (overlay content offset bytes) (offset + bytes.length) more =
      overlay content offset (bytes ++ more) := by
  have hfront : (content.take offset ++ List.replicate (offset - content.length) 0 ++
      bytes).length = offset + bytes.length := by
    simp
    omega
  have htake : (overlay content offset bytes).take (offset + bytes.length) =
      content.take offset ++ List.replicate (offset - content.length) 0 ++ bytes := by
    rw [overlay, ← hfront, List.take_left]
  have hlength : offset + bytes.length - (overlay content offset bytes).length = 0 := by
    rw [overlay, List.length_append, hfront]
    omega
  have hdrop : (overlay content offset bytes).drop (offset + bytes.length + more.length) =
      content.drop (offset + (bytes ++ more).length) := by
    rw [overlay, ← List.drop_drop, ← hfront, List.drop_left, hfront, List.drop_drop,
      List.length_append, Nat.add_assoc]
  rw [overlay, htake, hlength, hdrop]
  simp [overlay]

/-- The text that bytes stand for. -/
def asText (bytes : Bytes) : Except IoError String :=
  match decode? bytes with
  | some text => .ok text
  | none => .error .notText

namespace FileSystem

/-- The permission bits of a file that is made by opening it. -/
def newFileMode : Nat := 0o644

/-- The permissions of an entry allow an access. -/
def allows (e : Entry) : Access → Bool
  | .read => e.mayRead
  | .write _ => e.mayWrite
  | .update => e.mayRead && e.mayWrite
  | .fresh => e.mayWrite

/-- What a path is followed for when a file is opened. -/
def lookupFor : Access → Lookup
  | .read => .target
  | .fresh => .itself
  | _ => .place

/-- Open the file that a path leads to from the directory `here`. A new file gets these permission
bits. -/
def openFile (fs : FileSystem) (here : Location) (text : String) (access : Access)
    (bits : Nat := newFileMode) : Except IoError (OpenFile × FileSystem) :=
  match fs.locate (lookupFor access) here text with
  | .error e => .error e
  | .ok (.vacant directory name) =>
    if access = .read then .error (.os .noEntry)
    else .ok (.file (directory ++ [name]), fs.insert (directory ++ [name]) (.file bits []))
  | .ok (.present l e) =>
    if access = .fresh then .error (.os .fileExists)
    else match e with
      | .directory =>
        if access = .read then .ok (.directory l, fs) else .error (.os .isDirectory)
      | .device d => .ok (.device d, fs)
      | .file bits _ =>
        if !allows e access then .error (.os .permissionDenied)
        else if access = .write .truncate then .ok (.file l, fs.insert l (.file bits []))
        else .ok (.file l, fs)
      | _ => .ok (.file l, fs)

/-- Up to `max` bytes of an open file from a position on. -/
def readAt (fs : FileSystem) (f : OpenFile) (offset max : Nat) : Except IoError Bytes :=
  match f with
  | .directory _ => .error (.os .isDirectory)
  | .device .zero | .device .full => .ok (List.replicate max 0)
  | .device _ => .ok []
  | .file l =>
    match fs.get? l with
    | some (.file _ content) => .ok ((content.drop offset).take max)
    | _ => .ok []

/-- All bytes of an open file. Zeros that never end are read until no memory is left for them. -/
def readAll (fs : FileSystem) (f : OpenFile) : Except IoError Bytes :=
  match f with
  | .directory _ => .error (.os .isDirectory)
  | .device .zero | .device .full => .error .outOfMemory
  | .device _ => .ok []
  | .file l =>
    match fs.get? l with
    | some (.file _ content) => .ok content
    | _ => .ok []

/-- The bytes of the file that a path leads to from the directory `here`. -/
def read (fs : FileSystem) (here : Location) (text : String) : Except IoError Bytes :=
  match fs.openFile here text .read with
  | .error e => .error e
  | .ok (f, _) => fs.readAll f

/-- The text of the file that a path leads to. -/
def readText (fs : FileSystem) (text : String) : Except IoError String :=
  (fs.read [] text).bind asText

/-- Write bytes to an open file at a position, or at its end if there is none. The result has the
position after them. Writing nothing always succeeds. -/
def writeAt (fs : FileSystem) (f : OpenFile) (offset : Option Nat) (bytes : Bytes) :
    Except IoError (FileSystem × Nat) :=
  if bytes.isEmpty then .ok (fs, offset.getD 0)
  else match f with
    | .device .full => .error (.os .noSpace)
    | .device _ => .ok (fs, offset.getD 0)
    | .directory _ => .error (.os .badDescriptor)
    | .file l =>
      match fs.get? l with
      | some (.file mode content) =>
        let start := offset.getD content.length
        .ok (fs.insert l (.file mode (overlay content start bytes)), start + bytes.length)
      | _ => .ok (fs, offset.getD 0 + bytes.length)

/-- Where the next bytes go in a file opened in this way that has got so many already. -/
def nextOffset (written : Nat) : WriteMode → Option Nat
  | .truncate => some written
  | .append => none

/-- Open the file that a path leads to and write bytes to it. When the write fails, what opening
did stays done. -/
def save (fs : FileSystem) (text : String) (mode : WriteMode) (bytes : Bytes) :
    Except IoError Unit × FileSystem :=
  match fs.openFile [] text (.write mode) with
  | .error e => (.error e, fs)
  | .ok (f, opened) =>
    match opened.writeAt f (nextOffset 0 mode) bytes with
    | .error e => (.error e, opened)
    | .ok (written, _) => (.ok (), written)

end FileSystem

end Shell
