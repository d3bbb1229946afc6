import Shell.Error

/-!
# Streams in memory

The streams of a session whose input and output are kept in memory. Input is one sequence of bytes
with one position: every handle of it takes from the same front. Output is one sequence of bytes:
every handle of it adds to the same end.

Such a stream is in a cell of memory, and a handle says in which. A handle that is made from another
one says the same; nothing else tells that they belong together. The stream itself is reached
through its cell only, by one handle at a time.
-/

namespace Shell

/-- Input that several readers share. -/
structure SharedInput where
  rest : Bytes
  deriving DecidableEq, Repr

/-- Take up to `max` bytes. -/
def SharedInput.read (s : SharedInput) (max : Nat) : Bytes × SharedInput :=
  (s.rest.take max, ⟨s.rest.drop max⟩)

/-- Put bytes behind those that are there. -/
def SharedInput.push (s : SharedInput) (data : Bytes) : SharedInput :=
  ⟨s.rest ++ data⟩

/-- Output that several writers share. -/
structure SharedOutput where
  bytes : Bytes := []
  deriving DecidableEq, Repr

namespace SharedOutput

/-- Add bytes; the result says how many were taken, which is all of them. -/
def write (s : SharedOutput) (data : Bytes) : Nat × SharedOutput :=
  (data.length, ⟨s.bytes ++ data⟩)

/-- Everything written so far, as text. -/
def text (s : SharedOutput) : String :=
  decodeLossy s.bytes

end SharedOutput

/-! ### Cells -/

/-- Where a cell is. -/
structure Pointer where
  address : Nat
  deriving DecidableEq, Repr

/-- Memory for shared streams. A cell is there as long as somebody may have a handle of it. -/
structure Heap (α : Type) where
  cells : List α := []
  deriving DecidableEq, Repr

namespace Heap

variable {α β : Type}

/-- What is in a cell. -/
def get? (h : Heap α) (p : Pointer) : Option α :=
  h.cells[p.address]?

/-- Put something in a new cell. -/
def allocate (a : α) : StateM (Heap α) Pointer := fun h =>
  (⟨h.cells.length⟩, ⟨h.cells ++ [a]⟩)

/-- Do something with what is in a cell, while nobody else does. There is no answer if there is no
such cell. -/
def lock (p : Pointer) (act : α → β × α) : StateM (Heap α) (Option β) := fun h =>
  match h.get? p with
  | none => (none, h)
  | some a =>
    let (b, a) := act a
    (some b, ⟨h.cells.set p.address a⟩)

end Heap

/-! ### Handles -/

/-- A reader of input in memory. -/
structure MemReader where
  cursor : Pointer
  deriving DecidableEq, Repr

namespace MemReader

/-- A reader of new input. -/
def new (input : Bytes) : StateM (Heap SharedInput) MemReader := do
  let cursor ← Heap.allocate ⟨input⟩
  pure { cursor }

/-- Another reader, which shares the position. -/
def clone (r : MemReader) : MemReader :=
  { cursor := r.cursor }

/-- Take up to `max` bytes. -/
def read (r : MemReader) (max : Nat) : StateM (Heap SharedInput) (Option Bytes) :=
  Heap.lock r.cursor fun s => s.read max

end MemReader

/-- A buffer that is written by its writers and can be looked at. -/
structure SharedBuffer where
  bytes : Pointer
  deriving DecidableEq, Repr

/-- A writer, which adds to a buffer. -/
structure MemWriter where
  buffer : SharedBuffer
  deriving DecidableEq, Repr

namespace SharedBuffer

/-- A new buffer, which is empty. -/
def new : StateM (Heap SharedOutput) SharedBuffer := do
  let bytes ← Heap.allocate {}
  pure { bytes }

/-- Another handle of the same buffer. -/
def clone (b : SharedBuffer) : SharedBuffer :=
  { bytes := b.bytes }

/-- A writer to the buffer. -/
def writer (b : SharedBuffer) : MemWriter :=
  { buffer := b.clone }

/-- Everything written so far. -/
def contents (b : SharedBuffer) (h : Heap SharedOutput) : Option Bytes :=
  (h.get? b.bytes).map SharedOutput.bytes

/-- Everything written so far, as text. -/
def text (b : SharedBuffer) (h : Heap SharedOutput) : Option String :=
  (h.get? b.bytes).map SharedOutput.text

end SharedBuffer

namespace MemWriter

/-- Another writer to the same buffer. -/
def clone (w : MemWriter) : MemWriter :=
  { buffer := w.buffer.clone }

/-- Add bytes; the result says how many were taken. -/
def write (w : MemWriter) (data : Bytes) : StateM (Heap SharedOutput) (Option Nat) :=
  Heap.lock w.buffer.bytes fun s => s.write data

end MemWriter

/-! ### Sessions -/

/-- Where the streams of a session are. -/
inductive SessionKind
  /-- They are those of the shell's own process. -/
  | inherited
  /-- They are in memory; a program that reads the session's input is fed all of it. The streams of
  the shell's own process are then no streams of the session: there is nothing to read on them, and
  what is written to them is not kept. -/
  | captured
  deriving DecidableEq, Repr

/-- The standard streams of a session: what is in their cells, if they are in memory. -/
structure Session where
  kind : SessionKind := .captured
  stdin : SharedInput := ⟨[]⟩
  stdout : SharedOutput := {}
  stderr : SharedOutput := {}
  deriving DecidableEq, Repr

namespace Session

/-- Write to the input, from the other end. -/
def writeIn (s : Session) (data : Bytes) : Session :=
  { s with stdin := s.stdin.push data }

def writeOut (s : Session) (data : Bytes) : Session :=
  { s with stdout := (s.stdout.write data).2 }

def writeErr (s : Session) (data : Bytes) : Session :=
  { s with stderr := (s.stderr.write data).2 }

/-- Print the message of an error on the stream it belongs to. -/
def report (s : Session) (e : Error) : Session :=
  let line := encode (e.message ++ "\n")
  if e.reportsToStdout then s.writeOut line else s.writeErr line

/-- The standard output, if it is kept in memory. -/
def captured? (s : Session) (out : SharedOutput) : Option SharedOutput :=
  match s.kind with
  | .captured => some out
  | .inherited => none

end Session

end Shell
