import Shell.FileSystem.Disk
import Shell.Text.Blank
import Shell.Text.Lines

/-!
# Command history

The lines of a session in order, with the file that keeps them between sessions. The first
`flushed` entries are not written again when pending entries are appended to that file.
-/

namespace Shell

structure History where
  entries : List String := []
  /-- The file last used for reading, writing or appending. -/
  file : Option String := none
  flushed : Nat := 0
  deriving DecidableEq, Repr

namespace History

/-- Add a line, without the blanks at its ends. A blank line is not added. -/
def record (h : History) (line : String) : History :=
  let line := trimBlank line
  if line = "" then h else { h with entries := h.entries ++ [line] }

/-- One line of the listing: the position, right-aligned in five columns, and the entry. -/
def formatEntry (position : Nat) (entry : String) : String :=
  padLeft 5 (toString position) ++ "  " ++ entry ++ "\n"

/-- The listing of the last `limit` entries, or of all. Positions count from one in the whole
history. -/
def format (h : History) (limit : Option Nat) : String :=
  let start := match limit with
    | none => 0
    | some n => h.entries.length - n
  String.join ((h.entries.zipIdx 1).drop start |>.map fun (entry, position) =>
    formatEntry position entry)

/-- The text of a file that holds these entries, one on each line. -/
def fileText (entries : List String) : String :=
  String.join (entries.map (· ++ "\n"))

/-- The entries that a file with this text holds: its lines that are not blank. -/
def ofFileText (text : String) : List String :=
  (textLines text).filter fun line => !isBlankText line

/-- The entries that have not been written yet. -/
def pending (h : History) : List String :=
  h.entries.drop h.flushed

/-! ### Files of a disk -/

section

variable {σ : Type} (d : Disk σ)

/-- Add the lines of a file. They do not count as flushed. -/
def readFile (h : History) (path : String) : StateM σ (Except IoError Unit × History) := do
  let h := { h with file := some path }
  match ← d.read path with
  | .error e => pure (.error e, h)
  | .ok text => pure (.ok (), { h with entries := h.entries ++ ofFileText text })

/-- Read the file of the last session. All entries there are now count as flushed, also when the
file could not be read. -/
def loadFile (h : History) (path : String) : StateM σ (Except IoError Unit × History) := do
  let (result, h) ← h.readFile d path
  pure (result, { h with flushed := h.entries.length })

/-- Replace the content of a file by the whole history. -/
def writeFile (h : History) (path : String) : StateM σ (Except IoError Unit × History) := do
  let h := { h with file := some path }
  match ← d.save path .truncate (encode (fileText h.entries)) with
  | .error e => pure (.error e, h)
  | .ok () => pure (.ok (), { h with flushed := h.entries.length })

/-- Add the pending entries to the end of a file. The file is not touched if there are none. -/
def appendFile (h : History) (path : String) : StateM σ (Except IoError Unit × History) := do
  let h := { h with file := some path }
  if h.pending.isEmpty then pure (.ok (), { h with flushed := h.entries.length })
  else match ← d.save path .append (encode (fileText h.pending)) with
    | .error e => pure (.error e, h)
    | .ok () => pure (.ok (), { h with flushed := h.entries.length })

/-- Add the pending entries to the end of the history's own file, if it has one. -/
def flushFile (h : History) : StateM σ (Except IoError Unit × History) :=
  match h.file with
  | some path => h.appendFile d path
  | none => pure (.ok (), h)

/-! The disk may be part of a larger state. -/

variable {τ : Type} (p : Part τ σ) (h : History) (path : String)

theorem readFile_within : h.readFile (d.within p) path = p.lift (h.readFile d path) := by
  simp only [readFile, Disk.within, Part.lift_bind]
  congr 1
  funext r
  cases r <;> simp only [Part.lift_pure]

theorem writeFile_within : h.writeFile (d.within p) path = p.lift (h.writeFile d path) := by
  simp only [writeFile, Disk.within, Part.lift_bind]
  congr 1
  funext r
  cases r <;> simp only [Part.lift_pure]

theorem appendFile_within : h.appendFile (d.within p) path = p.lift (h.appendFile d path) := by
  simp only [appendFile]
  split
  · rw [Part.lift_pure]
  · simp only [Disk.within, Part.lift_bind]
    congr 1
    funext r
    cases r <;> simp only [Part.lift_pure]

theorem flushFile_within : h.flushFile (d.within p) = p.lift (h.flushFile d) := by
  unfold flushFile
  split
  · exact h.appendFile_within d p _
  · rw [Part.lift_pure]

end

/-! ### Files alone -/

/-- `readFile` on the files alone, which are left as they are. -/
def readFrom (h : History) (fs : FileSystem) (path : String) : Except IoError Unit × History :=
  (h.readFile FileSystem.disk path fs).1

/-- `loadFile` on the files alone. -/
def load (h : History) (fs : FileSystem) (path : String) : Except IoError Unit × History :=
  (h.loadFile FileSystem.disk path fs).1

/-- `writeFile` on the files alone. -/
def writeTo (h : History) (fs : FileSystem) (path : String) :
    Except IoError Unit × History × FileSystem :=
  let ((result, h), fs) := h.writeFile FileSystem.disk path fs
  (result, h, fs)

/-- `appendFile` on the files alone. -/
def appendTo (h : History) (fs : FileSystem) (path : String) :
    Except IoError Unit × History × FileSystem :=
  let ((result, h), fs) := h.appendFile FileSystem.disk path fs
  (result, h, fs)

/-- `flushFile` on the files alone. -/
def flush (h : History) (fs : FileSystem) : Except IoError Unit × History × FileSystem :=
  let ((result, h), fs) := h.flushFile FileSystem.disk fs
  (result, h, fs)

section

variable (h : History) (fs : FileSystem) (path : String)

theorem readFrom_eq : h.readFrom fs path =
    match fs.readText path with
    | .error e => (.error e, { h with file := some path })
    | .ok text =>
      (.ok (), { h with file := some path, entries := h.entries ++ ofFileText text }) := by
  simp only [readFrom, readFile, FileSystem.disk, bind, StateT.bind]
  cases fs.readText path <;> rfl

theorem load_eq : h.load fs path =
    ((h.readFrom fs path).1,
      { (h.readFrom fs path).2 with flushed := (h.readFrom fs path).2.entries.length }) :=
  rfl

theorem writeTo_eq : h.writeTo fs path =
    match fs.save path .truncate (encode (fileText h.entries)) with
    | (.error e, fs) => (.error e, { h with file := some path }, fs)
    | (.ok (), fs) => (.ok (), { h with file := some path, flushed := h.entries.length }, fs) := by
  simp only [writeTo, writeFile, FileSystem.disk, bind, StateT.bind]
  rcases fs.save path .truncate (encode (fileText h.entries)) with ⟨_ | _, _⟩ <;> rfl

theorem appendTo_eq : h.appendTo fs path =
    if h.pending.isEmpty then
      (.ok (), { h with file := some path, flushed := h.entries.length }, fs)
    else match fs.save path .append (encode (fileText h.pending)) with
      | (.error e, fs) => (.error e, { h with file := some path }, fs)
      | (.ok (), fs) =>
        (.ok (), { h with file := some path, flushed := h.entries.length }, fs) := by
  have hpending : ({ h with file := some path } : History).pending = h.pending := rfl
  simp only [appendTo, appendFile, hpending]
  by_cases hempty : h.pending.isEmpty
  · simp only [hempty, if_true]
    rfl
  · simp only [hempty, Bool.false_eq_true, if_false, FileSystem.disk, bind, StateT.bind]
    rcases fs.save path .append (encode (fileText h.pending)) with ⟨_ | _, _⟩ <;> rfl

theorem flush_eq : h.flush fs =
    match h.file with
    | some path => h.appendTo fs path
    | none => (.ok (), h, fs) := by
  simp only [flush, flushFile]
  cases h.file <;> rfl

end

end History

end Shell
