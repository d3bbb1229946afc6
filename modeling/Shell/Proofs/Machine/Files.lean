import Mathlib.Tactic.Lemma
import Shell.Machine.Files
import Shell.Proofs.FileSystem.Regular

/-!
# Files that are no streams

Where a path leads to no stream of the session, the shell reads and saves on the machine as on its
files alone, and the rest of the machine stays as it is. A path to a regular file is such a path,
and in a session that is kept in memory every path is.
-/

namespace Shell

/-- What is read at the path has an end, and is no stream of the shell's own process. -/
def FileSystem.IsStill (fs : FileSystem) (path : String) : Prop :=
  ∀ f fs', fs.openFile [] path .read = .ok (f, fs') → ∀ d, f = .device d → d = .null

namespace Machine

variable {m : Machine} {path : String}

/-- The files of the machine. -/
def filesPart : Part Machine FileSystem where
  get := files
  set m files := { m with files }
  set_get _ := rfl
  get_set _ _ := rfl
  set_set _ _ _ := rfl

/-- What the path leads to is no stream of the session when it is opened. -/
def IsPlain (m : Machine) (path : String) (access : Access) : Prop :=
  ∀ f fs, m.files.openFile [] path access = .ok (f, fs) → m.channel f = .file f

lemma isPlain_of_captured (h : m.session.kind = .captured) (path : String) (access : Access) :
    m.IsPlain path access := by
  intro f fs hopen
  simp only [channel, h]

/-- Of the devices that can be read only the null device is no stream and has an end. -/
lemma isPlain_of_isStill (h : m.files.IsStill path) : m.IsPlain path .read := by
  intro f fs hopen
  have hdevice := h f fs hopen
  cases f with
  | file l => exact m.channel_file l
  | directory l => exact m.channel_directory l
  | device d =>
    obtain rfl := hdevice d rfl
    cases hkind : m.session.kind <;> simp [channel, channelOf, hkind]

lemma isPlain_read_of_place {l : Location} (h : m.files.place? path = some l) :
    m.IsPlain path .read := by
  intro f fs hopen
  obtain ⟨-, ⟨_, _, -, -, -, hlocate⟩ | ⟨bits, -, -, hlocate⟩⟩ := FileSystem.locate_of_place h
  · simp [FileSystem.openFile, FileSystem.lookupFor, hlocate] at hopen
  · simp only [FileSystem.openFile, FileSystem.lookupFor, hlocate] at hopen
    split at hopen
    · cases hopen
    · split at hopen
      · cases hopen
      · cases hopen
        exact m.channel_file l

lemma isPlain_write_of_place {l : Location} (h : m.files.place? path = some l) (mode : WriteMode) :
    m.IsPlain path (.write mode) := by
  intro f fs hopen
  have hplace := FileSystem.openFile_of_place h mode
  rw [hopen] at hplace
  split at hplace
  · obtain ⟨_, _, heq, -⟩ := hplace
    cases heq
    exact m.channel_file l
  · cases hplace

/-! ### The disk -/

lemma disk_read (h : m.IsPlain path .read) :
    disk.read path m = filesPart.lift (FileSystem.disk.read path) m := by
  simp only [Part.lift_apply, filesPart, disk, FileSystem.disk, FileSystem.readText,
    FileSystem.read]
  cases hopen : m.files.openFile [] path .read with
  | error e => rfl
  | ok opened =>
    simp only [readAll, h _ _ hopen]

lemma disk_save {mode : WriteMode} (h : m.IsPlain path (.write mode)) (bytes : Bytes) :
    disk.save path mode bytes m = filesPart.lift (FileSystem.disk.save path mode bytes) m := by
  simp only [Part.lift_apply, filesPart, disk, FileSystem.disk, FileSystem.save]
  cases hopen : m.files.openFile [] path (.write mode) with
  | error e => rfl
  | ok opened =>
    obtain ⟨f, fs⟩ := opened
    have hchannel : ({ m with files := fs } : Machine).channel f = .file f := h _ _ hopen
    by_cases hbytes : bytes.isEmpty = true
    · simp [write, FileSystem.writeAt, hbytes]
    · simp only [write, hbytes, Bool.false_eq_true, if_false, hchannel]
      cases fs.writeAt f (FileSystem.nextOffset 0 mode) bytes <;> rfl

/-! ### The history -/

lemma readFile_eq (h : m.IsPlain path .read) (history : History) :
    history.readFile disk path m = (history.readFrom m.files path, m) := by
  rw [History.readFile, bind_apply, disk_read h, History.readFrom_eq, Part.lift_apply]
  cases hread : m.files.readText path <;> simp only [filesPart, FileSystem.disk, hread] <;> rfl

lemma readFile_disk (history : History) (path : String) (fs : FileSystem) :
    history.readFile FileSystem.disk path fs = (history.readFrom fs path, fs) := by
  rw [History.readFrom_eq, History.readFile, bind_apply]
  cases hread : fs.readText path <;> simp only [FileSystem.disk, hread] <;> rfl

lemma loadFile_eq (h : m.IsPlain path .read) (history : History) :
    history.loadFile disk path m = (history.load m.files path, m) := by
  rw [History.loadFile, bind_apply, readFile_eq h, History.load_eq]
  rfl

lemma writeFile_eq (h : m.IsPlain path (.write .truncate)) (history : History) :
    history.writeFile disk path m =
      let (result, history, files) := history.writeTo m.files path
      ((result, history), { m with files }) := by
  rw [History.writeFile, bind_apply, disk_save h, History.writeTo_eq, Part.lift_apply]
  rcases hsave : m.files.save path .truncate (encode (History.fileText history.entries)) with
    ⟨_ | _, _⟩ <;> simp only [filesPart, FileSystem.disk, hsave] <;> rfl

lemma appendFile_eq (h : m.IsPlain path (.write .append)) (history : History) :
    history.appendFile disk path m =
      let (result, history, files) := history.appendTo m.files path
      ((result, history), { m with files }) := by
  have hpending : ({ history with file := some path } : History).pending = history.pending := rfl
  rw [History.appendTo_eq]
  simp only [History.appendFile, hpending]
  by_cases hempty : history.pending.isEmpty = true
  · simp only [hempty, if_true]
    rfl
  · simp only [hempty, Bool.false_eq_true, if_false]
    rw [bind_apply, disk_save h, Part.lift_apply]
    rcases hsave : m.files.save path .append (encode (History.fileText history.pending)) with
      ⟨_ | _, _⟩ <;> simp only [filesPart, FileSystem.disk, hsave] <;> rfl

end Machine

end Shell
