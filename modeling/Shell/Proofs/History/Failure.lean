import Shell.Proofs.History.Flushed

/-!
# Failed operations on a history

Reading, writing and appending take the path they are given for the file of the history before they
try it. When they fail they have changed nothing else, neither the entries nor any file. But what is
pending is flushed to the path that failed from then on, so that the file the history had before
gets its pending entries only if that path leads there too (`History.flush_of_error`).
-/

namespace Shell

namespace FileSystem

/-- What is open is not a regular file: nothing can be written to it that is kept. -/
lemma files_of_writeAt {fs fs' : FileSystem} {f : OpenFile} {offset : Option Nat} {bytes : Bytes}
    {after : Nat} (hf : ∀ l mode content, f = .file l → fs.get? l ≠ some (.file mode content))
    (h : fs.writeAt f offset bytes = .ok (fs', after)) : fs' = fs := by
  rcases writeAt_cases h with rfl | ⟨l, mode, content, _, hfile, hget, -⟩
  · rfl
  · exact absurd hget (hf l mode content hfile)

/-- Saving at a path that leads to no regular file, nor to the place of one, changes no file. -/
lemma files_save_of_place?_none {fs : FileSystem} {path : String} (h : fs.place? path = none)
    (mode : WriteMode) (bytes : Bytes) : (fs.save path mode bytes).2 = fs := by
  -- whatever is opened, it was there before and is no regular file
  have hopen : ∀ f opened, fs.openFile [] path (.write mode) = .ok (f, opened) →
      opened = fs ∧ ∀ l bits content, f = .file l → fs.get? l ≠ some (.file bits content) := by
    intro f opened hopen
    rw [openFile] at hopen
    cases hlocate : fs.locate .place [] path with
    | error e => simp [lookupFor, hlocate] at hopen
    | ok t =>
      rw [place?, hlocate] at h
      cases t with
      | vacant directory name => cases h
      | present k e =>
        obtain ⟨-, hleads⟩ := locate_eq_ok_iff.mp hlocate
        cases e with
        | file bits content => cases h
        | directory => simp [lookupFor, hlocate] at hopen
        | device d =>
          obtain ⟨rfl, rfl⟩ : .device d = f ∧ fs = opened := by
            simpa [lookupFor, hlocate] using hopen
          exact ⟨rfl, fun l bits content hfile => by cases hfile⟩
        | _ =>
          obtain ⟨-, hget⟩ := get?_of_leads_present hleads (by simp)
          obtain ⟨rfl, rfl⟩ : .file k = f ∧ fs = opened := by
            simpa [lookupFor, hlocate] using hopen
          refine ⟨rfl, fun l bits content hfile => ?_⟩
          cases hfile
          simp [hget]
  rw [save]
  split
  · rfl
  · rename_i f opened hopened
    obtain ⟨rfl, hf⟩ := hopen f opened hopened
    split
    · rfl
    · rename_i hwrite
      exact files_of_writeAt hf hwrite

/-- Saving that fails changes no file. -/
lemma files_of_save_error {fs fs' : FileSystem} {path : String} {mode : WriteMode} {bytes : Bytes}
    {e : IoError} (h : fs.save path mode bytes = (.error e, fs')) : fs' = fs := by
  cases hplace : fs.place? path with
  | none => rw [← files_save_of_place?_none hplace mode bytes, h]
  | some l =>
    have hcases := save_cases hplace mode bytes
    split at hcases
    · obtain ⟨fs'', hsave, -⟩ := hcases
      rw [h] at hsave
      cases hsave
    · rw [h] at hcases
      cases hcases
      rfl

/-- Saving at a path that leads elsewhere leaves the file at a location alone. -/
lemma get?_save_of_place?_ne {fs : FileSystem} {path : String} {l : Location}
    (h : fs.place? path ≠ some l) (mode : WriteMode) (bytes : Bytes) :
    (fs.save path mode bytes).2.get? l = fs.get? l := by
  cases hplace : fs.place? path with
  | none => rw [files_save_of_place?_none hplace]
  | some k =>
    have hne : l ≠ k := by
      rintro rfl
      exact h hplace
    have hcases := save_cases hplace mode bytes
    split at hcases
    · obtain ⟨fs', hsave, hsaved⟩ := hcases
      rw [hsave]
      exact hsaved.others l hne
    · rw [hcases]

end FileSystem

namespace History

/-- The path that an operation is given. -/
def Operation.given? : Operation → Option String
  | .read path => some path
  | .write path => some path
  | .append path => some path
  | .record _ => none
  | .flush => none

/-- A failed operation has taken its path for the file of the history, and that is all. -/
lemma apply_of_error {op : Operation} {path : String} (hgiven : op.given? = some path) {s t : Store}
    {e : IoError} (h : op.apply s = (.error e, t)) :
    t = ⟨{ s.history with file := some path }, s.files⟩ := by
  cases op with
  | record line => cases hgiven
  | flush => cases hgiven
  | read other =>
    obtain rfl : other = path := Option.some.inj hgiven
    rw [Operation.apply, readFrom_eq] at h
    dsimp only at h
    split at h
    · cases h
      rfl
    · cases h
  | write other =>
    obtain rfl : other = path := Option.some.inj hgiven
    rw [Operation.apply, writeTo_eq] at h
    dsimp only at h
    split at h
    · rename_i hsave
      cases h
      rw [FileSystem.files_of_save_error hsave]
    · cases h
  | append other =>
    obtain rfl : other = path := Option.some.inj hgiven
    rw [Operation.apply, appendTo_eq] at h
    dsimp only at h
    split at h
    · cases h
    split at h
    · rename_i hsave
      cases h
      rw [FileSystem.files_of_save_error hsave]
    · cases h

lemma get?_appendTo_of_place?_ne {h : History} {fs : FileSystem} {path : String} {l : Location}
    (hne : fs.place? path ≠ some l) : (h.appendTo fs path).2.2.get? l = fs.get? l := by
  have hsave := FileSystem.get?_save_of_place?_ne hne .append (encode (fileText h.pending))
  rw [appendTo_eq]
  split
  · rfl
  split <;> rename_i heq <;> rwa [heq] at hsave

/-- Nothing is written exactly if there is no entry. -/
lemma encode_fileText_eq_nil {es : List String} : encode (fileText es) = [] ↔ es = [] := by
  cases es with
  | nil => exact ⟨fun _ => rfl, fun _ => rfl⟩
  | cons e es =>
    rw [fileText_cons, encode_append, encode_append]
    simp [show encode "\n" = [10] from rfl]

/-- The file at `l` gets the pending entries exactly if there are none, or it is the one that they
are appended to. -/
lemma bytesAt_appendTo_iff {h : History} {fs : FileSystem} {path : String} {l : Location}
    (hmay : fs.mayWriteAt l = true) :
    (h.appendTo fs path).2.2.bytesAt l = fs.bytesAt l ++ encode (fileText h.pending) ↔
      h.pending = [] ∨ fs.place? path = some l := by
  by_cases hplace : fs.place? path = some l
  · have happend := appendTo_of_place h hplace
    rw [if_pos (.inr hmay)] at happend
    obtain ⟨fs', happend, hsaved⟩ := happend
    rw [happend]
    exact ⟨fun _ => .inr hplace, fun _ => hsaved.bytes⟩
  · have hsame : (h.appendTo fs path).2.2.bytesAt l = fs.bytesAt l := by
      rw [FileSystem.bytesAt, get?_appendTo_of_place?_ne hplace, FileSystem.bytesAt]
    rw [hsame, List.self_eq_append_right, encode_fileText_eq_nil]
    exact ⟨.inl, fun hor => hor.resolve_right hplace⟩

/-- Flushing puts the pending entries at the end of the history's own file. -/
lemma flush_of_place {s : Store} {l : Location} (hplace : s.place? = some l)
    (hmay : s.files.mayWriteAt l = true) :
    (Operation.flush.apply s).1 = .ok () ∧
      (Operation.flush.apply s).2.files.bytesAt l =
        s.files.bytesAt l ++ encode (fileText s.history.pending) := by
  obtain ⟨file, hfile, hplace⟩ := Option.bind_eq_some_iff.mp hplace
  have happend := appendTo_of_place s.history hplace
  rw [if_pos (.inr hmay)] at happend
  obtain ⟨fs', happend, hsaved⟩ := happend
  simp only [Operation.apply, flush_eq, hfile, happend, true_and]
  exact hsaved.bytes

/-- A history has a file that can be appended to, and an operation with some path fails. Without it
a flush would give the file its pending entries. After it the entries, the number of those that are
flushed and all files are as before, but the flush appends to the path that failed. The file of the
history then gets its pending entries exactly if there are none, or the path leads to this file.

The files are as before since they have room for all that is written: what fails is the opening of a
file, or the reading of its text, or writing to a device that takes nothing. -/
theorem flush_of_error {s t : Store} {path : String} {l : Location} {op : Operation} {e : IoError}
    (hplace : s.place? = some l) (hmay : s.files.mayWriteAt l = true)
    (hgiven : op.given? = some path) (hfail : op.apply s = (.error e, t)) :
    ((Operation.flush.apply s).1 = .ok () ∧
      (Operation.flush.apply s).2.files.bytesAt l =
        s.files.bytesAt l ++ encode (fileText s.history.pending)) ∧
    t.history.entries = s.history.entries ∧ t.history.flushed = s.history.flushed ∧
    t.files = s.files ∧ Operation.flush.apply t = (Operation.append path).apply s ∧
    ((Operation.flush.apply t).2.files.bytesAt l =
        s.files.bytesAt l ++ encode (fileText s.history.pending) ↔
      s.history.pending = [] ∨ s.files.place? path = some l) := by
  obtain rfl := apply_of_error hgiven hfail
  -- appending sets the path itself, whatever file the history had before
  have hflush : Operation.flush.apply ⟨{ s.history with file := some path }, s.files⟩ =
      (Operation.append path).apply s := rfl
  refine ⟨flush_of_place hplace hmay, rfl, rfl, rfl, hflush, ?_⟩
  rw [hflush]
  exact bytesAt_appendTo_iff hmay

/-- A history is written to a directory, which fails, and then flushed. -/
theorem flush_of_error_directory :
    let s : Store := ⟨⟨["ls", "pwd"], some "/h", 1⟩, onlyFile "ls\n"⟩
    ∃ t, (Operation.write "/").apply s = (.error (.os .isDirectory), t) ∧
      t.history.pending = ["pwd"] ∧
      (Operation.flush.apply t).2.files.bytesAt ["h"] ≠ encode "ls\npwd\n" := by
  intro s
  have hlocate : (onlyFile "ls\n").locate .place [] "/" = .ok (.present [] .directory) :=
    FileSystem.locate_eq_ok_iff.mpr ⟨by decide, .arrive _ _⟩
  have hfail : (Operation.write "/").apply s =
      (.error (.os .isDirectory), ⟨⟨["ls", "pwd"], some "/", 1⟩, onlyFile "ls\n"⟩) := by
    simp [s, Operation.apply, writeTo_eq, FileSystem.save, FileSystem.openFile,
      FileSystem.lookupFor, hlocate]
  have hplace : s.place? = some ["h"] := place?_onlyFile "ls\n"
  have hroot : (onlyFile "ls\n").place? "/" = none := by
    rw [FileSystem.place?, hlocate]
    rfl
  refine ⟨_, hfail, rfl, ?_⟩
  obtain ⟨-, -, -, -, -, hiff⟩ := flush_of_error hplace (mayWriteAt_onlyFile _) rfl hfail
  intro hbytes
  have hpending := hiff.mp hbytes
  simp [s, pending, hroot] at hpending

/-- A history fails to read a file that is not there. Its pending entry is then flushed to a new
file at that path and not to the file that the history had. -/
theorem flush_of_error_missing :
    let s : Store := ⟨⟨["ls"], some "/h", 0⟩, onlyFile ""⟩
    ∃ t, (Operation.read "/p").apply s = (.error (.os .noEntry), t) ∧
      (Operation.flush.apply t).1 = .ok () ∧
      (Operation.flush.apply t).2.files.bytesAt ["h"] = [] ∧
      (Operation.flush.apply t).2.files.bytesAt ["p"] = encode "ls\n" := by
  intro s
  have hplace : (onlyFile "").place? "/p" = some ["p"] :=
    FileSystem.place?_of_steps (by decide) (by decide) (by decide) (.same none)
  have hread : (onlyFile "").readText "/p" = .error (.os .noEntry) := by
    rw [FileSystem.readText, FileSystem.read_of_place hplace]
    rfl
  have happend := appendTo_of_place ⟨["ls"], some "/p", 0⟩ hplace
  rw [if_pos (.inr rfl)] at happend
  obtain ⟨fs', happend, hsaved⟩ := happend
  refine ⟨⟨⟨["ls"], some "/p", 0⟩, onlyFile ""⟩, ?_, ?_, ?_, ?_⟩
  · simp [s, Operation.apply, readFrom_eq, hread]
  · simp [Operation.apply, flush_eq, happend]
  · simp only [Operation.apply, flush_eq, happend]
    rw [FileSystem.bytesAt, hsaved.others ["h"] (by decide)]
    rfl
  · simp only [Operation.apply, flush_eq, happend]
    exact hsaved.bytes

end History

end Shell
