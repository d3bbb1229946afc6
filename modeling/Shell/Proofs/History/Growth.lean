import Shell.Proofs.History.Flushed

/-!
# The growing file of a history

A history that stays with the file it was loaded from only ever adds to it. At any time the file
holds what it held when it was loaded, and behind that the entries between the number loaded and the
number flushed, one on each line. So no entry is written twice and nothing that was written is
changed, and when all is flushed every entry has been written (`History.content_run`).
-/

namespace Shell

/-! ### The file at a path -/

namespace FileSystem

/-- What a path leads to, if there is anything, is a regular file. -/
def IsFileAt (fs : FileSystem) (path : String) : Prop :=
  ∀ l e, fs.stat? [] path = some (l, e) → ∃ mode content, e = .file mode content

/-- The bytes of the file at a path. A file that is not there has none. -/
def content (fs : FileSystem) (path : String) : Bytes :=
  ((fs.place? path).map fs.bytesAt).getD []

variable {fs : FileSystem} {path : String}

lemma content_of_place {l : Location} (h : fs.place? path = some l) :
    fs.content path = fs.bytesAt l := by
  rw [content, h]
  rfl

lemma isFileAt_of_place {l : Location} (h : fs.place? path = some l) : fs.IsFileAt path := by
  intro k e hstat
  rw [stat?] at hstat
  obtain ⟨-, ⟨_, _, -, -, -, hlocate⟩ | ⟨mode, -, -, hlocate⟩⟩ := locate_of_place h
  · simp [hlocate] at hstat
  · obtain ⟨-, rfl⟩ : l = k ∧ Entry.file mode (fs.bytesAt l) = e := by simpa [hlocate] using hstat
    exact ⟨mode, _, rfl⟩

/-- A file that cannot be found for writing cannot be made either. -/
lemma IsFileAt.place_or_error (h : fs.IsFileAt path) :
    (∃ l, fs.place? path = some l) ∨ ∃ e, fs.locate .place [] path = .error e := by
  cases hlocate : fs.locate .place [] path with
  | error e => exact .inr ⟨e, rfl⟩
  | ok t =>
    left
    cases t with
    | vacant directory name => exact ⟨_, place?_eq_some_iff.mpr ⟨_, hlocate, rfl⟩⟩
    | present l e =>
      obtain ⟨hpath, hleads⟩ := locate_eq_ok_iff.mp hlocate
      rw [ite_self] at hleads
      obtain ⟨mode, content, rfl⟩ :=
        h l e (stat?_eq_some_iff.mpr ⟨hpath, hleads.target_of_place⟩)
      exact ⟨l, place?_eq_some_iff.mpr ⟨_, hlocate, rfl⟩⟩

lemma save_of_locate_error {e : IoError} (h : fs.locate .place [] path = .error e)
    (mode : WriteMode) (bytes : Bytes) : fs.save path mode bytes = (.error e, fs) := by
  simp [save, openFile, lookupFor, h]

end FileSystem

namespace History

/-- Appending that succeeds puts the pending entries at the end of the file. -/
lemma appendTo_of_ok {fs : FileSystem} {path : String} {h : History} (hfile : fs.IsFileAt path)
    (hok : (h.appendTo fs path).1 = .ok ()) :
    ∃ fs', h.appendTo fs path =
        (.ok (), { h with file := some path, flushed := h.entries.length }, fs') ∧
      fs'.IsFileAt path ∧ fs'.content path = fs.content path ++ encode (fileText h.pending) := by
  rcases hfile.place_or_error with ⟨l, hplace⟩ | ⟨e, hlocate⟩
  · have happend := appendTo_of_place h hplace
    split at happend
    · obtain ⟨fs', happend, hsaved⟩ := happend
      have hplace' := FileSystem.place?_revises hsaved.revises hplace
      refine ⟨fs', happend, FileSystem.isFileAt_of_place hplace', ?_⟩
      rw [FileSystem.content_of_place hplace', FileSystem.content_of_place hplace, hsaved.bytes]
    · rw [happend] at hok
      cases hok
  · -- nothing can be written, so there was nothing to write
    by_cases hnone : h.pending = []
    · refine ⟨fs, ?_, hfile, ?_⟩
      · simp [appendTo_eq, hnone]
      · simp [hnone, fileText, encode_eq_flatMap]
    · simp [appendTo_eq, hnone, FileSystem.save_of_locate_error hlocate] at hok

/-! ### One operation -/

/-- The operation has to do with no other file than that at `path`, and only adds to it. -/
def Operation.AddsTo (path : String) : Operation → Prop
  | .record _ => True
  | .append other => other = path
  | .flush => True
  | .read _ => False
  | .write _ => False

/-- The line that an operation records. -/
def Operation.line? : Operation → Option String
  | .record line => some line
  | _ => none

/-- The file at `path` held `base` when the history had the entries `loaded`, and it has grown by
those of the entries `new` that are flushed. -/
structure Store.Grown (path : String) (base : Bytes) (loaded new : List String) (s : Store) :
    Prop where
  file : s.history.file = some path
  isFileAt : s.files.IsFileAt path
  entries : s.history.entries = loaded ++ new
  loaded_le : loaded.length ≤ s.history.flushed
  flushed_le : s.history.flushed ≤ s.history.entries.length
  content : s.files.content path = base ++
    encode (fileText ((s.history.entries.take s.history.flushed).drop loaded.length))

namespace Store.Grown

variable {path : String} {base : Bytes} {loaded new : List String} {s t : Store}

/-- Any time can be taken as the start. -/
lemma refl (hfile : s.history.file = some path) (hfileAt : s.files.IsFileAt path)
    (hflushed : s.history.flushed ≤ s.history.entries.length) :
    s.Grown path (s.files.content path) (s.history.entries.take s.history.flushed)
      s.history.pending where
  file := hfile
  isFileAt := hfileAt
  entries := (List.take_append_drop _ _).symm
  loaded_le := List.length_take_le _ _
  flushed_le := hflushed
  content := by
    rw [List.drop_length]
    simp [fileText, encode_eq_flatMap]

lemma record (h : s.Grown path base loaded new) (line : String) :
    Grown path base loaded (new ++ recorded [line]) ⟨s.history.record line, s.files⟩ := by
  rw [record_eq]
  refine ⟨h.file, h.isFileAt, ?_, h.loaded_le, ?_, ?_⟩
  · rw [h.entries, List.append_assoc]
  · exact Nat.le_trans h.flushed_le (List.sublist_append_left _ _).length_le
  · rw [List.take_append_of_le_length h.flushed_le]
    exact h.content

/-- The new entries are those that are flushed and behind them the pending ones. -/
lemma drop_entries (h : s.Grown path base loaded new) :
    (s.history.entries.take s.history.flushed).drop loaded.length ++ s.history.pending = new := by
  have hle : loaded.length ≤ (s.history.entries.take s.history.flushed).length := by
    rw [List.length_take, Nat.min_eq_left h.flushed_le]
    exact h.loaded_le
  rw [pending, ← List.drop_append_of_le_length hle, List.take_append_drop, h.entries,
    List.drop_left]

/-- After appending, all entries are written. -/
lemma append (h : s.Grown path base loaded new)
    (hok : (s.history.appendTo s.files path).1 = .ok ()) :
    Grown path base loaded new
        ⟨(s.history.appendTo s.files path).2.1, (s.history.appendTo s.files path).2.2⟩ ∧
      FileSystem.content (s.history.appendTo s.files path).2.2 path =
        base ++ encode (fileText new) := by
  obtain ⟨fs', happend, hfileAt, hcontent⟩ := appendTo_of_ok h.isFileAt hok
  have hall : fs'.content path = base ++ encode (fileText new) := by
    rw [hcontent, h.content, List.append_assoc, ← encode_append, ← fileText_append, h.drop_entries]
  rw [happend]
  refine ⟨⟨rfl, hfileAt, h.entries, ?_, Nat.le_refl _, ?_⟩, hall⟩
  · exact Nat.le_trans h.loaded_le h.flushed_le
  · rw [hall, List.take_length, h.entries, List.drop_left]

lemma flush_eq (h : s.Grown path base loaded new) :
    s.history.flush s.files = s.history.appendTo s.files path := by
  rw [History.flush_eq, h.file]

lemma apply {op : Operation} (h : s.Grown path base loaded new) (hop : op.AddsTo path)
    (hok : (op.apply s).1 = .ok ()) :
    (op.apply s).2.Grown path base loaded (new ++ recorded op.line?.toList) := by
  have hnone : new ++ recorded [] = new := List.append_nil new
  cases op with
  | record line => exact h.record line
  | read other => cases hop
  | write other => cases hop
  | append other =>
    obtain rfl : other = path := hop
    exact hnone.symm ▸ (h.append hok).1
  | flush =>
    rw [Operation.apply, h.flush_eq] at hok ⊢
    exact hnone.symm ▸ (h.append hok).1

/-- Nothing is done where nothing is pending. -/
lemma appendTo_eq (h : s.Grown path base loaded new) (hpending : s.history.pending = []) :
    s.history.appendTo s.files path = (.ok (), s.history, s.files) := by
  have hflushed : s.history.flushed = s.history.entries.length :=
    Nat.le_antisymm h.flushed_le (List.drop_eq_nil_iff.mp hpending)
  have hsame : { s.history with file := some path, flushed := s.history.entries.length } =
      s.history := by
    rw [← h.file, ← hflushed]
  rw [History.appendTo_eq, hpending, List.isEmpty_nil, if_pos rfl, hsame]

/-! ### Runs -/

lemma run {ops : List Operation} (h : s.Grown path base loaded new)
    (hops : ∀ op ∈ ops, op.AddsTo path) (hrun : run ops s = .ok t) :
    t.Grown path base loaded (new ++ recorded (ops.filterMap Operation.line?)) := by
  induction ops generalizing s new with
  | nil =>
    cases hrun
    exact (List.append_nil new).symm ▸ h
  | cons op ops ih =>
    obtain ⟨hop, hops⟩ := List.forall_mem_cons.mp hops
    obtain ⟨hok, hrun⟩ := apply_of_run_cons hrun
    have hlines : recorded ((op :: ops).filterMap Operation.line?) =
        recorded op.line?.toList ++ recorded (ops.filterMap Operation.line?) := by
      cases hline : op.line? with
      | none => simp [hline, recorded]
      | some line =>
        rw [List.filterMap_cons, hline]
        exact recorded_cons line _
    rw [hlines, ← List.append_assoc]
    exact ih (h.apply hop hok) hops hrun

end Store.Grown

lemma grown_start {files : FileSystem} {path : String} (hfile : files.IsFileAt path) :
    (start files (some path)).Grown path (files.content path)
      (start files (some path)).history.entries [] := by
  have hstart : (start files (some path)).history.file = some path ∧
      (start files (some path)).history.flushed =
        (start files (some path)).history.entries.length := by
    rw [start, load_eq, readFrom_eq]
    cases files.readText path <;> exact ⟨rfl, rfl⟩
  obtain ⟨hpath, hflushed⟩ := hstart
  have hself := Store.Grown.refl (s := start files (some path)) hpath hfile (Nat.le_of_eq hflushed)
  rwa [pending, hflushed, List.take_length, List.drop_length] at hself

/-- A history that is loaded from a file and from then on only records lines and appends to this
file. At any time its entries are those that were loaded and those that were recorded since, and
behind what the file held at first stand the entries from the number loaded up to the number
flushed, each ending its line. What the file holds stays in it. Appending changes nothing if nothing
is pending, and when it succeeds the file has got every entry that was recorded.

The path leads to a file, or to where one may be made: a device takes the entries and keeps none of
them, and a history is flushed to `/dev/null` without being anywhere. -/
theorem content_run {files : FileSystem} {path : String} (hfile : files.IsFileAt path)
    {ops : List Operation} (hops : ∀ op ∈ ops, op.AddsTo path) {s : Store}
    (hrun : run ops (start files (some path)) = .ok s) :
    let loaded := (start files (some path)).history.entries
    let new := recorded (ops.filterMap Operation.line?)
    s.history.entries = loaded ++ new ∧
    loaded.length ≤ s.history.flushed ∧ s.history.flushed ≤ s.history.entries.length ∧
    s.files.content path = files.content path ++
      encode (fileText ((s.history.entries.take s.history.flushed).drop loaded.length)) ∧
    (∀ (more : List Operation) (t : Store), (∀ op ∈ more, op.AddsTo path) → run more s = .ok t →
      s.files.content path <+: t.files.content path) ∧
    ∀ op : Operation, op = .append path ∨ op = .flush →
      (s.history.pending = [] → op.apply s = (.ok (), s)) ∧
      ∀ t : Store, op.apply s = (.ok (), t) →
        t.files.content path = files.content path ++ encode (fileText new) := by
  intro loaded new
  have hgrown : s.Grown path (files.content path) loaded new := (grown_start hfile).run hops hrun
  refine ⟨hgrown.entries, hgrown.loaded_le, hgrown.flushed_le, hgrown.content, ?_, ?_⟩
  · intro more t hmore hrun'
    have hself := Store.Grown.refl hgrown.file hgrown.isFileAt hgrown.flushed_le
    rw [(hself.run hmore hrun').content]
    exact List.prefix_append _ _
  · intro op hop
    have happly : op.apply s = ((s.history.appendTo s.files path).1,
        ⟨(s.history.appendTo s.files path).2.1, (s.history.appendTo s.files path).2.2⟩) := by
      rcases hop with rfl | rfl
      · rfl
      · rw [Operation.apply, hgrown.flush_eq]
    rw [happly]
    constructor
    · intro hpending
      rw [hgrown.appendTo_eq hpending]
    · intro t ht
      obtain ⟨hok, rfl⟩ := Prod.mk.inj ht
      exact (hgrown.append hok).2

/-- Appending twice and flushing twice, to a file whose last line is unfinished. -/
theorem content_run_unfinished :
    let ops : List Operation :=
      [.record " pwd ", .append "/h", .flush, .record "", .record "cd /", .flush]
    (onlyFile "ls").IsFileAt "/h" ∧ (∀ op ∈ ops, op.AddsTo "/h") ∧
    ∃ s, run ops (start (onlyFile "ls") (some "/h")) = .ok s ∧
      s.history.entries = ["ls", "pwd", "cd /"] ∧
      s.files.content "/h" = encode "ls" ++ encode "pwd\ncd /\n" := by
  intro ops
  have hfile : (onlyFile "ls").IsFileAt "/h" := FileSystem.isFileAt_of_place (place?_onlyFile "ls")
  have hcontent : (onlyFile "ls").content "/h" = encode "ls" :=
    FileSystem.content_of_place (place?_onlyFile "ls")
  have hops : ∀ op ∈ ops, op.AddsTo "/h" := by simp [ops, Operation.AddsTo]
  have hstart : start (onlyFile "ls") (some "/h") = ⟨⟨["ls"], some "/h", 1⟩, onlyFile "ls"⟩ := by
    simp only [start, load_eq, readFrom_eq, readText_onlyFile]
    rfl
  have hrun : run ops (start (onlyFile "ls") (some "/h")) =
      .ok ⟨⟨["ls", "pwd", "cd /"], some "/h", 3⟩,
        onlyFile ("ls" ++ "pwd\n" ++ "" ++ "cd /\n")⟩ := by
    have hpwd : recorded [" pwd "] = ["pwd"] := by decide
    have hblank : recorded [""] = [] := by decide
    have hcd : recorded ["cd /"] = ["cd /"] := by decide
    simp only [ops, hstart, run, Operation.apply, record_eq, hpwd, hblank, hcd, appendTo_onlyFile,
      flush_eq]
    rfl
  obtain ⟨-, -, -, hgrown, -⟩ := content_run hfile hops hrun
  refine ⟨hfile, hops, _, hrun, rfl, ?_⟩
  rw [hgrown, hcontent, hstart]
  rfl

end History

end Shell
