import Mathlib.Tactic.Lemma
import Shell.Proofs.History.Reload

/-!
# Flushed entries

The entries of a history that count as flushed stand in the file that the history used last. This is
so as long as the history stays with the file that it has flushed to, or goes on to another by
writing that as a whole: reading from another file, or appending to it, takes the flushed entries to
stand there although they do not. What is appended has to begin a new line as well.
-/

namespace Shell

namespace History

/-! ### Operations -/

/-- A history and the files around it. -/
structure Store where
  history : History
  files : FileSystem

/-- What is done with a history. -/
inductive Operation
  | record (line : String)
  | read (path : String)
  | write (path : String)
  | append (path : String)
  | flush
  deriving DecidableEq, Repr

/-- One operation on a history and the files. -/
def Operation.apply (s : Store) : Operation → Except IoError Unit × Store
  | .record line => (.ok (), ⟨s.history.record line, s.files⟩)
  | .read path =>
    let (result, history) := s.history.readFrom s.files path
    (result, ⟨history, s.files⟩)
  | .write path =>
    let (result, history, files) := s.history.writeTo s.files path
    (result, ⟨history, files⟩)
  | .append path =>
    let (result, history, files) := s.history.appendTo s.files path
    (result, ⟨history, files⟩)
  | .flush =>
    let (result, history, files) := s.history.flush s.files
    (result, ⟨history, files⟩)

/-- Operations one after the other. The first that fails ends the run. -/
def run : List Operation → Store → Except IoError Store
  | [], s => .ok s
  | op :: ops, s =>
    match op.apply s with
    | (.error e, _) => .error e
    | (.ok (), s) => run ops s

lemma apply_of_run_cons {op : Operation} {ops : List Operation} {s t : Store}
    (h : run (op :: ops) s = .ok t) : (op.apply s).1 = .ok () ∧ run ops (op.apply s).2 = .ok t := by
  rw [run] at h
  split at h
  · cases h
  · rename_i s' happly
    rw [happly]
    exact ⟨rfl, h⟩

/-- A new history, or one that is loaded from a file. -/
def start (files : FileSystem) (loaded : Option String) : Store :=
  match loaded with
  | none => ⟨{}, files⟩
  | some path => ⟨(load {} files path).2, files⟩

/-! ### Staying with the file -/

/-- Where the file is that the history used last. -/
def Store.place? (s : Store) : Option Location :=
  s.history.file.bind s.files.place?

/-- The file at a path has the flushed entries if there are any, and lines can be added to it. -/
def Store.Continues (s : Store) (path : String) : Prop :=
  ∃ l, s.files.place? path = some l ∧ (s.history.flushed = 0 ∨ s.place? = some l) ∧
    (s.history.pending = [] ∨ EndsLine 10 (s.files.bytesAt l))

/-- The operation does not leave flushed entries behind in another file, nor does it write to an
unfinished line or to anything but a regular file. -/
def Operation.Stays (s : Store) : Operation → Prop
  | .record line => '\n' ∉ line.toList
  | .read path => s.history.flushed = 0 ∨ s.files.place? path = s.place?
  | .write path => ∃ l, s.files.place? path = some l
  | .append path => s.Continues path
  | .flush => ∀ path, s.history.file = some path → s.Continues path

/-- Every operation of a run stays with the file. -/
def Stays : List Operation → Store → Prop
  | [], _ => True
  | op :: ops, s => op.Stays s ∧ Stays ops (op.apply s).2

/-! ### One operation -/

/-- The flushed entries stand in the file of the history. -/
structure Store.Kept (s : Store) : Prop where
  flushed_le : s.history.flushed ≤ s.history.entries.length
  no_feed : ∀ e ∈ s.history.entries, '\n' ∉ e.toList
  on_lines : s.history.flushed ≠ 0 → ∃ l, s.place? = some l ∧
    ∀ e ∈ s.history.entries.take s.history.flushed, HasLine (s.files.bytesAt l) e

/-- The entries that a history writes stand on lines of their own. -/
lemma hasLine_fileText {es : List String} (hes : ∀ e ∈ es, '\n' ∉ e.toList) {e : String}
    (he : e ∈ es) : HasLine (encode (fileText es)) e := by
  induction es with
  | nil => cases he
  | cons d es ih =>
    obtain ⟨hd, hes⟩ := List.forall_mem_cons.mp hes
    have hline : EndsLine 10 (encode (d ++ "\n")) := by
      rw [encode_append]
      exact .inr (by simp [show encode "\n" = [10] from rfl])
    rw [fileText_cons, encode_append]
    rcases List.mem_cons.mp he with rfl | he
    · refine HasLine.append_left ?_ hline _
      have hfeed : (10 : UInt8) ∉ encode e := by rwa [feed_mem_encode]
      refine ⟨(encode e, true), ?_, .inl rfl⟩
      rw [encode_append, show encode "\n" = [10] from rfl, cutLines_line hfeed]
      simp
    · exact (ih hes he).append_right hline

lemma feed_notMem_of_mem_ofFileText {text e : String} (h : e ∈ ofFileText text) :
    '\n' ∉ e.toList :=
  feed_notMem_of_mem_textLines (List.mem_filter.mp h).1

/-- Entries are added, and the history may name its file anew. -/
lemma Store.Kept.extend {s : Store} (h : s.Kept) {added : List String}
    (hadded : ∀ e ∈ added, '\n' ∉ e.toList) {file : Option String}
    (hfile : s.history.flushed = 0 ∨ file.bind s.files.place? = s.place?) :
    Store.Kept ⟨⟨s.history.entries ++ added, file, s.history.flushed⟩, s.files⟩ where
  flushed_le := by
    have hle := h.flushed_le
    simp only [List.length_append]
    omega
  no_feed e he := by
    rcases List.mem_append.mp he with he | he
    · exact h.no_feed e he
    · exact hadded e he
  on_lines hne := by
    obtain ⟨l, hplace, hlines⟩ := h.on_lines hne
    refine ⟨l, (hfile.resolve_left hne).trans hplace, ?_⟩
    rw [List.take_append_of_le_length h.flushed_le]
    exact hlines

/-- All entries are on lines of the file that the history names now. -/
lemma Store.Kept.all {s : Store} {files : FileSystem} {path : String} {l : Location} (h : s.Kept)
    (hplace : files.place? path = some l)
    (hlines : ∀ e ∈ s.history.entries, HasLine (files.bytesAt l) e) :
    Store.Kept
      ⟨{ s.history with file := some path, flushed := s.history.entries.length }, files⟩ where
  flushed_le := Nat.le_refl _
  no_feed := h.no_feed
  on_lines _ := ⟨l, hplace, fun e he => hlines e (List.mem_of_mem_take he)⟩

lemma Store.Kept.write {s : Store} {path : String} {l : Location} (h : s.Kept)
    (hplace : s.files.place? path = some l) (hok : (s.history.writeTo s.files path).1 = .ok ()) :
    Store.Kept ⟨(s.history.writeTo s.files path).2.1, (s.history.writeTo s.files path).2.2⟩ := by
  have hwrite := writeTo_of_place s.history hplace
  split at hwrite
  · obtain ⟨files, hwrite, hsaved⟩ := hwrite
    rw [hwrite]
    refine h.all (FileSystem.place?_revises hsaved.revises hplace) fun e he => ?_
    rw [hsaved.bytes]
    exact hasLine_fileText h.no_feed he
  · rw [hwrite] at hok
    cases hok

lemma Store.Kept.append {s : Store} {path : String} (h : s.Kept) (hcont : s.Continues path)
    (hok : (s.history.appendTo s.files path).1 = .ok ()) :
    Store.Kept ⟨(s.history.appendTo s.files path).2.1, (s.history.appendTo s.files path).2.2⟩ := by
  obtain ⟨l, hplace, hflushed, hends⟩ := hcont
  have happend := appendTo_of_place s.history hplace
  split at happend
  · obtain ⟨files, happend, hsaved⟩ := happend
    rw [happend]
    refine h.all (FileSystem.place?_revises hsaved.revises hplace) fun e he => ?_
    rw [hsaved.bytes]
    rw [← List.take_append_drop s.history.flushed s.history.entries, List.mem_append] at he
    rcases he with he | he
    · -- An entry flushed before: the file had it, and still has it.
      have hne : s.history.flushed ≠ 0 := by
        intro hzero
        rw [hzero] at he
        cases he
      obtain ⟨k, hk, hlines⟩ := h.on_lines hne
      obtain rfl : k = l := Option.some.inj (hk.symm.trans (hflushed.resolve_left hne))
      rcases hends with hnone | hends
      · simpa [hnone, fileText, encode_eq_flatMap] using hlines e he
      · exact (hlines e he).append_left hends _
    · -- A pending entry: it is written now.
      have hfeed : ∀ d ∈ s.history.pending, '\n' ∉ d.toList :=
        fun d hd => h.no_feed d (List.mem_of_mem_drop hd)
      have hsome : s.history.pending ≠ [] := List.ne_nil_of_mem he
      exact (hasLine_fileText hfeed he).append_right (hends.resolve_left hsome)
  · rw [happend] at hok
    cases hok

lemma Store.Kept.read {s : Store} {path : String} (h : s.Kept)
    (hstays : s.history.flushed = 0 ∨ s.files.place? path = s.place?)
    (hok : (s.history.readFrom s.files path).1 = .ok ()) :
    Store.Kept ⟨(s.history.readFrom s.files path).2, s.files⟩ := by
  cases hread : s.files.readText path with
  | error e => simp [readFrom_eq, hread] at hok
  | ok text =>
    have hfile : (some path).bind s.files.place? = s.files.place? path := rfl
    simp only [readFrom_eq, hread]
    exact h.extend (fun e he => feed_notMem_of_mem_ofFileText he) (hfile ▸ hstays)

lemma Store.Kept.record {s : Store} {line : String} (h : s.Kept) (hline : '\n' ∉ line.toList) :
    Store.Kept ⟨s.history.record line, s.files⟩ := by
  rw [record_eq]
  refine h.extend (fun e he => ?_) (.inr rfl)
  exact (isEntry_of_mem_recorded (by simpa using hline) he).no_feed

/-- An operation that stays with the file leaves the flushed entries in it. -/
lemma Store.Kept.apply {s : Store} {op : Operation} (h : s.Kept) (hstays : op.Stays s)
    (hok : (op.apply s).1 = .ok ()) : (op.apply s).2.Kept := by
  cases op with
  | record line => exact h.record hstays
  | read path => exact h.read hstays hok
  | write path =>
    obtain ⟨l, hplace⟩ := hstays
    exact h.write hplace hok
  | append path => exact h.append hstays hok
  | flush =>
    cases hfile : s.history.file with
    | none =>
      rw [Operation.apply, flush_eq, hfile]
      exact h
    | some path =>
      rw [Operation.apply, flush_eq, hfile] at hok ⊢
      exact h.append (hstays path hfile) hok

/-! ### Runs -/

lemma kept_start (files : FileSystem) (loaded : Option String) : (start files loaded).Kept := by
  have hempty : ∀ file, Store.Kept ⟨⟨[], file, 0⟩, files⟩ := fun file =>
    { flushed_le := Nat.le_refl 0
      no_feed := fun e he => by cases he
      on_lines := fun hne => absurd rfl hne }
  cases loaded with
  | none => exact hempty none
  | some path =>
    cases hread : files.readText path with
    | error e =>
      simp only [start, load_eq, readFrom_eq, hread]
      exact hempty (some path)
    | ok text =>
      simp only [start, load_eq, readFrom_eq, hread, List.nil_append]
      by_cases htext : text = ""
      · rw [htext]
        exact hempty (some path)
      · obtain ⟨l, hplace, hbytes⟩ := FileSystem.place?_of_readText hread htext
        refine Store.Kept.all (s := ⟨⟨ofFileText text, none, 0⟩, files⟩) ?_ hplace ?_
        · exact ⟨Nat.zero_le _, fun e he => feed_notMem_of_mem_ofFileText he,
            fun hne => absurd rfl hne⟩
        · intro e he
          rw [hbytes]
          exact hasLine_of_mem_textLines (List.mem_filter.mp he).1

lemma Store.Kept.run {ops : List Operation} {s t : Store} (h : s.Kept) (hstays : Stays ops s)
    (hrun : run ops s = .ok t) : t.Kept := by
  induction ops generalizing s with
  | nil =>
    cases hrun
    exact h
  | cons op ops ih =>
    obtain ⟨hop, hops⟩ := hstays
    obtain ⟨hok, hrun⟩ := apply_of_run_cons hrun
    exact ih (h.apply hop hok) hops hrun

/-- At the end of a run that stays with the file, every flushed entry stands on a line of the file
that the history used last. -/
theorem flushed_on_lines {files : FileSystem} {loaded : Option String} {ops : List Operation}
    {s : Store} (hstays : Stays ops (start files loaded))
    (hrun : run ops (start files loaded) = .ok s) {path : String}
    (hfile : s.history.file = some path) :
    s.history.flushed ≤ s.history.entries.length ∧
      ∀ e ∈ s.history.entries.take s.history.flushed, ∃ l,
        s.files.place? path = some l ∧ HasLine (s.files.bytesAt l) e := by
  have hkept := (kept_start files loaded).run hstays hrun
  refine ⟨hkept.flushed_le, fun e he => ?_⟩
  have hne : s.history.flushed ≠ 0 := by
    intro hzero
    rw [hzero] at he
    cases he
  obtain ⟨l, hplace, hlines⟩ := hkept.on_lines hne
  rw [Store.place?, hfile] at hplace
  exact ⟨l, hplace, hlines e he⟩

/-- A loaded history that goes on in its file. -/
theorem flushed_on_lines_load :
    ∃ s, run [.record "pwd", .flush] (start (onlyFile "ls\n") (some "/h")) = .ok s ∧
      s.history.file = some "/h" ∧ s.history.entries.take s.history.flushed = ["ls", "pwd"] ∧
      ∀ e ∈ ["ls", "pwd"], ∃ l, s.files.place? "/h" = some l ∧ HasLine (s.files.bytesAt l) e := by
  have hplace := place?_onlyFile "ls\n"
  have hstart : start (onlyFile "ls\n") (some "/h") =
      ⟨⟨["ls"], some "/h", 1⟩, onlyFile "ls\n"⟩ := by
    simp only [start, load_eq, readFrom_eq, readText_onlyFile]
    rfl
  have hrecord : (⟨["ls"], some "/h", 1⟩ : History).record "pwd" =
      ⟨["ls", "pwd"], some "/h", 1⟩ := by decide
  have happend := appendTo_of_place ⟨["ls", "pwd"], some "/h", 1⟩ hplace
  rw [if_pos (.inr (mayWriteAt_onlyFile _))] at happend
  obtain ⟨fs', happend, -⟩ := happend
  have hrun : run [.record "pwd", .flush] (start (onlyFile "ls\n") (some "/h")) =
      .ok ⟨⟨["ls", "pwd"], some "/h", 2⟩, fs'⟩ := by
    simp only [hstart, run, Operation.apply, hrecord, flush_eq, happend]
    rfl
  have hstays : Stays [.record "pwd", .flush] (start (onlyFile "ls\n") (some "/h")) := by
    rw [hstart]
    have hline : '\n' ∉ "pwd".toList := by decide
    refine ⟨hline, ?_, trivial⟩
    simp only [Operation.apply, hrecord]
    rintro path ⟨⟩
    exact ⟨["h"], hplace, .inr hplace, .inr (.inr (by decide))⟩
  exact ⟨_, hrun, rfl, rfl, (flushed_on_lines hstays hrun rfl).2⟩

/-- A history that reads another file after it was flushed: the flushed entry is not there. -/
theorem flushed_elsewhere :
    ∃ s, run [.record "ls", .append "/p", .read "/h"] (start (onlyFile "") none) = .ok s ∧
      s.history.file = some "/h" ∧ s.history.entries.take s.history.flushed = ["ls"] ∧
      s.files.place? "/h" = some ["h"] ∧ ¬ HasLine (s.files.bytesAt ["h"]) "ls" := by
  have hplace : (onlyFile "").place? "/p" = some ["p"] :=
    FileSystem.place?_of_steps ⟨by decide, by decide, by decide⟩
      ⟨by decide, by decide, by decide, by decide⟩ (by decide) (.same none)
  have hrecord : ({} : History).record "ls" = ⟨["ls"], none, 0⟩ := by decide
  have happend := appendTo_of_place ⟨["ls"], none, 0⟩ hplace
  rw [if_pos (.inr rfl)] at happend
  obtain ⟨fs', happend, hsaved⟩ := happend
  have hget : fs'.get? ["h"] = some (.file 0o644 (encode "")) :=
    hsaved.others ["h"] (by decide)
  have hplace' := FileSystem.place?_revises hsaved.revises (place?_onlyFile "")
  have hread : fs'.readText "/h" = .ok "" :=
    (FileSystem.readText_eq_ok_iff hplace').mpr ⟨0o644, hget, by decide⟩
  refine ⟨⟨⟨["ls"], some "/h", 1⟩, fs'⟩, ?_, rfl, rfl, hplace', ?_⟩
  · simp only [start, run, Operation.apply, hrecord, happend, readFrom_eq, hread]
    rfl
  · rintro ⟨line, hline, -⟩
    simp only [FileSystem.bytesAt, hget] at hline
    cases hline

end History

end Shell
