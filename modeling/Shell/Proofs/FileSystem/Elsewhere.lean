import Shell.Proofs.FileSystem.Regular

/-!
# File systems that agree elsewhere

Two file systems agree everywhere except at one location, where a regular file was made or written
in the second. Whoever does not open this file finds little difference: directories, programs and
all other files are the same. One difference there is. A path that leads through the location of a
file that was made there fails on both file systems, but on the first because there is nothing and
on the second because there is no directory.
-/

namespace Shell

/-- What a regular file is after it was written, or made with the permission bits of a new file. -/
inductive Entry.Rewritten : Option Entry → Option Entry → Prop
  | made (content : Bytes) : Rewritten none (some (.file FileSystem.newFileMode content))
  | written (bits : Nat) (before after : Bytes) :
      Rewritten (some (.file bits before)) (some (.file bits after))

lemma Entry.Rewritten.any_isExecutable {e e' : Option Entry} (h : Rewritten e e') :
    e'.any isExecutable = e.any isExecutable := by
  cases h <;> rfl

lemma Entry.Rewritten.all_mayWrite {e e' : Option Entry} (h : Rewritten e e')
    (hmay : e.all mayWrite = true) : e'.all mayWrite = true := by
  cases h with
  | made content => simp [mayWrite, mode, FileSystem.newFileMode]
  | written => exact hmay

lemma Entry.Rewritten.of_content {e : Option Entry} {bits : Nat} {content : Bytes}
    (h : Rewritten e (some (.file bits content))) (content' : Bytes) :
    Rewritten e (some (.file bits content')) := by
  cases h with
  | made => exact .made content'
  | written _ before => exact .written bits before content'

/-- The same result on two file systems, or two failures of a path that leads through a location
where there is nothing on the first file system and a file on the second. -/
inductive Alike {α : Type} (e : Option Entry) : Except IoError α → Except IoError α → Prop
  | same (r : Except IoError α) : Alike e r r
  | through (h : e = none) : Alike e (.error (.os .noEntry)) (.error (.os .notDirectory))

namespace FileSystem

/-- The file systems agree except at `l`, where they have the entries `e` and `e'`. -/
structure AgreeExcept (l : Location) (e e' : Option Entry) (fs fs' : FileSystem) : Prop where
  others : ∀ k, k ≠ l → fs'.get? k = fs.get? k
  first : fs.get? l = e
  second : fs'.get? l = e'

variable {l : Location} {e e' : Option Entry} {fs fs' : FileSystem}

lemma AgreeExcept.revises (h : AgreeExcept l e e' fs fs') (hrewritten : Entry.Rewritten e e') :
    fs.Revises fs' := by
  intro k
  by_cases hk : k = l
  · subst hk
    rw [h.first, h.second]
    cases hrewritten with
    | made content => exact .made _ content
    | written bits before after => exact .written bits before after
  · rw [h.others k hk]
    exact .same _

/-! ### Where paths lead -/

/-- The place where a path ends, whether or not there is anything. -/
def Target.location : Target → Location
  | .present l _ => l
  | .vacant directory name => directory ++ [name]

/-- The entry at the end of a path. -/
def Target.entry? : Target → Option Entry
  | .present _ e => some e
  | .vacant _ _ => none

lemma Target.place?_of_rewritten {t : Target} {e' : Option Entry}
    (h : Entry.Rewritten t.entry? e') : t.place? = some t.location := by
  cases t with
  | vacant => rfl
  | present k e =>
    cases h
    rfl

/-- How a path leads on two file systems that agree except at `l`: to the same end, to `l` on both,
or on both to no end because of what is at `l`. -/
inductive Meets (l : Location) (e e' : Option Entry) :
    Except IoError Target → Except IoError Target → Prop
  | same {r : Except IoError Target}
      (h : ∀ t, r = .ok t → t.entry? = some .directory ∨ t.location ≠ l) : Meets l e e' r r
  | there {t t' : Target} (ht : t.location = l) (ht' : t'.location = l) (he : t.entry? = e)
      (he' : t'.entry? = e') : Meets l e e' (.ok t) (.ok t')
  | through (h : e = none) :
      Meets l e e' (.error (.os .noEntry)) (.error (.os .notDirectory))

lemma meets_error (cause : Errno) :
    Meets l e e' (Except.mapError .os (.error cause)) (Except.mapError .os (.error cause)) :=
  .same fun _ h => nomatch h

lemma meets_ok {t : Target} (h : t.location ≠ l) :
    Meets l e e' (Except.mapError .os (.ok t)) (Except.mapError .os (.ok t)) :=
  .same fun _ ht => .inr (by cases ht; exact h)

/-- A path ends where there is nothing. -/
lemma walk_missing {lookup : Lookup} {here : Location} {name : String} {rest : List String}
    (hname : IsName name) (hplace : ¬ (lookup = .place ∧ rest = [""]))
    (hget : fs.get? (here ++ [name]) = none) (links : Nat) :
    fs.walk lookup links here (name :: rest) =
      if rest.isEmpty then .ok (.vacant here name) else .error .noEntry := by
  obtain ⟨h₁, h₂, h₃, h₄⟩ := hname
  simp [walk, h₁, h₂, h₃, Nat.not_lt.mpr h₄, hplace, hget]

/-- A path ends at a regular file. -/
lemma walk_file {lookup : Lookup} {here : Location} {name : String} {rest : List String}
    {bits : Nat} {content : Bytes} (hname : IsName name)
    (hplace : ¬ (lookup = .place ∧ rest = [""]))
    (hget : fs.get? (here ++ [name]) = some (.file bits content)) (links : Nat) :
    fs.walk lookup links here (name :: rest) =
      if rest.isEmpty then .ok (.present (here ++ [name]) (.file bits content))
      else .error .notDirectory := by
  obtain ⟨h₁, h₂, h₃, h₄⟩ := hname
  simp [walk, h₁, h₂, h₃, Nat.not_lt.mpr h₄, hplace, hget]

/-- At `l` a path ends on both file systems. -/
lemma AgreeExcept.walk_there (h : AgreeExcept l e e' fs fs') (hrewritten : Entry.Rewritten e e')
    {lookup : Lookup} {here : Location} {name : String} {rest : List String} (hname : IsName name)
    (hplace : ¬ (lookup = .place ∧ rest = [""])) (hl : here ++ [name] = l) (links : Nat) :
    Meets l e e' ((fs.walk lookup links here (name :: rest)).mapError .os)
      ((fs'.walk lookup links here (name :: rest)).mapError .os) := by
  subst hl
  cases hrewritten with
  | made content =>
    rw [walk_missing hname hplace h.first, walk_file hname hplace h.second]
    split
    · exact .there rfl rfl rfl rfl
    · exact .through rfl
  | written bits before after =>
    rw [walk_file hname hplace h.first, walk_file hname hplace h.second]
    split
    · exact .there rfl rfl rfl rfl
    · exact meets_error _

/-- By induction over the walk: each step finds the same on both file systems, unless it is the step
to `l`, where the path ends. -/
lemma AgreeExcept.walk (h : AgreeExcept l e e' fs fs') (hrewritten : Entry.Rewritten e e')
    (lookup : Lookup) (links : Nat) (here : Location) (todo : List String) :
    Meets l e e' ((fs.walk lookup links here todo).mapError .os)
      ((fs'.walk lookup links here todo).mapError .os) := by
  cases todo with
  | nil =>
    rw [FileSystem.walk, FileSystem.walk]
    exact .same fun t ht => .inl (by cases ht; rfl)
  | cons name rest =>
    by_cases hskip : name = "" ∨ name = "."
    · simpa [FileSystem.walk, hskip] using h.walk hrewritten lookup links here rest
    by_cases habove : name = ".."
    · simpa [FileSystem.walk, habove] using h.walk hrewritten lookup links here.dropLast rest
    by_cases hplace : lookup = .place ∧ rest = [""]
    · simpa [FileSystem.walk, hskip, habove, hplace] using meets_error _
    by_cases hlong : name.utf8ByteSize > nameLimit
    · simpa [FileSystem.walk, hskip, habove, hplace, hlong] using meets_error _
    by_cases hl : here ++ [name] = l
    · rw [not_or] at hskip
      have hname : IsName name := ⟨hskip.1, hskip.2, habove, Nat.le_of_not_gt hlong⟩
      exact h.walk_there hrewritten hname hplace hl links
    have hsame := h.others _ hl
    cases hget : fs.get? (here ++ [name]) with
    | none =>
      by_cases hrest : rest = []
      · simpa [FileSystem.walk, hskip, habove, hlong, hsame, hget, hrest] using
          meets_ok (t := .vacant here name) hl
      · simpa [FileSystem.walk, hskip, habove, hplace, hlong, hsame, hget, hrest] using
          meets_error _
    | some found =>
      cases found with
      | directory =>
        simpa [FileSystem.walk, hskip, habove, hplace, hlong, hsame, hget] using
          h.walk hrewritten lookup links (here ++ [name]) rest
      | link target =>
        by_cases hitself : rest = [] ∧ lookup = .itself
        · simpa [FileSystem.walk, hskip, habove, hlong, hsame, hget, hitself] using
            meets_ok (t := .present (here ++ [name]) (.link target)) hl
        cases links with
        | zero =>
          simpa [FileSystem.walk, hskip, habove, hplace, hlong, hsame, hget, hitself] using
            meets_error _
        | succ links =>
          by_cases htarget : target = ""
          · simpa [FileSystem.walk, hskip, habove, hplace, hlong, hsame, hget, hitself, htarget]
              using meets_error _
          · simpa [FileSystem.walk, hskip, habove, hplace, hlong, hsame, hget, hitself, htarget]
              using h.walk hrewritten lookup links (if Path.isAbsolute target then [] else here)
                (steps target ++ rest)
      | file | program | device =>
        by_cases hrest : rest = []
        · simpa [FileSystem.walk, hskip, habove, hlong, hsame, hget, hrest] using
            meets_ok (t := .present (here ++ [name]) _) hl
        · simpa [FileSystem.walk, hskip, habove, hplace, hlong, hsame, hget, hrest] using
            meets_error _
termination_by (links, todo.length)

lemma locate_eq_walk {path : String} (hpath : IsPath path) (fs : FileSystem) (lookup : Lookup) :
    fs.locate lookup [] path = (fs.walk lookup linkLimit [] (steps path)).mapError .os := by
  obtain ⟨hnul, hempty, hlong⟩ := hpath
  simp only [locate, hnul, hempty, Nat.not_lt.mpr hlong, ite_self, Bool.false_eq_true, if_false]
  cases fs.walk lookup linkLimit [] (steps path) <;> rfl

/-- A text that is no path leads nowhere, whatever files there are. -/
lemma locate_of_not_isPath {path : String} (hpath : ¬ IsPath path) (lookup : Lookup) :
    ∃ cause, ∀ fs : FileSystem, fs.locate lookup [] path = .error cause := by
  by_cases hnul : containsChar '\x00' path = true
  · exact ⟨.nulInPath, fun fs => by rw [locate, if_pos hnul]⟩
  by_cases hempty : path = ""
  · exact ⟨.os .noEntry, fun fs => by rw [locate, if_neg hnul, if_pos hempty]⟩
  have hlong : path.utf8ByteSize > pathLimit :=
    Nat.lt_of_not_le fun hshort => hpath ⟨by simpa using hnul, hempty, hshort⟩
  exact ⟨.os .nameTooLong, fun fs => by rw [locate, if_neg hnul, if_neg hempty, if_pos hlong]⟩

lemma AgreeExcept.locate (h : AgreeExcept l e e' fs fs') (hrewritten : Entry.Rewritten e e')
    (lookup : Lookup) (path : String) :
    Meets l e e' (fs.locate lookup [] path) (fs'.locate lookup [] path) := by
  by_cases hpath : IsPath path
  · rw [locate_eq_walk hpath, locate_eq_walk hpath]
    exact h.walk hrewritten lookup linkLimit [] (steps path)
  · obtain ⟨cause, hcause⟩ := locate_of_not_isPath hpath lookup
    rw [hcause, hcause]
    exact .same fun _ ht => nomatch ht

/-! ### Directories and programs -/

lemma isDirectory_eq (fs : FileSystem) (path : String) :
    fs.isDirectory path =
      match fs.locate .target [] path with
      | .ok t => decide (t.entry? = some .directory)
      | .error _ => false := by
  rw [isDirectory, stat?]
  rcases fs.locate .target [] path with _ | ⟨_, e⟩ | _
  · rfl
  · cases e <;> rfl
  · rfl

lemma isExecutable_eq (fs : FileSystem) (path : String) :
    fs.isExecutable path =
      match fs.locate .target [] path with
      | .ok t => t.entry?.any Entry.isExecutable
      | .error _ => false := by
  rw [isExecutable, stat?]
  rcases fs.locate .target [] path with _ | ⟨_, _⟩ | _ <;> rfl

lemma AgreeExcept.isDirectory (h : AgreeExcept l e e' fs fs') (hrewritten : Entry.Rewritten e e')
    (path : String) : fs'.isDirectory path = fs.isDirectory path := by
  rw [isDirectory_eq, isDirectory_eq]
  have hmeets := h.locate hrewritten .target path
  generalize fs.locate .target [] path = r, fs'.locate .target [] path = r' at hmeets ⊢
  cases hmeets with
  | same => rfl
  | there _ _ he he' =>
    dsimp only
    rw [he, he']
    cases hrewritten <;> rfl
  | through => rfl

lemma AgreeExcept.isExecutable (h : AgreeExcept l e e' fs fs') (hrewritten : Entry.Rewritten e e') :
    fs'.isExecutable = fs.isExecutable := by
  funext path
  rw [isExecutable_eq, isExecutable_eq]
  have hmeets := h.locate hrewritten .target path
  generalize fs.locate .target [] path = r, fs'.locate .target [] path = r' at hmeets ⊢
  cases hmeets with
  | same => rfl
  | there _ _ he he' =>
    dsimp only
    rw [he, he']
    exact hrewritten.any_isExecutable
  | through => rfl

/-! ### Reading and writing other files -/

lemma AgreeExcept.insert (h : AgreeExcept l e e' fs fs') {k : Location} (hk : k ≠ l)
    (entry : Entry) : AgreeExcept l e e' (fs.insert k entry) (fs'.insert k entry) where
  others j hj := by
    by_cases hjk : j = k
    · subst hjk
      by_cases hroot : j = []
      · rw [hroot, get?_root, get?_root]
      · rw [get?_insert_self _ _ _ hroot, get?_insert_self _ _ _ hroot]
    · rw [get?_insert_of_ne _ _ hjk, get?_insert_of_ne _ _ hjk, h.others j hj]
  first := by rw [get?_insert_of_ne _ _ hk.symm, h.first]
  second := by rw [get?_insert_of_ne _ _ hk.symm, h.second]

/-- A path that leads to the place of a file for reading leads there for writing. -/
lemma place?_of_locate {path : String} {t : Target} (hlocate : fs.locate .target [] path = .ok t)
    (ht : t.place? = some l) : fs.place? path = some l := by
  obtain ⟨hpath, hleads⟩ := locate_eq_ok_iff.mp hlocate
  exact place?_eq_some_iff.mpr
    ⟨t, locate_eq_ok_iff.mpr ⟨hpath, hleads.place_of_target ht⟩, ht⟩

/-- A path that does not lead to `l` leads to the same end on both file systems, unless it leads
through `l`. -/
lemma AgreeExcept.locate_cases (h : AgreeExcept l e e' fs fs') (hrewritten : Entry.Rewritten e e')
    {path : String} (hne : fs.place? path ≠ some l) (lookup : Lookup) (hlookup : lookup ≠ .itself) :
    (∃ cause cause', fs.locate lookup [] path = .error cause ∧
        fs'.locate lookup [] path = .error cause' ∧
        ∀ α, @Alike α e (.error cause) (.error cause')) ∨
      ∃ t : Target, fs.locate lookup [] path = .ok t ∧ fs'.locate lookup [] path = .ok t ∧
        (t.entry? = some .directory ∨ t.location ≠ l) := by
  have hmeets := h.locate hrewritten lookup path
  generalize hlocate : fs.locate lookup [] path = r, fs'.locate lookup [] path = r' at hmeets ⊢
  cases hmeets with
  | same helse =>
    cases r with
    | error cause => exact .inl ⟨cause, cause, rfl, rfl, fun _ => .same _⟩
    | ok t => exact .inr ⟨t, rfl, rfl, helse t rfl⟩
  | @there t t' ht _ he _ =>
    have hplace : t.place? = some l := ht ▸ Target.place?_of_rewritten (he ▸ hrewritten)
    cases lookup with
    | itself => exact absurd rfl hlookup
    | place => exact absurd (place?_eq_some_iff.mpr ⟨t, hlocate, hplace⟩) hne
    | target => exact absurd (place?_of_locate hlocate hplace) hne
  | through hnone => exact .inl ⟨_, _, rfl, rfl, fun _ => .through hnone⟩

/-- Opening another file for reading. -/
lemma AgreeExcept.openFile_read (h : AgreeExcept l e e' fs fs')
    (hrewritten : Entry.Rewritten e e') {path : String} (hne : fs.place? path ≠ some l) :
    (∃ cause cause', fs.openFile [] path .read = .error cause ∧
        fs'.openFile [] path .read = .error cause' ∧
        ∀ α, @Alike α e (.error cause) (.error cause')) ∨
      ∃ f, f ≠ .file l ∧ fs.openFile [] path .read = .ok (f, fs) ∧
        fs'.openFile [] path .read = .ok (f, fs') := by
  rcases h.locate_cases hrewritten hne .target (by simp) with
    ⟨cause, cause', hlocate, hlocate', halike⟩ | ⟨t, hlocate, hlocate', ht⟩
  · refine .inl ⟨cause, cause', ?_, ?_, halike⟩ <;>
      simp [FileSystem.openFile, lookupFor, hlocate, hlocate']
  · cases t with
    | vacant directory name =>
      refine .inl ⟨.os .noEntry, .os .noEntry, ?_, ?_, fun _ => .same _⟩ <;>
        simp [FileSystem.openFile, lookupFor, hlocate, hlocate']
    | present k found =>
      cases found with
      | directory =>
        exact .inr ⟨.directory k, by simp, by simp [FileSystem.openFile, lookupFor, hlocate],
          by simp [FileSystem.openFile, lookupFor, hlocate']⟩
      | device d =>
        exact .inr ⟨.device d, by simp, by simp [FileSystem.openFile, lookupFor, hlocate],
          by simp [FileSystem.openFile, lookupFor, hlocate']⟩
      | file bits content =>
        have hk : k ≠ l := by simpa [Target.entry?, Target.location] using ht
        cases hallows : allows (.file bits content) .read with
        | false =>
          refine .inl ⟨.os .permissionDenied, .os .permissionDenied, ?_, ?_, fun _ => .same _⟩ <;>
            simp [FileSystem.openFile, lookupFor, hlocate, hlocate', hallows]
        | true =>
          exact .inr ⟨.file k, by simpa using hk,
            by simp [FileSystem.openFile, lookupFor, hlocate, hallows],
            by simp [FileSystem.openFile, lookupFor, hlocate', hallows]⟩
      | _ =>
        have hk : k ≠ l := by simpa [Target.entry?, Target.location] using ht
        exact .inr ⟨.file k, by simpa using hk,
          by simp [FileSystem.openFile, lookupFor, hlocate],
          by simp [FileSystem.openFile, lookupFor, hlocate']⟩

lemma AgreeExcept.readAll (h : AgreeExcept l e e' fs fs') {f : OpenFile} (hf : f ≠ .file l) :
    fs'.readAll f = fs.readAll f := by
  unfold FileSystem.readAll
  split
  · rfl
  · rfl
  · rfl
  · rfl
  · rename_i k
    have hk : k ≠ l := by simpa using hf
    rw [h.others k hk]

/-- Opening another file for writing. -/
lemma AgreeExcept.openFile (h : AgreeExcept l e e' fs fs') (hrewritten : Entry.Rewritten e e')
    {path : String} (hne : fs.place? path ≠ some l) (mode : WriteMode) :
    (∃ cause cause', fs.openFile [] path (.write mode) = .error cause ∧
        fs'.openFile [] path (.write mode) = .error cause' ∧
        ∀ α, @Alike α e (.error cause) (.error cause')) ∨
      ∃ f opened opened', f ≠ .file l ∧ fs.openFile [] path (.write mode) = .ok (f, opened) ∧
        fs'.openFile [] path (.write mode) = .ok (f, opened') ∧
        AgreeExcept l e e' opened opened' := by
  rcases h.locate_cases hrewritten hne .place (by simp) with
    ⟨cause, cause', hlocate, hlocate', halike⟩ | ⟨t, hlocate, hlocate', ht⟩
  · refine .inl ⟨cause, cause', ?_, ?_, halike⟩ <;>
      simp [FileSystem.openFile, lookupFor, hlocate, hlocate']
  · cases t with
    | vacant directory name =>
      have hk : directory ++ [name] ≠ l := by simpa [Target.entry?, Target.location] using ht
      exact .inr ⟨.file (directory ++ [name]), _, _, by simpa using hk,
        by simp [FileSystem.openFile, lookupFor, hlocate],
        by simp [FileSystem.openFile, lookupFor, hlocate'], h.insert hk (.file newFileMode [])⟩
    | present k found =>
      cases found with
      | directory =>
        refine .inl ⟨.os .isDirectory, .os .isDirectory, ?_, ?_, fun _ => .same _⟩ <;>
          simp [FileSystem.openFile, lookupFor, hlocate, hlocate']
      | device d =>
        exact .inr ⟨.device d, fs, fs', by simp, by simp [FileSystem.openFile, lookupFor, hlocate],
          by simp [FileSystem.openFile, lookupFor, hlocate'], h⟩
      | file bits content =>
        have hk : k ≠ l := by simpa [Target.entry?, Target.location] using ht
        cases hallows : allows (.file bits content) (.write mode) with
        | false =>
          refine .inl ⟨.os .permissionDenied, .os .permissionDenied, ?_, ?_, fun _ => .same _⟩ <;>
            simp [FileSystem.openFile, lookupFor, hlocate, hlocate', hallows]
        | true =>
          cases mode with
          | truncate =>
            exact .inr ⟨.file k, _, _, by simpa using hk,
              by simp [FileSystem.openFile, lookupFor, hlocate, hallows],
              by simp [FileSystem.openFile, lookupFor, hlocate', hallows],
              h.insert hk (.file bits [])⟩
          | append =>
            exact .inr ⟨.file k, fs, fs', by simpa using hk,
              by simp [FileSystem.openFile, lookupFor, hlocate, hallows],
              by simp [FileSystem.openFile, lookupFor, hlocate', hallows], h⟩
      | _ =>
        have hk : k ≠ l := by simpa [Target.entry?, Target.location] using ht
        exact .inr ⟨.file k, fs, fs', by simpa using hk,
          by simp [FileSystem.openFile, lookupFor, hlocate],
          by simp [FileSystem.openFile, lookupFor, hlocate'], h⟩

lemma AgreeExcept.writeAt (h : AgreeExcept l e e' fs fs') {f : OpenFile} (hf : f ≠ .file l)
    (offset : Option Nat) (bytes : Bytes) :
    (∃ cause, fs.writeAt f offset bytes = .error cause ∧
        fs'.writeAt f offset bytes = .error cause) ∨
      ∃ written written' after, fs.writeAt f offset bytes = .ok (written, after) ∧
        fs'.writeAt f offset bytes = .ok (written', after) ∧
        AgreeExcept l e e' written written' := by
  unfold FileSystem.writeAt
  split
  · exact .inr ⟨fs, fs', _, rfl, rfl, h⟩
  split
  · exact .inl ⟨_, rfl, rfl⟩
  · exact .inr ⟨fs, fs', _, rfl, rfl, h⟩
  · exact .inl ⟨_, rfl, rfl⟩
  · rename_i k
    have hk : k ≠ l := by simpa using hf
    rw [h.others k hk]
    split
    · exact .inr ⟨_, _, _, rfl, rfl, h.insert hk _⟩
    · exact .inr ⟨fs, fs', _, rfl, rfl, h⟩

/-! ### Opening a file at its place -/

/-- Opening the file at a path for writing changes this file alone. -/
lemma openFile_agreeExcept {path : String} (hplace : fs.place? path = some l)
    (hmay : fs.mayWriteAt l = true) (mode : WriteMode) :
    ∃ opened e', fs.openFile [] path (.write mode) = .ok (.file l, opened) ∧
      Entry.Rewritten (fs.get? l) e' ∧ AgreeExcept l (fs.get? l) e' fs opened ∧
      ∃ bits, e' = some (.file bits (kept mode (fs.bytesAt l))) := by
  have hopen := openFile_of_place hplace mode
  rw [if_pos hmay] at hopen
  obtain ⟨opened, bits, hopen, hget, -, hothers⟩ := hopen
  refine ⟨opened, some (.file bits (kept mode (fs.bytesAt l))), hopen, ?_, ⟨hothers, rfl, hget⟩,
    bits, rfl⟩
  obtain ⟨hl, ⟨_, _, rfl, hnone, -, -⟩ | ⟨bits', hsome, -, -⟩⟩ := locate_of_place hplace
  · have hnew := openFile_new hplace hnone mode
    rw [hopen] at hnew
    cases hnew
    obtain ⟨rfl, -⟩ : newFileMode = bits ∧ [] = kept mode (fs.bytesAt _) := by
      simpa [get?_insert_self _ _ _ hl] using hget
    rw [hnone]
    exact .made _
  · obtain ⟨content, hget'⟩ := (openFile_revises hopen).get?_file hsome
    rw [hget] at hget'
    cases hget'
    rw [hsome]
    exact .written _ _ _

end FileSystem

end Shell
