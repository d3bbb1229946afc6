import Mathlib.Tactic.Lemma
import Shell.FileSystem.Access
import Shell.Proofs.Text.Lines

/-!
# Regular files

What a path to a regular file leads to, and what opening and writing do to it. Files come into
being and change what they hold, but directories, links and devices stay what they are: the file
system is revised. A path that leads to a regular file, or to the place of a new one, still leads
there after every revision, so that what is appended through a path is found at the end of the file
that the path leads to.
-/

namespace Shell

/-! ### Revisions -/

/-- What may become of an entry when files are made and written. -/
inductive Entry.Revision : Option Entry → Option Entry → Prop
  | same (e : Option Entry) : Revision e e
  | written (mode : Nat) (before after : Bytes) :
      Revision (some (.file mode before)) (some (.file mode after))
  | made (mode : Nat) (content : Bytes) : Revision none (some (.file mode content))

lemma Entry.Revision.trans {a b c : Option Entry} (hab : Revision a b) (hbc : Revision b c) :
    Revision a c := by
  cases hab with
  | same => exact hbc
  | written mode before after =>
    cases hbc with
    | same => exact .written mode before after
    | written _ _ last => exact .written mode before last
  | made mode content =>
    cases hbc with
    | same => exact .made mode content
    | written _ _ last => exact .made mode last

namespace FileSystem

/-- The file system with some files made and some written. -/
def Revises (before after : FileSystem) : Prop :=
  ∀ l, Entry.Revision (before.get? l) (after.get? l)

lemma revises_refl (fs : FileSystem) : fs.Revises fs :=
  fun _ => .same _

lemma Revises.trans {a b c : FileSystem} (hab : a.Revises b) (hbc : b.Revises c) : a.Revises c :=
  fun l => (hab l).trans (hbc l)

/-- Putting a file where it was, or where nothing was, is a revision. -/
lemma revises_insert {fs : FileSystem} {l : Location} {mode : Nat} {content : Bytes} (hl : l ≠ [])
    (h : Entry.Revision (fs.get? l) (some (.file mode content))) :
    fs.Revises (fs.insert l (.file mode content)) := by
  intro k
  by_cases hk : k = l
  · subst hk
    rwa [get?_insert_self _ _ _ hl]
  · rw [get?_insert_of_ne _ _ hk]
    exact .same _

/-- All but regular files stays what it is. -/
lemma Revises.get?_eq {fs fs' : FileSystem} (hrev : fs.Revises fs') {l : Location} {e : Entry}
    (h : fs.get? l = some e) (he : ∀ mode content, e ≠ .file mode content) :
    fs'.get? l = some e := by
  have hrevl := hrev l
  rw [h] at hrevl
  generalize fs'.get? l = e' at hrevl ⊢
  cases hrevl with
  | same => rfl
  | written mode content => exact absurd rfl (he mode content)

/-- What is no regular file was there before. -/
lemma Revises.get?_before {fs fs' : FileSystem} (hrev : fs.Revises fs') {l : Location} {e : Entry}
    (h : fs'.get? l = some e) (he : ∀ mode content, e ≠ .file mode content) :
    fs.get? l = some e := by
  have hrevl := hrev l
  rw [h] at hrevl
  generalize fs.get? l = e' at hrevl ⊢
  cases hrevl with
  | same => rfl
  | written mode _ after => exact absurd rfl (he mode after)
  | made mode content => exact absurd rfl (he mode content)

/-- A regular file stays one, with its permission bits. -/
lemma Revises.get?_file {fs fs' : FileSystem} (hrev : fs.Revises fs') {l : Location} {mode : Nat}
    {content : Bytes} (h : fs.get? l = some (.file mode content)) :
    ∃ content', fs'.get? l = some (.file mode content') := by
  have hrevl := hrev l
  rw [h] at hrevl
  generalize fs'.get? l = e' at hrevl ⊢
  cases hrevl with
  | same => exact ⟨content, rfl⟩
  | written _ _ after => exact ⟨after, rfl⟩

/-- Where nothing was, there may be a regular file now. -/
lemma Revises.get?_none {fs fs' : FileSystem} (hrev : fs.Revises fs') {l : Location}
    (h : fs.get? l = none) :
    fs'.get? l = none ∨ ∃ mode content, fs'.get? l = some (.file mode content) := by
  have hrevl := hrev l
  rw [h] at hrevl
  generalize fs'.get? l = e' at hrevl ⊢
  cases hrevl with
  | same => exact .inl rfl
  | made mode content => exact .inr ⟨mode, content, rfl⟩

/-! ### Where a path leads -/

/-- A segment that is looked up in a directory. -/
structure IsName (name : String) : Prop where
  ne_empty : name ≠ ""
  ne_here : name ≠ "."
  ne_above : name ≠ ".."
  short : name.utf8ByteSize ≤ nameLimit

instance (name : String) : Decidable (IsName name) :=
  decidable_of_iff (name ≠ "" ∧ name ≠ "." ∧ name ≠ ".." ∧ name.utf8ByteSize ≤ nameLimit)
    ⟨fun ⟨h₁, h₂, h₃, h₄⟩ => ⟨h₁, h₂, h₃, h₄⟩,
      fun h => ⟨h.ne_empty, h.ne_here, h.ne_above, h.short⟩⟩

/-- The ways in which following a path succeeds. -/
inductive Leads (fs : FileSystem) (lookup : Lookup) :
    Nat → Location → List String → Target → Prop
  | arrive (links : Nat) (here : Location) :
      Leads fs lookup links here [] (.present here .directory)
  | stay {links : Nat} {here : Location} {name : String} {rest : List String} {t : Target} :
      name = "" ∨ name = "." → Leads fs lookup links here rest t →
      Leads fs lookup links here (name :: rest) t
  | leave {links : Nat} {here : Location} {rest : List String} {t : Target} :
      Leads fs lookup links here.dropLast rest t → Leads fs lookup links here (".." :: rest) t
  | vacant {links : Nat} {here : Location} {name : String} :
      IsName name → fs.get? (here ++ [name]) = none →
      Leads fs lookup links here [name] (.vacant here name)
  | enter {links : Nat} {here : Location} {name : String} {rest : List String} {t : Target} :
      IsName name → ¬ (lookup = .place ∧ rest = [""]) →
      fs.get? (here ++ [name]) = some .directory → Leads fs lookup links (here ++ [name]) rest t →
      Leads fs lookup links here (name :: rest) t
  | found {links : Nat} {here : Location} {name : String} {e : Entry} :
      IsName name → fs.get? (here ++ [name]) = some e → e ≠ .directory →
      (∀ target, e = .link target → lookup = .itself) →
      Leads fs lookup links here [name] (.present (here ++ [name]) e)
  | follow {links : Nat} {here : Location} {name target : String} {rest : List String}
      {t : Target} :
      IsName name → ¬ (lookup = .place ∧ rest = [""]) → ¬ (rest = [] ∧ lookup = .itself) →
      fs.get? (here ++ [name]) = some (.link target) → target ≠ "" →
      Leads fs lookup links (if Path.isAbsolute target then [] else here) (steps target ++ rest) t →
      Leads fs lookup (links + 1) here (name :: rest) t

lemma leads_of_walk {fs : FileSystem} {lookup : Lookup} {links : Nat} {here : Location}
    {todo : List String} {t : Target} (h : fs.walk lookup links here todo = .ok t) :
    Leads fs lookup links here todo t := by
  have hname : ∀ {name : String}, ¬ (decide (name = "") || decide (name = ".")) = true →
      ¬ name = ".." → ¬ name.utf8ByteSize > nameLimit → IsName name := by
    intro name h₁ h₂ h₃
    simp only [Bool.or_eq_true, decide_eq_true_eq, not_or] at h₁
    exact ⟨h₁.1, h₁.2, h₂, Nat.le_of_not_gt h₃⟩
  fun_induction walk fs lookup links here todo with
  | case1 links here =>
    cases h
    exact .arrive links here
  | case2 links here name rest hskip ih => exact .stay (by simpa using hskip) (ih h)
  | case3 links here rest _ ih => exact .leave (ih h)
  | case6 links here name rest h₁ h₂ h₃ h₄ hget hrest =>
    cases h
    obtain rfl := List.isEmpty_iff.mp hrest
    exact .vacant (hname h₁ h₂ h₄) hget
  | case8 links here name rest h₁ h₂ h₃ h₄ hget ih =>
    exact .enter (hname h₁ h₂ h₄) (by simpa using h₃) hget (ih h)
  | case9 links here name rest h₁ h₂ h₃ h₄ target hget hitself =>
    cases h
    simp only [Bool.and_eq_true, List.isEmpty_iff, decide_eq_true_eq] at hitself
    obtain ⟨rfl, hlookup⟩ := hitself
    exact .found (hname h₁ h₂ h₄) hget (by simp) fun _ _ => hlookup
  | case12 here name rest h₁ h₂ h₃ h₄ target hget hitself links htarget ih =>
    exact .follow (hname h₁ h₂ h₄) (by simpa using h₃) (by simpa using hitself) hget htarget
      (ih (by simpa using h))
  | case13 links here name rest h₁ h₂ h₃ h₄ e hdir hlink hget hrest =>
    cases h
    obtain rfl := List.isEmpty_iff.mp hrest
    exact .found (hname h₁ h₂ h₄) hget hdir fun target he => absurd he (hlink target)
  -- in the other cases the walk fails
  | _ => cases h

lemma walk_of_leads {fs : FileSystem} {lookup : Lookup} {links : Nat} {here : Location}
    {todo : List String} {t : Target} (h : Leads fs lookup links here todo t) :
    fs.walk lookup links here todo = .ok t := by
  induction h with
  | arrive links here => rw [walk]
  | stay hskip _ ih =>
    rw [walk, if_pos (by simpa using hskip), ih]
  | leave _ ih => rw [walk, if_neg (by decide), if_pos rfl, ih]
  | vacant hname hget =>
    obtain ⟨h₁, h₂, h₃, h₄⟩ := hname
    simp [walk, h₁, h₂, h₃, Nat.not_lt.mpr h₄, hget]
  | enter hname hplace hget _ ih =>
    obtain ⟨h₁, h₂, h₃, h₄⟩ := hname
    simp [walk, h₁, h₂, h₃, Nat.not_lt.mpr h₄, hget, hplace, ih]
  | found hname hget hdir hlink =>
    obtain ⟨h₁, h₂, h₃, h₄⟩ := hname
    rename_i e
    cases e <;> simp_all [walk, Nat.not_lt.mpr h₄]
  | follow hname hplace hitself hget htarget _ ih =>
    obtain ⟨h₁, h₂, h₃, h₄⟩ := hname
    simp [walk, h₁, h₂, h₃, Nat.not_lt.mpr h₄, hget, hplace, hitself, htarget, ih]

/-- The place of a regular file, or of a new one. -/
def Target.place? : Target → Option Location
  | .vacant directory name => some (directory ++ [name])
  | .present l (.file _ _) => some l
  | .present _ _ => none

/-- What is found at the end of a path stands there. -/
lemma get?_of_leads_present {fs : FileSystem} {lookup : Lookup} {links : Nat} {here : Location}
    {todo : List String} {l : Location} {e : Entry}
    (h : Leads fs lookup links here todo (.present l e)) (he : e ≠ .directory) :
    l ≠ [] ∧ fs.get? l = some e := by
  generalize ht : Target.present l e = t at h
  induction h with
  | arrive =>
    cases ht
    exact absurd rfl he
  | stay _ _ ih => exact ih ht
  | leave _ ih => exact ih ht
  | vacant => cases ht
  | enter _ _ _ _ ih => exact ih ht
  | found _ hget _ _ =>
    cases ht
    exact ⟨by simp, hget⟩
  | follow _ _ _ _ _ _ ih => exact ih ht

/-- Nothing stands at the place of a new file. -/
lemma get?_of_leads_vacant {fs : FileSystem} {lookup : Lookup} {links : Nat} {here : Location}
    {todo : List String} {directory : Location} {name : String}
    (h : Leads fs lookup links here todo (.vacant directory name)) :
    fs.get? (directory ++ [name]) = none := by
  generalize ht : Target.vacant directory name = t at h
  induction h with
  | stay _ _ ih => exact ih ht
  | leave _ ih => exact ih ht
  | vacant _ hget =>
    cases ht
    exact hget
  | enter _ _ _ _ ih => exact ih ht
  | follow _ _ _ _ _ _ ih => exact ih ht
  | _ => cases ht

/-- What stands at the place that a path leads to. -/
lemma get?_of_leads {fs : FileSystem} {lookup : Lookup} {links : Nat} {here : Location}
    {todo : List String} {t : Target} {l : Location} (h : Leads fs lookup links here todo t)
    (ht : t.place? = some l) :
    l ≠ [] ∧ ((∃ directory name, t = .vacant directory name ∧ fs.get? l = none) ∨
      ∃ mode content, t = .present l (.file mode content) ∧
        fs.get? l = some (.file mode content)) := by
  cases t with
  | vacant directory name =>
    cases ht
    exact ⟨by simp, .inl ⟨directory, name, rfl, get?_of_leads_vacant h⟩⟩
  | present k e =>
    cases e with
    | file mode content =>
      cases ht
      obtain ⟨hne, hget⟩ := get?_of_leads_present h (by simp)
      exact ⟨hne, .inr ⟨mode, content, rfl, hget⟩⟩
    | _ => cases ht

/-- A path to a regular file leads to the same place after a revision. All that is passed on the way
is directories and links, which are as before. -/
lemma Leads.revises {fs fs' : FileSystem} (hrev : fs.Revises fs') {lookup : Lookup} {links : Nat}
    {here : Location} {todo : List String} {t : Target} {l : Location}
    (h : Leads fs lookup links here todo t) (ht : t.place? = some l) :
    ∃ t', Leads fs' lookup links here todo t' ∧ t'.place? = some l := by
  induction h with
  | arrive => cases ht
  | stay hskip _ ih =>
    obtain ⟨t', h', ht'⟩ := ih ht
    exact ⟨t', .stay hskip h', ht'⟩
  | leave _ ih =>
    obtain ⟨t', h', ht'⟩ := ih ht
    exact ⟨t', .leave h', ht'⟩
  | @vacant _ here name hname hget =>
    -- the file may have been made meanwhile
    cases ht
    rcases hrev.get?_none hget with hget' | ⟨mode, content, hget'⟩
    · exact ⟨_, .vacant hname hget', rfl⟩
    · exact ⟨_, .found hname hget' (by simp) (by simp), rfl⟩
  | enter hname hplace hget _ ih =>
    obtain ⟨t', h', ht'⟩ := ih ht
    exact ⟨t', .enter hname hplace (hrev.get?_eq hget (by simp)) h', ht'⟩
  | @found _ here name e hname hget hdir hlink =>
    cases e with
    | file mode content =>
      cases ht
      obtain ⟨content', hget'⟩ := hrev.get?_file hget
      exact ⟨_, .found hname hget' (by simp) (by simp), rfl⟩
    | _ => cases ht
  | follow hname hplace hitself hget htarget _ ih =>
    obtain ⟨t', h', ht'⟩ := ih ht
    exact ⟨t', .follow hname hplace hitself (hrev.get?_eq hget (by simp)) htarget h', ht'⟩

/-- A path to a device led there before as well. -/
lemma Leads.device_before {fs fs' : FileSystem} (hrev : fs.Revises fs') {lookup : Lookup}
    {links : Nat} {here : Location} {todo : List String} {l : Location} {d : Device}
    (h : Leads fs' lookup links here todo (.present l (.device d))) :
    Leads fs lookup links here todo (.present l (.device d)) := by
  generalize ht : Target.present l (.device d) = t at h
  induction h with
  | arrive => cases ht
  | stay hskip _ ih => exact .stay hskip (ih ht)
  | leave _ ih => exact .leave (ih ht)
  | vacant => cases ht
  | enter hname hplace hget _ ih =>
    exact .enter hname hplace (hrev.get?_before hget (by simp)) (ih ht)
  | found hname hget hdir hlink =>
    cases ht
    exact .found hname (hrev.get?_before hget (by simp)) hdir hlink
  | follow hname hplace hitself hget htarget _ ih =>
    exact .follow hname hplace hitself (hrev.get?_before hget (by simp)) htarget (ih ht)

/-- What is found for writing is found for reading. -/
lemma Leads.target_of_place {fs : FileSystem} {links : Nat} {here : Location} {todo : List String}
    {t : Target} (h : Leads fs .place links here todo t) : Leads fs .target links here todo t := by
  induction h with
  | arrive links here => exact .arrive links here
  | stay hskip _ ih => exact .stay hskip ih
  | leave _ ih => exact .leave ih
  | vacant hname hget => exact .vacant hname hget
  | enter hname _ hget _ ih => exact .enter hname (by simp) hget ih
  | found hname hget hdir hlink =>
    exact .found hname hget hdir fun target he => by cases hlink target he
  | follow hname _ _ hget htarget _ ih => exact .follow hname (by simp) (by simp) hget htarget ih

/-- A path that asks for a directory leads to no file. -/
lemma Leads.place?_eq_none {fs : FileSystem} {lookup : Lookup} {links : Nat} {here : Location}
    {todo : List String} {t : Target} (h : Leads fs lookup links here todo t)
    (hslash : todo.getLast? = some "") : t.place? = none := by
  induction h with
  | arrive => rfl
  | @stay _ _ _ rest _ hskip hleads ih =>
    cases rest with
    | nil =>
      cases hleads
      rfl
    | cons => exact ih (by simpa using hslash)
  | @leave _ _ rest _ _ ih =>
    cases rest with
    | nil => simp at hslash
    | cons => exact ih (by simpa using hslash)
  | vacant hname _ => exact absurd (by simpa using hslash) hname.ne_empty
  | @enter _ _ _ rest _ hname _ _ _ ih =>
    cases rest with
    | nil => exact absurd (by simpa using hslash) hname.ne_empty
    | cons => exact ih (by simpa using hslash)
  | found hname _ _ _ => exact absurd (by simpa using hslash) hname.ne_empty
  | @follow _ _ _ _ rest _ hname _ _ _ _ _ ih =>
    cases rest with
    | nil => exact absurd (by simpa using hslash) hname.ne_empty
    | cons name rest =>
      have hrest : (name :: rest).getLast? = some "" := by simpa using hslash
      exact ih (by rw [List.getLast?_append, hrest]; rfl)

/-- A file that is found for reading is found for writing. -/
lemma Leads.place_of_target {fs : FileSystem} {links : Nat} {here : Location} {todo : List String}
    {t : Target} {l : Location} (h : Leads fs .target links here todo t) (ht : t.place? = some l) :
    Leads fs .place links here todo t := by
  induction h with
  | arrive => cases ht
  | stay hskip _ ih => exact .stay hskip (ih ht)
  | leave _ ih => exact .leave (ih ht)
  | vacant hname hget => exact .vacant hname hget
  | enter hname _ hget hleads ih =>
    refine .enter hname ?_ hget (ih ht)
    -- a slash at the end is refused for writing, but then nothing that is read is a file
    rintro ⟨-, rfl⟩
    rw [hleads.place?_eq_none rfl] at ht
    cases ht
  | found hname hget hdir hlink =>
    exact .found hname hget hdir fun target he => by cases hlink target he
  | follow hname _ _ hget htarget hleads ih =>
    refine .follow hname ?_ (by simp) hget htarget (ih ht)
    rintro ⟨-, rfl⟩
    rw [hleads.place?_eq_none (by simp)] at ht
    cases ht

/-- A path text that can be followed at all. -/
structure IsPath (text : String) : Prop where
  no_nul : containsChar '\x00' text = false
  ne_empty : text ≠ ""
  short : text.utf8ByteSize ≤ pathLimit

instance (text : String) : Decidable (IsPath text) :=
  decidable_of_iff
    (containsChar '\x00' text = false ∧ text ≠ "" ∧ text.utf8ByteSize ≤ pathLimit)
    ⟨fun ⟨h₁, h₂, h₃⟩ => ⟨h₁, h₂, h₃⟩, fun h => ⟨h.no_nul, h.ne_empty, h.short⟩⟩

lemma locate_eq_ok_iff {fs : FileSystem} {lookup : Lookup} {here : Location} {text : String}
    {t : Target} :
    fs.locate lookup here text = .ok t ↔ IsPath text ∧
      Leads fs lookup linkLimit (if Path.isAbsolute text then [] else here) (steps text) t := by
  constructor
  · intro h
    rw [locate] at h
    split at h
    · cases h
    split at h
    · cases h
    split at h
    · cases h
    rename_i hnul hempty hlong
    split at h
    · rename_i hwalk
      cases h
      exact ⟨⟨by simpa using hnul, hempty, Nat.le_of_not_gt hlong⟩, leads_of_walk hwalk⟩
    · cases h
  · rintro ⟨⟨hnul, hempty, hlong⟩, h⟩
    simp [locate, hnul, hempty, Nat.not_lt.mpr hlong, walk_of_leads h]

section

variable {fs : FileSystem} {directory name path : String} {d : Device} (hpath : IsPath path)
  (hsteps : steps path = [directory, name]) (hparent : IsName directory) (hname : IsName name)
  (hdirectory : fs.get? [directory] = some .directory)
  (hdevice : fs.get? [directory, name] = some (.device d))
include hpath hsteps hparent hname hdirectory hdevice

/-- A path to a device leads there in every way. -/
lemma locate_device (lookup : Lookup) :
    fs.locate lookup [] path = .ok (.present [directory, name] (.device d)) := by
  refine locate_eq_ok_iff.mpr ⟨hpath, ?_⟩
  rw [ite_self, hsteps]
  exact .enter hparent (by simp [hname.ne_empty]) hdirectory
    (.found hname hdevice (by simp) (by simp))

/-- Opening a device changes no file. -/
lemma openFile_device {access : Access} (haccess : access ≠ .fresh)
    (bits : Nat := newFileMode) : fs.openFile [] path access bits = .ok (.device d, fs) := by
  simp [openFile, locate_device hpath hsteps hparent hname hdirectory hdevice, haccess]

end

lemma stat?_eq_some_iff {fs : FileSystem} {text : String} {l : Location}
    {e : Entry} :
    fs.stat? [] text = some (l, e) ↔
      IsPath text ∧ Leads fs .target linkLimit [] (steps text) (.present l e) := by
  have hlocate := @locate_eq_ok_iff fs .target [] text (.present l e)
  rw [ite_self] at hlocate
  rw [← hlocate, stat?]
  rcases fs.locate .target [] text with _ | ⟨_, _⟩ | ⟨_, _⟩ <;> simp

/-! ### The file at a path -/

/-- Where the regular file is that a path leads to, or where it would be made. -/
def place? (fs : FileSystem) (path : String) : Option Location :=
  match fs.locate .place [] path with
  | .ok t => t.place?
  | .error _ => none

/-- The content of the regular file at a location. A file that is not there is empty. -/
def bytesAt (fs : FileSystem) (l : Location) : Bytes :=
  match fs.get? l with
  | some (.file _ content) => content
  | _ => []

/-- What stands at a location, if anything does, may be written. -/
def mayWriteAt (fs : FileSystem) (l : Location) : Bool :=
  (fs.get? l).all Entry.mayWrite

lemma place?_eq_some_iff {fs : FileSystem} {path : String} {l : Location} :
    fs.place? path = some l ↔ ∃ t, fs.locate .place [] path = .ok t ∧ t.place? = some l := by
  rw [place?]
  cases fs.locate .place [] path <;> simp

lemma place?_revises {fs fs' : FileSystem} {path : String} {l : Location} (hrev : fs.Revises fs')
    (h : fs.place? path = some l) : fs'.place? path = some l := by
  obtain ⟨t, hlocate, ht⟩ := place?_eq_some_iff.mp h
  obtain ⟨hpath, hleads⟩ := locate_eq_ok_iff.mp hlocate
  obtain ⟨t', hleads', ht'⟩ := hleads.revises hrev ht
  exact place?_eq_some_iff.mpr ⟨t', locate_eq_ok_iff.mpr ⟨hpath, hleads'⟩, ht'⟩

/-- A path of one name leads to the root directory. -/
lemma place?_of_steps {fs : FileSystem} {path name : String} (hpath : IsPath path)
    (hname : IsName name) (hsteps : steps path = [name])
    (hget : Entry.Revision none (fs.get? [name])) : fs.place? path = some [name] := by
  rw [place?_eq_some_iff]
  have hleads : ∃ t, Leads fs .place linkLimit [] [name] t ∧ t.place? = some [name] := by
    generalize he : fs.get? [name] = e at hget
    cases hget with
    | same => exact ⟨_, .vacant hname he, rfl⟩
    | made mode content => exact ⟨_, .found hname he (by simp) (by simp), rfl⟩
  obtain ⟨t, ht, htplace⟩ := hleads
  refine ⟨t, locate_eq_ok_iff.mpr ⟨hpath, ?_⟩, htplace⟩
  rwa [ite_self, hsteps]

/-- For writing and for reading a path leads to the place of its file, where there is a regular file
or nothing. -/
lemma locate_of_place {fs : FileSystem} {path : String} {l : Location}
    (h : fs.place? path = some l) :
    l ≠ [] ∧ ((∃ directory name, l = directory ++ [name] ∧ fs.get? l = none ∧
        fs.locate .place [] path = .ok (.vacant directory name) ∧
        fs.locate .target [] path = .ok (.vacant directory name)) ∨
      ∃ mode, fs.get? l = some (.file mode (fs.bytesAt l)) ∧
        fs.locate .place [] path = .ok (.present l (.file mode (fs.bytesAt l))) ∧
        fs.locate .target [] path = .ok (.present l (.file mode (fs.bytesAt l)))) := by
  obtain ⟨t, hlocate, ht⟩ := place?_eq_some_iff.mp h
  obtain ⟨hpath, hleads⟩ := locate_eq_ok_iff.mp hlocate
  have hread : fs.locate .target [] path = .ok t :=
    locate_eq_ok_iff.mpr ⟨hpath, hleads.target_of_place⟩
  obtain ⟨hl, hcases⟩ := get?_of_leads hleads ht
  refine ⟨hl, ?_⟩
  rcases hcases with ⟨directory, name, rfl, hget⟩ | ⟨mode, content, rfl, hget⟩
  · refine .inl ⟨_, _, ?_, hget, hlocate, hread⟩
    cases ht
    rfl
  · have hbytes : fs.bytesAt l = content := by rw [bytesAt, hget]
    rw [hbytes]
    exact .inr ⟨mode, hget, hlocate, hread⟩

/-! ### Opening and writing -/

/-- Opening leaves all as it is, or it makes or empties a file, which is then open and not only for
reading. -/
lemma openFile_cases {fs fs' : FileSystem} {here : Location} {text : String} {access : Access}
    {bits : Nat} {f : OpenFile} (h : fs.openFile here text access bits = .ok (f, fs')) :
    fs' = fs ∨ ∃ l mode, f = .file l ∧ access ≠ .read ∧ l ≠ [] ∧
      Entry.Revision (fs.get? l) (some (.file mode [])) ∧ fs' = fs.insert l (.file mode []) := by
  rw [openFile] at h
  cases hlocate : fs.locate (lookupFor access) here text with
  | error e =>
    rw [hlocate] at h
    cases h
  | ok t =>
    rw [hlocate] at h
    obtain ⟨-, hleads⟩ := locate_eq_ok_iff.mp hlocate
    cases t with
    | vacant directory name =>
      dsimp only at h
      split at h
      · cases h
      · rename_i haccess
        cases h
        have hnone := get?_of_leads_vacant hleads
        exact .inr ⟨_, bits, rfl, haccess, by simp, hnone ▸ .made bits [], rfl⟩
    | present l e =>
      dsimp only at h
      split at h
      · cases h
      cases e with
      | file mode content =>
        dsimp only at h
        split at h
        · cases h
        split at h
        · rename_i hwrite
          cases h
          obtain ⟨hl, hsome⟩ := get?_of_leads_present hleads (by simp)
          exact .inr ⟨l, mode, rfl, by simp [hwrite], hl, hsome ▸ .written mode content [], rfl⟩
        · cases h
          exact .inl rfl
      | directory =>
        dsimp only at h
        split at h <;> cases h
        exact .inl rfl
      | _ =>
        cases h
        exact .inl rfl

/-- A path that opens a device for reading opened it before as well. -/
lemma openFile_device_before {fs fs' : FileSystem} (hrev : fs.Revises fs') {path : String}
    {d : Device} {opened : FileSystem}
    (h : fs'.openFile [] path .read = .ok (.device d, opened)) :
    fs.openFile [] path .read = .ok (.device d, fs) := by
  obtain ⟨l, hlocate⟩ : ∃ l, fs'.locate .target [] path = .ok (.present l (.device d)) := by
    simp only [openFile, lookupFor] at h
    split at h
    · cases h
    · cases h
    · rename_i l e hlocate
      refine ⟨l, ?_⟩
      cases e with
      | device d' =>
        cases h
        exact hlocate
      | file bits content =>
        dsimp only at h
        split at h
        · cases h
        split at h
        · cases h
        · split at h <;> cases h
      | _ => cases h
  obtain ⟨hpath, hleads⟩ := locate_eq_ok_iff.mp hlocate
  simp [openFile, lookupFor, locate_eq_ok_iff.mpr ⟨hpath, hleads.device_before hrev⟩]

lemma openFile_revises {fs fs' : FileSystem} {here : Location} {text : String} {access : Access}
    {bits : Nat} {f : OpenFile} (h : fs.openFile here text access bits = .ok (f, fs')) :
    fs.Revises fs' := by
  rcases openFile_cases h with rfl | ⟨l, mode, -, -, hl, hrev, rfl⟩
  · exact revises_refl _
  · exact revises_insert hl hrev

/-- Writing leaves all as it is, or it changes what the file holds that is open. -/
lemma writeAt_cases {fs fs' : FileSystem} {f : OpenFile} {offset : Option Nat} {bytes : Bytes}
    {after : Nat} (h : fs.writeAt f offset bytes = .ok (fs', after)) :
    fs' = fs ∨ ∃ l mode content content', f = .file l ∧
      fs.get? l = some (.file mode content) ∧ fs' = fs.insert l (.file mode content') := by
  unfold writeAt at h
  split at h
  · cases h
    exact .inl rfl
  split at h
  · cases h
  · cases h
    exact .inl rfl
  · cases h
  · split at h
    · rename_i hget
      cases h
      exact .inr ⟨_, _, _, _, rfl, hget, rfl⟩
    · cases h
      exact .inl rfl

lemma writeAt_revises {fs fs' : FileSystem} {f : OpenFile} {offset : Option Nat} {bytes : Bytes}
    {after : Nat} (h : fs.writeAt f offset bytes = .ok (fs', after)) : fs.Revises fs' := by
  rcases writeAt_cases h with rfl | ⟨l, mode, content, content', -, hget, rfl⟩
  · exact revises_refl _
  · refine revises_insert ?_ (hget ▸ .written mode content content')
    rintro rfl
    cases hget

/-- What a file holds on when it is opened for writing. -/
def kept (mode : WriteMode) (content : Bytes) : Bytes :=
  match mode with
  | .truncate => []
  | .append => content

/-- The file at a location holds `content` now, and it is the only file that was written. -/
structure Saved (fs fs' : FileSystem) (l : Location) (content : Bytes) : Prop where
  revises : fs.Revises fs'
  bytes : fs'.bytesAt l = content
  mayWrite : fs'.mayWriteAt l = fs.mayWriteAt l
  others : ∀ k, k ≠ l → fs'.get? k = fs.get? k

lemma saved_refl (fs : FileSystem) (l : Location) : Saved fs fs l (fs.bytesAt l) :=
  ⟨revises_refl fs, rfl, rfl, fun _ _ => rfl⟩

/-- A file that was there keeps its permission bits. -/
lemma Saved.get? {fs fs' : FileSystem} {l : Location} {content before : Bytes} {mode : Nat}
    (h : Saved fs fs' l content) (hget : fs.get? l = some (.file mode before)) :
    fs'.get? l = some (.file mode content) := by
  obtain ⟨content', hget'⟩ := h.revises.get?_file hget
  have hbytes := h.bytes
  rw [bytesAt, hget'] at hbytes
  rw [hget', ← hbytes]

lemma mayWrite_file (bits : Nat) (content content' : Bytes) :
    (Entry.file bits content).mayWrite = (Entry.file bits content').mayWrite := rfl

/-- Opening the file at a path for writing. -/
lemma openFile_of_place {fs : FileSystem} {path : String} {l : Location}
    (h : fs.place? path = some l) (mode : WriteMode) :
    if fs.mayWriteAt l then ∃ opened bits,
      fs.openFile [] path (.write mode) = .ok (.file l, opened) ∧
        opened.get? l = some (.file bits (kept mode (fs.bytesAt l))) ∧
        (Entry.file bits []).mayWrite = true ∧ ∀ k, k ≠ l → opened.get? k = fs.get? k
    else fs.openFile [] path (.write mode) = .error (.os .permissionDenied) := by
  obtain ⟨hl, ⟨directory, name, rfl, hget, hlocate, -⟩ | ⟨bits, hget, hlocate, -⟩⟩ :=
    locate_of_place h
  · have hbytes : kept mode (fs.bytesAt (directory ++ [name])) = [] := by
      cases mode <;> simp [kept, bytesAt, hget]
    rw [if_pos (by simp [mayWriteAt, hget]), hbytes]
    refine ⟨fs.insert (directory ++ [name]) (.file newFileMode []), newFileMode, ?_,
      get?_insert_self _ _ _ hl, rfl, fun k hk => get?_insert_of_ne _ _ hk⟩
    simp [openFile, lookupFor, hlocate]
  · have hmay : fs.mayWriteAt l = (Entry.file bits []).mayWrite := by
      simp [mayWriteAt, hget, mayWrite_file bits (fs.bytesAt l) []]
    rw [hmay]
    cases hw : (Entry.file bits []).mayWrite with
    | false =>
      rw [mayWrite_file bits [] (fs.bytesAt l)] at hw
      simp [openFile, lookupFor, hlocate, allows, hw]
    | true =>
      rw [mayWrite_file bits [] (fs.bytesAt l)] at hw
      cases mode with
      | truncate =>
        refine ⟨fs.insert l (.file bits []), bits, ?_, get?_insert_self _ _ _ hl, hw,
          fun k hk => get?_insert_of_ne _ _ hk⟩
        simp [openFile, lookupFor, hlocate, allows, hw]
      | append =>
        refine ⟨fs, bits, ?_, hget, hw, fun k _ => rfl⟩
        simp [openFile, lookupFor, hlocate, allows, hw]

/-- Where there is nothing yet, opening for writing makes an empty file with the permission bits of
a new one. -/
lemma openFile_new {fs : FileSystem} {path : String} {l : Location} (h : fs.place? path = some l)
    (hget : fs.get? l = none) (mode : WriteMode) :
    fs.openFile [] path (.write mode) = .ok (.file l, fs.insert l (.file newFileMode [])) := by
  obtain ⟨-, ⟨directory, name, rfl, -, hlocate, -⟩ | ⟨bits, hsome, -, -⟩⟩ := locate_of_place h
  · simp [openFile, lookupFor, hlocate]
  · rw [hget] at hsome
    cases hsome

/-- Bytes written to a file that was just opened come after what it holds on. -/
lemma writeAt_kept {fs : FileSystem} {l : Location} {bits : Nat} {mode : WriteMode}
    {content : Bytes} (h : fs.get? l = some (.file bits (kept mode content))) (hl : l ≠ [])
    (bytes : Bytes) : ∃ written after,
      fs.writeAt (.file l) (nextOffset 0 mode) bytes = .ok (written, after) ∧
        written.get? l = some (.file bits (kept mode content ++ bytes)) ∧
        ∀ k, k ≠ l → written.get? k = fs.get? k := by
  by_cases hbytes : bytes = []
  · subst hbytes
    refine ⟨fs, (nextOffset 0 mode).getD 0, by simp [writeAt], by simp [h], fun k _ => rfl⟩
  · refine ⟨fs.insert l (.file bits (kept mode content ++ bytes)),
      (nextOffset 0 mode).getD (kept mode content).length + bytes.length, ?_,
      get?_insert_self _ _ _ hl, fun k hk => get?_insert_of_ne _ _ hk⟩
    simp only [writeAt, List.isEmpty_iff, hbytes, if_false, h]
    cases mode <;> simp [nextOffset, kept]

/-- Saving at a path writes the file at its place, unless that may not be written. -/
theorem save_cases {fs : FileSystem} {path : String} {l : Location} (h : fs.place? path = some l)
    (mode : WriteMode) (bytes : Bytes) :
    if fs.mayWriteAt l then ∃ fs', fs.save path mode bytes = (.ok (), fs') ∧
      Saved fs fs' l (kept mode (fs.bytesAt l) ++ bytes)
    else fs.save path mode bytes = (.error (.os .permissionDenied), fs) := by
  have hopen := openFile_of_place h mode
  split at hopen
  · rename_i hmay
    obtain ⟨opened, bits, hopen, hget, hw, hothers⟩ := hopen
    obtain ⟨written, after, hwrite, hget', hothers'⟩ :=
      writeAt_kept hget (locate_of_place h).1 bytes
    have hsave : fs.save path mode bytes = (.ok (), written) := by
      simp only [save, hopen, hwrite]
    rw [if_pos hmay]
    refine ⟨written, hsave, (openFile_revises hopen).trans (writeAt_revises hwrite), ?_, ?_, ?_⟩
    · simp only [bytesAt, hget']
    · rw [mayWrite_file bits [] (kept mode (fs.bytesAt l) ++ bytes)] at hw
      rw [hmay, mayWriteAt, hget', Option.all_some, hw]
    · intro k hk
      rw [hothers' k hk, hothers k hk]
  · rename_i hmay
    rw [if_neg hmay, save, hopen]

/-! ### Reading -/

/-- Reading at a path reads the file at its place. -/
lemma read_of_place {fs : FileSystem} {path : String} {l : Location} (h : fs.place? path = some l) :
    fs.read [] path =
      match fs.get? l with
      | none => .error (.os .noEntry)
      | some e => if e.mayRead then .ok (fs.bytesAt l) else .error (.os .permissionDenied) := by
  obtain ⟨hl, ⟨directory, name, rfl, hget, -, hlocate⟩ | ⟨bits, hget, -, hlocate⟩⟩ :=
    locate_of_place h
  · simp [read, openFile, lookupFor, hlocate, hget]
  · cases hr : (Entry.file bits (fs.bytesAt l)).mayRead <;>
      simp [read, openFile, lookupFor, hlocate, hget, allows, hr, readAll]

/-- Only regular files have anything to read. -/
lemma place?_of_read {fs : FileSystem} {path : String} {bytes : Bytes}
    (h : fs.read [] path = .ok bytes) (hne : bytes ≠ []) :
    ∃ l, fs.place? path = some l ∧ fs.bytesAt l = bytes := by
  cases hlocate : fs.locate .target [] path with
  | error e => simp [read, openFile, lookupFor, hlocate] at h
  | ok t =>
    obtain ⟨hpath, hleads⟩ := locate_eq_ok_iff.mp hlocate
    cases t with
    | vacant directory name => simp [read, openFile, lookupFor, hlocate] at h
    | present l e =>
      cases e with
      | directory => simp [read, openFile, lookupFor, hlocate, readAll] at h
      | device d => cases d <;> simp [read, openFile, lookupFor, hlocate, readAll, Ne.symm hne] at h
      | file mode content =>
        obtain ⟨-, hget⟩ := get?_of_leads_present hleads (by simp)
        have hplace : fs.place? path = some l := place?_eq_some_iff.mpr
          ⟨_, locate_eq_ok_iff.mpr ⟨hpath, hleads.place_of_target rfl⟩, rfl⟩
        refine ⟨l, hplace, ?_⟩
        rw [read_of_place hplace, hget] at h
        dsimp only at h
        split at h
        · cases h
          rfl
        · cases h
      | _ =>
        -- a link that was not followed: it is opened as a file that holds nothing
        obtain ⟨-, hget⟩ := get?_of_leads_present hleads (by simp)
        simp [read, openFile, lookupFor, hlocate, readAll, hget, Ne.symm hne] at h

/-- What is read at a path to a regular file. -/
lemma readText_eq_ok_iff {fs : FileSystem} {path : String} {l : Location} {text : String}
    (h : fs.place? path = some l) :
    fs.readText path = .ok text ↔
      ∃ mode, fs.get? l = some (.file mode (encode text)) ∧
        (Entry.file mode []).mayRead = true := by
  have hread := read_of_place h
  constructor
  · intro htext
    obtain ⟨-, ⟨_, _, rfl, hget, -, -⟩ | ⟨mode, hget, -, -⟩⟩ := locate_of_place h
    · simp [readText, Except.bind, hread, hget] at htext
    · cases hmay : (Entry.file mode (fs.bytesAt l)).mayRead with
      | false => simp [readText, Except.bind, hread, hget, hmay] at htext
      | true =>
        refine ⟨mode, ?_, hmay⟩
        cases hdecode : decode? (fs.bytesAt l) with
        | none => simp [readText, Except.bind, asText, hread, hget, hmay, hdecode] at htext
        | some s =>
          obtain rfl : s = text := by
            simpa [readText, Except.bind, asText, hread, hget, hmay, hdecode] using htext
          rw [encode_of_decode? hdecode, hget]
  · rintro ⟨mode, hget, hmay⟩
    have hmay' : (Entry.file mode (encode text)).mayRead = true := hmay
    have hbytes : fs.bytesAt l = encode text := by rw [bytesAt, hget]
    simp [readText, Except.bind, asText, hread, hget, hmay', hbytes, decode?_encode]

lemma place?_of_readText {fs : FileSystem} {path text : String} (h : fs.readText path = .ok text)
    (hne : text ≠ "") : ∃ l, fs.place? path = some l ∧ fs.bytesAt l = encode text := by
  cases hread : fs.read [] path with
  | error e => simp [readText, Except.bind, hread] at h
  | ok bytes =>
    cases hdecode : decode? bytes with
    | none => simp [readText, Except.bind, asText, hread, hdecode] at h
    | some s =>
      obtain rfl : s = text := by simpa [readText, Except.bind, asText, hread, hdecode] using h
      rw [encode_of_decode? hdecode]
      refine place?_of_read hread ?_
      rintro rfl
      cases hdecode
      exact hne rfl

end FileSystem

end Shell
