import Mathlib.Data.List.Sort
import Shell.Command.Search
import Shell.Proofs.FileSystem.Regular
import Shell.Proofs.Path.Text

/-!
# The names of commands

The names that are offered for a word are listed directory by directory, while a command is found by
trying one path in each directory. Both come to the same: a name without a slash is listed exactly
if it can be run.

A path that leads somewhere leads through the directory before its last name, and that name is
listed there. The other way round nothing is to be shown, since a name is listed only if its path
was tried.
-/

namespace Shell

/-! ### The order of texts -/

/-- Sequences of bytes are ordered by the first byte in which they differ. -/
lemma cons_ofNat_lt {n m : Nat} {x y : Bytes} (hle : n ≤ m) (hm : m < 256) (h : n = m → x < y) :
    UInt8.ofNat n :: x < UInt8.ofNat m :: y := by
  rw [List.cons_lt_cons_iff, UInt8.lt_iff_toNat_lt, UInt8.toNat_ofNat_of_lt' (hle.trans_lt hm),
    UInt8.toNat_ofNat_of_lt' hm]
  rcases hle.eq_or_lt with rfl | hlt
  · exact .inr ⟨rfl, h rfl⟩
  · exact .inl hlt

/-- Characters are ordered as their bytes are, whatever comes after them: of two forms the longer
one has the greater first byte, and forms of one length differ in a digit of base 64. -/
lemma utf8EncodeChar_append_lt {c d : Char} (h : c < d) (x y : Bytes) :
    String.utf8EncodeChar c ++ x < String.utf8EncodeChar d ++ y := by
  have hval : c.val.toNat < d.val.toNat := h
  have hlast : d.val.toNat < 0x110000 := by
    have hvalid := d.valid
    rw [UInt32.isValidChar, Nat.isValidChar] at hvalid
    omega
  simp only [String.utf8EncodeChar]
  generalize c.val.toNat = v at hval
  generalize d.val.toNat = w at hval hlast
  have hdigits : ∀ n, n / 4096 = n / 64 / 64 ∧ n / 262144 = n / 64 / 64 / 64 := by omega
  simp only [hdigits]
  split_ifs
  all_goals simp only [List.cons_append, List.nil_append]
  any_goals omega
  any_goals (refine cons_ofNat_lt (by omega) (by omega) fun _ => ?_; omega)
  -- forms of one length
  · refine cons_ofNat_lt (by omega) (by omega) fun _ => ?_
    exact cons_ofNat_lt (by omega) (by omega) fun _ => by omega
  · refine cons_ofNat_lt (by omega) (by omega) fun _ => ?_
    refine cons_ofNat_lt (by omega) (by omega) fun _ => ?_
    exact cons_ofNat_lt (by omega) (by omega) fun _ => by omega
  · refine cons_ofNat_lt (by omega) (by omega) fun _ => ?_
    refine cons_ofNat_lt (by omega) (by omega) fun _ => ?_
    refine cons_ofNat_lt (by omega) (by omega) fun _ => ?_
    exact cons_ofNat_lt (by omega) (by omega) fun _ => by omega

/-- By induction over the first place at which the texts differ. -/
lemma encode_lt_encode {s t : String} (h : s < t) : encode s < encode t := by
  rw [encode_eq_flatMap, encode_eq_flatMap]
  have hlex : List.Lex (· < ·) s.toList t.toList := String.lt_iff.mp h
  generalize s.toList = cs at hlex
  generalize t.toList = ds at hlex
  induction hlex with
  | nil =>
    rename_i d ds
    obtain ⟨b, bs, hbytes⟩ := List.exists_cons_of_ne_nil (String.utf8EncodeChar_ne_nil (c := d))
    rw [List.flatMap_nil, List.flatMap_cons, hbytes]
    exact List.nil_lt_cons _ _
  | cons _ ih => exact List.append_left_lt ih
  | rel hcd => exact utf8EncodeChar_append_lt hcd _ _

/-! ### Inserting a name -/

namespace Context

lemma mem_insertName {name other : String} {names : List String} :
    other ∈ insertName name names ↔ other = name ∨ other ∈ names := by
  induction names with
  | nil => simp [insertName]
  | cons n rest ih =>
    rw [insertName]
    split
    · simp
    split
    · rename_i hname
      simp [hname]
    · simp only [List.mem_cons, ih, or_left_comm]

/-- An increasing list stays increasing. -/
lemma pairwise_insertName {name : String} {names : List String} (h : names.Pairwise (· < ·)) :
    (insertName name names).Pairwise (· < ·) := by
  induction names with
  | nil => simp [insertName]
  | cons n rest ih =>
    obtain ⟨hn, hrest⟩ := List.pairwise_cons.mp h
    rw [insertName]
    split
    · rename_i hlt
      refine List.pairwise_cons.mpr ⟨fun other hother => ?_, h⟩
      rcases List.mem_cons.mp hother with rfl | hother
      · exact hlt
      · exact hlt.trans (hn other hother)
    split
    · exact h
    · rename_i hnlt hne
      refine List.pairwise_cons.mpr ⟨fun other hother => ?_, ih hrest⟩
      rcases mem_insertName.mp hother with rfl | hother
      · exact (not_lt.mp hnlt).lt_of_ne (Ne.symm hne)
      · exact hn other hother

lemma mem_foldr_insertName {name : String} {names : List String} :
    name ∈ names.foldr insertName [] ↔ name ∈ names := by
  induction names with
  | nil => rfl
  | cons n rest ih => rw [List.foldr_cons, mem_insertName, ih, List.mem_cons]

lemma pairwise_foldr_insertName (names : List String) :
    (names.foldr insertName []).Pairwise (· < ·) := by
  induction names with
  | nil => exact .nil
  | cons n rest ih => exact pairwise_insertName ih

end Context

/-! ### The directory before the last name -/

/-- The operating system follows the names of a path one by one. -/
lemma Path.steps_text {p : Path} (hrooted : p.rooted = true)
    (hnames : ∀ n ∈ p.names, n ≠ "" ∧ '/' ∉ n.toList) : FileSystem.steps p.text = p.names := by
  rw [FileSystem.steps, splitText_text hrooted]
  by_cases hne : p.names = []
  · rw [hne]
    rfl
  · rw [splitText_joinText hne fun n hn => (hnames n hn).2]
    simpa [getLast?_text_ne hne hnames] using fun n hn => (hnames n hn).1

namespace FileSystem

variable {fs : FileSystem} {links : Nat} {here : Location} {todo : List String}

/-- A segment that stays where it is, or goes up, leads to a directory. -/
lemma Leads.eq_directory {t : Target} (h : Leads fs .target links here todo t) {last : String}
    (hlast : todo.getLast? = some last) (hstep : last = "" ∨ last = "." ∨ last = "..") :
    ∃ l, t = .present l .directory := by
  have hname : ∀ {name : String}, IsName name → [name].getLast? ≠ some last := by
    intro name hname heq
    obtain rfl : name = last := by simpa using heq
    rcases hstep with h | h | h
    · exact hname.ne_empty h
    · exact hname.ne_here h
    · exact hname.ne_above h
  induction h with
  | arrive => cases hlast
  | @stay _ _ _ rest _ _ hleads ih =>
    cases rest with
    | nil =>
      cases hleads
      exact ⟨_, rfl⟩
    | cons => exact ih (by simpa using hlast)
  | @leave _ _ rest _ hleads ih =>
    cases rest with
    | nil =>
      cases hleads
      exact ⟨_, rfl⟩
    | cons => exact ih (by simpa using hlast)
  | vacant hname' _ => exact absurd hlast (hname hname')
  | @enter _ _ _ rest _ hname' _ _ _ ih =>
    cases rest with
    | nil => exact absurd hlast (hname hname')
    | cons => exact ih (by simpa using hlast)
  | found hname' _ _ _ => exact absurd hlast (hname hname')
  | @follow _ _ _ _ rest _ hname' _ _ _ _ _ ih =>
    cases rest with
    | nil => exact absurd hlast (hname hname')
    | cons name rest =>
      have hrest : (name :: rest).getLast? = some last := by simpa using hlast
      exact ih (by rw [List.getLast?_append, hrest]; rfl)

/-- What is found under a name is found in a directory, where something of that name stands. -/
lemma Leads.exists_directory {name : String} {l : Location} {e : Entry}
    (hname : name ≠ "" ∧ name ≠ "." ∧ name ≠ "..")
    (h : Leads fs .target links here (todo ++ [name]) (.present l e)) :
    ∃ d, Leads fs .target links here todo (.present d .directory) ∧
      (fs.get? (d ++ [name])).isSome = true := by
  generalize hall : todo ++ [name] = all at h
  generalize ht : Target.present l e = t at h
  induction h generalizing todo with
  | arrive => simp at hall
  | @stay _ _ first rest _ hskip _ ih =>
    rcases List.append_eq_cons_iff.mp hall with ⟨rfl, heq⟩ | ⟨todo', rfl, hrest⟩
    · obtain ⟨rfl, -⟩ := List.cons.inj heq
      rcases hskip with h | h
      · exact absurd h hname.1
      · exact absurd h hname.2.1
    · obtain ⟨d, hd, hget⟩ := ih hrest.symm ht
      exact ⟨d, .stay hskip hd, hget⟩
  | @leave _ _ rest _ _ ih =>
    rcases List.append_eq_cons_iff.mp hall with ⟨rfl, heq⟩ | ⟨todo', rfl, hrest⟩
    · obtain ⟨h, -⟩ := List.cons.inj heq
      exact absurd h hname.2.2
    · obtain ⟨d, hd, hget⟩ := ih hrest.symm ht
      exact ⟨d, .leave hd, hget⟩
  | vacant => cases ht
  | @enter _ here first rest _ hfirst hplace hdir _ ih =>
    rcases List.append_eq_cons_iff.mp hall with ⟨rfl, heq⟩ | ⟨todo', rfl, hrest⟩
    · obtain ⟨rfl, -⟩ := List.cons.inj heq
      exact ⟨here, .arrive _ _, by simp [hdir]⟩
    · obtain ⟨d, hd, hget⟩ := ih hrest.symm ht
      exact ⟨d, .enter hfirst (by simp) hdir hd, hget⟩
  | @found _ here first e hfirst hentry _ _ =>
    rcases List.append_eq_cons_iff.mp hall with ⟨rfl, heq⟩ | ⟨todo', rfl, hrest⟩
    · obtain ⟨rfl, -⟩ := List.cons.inj heq
      exact ⟨here, .arrive _ _, by simp [hentry]⟩
    · simp at hrest
  | @follow _ here first target rest _ hfirst _ _ hlink htarget _ ih =>
    rcases List.append_eq_cons_iff.mp hall with ⟨rfl, heq⟩ | ⟨todo', rfl, hrest⟩
    · -- the name itself is that of a link, wherever it leads
      obtain ⟨rfl, -⟩ := List.cons.inj heq
      exact ⟨here, .arrive _ _, by simp [hlink]⟩
    · obtain ⟨d, hd, hget⟩ := ih (by rw [hrest, List.append_assoc]) ht
      exact ⟨d, .follow hfirst (by simp) (by simp) hlink htarget hd, hget⟩

lemma mem_children_of_get? {d : Location} {name : String}
    (h : (fs.get? (d ++ [name])).isSome = true) : name ∈ fs.children d := by
  obtain ⟨e, he⟩ := Option.isSome_iff_exists.mp h
  rw [get?, if_neg (by simp)] at he
  obtain ⟨before, after, hentries, -⟩ := List.lookup_eq_some_iff.mp he
  rw [children, List.mem_filterMap]
  exact ⟨(d ++ [name], e), by simp [hentries], by simp⟩

/-- A text with a slash at its end leads to no program. -/
lemma isExecutable_of_slash {text : String} (h : text.toList.getLast? = some '/') :
    fs.isExecutable text = false := by
  rw [isExecutable]
  split
  · rename_i l e hstat
    obtain ⟨-, hleads⟩ := stat?_eq_some_iff.mp hstat
    rw [steps] at hleads
    split at hleads
    · obtain ⟨k, hk⟩ := hleads.eq_directory List.getLast?_concat (.inl rfl)
      cases hk
      rfl
    · -- only a text without names has no segment for the slash
      rename_i hnames
      have hnil : (splitText '/' text).filter (fun s => s ≠ "") = [] := by simpa [h] using hnames
      rw [hnil] at hleads
      cases hleads
      rfl
  · rfl

/-- The beginning of a path text that can be followed. -/
lemma IsPath.of_append {text rest : String} (h : IsPath (text ++ rest)) (hne : text ≠ "") :
    IsPath text where
  no_nul := by
    have hnul := h.no_nul
    simp only [containsChar, String.toList_append, List.contains_append, Bool.or_eq_false_iff]
      at hnul
    exact hnul.1
  ne_empty := hne
  short := by
    have hshort := h.short
    rw [String.utf8ByteSize_append] at hshort
    omega

/-- A program that is found under a path is listed in the directory before its name. -/
lemma mem_list_of_isExecutable {dir : Path} (hdir : dir.IsNormal) {name : String}
    (hempty : name ≠ "") (hslash : '/' ∉ name.toList)
    (h : fs.isExecutable (dir.entryText name) = true) : name ∈ fs.list dir.text := by
  rw [isExecutable] at h
  split at h
  · rename_i l e hstat
    obtain ⟨hpath, hleads⟩ := stat?_eq_some_iff.mp hstat
    have hnames : ∀ n ∈ dir.names, n ≠ "" ∧ '/' ∉ n.toList := fun n hn =>
      ⟨(hdir.names n hn).ne_empty, (hdir.names n hn).no_slash⟩
    have hsteps : steps (dir.entryText name) = steps dir.text ++ [name] := by
      rw [Path.entryText_eq, Path.steps_text hdir.rooted hnames]
      refine Path.steps_text hdir.rooted fun n hn => ?_
      rcases List.mem_append.mp hn with hn | hn
      · exact hnames n hn
      · rw [List.mem_singleton.mp hn]
        exact ⟨hempty, hslash⟩
    rw [hsteps] at hleads
    have hname : name ≠ "." ∧ name ≠ ".." := by
      -- otherwise a directory is found, which is no program
      rw [← not_or]
      intro hdots
      obtain ⟨k, hk⟩ := hleads.eq_directory List.getLast?_concat (.inr hdots)
      cases hk
      cases h
    obtain ⟨d, hd, hget⟩ := hleads.exists_directory ⟨hempty, hname⟩
    have hstat' : fs.stat? [] dir.text = some (d, .directory) := by
      refine stat?_eq_some_iff.mpr ⟨?_, hd⟩
      obtain ⟨sep, hsep⟩ := dir.exists_entryText_eq_append name
      rw [hsep, String.append_assoc] at hpath
      exact hpath.of_append (by simp [Path.text, hdir.rooted])
    rw [list, hstat']
    exact mem_children_of_get? hget
  · cases h

end FileSystem

/-! ### Offered and found -/

namespace Context

variable (ctx : Context) (fs : FileSystem)

lemma pairwise_commandNames (word : String) : (ctx.commandNames fs word).Pairwise (· < ·) :=
  pairwise_foldr_insertName _

lemma mem_commandNames {word name : String} :
    name ∈ ctx.commandNames fs word ↔ startsWithText word name = true ∧
      ((Builtin.ofName? name).isSome = true ∨ ∃ dir ∈ ctx.searchDirectories,
        name ∈ fs.list dir.text ∧ fs.isExecutable (dir.entryText name) = true) := by
  rw [commandNames, mem_foldr_insertName, List.mem_append, List.mem_filter,
    ← Builtin.isSome_ofName?_iff]
  simp only [List.mem_flatMap, List.mem_filter, Bool.and_eq_true]
  constructor
  · rintro (⟨hname, hword⟩ | ⟨dir, hdir, hlist, hword, hrun⟩)
    · exact ⟨hword, .inl hname⟩
    · exact ⟨hword, .inr ⟨dir, hdir, hlist, hrun⟩⟩
  · rintro ⟨hword, hname | ⟨dir, hdir, hlist, hrun⟩⟩
    · exact .inl ⟨hname, hword⟩
    · exact .inr ⟨dir, hdir, hlist, hword, hrun⟩

lemma isNormal_of_mem_searchDirectories {ctx : Context} (h : ctx.workspace.IsNormal) {dir : Path}
    (hdir : dir ∈ ctx.searchDirectories) : dir.IsNormal := by
  rw [searchDirectories] at hdir
  split at hdir
  · cases hdir
  · obtain ⟨entry, -, rfl⟩ := List.mem_map.mp hdir
    exact Path.isNormal_resolve fun _ => h

/-- A name without a slash leads to a program if one of the search directories holds it. -/
lemma isSome_findExecutable_iff {name : String} (hempty : name ≠ "") (hslash : '/' ∉ name.toList) :
    (ctx.findExecutable fs name).isSome = true ↔
      ∃ dir ∈ ctx.searchDirectories, fs.isExecutable (dir.entryText name) = true := by
  have hcontains : containsChar '/' name = false := by simpa [containsChar] using hslash
  have habsolute : Path.isAbsolute name = false := by
    rw [Path.isAbsolute, startsWithText, ← Bool.not_eq_true, List.isPrefixOf_iff_prefix]
    exact fun hhead => hslash (hhead.subset (by simp))
  rw [findExecutable, if_neg hempty, habsolute, hcontains]
  simp [List.find?_isSome]

lemma runnable_resolve_iff {name : String} :
    (ctx.resolve fs name).runnable = true ↔
      (Builtin.ofName? name).isSome = true ∨ (ctx.findExecutable fs name).isSome = true := by
  simp [resolve]

/-- What is listed is what is found. -/
lemma mem_commandNames_iff {ctx : Context} (h : ctx.workspace.IsNormal) (word : String)
    {name : String} (hslash : '/' ∉ name.toList) :
    name ∈ ctx.commandNames fs word ↔
      startsWithText word name = true ∧ (ctx.resolve fs name).runnable = true := by
  rw [mem_commandNames, runnable_resolve_iff]
  refine and_congr_right fun _ => or_congr_right ?_
  by_cases hempty : name = ""
  · -- neither way is there a program without a name
    subst hempty
    have hfind : ctx.findExecutable fs "" = none := by rw [findExecutable, if_pos rfl]
    rw [hfind]
    refine iff_of_false ?_ (by simp)
    rintro ⟨dir, hdir, -, hrun⟩
    have hslash := (isNormal_of_mem_searchDirectories h hdir).getLast?_entryText_empty
    rw [FileSystem.isExecutable_of_slash hslash] at hrun
    cases hrun
  · rw [isSome_findExecutable_iff ctx fs hempty hslash]
    constructor
    · rintro ⟨dir, hdir, -, hrun⟩
      exact ⟨dir, hdir, hrun⟩
    · rintro ⟨dir, hdir, hrun⟩
      have hnormal := isNormal_of_mem_searchDirectories h hdir
      exact ⟨dir, hdir, FileSystem.mem_list_of_isExecutable hnormal hempty hslash hrun, hrun⟩

lemma startsWithText_of_append {word more name : String}
    (h : startsWithText (word ++ more) name = true) : startsWithText word name = true := by
  rw [startsWithText, List.isPrefixOf_iff_prefix] at h ⊢
  rw [String.toList_append] at h
  exact (List.prefix_append _ _).trans h

/-- The names that are offered for a word are in strictly increasing order of their bytes. Among
them is a name without a slash exactly if it begins with the word and can be run, as a builtin or as
a program. So a longer word only leaves out names. The directory of the session is written in its
normal form, as it is in every session. -/
theorem commandNames_complete (h : ctx.workspace.IsNormal) :
    (∀ word, (ctx.commandNames fs word).Pairwise fun a b => encode a < encode b) ∧
    (∀ word name, '/' ∉ name.toList → (name ∈ ctx.commandNames fs word ↔
      startsWithText word name = true ∧ (ctx.resolve fs name).runnable = true)) ∧
    ∀ word more, ctx.commandNames fs (word ++ more) =
      (ctx.commandNames fs word).filter (startsWithText (word ++ more)) := by
  refine ⟨fun word => (ctx.pairwise_commandNames fs word).imp encode_lt_encode,
    fun word name hslash => mem_commandNames_iff fs h word hslash, fun word more => ?_⟩
  -- both lists are increasing, so it is enough that they have the same members
  refine List.Pairwise.eq_of_mem_iff (ctx.pairwise_commandNames fs _)
    ((ctx.pairwise_commandNames fs word).filter _) fun name => ?_
  rw [List.mem_filter, mem_commandNames, mem_commandNames]
  constructor
  · rintro ⟨hword, hfound⟩
    exact ⟨⟨startsWithText_of_append hword, hfound⟩, hword⟩
  · rintro ⟨⟨-, hfound⟩, hword⟩
    exact ⟨hword, hfound⟩

/-- A link to a program is offered, and a file that may not be run is not. The empty entry of `PATH`
is the directory that holds them. -/
theorem commandNames_complete_link :
    let fs : FileSystem := { entries := [(["bin"], .directory), (["bin", "ed"], .program "ed"),
      (["bin", "e"], .link "ed"), (["bin", "em"], .file 0o644 [])] }
    let ctx : Context := { workspace := ⟨true, ["bin"]⟩, vars := [("PATH", "")] }
    ctx.workspace.IsNormal ∧ "e" ∈ ctx.commandNames fs "e" ∧ "em" ∉ ctx.commandNames fs "e" := by
  intro fs ctx
  have hnormal : ctx.workspace.IsNormal := by
    refine ⟨rfl, fun n hn => ?_⟩
    rw [List.mem_singleton.mp hn]
    exact ⟨by decide, by decide, by decide, by decide⟩
  have hdirs : ctx.searchDirectories = [ctx.workspace] := rfl
  have hlink : fs.isExecutable "/bin/e" = true := by
    have hstat : fs.stat? [] "/bin/e" = some (["bin", "ed"], .program "ed") := by
      refine FileSystem.stat?_eq_some_iff.mpr ⟨⟨by decide, by decide, by decide⟩, ?_⟩
      refine .enter ⟨by decide, by decide, by decide, by decide⟩ (by simp) rfl ?_
      refine .follow ⟨by decide, by decide, by decide, by decide⟩ (by simp) (by simp) rfl
        (by decide) ?_
      exact .found ⟨by decide, by decide, by decide, by decide⟩ rfl (by simp) (by simp)
    rw [FileSystem.isExecutable, hstat]
    rfl
  have hfile : fs.isExecutable "/bin/em" = false := by
    have hstat : fs.stat? [] "/bin/em" = some (["bin", "em"], .file 0o644 []) := by
      refine FileSystem.stat?_eq_some_iff.mpr ⟨⟨by decide, by decide, by decide⟩, ?_⟩
      refine .enter ⟨by decide, by decide, by decide, by decide⟩ (by simp) rfl ?_
      exact .found ⟨by decide, by decide, by decide, by decide⟩ rfl (by simp) (by simp)
    rw [FileSystem.isExecutable, hstat]
    rfl
  have hmem := (ctx.commandNames_complete fs hnormal).2.1 "e"
  refine ⟨hnormal, (hmem "e" (by decide)).mpr ⟨rfl, ?_⟩, mt (hmem "em" (by decide)).mp ?_⟩
  · refine (runnable_resolve_iff ctx fs).mpr (.inr ?_)
    rw [isSome_findExecutable_iff ctx fs (by decide) (by decide)]
    exact ⟨ctx.workspace, by simp [hdirs], hlink⟩
  · rintro ⟨-, hrun⟩
    rcases (runnable_resolve_iff ctx fs).mp hrun with hbuiltin | hfound
    · revert hbuiltin
      decide
    · obtain ⟨dir, hdir, hexec⟩ :=
        (isSome_findExecutable_iff ctx fs (by decide) (by decide)).mp hfound
      obtain rfl : dir = ctx.workspace := by simpa [hdirs] using hdir
      have htext : ctx.workspace.entryText "em" = "/bin/em" := rfl
      rw [htext, hfile] at hexec
      cases hexec

end Context

end Shell
