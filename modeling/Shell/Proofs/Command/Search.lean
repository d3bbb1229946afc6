import Shell.Command.Search
import Shell.Proofs.FileSystem.Regular
import Shell.Proofs.Path.Text

/-!
# The search for a program

A name leads to the first of the paths tried for it at which there is a program. Which paths are
tried depends on the form of the name: a name from the root is tried as it is, any other name with a
slash in the working directory, and a name without one in each of the directories that `PATH` lists.
-/

namespace Shell

/-! ### Programs -/

/-- Where a path and the links on it lead there is a regular file, and one of its execute bits is
set. -/
def FileSystem.HasProgram (fs : FileSystem) (path : String) : Prop :=
  ∃ l e, fs.stat? [] path = some (l, e) ∧ e.isFile = true ∧ e.mode &&& 0o111 ≠ 0

lemma Entry.isExecutable_iff (e : Entry) :
    e.isExecutable = true ↔ e.isFile = true ∧ e.mode &&& 0o111 ≠ 0 := by
  cases e with
  | file bits content => simp [isExecutable, isFile, mode]
  | program name => simp [isExecutable, isFile, mode]
  | directory => simp [isExecutable, isFile]
  | link target => simp [isExecutable, isFile]
  | device device => simp [isExecutable, isFile]

lemma FileSystem.isExecutable_iff (fs : FileSystem) (path : String) :
    fs.isExecutable path = true ↔ fs.HasProgram path := by
  rw [isExecutable, HasProgram]
  cases fs.stat? [] path with
  | none => simp
  | some found =>
    obtain ⟨l, e⟩ := found
    simpa using e.isExecutable_iff

/-! ### Paths that are tried -/

/-- A name joined to the text of a directory. -/
def Path.joined (directory name : String) : String :=
  if directory.toList.getLast? = some '/' then directory ++ name else directory ++ "/" ++ name

lemma Path.IsNormal.entryText_eq_joined {p : Path} (h : p.IsNormal) (name : String) :
    p.entryText name = joined p.text name := by
  rw [entryText, joined]
  by_cases hnames : p.names = []
  · have htext : p.text = "/" := by simp [text, hnames, h.rooted]
    rw [hnames, htext]
    rfl
  · have hlast := getLast?_text_ne hnames fun n hn =>
      ⟨(h.names n hn).ne_empty, (h.names n hn).no_slash⟩
    rw [if_neg (by simpa using hnames), if_neg hlast]

namespace Context

/-- The directory that an entry of `PATH` stands for. -/
def searched (ctx : Context) (entry : String) : String :=
  if entry = "" then ctx.workspace.text else Path.normalize ctx.workspace.text entry

/-- The paths that are tried for a name, in order. -/
def tried (ctx : Context) (name : String) : List String :=
  if name = "" then []
  else if Path.isAbsolute name then [name]
  else if '/' ∈ name.toList then [Path.normalize ctx.workspace.text name]
  else match ctx.var "PATH" with
    | none => []
    | some entries =>
      (splitText ':' entries).map fun entry => Path.joined (ctx.searched entry) name

variable {ctx : Context} (fs : FileSystem)

lemma searched_eq (h : ctx.workspace.IsNormal) (entry : String) :
    ctx.searched entry = (ctx.resolvePath entry).text := by
  rw [searched]
  split
  · rename_i hentry
    rw [hentry]
    rfl
  · rw [resolvePath, h.text_resolve]

lemma findExecutable_eq_find? (h : ctx.workspace.IsNormal) (name : String) :
    ctx.findExecutable fs name = (ctx.tried name).find? fs.isExecutable := by
  have hsingle : ∀ path, (if fs.isExecutable path then some path else none) =
      [path].find? fs.isExecutable := by
    intro path
    cases hpath : fs.isExecutable path <;> simp [hpath]
  rw [findExecutable, tried]
  by_cases hempty : name = ""
  · rw [if_pos hempty, if_pos hempty]
    rfl
  rw [if_neg hempty, if_neg hempty]
  by_cases habsolute : Path.isAbsolute name = true
  · rw [if_pos habsolute, if_pos habsolute, hsingle]
  rw [if_neg habsolute, if_neg habsolute]
  by_cases hslash : '/' ∈ name.toList
  · rw [if_pos (by simpa [containsChar] using hslash), if_pos hslash, resolvePath, h.text_resolve,
      hsingle]
  rw [if_neg (by simpa [containsChar] using hslash), if_neg hslash, searchDirectories]
  cases ctx.var "PATH" with
  | none => rfl
  | some entries =>
    simp only [List.map_map]
    congr 1
    refine List.map_congr_left fun entry _ => ?_
    have hnormal : (ctx.resolvePath entry).IsNormal := Path.isNormal_resolve fun _ => h
    rw [searched_eq h, Function.comp_apply, hnormal.entryText_eq_joined]

/-- What a name leads to may be run, and its path starts at the root. -/
lemma isAbsolute_of_findExecutable {fs : FileSystem} {name path : String}
    (hrooted : ctx.workspace.rooted = true) (h : ctx.findExecutable fs name = some path) :
    Path.isAbsolute path = true ∧ fs.isExecutable path = true := by
  have hresolve : ∀ text, (ctx.resolvePath text).rooted = true := by
    intro text
    rw [resolvePath, Path.rooted_resolve, hrooted, Bool.or_true]
  rw [findExecutable] at h
  split at h
  · cases h
  split at h
  · -- a path from the root is taken as it is
    rename_i habsolute
    obtain ⟨hexec, ⟨⟩⟩ := Option.ite_none_right_eq_some.mp h
    exact ⟨habsolute, hexec⟩
  split at h
  · obtain ⟨hexec, ⟨⟩⟩ := Option.ite_none_right_eq_some.mp h
    exact ⟨Path.isAbsolute_text (hresolve name), hexec⟩
  · refine ⟨?_, List.find?_some h⟩
    obtain ⟨dir, hdir, rfl⟩ := List.mem_map.mp (List.mem_of_find?_eq_some h)
    rw [searchDirectories] at hdir
    split at hdir
    · cases hdir
    · obtain ⟨entry, -, rfl⟩ := List.mem_map.mp hdir
      exact Path.isAbsolute_entryText (hresolve entry) name

/-- A name leads to the first of the paths tried for it at which there is a program, and to nothing
if there is none at any of them. What it leads to is a path from the root. The directory of the
session is written in its normal form, as it is in every session. -/
theorem findExecutable_first (h : ctx.workspace.IsNormal) (name : String) :
    (∀ path, ctx.findExecutable fs name = some path ↔
      ∃ before after, ctx.tried name = before ++ path :: after ∧ fs.HasProgram path ∧
        ∀ other ∈ before, ¬ fs.HasProgram other) ∧
    (ctx.findExecutable fs name = none ↔ ∀ path ∈ ctx.tried name, ¬ fs.HasProgram path) ∧
    ∀ path, ctx.findExecutable fs name = some path →
      Path.isAbsolute path = true ∧ fs.HasProgram path := by
  have hfind := findExecutable_eq_find? fs h name
  refine ⟨fun path => ?_, ?_, fun path hpath => ?_⟩
  · simp only [hfind, List.find?_eq_some_iff_append, Bool.not_eq_true', ← Bool.not_eq_true,
      fs.isExecutable_iff]
    constructor
    · rintro ⟨hpath, before, after, htried, hbefore⟩
      exact ⟨before, after, htried, hpath, hbefore⟩
    · rintro ⟨before, after, htried, hpath, hbefore⟩
      exact ⟨hpath, before, after, htried, hbefore⟩
  · rw [hfind, List.find?_eq_none]
    simp only [fs.isExecutable_iff]
  · obtain ⟨habsolute, hexec⟩ := isAbsolute_of_findExecutable h.rooted hpath
    exact ⟨habsolute, (fs.isExecutable_iff path).mp hexec⟩

/-- A name without a slash: the first directory has a file of this name that may not be run, the
second is the working directory and has a link to a program. -/
theorem findExecutable_first_link :
    let fs : FileSystem := { entries := [(["a"], .directory), (["a", "ed"], .file 0o644 []),
      (["b"], .directory), (["b", "ed"], .link "../a/run"), (["a", "run"], .file 0o100 [])] }
    let ctx : Context := { workspace := ⟨true, ["b"]⟩, vars := [("PATH", "/b/.././a/::/a")] }
    ctx.workspace.IsNormal ∧ ctx.findExecutable fs "ed" = some "/b/ed" := by
  intro fs ctx
  have hnormal : ctx.workspace.IsNormal := by decide
  have hfile : fs.stat? [] "/a/ed" = some (["a", "ed"], .file 0o644 []) := by
    refine FileSystem.stat?_eq_some_iff.mpr ⟨by decide, ?_⟩
    refine .enter (by decide) (by simp) rfl ?_
    exact .found (by decide) rfl (by simp) (by simp)
  have hlink : fs.stat? [] "/b/ed" = some (["a", "run"], .file 0o100 []) := by
    refine FileSystem.stat?_eq_some_iff.mpr ⟨by decide, ?_⟩
    refine .enter (by decide) (by simp) rfl ?_
    refine .follow (by decide) (by simp) (by simp) rfl
      (by decide) (.leave ?_)
    refine .enter (by decide) (by simp) rfl ?_
    exact .found (by decide) rfl (by simp) (by simp)
  have htried : ctx.tried "ed" = ["/a/ed"] ++ "/b/ed" :: ["/a/ed"] := by decide
  refine ⟨hnormal, ((findExecutable_first fs hnormal "ed").1 "/b/ed").mpr ⟨_, _, htried, ?_, ?_⟩⟩
  · exact ⟨_, _, hlink, rfl, by decide⟩
  · intro other hother
    rw [List.mem_singleton.mp hother]
    rintro ⟨l, e, hstat, -, hbits⟩
    rw [hfile] at hstat
    cases hstat
    exact hbits (by decide)

end Context

end Shell
