import Mathlib.Data.List.TakeWhile
import Shell.Completion
import Shell.Proofs.Command.Names

/-!
# What is offered for the first word

The text before the cursor consists of blanks and a word, which may be empty. If there is a blank
behind the beginning of the word, the cursor has left it and nothing is offered. Otherwise the names
of commands that begin with the word are offered in its place, and each of them can be run:
`Completion.offered_names`.
-/

namespace Shell

/-! ### Names in directories -/

namespace FileSystem

/-- The names in directories have at least one character, and none is a slash, which would end the
name in every path. -/
def WellNamed (fs : FileSystem) : Prop :=
  ∀ e ∈ fs.entries, ∀ name ∈ e.1, name ≠ "" ∧ '/' ∉ name.toList

instance (fs : FileSystem) : Decidable fs.WellNamed :=
  inferInstanceAs (Decidable (∀ e ∈ fs.entries, ∀ name ∈ e.1, name ≠ "" ∧ '/' ∉ name.toList))

lemma WellNamed.of_mem_list {fs : FileSystem} (h : fs.WellNamed) {text name : String}
    (hname : name ∈ fs.list text) : name ≠ "" ∧ '/' ∉ name.toList := by
  rw [list] at hname
  split at hname
  · obtain ⟨e, he, hlast⟩ := List.mem_filterMap.mp hname
    split at hlast
    · exact h e he name (List.mem_of_getLast? hlast)
    · cases hlast
  · cases hname

end FileSystem

namespace Context

variable {ctx : Context} {fs : FileSystem} {word name : String}

lemma runnable_of_mem_commandNames (hfs : fs.WellNamed) (h : name ∈ ctx.commandNames fs word) :
    (ctx.resolve fs name).runnable = true := by
  refine (runnable_resolve_iff ctx fs).mpr ?_
  obtain ⟨-, hbuiltin | ⟨dir, hdir, hlist, hrun⟩⟩ := (mem_commandNames ctx fs).mp h
  · exact .inl hbuiltin
  · obtain ⟨hempty, hslash⟩ := hfs.of_mem_list hlist
    exact .inr ((isSome_findExecutable_iff ctx fs hempty hslash).mpr ⟨dir, hdir, hrun⟩)

end Context

namespace Completion

/-! ### The text before the cursor -/

/-- A byte offset between two characters has the characters before it in front. -/
lemma headAt?_append (head tail : List Char) :
    headAt? (String.ofList head).utf8ByteSize (head ++ tail) = some head := by
  induction head with
  | nil => cases tail <;> rfl
  | cons c head ih =>
    have hpos : c.utf8Size ≠ 0 := c.utf8Size_pos.ne'
    rw [String.ofList_cons, String.utf8ByteSize_append, String.utf8ByteSize_singleton,
      List.cons_append, headAt?, if_neg (by omega), if_neg (by omega), Nat.add_sub_cancel_left, ih]
    rfl

/-- A text begins with a word: with no blank, or it is empty. -/
def BeginsWord (word : String) : Prop :=
  ∀ c, word.toList.head? = some c → isBlank c = false

/-- Every text consists of blanks and what begins with a word. -/
lemma exists_blanks_word (head : String) :
    ∃ blanks word, head = blanks ++ word ∧ isBlankText blanks = true ∧ BeginsWord word := by
  refine ⟨String.ofList (head.toList.takeWhile isBlank),
    String.ofList (head.toList.dropWhile isBlank), ?_, ?_, ?_⟩
  · rw [← String.ofList_append, List.takeWhile_append_dropWhile, String.ofList_toList]
  · rw [isBlankText_iff, String.toList_ofList]
    exact fun c hc => List.mem_takeWhile_imp hc
  · intro c hc
    rw [String.toList_ofList] at hc
    have hhead := List.head?_dropWhile_not isBlank head.toList
    rw [hc] at hhead
    simpa using hhead

section

variable {blanks word : String} (hblanks : isBlankText blanks = true) (hword : BeginsWord word)

include hblanks hword

lemma span_blanks : (blanks ++ word).toList.takeWhile isBlank = blanks.toList ∧
    (blanks ++ word).toList.dropWhile isBlank = word.toList := by
  have hall := isBlankText_iff.mp hblanks
  rw [String.toList_append, List.takeWhile_append_of_pos hall, List.dropWhile_append_of_pos hall]
  cases hchars : word.toList with
  | nil => simp
  | cons c cs =>
    have hc : isBlank c = false := hword c (by rw [hchars]; rfl)
    simp [hc]

lemma candidates?_append (ctx : Context) (fs : FileSystem) (tail : String) :
    candidates? ctx fs (blanks ++ word ++ tail) (blanks ++ word).utf8ByteSize =
      some (if word.toList.any isBlank then ((blanks ++ word).utf8ByteSize, [])
        else (blanks.utf8ByteSize, ofNames (ctx.commandNames fs word))) := by
  obtain ⟨htake, hdrop⟩ := span_blanks hblanks hword
  have hhead := headAt?_append (blanks ++ word).toList tail.toList
  rw [String.ofList_toList, ← String.toList_append] at hhead
  rw [candidates?, hhead, Option.map_some, htake, hdrop, String.ofList_toList]
  simp only [String.ofList_toList]

end

/-- A blank stands somewhere behind the first character that is not one. -/
def HasLeftWord (head : String) : Prop :=
  ∃ before c between blank after, head.toList = before ++ c :: (between ++ blank :: after) ∧
    (∀ b ∈ before, isBlank b = true) ∧ isBlank c = false ∧ isBlank blank = true

lemma hasLeftWord_iff {blanks word : String} (hblanks : isBlankText blanks = true)
    (hword : BeginsWord word) :
    HasLeftWord (blanks ++ word) ↔ word.toList.any isBlank = true := by
  obtain ⟨-, hdrop⟩ := span_blanks hblanks hword
  have hall := isBlankText_iff.mp hblanks
  rw [List.any_eq_true]
  constructor
  · rintro ⟨before, c, between, blank, after, hhead, hbefore, hc, hblank⟩
    rw [hhead, List.dropWhile_append_of_pos hbefore] at hdrop
    exact ⟨blank, by simp [← hdrop, hc], hblank⟩
  · rintro ⟨blank, hmem, hblank⟩
    cases hchars : word.toList with
    | nil => simp [hchars] at hmem
    | cons c cs =>
      have hc : isBlank c = false := hword c (by rw [hchars]; rfl)
      have hcs : blank ∈ cs := by
        rw [hchars] at hmem
        refine (List.mem_cons.mp hmem).resolve_left ?_
        rintro rfl
        rw [hblank] at hc
        cases hc
      obtain ⟨between, after, rfl⟩ := List.append_of_mem hcs
      exact ⟨blanks.toList, c, between, blank, after, by rw [String.toList_append, hchars], hall,
        hc, hblank⟩

/-! ### What is offered -/

@[simp] lemma length_ofNames (names : List String) : (ofNames names).length = names.length := by
  simp [ofNames]

@[simp] lemma map_display_ofNames (names : List String) :
    (ofNames names).map Candidate.display = names := by
  simp [ofNames, Function.comp_def]

lemma of_mem_ofNames {names : List String} {c : Candidate} (h : c ∈ ofNames names) :
    c.display ∈ names ∧
      c.replacement = if names.length = 1 then c.display ++ " " else c.display := by
  obtain ⟨name, hname, rfl⟩ := List.mem_map.mp h
  exact ⟨hname, rfl⟩

/-- At a cursor behind the first word nothing is offered. Elsewhere the offer takes the place of the
word before the cursor: it starts where the blanks before the word end, it shows exactly the names
of commands that begin with the word, in their order, and each of them can be run. A name is
followed by a space if it is the only one. -/
theorem offered_names (ctx : Context) {fs : FileSystem} (hfs : fs.WellNamed) (head tail : String) :
    ∃ start offered, candidates? ctx fs (head ++ tail) head.utf8ByteSize = some (start, offered) ∧
      (HasLeftWord head → start = head.utf8ByteSize ∧ offered = []) ∧
      (¬ HasLeftWord head → ∃ blanks word, head = blanks ++ word ∧ isBlankText blanks = true ∧
        BeginsWord word ∧ start = blanks.utf8ByteSize ∧
        offered.map Candidate.display = ctx.commandNames fs word ∧
        ∀ c ∈ offered, startsWithText word c.display = true ∧
          (ctx.resolve fs c.display).runnable = true ∧
          c.replacement = if offered.length = 1 then c.display ++ " " else c.display) := by
  obtain ⟨blanks, word, rfl, hblanks, hword⟩ := exists_blanks_word head
  have hcandidates := candidates?_append hblanks hword ctx fs tail
  rw [hasLeftWord_iff hblanks hword]
  by_cases hleft : word.toList.any isBlank = true
  · rw [if_pos hleft] at hcandidates
    exact ⟨_, _, hcandidates, fun _ => ⟨rfl, rfl⟩, fun h => absurd hleft h⟩
  · rw [if_neg hleft] at hcandidates
    refine ⟨_, _, hcandidates, fun h => absurd h hleft, fun _ => ?_⟩
    refine ⟨blanks, word, rfl, hblanks, hword, rfl, map_display_ofNames _, fun c hc => ?_⟩
    obtain ⟨hname, hreplacement⟩ := of_mem_ofNames hc
    rw [length_ofNames]
    exact ⟨((ctx.mem_commandNames fs).mp hname).1, Context.runnable_of_mem_commandNames hfs hname,
      hreplacement⟩

/-! ### A directory of programs -/

/-- A file system with nothing but the directory `/bin` and these programs in it. -/
def binOf (names : List String) : FileSystem :=
  { entries := (["bin"], .directory) :: names.map fun name => (["bin", name], .program name) }

/-- A session in the root directory that looks for programs in `/bin`. -/
def binContext : Context :=
  { workspace := .root, vars := [("PATH", "/bin")] }

/-- These can be names of programs in `/bin`. -/
def AreNames (names : List String) : Prop :=
  ∀ name ∈ names, FileSystem.IsName name ∧ '/' ∉ name.toList ∧ FileSystem.IsPath ("/bin/" ++ name)

instance (names : List String) : Decidable (AreNames names) :=
  inferInstanceAs (Decidable (∀ _ ∈ _, _ ∧ _ ∧ _))

variable {names : List String} {name : String}

lemma list_binOf (names : List String) : (binOf names).list "/bin" = names := by
  have hstat : (binOf names).stat? [] "/bin" = some (["bin"], .directory) :=
    FileSystem.stat?_eq_some_iff.mpr ⟨by decide, .enter (by decide) (by simp) rfl (.arrive _ _)⟩
  have hchildren : (binOf names).children ["bin"] = names := by
    simp [FileSystem.children, binOf, List.filterMap_map, Function.comp_def]
  rw [FileSystem.list, hstat]
  exact hchildren

lemma get?_binOf (hname : name ∈ names) :
    (binOf names).get? ["bin", name] = some (.program name) := by
  have hlookup : (names.map fun n => (["bin", n], Entry.program n)).lookup ["bin", name] =
      some (.program name) := by
    induction names with
    | nil => cases hname
    | cons n names ih =>
      by_cases h : name = n
      · simp [h]
      · have hmem : name ∈ names := (List.mem_cons.mp hname).resolve_left h
        have hne : (["bin", name] == ["bin", n]) = false := by simpa using h
        rw [List.map_cons, List.lookup_cons, hne]
        exact ih hmem
  simpa [FileSystem.get?, binOf, List.lookup_cons] using hlookup

lemma isExecutable_binOf (h : AreNames names) (hname : name ∈ names) :
    (binOf names).isExecutable ("/bin/" ++ name) = true := by
  obtain ⟨hname', hslash, hpath⟩ := h name hname
  have hsteps : FileSystem.steps ("/bin/" ++ name) = ["bin", name] := by
    have htext : "/bin/" ++ name = (⟨true, ["bin", name]⟩ : Path).text := by
      rw [Path.text, joinText_cons_cons, joinText_singleton, ← String.append_assoc]
      rfl
    rw [htext]
    refine Path.steps_text rfl fun n hn => ?_
    obtain rfl | rfl : n = "bin" ∨ n = name := by simpa using hn
    · decide
    · exact ⟨hname'.ne_empty, hslash⟩
  have hstat : (binOf names).stat? [] ("/bin/" ++ name) = some (["bin", name], .program name) := by
    refine FileSystem.stat?_eq_some_iff.mpr ⟨hpath, ?_⟩
    rw [hsteps]
    refine .enter (by decide) (by simp) rfl ?_
    exact .found hname' (get?_binOf hname) (by simp) (by simp)
  rw [FileSystem.isExecutable, hstat]
  rfl

lemma commandNames_binOf (h : AreNames names) (word : String) :
    binContext.commandNames (binOf names) word =
      ((Builtin.names ++ names).filter (startsWithText word)).foldr
        Context.insertName [] := by
  have hdirs : binContext.searchDirectories = [⟨true, ["bin"]⟩] := rfl
  have htext : (⟨true, ["bin"]⟩ : Path).text = "/bin" := rfl
  have hentry : ∀ name, (⟨true, ["bin"]⟩ : Path).entryText name = "/bin/" ++ name := fun _ => rfl
  have hrun : names.filter (fun name => startsWithText word name &&
      (binOf names).isExecutable ("/bin/" ++ name)) = names.filter (startsWithText word) :=
    List.filter_congr fun name hname => by rw [isExecutable_binOf h hname, Bool.and_true]
  simp only [Context.commandNames, hdirs, List.flatMap_singleton, htext, hentry, list_binOf, hrun,
    List.filter_append]

/-- Blanks of three bytes and of one stand before the cursor, and an argument behind it. -/
theorem offered_names_two :
    let fs := binOf ["edit", "ed"]
    let head := "\u3000 ed"
    fs.WellNamed ∧ ¬ HasLeftWord head ∧
      candidates? binContext fs (head ++ " x") head.utf8ByteSize =
        some (4, [⟨"ed", "ed"⟩, ⟨"edit", "edit"⟩]) ∧
      (binContext.resolve fs "edit").runnable = true := by
  intro fs head
  have hfs : fs.WellNamed := by decide
  have hhead : head = "\u3000 " ++ "ed" := rfl
  have hblanks : isBlankText "\u3000 " = true := by decide
  have hword : BeginsWord "ed" := by
    rintro c ⟨⟩
    decide
  have hleft : ¬ HasLeftWord head := by
    rw [hhead, hasLeftWord_iff hblanks hword]
    decide
  have hcandidates : candidates? binContext fs (head ++ " x") head.utf8ByteSize =
      some (4, [⟨"ed", "ed"⟩, ⟨"edit", "edit"⟩]) := by
    rw [hhead, candidates?_append hblanks hword, commandNames_binOf (by decide)]
    decide
  obtain ⟨start, offered, hoffered, -, hspec⟩ := offered_names binContext hfs head " x"
  obtain ⟨_, _, -, -, -, -, -, hrun⟩ := hspec hleft
  rw [hcandidates] at hoffered
  cases hoffered
  exact ⟨hfs, hleft, hcandidates, (hrun ⟨"edit", "edit"⟩ (by simp)).2.1⟩

end Completion

end Shell
