import Shell.Proofs.Token.Marks
import Shell.Proofs.Token.Rendering

/-!
# Words that stand for themselves

A word without blanks and marks can be written on a line as it is. Only such a word can: any other
text loses a character to the scanner when it is read, and spaces behind it cannot come in its place
(`Token.tokenize_bare_iff`).
-/

namespace Shell
namespace Token

/-- A word without blanks and marks: it stands for itself on a line. -/
def IsBare (w : String) : Prop :=
  w ≠ "" ∧ w.toList.all isPlain = true

instance (w : String) : Decidable (IsBare w) :=
  inferInstanceAs (Decidable (_ ∧ _))

lemma IsBare.fits {w : String} (h : IsBare w) : Style.bare.fits w.toList = true := by
  simpa [Style.fits, IsBare] using h

/-- The character that waits in a mode and may still go into a word. -/
def Mode.waiting : Mode → List Char
  | .escape | .doubleEscape => ['\\']
  | .digit stream => [Scan.streamDigit stream]
  | _ => []

namespace Scan

/-- A bare word is read from rest, and a blank after it brings the scanner back to rest. -/
lemma run_bare {w : String} (h : IsBare w) {c : Char} (hc : isBlank c = true) (d : List Token) :
    run ⟨.bare, none, d⟩ (w.toList ++ [c]) = ⟨.bare, none, .word w :: d⟩ := by
  have hword := settle_run_write .bare h.fits (settle_bare none d)
  have hsettled : (run ⟨.bare, none, d⟩ w.toList).isSettled = true :=
    isSettled_iff.mpr ⟨_, _, hword⟩
  rw [run_append, run_cons, run_nil, step_blank hsettled hc, ← tokens_settle]
  rw [Style.write] at hword
  rw [hword]
  simp [tokens, close, finishWord]

/-! ### What goes into words -/

/-- The characters that have gone into words. -/
def content (s : Scan) : List Char :=
  wordTexts s.done.reverse ++ (s.word.getD []).reverse

/-- The characters that have gone into words or may still do so. -/
def taken (s : Scan) : List Char :=
  s.content ++ s.mode.waiting

@[simp] lemma content_enter (s : Scan) (m : Mode) : (s.enter m).content = s.content := rfl

@[simp] lemma mode_enter (s : Scan) (m : Mode) : (s.enter m).mode = m := rfl

@[simp] lemma mode_push (s : Scan) (c : Char) : (s.push c).mode = s.mode := rfl

@[simp] lemma content_begin (s : Scan) : s.begin.content = s.content := by
  obtain ⟨mode, _ | w, d⟩ := s <;> rfl

@[simp] lemma content_push (s : Scan) (c : Char) : (s.push c).content = s.content ++ [c] := by
  simp [content, push]

@[simp] lemma content_finishWord (s : Scan) : s.finishWord.content = s.content := by
  obtain ⟨mode, _ | w, d⟩ := s
  · rfl
  · simp [content, finishWord, wordTexts, word?]

@[simp] lemma content_pipe (s : Scan) : (s.operator .pipe).content = s.content := by
  obtain ⟨mode, _ | w, d⟩ := s <;> simp [content, operator, finishWord, wordTexts, word?]

@[simp] lemma content_redirect (s : Scan) (stream : OutputStream) (mode : WriteMode) :
    (s.operator (.redirect stream mode)).content = s.content := by
  obtain ⟨mode, _ | w, d⟩ := s <;> simp [content, operator, finishWord, wordTexts, word?]

/-- Outside quotes a character goes into a word, now or later, or not at all. -/
lemma taken_stepBare_sublist (s : Scan) (c : Char) :
    (s.stepBare c).taken.Sublist (s.content ++ [c]) := by
  rw [stepBare]
  split_ifs with hback hpipe hgt hone htwo
  all_goals simp [taken, Mode.waiting, streamDigit, *]

/-- Of the characters that are not plain, only a backslash that escapes nothing goes into a word. -/
lemma taken_stepBare_special (s : Scan) {c : Char} (hc : isPlain c = false) (hback : c ≠ '\\') :
    (s.stepBare c).taken = s.content := by
  have hne : ∀ d, isPlain d = true → c ≠ d := by
    rintro d hd rfl
    rw [hc] at hd
    cases hd
  rw [stepBare, if_neg hback]
  split_ifs with hpipe hgt hone htwo hsingle hdouble hblank
  · simp [taken, Mode.waiting]
  · simp [taken, Mode.waiting]
  · exact absurd hone (hne '1' rfl)
  · exact absurd htwo (hne '2' rfl)
  · simp [taken, Mode.waiting]
  · simp [taken, Mode.waiting]
  · simp [taken, Mode.waiting]
  · simp [isPlain, *] at hc

/-- Reading a character takes at most this character. -/
lemma taken_step_sublist (s : Scan) (c : Char) : (s.step c).taken.Sublist (s.taken ++ [c]) := by
  rw [step]
  split
  · rename_i hbare
    simpa [taken, hbare, Mode.waiting] using taken_stepBare_sublist s c
  · rename_i hsingle
    split_ifs
    · simp [hsingle, taken, Mode.waiting]
    · simp [hsingle, taken, Mode.waiting]
  · rename_i hdouble
    split_ifs with hquote hback
    · simp [hdouble, taken, Mode.waiting]
    · simp [hdouble, taken, Mode.waiting, hback]
    · simp [hdouble, taken, Mode.waiting]
  · rename_i hescape
    simp [hescape, taken, Mode.waiting]
  · rename_i hescape
    split_ifs
    · simp [hescape, taken, Mode.waiting]
    · simp [hescape, taken, Mode.waiting]
  · rename_i stream hdigit
    split_ifs
    · simp [hdigit, taken, Mode.waiting]
    · simpa [taken, hdigit, Mode.waiting] using
        taken_stepBare_sublist (s.push (streamDigit stream)) c
  · rename_i stream harrow
    split_ifs
    · simp [harrow, taken, Mode.waiting]
    · simpa [taken, harrow, Mode.waiting] using
        taken_stepBare_sublist (s.operator (.redirect stream .truncate)) c

lemma taken_run_sublist (s : Scan) (cs : List Char) : (s.run cs).taken.Sublist (s.taken ++ cs) := by
  induction cs generalizing s with
  | nil => simp
  | cons c cs ih =>
    have hstep := (s.taken_step_sublist c).append_right cs
    rw [List.append_assoc] at hstep
    exact (ih (s.step c)).trans hstep

lemma taken_run_start (cs : List Char) : (run {} cs).taken.Sublist cs :=
  taken_run_sublist {} cs

lemma word_finishWord (s : Scan) : s.finishWord.word = none := by
  obtain ⟨mode, _ | w, d⟩ := s <;> rfl

/-- At the end of the line the words have all that was taken. -/
lemma wordTexts_tokens (s : Scan) : wordTexts s.tokens = s.taken := by
  have hword : s.close.word = none := by
    rw [close]
    split
    all_goals exact word_finishWord _
  have hcontent : s.close.content = s.taken := by
    rw [close, taken]
    split
    all_goals simp [Mode.waiting, *]
  rw [← hcontent, content, hword, tokens]
  simp

/-- Settling what waits takes it. -/
lemma content_settle {s : Scan} (hs : s.isSettled = true) : s.settle.content = s.taken := by
  obtain ⟨mode, w, d⟩ := s
  cases mode with
  | bare => simp [settle, taken, Mode.waiting]
  | digit stream => simp [settle, taken, Mode.waiting]
  | arrow stream => simp [settle, taken, Mode.waiting]
  | _ => cases hs

/-- An arrow takes nothing, and a digit before it is given up. -/
lemma taken_step_arrow {s : Scan} (hs : s.isSettled = true) :
    (s.step '>').taken.Sublist s.taken := by
  obtain ⟨mode, w, d⟩ := s
  cases mode with
  | bare => simp [step, stepBare, taken, Mode.waiting]
  | digit stream => simp [step, taken, Mode.waiting]
  | arrow stream => simp [step, taken, Mode.waiting]
  | _ => cases hs

/-- Outside quotes nothing is taken of a character that is not plain, at least once the next one is
read. -/
lemma taken_step_special {s : Scan} (hs : s.isSettled = true) {c : Char} (hc : isPlain c = false)
    (next : Char) : ((s.step c).step next).taken.Sublist (s.taken ++ [next]) := by
  have hbare : c ≠ '>' → s.step c = s.settle.stepBare c := by
    intro hgt
    obtain ⟨w, d, hsettle⟩ := isSettled_iff.mp hs
    rw [← step_settle s hgt, hsettle, step]
  by_cases hback : c = '\\'
  · -- the backslash waits until the next character is read, which it makes part of the word
    subst hback
    have hescape : s.step '\\' = s.settle.begin.enter .escape := hbare (by decide)
    have hnext : (s.step '\\').step next =
        ((s.settle.begin.enter .escape).push next).enter .bare := by
      rw [hescape]
      rfl
    simp [hnext, taken, Mode.waiting, content_settle hs]
  · have hstep : (s.step c).taken.Sublist s.taken := by
      by_cases hgt : c = '>'
      · rw [hgt]
        exact taken_step_arrow hs
      · rw [hbare hgt, taken_stepBare_special _ hc hback, content_settle hs]
    exact ((s.step c).taken_step_sublist next).trans (hstep.append_right [next])

end Scan

/-! ### Texts that are read as one word -/

/-- What comes behind a character makes up for it only if all of it are copies of the character. -/
lemma eq_of_cons_sublist_append {x a : Char} {post : List Char} {n : Nat}
    (h : (x :: post).Sublist (post ++ List.replicate n a)) : ∀ y ∈ x :: post, y = a := by
  induction post generalizing x with
  | nil => exact fun y hy => List.eq_of_mem_replicate (h.subset hy)
  | cons y post ih =>
    have htail : (y :: post).Sublist (post ++ List.replicate n a) := by
      cases h with
      | cons _ h => exact (List.sublist_cons_self x _).trans h
      | cons_cons _ h => exact h
    have hx : x ∈ y :: post ++ List.replicate n a := h.subset List.mem_cons_self
    refine List.forall_mem_cons.mpr ⟨?_, ih htail⟩
    exact (List.mem_append.mp hx).elim (ih htail x) List.eq_of_mem_replicate

/-- The first character that is not plain, and those before it. -/
lemma exists_special {cs : List Char} (h : ¬ ∀ c ∈ cs, isPlain c = true) :
    ∃ before c after, cs = before ++ c :: after ∧ (∀ b ∈ before, isPlain b = true) ∧
      isPlain c = false := by
  induction cs with
  | nil => exact absurd (by simp) h
  | cons c cs ih =>
    by_cases hc : isPlain c = true
    · obtain ⟨before, special, after, rfl, hbefore, hspecial⟩ :=
        ih fun hcs => h (List.forall_mem_cons.mpr ⟨hc, hcs⟩)
      exact ⟨c :: before, special, after, rfl, List.forall_mem_cons.mpr ⟨hc, hbefore⟩, hspecial⟩
    · exact ⟨[], c, cs, rfl, by simp, by simpa using hc⟩

namespace Scan

/-- Plain characters leave nothing open. -/
lemma isSettled_run_plain {cs : List Char} (h : ∀ c ∈ cs, isPlain c = true) :
    (run {} cs).isSettled = true := by
  have hrun := run_flatMap (fun w s => s.settle = ⟨.bare, w, []⟩) (fun c => [c])
    (fun c hc w s hs => settle_step_plain hs (h c hc)) (settle_bare none [])
  rw [List.flatMap_singleton'] at hrun
  exact isSettled_iff.mpr ⟨_, _, hrun⟩

/-- A character outside quotes that is not plain is missing from the words of the line. -/
lemma wordTexts_run_special {before : List Char} (hbefore : ∀ b ∈ before, isPlain b = true)
    {c : Char} (hc : isPlain c = false) (next : Char) (rest : List Char) :
    (wordTexts (run {} (before ++ c :: next :: rest)).tokens).Sublist (before ++ next :: rest) := by
  have hfront := taken_run_start before
  have hspecial := taken_step_special (isSettled_run_plain hbefore) hc next
  have hrest := taken_run_sublist (((run {} before).step c).step next) rest
  rw [wordTexts_tokens, run_append, run_cons, run_cons]
  have htaken : (((run {} before).step c).step next).taken.Sublist (before ++ [next]) :=
    hspecial.trans (hfront.append_right [next])
  simpa using hrest.trans (htaken.append_right rest)

end Scan

/-- If a character is missing from the word, the spaces behind the word do not make up for it. -/
lemma tokens_run_special_ne {before : List Char} (hbefore : ∀ b ∈ before, isPlain b = true)
    {c : Char} (hc : isPlain c = false) (after : List Char) (n : Nat) :
    wordTexts (Scan.run {} (before ++ c :: (after ++ List.replicate (n + 1) ' '))).tokens ≠
      before ++ c :: after := by
  intro hread
  have hcopies : ∀ d ∈ c :: after, d = ' ' := by
    cases hbehind : after ++ List.replicate (n + 1) ' ' with
    | nil => simp at hbehind
    | cons next rest =>
      have hmissing := Scan.wordTexts_run_special hbefore hc next rest
      rw [← hbehind, hread, List.append_sublist_append_left] at hmissing
      exact eq_of_cons_sublist_append hmissing
  -- so the line has only blanks behind the plain characters, and none of these goes into a word
  have hblanks : ∀ d ∈ c :: (after ++ List.replicate (n + 1) ' '), isBlank d = true := by
    rw [← List.cons_append]
    intro d hd
    rcases List.mem_append.mp hd with hcopy | hspace
    · rw [hcopies d hcopy]
      rfl
    · exact Scan.isBlank_spaces _ d hspace
  have hfront := Scan.taken_run_start before
  rw [Scan.run_append, Scan.tokens_run_blanks (Scan.isSettled_run_plain hbefore) hblanks,
    Scan.wordTexts_tokens] at hread
  rw [hread] at hfront
  have hlength := hfront.length_le
  rw [List.length_append, List.length_cons] at hlength
  omega

/-- A text with spaces behind it is read as one word with this text exactly if it is bare. -/
theorem tokenize_bare_iff (name : String) (n : Nat) :
    tokenize (name ++ String.ofList (List.replicate (n + 1) ' ')) = [.word name] ↔
      IsBare name := by
  rw [tokenize, String.toList_append, String.toList_ofList]
  constructor
  · intro hread
    by_cases hplain : ∀ c ∈ name.toList, isPlain c = true
    · refine ⟨?_, by simpa using hplain⟩
      rintro rfl
      have hrest := Scan.run_blanks_rest [] (Scan.isBlank_spaces (n + 1))
      rw [String.toList_empty, List.nil_append, hrest] at hread
      cases hread
    · obtain ⟨before, c, after, hname, hbefore, hc⟩ := exists_special hplain
      have htext : wordTexts [.word name] = before ++ c :: after := by
        simp [wordTexts, word?, hname]
      rw [hname, List.append_assoc, List.cons_append] at hread
      exact absurd (hread ▸ htext) (tokens_run_special_ne hbefore hc after n)
  · intro hbare
    rw [List.replicate_succ, ← List.singleton_append, ← List.append_assoc, Scan.run_append,
      Scan.run_bare hbare (by decide), Scan.run_blanks_rest _ (Scan.isBlank_spaces n)]
    rfl

example : tokenize "ls.sh  " = [.word "ls.sh"] := by decide

end Token
end Shell
