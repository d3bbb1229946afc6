import Shell.Proofs.Token.Marks
import Shell.Proofs.Token.Rendering

/-!
# Cutting a line

Tokens that were read before do not matter for those that come next. So a blank or a pipe outside
quotes, with no backslash waiting, cuts a line into two that are read each on its own, whatever
stands behind it; and nowhere else do blanks cut a line like that (`endsSettled_iff_cut`). Blanks at
the ends of a line add nothing; at its very end they may fall into a quote that is still open, or
behind a backslash, but not at its front.
-/

namespace Shell
namespace Token
namespace Scan

/-- The tokens before are put in front of those that are read from here on. -/
lemma tokens_run_rest (d : List Token) (cs : List Char) :
    (run ⟨.bare, none, d⟩ cs).tokens = d.reverse ++ (run {} cs).tokens := by
  have hread := agrees cs .unquoted [] d (by simp)
  have hfresh := agrees cs .unquoted [] [] (by simp)
  rw [List.reverse_nil, List.nil_append] at hfresh
  exact hread.trans (congrArg (d.reverse ++ ·) hfresh.symm)

/-- Behind a blank the line is read as if it began there. -/
lemma tokens_run_blank {s : Scan} (hs : s.isSettled = true) {c : Char} (hc : isBlank c = true)
    (cs : List Char) : (s.run (c :: cs)).tokens = s.tokens ++ (run {} cs).tokens := by
  rw [run_cons, step_blank hs hc, tokens_run_rest, List.reverse_reverse]

/-- Before a pipe everything that was read is settled. -/
lemma step_pipe {s : Scan} (hs : s.isSettled = true) :
    s.step '|' = ⟨.bare, none, .pipe :: s.tokens.reverse⟩ := by
  obtain ⟨w, d, h⟩ := isSettled_iff.mp hs
  rw [← step_settle s (by decide), ← tokens_settle s, h, tokens, List.reverse_reverse]
  cases w <;> rfl

/-- Behind a pipe the line is read as if it began there. -/
lemma tokens_run_pipe {s : Scan} (hs : s.isSettled = true) (cs : List Char) :
    (s.run ('|' :: cs)).tokens = s.tokens ++ .pipe :: (run {} cs).tokens := by
  rw [run_cons, step_pipe hs, tokens_run_rest]
  simp

/-- In quotes or behind a backslash a blank goes into the word. -/
lemma tokens_step_space_ne {s : Scan} (hs : ¬ s.isSettled = true) :
    (s.step ' ').tokens ≠ s.tokens := by
  obtain ⟨mode, w, d⟩ := s
  cases mode with
  | bare | digit | arrow => exact absurd rfl hs
  | single | double | escape | doubleEscape =>
    cases w <;> simp [step, push, enter, tokens, close, finishWord]

end Scan

/-- The line ends outside quotes with no backslash waiting. -/
def EndsSettled (line : String) : Prop :=
  (Scan.run {} line.toList).isSettled = true

instance (line : String) : Decidable (EndsSettled line) :=
  inferInstanceAs (Decidable (_ = _))

/-- What stands behind a blank is read on its own. -/
lemma tokenize_append_blank {line : String} (h : EndsSettled line) {blank : Char}
    (hblank : isBlank blank = true) (rest : String) :
    tokenize (line ++ String.singleton blank ++ rest) = tokenize line ++ tokenize rest := by
  have hchars : (line ++ String.singleton blank ++ rest).toList =
      line.toList ++ blank :: rest.toList := by
    simp
  rw [tokenize, hchars, Scan.run_append, Scan.tokens_run_blank h hblank]
  rfl

lemma tokenize_append_pipe {line : String} (h : EndsSettled line) (rest : String) :
    tokenize (line ++ "|" ++ rest) = tokenize line ++ .pipe :: tokenize rest := by
  have hchars : (line ++ "|" ++ rest).toList = line.toList ++ '|' :: rest.toList := by
    simp
  rw [tokenize, hchars, Scan.run_append, Scan.tokens_run_pipe h]
  rfl

/-- Blanks before a line are not read. -/
lemma tokenize_blanks_append {before : String} (hbefore : isBlankText before = true)
    (line : String) : tokenize (before ++ line) = tokenize line := by
  rw [tokenize, String.toList_append, Scan.run_append,
    Scan.run_blanks_rest [] (isBlankText_iff.mp hbefore)]
  rfl

/-- Blanks around a line are not read if it ends outside quotes. -/
lemma tokenize_surrounded {before line after : String} (hbefore : isBlankText before = true)
    (hafter : isBlankText after = true) (h : EndsSettled line ∨ after = "") :
    tokenize (before ++ line ++ after) = tokenize line := by
  rw [String.append_assoc, tokenize_blanks_append hbefore]
  rcases h with hsettled | rfl
  · rw [tokenize, String.toList_append, Scan.run_append]
    exact Scan.tokens_run_blanks hsettled (isBlankText_iff.mp hafter)
  · rw [String.append_empty]

/-- Exactly a line that ends outside quotes with no backslash waiting is read on its own before
every blank and every pipe, and so is what stands behind these. -/
theorem endsSettled_iff_cut (line : String) :
    EndsSettled line ↔ ∀ rest,
      (∀ blank, isBlank blank = true →
        tokenize (line ++ String.singleton blank ++ rest) = tokenize line ++ tokenize rest ∧
        words (line ++ String.singleton blank ++ rest) = words line ++ words rest) ∧
      tokenize (line ++ "|" ++ rest) = tokenize line ++ .pipe :: tokenize rest ∧
      words (line ++ "|" ++ rest) = words line ++ words rest := by
  constructor
  · intro h rest
    have hpipe := tokenize_append_pipe h rest
    refine ⟨fun blank hblank => ?_, hpipe, ?_⟩
    · have hcut := tokenize_append_blank h hblank rest
      exact ⟨hcut, by rw [words, hcut, List.filterMap_append, words, words]⟩
    · rw [words, hpipe, List.filterMap_append]
      rfl
  · intro h
    by_contra hopen
    have hspace := ((h "").1 ' ' (by decide)).1
    have hchars : (line ++ String.singleton ' ' ++ "").toList = line.toList ++ [' '] := by simp
    rw [tokenize, hchars, Scan.run_append] at hspace
    exact Scan.tokens_step_space_ne hopen (hspace.trans (List.append_nil _))

/-- A digit and an arrow that might go on do not reach over the cut. -/
example : tokenize "a 2|>b" = tokenize "a 2" ++ .pipe :: tokenize ">b" := by decide

end Token
end Shell
