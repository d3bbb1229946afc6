import Mathlib.Data.List.TakeWhile
import Shell.Interpreter
import Shell.Proofs.Token.Cut

/-!
# Blanks around a line

A line is read twice: its text goes to the history without the blanks at its ends, and its tokens
decide what is run. Both times the same characters count as blank, so blanks around a line are of no
consequence at all (`Interpreter.evaluate_surrounded`), unless they stand in a quote that is still
open or behind a backslash.
-/

namespace Shell

/-! ### What is recorded -/

section Trim

variable {p : Char → Bool} {before after : List Char}

lemma trimList_append_left (hbefore : ∀ c ∈ before, p c = true) (cs : List Char) :
    trimList p (before ++ cs) = trimList p cs := by
  rw [trimList, trimList, List.dropWhile_append_of_pos hbefore]

lemma trimList_append_right (hafter : ∀ c ∈ after, p c = true) (cs : List Char) :
    trimList p (cs ++ after) = trimList p cs := by
  rw [trimList, trimList, List.dropWhile_append]
  split
  · -- nothing but the added characters could be left
    rename_i hempty
    rw [List.isEmpty_iff.mp hempty, List.dropWhile_eq_nil_iff.mpr hafter]
  · have hreverse : ∀ c ∈ after.reverse, p c = true := by simpa using hafter
    rw [List.reverse_append, List.dropWhile_append_of_pos hreverse]

end Trim

lemma trimBlank_surrounded {before after : String} (hbefore : isBlankText before = true)
    (hafter : isBlankText after = true) (line : String) :
    trimBlank (before ++ line ++ after) = trimBlank line := by
  rw [trimBlank, String.toList_append, String.toList_append,
    trimList_append_right (isBlankText_iff.mp hafter),
    trimList_append_left (isBlankText_iff.mp hbefore), trimBlank]

lemma Context.record_congr {line line' : String} (h : trimBlank line = trimBlank line')
    (ctx : Context) : ctx.record line = ctx.record line' := by
  simp only [record, History.record, h]

/-! ### What is run -/

namespace Interpreter

variable (programs : Programs)

lemma runLine_congr {line line' : String} (h : tokenize line = tokenize line') (ctx : Context) :
    runLine programs line ctx = runLine programs line' ctx := by
  simp only [runLine, Pipeline.parse, h]

/-- A line leaves a session in the same state with blanks around it as without, and has the same
flow: nothing that was recorded, run or written is different. What stands before the line is always
of no consequence; what stands behind it is of none if the line ends outside quotes and with no
backslash waiting. -/
theorem evaluate_surrounded (sh : Interpreter) {before line after : String}
    (hbefore : isBlankText before = true) (hafter : isBlankText after = true)
    (h : Token.EndsSettled line ∨ after = "") :
    sh.evaluate programs (before ++ line ++ after) = sh.evaluate programs line := by
  have hrecord := Context.record_congr (trimBlank_surrounded hbefore hafter line) sh.context
  have hrun := runLine_congr programs (Token.tokenize_surrounded hbefore hafter h)
    (sh.context.record line)
  rw [evaluate, hrecord, hrun, evaluate]

/-- Three kinds of blanks around a line whose last character might name a stream, and blanks before
a line that ends in a quote. -/
theorem evaluate_surrounded_digit :
    let sh : Interpreter := { context := { workspace := .root }, machine := { files := {} } }
    let programs : Programs := fun _ _ => .exit 0
    let surrounded := "\u3000" ++ "echo a\\ 2" ++ "\t\u2003"
    let quoted := "\u3000" ++ "echo 'a " ++ ""
    Token.EndsSettled "echo a\\ 2" ∧ ¬ Token.EndsSettled "echo 'a " ∧
      (sh.evaluate programs surrounded).2.machine.session.stdout.bytes = encode "a 2\n" ∧
      (sh.evaluate programs surrounded).2.context.history.entries = ["echo a\\ 2"] ∧
      (sh.evaluate programs quoted).2.machine.session.stdout.bytes = encode "a \n" := by
  intro sh programs surrounded quoted
  have hsettled : Token.EndsSettled "echo a\\ 2" := by decide
  have hsurrounded : sh.evaluate programs surrounded = sh.evaluate programs "echo a\\ 2" :=
    evaluate_surrounded programs sh (by decide) (by decide) (.inl hsettled)
  have hquoted : sh.evaluate programs quoted = sh.evaluate programs "echo 'a " :=
    evaluate_surrounded programs sh (by decide) (by decide) (.inr rfl)
  rw [hsurrounded, hquoted]
  exact ⟨hsettled, by decide, rfl, rfl, rfl⟩

/-- A blank behind an open quote is read. -/
example : tokenize ("echo 'a" ++ " ") ≠ tokenize "echo 'a" := by decide

end Interpreter

end Shell
