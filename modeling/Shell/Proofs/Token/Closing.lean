import Mathlib.Data.Nat.Init
import Shell.Proofs.Token.Cut

/-!
# Closing a line

A line may end in a quote that is still open, or right behind a backslash. The scanner reads it as
if what is missing stood there: the quote is closed, and a lone backslash stands for itself. Written
out, that is the text `closing`, and behind it the line can be cut (`tokenize_append_closing`).

Backslashes pair up wherever one of them means something, so only whether their number is odd
matters to what is missing.
-/

namespace Shell
namespace Token

/-- The text that closes a line whose scan ends in a mode. A backslash that waits is doubled. -/
def Mode.closing : Mode → String
  | .single => "'"
  | .double => "\""
  | .doubleEscape => "\\\""
  | .escape => "\\"
  | .bare | .digit _ | .arrow _ => ""

/-- What is missing at the end of a line. -/
def closing (line : String) : String :=
  (Scan.run {} line.toList).mode.closing

/-- This many backslashes. -/
def backslashes (n : Nat) : String :=
  String.ofList (List.replicate n '\\')

namespace Scan

/-- Behind the closing text nothing is open, and the tokens are those that the end of the line
gives. -/
lemma run_closing (s : Scan) :
    (s.run s.mode.closing.toList).isSettled = true ∧
      (s.run s.mode.closing.toList).tokens = s.tokens := by
  obtain ⟨mode, w, d⟩ := s
  cases mode with
  | single | double =>
    cases w <;> simp [Mode.closing, isSettled, step, enter, tokens, close, finishWord]
  | escape | doubleEscape =>
    simp [Mode.closing, isSettled, step, enter, push, tokens, close, finishWord]
  | _ => exact ⟨rfl, rfl⟩

/-- Where a backslash means something, a second one makes up for it. -/
lemma closing_step_step (s : Scan) :
    ((s.step '\\').step '\\').mode.closing = s.mode.closing := by
  obtain ⟨mode, w, d⟩ := s
  cases mode <;> rfl

/-- By induction over pairs of backslashes. -/
lemma closing_run_backslashes (s : Scan) (n : Nat) :
    (s.run (List.replicate n '\\')).mode.closing =
      if n % 2 = 0 then s.mode.closing else (s.step '\\').mode.closing := by
  induction n using Nat.twoStepInduction generalizing s with
  | zero => rfl
  | one => rfl
  | more n ih _ =>
    have hpair : s.run (List.replicate (n + 2) '\\') =
        ((s.step '\\').step '\\').run (List.replicate n '\\') := rfl
    have hthird : (((s.step '\\').step '\\').step '\\').mode.closing =
        (s.step '\\').mode.closing := (s.step '\\').closing_step_step
    rw [hpair, ih, closing_step_step, hthird, Nat.add_mod_right]

lemma closing_eq_empty_iff (s : Scan) : s.mode.closing = "" ↔ s.isSettled = true := by
  obtain ⟨mode, w, d⟩ := s
  cases mode <;> simp [Mode.closing, isSettled]

/-- Outside quotes a backslash waits. -/
lemma closing_step_of_settled {s : Scan} (h : s.isSettled = true) :
    (s.step '\\').mode.closing = "\\" := by
  obtain ⟨w, d, hsettle⟩ := isSettled_iff.mp h
  rw [← step_settle s (by decide), hsettle]
  rfl

/-- In double quotes a backslash waits as well. -/
lemma closing_step_of_double {s : Scan} (h : s.mode.closing = "\"") :
    (s.step '\\').mode.closing = "\\\"" := by
  obtain ⟨mode, w, d⟩ := s
  cases mode with
  | double => rfl
  | _ => exact absurd h (by simp [Mode.closing])

end Scan

lemma closing_append_backslashes (line : String) (n : Nat) :
    closing (line ++ backslashes n) = if n % 2 = 0 then closing line
      else ((Scan.run {} line.toList).step '\\').mode.closing := by
  rw [closing, String.toList_append, backslashes, String.toList_ofList, Scan.run_append,
    Scan.closing_run_backslashes, closing]

/-- A line is read as if it were closed, and the closed line ends outside quotes with no backslash
waiting. -/
theorem tokenize_append_closing (line : String) :
    tokenize (line ++ closing line) = tokenize line ∧ EndsSettled (line ++ closing line) ∧
      (closing line = "" ↔ EndsSettled line) ∧
      ∀ n,
        (closing line = "\"" →
          closing (line ++ backslashes n) = if n % 2 = 0 then "\"" else "\\\"") ∧
        (closing line = "" →
          closing (line ++ backslashes n) = if n % 2 = 0 then "" else "\\") := by
  obtain ⟨hsettled, htokens⟩ := Scan.run_closing (Scan.run {} line.toList)
  refine ⟨?_, ?_, ?_, fun n => ⟨fun h => ?_, fun h => ?_⟩⟩
  · rw [tokenize, String.toList_append, Scan.run_append]
    exact htokens
  · rw [EndsSettled, String.toList_append, Scan.run_append]
    exact hsettled
  · exact Scan.closing_eq_empty_iff _
  · rw [closing_append_backslashes, h, Scan.closing_step_of_double h]
  · rw [closing_append_backslashes, h,
      Scan.closing_step_of_settled ((Scan.closing_eq_empty_iff _).mp h)]

/-- A backslash waits in double quotes, and it stands for itself. -/
example : closing "a \"b\\" = "\\\"" ∧ words "a \"b\\" = ["a", "b\\"] := by decide

end Token
end Shell
