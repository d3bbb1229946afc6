import Mathlib.Tactic.Lemma
import Shell.Token

/-!
# Laws of the scanner

A digit or a `>` that waits for the next character is taken for itself unless a `>` comes next.
`Scan.settle` takes it so at once, and before any other character, or at the end of the line, that
makes no difference.

Outside quotes with no backslash waiting, a blank has the effect of the end of the line: it ends
whatever was being read, and the scanner goes on from there with nothing in hand.
-/

namespace Shell

/-- A blank is none of the characters that mean something else on a line. -/
lemma ne_of_isBlank {c d : Char} (hc : isBlank c = true) (hd : isBlank d = false) : c ≠ d := by
  rintro rfl
  rw [hc] at hd
  cases hd

namespace Token
namespace Scan

/-! ### The mode is of no interest to the word -/

@[simp] lemma enter_enter (s : Scan) (m m' : Mode) : (s.enter m).enter m' = s.enter m' := rfl

@[simp] lemma begin_enter (s : Scan) (m : Mode) : (s.enter m).begin = s.begin.enter m := rfl

@[simp] lemma push_enter (s : Scan) (m : Mode) (c : Char) :
    (s.enter m).push c = (s.push c).enter m := rfl

@[simp] lemma finishWord_enter (s : Scan) (m : Mode) :
    (s.enter m).finishWord = s.finishWord.enter m := by
  obtain ⟨mode, _ | w, d⟩ := s <;> rfl

@[simp] lemma operator_enter (s : Scan) (m : Mode) (t : Token) :
    (s.enter m).operator t = (s.operator t).enter m := by
  obtain ⟨mode, _ | w, d⟩ := s <;> rfl

/-- Outside quotes the next character decides the mode alone. -/
@[simp] lemma stepBare_enter (s : Scan) (m : Mode) (c : Char) :
    (s.enter m).stepBare c = s.stepBare c := by
  simp only [stepBare, begin_enter, operator_enter, finishWord_enter, push_enter, enter_enter]

/-- Between words nothing is added at the end of the line. -/
lemma tokens_rest (d : List Token) : tokens ⟨.bare, none, d⟩ = d.reverse := rfl

/-! ### Settling what waits -/

/-- Take a digit or a `>` that waits for the next character for itself. -/
def settle (s : Scan) : Scan :=
  match s.mode with
  | .digit stream => (s.push (streamDigit stream)).enter .bare
  | .arrow stream => (s.operator (.redirect stream .truncate)).enter .bare
  | _ => s

@[simp] lemma settle_bare (w : Option (List Char)) (d : List Token) :
    settle ⟨.bare, w, d⟩ = ⟨.bare, w, d⟩ := rfl

lemma isSettled_iff {s : Scan} :
    s.isSettled = true ↔ ∃ w d, s.settle = ⟨.bare, w, d⟩ := by
  obtain ⟨mode, w, d⟩ := s
  cases mode with
  | bare => exact ⟨fun _ => ⟨w, d, rfl⟩, fun _ => rfl⟩
  | digit stream => exact ⟨fun _ => ⟨_, _, rfl⟩, fun _ => rfl⟩
  | arrow stream => exact ⟨fun _ => ⟨_, _, rfl⟩, fun _ => rfl⟩
  | _ => simp [isSettled, settle]

lemma step_settle (s : Scan) {c : Char} (hc : c ≠ '>') : s.settle.step c = s.step c := by
  obtain ⟨mode, w, d⟩ := s
  cases mode with
  | digit stream =>
    simp only [settle, step, enter, if_neg hc]
    exact stepBare_enter (push ⟨.digit stream, w, d⟩ (streamDigit stream)) .bare c
  | arrow stream =>
    simp only [settle, step, enter, if_neg hc]
    exact stepBare_enter (operator ⟨.arrow stream, w, d⟩ (.redirect stream .truncate)) .bare c
  | _ => rfl

lemma run_settle (s : Scan) {c : Char} (hc : c ≠ '>') (cs : List Char) :
    s.settle.run (c :: cs) = s.run (c :: cs) := by
  rw [run_cons, run_cons, step_settle s hc]

@[simp] lemma tokens_settle (s : Scan) : s.settle.tokens = s.tokens := by
  obtain ⟨mode, w, d⟩ := s
  cases mode with
  | arrow stream => cases w <;> rfl
  | _ => rfl

/-- What waits can be settled at once if no `>` comes next. -/
lemma tokens_run_settle (s : Scan) {cs : List Char} (h : cs.head? ≠ some '>') :
    (s.settle.run cs).tokens = (s.run cs).tokens := by
  cases cs with
  | nil => exact tokens_settle s
  | cons c cs =>
    have hc : c ≠ '>' := by simpa using h
    rw [run_settle s hc]

/-! ### Blanks -/

lemma stepBare_blank (s : Scan) {c : Char} (hc : isBlank c = true) :
    s.stepBare c = s.finishWord.enter .bare := by
  have hne : ∀ d, isBlank d = false → c ≠ d := fun d hd => ne_of_isBlank hc hd
  simp only [stepBare, hc, if_true, if_neg (hne '\\' (by decide)), if_neg (hne '|' (by decide)),
    if_neg (hne '>' (by decide)), if_neg (hne '1' (by decide)), if_neg (hne '2' (by decide)),
    if_neg (hne '\'' (by decide)), if_neg (hne '"' (by decide))]

/-- Outside quotes with no backslash waiting, a blank does what the end of the line does. -/
lemma step_blank {s : Scan} (hs : s.isSettled = true) {c : Char} (hc : isBlank c = true) :
    s.step c = ⟨.bare, none, s.tokens.reverse⟩ := by
  obtain ⟨w, d, h⟩ := isSettled_iff.mp hs
  have hgt : c ≠ '>' := ne_of_isBlank hc (by decide)
  rw [← step_settle s hgt, ← tokens_settle s, h, step, stepBare_blank _ hc, tokens,
    List.reverse_reverse]
  cases w <;> rfl

end Scan
end Token
end Shell
