import Shell.Proofs.Pipeline.Grammar
import Shell.Proofs.Token.Cut

/-!
# Behind the target

The target of the first redirection is the last word of a line that means anything. Once a line has
one, nothing that is written behind it changes the pipeline that the line stands for, not even what
could not be read on a line of its own: `Pipeline.parse_append_target`. Only a blank has to stand
between, so that the target ends where it did.
-/

namespace Shell
namespace Pipeline

/-- The loop over tokens ends at the first redirection with a target. -/
lemma splitFrom_append {segment : List String} {done segments : List (List String)}
    {r : Redirection} {ts : List Token}
    (h : splitFrom segment done ts = .ok (segments, some r)) (more : List Token) :
    splitFrom segment done (ts ++ more) = .ok (segments, some r) := by
  fun_induction splitFrom segment done ts with
  | case1 segment done => cases h
  | case2 segment done w rest ih => exact ih h
  | case3 segment done rest ih => exact ih h
  | case4 segment done stream mode target rest => exact h
  | case5 segment done stream mode rest _ => cases h

lemma parse_eq_ok_iff {ctx : Context} {fs : FileSystem} {line : String} {p : Pipeline} :
    parse ctx fs line = .ok p ↔ ∃ segments,
      split (tokenize line) = .ok (segments, p.redirection) ∧
        segments.map (stageOf ctx fs) = p.stages := by
  rw [parse]
  constructor
  · intro h
    split at h
    · cases h
    · rename_i segments redirection hsplit
      cases h
      exact ⟨segments, hsplit, rfl⟩
  · rintro ⟨segments, hsplit, hstages⟩
    simp only [hsplit, hstages]

/-- A line that ends outside quotes and has a redirection with a target stands for the same pipeline
with anything at all behind it, as long as a blank comes first. -/
theorem parse_append_target {ctx : Context} {fs : FileSystem} {line : String}
    (hsettled : Token.EndsSettled line) {p : Pipeline} (hparse : parse ctx fs line = .ok p)
    (hredirect : p.redirection.isSome = true) {blank : Char} (hblank : isBlank blank = true)
    (rest : String) : parse ctx fs (line ++ String.singleton blank ++ rest) = .ok p := by
  obtain ⟨segments, hsplit, hstages⟩ := parse_eq_ok_iff.mp hparse
  obtain ⟨r, hr⟩ := Option.isSome_iff_exists.mp hredirect
  rw [hr] at hsplit
  refine parse_eq_ok_iff.mpr ⟨segments, ?_, hstages⟩
  rw [Token.tokenize_append_blank hsettled hblank, hr]
  exact splitFrom_append hsplit (tokenize rest)

/-- Behind the target stand a pipe into nothing, a redirection without a target and a quote that is
never closed. -/
theorem parse_append_target_quote :
    let ctx : Context := { workspace := .root }
    let line := "echo a 2>>log"
    Token.EndsSettled line ∧ isBlank '\t' = true ∧
      ∃ p, parse ctx { entries := [] } line = .ok p ∧
        p.redirection = some { target := "log", stream := .stderr, mode := .append } ∧
        parse ctx { entries := [] } (line ++ String.singleton '\t' ++ "| > | 'ls") = .ok p := by
  intro ctx line
  have hsettled : Token.EndsSettled line := by decide
  have hparse : parse ctx { entries := [] } line =
      .ok { stages := [stageOf ctx { entries := [] } ["echo", "a"]]
            redirection := some { target := "log", stream := .stderr, mode := .append } } :=
    parse_eq_ok_iff.mpr ⟨[["echo", "a"]], by decide, rfl⟩
  exact ⟨hsettled, by decide, _, hparse, rfl,
    parse_append_target hsettled hparse rfl (by decide) "| > | 'ls"⟩

end Pipeline
end Shell
