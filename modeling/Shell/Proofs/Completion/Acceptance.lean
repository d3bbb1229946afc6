import Shell.Proofs.Completion.Candidates
import Shell.Proofs.Pipeline.Quoting
import Shell.Proofs.Pipeline.Target
import Shell.Proofs.Token.Bare
import Shell.Proofs.Token.Cut

/-!
# Accepting what is offered

An offer is put into the line as it stands. A name without blanks and marks is read back from there,
and the command that it names is run. Any other name falls apart into several words, or loses its
quotes and backslashes, or becomes an operator: `Completion.accepted_iff_bare`.
-/

namespace Shell

namespace Pipeline

/-- A line with no redirection and no pipe is its one segment. -/
lemma tokens_of_segments {ts segment : List Token} (hending : ending ts = .ok none)
    (hsegments : segments ts = [segment]) : ts = segment := by
  have hback : back ts = [] := by
    rcases back_cases ts with hback | ⟨stream, mode, after, hback⟩
    · exact hback
    · -- a redirection is an error or the result
      rw [ending, hback] at hending
      split at hending <;> simp_all
  have hfront : front ts = ts := by
    have hcut : front ts ++ back ts = ts := List.takeWhile_append_dropWhile
    rwa [hback, List.append_nil] at hcut
  rw [segments, hfront] at hsegments
  have hjoin : [Token.pipe].intercalate (ts.splitOn Token.pipe) = ts :=
    List.intercalate_splitOn Token.pipe
  rw [← hjoin, hsegments]
  simp [List.intercalate]

lemma split_eq_ok_none_iff {ts : List Token} {ws : List String} :
    split ts = .ok ([ws], none) ↔ ts = ws.map .word := by
  constructor
  · intro hsplit
    rw [split_eq] at hsplit
    obtain ⟨hending, hwords⟩ : ending ts = .ok none ∧ (segments ts).map wordsOf = [ws] := by
      cases h : ending ts <;> simp_all [Except.map]
    obtain ⟨segment, hsegments, rfl⟩ := List.map_eq_singleton_iff.mp hwords
    rw [map_wordsOf (hsegments ▸ List.mem_singleton_self segment)]
    exact tokens_of_segments hending hsegments
  · rintro rfl
    exact split_words ws

lemma stageOf_eq_resolve_iff (ctx : Context) (fs : FileSystem) (ws : List String) (name : String) :
    stageOf ctx fs ws = ctx.resolve fs name ↔ ws = [name] := by
  constructor
  · intro hstage
    cases ws with
    | nil => cases hstage
    | cons w args =>
      have hname := congrArg Command.name hstage
      have hargs := congrArg Command.args hstage
      simp_all [stageOf, Context.resolve]
  · rintro rfl
    rfl

/-- Only the name on its own stands for the command that it names. -/
lemma parse_eq_resolve_iff (ctx : Context) (fs : FileSystem) (line name : String) :
    parse ctx fs line = .ok { stages := [ctx.resolve fs name] } ↔
      tokenize line = [.word name] := by
  constructor
  · intro hparse
    obtain ⟨found, hsplit, hstages⟩ := parse_eq_ok_iff.mp hparse
    obtain ⟨ws, rfl, hstage⟩ := List.map_eq_singleton_iff.mp hstages
    obtain rfl := (stageOf_eq_resolve_iff ctx fs ws name).mp hstage
    exact split_eq_ok_none_iff.mp hsplit
  · intro hread
    have hwords : tokenize line = [name].map .word := hread
    exact parse_words hwords

end Pipeline

namespace Completion

/-- The line up to the cursor when an offer has been accepted and a space typed behind it. -/
def accepted? (line : String) (start : Nat) (c : Candidate) : Option String :=
  (headAt? start line.toList).map fun before => String.ofList before ++ c.replacement ++ " "

lemma accepted?_append (before after : String) (c : Candidate) :
    accepted? (before ++ after) before.utf8ByteSize c =
      some (before ++ c.replacement ++ " ") := by
  have hhead := headAt?_append before.toList after.toList
  rw [String.ofList_toList, ← String.toList_append] at hhead
  rw [accepted?, hhead, Option.map_some, String.ofList_toList]

/-- An accepted name has one space behind it, or two if no other name was offered. -/
lemma exists_spaces {names : List String} {c : Candidate} (h : c ∈ ofNames names) :
    ∃ n, c.replacement ++ " " = c.display ++ String.ofList (List.replicate (n + 1) ' ') := by
  rw [(of_mem_ofNames h).2]
  split_ifs
  · exact ⟨1, String.append_assoc⟩
  · exact ⟨0, rfl⟩

/-- What was offered and accepted is read as the one word that was shown, and stands for the command
of this name, exactly if the name is bare. -/
theorem accepted_iff_bare (ctx : Context) (fs : FileSystem) (head tail : String) :
    ∃ start offered, candidates? ctx fs (head ++ tail) head.utf8ByteSize = some (start, offered) ∧
      ∀ c ∈ offered, ∃ line, accepted? (head ++ tail) start c = some line ∧
        (tokenize line = [.word c.display] ↔ Token.IsBare c.display) ∧
        (Pipeline.parse ctx fs line = .ok { stages := [ctx.resolve fs c.display] } ↔
          Token.IsBare c.display) := by
  obtain ⟨blanks, word, rfl, hblanks, hword⟩ := exists_blanks_word head
  have hcandidates := candidates?_append hblanks hword ctx fs tail
  split_ifs at hcandidates
  · exact ⟨_, _, hcandidates, by simp⟩
  refine ⟨_, _, hcandidates, fun c hc => ?_⟩
  obtain ⟨n, hspaces⟩ := exists_spaces hc
  have haccepted := accepted?_append blanks (word ++ tail) c
  rw [← String.append_assoc] at haccepted
  have hread : tokenize (blanks ++ c.replacement ++ " ") = [.word c.display] ↔
      Token.IsBare c.display := by
    rw [String.append_assoc, Token.tokenize_blanks_append hblanks, hspaces]
    exact Token.tokenize_bare_iff c.display n
  exact ⟨_, haccepted, hread, (Pipeline.parse_eq_resolve_iff ..).trans hread⟩

/-- The only name that is offered has a blank in it. Accepted, it is another command and its
argument. -/
theorem accepted_with_blank :
    let fs := binOf ["zz b"]
    let c : Candidate := ⟨"zz b", "zz b "⟩
    candidates? binContext fs "zz" 2 = some (0, [c]) ∧
      (binContext.resolve fs c.display).runnable = true ∧
      accepted? "zz" 0 c = some "zz b  " ∧
      tokenize "zz b  " = [.word "zz", .word "b"] ∧ tokenize "zz b  " ≠ [.word c.display] ∧
      Pipeline.parse binContext fs "zz b  " =
        .ok { stages := [{ binContext.resolve fs "zz" with args := ["b"] }] } := by
  intro fs c
  have hnames : binContext.commandNames fs "zz" = ["zz b"] := by
    rw [commandNames_binOf (by decide)]
    decide
  have hblanks : isBlankText "" = true := by decide
  have hword : BeginsWord "zz" := by
    rintro c ⟨⟩
    decide
  have hcandidates : candidates? binContext fs "zz" 2 = some (0, [c]) := by
    have happend := candidates?_append hblanks hword binContext fs ""
    rw [hnames] at happend
    exact happend
  have htokens : tokenize "zz b  " = ["zz", "b"].map .word := by decide
  have hoffered : "zz b" ∈ binContext.commandNames fs "zz" := by simp [hnames]
  have hrun : (binContext.resolve fs c.display).runnable = true :=
    Context.runnable_of_mem_commandNames (by decide) hoffered
  exact ⟨hcandidates, hrun, by decide, htokens, by decide, Pipeline.parse_words htokens⟩

end Completion
end Shell
