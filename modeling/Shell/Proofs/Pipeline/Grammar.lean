import Mathlib.Data.List.Forall2
import Mathlib.Data.List.TakeWhile
import Shell.Pipeline

/-!
# The grammar of a line

A line is read up to its first redirection. What stands before is cut at the pipes into segments,
each of which stands for one stage; the word after the redirection is its target, and what follows
is of no interest. The only line that cannot be read is one whose first redirection has no word
after it: `Pipeline.parse_grammar`.
-/

namespace Shell

def Token.isRedirect : Token → Bool
  | .redirect _ _ => true
  | _ => false

namespace Pipeline

/-! ### Segments and stages -/

/-- The tokens before the first redirection. -/
def front (ts : List Token) : List Token :=
  ts.takeWhile fun t => !t.isRedirect

/-- The first redirection and the tokens after it. -/
def back (ts : List Token) : List Token :=
  ts.dropWhile fun t => !t.isRedirect

/-- The tokens between pipes, as far as the first redirection. -/
def segments (ts : List Token) : List (List Token) :=
  (front ts).splitOn .pipe

/-- There is a redirection, and the first one is not followed by a word. -/
def MissesTarget (ts : List Token) : Prop :=
  ∃ before stream mode after, ts = before ++ .redirect stream mode :: after ∧
    (∀ t ∈ before, t.isRedirect = false) ∧ ∀ target, after.head? ≠ some (.word target)

/-- The first redirection, with the word after it as its target. -/
def redirection? (ts : List Token) : Option Redirection :=
  match back ts with
  | .redirect stream mode :: .word target :: _ => some { target, stream, mode }
  | _ => none

/-- The stage that a segment stands for. -/
inductive Stands (ctx : Context) (fs : FileSystem) : List Token → Command → Prop
  | blank : Stands ctx fs [] (.blank ctx.workspace.text)
  | named (name : String) (args : List String) :
      Stands ctx fs (.word name :: args.map .word)
        { ctx.resolve fs name with args := args.map fun a => Path.expandTilde a ctx.home }

/-- A stage has a name unless its segment is blank. -/
lemma Stands.name_eq_none_iff {ctx : Context} {fs : FileSystem} {segment : List Token}
    {stage : Command} (h : Stands ctx fs segment stage) :
    stage.name = none ↔ segment = [] := by
  cases h with
  | blank => simp [Command.blank]
  | named name args => simp [Context.resolve]

lemma stands_stageOf (ctx : Context) (fs : FileSystem) (ws : List String) :
    Stands ctx fs (ws.map .word) (stageOf ctx fs ws) := by
  cases ws with
  | nil => exact .blank
  | cons name args => exact .named name args

/-! ### The first redirection -/

/-- What the first redirection makes of a line. -/
def ending (ts : List Token) : Except Error (Option Redirection) :=
  match back ts with
  | [] => .ok none
  | .redirect stream mode :: .word target :: _ => .ok (some { target, stream, mode })
  | _ => .error .missingRedirectTarget

/-- After the tokens before the first redirection there is that redirection, or nothing. -/
lemma back_cases (ts : List Token) :
    back ts = [] ∨ ∃ stream mode after, back ts = .redirect stream mode :: after := by
  have hhead := List.head?_dropWhile_not (fun t : Token => !t.isRedirect) ts
  cases h : back ts with
  | nil => exact .inl rfl
  | cons t after =>
    rw [back] at h
    rw [h] at hhead
    cases t with
    | redirect stream mode => exact .inr ⟨stream, mode, after, rfl⟩
    | word text => cases hhead
    | pipe => cases hhead

lemma back_of_eq_append {ts before after : List Token} {stream : OutputStream} {mode : WriteMode}
    (h : ts = before ++ .redirect stream mode :: after)
    (hbefore : ∀ t ∈ before, t.isRedirect = false) :
    back ts = .redirect stream mode :: after := by
  rw [back, h, List.dropWhile_append_of_pos (by simpa using hbefore)]
  rfl

lemma missesTarget_iff (ts : List Token) :
    MissesTarget ts ↔ ∃ stream mode after, back ts = .redirect stream mode :: after ∧
      ∀ target, after.head? ≠ some (.word target) := by
  constructor
  · rintro ⟨before, stream, mode, after, hts, hbefore, hafter⟩
    exact ⟨stream, mode, after, back_of_eq_append hts hbefore, hafter⟩
  · rintro ⟨stream, mode, after, hback, hafter⟩
    refine ⟨front ts, stream, mode, after, ?_, fun t ht => ?_, hafter⟩
    · rw [← hback]
      exact List.takeWhile_append_dropWhile.symm
    · simpa using List.mem_takeWhile_imp ht

/-- A line can be read unless its first redirection has no target. -/
lemma ending_eq (ts : List Token) :
    (MissesTarget ts ∧ ending ts = .error .missingRedirectTarget) ∨
      (¬ MissesTarget ts ∧ ending ts = .ok (redirection? ts)) := by
  rw [missesTarget_iff]
  rcases back_cases ts with hback | ⟨stream, mode, after, hback⟩
  · exact .inr (by simp [ending, redirection?, hback])
  match after, hback with
  | .word target :: rest, hback =>
    exact .inr (by simp [ending, redirection?, hback])
  | [], hback => exact .inl (by simp [ending, hback])
  | .pipe :: rest, hback => exact .inl (by simp [ending, hback])
  | .redirect _ _ :: rest, hback => exact .inl (by simp [ending, hback])

/-! ### The loop over tokens -/

@[simp] lemma ending_word (text : String) (ts : List Token) :
    ending (.word text :: ts) = ending ts := rfl

@[simp] lemma ending_pipe (ts : List Token) : ending (.pipe :: ts) = ending ts := rfl

lemma segments_ne_nil (ts : List Token) : segments ts ≠ [] :=
  List.splitOn_ne_nil _ _

@[simp] lemma segments_nil : segments [] = [[]] := by
  simp [segments, front]

@[simp] lemma segments_redirect (stream : OutputStream) (mode : WriteMode) (ts : List Token) :
    segments (.redirect stream mode :: ts) = [[]] := by
  simp [segments, front, Token.isRedirect]

@[simp] lemma segments_pipe (ts : List Token) : segments (.pipe :: ts) = [] :: segments ts := by
  simp [segments, front, Token.isRedirect, List.splitOn_cons_eq_if_modifyHead]

@[simp] lemma segments_word (text : String) (ts : List Token) :
    segments (.word text :: ts) = (segments ts).modifyHead (.word text :: ·) := by
  simp [segments, front, Token.isRedirect, List.splitOn_cons_eq_if_modifyHead]

/-- The words of a segment. -/
def wordsOf (segment : List Token) : List String :=
  segment.filterMap Token.word?

/-- The loop cuts what is left of the line, and the words that it holds begin the first of the
segments to come. -/
lemma splitFrom_eq (segment : List String) (done : List (List String)) (ts : List Token) :
    splitFrom segment done ts = (ending ts).map fun r =>
      (done.reverse ++ ((segments ts).map wordsOf).modifyHead (segment.reverse ++ ·), r) := by
  -- a word and a pipe act on the first segment to come, which is there even if the line ends
  fun_induction splitFrom segment done ts with
  | case1 segment done => simp [ending, back, wordsOf, Except.map]
  | case2 segment done w rest ih =>
    obtain ⟨first, others, hsegments⟩ := List.exists_cons_of_ne_nil (segments_ne_nil rest)
    rw [ih, ending_word, segments_word, hsegments]
    simp [wordsOf, Token.word?]
  | case3 segment done rest ih =>
    obtain ⟨first, others, hsegments⟩ := List.exists_cons_of_ne_nil (segments_ne_nil rest)
    rw [ih, ending_pipe, segments_pipe, hsegments]
    simp [wordsOf]
  | case4 segment done stream mode target rest =>
    simp [ending, back, wordsOf, Token.isRedirect, Except.map]
  | case5 segment done stream mode rest h =>
    match rest, h with
    | [], _ => rfl
    | .word target :: tail, h => exact absurd rfl (h target tail)
    | .pipe :: _, _ => rfl
    | .redirect _ _ :: _, _ => rfl

lemma split_eq (ts : List Token) :
    split ts = (ending ts).map fun r => ((segments ts).map wordsOf, r) := by
  obtain ⟨first, others, hsegments⟩ := List.exists_cons_of_ne_nil (segments_ne_nil ts)
  rw [split, splitFrom_eq, hsegments]
  simp

/-- Segments hold nothing but words. -/
lemma map_wordsOf {ts segment : List Token} (h : segment ∈ segments ts) :
    (wordsOf segment).map .word = segment := by
  induction ts generalizing segment with
  | nil => simp_all [wordsOf]
  | cons t ts ih =>
    cases t with
    | redirect stream mode => simp_all [wordsOf]
    | pipe =>
      rw [segments_pipe] at h
      rcases List.mem_cons.mp h with rfl | h
      · rfl
      · exact ih h
    | word text =>
      obtain ⟨first, others, hsegments⟩ := List.exists_cons_of_ne_nil (segments_ne_nil ts)
      rw [segments_word, hsegments] at h
      rcases List.mem_cons.mp h with rfl | h
      · have hfirst : first ∈ segments ts := hsegments ▸ List.mem_cons_self
        simpa [wordsOf, Token.word?] using ih hfirst
      · exact ih (hsegments ▸ List.mem_cons_of_mem first h)

/-- There is one segment more than there are pipes. -/
lemma length_segments (ts : List Token) :
    (segments ts).length = 1 + (front ts).count .pipe := by
  induction ts with
  | nil => simp [front]
  | cons t ts ih =>
    cases t with
    | redirect stream mode => simp [front, Token.isRedirect]
    | pipe =>
      rw [segments_pipe, List.length_cons, ih]
      simp [front, Token.isRedirect]
      omega
    | word text =>
      rw [segments_word, List.length_modifyHead, ih]
      simp [front, Token.isRedirect]

/-- The stages that segments stand for, in order. -/
lemma forall₂_stands (ctx : Context) (fs : FileSystem) (ts : List Token) :
    List.Forall₂ (Stands ctx fs) (segments ts)
      (((segments ts).map wordsOf).map (stageOf ctx fs)) := by
  rw [List.map_map, List.forall₂_map_right_iff, List.forall₂_same]
  intro segment hsegment
  have hstands := stands_stageOf ctx fs (wordsOf segment)
  rwa [map_wordsOf hsegment] at hstands

lemma any_isNone_name_iff {ctx : Context} {fs : FileSystem} {segs : List (List Token)}
    {stages : List Command} (h : List.Forall₂ (Stands ctx fs) segs stages) :
    (stages.any fun c => c.name.isNone) = true ↔ [] ∈ segs := by
  induction h with
  | nil => simp
  | cons hstage _ ih =>
    rw [List.any_cons, Bool.or_eq_true, ih, Option.isNone_iff_eq_none, hstage.name_eq_none_iff,
      List.mem_cons, eq_comm]

/-- Nothing is to be run exactly if a segment is blank. -/
lemma isNoop_iff {ctx : Context} {fs : FileSystem} {ts : List Token} {p : Pipeline}
    (h : List.Forall₂ (Stands ctx fs) (segments ts) p.stages) :
    p.isNoop = true ↔ [] ∈ segments ts := by
  have hstages : p.stages ≠ [] := by
    intro hnil
    rw [hnil, List.forall₂_nil_right_iff] at h
    exact segments_ne_nil ts h
  rw [isNoop, Bool.or_eq_true, List.isEmpty_iff, any_isNone_name_iff h]
  simp [hstages]

/-- A line is read by its grammar: it is refused exactly if its first redirection has no target, and
otherwise gives one stage for each segment before the first redirection, and that redirection. -/
theorem parse_grammar (ctx : Context) (fs : FileSystem) (line : String) :
    (parse ctx fs line = .error .missingRedirectTarget ↔ MissesTarget (tokenize line)) ∧
      (∀ e, parse ctx fs line = .error e → e = .missingRedirectTarget) ∧
      (¬ MissesTarget (tokenize line) → ∃ p, parse ctx fs line = .ok p ∧
        List.Forall₂ (Stands ctx fs) (segments (tokenize line)) p.stages ∧
        p.stages.length = 1 + (front (tokenize line)).count .pipe ∧
        p.redirection = redirection? (tokenize line) ∧
        (p.isNoop = true ↔ [] ∈ segments (tokenize line))) := by
  rcases ending_eq (tokenize line) with ⟨hmisses, hending⟩ | ⟨hreads, hending⟩
  · have hparse : parse ctx fs line = .error .missingRedirectTarget := by
      rw [parse, split_eq, hending]
      rfl
    rw [hparse]
    refine ⟨⟨fun _ => hmisses, fun _ => rfl⟩, fun e he => ?_, fun h => absurd hmisses h⟩
    cases he
    rfl
  · have hstands := forall₂_stands ctx fs (tokenize line)
    have hparse : parse ctx fs line =
        .ok ⟨((segments (tokenize line)).map wordsOf).map (stageOf ctx fs),
          redirection? (tokenize line)⟩ := by
      rw [parse, split_eq, hending]
      rfl
    rw [hparse]
    refine ⟨⟨fun h => (by cases h), fun h => absurd h hreads⟩, fun e he => (by cases he),
      fun _ => ?_⟩
    refine ⟨_, rfl, hstands, ?_, rfl, isNoop_iff hstands⟩
    rw [← hstands.length_eq, length_segments]

end Pipeline
end Shell
