import Shell.Proofs.Builtin.Desk

/-!
# What becomes of the texts of a builtin

A builtin prints in the course of what it does, and ends with the first text that is not taken. All
that it does to the context and to files comes before its first text: whatever is answered to its
texts, the context and the files are left as its report says (`Desk.execute_effects`). Only its
result tells what was answered (`Desk.execute_result`).
-/

namespace Shell

variable {σ τ : Type} {k : Desk τ} {d : Disk σ} {p : Part τ σ}

namespace Desk

/-- Printing leaves a part of the state as it is, whether the text is taken or not. -/
def PrintsBeside (k : Desk τ) (p : Part τ σ) : Prop :=
  ∀ stream text t, p.get (k.print stream text t).2 = p.get t

/-- A text is refused for the cause that is given for its stream, if there is one. That there is
nothing to print is never refused. -/
structure Answers (k : Desk τ) (refusal : OutputStream → Option IoError) : Prop where
  empty : ∀ stream t, (k.print stream "" t).1 = .ok ()
  text : ∀ stream text t, text ≠ "" → (k.print stream text t).1 =
    match refusal stream with
    | none => .ok ()
    | some cause => .error cause

/-! ### What is done -/

/-- The context and a part of the state are left as they are reported. -/
def Leaves (p : Part τ σ) (x : (Except Failure Nat × Context) × τ) (y : Report × σ) : Prop :=
  x.1.2 = y.1.context ∧ p.get x.2 = y.2

section

variable (hk : k.toDisk = d.within p) (h : k.PrintsBeside p) (ctx : Context) (t : τ)

include h in
lemma conclude_leaves (stream : OutputStream) (text : String) (status : Nat) :
    (k.conclude stream text status ctx t).1.2 = ctx ∧
      p.get (k.conclude stream text status ctx t).2 = p.get t := by
  have hprint := h stream text t
  rw [conclude, bind_apply]
  cases (k.print stream text t).1 <;> exact ⟨rfl, hprint⟩

include h in
/-- By induction over the names. -/
lemma type_leaves (status : Nat) (names : List String) :
    (k.type ctx status names t).1.2 = ctx ∧
      p.get (k.type ctx status names t).2 = p.get t := by
  induction names generalizing status t with
  | nil => exact ⟨rfl, rfl⟩
  | cons name names ih =>
    have hprint := h .stdout ((Builtin.describe ctx (k.files t) name).line name) t
    rw [type, get_bind_apply, bind_apply]
    cases (k.print .stdout _ t).1 with
    | error cause => exact ⟨rfl, hprint⟩
    | ok =>
      obtain ⟨hcontext, hpart⟩ := ih (k.print .stdout _ t).2 _
      exact ⟨hcontext, hpart.trans hprint⟩

include hk

lemma exit_leaves : Leaves p (k.exit ctx t) (d.report (fun desk => desk.exit ctx) (p.get t)) := by
  rw [Leaves, exit, hk, Context.requestExit_within, bind_apply, Part.lift_apply,
    Disk.report_exit]
  exact ⟨rfl, p.get_set _ _⟩

include h

lemma cd_leaves (target : Option String) :
    Leaves p (k.cd target ctx t) (d.report (fun desk => desk.cd target ctx) (p.get t)) := by
  have hfiles : k.files t = d.files (p.get t) := congrFun (congrArg Disk.files hk) t
  rw [Leaves, Disk.report_cd, cd]
  cases Builtin.cdTarget? target ctx.home with
  | none => exact ⟨rfl, rfl⟩
  | some target =>
    dsimp only
    rw [get_bind_apply, hfiles]
    cases ctx.setWorkspace (d.files (p.get t)) target with
    | ok ctx => exact ⟨rfl, rfl⟩
    | error e => exact conclude_leaves h ctx t _ _ _

lemma history_leaves (a : Arguments) :
    Leaves p (k.history a ctx t) (d.report (fun desk => desk.history a ctx) (p.get t)) := by
  rw [Leaves, Disk.report_history, history]
  split
  · exact conclude_leaves h ctx t _ _ _
  · rw [hk, Disk.operations_within, Disk.historyFiles_lift, bind_apply, Part.lift_apply]
    obtain ⟨⟨_ | _, ctx⟩, s⟩ := Desk.historyFiles a ctx d.operations (p.get t) <;>
      exact ⟨rfl, p.get_set _ _⟩

/-- Whatever becomes of the texts of a builtin, it does what it reports. -/
theorem execute_effects (b : Builtin) (args : List String) :
    Leaves p (k.execute b args ctx t) (b.report d args ctx (p.get t)) := by
  rw [Builtin.report_eq, execute]
  cases b.parseArguments args with
  | error e => exact conclude_leaves h ctx t _ _ _
  | ok a =>
    dsimp only
    split
    · exact conclude_leaves h ctx t _ _ _
    cases b with
    | echo | pwd =>
      simp only [act, Disk.report_conclude]
      exact conclude_leaves h ctx t _ _ _
    | exit => exact exit_leaves hk ctx t
    | type =>
      simp only [act, Disk.report_type]
      exact type_leaves h ctx t _ _
    | cd => exact cd_leaves hk h ctx t _
    | history => exact history_leaves hk h ctx t a

end

/-! ### What is answered -/

end Desk

/-- The result of a builtin with this report where texts are refused. -/
def Report.resultWhere (refusal : OutputStream → Option IoError) (r : Report) :
    Except Failure Nat :=
  match (if r.stdout = "" then none else refusal .stdout),
      (if r.stderr = "" then none else refusal .stderr) with
  | some cause, _ => .error (.output cause)
  | none, some cause => .error (.output cause)
  | none, none => r.result

namespace Desk

section

variable (hk : k.toDisk = d.within p) (h : k.PrintsBeside p)
  {refusal : OutputStream → Option IoError} (hanswers : k.Answers refusal) (ctx : Context) (t : τ)

lemma line_ne_empty (found : Builtin.Description) (name : String) : found.line name ≠ "" := by
  cases found <;> simp [Builtin.Description.line]

include hanswers in
lemma conclude_result (stream : OutputStream) (text : String) (status : Nat) :
    (k.conclude stream text status ctx t).1.1 =
      Report.resultWhere refusal { result := .ok status, stdout := stream.pick text ""
                                   stderr := stream.pick "" text, context := ctx } := by
  rw [conclude, bind_apply]
  by_cases htext : text = ""
  · have hprint := hanswers.empty stream t
    rw [htext]
    cases hanswer : (k.print stream "" t).1 with
    | error cause =>
      rw [hanswer] at hprint
      cases hprint
    | ok => cases stream <;> rfl
  · have hprint := hanswers.text stream text t htext
    rw [hprint]
    cases hrefusal : refusal stream <;>
      cases stream <;> simp [Report.resultWhere, OutputStream.pick, htext, hrefusal] <;> rfl

include hk hanswers

lemma cd_result (target : Option String) :
    (k.cd target ctx t).1.1 =
      (d.report (fun desk => desk.cd target ctx) (p.get t)).1.resultWhere refusal := by
  have hfiles : k.files t = d.files (p.get t) := congrFun (congrArg Disk.files hk) t
  rw [Disk.report_cd, cd]
  cases Builtin.cdTarget? target ctx.home with
  | none => rfl
  | some target =>
    dsimp only
    rw [get_bind_apply, hfiles]
    cases ctx.setWorkspace (d.files (p.get t)) target with
    | ok ctx => rfl
    | error e => exact conclude_result hanswers ctx t _ _ _

lemma history_result (a : Arguments) :
    (k.history a ctx t).1.1 =
      (d.report (fun desk => desk.history a ctx) (p.get t)).1.resultWhere refusal := by
  rw [Disk.report_history, history]
  split
  · exact conclude_result hanswers ctx t _ _ _
  · rw [hk, Disk.operations_within, Disk.historyFiles_lift, bind_apply, Part.lift_apply]
    obtain ⟨⟨_ | _, ctx⟩, s⟩ := Desk.historyFiles a ctx d.operations (p.get t) <;> rfl

include h

/-- By induction over the names: the first line is refused, or none is. -/
lemma type_result {found : String → Builtin.Description}
    (hfound : Builtin.describe ctx (d.files (p.get t)) = found) (names : List String)
    (status : Nat) :
    (k.type ctx status names t).1.1 =
      Report.resultWhere refusal
        { result := .ok (if names.any fun name => found name = .notFound then 1 else status)
          stdout := String.join (names.map fun name => (found name).line name)
          context := ctx } := by
  induction names generalizing status t with
  | nil => rfl
  | cons name names ih =>
    have hfiles : k.files t = d.files (p.get t) := congrFun (congrArg Disk.files hk) t
    have hline : (found name).line name ≠ "" := line_ne_empty _ _
    have hanswer := hanswers.text .stdout ((found name).line name) t hline
    have hafter := h .stdout ((found name).line name) t
    rw [type, get_bind_apply, bind_apply, hfiles, hfound, hanswer]
    cases hrefusal : refusal .stdout with
    | some cause =>
      have hjoined : String.join ((name :: names).map fun name => (found name).line name) ≠ "" := by
        simp [String.join_cons, hline]
      simp only [Report.resultWhere, hjoined, if_false, hrefusal]
      rfl
    | none =>
      refine (ih _ (by rw [hafter, hfound]) _).trans ?_
      by_cases hname : found name = .notFound <;> simp [Report.resultWhere, hrefusal, hname]

/-- A builtin some of whose texts are refused ends with the result that it reports if it has none of
these to print, and otherwise with the cause of the refusal. -/
theorem execute_result (b : Builtin) (args : List String) :
    (k.execute b args ctx t).1.1 = (b.report d args ctx (p.get t)).1.resultWhere refusal := by
  rw [Builtin.report_eq, execute]
  cases b.parseArguments args with
  | error e => exact conclude_result hanswers ctx t _ _ _
  | ok a =>
    dsimp only
    split
    · exact conclude_result hanswers ctx t _ _ _
    cases b with
    | echo | pwd =>
      simp only [act, Disk.report_conclude]
      exact conclude_result hanswers ctx t _ _ _
    | exit =>
      simp only [act, Disk.report_exit]
      rfl
    | type =>
      simp only [act, Disk.report_type]
      exact type_result hk h hanswers ctx t rfl _ _
    | cd => exact cd_result hk hanswers ctx t _
    | history => exact history_result hk hanswers ctx t a

end

end Desk

end Shell
