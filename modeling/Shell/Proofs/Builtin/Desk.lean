import Mathlib.Tactic.Lemma
import Shell.Builtin.Report

/-!
# Builtins at a desk

What a builtin does at a desk, whichever it is. All that reading, saving and printing preserve is
preserved (`Desk.Preserves.execute`). Nothing is done after the first text: where a text may as well
be printed in pieces, a builtin does first what its report says and then prints the texts of the
report (`Desk.execute_eq_report`).
-/

namespace Shell

variable {σ τ : Type}

/-! ### What is preserved -/

/-- What holds of the state stays true when files are read and saved. -/
structure Disk.Preserves (d : Disk σ) (P : σ → Prop) : Prop where
  read : ∀ path s, P s → P (d.read path s).2
  save : ∀ path mode bytes s, P s → P (d.save path mode bytes s).2

/-- It stays true as well when texts are printed. -/
structure Desk.Preserves (d : Desk σ) (P : σ → Prop) : Prop extends Disk.Preserves d.toDisk P where
  print : ∀ stream text s, P s → P (d.print stream text s).2

/-- By induction over the operations. -/
lemma Desk.preserves_historyFiles {P : σ → Prop} (a : Arguments) (ctx : Context)
    {operations : List (String × (History → String → StateM σ (Except IoError Unit × History)))}
    (hoperations : ∀ x ∈ operations, ∀ history path s, P s → P (x.2 history path s).2) {s : σ}
    (hs : P s) : P (Desk.historyFiles a ctx operations s).2 := by
  induction operations generalizing ctx s with
  | nil => exact hs
  | cons x operations ih =>
    obtain ⟨hx, hrest⟩ := List.forall_mem_cons.mp hoperations
    rw [Desk.historyFiles]
    cases a.value? x.1 with
    | none => exact ih ctx hrest hs
    | some file =>
      have hstep := hx ctx.history (ctx.resolvePath file).text s hs
      dsimp only
      rw [bind_apply]
      obtain ⟨_ | _, history⟩ := (x.2 ctx.history (ctx.resolvePath file).text s).1
      · exact hstep
      · exact ih _ hrest hstep

namespace Disk.Preserves

variable {d : Disk σ} {P : σ → Prop} (h : d.Preserves P) (history : History) (path : String)
include h

lemma readFile {s : σ} (hs : P s) : P (history.readFile d path s).2 := by
  have hread := h.read path s hs
  rw [History.readFile, bind_apply]
  cases (d.read path s).1 <;> exact hread

lemma writeFile {s : σ} (hs : P s) : P (history.writeFile d path s).2 := by
  have hsave := h.save path .truncate (encode (History.fileText history.entries)) s hs
  rw [History.writeFile, bind_apply]
  dsimp only
  cases (d.save path .truncate _ s).1 <;> exact hsave

lemma appendFile {s : σ} (hs : P s) : P (history.appendFile d path s).2 := by
  have hsave := h.save path .append (encode (History.fileText history.pending)) s hs
  unfold History.appendFile
  dsimp only
  split
  · exact hs
  · rw [bind_apply]
    cases (d.save path .append _ s).1 <;> exact hsave

lemma flushFile {s : σ} (hs : P s) : P (history.flushFile d s).2 := by
  rw [History.flushFile]
  cases history.file with
  | none => exact hs
  | some path => exact h.appendFile history path hs

lemma requestExit (ctx : Context) {s : σ} (hs : P s) : P (ctx.requestExit d s).2 := by
  unfold Context.requestExit
  split
  · exact hs
  · exact h.flushFile ctx.history hs

lemma operations : ∀ x ∈ d.operations, ∀ history path s, P s → P (x.2 history path s).2 := by
  simp only [Disk.operations, List.forall_mem_cons]
  exact ⟨fun history path _ => h.readFile history path,
    fun history path _ => h.writeFile history path,
    fun history path _ => h.appendFile history path, by simp⟩

/-- A builtin that prints nowhere. -/
lemma noting : d.noting.Preserves fun n => P n.state where
  read path n hn := h.read path n.state hn
  save path mode bytes n hn := h.save path mode bytes n.state hn
  print stream text n hn := by cases stream <;> exact hn

end Disk.Preserves

namespace Desk.Preserves

variable {d : Desk σ} {P : σ → Prop} (h : d.Preserves P)
include h

lemma conclude (stream : OutputStream) (text : String) (status : Nat) (ctx : Context) {s : σ}
    (hs : P s) : P (d.conclude stream text status ctx s).2 := by
  have hprint := h.print stream text s hs
  rw [Desk.conclude, bind_apply]
  cases (d.print stream text s).1 <;> exact hprint

/-- By induction over the names. -/
lemma type (ctx : Context) (status : Nat) (names : List String) {s : σ} (hs : P s) :
    P (d.type ctx status names s).2 := by
  induction names generalizing status s with
  | nil => exact hs
  | cons name names ih =>
    have hprint := h.print .stdout ((Builtin.describe ctx (d.files s) name).line name) s hs
    rw [Desk.type, get_bind_apply, bind_apply]
    cases (d.print .stdout _ s).1 with
    | error cause => exact hprint
    | ok => exact ih _ hprint

lemma cd (target : Option String) (ctx : Context) {s : σ} (hs : P s) :
    P (d.cd target ctx s).2 := by
  rw [Desk.cd]
  cases Builtin.cdTarget? target ctx.home with
  | none => exact hs
  | some target =>
    dsimp only
    rw [get_bind_apply]
    cases ctx.setWorkspace (d.files s) target with
    | error e => exact h.conclude _ _ _ _ hs
    | ok ctx => exact hs

lemma history (a : Arguments) (ctx : Context) {s : σ} (hs : P s) :
    P (d.history a ctx s).2 := by
  unfold Desk.history
  split
  · exact h.conclude _ _ _ _ hs
  · have hfiles := Desk.preserves_historyFiles a ctx h.toPreserves.operations hs
    rw [bind_apply]
    obtain ⟨_ | _, ctx⟩ := (Desk.historyFiles a ctx d.operations s).1 <;> exact hfiles

/-- A builtin preserves what reading, saving and printing do. -/
theorem execute (b : Builtin) (args : List String) (ctx : Context) {s : σ} (hs : P s) :
    P (d.execute b args ctx s).2 := by
  rw [Desk.execute]
  cases b.parseArguments args with
  | error e => exact h.conclude _ _ _ _ hs
  | ok a =>
    dsimp only
    split
    · exact h.conclude _ _ _ _ hs
    · cases b with
      | echo | pwd => exact h.conclude _ _ _ _ hs
      | exit => exact h.toPreserves.requestExit ctx hs
      | type => exact h.type ctx 0 _ hs
      | cd => exact h.cd _ ctx hs
      | history => exact h.history a ctx hs

end Desk.Preserves

lemma Disk.Preserves.report {d : Disk σ} {P : σ → Prop} (h : d.Preserves P) (b : Builtin)
    (args : List String) (ctx : Context) {s : σ} (hs : P s) : P (b.report d args ctx s).2 :=
  h.noting.execute b args ctx hs

/-! ### What is reported -/

/-- What every report is like. -/
structure Report.IsProper (r : Report) : Prop where
  /-- A builtin that fails has printed nothing. -/
  silent : ∀ failure, r.result = .error failure → r.stdout = "" ∧ r.stderr = ""
  one_stream : r.stdout = "" ∨ r.stderr = ""
  status_le : ∀ status, r.result = .ok status → status ≤ 1

lemma Report.isProper_of_ok {r : Report} {status : Nat} (hresult : r.result = .ok status)
    (hle : status ≤ 1) (hstreams : r.stdout = "" ∨ r.stderr = "") : r.IsProper where
  silent failure h := by
    rw [hresult] at h
    cases h
  one_stream := hstreams
  status_le status h := by
    rw [hresult] at h
    cases h
    exact hle

lemma Report.isProper_of_silent {r : Report} (hstdout : r.stdout = "") (hstderr : r.stderr = "")
    (hle : ∀ status, r.result = .ok status → status ≤ 1) : r.IsProper :=
  ⟨fun _ _ => ⟨hstdout, hstderr⟩, .inl hstdout, hle⟩

/-- A builtin prints on one stream at most, and nothing if it fails. -/
theorem Builtin.report_isProper (b : Builtin) (d : Disk σ) (args : List String) (ctx : Context)
    (s : σ) : (b.report d args ctx s).1.IsProper := by
  rw [report_eq]
  cases b.parseArguments args with
  | error e => exact Report.isProper_of_ok rfl (Nat.le_refl 1) (.inl rfl)
  | ok a =>
    dsimp only
    split
    · exact Report.isProper_of_ok rfl (Nat.zero_le 1) (.inr rfl)
    cases b with
    | echo | pwd =>
      simp only [Desk.act, Disk.report_conclude]
      exact Report.isProper_of_ok rfl (Nat.zero_le 1) (.inr rfl)
    | exit =>
      simp only [Desk.act, Disk.report_exit]
      exact Report.isProper_of_ok rfl (Nat.zero_le 1) (.inr rfl)
    | type =>
      simp only [Desk.act, Disk.report_type]
      refine Report.isProper_of_ok rfl ?_ (.inr rfl)
      split <;> decide
    | cd =>
      simp only [Desk.act, Disk.report_cd]
      split
      · exact Report.isProper_of_silent rfl rfl nofun
      split
      · exact Report.isProper_of_ok rfl (Nat.zero_le 1) (.inr rfl)
      · exact Report.isProper_of_ok rfl (Nat.le_refl 1) (.inr rfl)
    | history =>
      simp only [Desk.act, Disk.report_history]
      split
      · exact Report.isProper_of_ok rfl (Nat.zero_le 1) (.inr rfl)
      · rcases Desk.historyFiles a ctx d.operations s with ⟨⟨_ | _, context⟩, s'⟩
        · exact Report.isProper_of_silent rfl rfl nofun
        · exact Report.isProper_of_ok rfl (Nat.zero_le 1) (.inl rfl)

/-! ### First the work, then the texts -/

namespace Desk

/-- A text may as well be printed in pieces, up to the first that fails, and what is printed makes
no command of a name. -/
structure Lawful (k : Desk τ) : Prop where
  print_empty : ∀ stream, k.print stream "" = pure (.ok ())
  print_append : ∀ stream text more, k.print stream (text ++ more) =
    k.print stream text >>= fun
      | .error cause => pure (.error cause)
      | .ok () => k.print stream more
  executable : ∀ stream text t,
    (k.files (k.print stream text t).2).isExecutable = (k.files t).isExecutable

/-- Print the texts of a report, and end as it does. -/
def deliver (k : Desk τ) (r : Report) : StateM τ (Except Failure Nat × Context) :=
  match r.result with
  | .error failure => pure (.error failure, r.context)
  | .ok status => do
    match ← k.print .stdout r.stdout with
    | .error cause => pure (.error (.output cause), r.context)
    | .ok () => k.conclude .stderr r.stderr status r.context

variable {k : Desk τ} (h : k.Lawful) {d : Disk σ} {p : Part τ σ} (hk : k.toDisk = d.within p)
  (ctx : Context)
include h

lemma Lawful.describe (stream : OutputStream) (text : String) (t : τ) :
    Builtin.describe ctx (k.files (k.print stream text t).2) =
      Builtin.describe ctx (k.files t) := by
  funext name
  simp only [Builtin.describe, Context.findExecutable, h.executable]

lemma conclude_eq_deliver (stream : OutputStream) (text : String) (status : Nat) :
    k.conclude stream text status ctx =
      k.deliver { result := .ok status, stdout := stream.pick text ""
                  stderr := stream.pick "" text, context := ctx } := by
  cases stream with
  | stdout =>
    simp only [conclude, deliver, OutputStream.pick, h.print_empty]
    rfl
  | stderr =>
    simp only [conclude, deliver, OutputStream.pick, h.print_empty]
    rfl

/-- By induction over the names: the texts of the lines are as good as one text. -/
lemma type_eq_deliver {found : String → Builtin.Description} (names : List String) (status : Nat)
    (t : τ) (hfound : Builtin.describe ctx (k.files t) = found) :
    k.type ctx status names t =
      k.deliver
        { result := .ok (if names.any fun name => found name = .notFound then 1 else status)
          stdout := String.join (names.map fun name => (found name).line name)
          context := ctx } t := by
  induction names generalizing status t with
  | nil =>
    simp only [type, deliver, conclude, List.map_nil, String.join_nil, h.print_empty]
    rfl
  | cons name names ih =>
    have hafter := (h.describe ctx .stdout ((found name).line name) t).trans hfound
    rw [type, get_bind_apply, bind_apply, hfound]
    simp only [deliver, List.map_cons, String.join_cons, h.print_append, bind_assoc]
    rw [bind_apply]
    cases (k.print .stdout ((found name).line name) t).1 with
    | error cause => rfl
    | ok =>
      refine (ih _ _ hafter).trans ?_
      by_cases hname : found name = .notFound <;> simp [deliver, hname]

include hk

lemma exit_eq_report : k.exit ctx = p.lift (d.report fun desk => desk.exit ctx) >>= k.deliver := by
  funext t
  rw [exit, hk, Context.requestExit_within, bind_apply, bind_apply, Part.lift_apply,
    Part.lift_apply, Disk.report_exit]
  simp only [deliver, conclude, h.print_empty]
  rfl

lemma cd_eq_report (target : Option String) :
    k.cd target ctx = p.lift (d.report fun desk => desk.cd target ctx) >>= k.deliver := by
  have hfiles : ∀ t, k.files t = d.files (p.get t) := fun t => congrFun (congrArg Disk.files hk) t
  funext t
  rw [bind_apply, Part.lift_apply, Disk.report_cd, cd]
  cases Builtin.cdTarget? target ctx.home with
  | none =>
    rw [Part.set_get]
    rfl
  | some target =>
    dsimp only
    rw [get_bind_apply, hfiles]
    cases ctx.setWorkspace (d.files (p.get t)) target with
    | ok ctx =>
      simp only [Part.set_get, deliver, conclude, h.print_empty]
      rfl
    | error e =>
      dsimp only
      rw [Part.set_get, conclude_eq_deliver h]
      rfl

lemma history_eq_report (a : Arguments) :
    k.history a ctx = p.lift (d.report fun desk => desk.history a ctx) >>= k.deliver := by
  funext t
  rw [bind_apply, Part.lift_apply, Disk.report_history, history]
  split
  · rw [Part.set_get, conclude_eq_deliver h]
    rfl
  · rw [hk, Disk.operations_within, Disk.historyFiles_lift, bind_apply, Part.lift_apply]
    obtain ⟨⟨_ | _, ctx⟩, s⟩ := Desk.historyFiles a ctx d.operations (p.get t)
    · rfl
    · simp only [deliver, conclude, h.print_empty, Except.map]
      rfl

/-- What is done to the files is reported, and the texts come after it. -/
lemma act_eq_report (b : Builtin) (a : Arguments) :
    k.act b a ctx = p.lift (d.report fun desk => desk.act b a ctx) >>= k.deliver := by
  cases b with
  | echo | pwd =>
    funext t
    simp only [act]
    rw [bind_apply, Part.lift_apply, Disk.report_conclude, Part.set_get, conclude_eq_deliver h]
  | exit => exact exit_eq_report h hk ctx
  | type =>
    have hfiles : ∀ t, k.files t = d.files (p.get t) :=
      fun t => congrFun (congrArg Disk.files hk) t
    funext t
    simp only [act]
    rw [bind_apply, Part.lift_apply, Disk.report_type, Part.set_get, ← hfiles,
      type_eq_deliver h ctx a.positionals 0 t rfl]
  | cd => exact cd_eq_report h hk ctx a.positionals.head?
  | history => exact history_eq_report h hk ctx a

/-- A builtin does first what it reports, and prints then. -/
theorem execute_eq_report (b : Builtin) (args : List String) :
    k.execute b args ctx = p.lift (b.report d args ctx) >>= k.deliver := by
  funext t
  rw [bind_apply, Part.lift_apply, Builtin.report_eq, execute]
  cases b.parseArguments args with
  | error e =>
    dsimp only
    rw [Part.set_get, conclude_eq_deliver h]
    rfl
  | ok a =>
    dsimp only
    split
    · rw [Part.set_get, conclude_eq_deliver h]
      rfl
    · rw [act_eq_report h hk, bind_apply, Part.lift_apply]

end Desk

end Shell
