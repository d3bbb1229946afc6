import Shell.Proofs.Execute.Refusal

/-!
# Strategies for programs

Stages that are all programs can be run by any strategy: spawned one after the other, launched as
stages of any kind, or, if there is only one, run in place. All of them ask the same of the host:
they are equal on every host, whatever it answers, and so also on one that records what it is asked
(`Host.strategies_agree`).
-/

namespace Shell

namespace Host

/-! ### What is asked of a host -/

/-- An operation that is asked of a host, with all that is handed over. -/
inductive Event (ρ ω : Type)
  | makePipe
  | spawn (command : Command) (streams : Streams) (ctx : Context)
  | isRunning (process : ρ)
  | kill (process : ρ)
  | wait (process : ρ)
  | work (builtin : Builtin) (command : Command) (streams : Streams) (ctx : Context)
  | join (worker : ω)
  | perform (builtin : Builtin) (command : Command) (streams : Streams) (ctx : Context)
  | report (error : Error)

variable {σ ρ ω : Type}

/-- Carry out an operation and record it. -/
def noting {α : Type} (event : Event ρ ω) (operation : StateM σ α) :
    StateM (σ × List (Event ρ ω)) α := fun s =>
  let answer := operation s.1
  (answer.1, (answer.2, s.2 ++ [event]))

/-- The host that does what `host` does, and records in order what it is asked. -/
def recording (host : Host σ ρ ω) : Host (σ × List (Event ρ ω)) ρ ω where
  makePipe := noting .makePipe host.makePipe
  spawn command streams ctx := noting (.spawn command streams ctx) (host.spawn command streams ctx)
  isRunning p := noting (.isRunning p) (host.isRunning p)
  kill p := noting (.kill p) (host.kill p)
  wait p := noting (.wait p) (host.wait p)
  work b command streams ctx := noting (.work b command streams ctx) (host.work b command streams ctx)
  join w := noting (.join w) (host.join w)
  perform b command streams ctx :=
    noting (.perform b command streams ctx) (host.perform b command streams ctx)
  report e := noting (.report e) (host.report e)

/-! ### Forgetting what was asked -/

/-- `a'` is `a` on a larger state, of which `a` sees what `view` shows. -/
def Extends {σ' α : Type} (view : σ' → σ) (a' : StateM σ' α) (a : StateM σ α) : Prop :=
  ∀ s, ((a' s).1, view (a' s).2) = a (view s)

section Extends

variable {σ' α β : Type} {view : σ' → σ}

lemma extends_pure (x : α) : Extends view (pure x) (pure x : StateM σ α) :=
  fun _ => rfl

lemma Extends.bind {a' : StateM σ' α} {a : StateM σ α} {k' : α → StateM σ' β} {k : α → StateM σ β}
    (h : Extends view a' a) (hk : ∀ x, Extends view (k' x) (k x)) :
    Extends view (a' >>= k') (a >>= k) := by
  intro s
  rw [bind_apply, bind_apply, ← h s]
  exact hk (a' s).1 (a' s).2

lemma extends_forM {f' : α → StateM σ' PUnit} {f : α → StateM σ PUnit}
    (h : ∀ x, Extends view (f' x) (f x)) (xs : List α) :
    Extends view (xs.forM f') (xs.forM f) := by
  induction xs with
  | nil => exact extends_pure _
  | cons x xs ih => exact (h x).bind fun _ => ih

end Extends

lemma extends_noting {α : Type} (event : Event ρ ω) (operation : StateM σ α) :
    Extends Prod.fst (noting event operation) operation :=
  fun _ => rfl

variable (host : Host σ ρ ω) (ctx : Context)

lemma extends_cancel (stage : Stage ρ ω) :
    Extends Prod.fst (host.recording.cancel stage) (host.cancel stage) := by
  cases stage with
  | worker w => exact extends_pure _
  | process p =>
    refine (extends_noting _ _).bind fun running => ?_
    split
    · exact extends_noting _ _
    · exact extends_pure _

lemma extends_waitFor (stage : Stage ρ ω) :
    Extends Prod.fst (host.recording.waitFor stage) (host.waitFor stage) := by
  cases stage <;> exact extends_noting _ _

lemma extends_abandon (stages : List (Stage ρ ω)) :
    Extends Prod.fst (host.recording.abandon stages) (host.abandon stages) := by
  have hreap : ∀ stage, Extends Prod.fst (host.recording.reap stage) (host.reap stage) := by
    intro stage
    refine (host.extends_waitFor stage).bind fun result => ?_
    cases result with
    | ok status => exact extends_pure _
    | error e => exact extends_noting _ _
  exact (extends_forM host.extends_cancel stages).bind fun _ => extends_forM hreap stages

lemma extends_finish (stages : List (Stage ρ ω)) :
    Extends Prod.fst (host.recording.finish stages) (host.finish stages) := by
  unfold finish
  cases stages.getLast? with
  | none => exact extends_pure _
  | some last =>
    refine (host.extends_waitFor last).bind fun result => ?_
    exact (host.extends_abandon _).bind fun _ => extends_pure _

/-- By induction over the stages still to be started. -/
lemma extends_startAll
    {start' : Command → Streams → StateM (σ × List (Event ρ ω)) (Except Error (Stage ρ ω))}
    {start : Command → Streams → StateM σ (Except Error (Stage ρ ω))}
    (h : ∀ c streams, Extends Prod.fst (start' c streams) (start c streams))
    (started : List (Stage ρ ω)) (waiting : List (Command × Streams)) :
    Extends Prod.fst (host.recording.startAll start' started waiting)
      (host.startAll start started waiting) := by
  induction waiting generalizing started with
  | nil => exact host.extends_finish started
  | cons x rest ih =>
    obtain ⟨command, streams⟩ := x
    refine (h command streams).bind fun result => ?_
    cases result with
    | ok stage => exact ih _
    | error e => exact (host.extends_abandon started).bind fun _ => extends_pure _

lemma extends_launch (command : Command) (streams : Streams) :
    Extends Prod.fst (host.recording.launch ctx command streams)
      (host.launch ctx command streams) := by
  unfold launch
  split
  · cases Builtin.ofName? command.displayName with
    | none => exact extends_pure _
    | some b =>
      refine (extends_noting _ _).bind fun result => ?_
      cases result <;> exact extends_pure _
  · refine (extends_noting _ _).bind fun result => ?_
    cases result <;> exact extends_pure _

lemma extends_wireFrom (input : Source) (output errors : Sink) (stages : List Command) :
    Extends Prod.fst (host.recording.wireFrom input output errors stages)
      (host.wireFrom input output errors stages) := by
  fun_induction host.wireFrom input output errors stages with
  | case1 => exact extends_pure _
  | case2 => exact extends_pure _
  | case3 input command next rest ih =>
    refine (extends_noting _ _).bind fun result => ?_
    cases result with
    | error e => exact extends_pure _
    | ok pipe =>
      refine (ih pipe).bind fun result => ?_
      cases result <;> exact extends_pure _

/-- Recording makes no difference to stages. -/
lemma extends_runMixed (stages : List Command) (output errors : Sink) :
    Extends Prod.fst (host.recording.runMixed stages output errors ctx)
      (host.runMixed stages output errors ctx) := by
  refine (host.extends_wireFrom .session output errors stages).bind fun result => ?_
  cases result with
  | error e => exact extends_pure _
  | ok wiring => exact host.extends_startAll (host.extends_launch ctx) [] _

/-! ### One program -/

lemma runner_of_program {c : Command} (hb : c.builtin = false) (hrunnable : c.runnable = true) :
    c.runner = .ok .external := by
  simp [Command.runner, hb, hrunnable]

/-- One program needs no pipe: it is spawned and waited for. -/
lemma runExternal_singleton (c : Command) (output errors : Sink) :
    host.runExternal [c] output errors ctx = (do
      match ← host.spawn c { input := .session, output, errors } ctx with
      | .error e => pure (.error e)
      | .ok p => host.wait p) := by
  funext s
  change host.startAll (host.spawnStage ctx) [] [(c, { input := .session, output, errors })] s = _
  simp only [startAll, spawnStage, bind_apply]
  cases (host.spawn c { input := .session, output, errors } ctx s).1 <;> rfl

/-- One program is run in place as it is run as the only stage of a pipeline. -/
lemma runSingle_program {c : Command} (hb : c.builtin = false) (hrunnable : c.runnable = true)
    (output errors : Sink) :
    host.runSingle c output errors ctx =
      (do let result ← host.runExternal [c] output errors ctx; pure (result, ctx)) := by
  funext s
  rw [runExternal_singleton]
  simp only [runSingle, runner_of_program hb hrunnable, bind_apply]
  cases (host.spawn c { input := .session, output, errors } ctx s).1 <;> rfl

/-! ### Any number of programs -/

/-- The strategies agree on stages: spawning them is launching them, and so is what the strategy
does that is chosen for them; if there is one stage only, it can also be run in place. The context
is left alone by all of them. -/
def Agrees (stages : List Command) (output errors : Sink) : Prop :=
  let mixed := host.runMixed stages output errors ctx
  host.runExternal stages output errors ctx = mixed ∧
    host.runStages stages output errors ctx = (do let result ← mixed; pure (result, ctx)) ∧
    ∀ c, stages = [c] →
      host.runSingle c output errors ctx = (do let result ← mixed; pure (result, ctx))

lemma agrees_of_programs {stages : List Command} (hne : stages ≠ [])
    (h : ∀ c ∈ stages, c.builtin = false ∧ c.runnable = true) (output errors : Sink) :
    host.Agrees ctx stages output errors := by
  have hmixed : host.runExternal stages output errors ctx =
      host.runMixed stages output errors ctx :=
    host.runExternal_eq_runMixed ctx output errors fun c hc => (h c hc).1
  rw [Agrees, ← hmixed]
  rcases stages with _ | ⟨c, _ | ⟨next, rest⟩⟩
  · exact absurd rfl hne
  · obtain ⟨hb, hrunnable⟩ := h c List.mem_cons_self
    have hsingle := host.runSingle_program ctx hb hrunnable output errors
    refine ⟨rfl, hsingle, ?_⟩
    rintro _ ⟨⟩
    exact hsingle
  · refine ⟨rfl, ?_, by rintro _ ⟨⟩⟩
    rw [hmixed]
    exact host.runStages_several ctx output errors (by simp)

/-- Stages that are all programs are run alike by every strategy, on every host and so whatever the
starts and waits of stages result in. What the host is asked is the same as well, in the same order
and with the same streams: a host that records it, and that otherwise makes no difference, has the
same record. -/
theorem strategies_agree {stages : List Command} (hne : stages ≠ [])
    (h : ∀ c ∈ stages, c.builtin = false ∧ c.runnable = true) (output errors : Sink) :
    host.Agrees ctx stages output errors ∧ host.recording.Agrees ctx stages output errors ∧
      Extends Prod.fst (host.recording.runMixed stages output errors ctx)
        (host.runMixed stages output errors ctx) :=
  ⟨host.agrees_of_programs ctx hne h output errors,
    host.recording.agrees_of_programs ctx hne h output errors,
    host.extends_runMixed ctx stages output errors⟩

/-- Three programs, the second of which cannot be started, and the first of them alone. -/
theorem strategies_agree_unstarted :
    let program : String → Command := fun name =>
      { name, program := name, runnable := true, workspace := "/" }
    let host : Host Nat String Unit :=
      { makePipe := fun n => (.ok n, n + 1)
        spawn := fun c _ _ n =>
          if c.displayName = "bad" then (.error (.spawn "bad" .nulInArgument), n)
          else (.ok c.displayName, n)
        isRunning := fun _ n => (true, n)
        kill := fun _ n => ((), n)
        wait := fun _ n => (.ok 0, n)
        work := fun _ _ _ _ n => (.ok (), n)
        join := fun _ n => (.ok 0, n)
        perform := fun _ _ _ ctx n => ((.ok 0, ctx), n)
        report := fun _ n => ((), n) }
    let ctx : Context := { workspace := .root }
    let stages := [program "first", program "bad", program "last"]
    host.recording.runExternal stages .sessionOut .sessionErr ctx (0, []) =
        host.recording.runMixed stages .sessionOut .sessionErr ctx (0, []) ∧
      (host.runMixed stages .sessionOut .sessionErr ctx 0).1 =
        .error (.spawn "bad" .nulInArgument) ∧
      host.runSingle (program "first") .sessionOut .sessionErr ctx 0 = ((.ok 0, ctx), 0) := by
  intro program host ctx stages
  have hthree : ∀ c ∈ stages, c.builtin = false ∧ c.runnable = true := by
    simp [stages, program]
  have hone : ∀ c ∈ [program "first"], c.builtin = false ∧ c.runnable = true := by
    simp [program]
  have hrecord := (host.strategies_agree ctx (by simp [stages]) hthree .sessionOut .sessionErr).2.1
  have halone := (host.strategies_agree ctx (by simp) hone .sessionOut .sessionErr).1
  refine ⟨congrFun hrecord.1 (0, []), rfl, ?_⟩
  rw [halone.2.2 _ rfl]
  rfl

end Host
end Shell
