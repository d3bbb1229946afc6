import Shell.Proofs.Execute.Refusal

/-!
# Invariants of several stages

What every operation of a host leaves true is true after any number of stages were run. A builtin
among them is given to a worker, with a detached context and with streams of which this much is
known: the last stage writes where the pipeline writes, and the others write to a pipe.
-/

namespace Shell

/-- The streams of one stage of a pipeline that writes to these sinks. -/
def Streams.Within (output errors : Sink) (s : Streams) : Prop :=
  (s.output = output ∧ s.errors = errors) ∨ (∃ id, s.output = .pipe id) ∧ s.errors = .sessionErr

namespace Host

variable {σ ρ ω : Type}

/-- The operations of a host leave `P` true when they start the stages of a pipeline with the
context `ctx`. Of the builtins among the stages and their streams `Q` is known. -/
structure Preserves (host : Host σ ρ ω) (ctx : Context) (P : σ → Prop)
    (Q : Command → Streams → Prop) : Prop where
  makePipe : ∀ s, P s → P (host.makePipe s).2
  spawn : ∀ command streams s, P s → P (host.spawn command streams ctx s).2
  isRunning : ∀ p s, P s → P (host.isRunning p s).2
  kill : ∀ p s, P s → P (host.kill p s).2
  wait : ∀ p s, P s → P (host.wait p s).2
  work : ∀ b command streams s, Builtin.ofName? command.displayName = some b →
    Q command streams → P s → P (host.work b command streams ctx.detach s).2
  join : ∀ w s, P s → P (host.join w s).2
  report : ∀ e s, P s → P (host.report e s).2

lemma forM_preserves {α : Type} {P : σ → Prop} {f : α → StateM σ PUnit}
    (hf : ∀ a s, P s → P (f a s).2) (xs : List α) (s : σ) (hs : P s) : P (xs.forM f s).2 := by
  induction xs generalizing s with
  | nil => exact hs
  | cons x xs ih => exact ih _ (hf x s hs)

variable {host : Host σ ρ ω} {ctx : Context} {P : σ → Prop} {Q : Command → Streams → Prop}
  (h : host.Preserves ctx P Q)
include h

lemma cancel_preserves (stage : Stage ρ ω) (s : σ) (hs : P s) : P (host.cancel stage s).2 := by
  cases stage with
  | worker w => exact hs
  | process p =>
    have hrunning := h.isRunning p s hs
    rw [cancel, bind_apply]
    split
    · exact h.kill p _ hrunning
    · exact hrunning

lemma waitFor_preserves (stage : Stage ρ ω) (s : σ) (hs : P s) : P (host.waitFor stage s).2 := by
  cases stage with
  | process p => exact h.wait p s hs
  | worker w => exact h.join w s hs

lemma reap_preserves (stage : Stage ρ ω) (s : σ) (hs : P s) : P (host.reap stage s).2 := by
  have hwait := waitFor_preserves h stage s hs
  rw [reap, bind_apply]
  cases (host.waitFor stage s).1 with
  | ok status => exact hwait
  | error e => exact h.report e _ hwait

lemma abandon_preserves (stages : List (Stage ρ ω)) (s : σ) (hs : P s) :
    P (host.abandon stages s).2 :=
  forM_preserves (reap_preserves h) stages _ (forM_preserves (cancel_preserves h) stages s hs)

lemma finish_preserves (stages : List (Stage ρ ω)) (s : σ) (hs : P s) :
    P (host.finish stages s).2 := by
  rw [finish]
  cases stages.getLast? with
  | none => exact hs
  | some last => exact abandon_preserves h _ _ (waitFor_preserves h last s hs)

/-- By induction over the stages still to be started. As long as each could be started `T` holds. -/
lemma startAll_preserves_while {T : σ → Prop} (hT : ∀ s, T s → P s)
    {start : Command → Streams → StateM σ (Except Error (Stage ρ ω))}
    {waiting : List (Command × Streams)}
    (hstart : ∀ x ∈ waiting, ∀ s, T s → P (start x.1 x.2 s).2 ∧
      ∀ stage, (start x.1 x.2 s).1 = .ok stage → T (start x.1 x.2 s).2)
    (started : List (Stage ρ ω)) (s : σ) (hs : T s) :
    P (host.startAll start started waiting s).2 := by
  induction waiting generalizing started s with
  | nil => exact finish_preserves h started s (hT s hs)
  | cons x rest ih =>
    obtain ⟨command, streams⟩ := x
    obtain ⟨hfirst, hok⟩ := hstart _ List.mem_cons_self s hs
    rw [startAll, bind_apply]
    cases hresult : (start command streams s).1 with
    | ok stage =>
      exact ih (fun y hy => hstart y (List.mem_cons_of_mem _ hy)) _ _ (hok stage hresult)
    | error e => exact abandon_preserves h started _ hfirst

lemma startAll_preserves {start : Command → Streams → StateM σ (Except Error (Stage ρ ω))}
    {waiting : List (Command × Streams)}
    (hstart : ∀ x ∈ waiting, ∀ s, P s → P (start x.1 x.2 s).2) (started : List (Stage ρ ω)) (s : σ)
    (hs : P s) : P (host.startAll start started waiting s).2 :=
  startAll_preserves_while h (fun _ => id)
    (fun x hx s hs => ⟨hstart x hx s hs, fun _ _ => hstart x hx s hs⟩) started s hs

lemma spawnStage_preserves (command : Command) (streams : Streams) (s : σ) (hs : P s) :
    P (host.spawnStage ctx command streams s).2 := by
  have hspawn := h.spawn command streams s hs
  rw [spawnStage, bind_apply]
  cases (host.spawn command streams ctx s).1 <;> exact hspawn

lemma launch_preserves {command : Command} {streams : Streams} (hok : Q command streams) (s : σ)
    (hs : P s) : P (host.launch ctx command streams s).2 := by
  rw [launch]
  split
  · cases hb : Builtin.ofName? command.displayName with
    | none => exact hs
    | some b =>
      have hwork := h.work b command streams s hb hok hs
      dsimp only
      rw [bind_apply]
      cases (host.work b command streams ctx.detach s).1 <;> exact hwork
  · exact spawnStage_preserves h command streams s hs

lemma wireFrom_preserves (input : Source) (output errors : Sink) (stages : List Command) (s : σ)
    (hs : P s) :
    P (host.wireFrom input output errors stages s).2 ∧
      ∀ wiring, (host.wireFrom input output errors stages s).1 = .ok wiring →
        ∀ streams ∈ wiring, streams.Within output errors := by
  fun_induction host.wireFrom input output errors stages generalizing s with
  | case1 =>
    refine ⟨hs, ?_⟩
    rintro wiring ⟨⟩ streams hstreams
    cases hstreams
  | case2 =>
    refine ⟨hs, ?_⟩
    rintro wiring ⟨⟩ streams hstreams
    obtain rfl := List.mem_singleton.mp hstreams
    exact .inl ⟨rfl, rfl⟩
  | case3 input command next rest ih =>
    have hpipe := h.makePipe s hs
    rw [bind_apply]
    cases (host.makePipe s).1 with
    | error e =>
      refine ⟨hpipe, ?_⟩
      rintro wiring ⟨⟩
    | ok pipe =>
      obtain ⟨hrest, hwithin⟩ := ih pipe (host.makePipe s).2 hpipe
      dsimp only
      rw [bind_apply]
      cases hwire : (host.wireFrom (.pipe pipe) output errors (next :: rest)
          (host.makePipe s).2).1 with
      | error e =>
        refine ⟨hrest, ?_⟩
        rintro wiring ⟨⟩
      | ok wiring =>
        refine ⟨hrest, ?_⟩
        rintro wiring' ⟨⟩ streams hstreams
        rcases List.mem_cons.mp hstreams with rfl | hstreams
        · -- only the last stage is given the sinks of the pipeline
          exact .inr ⟨⟨pipe, rfl⟩, rfl⟩
        · exact hwithin wiring hwire streams hstreams

/-- What the operations of a host leave true is true after stages were run as stages of a
pipeline. -/
theorem runMixed_preserves {stages : List Command} {output errors : Sink}
    (hok : ∀ c ∈ stages, ∀ streams : Streams, streams.Within output errors → Q c streams) (s : σ)
    (hs : P s) : P (host.runMixed stages output errors ctx s).2 := by
  obtain ⟨hwired, hwithin⟩ := wireFrom_preserves h .session output errors stages s hs
  rw [runMixed, runWired, bind_apply]
  cases hwire : (host.wire stages output errors s).1 with
  | error e => exact hwired
  | ok wiring =>
    refine startAll_preserves h (fun x hx s hs => ?_) [] _ hwired
    obtain ⟨hc, hstreams⟩ := List.of_mem_zip hx
    exact launch_preserves h (hok x.1 hc x.2 (hwithin wiring hwire x.2 hstreams)) s hs

end Host

end Shell
