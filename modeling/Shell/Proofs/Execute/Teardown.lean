import Shell.Proofs.Execute.Isolation
import Shell.Proofs.Execute.Refusal

/-!
# Starting stages and bringing them to an end

What a host is asked while it runs several stages, with its answers, is written down in a record.
The record shows that no stage is left behind and none is waited for twice (`Host.stages_end`):
every stage that was started is waited for once, all but the last one after an attempt to stop it,
and a process is killed only after it was found to be running.
-/

namespace Shell

namespace Host

/-! ### Records -/

/-- An operation that a host was asked for, with its answer. -/
inductive Deed (ρ ω : Type)
  | makePipe (answer : Except IoError Nat)
  | spawn (command : Command) (streams : Streams) (ctx : Context) (answer : Except Error ρ)
  | isRunning (process : ρ) (answer : Bool)
  | kill (process : ρ)
  | wait (process : ρ) (answer : Except Error Nat)
  | work (builtin : Builtin) (command : Command) (streams : Streams) (ctx : Context)
      (answer : Except Error ω)
  | join (worker : ω) (answer : Except Error Nat)
  | perform (builtin : Builtin) (command : Command) (streams : Streams) (ctx : Context)
      (answer : Except Error Nat × Context)
  | report (error : Error)

variable {σ ρ ω : Type}

/-- Carry out an operation and write down what it answers. -/
def logged {α : Type} (operation : StateM σ α) (deed : α → Deed ρ ω) :
    StateM (σ × List (Deed ρ ω)) α := fun s =>
  let answer := operation s.1
  (answer.1, (answer.2, s.2 ++ [deed answer.1]))

/-- The host that does what `host` does and keeps a record of it. -/
def logging (host : Host σ ρ ω) : Host (σ × List (Deed ρ ω)) ρ ω where
  makePipe := logged host.makePipe .makePipe
  spawn command streams ctx := logged (host.spawn command streams ctx) (.spawn command streams ctx)
  isRunning p := logged (host.isRunning p) (.isRunning p)
  kill p := logged (host.kill p) fun _ => .kill p
  wait p := logged (host.wait p) (.wait p)
  work b command streams ctx :=
    logged (host.work b command streams ctx) (.work b command streams ctx)
  join w := logged (host.join w) (.join w)
  perform b command streams ctx :=
    logged (host.perform b command streams ctx) (.perform b command streams ctx)
  report e := logged (host.report e) fun _ => .report e

/-- The host that gives a process up once it was waited for: if the process is still running then it
is killed and waited for again. -/
def releasing (host : Host σ ρ ω) : Host σ ρ ω :=
  { host with
    wait := fun p => do
      let result ← host.wait p
      if ← host.isRunning p then
        host.kill p
        let _ ← host.wait p
      pure result }

/-! ### What is recorded -/

/-- `x'` does the same as `x`, and what it adds to the record is known. -/
def Does {α : Type} (x' : StateM (σ × List (Deed ρ ω)) α) (x : StateM σ α)
    (P : α → List (Deed ρ ω) → Prop) : Prop :=
  ∀ s log, ∃ deeds, x' (s, log) = ((x s).1, ((x s).2, log ++ deeds)) ∧ P (x s).1 deeds

section Does

variable {α β : Type} {x' : StateM (σ × List (Deed ρ ω)) α} {x : StateM σ α}

lemma does_pure {P : α → List (Deed ρ ω) → Prop} {a : α} (h : P a []) :
    Does (pure a) (pure a : StateM σ α) P := by
  intro s log
  refine ⟨[], ?_, h⟩
  rw [List.append_nil]
  rfl

lemma Does.bind {P : α → List (Deed ρ ω) → Prop} {Q : β → List (Deed ρ ω) → Prop}
    {k' : α → StateM (σ × List (Deed ρ ω)) β} {k : α → StateM σ β} (h : Does x' x P)
    (hk : ∀ a deeds, P a deeds → Does (k' a) (k a) fun b more => Q b (deeds ++ more)) :
    Does (x' >>= k') (x >>= k) Q := by
  intro s log
  obtain ⟨deeds, hx, hP⟩ := h s log
  obtain ⟨more, hy, hQ⟩ := hk _ _ hP (x s).2 (log ++ deeds)
  refine ⟨deeds ++ more, ?_, hQ⟩
  rw [bind_apply, hx, hy, bind_apply, List.append_assoc]

lemma Does.imp {P Q : α → List (Deed ρ ω) → Prop} (h : Does x' x P)
    (himp : ∀ a deeds, P a deeds → Q a deeds) : Does x' x Q := by
  intro s log
  obtain ⟨deeds, hx, hP⟩ := h s log
  exact ⟨deeds, hx, himp _ _ hP⟩

lemma does_logged (operation : StateM σ α) (deed : α → Deed ρ ω) :
    Does (logged operation deed) operation fun a deeds => deeds = [deed a] :=
  fun _ _ => ⟨_, rfl, rfl⟩

/-- What `P` says of the items of a list, one after the other. -/
inductive Each (P : α → List (Deed ρ ω) → Prop) : List α → List (Deed ρ ω) → Prop
  | nil : Each P [] []
  | cons {a : α} {as : List α} {deeds more : List (Deed ρ ω)} :
      P a deeds → Each P as more → Each P (a :: as) (deeds ++ more)

lemma does_forM {f' : α → StateM (σ × List (Deed ρ ω)) PUnit} {f : α → StateM σ PUnit}
    {P : α → List (Deed ρ ω) → Prop} (h : ∀ a, Does (f' a) (f a) fun _ => P a) (as : List α) :
    Does (as.forM f') (as.forM f) fun _ => Each P as := by
  induction as with
  | nil => exact does_pure .nil
  | cons a as ih => exact (h a).bind fun _ deeds hP => ih.imp fun _ more hmore => .cons hP hmore

end Does

/-! ### Stages -/

/-- What starting a stage results in. -/
inductive Starts (ctx : Context) (c : Command) (streams : Streams) :
    Except Error (Stage ρ ω) → List (Deed ρ ω) → Prop
  | program (answer : Except Error ρ) :
      Starts ctx c streams (answer.map .process) [.spawn c streams ctx answer]
  | builtin {b : Builtin} (hb : Builtin.ofName? c.displayName = some b) (answer : Except Error ω) :
      Starts ctx c streams (answer.map .worker) [.work b c streams ctx.detach answer]
  | unknown (hb : Builtin.ofName? c.displayName = none) :
      Starts ctx c streams (.error (.commandNotFound c.displayName)) []

/-- Stages that were all started, from left to right. -/
inductive StartsAll (ctx : Context) :
    List (Command × Streams) → List (Stage ρ ω) → List (Deed ρ ω) → Prop
  | nil : StartsAll ctx [] [] []
  | snoc {wired : List (Command × Streams)} {started : List (Stage ρ ω)}
      {deeds more : List (Deed ρ ω)} {c : Command} {streams : Streams} {stage : Stage ρ ω} :
      StartsAll ctx wired started deeds → Starts ctx c streams (.ok stage) more →
      StartsAll ctx (wired ++ [(c, streams)]) (started ++ [stage]) (deeds ++ more)

/-- What an attempt to stop a stage results in: a worker is left alone, and a process is killed if
it is still running. -/
inductive Cancels : Stage ρ ω → List (Deed ρ ω) → Prop
  | worker (w : ω) : Cancels (.worker w) []
  | ended (p : ρ) : Cancels (.process p) [.isRunning p false]
  | killed (p : ρ) : Cancels (.process p) [.isRunning p true, .kill p]

section

-- what is recorded of a process that is given up after it was waited for
variable (release : ρ → List (Deed ρ ω))

/-- What waiting for a stage leaves in the record. -/
def waiting (stage : Stage ρ ω) (result : Except Error Nat) : List (Deed ρ ω) :=
  match stage with
  | .process p => .wait p result :: release p
  | .worker w => [.join w result]

/-- What waiting for a stage before the last one results in: its error is reported. -/
inductive Reaps (stage : Stage ρ ω) : List (Deed ρ ω) → Prop
  | ok (status : Nat) : Reaps stage (waiting release stage (.ok status))
  | error (e : Error) : Reaps stage (waiting release stage (.error e) ++ [.report e])

/-- Attempts to stop all stages, and after that waiting for each of them once. -/
inductive Abandons (stages : List (Stage ρ ω)) : List (Deed ρ ω) → Prop
  | intro {deeds more : List (Deed ρ ω)} :
      Each Cancels stages deeds → Each (Reaps release) stages more → Abandons stages (deeds ++ more)

/-- What running several wired stages results in. -/
inductive Conducts (ctx : Context) (wired : List (Command × Streams)) :
    Except Error Nat → List (Deed ρ ω) → Prop
  /-- A stage could not be started. Those after it are not started, those before it are brought to
  an end, and its error is the result. -/
  | failed {before after : List (Command × Streams)} {started : List (Stage ρ ω)}
      {deeds start more : List (Deed ρ ω)} {c : Command} {streams : Streams} {e : Error} :
      wired = before ++ (c, streams) :: after → StartsAll ctx before started deeds →
      Starts ctx c streams (.error e : Except Error (Stage ρ ω)) start →
      Abandons release started more → Conducts ctx wired (.error e) (deeds ++ start ++ more)
  /-- All stages were started. The last one is waited for, which gives the result, and then the
  others are brought to an end. -/
  | finished {started : List (Stage ρ ω)} {last : Stage ρ ω} {deeds more : List (Deed ρ ω)}
      (result : Except Error Nat) :
      StartsAll ctx wired (started ++ [last]) deeds → Abandons release started more →
      Conducts ctx wired result (deeds ++ waiting release last result ++ more)

/-- What wiring stages results in: pipes are made, up to the first that cannot be made. -/
inductive Wires (stages : List Command) :
    Except Error (List Streams) → List (Deed ρ ω) → Prop
  | wired {wiring : List Streams} (pipes : List Nat) :
      wiring.length = stages.length → pipes.length = stages.length - 1 →
      Wires stages (.ok wiring) (pipes.map fun id => .makePipe (.ok id))
  | refused {c : Command} (pipes : List Nat) (e : IoError) : c ∈ stages →
      Wires stages (.error (.pipe c.displayName e))
        ((pipes.map fun id => .makePipe (.ok id)) ++ [.makePipe (.error e)])

/-- What running several stages results in. No stage is started if a pipe cannot be made. -/
inductive Ends (ctx : Context) (stages : List Command) :
    Except Error Nat → List (Deed ρ ω) → Prop
  | unwired {e : Error} {pipes : List (Deed ρ ω)} :
      Wires stages (.error e) pipes → Ends ctx stages (.error e) pipes
  | wired {wiring : List Streams} {pipes deeds : List (Deed ρ ω)} {result : Except Error Nat} :
      Wires stages (.ok wiring) pipes → Conducts release ctx (stages.zip wiring) result deeds →
      Ends ctx stages result (pipes ++ deeds)

end

/-! ### A host and its record -/

/-- What a host `host'` with a record adds to it when it does what `host` does. -/
structure Logs (host' : Host (σ × List (Deed ρ ω)) ρ ω) (host : Host σ ρ ω)
    (release : ρ → List (Deed ρ ω)) : Prop where
  makePipe : Does host'.makePipe host.makePipe fun answer deeds => deeds = [.makePipe answer]
  spawn : ∀ c streams ctx, Does (host'.spawn c streams ctx) (host.spawn c streams ctx)
    fun answer deeds => deeds = [.spawn c streams ctx answer]
  isRunning : ∀ p, Does (host'.isRunning p) (host.isRunning p)
    fun answer deeds => deeds = [.isRunning p answer]
  kill : ∀ p, Does (host'.kill p) (host.kill p) fun _ deeds => deeds = [.kill p]
  wait : ∀ p, Does (host'.wait p) (host.wait p)
    fun answer deeds => deeds = .wait p answer :: release p
  work : ∀ b c streams ctx, Does (host'.work b c streams ctx) (host.work b c streams ctx)
    fun answer deeds => deeds = [.work b c streams ctx answer]
  join : ∀ w, Does (host'.join w) (host.join w) fun answer deeds => deeds = [.join w answer]
  report : ∀ e, Does (host'.report e) (host.report e) fun _ deeds => deeds = [.report e]

lemma logs_logging (host : Host σ ρ ω) : Logs host.logging host fun _ => [] where
  makePipe := does_logged _ _
  spawn _ _ _ := does_logged _ _
  isRunning _ := does_logged _ _
  kill _ := does_logged _ fun _ => _
  wait _ := does_logged _ _
  work _ _ _ _ := does_logged _ _
  join _ := does_logged _ _
  report _ := does_logged _ fun _ => _

/-- A process that does not run any more after it was waited for is given up without more ado. -/
lemma wait_releasing {host : Host σ ρ ω} {p : ρ} {s : σ}
    (h : (host.isRunning p (host.wait p s).2).1 = false) :
    host.releasing.wait p s = ((host.wait p s).1, (host.isRunning p (host.wait p s).2).2) := by
  simp only [releasing, bind_apply, h]
  rfl

lemma logs_releasing {host : Host σ ρ ω}
    (h : ∀ p s, (host.isRunning p (host.wait p s).2).1 = false) :
    Logs host.logging.releasing host.releasing fun p => [.isRunning p false] :=
  { host.logs_logging with
    wait := by
      intro p s log
      have hended : (host.logging.isRunning p (host.logging.wait p (s, log)).2).1 = false := h p s
      have hlogging := wait_releasing hended
      refine ⟨[.wait p (host.wait p s).1, .isRunning p false], ?_, ?_⟩
      · rw [hlogging, wait_releasing (h p s)]
        simp only [logging, logged, h]
        simp
      · rw [wait_releasing (h p s)] }

section

variable {host' : Host (σ × List (Deed ρ ω)) ρ ω} {host : Host σ ρ ω}
  {release : ρ → List (Deed ρ ω)} (h : Logs host' host release)
include h

lemma Logs.cancel (stage : Stage ρ ω) :
    Does (host'.cancel stage) (host.cancel stage) fun _ => Cancels stage := by
  cases stage with
  | worker w => exact does_pure (.worker w)
  | process p =>
    refine (h.isRunning p).bind ?_
    rintro running _ rfl
    cases running with
    | false => exact does_pure (.ended p)
    | true =>
      refine (h.kill p).imp ?_
      rintro _ _ rfl
      exact .killed p

lemma Logs.waitFor (stage : Stage ρ ω) :
    Does (host'.waitFor stage) (host.waitFor stage)
      fun result deeds => deeds = waiting release stage result := by
  cases stage with
  | process p => exact h.wait p
  | worker w => exact h.join w

lemma Logs.reap (stage : Stage ρ ω) :
    Does (host'.reap stage) (host.reap stage) fun _ => Reaps release stage := by
  refine (h.waitFor stage).bind ?_
  rintro result _ rfl
  cases result with
  | ok status => exact does_pure (by simpa using Reaps.ok status)
  | error e =>
    refine (h.report e).imp ?_
    rintro _ _ rfl
    exact .error e

lemma Logs.abandon (stages : List (Stage ρ ω)) :
    Does (host'.abandon stages) (host.abandon stages) fun _ => Abandons release stages :=
  (does_forM h.cancel stages).bind fun _ _ hcancels =>
    (does_forM h.reap stages).imp fun _ _ hreaps => .intro hcancels hreaps

/-- The last stage is waited for first. -/
lemma Logs.finish (started : List (Stage ρ ω)) (last : Stage ρ ω) :
    Does (host'.finish (started ++ [last])) (host.finish (started ++ [last])) fun result deeds =>
      ∃ more, deeds = waiting release last result ++ more ∧ Abandons release started more := by
  simp only [Host.finish, List.getLast?_append, List.getLast?_singleton, List.dropLast_concat,
    Option.some_or]
  refine (h.waitFor last).bind ?_
  rintro result _ rfl
  refine (h.abandon started).bind ?_
  intro _ more hmore
  exact does_pure ⟨more, by simp, hmore⟩

lemma Logs.spawnStage (ctx : Context) (c : Command) (streams : Streams) :
    Does (host'.spawnStage ctx c streams) (host.spawnStage ctx c streams)
      (Starts ctx c streams) := by
  refine (h.spawn c streams ctx).bind ?_
  rintro answer _ rfl
  cases answer with
  | ok p => exact does_pure (.program (.ok p))
  | error e => exact does_pure (.program (.error e))

lemma Logs.launch (ctx : Context) (c : Command) (streams : Streams) :
    Does (host'.launch ctx c streams) (host.launch ctx c streams) (Starts ctx c streams) := by
  unfold Host.launch
  split
  · cases hb : Builtin.ofName? c.displayName with
    | none => exact does_pure (.unknown hb)
    | some b =>
      refine (h.work b c streams ctx.detach).bind ?_
      rintro answer _ rfl
      cases answer with
      | ok w => exact does_pure (.builtin hb (.ok w))
      | error e => exact does_pure (.builtin hb (.error e))
  · exact h.spawnStage ctx c streams

/-- By induction over the stages still to be started. -/
lemma Logs.startAll (ctx : Context) {before : List (Command × Streams)}
    {started : List (Stage ρ ω)} {deeds : List (Deed ρ ω)}
    (hbefore : StartsAll ctx before started deeds)
    (rest : List (Command × Streams)) (hne : before ++ rest ≠ []) :
    Does (host'.startAll (host'.launch ctx) started rest)
      (host.startAll (host.launch ctx) started rest)
      fun result more => Conducts release ctx (before ++ rest) result (deeds ++ more) := by
  induction rest generalizing before started deeds with
  | nil =>
    obtain ⟨started, last, rfl⟩ : ∃ started' last, started = started' ++ [last] := by
      cases hbefore with
      | nil => exact absurd rfl hne
      | snoc => exact ⟨_, _, rfl⟩
    refine (h.finish started last).imp ?_
    rintro result _ ⟨more, rfl, hmore⟩
    rw [List.append_nil, ← List.append_assoc]
    exact .finished result hbefore hmore
  | cons x rest ih =>
    obtain ⟨c, streams⟩ := x
    refine (h.launch ctx c streams).bind ?_
    intro result start hstart
    cases result with
    | ok stage =>
      have hsplit : before ++ (c, streams) :: rest = before ++ [(c, streams)] ++ rest := by simp
      rw [hsplit]
      refine (ih (hbefore.snoc hstart) (by simp)).imp ?_
      intro result more hmore
      rwa [List.append_assoc deeds] at hmore
    | error e =>
      refine (h.abandon started).bind ?_
      intro _ more hmore
      refine does_pure ?_
      rw [List.append_nil, ← List.append_assoc]
      exact .failed rfl hbefore hstart hmore

lemma Logs.wireFrom (input : Source) (output errors : Sink) (stages : List Command) :
    Does (host'.wireFrom input output errors stages) (host.wireFrom input output errors stages)
      (Wires stages) := by
  fun_induction host.wireFrom input output errors stages with
  | case1 => exact does_pure (.wired [] rfl rfl)
  | case2 => exact does_pure (.wired [] rfl rfl)
  | case3 input c next rest ih =>
    refine h.makePipe.bind ?_
    rintro answer _ rfl
    cases answer with
    | error e => exact does_pure (.refused [] e List.mem_cons_self)
    | ok pipe =>
      refine (ih pipe).bind ?_
      intro result deeds hwires
      cases hwires with
      | wired pipes hlength hpipes =>
        refine does_pure ?_
        rw [List.append_nil]
        exact .wired (pipe :: pipes) (by simp [hlength]) (by simp [hpipes])
      | refused pipes e hc =>
        refine does_pure ?_
        rw [List.append_nil]
        exact .refused (pipe :: pipes) e (List.mem_cons_of_mem c hc)

lemma Logs.runMixed (ctx : Context) {stages : List Command} (hne : stages ≠ [])
    (output errors : Sink) :
    Does (host'.runMixed stages output errors ctx) (host.runMixed stages output errors ctx)
      (Ends release ctx stages) := by
  refine (h.wireFrom .session output errors stages).bind ?_
  intro result pipes hwires
  cases result with
  | error e => exact does_pure (by simpa using Ends.unwired hwires)
  | ok wiring =>
    have hzip : stages.zip wiring ≠ [] := by
      cases hwires with
      | wired _ hlength =>
        rw [← List.length_pos_iff, List.length_zip, hlength, Nat.min_self]
        exact List.length_pos_iff.mpr hne
    refine (h.startAll ctx .nil _ hzip).imp ?_
    intro result deeds hdeeds
    exact .wired hwires hdeeds

end

/-! ### Counting starts and waits -/

namespace Deed

/-- The stage that was started. -/
def started? : Deed ρ ω → Option (Stage ρ ω)
  | .spawn _ _ _ (.ok p) => some (.process p)
  | .work _ _ _ _ (.ok w) => some (.worker w)
  | _ => none

/-- The stage that was waited for. -/
def waited? : Deed ρ ω → Option (Stage ρ ω)
  | .wait p _ => some (.process p)
  | .join w _ => some (.worker w)
  | _ => none

end Deed

/-- Every stage is waited for as often as it was started. -/
def Balanced (deeds : List (Deed ρ ω)) : Prop :=
  (deeds.filterMap Deed.waited?).Perm (deeds.filterMap Deed.started?)

/-- A process is killed only right after it was found to be running. -/
def KillsRunning (deeds : List (Deed ρ ω)) : Prop :=
  ∀ before p after, deeds = before ++ .kill p :: after →
    ∃ earlier, before = earlier ++ [.isRunning p true]

/-- What is recorded of giving a process up: it is not started, waited for or killed. -/
def IsIdle (deeds : List (Deed ρ ω)) : Prop :=
  ∀ d ∈ deeds, d.started? = none ∧ d.waited? = none ∧ ∀ p, d ≠ .kill p

lemma KillsRunning.append {a b : List (Deed ρ ω)} (ha : KillsRunning a) (hb : KillsRunning b) :
    KillsRunning (a ++ b) := by
  intro before p after heq
  rcases List.append_eq_append_iff.mp heq with ⟨c, rfl, hc⟩ | ⟨c, hc, hb'⟩
  · obtain ⟨earlier, rfl⟩ := hb _ _ _ hc
    exact ⟨a ++ earlier, by simp⟩
  · cases c with
    | nil =>
      obtain ⟨earlier, hnil⟩ := hb [] p after hb'.symm
      simp at hnil
    | cons d c =>
      obtain ⟨rfl, rfl⟩ := List.cons.inj hb'
      exact ha before p c hc

lemma killsRunning_of_not_mem {deeds : List (Deed ρ ω)} (h : ∀ d ∈ deeds, ∀ p, d ≠ .kill p) :
    KillsRunning deeds := by
  rintro before p after rfl
  exact absurd rfl (h (.kill p) (by simp) p)

/-- The stages that were started and waited for, where no process is killed that does not run. -/
structure Tally (deeds : List (Deed ρ ω)) (started waited : List (Stage ρ ω)) : Prop where
  started : deeds.filterMap Deed.started? = started
  waited : deeds.filterMap Deed.waited? = waited
  kills : KillsRunning deeds

lemma tally_of_no_kill {deeds : List (Deed ρ ω)} {started waited : List (Stage ρ ω)}
    (hstarted : deeds.filterMap Deed.started? = started)
    (hwaited : deeds.filterMap Deed.waited? = waited) (hkills : ∀ d ∈ deeds, ∀ p, d ≠ .kill p) :
    Tally deeds started waited :=
  ⟨hstarted, hwaited, killsRunning_of_not_mem hkills⟩

lemma Tally.append {a b : List (Deed ρ ω)} {started started' waited waited' : List (Stage ρ ω)}
    (ha : Tally a started waited) (hb : Tally b started' waited') :
    Tally (a ++ b) (started ++ started') (waited ++ waited') :=
  ⟨by rw [List.filterMap_append, ha.started, hb.started],
    by rw [List.filterMap_append, ha.waited, hb.waited], ha.kills.append hb.kills⟩

lemma Each.tally {P : Stage ρ ω → List (Deed ρ ω) → Prop} {stages : List (Stage ρ ω)}
    {deeds : List (Deed ρ ω)} (h : Each P stages deeds) {g : Stage ρ ω → List (Stage ρ ω)}
    (hP : ∀ stage deeds, P stage deeds → Tally deeds [] (g stage)) :
    Tally deeds [] (stages.flatMap g) := by
  induction h with
  | nil => exact tally_of_no_kill rfl rfl (by simp)
  | cons hstage _ ih => exact (hP _ _ hstage).append ih

lemma Cancels.tally {stage : Stage ρ ω} {deeds : List (Deed ρ ω)} (h : Cancels stage deeds) :
    Tally deeds [] [] := by
  cases h with
  | worker w => exact tally_of_no_kill rfl rfl (by simp)
  | ended p => exact tally_of_no_kill rfl rfl (by simp)
  | killed p =>
    refine ⟨rfl, rfl, ?_⟩
    intro before q after heq
    rcases before with _ | ⟨d, _ | ⟨d', before⟩⟩
    · simp at heq
    · obtain ⟨rfl, hkill⟩ := List.cons.inj heq
      obtain ⟨hkill, -⟩ := List.cons.inj hkill
      cases hkill
      exact ⟨[], rfl⟩
    · simp at heq

lemma Starts.tally {ctx : Context} {c : Command} {streams : Streams}
    {result : Except Error (Stage ρ ω)} {deeds : List (Deed ρ ω)}
    (h : Starts ctx c streams result deeds) :
    Tally deeds (match result with | .ok stage => [stage] | .error _ => []) [] := by
  cases h with
  | program answer => cases answer <;> exact tally_of_no_kill rfl rfl (by simp)
  | builtin hb answer => cases answer <;> exact tally_of_no_kill rfl rfl (by simp)
  | unknown hb => exact tally_of_no_kill rfl rfl (by simp)

lemma StartsAll.tally {ctx : Context} {wired : List (Command × Streams)}
    {started : List (Stage ρ ω)} {deeds : List (Deed ρ ω)}
    (h : StartsAll ctx wired started deeds) : Tally deeds started [] := by
  induction h with
  | nil => exact tally_of_no_kill rfl rfl (by simp)
  | snoc _ hstart ih => exact ih.append hstart.tally

lemma Wires.tally {stages : List Command} {result : Except Error (List Streams)}
    {deeds : List (Deed ρ ω)} (h : Wires stages result deeds) : Tally deeds [] [] := by
  have hpipes : ∀ pipes : List Nat, Tally
      (pipes.map fun id => (.makePipe (.ok id) : Deed ρ ω)) [] [] := by
    intro pipes
    refine tally_of_no_kill ?_ ?_ (by simp)
    · simp [List.filterMap_map, Function.comp_def, Deed.started?]
    · simp [List.filterMap_map, Function.comp_def, Deed.waited?]
  cases h with
  | wired pipes => exact hpipes pipes
  | refused pipes e => exact (hpipes pipes).append (tally_of_no_kill rfl rfl (by simp))

section

variable {release : ρ → List (Deed ρ ω)} (hrelease : ∀ p, IsIdle (release p))
include hrelease

lemma tally_waiting (stage : Stage ρ ω) (result : Except Error Nat) :
    Tally (waiting release stage result) [] [stage] := by
  cases stage with
  | worker w => exact tally_of_no_kill rfl rfl (by simp [waiting])
  | process p =>
    have hidle : Tally (release p) [] [] := by
      refine tally_of_no_kill ?_ ?_ fun d hd => (hrelease p d hd).2.2
      · exact List.filterMap_eq_nil_iff.mpr fun d hd => (hrelease p d hd).1
      · exact List.filterMap_eq_nil_iff.mpr fun d hd => (hrelease p d hd).2.1
    have hwait : Tally [(.wait p result : Deed ρ ω)] [] [.process p] :=
      tally_of_no_kill rfl rfl (by simp)
    exact hwait.append hidle

lemma Reaps.tally {stage : Stage ρ ω} {deeds : List (Deed ρ ω)} (h : Reaps release stage deeds) :
    Tally deeds [] [stage] := by
  cases h with
  | ok status => exact tally_waiting hrelease stage _
  | error e => exact (tally_waiting hrelease stage _).append (tally_of_no_kill rfl rfl (by simp))

lemma Abandons.tally {stages : List (Stage ρ ω)} {deeds : List (Deed ρ ω)}
    (h : Abandons release stages deeds) : Tally deeds [] stages := by
  cases h with
  | intro hcancels hreaps =>
    have hboth := (hcancels.tally (g := fun _ => []) fun _ _ h => h.tally).append
      (hreaps.tally (g := fun stage => [stage]) fun _ _ h => h.tally hrelease)
    have hnone : stages.flatMap (fun _ => ([] : List (Stage ρ ω))) = [] := by
      simp [List.flatMap_eq_nil_iff]
    simpa [hnone] using hboth

/-- The stages that were waited for are those that were started, in another order. -/
lemma Ends.tally {ctx : Context} {stages : List Command} {result : Except Error Nat}
    {deeds : List (Deed ρ ω)} (h : Ends release ctx stages result deeds) :
    Balanced deeds ∧ KillsRunning deeds := by
  have hof : ∀ {started waited : List (Stage ρ ω)}, Tally deeds started waited →
      waited.Perm started → Balanced deeds ∧ KillsRunning deeds := by
    rintro started waited ⟨rfl, rfl, hkills⟩ hperm
    exact ⟨hperm, hkills⟩
  cases h with
  | unwired hwires => exact hof hwires.tally (.refl _)
  | wired hwires hconducts =>
    cases hconducts with
    | failed _ hall hstart habandons =>
      refine hof (hwires.tally.append ((hall.tally.append hstart.tally).append
        (habandons.tally hrelease))) ?_
      simp
    | finished result hall habandons =>
      refine hof (hwires.tally.append ((hall.tally.append (tally_waiting hrelease _ _)).append
        (habandons.tally hrelease))) ?_
      simpa using (List.perm_append_singleton _ _).symm

end

/-! ### Running several stages -/

/-- A host `host'` with a record runs several stages as `host` does, and what it adds to the record
brings all stages to an end. -/
structure Settles (host' : Host (σ × List (Deed ρ ω)) ρ ω) (host : Host σ ρ ω)
    (release : ρ → List (Deed ρ ω)) (stages : List Command) (output errors : Sink) (ctx : Context)
    (s : σ) (log : List (Deed ρ ω)) : Prop where
  run : host'.runStages stages output errors ctx (s, []) =
    ((host.runStages stages output errors ctx s).1,
      ((host.runStages stages output errors ctx s).2, log))
  ends : Ends release ctx stages (host.runStages stages output errors ctx s).1.1 log
  balanced : Balanced log
  kills : KillsRunning log

lemma Logs.settles {host' : Host (σ × List (Deed ρ ω)) ρ ω} {host : Host σ ρ ω}
    {release : ρ → List (Deed ρ ω)} (h : Logs host' host release)
    (hrelease : ∀ p, IsIdle (release p)) {stages : List Command} (hmany : 2 ≤ stages.length)
    (output errors : Sink) (ctx : Context) (s : σ) :
    ∃ log, Settles host' host release stages output errors ctx s log := by
  have hne : stages ≠ [] := by
    rintro rfl
    simp at hmany
  obtain ⟨log, hrun, hends⟩ := h.runMixed ctx hne output errors s []
  obtain ⟨hbalanced, hkills⟩ := hends.tally hrelease
  refine ⟨log, ?_, ?_, hbalanced, hkills⟩
  · rw [host'.runStages_several ctx output errors hmany,
      host.runStages_several ctx output errors hmany, bind_apply, bind_apply, hrun]
    rfl
  · rw [host.runStages_several ctx output errors hmany]
    exact hends

/-- Two or more stages are run, by whatever strategy, on whatever host. If a stage cannot be started
then no stage after it is started, every stage before it is stopped if it still runs and after that
waited for once, and the result is the error of the stage. If all are started then the last one is
waited for before any other is stopped, the others are stopped and waited for in the same way, and
the result is that of the last one. The failure of a wait for a stage before the last one is
reported at once and changes no result. So every stage is waited for as often as it was started, and
only processes are killed that still run. None of this is different if a process is given up once it
was waited for, as long as it does not run any more by then. -/
theorem stages_end (host : Host σ ρ ω) {stages : List Command} (hmany : 2 ≤ stages.length)
    (output errors : Sink) (ctx : Context) (s : σ) :
    (∃ log, Settles host.logging host (fun _ => []) stages output errors ctx s log) ∧
    ((∀ p s, (host.isRunning p (host.wait p s).2).1 = false) →
      ∃ log, Settles host.logging.releasing host.releasing (fun p => [.isRunning p false]) stages
        output errors ctx s log) := by
  refine ⟨?_, fun hended => ?_⟩
  · exact host.logs_logging.settles (fun _ _ hd => by cases hd) hmany output errors ctx s
  · refine (logs_releasing hended).settles (fun p d hd => ?_) hmany output errors ctx s
    obtain rfl := List.mem_singleton.mp hd
    exact ⟨rfl, rfl, by simp⟩

/-- Three programs, the second of which cannot be started, while waiting for the first one fails. -/
theorem stages_end_unstarted :
    let program : String → Command := fun name =>
      { name, program := name, runnable := true, workspace := "/" }
    -- the state is made of the processes that have ended
    let host : Host (List String) String Unit :=
      { makePipe := fun ended => (.ok 0, ended)
        spawn := fun c _ _ ended =>
          if c.displayName = "bad" then (.error (.spawn "bad" .nulInArgument), ended)
          else (.ok c.displayName, ended)
        isRunning := fun p ended => (!ended.contains p, ended)
        kill := fun p ended => ((), p :: ended)
        wait := fun p ended => (.error (.wait p ""), p :: ended)
        work := fun _ _ _ _ ended => (.ok (), ended)
        join := fun _ ended => (.ok 0, ended)
        perform := fun _ _ _ ctx ended => ((.ok 0, ctx), ended)
        report := fun _ ended => ((), ended) }
    let ctx : Context := { workspace := .root }
    let stages := [program "first", program "bad", program "last"]
    ∃ log, Settles host.logging.releasing host.releasing (fun p => [.isRunning p false]) stages
        .sessionOut .sessionErr ctx [] log ∧
      log.drop 4 = [.isRunning "first" true, .kill "first",
        .wait "first" (.error (.wait "first" "")), .isRunning "first" false,
        .report (.wait "first" "")] := by
  intro program host ctx stages
  have hended : ∀ p s, (host.isRunning p (host.wait p s).2).1 = false := by
    intro p s
    simp [host]
  have hmany : 2 ≤ stages.length := by simp [stages]
  obtain ⟨log, hlog⟩ := (host.stages_end hmany .sessionOut .sessionErr ctx []).2 hended
  refine ⟨log, hlog, ?_⟩
  have hrecord : log = (host.logging.releasing.runStages stages .sessionOut .sessionErr ctx
      ([], [])).2.2 := by rw [hlog.run]
  rw [hrecord]
  rfl

end Host

end Shell
