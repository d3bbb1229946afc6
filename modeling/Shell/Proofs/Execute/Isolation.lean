import Mathlib.Tactic.Lemma
import Shell.Interpreter

/-!
# Pipelines of several stages leave the context alone

A pipeline of two or more stages, whatever its stages are, leaves the live context as it was. This
is shown for every host, so that a pipe that cannot be made, a stage that cannot be started and a
stage that fails are all included.

The two strategies for several stages are one: where all stages are programs, starting them as
programs is starting them as what they are. A host that is confined to a context refuses to carry
out a builtin on the live context and to start anything with another context than that one. Such a
host runs several stages as any host does: no builtin among them ever gets hold of the live context,
and none sees what another did to its own copy.
-/

namespace Shell

namespace Host

variable {σ ρ ω : Type} (host : Host σ ρ ω) (ctx : Context)

/-! ### One strategy for several stages -/

/-- Only the stages in the list matter for how stages are started. -/
lemma startAll_congr {start start' : Command → Streams → StateM σ (Except Error (Stage ρ ω))}
    {waiting : List (Command × Streams)}
    (h : ∀ x ∈ waiting, start x.1 x.2 = start' x.1 x.2) (started : List (Stage ρ ω)) :
    host.startAll start started waiting = host.startAll start' started waiting := by
  induction waiting generalizing started with
  | nil => rfl
  | cons x rest ih =>
    obtain ⟨command, streams⟩ := x
    have hx : start command streams = start' command streams := h _ List.mem_cons_self
    have hrest : ∀ started, host.startAll start started rest = host.startAll start' started rest :=
      ih fun y hy => h y (List.mem_cons_of_mem _ hy)
    simp only [startAll, hx, hrest]

/-- A program is started in the same way by both strategies. -/
lemma launch_program {command : Command} (h : command.builtin = false) (streams : Streams) :
    host.launch ctx command streams = host.spawnStage ctx command streams := by
  rw [launch, h]
  rfl

lemma runWired_congr {start start' : Command → Streams → StateM σ (Except Error (Stage ρ ω))}
    {stages : List Command} (h : ∀ c ∈ stages, ∀ streams, start c streams = start' c streams)
    (output errors : Sink) :
    host.runWired start stages output errors = host.runWired start' stages output errors := by
  have hstart : ∀ wiring : List Streams, host.startAll start [] (stages.zip wiring) =
      host.startAll start' [] (stages.zip wiring) := by
    intro wiring
    exact host.startAll_congr (fun x hx => h _ (List.of_mem_zip hx).1 x.2) []
  simp only [runWired, hstart]

lemma runExternal_eq_runMixed {stages : List Command} (output errors : Sink)
    (h : ∀ c ∈ stages, c.builtin = false) :
    host.runExternal stages output errors ctx = host.runMixed stages output errors ctx :=
  host.runWired_congr (fun c hc streams => (host.launch_program ctx (h c hc) streams).symm)
    output errors

/-- Several stages are run as stages of any kind, and the context is handed back untouched. -/
lemma runStages_several {stages : List Command} (output errors : Sink) (h : 2 ≤ stages.length) :
    host.runStages stages output errors ctx =
      (do let result ← host.runMixed stages output errors ctx; pure (result, ctx)) := by
  have hne : stages.length ≠ 1 := by omega
  by_cases hall : (stages.all fun c => !c.builtin) = true
  · -- the strategy is another one, but it starts the stages in the same way
    have hprograms : ∀ c ∈ stages, c.builtin = false := by simpa using hall
    rw [← host.runExternal_eq_runMixed ctx output errors hprograms]
    simp only [runStages, Strategy.of, if_neg hne, if_pos hall]
  · simp only [runStages, Strategy.of, if_neg hne, if_neg hall]

theorem runStages_context {stages : List Command} (output errors : Sink) (h : 2 ≤ stages.length)
    (s : σ) : (host.runStages stages output errors ctx s).1.2 = ctx := by
  rw [host.runStages_several ctx output errors h]
  rfl

lemma runStages_result {stages : List Command} (output errors : Sink) (h : 2 ≤ stages.length)
    (s : σ) : (host.runStages stages output errors ctx s).1 =
      ((host.runMixed stages output errors ctx s).1, ctx) := by
  rw [host.runStages_several ctx output errors h]
  rfl

lemma runStages_state {stages : List Command} (output errors : Sink) (h : 2 ≤ stages.length)
    (s : σ) : (host.runStages stages output errors ctx s).2 =
      (host.runMixed stages output errors ctx s).2 := by
  rw [host.runStages_several ctx output errors h]
  rfl

/-! ### Hosts that wire stages and bring them to an end in the same way -/

lemma wireFrom_of_makePipe {host' : Host σ ρ ω} (h : host'.makePipe = host.makePipe)
    (input : Source) (output errors : Sink) (stages : List Command) :
    host'.wireFrom input output errors stages = host.wireFrom input output errors stages := by
  fun_induction host.wireFrom input output errors stages with
  | case1 => rfl
  | case2 => rfl
  | case3 input command next rest ih => simp only [wireFrom, h, ih]

lemma startAll_of_teardown {host' : Host σ ρ ω} (hfinish : host'.finish = host.finish)
    (habandon : host'.abandon = host.abandon)
    (start : Command → Streams → StateM σ (Except Error (Stage ρ ω)))
    (started : List (Stage ρ ω)) (waiting : List (Command × Streams)) :
    host'.startAll start started waiting = host.startAll start started waiting := by
  induction waiting generalizing started with
  | nil => simp only [startAll, hfinish]
  | cons x rest ih =>
    obtain ⟨command, streams⟩ := x
    simp only [startAll, ih, habandon]

lemma runWired_of_teardown (host' : Host σ ρ ω) (hpipe : host'.makePipe = host.makePipe)
    (hfinish : host'.finish = host.finish) (habandon : host'.abandon = host.abandon)
    (start : Command → Streams → StateM σ (Except Error (Stage ρ ω))) (stages : List Command)
    (output errors : Sink) :
    host'.runWired start stages output errors = host.runWired start stages output errors := by
  simp only [runWired, wire, host.wireFrom_of_makePipe hpipe,
    host.startAll_of_teardown hfinish habandon]

/-! ### Hosts that are confined to a context -/

/-- The host that carries out no builtin on a live context, starts programs only with the context
`ctx`, and gives workers only its detached copy. What it refuses is not found. -/
def confine : Host σ ρ ω :=
  { host with
    spawn := fun command streams ctx' =>
      if ctx' = ctx then host.spawn command streams ctx'
      else pure (.error (.commandNotFound command.displayName))
    work := fun b command streams ctx' =>
      if ctx' = ctx.detach then host.work b command streams ctx'
      else pure (.error (.commandNotFound command.displayName))
    perform := fun _ command _ ctx' =>
      pure (.error (.commandNotFound command.displayName), ctx') }

/-- A stage of a pipeline is started with the context of the pipeline or its detached copy. -/
lemma launch_confine (command : Command) (streams : Streams) :
    (host.confine ctx).launch ctx command streams = host.launch ctx command streams := by
  simp only [launch, spawnStage, confine, if_true]

lemma runMixed_confine (stages : List Command) (output errors : Sink) :
    (host.confine ctx).runMixed stages output errors ctx =
      host.runMixed stages output errors ctx := by
  have hlaunch : (host.confine ctx).launch ctx = host.launch ctx := by
    funext command streams
    exact host.launch_confine ctx command streams
  rw [runMixed, hlaunch]
  exact host.runWired_of_teardown (host.confine ctx) rfl rfl rfl _ stages output errors

theorem runStages_confine {stages : List Command} (output errors : Sink)
    (h : 2 ≤ stages.length) :
    (host.confine ctx).runStages stages output errors ctx =
      host.runStages stages output errors ctx := by
  rw [runStages_several _ ctx output errors h, runStages_several _ ctx output errors h,
    runMixed_confine]

end Host

/-! ### Executing several stages -/

/-- A pipeline of two or more stages with no redirection, or with one whose target leads to no
command that can be run, so that it is a file. -/
def Pipeline.Isolated (p : Pipeline) (ctx : Context) (fs : FileSystem) : Prop :=
  2 ≤ p.stages.length ∧ ∀ r ∈ p.redirection, (ctx.resolve fs r.target).runnable = false

instance (p : Pipeline) (ctx : Context) (fs : FileSystem) : Decidable (p.Isolated ctx fs) :=
  inferInstanceAs (Decidable (_ ∧ _))

namespace Machine

variable (programs : Programs)

/-- The stages are not run if the file cannot be opened. -/
lemma runToFile_context {stages : List Command} (r : Redirection) (ctx : Context) (m : Machine)
    (h : 2 ≤ stages.length) : (runToFile programs stages r ctx m).1.2 = ctx := by
  rw [runToFile, get_bind_apply]
  cases m.files.openFile [] (ctx.resolvePath r.target).text (.write r.mode) with
  | error e => rfl
  | ok opened =>
    let sinks := redirected r.stream (.file opened.1 r.mode)
    exact (host programs).runStages_context ctx sinks.1 sinks.2 h { m with files := opened.2 }

lemma execute_context {p : Pipeline} {ctx : Context} {m : Machine} (h : p.Isolated ctx m.files) :
    (execute programs p ctx m).1.2 = ctx := by
  obtain ⟨hmany, hfile⟩ := h
  by_cases hnoop : p.isNoop = true
  · rw [execute, if_pos hnoop]
    rfl
  rw [execute, if_neg hnoop]
  cases p.stages.find? fun c => !c.runnable with
  | some c => rfl
  | none =>
    cases hr : p.redirection with
    | none => exact (host programs).runStages_context ctx _ _ hmany m
    | some r =>
      have htarget : ¬ (ctx.resolve m.files r.target).runnable = true := by
        rw [hfile r hr]
        decide
      dsimp only
      rw [get_bind_apply, if_neg htarget]
      exact runToFile_context programs r ctx m hmany

end Machine

/-! ### Lines with several stages -/

lemma Context.exiting_record (ctx : Context) (line : String) :
    (ctx.record line).exiting = ctx.exiting := by
  rw [record]

namespace Interpreter

variable (programs : Programs) (line : String) (sh : Interpreter)

lemma runLine_of_parse {p : Pipeline} {ctx : Context} {m : Machine}
    (h : Pipeline.parse ctx m.files line = .ok p) :
    runLine programs line ctx m = Machine.execute programs p ctx m := by
  rw [runLine, get_bind_apply, h]

/-- An error changes nothing about the context that the line left. -/
lemma context_evaluate :
    (sh.evaluate programs line).2.context =
      (runLine programs line (sh.context.record line) sh.machine).1.2 := by
  rcases hrun : runLine programs line (sh.context.record line) sh.machine with ⟨⟨result, ctx⟩, m⟩
  cases result <;> simp [evaluate, hrun]

lemma flow_evaluate : (sh.evaluate programs line).1 = (sh.evaluate programs line).2.flow := by
  rcases hrun : runLine programs line (sh.context.record line) sh.machine with ⟨⟨result, ctx⟩, m⟩
  simp only [evaluate, hrun]

lemma flow_eq_exit_iff : sh.flow = .exit ↔ sh.context.exiting = true := by
  simp [flow]

end Interpreter

namespace Pipeline

/-- A pipeline of several stages that does not go into a command leaves the live context as it was,
whatever its stages are and whatever they do. So a line that stands for one changes the context only
by being recorded, and it does not end the session. On any host the same holds of the stages by
themselves, and it makes no difference to them if the host is confined to the context. -/
theorem isolated_context (programs : Programs) :
    (∀ (p : Pipeline) (ctx : Context) (m : Machine), p.Isolated ctx m.files →
      (Machine.execute programs p ctx m).1.2 = ctx) ∧
    (∀ (line : String) (sh : Interpreter) (p : Pipeline),
      parse (sh.context.record line) sh.machine.files line = .ok p →
      p.Isolated (sh.context.record line) sh.machine.files →
      (sh.evaluate programs line).2.context = sh.context.record line ∧
      ((sh.evaluate programs line).1 = .exit ↔ sh.context.exiting = true)) ∧
    ∀ (σ ρ ω : Type) (host : Host σ ρ ω) (stages : List Command) (output errors : Sink)
      (ctx : Context) (s : σ), 2 ≤ stages.length →
      (host.runStages stages output errors ctx s).1.2 = ctx ∧
      (host.confine ctx).runStages stages output errors ctx s =
        host.runStages stages output errors ctx s := by
  refine ⟨fun p ctx m h => Machine.execute_context programs h, ?_, ?_⟩
  · intro line sh p hparse h
    have hctx : (sh.evaluate programs line).2.context = sh.context.record line := by
      rw [Interpreter.context_evaluate, Interpreter.runLine_of_parse programs line hparse]
      exact Machine.execute_context programs h
    refine ⟨hctx, ?_⟩
    rw [Interpreter.flow_evaluate, Interpreter.flow_eq_exit_iff, hctx, Context.exiting_record]
  · intro σ ρ ω host stages output errors ctx s h
    refine ⟨host.runStages_context ctx output errors h s, ?_⟩
    rw [host.runStages_confine ctx output errors h]

/-- Neither stage of `cd /tmp | exit` reaches the session. -/
theorem isolated_context_cd_exit :
    let files : FileSystem := { entries := [(["tmp"], .directory)] }
    let sh : Interpreter := { context := { workspace := .root }, machine := { files } }
    (sh.evaluate (fun _ _ => .exit 0) "cd /tmp | exit").1 ≠ .exit ∧
      (sh.evaluate (fun _ _ => .exit 0) "cd /tmp | exit").2.context =
        sh.context.record "cd /tmp | exit" := by
  intro files sh
  let cd : Command :=
    { name := "cd", args := ["/tmp"], builtin := true, runnable := true, workspace := "/" }
  let exit : Command := { name := "exit", builtin := true, runnable := true, workspace := "/" }
  have hparse : parse (sh.context.record "cd /tmp | exit") sh.machine.files "cd /tmp | exit" =
      .ok { stages := [cd, exit] } := rfl
  have hsh := (isolated_context fun _ _ => .exit 0).2.1 "cd /tmp | exit" sh _ hparse (by decide)
  have hgoing : sh.context.exiting ≠ true := by decide
  exact ⟨mt hsh.2.mp hgoing, hsh.1⟩

end Pipeline

end Shell
