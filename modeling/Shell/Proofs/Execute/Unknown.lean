import Shell.Proofs.Execute.Moments

/-!
# Commands that are not found

A pipeline is refused because of an unknown command exactly if one of its names is neither that of a
builtin nor leads to a program, and the first such name is the one that is reported:
`Pipeline.execute_unknown`.

Three more places could report an unknown command: the choice of a runner for a single stage, the
look-up of a builtin that is to be a stage among several, and the start of a program. None of them
is ever reached, neither for the stages of a line nor for the command that takes their words. To say
so, executing is defined once more with any error in these three places (`Machine.executeElse`): it
makes no difference which error stands there.
-/

namespace Shell

/-! ### Unknown names -/

/-- A name that is not that of a builtin and leads to no program. -/
def Context.Unknown (ctx : Context) (fs : FileSystem) (name : String) : Prop :=
  name ∉ Builtin.names ∧ ctx.findExecutable fs name = none

instance (ctx : Context) (fs : FileSystem) (name : String) : Decidable (ctx.Unknown fs name) :=
  inferInstanceAs (Decidable (_ ∧ _))

lemma Context.runnable_resolve (ctx : Context) (fs : FileSystem) (name : String) :
    (ctx.resolve fs name).runnable = false ↔ ctx.Unknown fs name := by
  rw [Unknown, ← Builtin.isSome_ofName?_iff]
  simp [resolve]

/-- Nothing is missing to carry out the command: it has a runner, which is a builtin of its name, or
it has a program. -/
def Command.IsReady (c : Command) : Prop :=
  (∃ b, c.runner = .ok (.builtin b) ∧ Builtin.ofName? c.displayName = some b) ∨
    c.runner = .ok .external ∧ c.program.isSome = true

lemma Command.Found.isReady {c : Command} (h : c.Found) (hrunnable : c.runnable = true) :
    c.IsReady := by
  rw [Found] at h
  cases hb : c.builtin with
  | true =>
    rw [if_pos hb] at h
    obtain ⟨b, hname⟩ := h
    refine .inl ⟨b, ?_, ?_⟩
    · simp [runner, hrunnable, hb, hname]
    · simp [displayName, hname]
  | false =>
    rw [if_neg (by simp [hb])] at h
    exact .inr ⟨by simp [runner, hrunnable, hb], h⟩

namespace Pipeline

/-- `name` is the first among the names of the stages that is unknown. -/
def FirstUnknown (p : Pipeline) (ctx : Context) (fs : FileSystem) (name : String) : Prop :=
  ∃ before c after, p.stages = before ++ c :: after ∧ c.name = some name ∧ ctx.Unknown fs name ∧
    ∀ b ∈ before, ∀ other, b.name = some other → ¬ ctx.Unknown fs other

/-- A stage can be run unless its name is unknown. -/
lemma runnable_of_parse {ctx : Context} {fs : FileSystem} {line : String} {p : Pipeline}
    (h : parse ctx fs line = .ok p) {c : Command} (hc : c ∈ p.stages) {name : String}
    (hname : c.name = some name) : c.runnable = false ↔ ctx.Unknown fs name := by
  rw [← ctx.runnable_resolve]
  rw [parse] at h
  split at h
  · cases h
  · cases h
    obtain ⟨ws, -, rfl⟩ := List.mem_map.mp hc
    cases ws with
    | nil => cases hname
    | cons name args => cases hname; rfl

lemma exists_name {p : Pipeline} (h : p.isNoop = false) {c : Command} (hc : c ∈ p.stages) :
    ∃ name, c.name = some name := by
  rw [isNoop, Bool.or_eq_false_iff] at h
  have hc' := List.any_eq_false.mp h.2 c hc
  exact Option.ne_none_iff_exists'.mp (by simpa using hc')

/-- The first unknown name is that of the first stage that cannot be run. -/
lemma firstUnknown_iff {ctx : Context} {fs : FileSystem} {line : String} {p : Pipeline}
    (hparse : parse ctx fs line = .ok p) (hrun : p.isNoop = false) (name : String) :
    p.FirstUnknown ctx fs name ↔
      ∃ c, p.stages.find? (fun c => !c.runnable) = some c ∧ c.name = some name := by
  simp only [List.find?_eq_some_iff_append]
  constructor
  · rintro ⟨before, c, after, hstages, hname, hunknown, hbefore⟩
    have hmem : ∀ b ∈ before ++ c :: after, b ∈ p.stages := fun b hb => hstages ▸ hb
    refine ⟨c, ⟨?_, before, after, hstages, fun b hb => ?_⟩, hname⟩
    · simpa using (runnable_of_parse hparse (hmem c (by simp)) hname).mpr hunknown
    · have hb' := hmem b (List.mem_append_left _ hb)
      obtain ⟨other, hother⟩ := exists_name hrun hb'
      have hknown := mt (runnable_of_parse hparse hb' hother).mp (hbefore b hb other hother)
      simpa using hknown
  · rintro ⟨c, ⟨hc, before, after, hstages, hbefore⟩, hname⟩
    have hmem : ∀ b ∈ before ++ c :: after, b ∈ p.stages := fun b hb => hstages ▸ hb
    refine ⟨before, c, after, hstages, hname, ?_, fun b hb other hother hunknown => ?_⟩
    · exact (runnable_of_parse hparse (hmem c (by simp)) hname).mp (by simpa using hc)
    · have hb' := hmem b (List.mem_append_left _ hb)
      have hnot := (runnable_of_parse hparse hb' hother).mpr hunknown
      simpa [hnot] using hbefore b hb

end Pipeline

/-! ### Another error in place of the late ones -/

lemma Strategy.builtin_of_external {stages : List Command} (h : Strategy.of stages = .external) :
    ∀ c ∈ stages, c.builtin = false := by
  unfold Strategy.of at h
  split at h
  · cases h
  split at h
  · rename_i hall
    simpa using hall
  · cases h

namespace Host

variable {σ ρ ω : Type} (host : Host σ ρ ω) (late : Command → Error)

/-- The host on which a command without a program fails with `late`. -/
def spawnElse : Host σ ρ ω :=
  { host with
    spawn := fun command streams ctx =>
      if command.program.isSome then host.spawn command streams ctx
      else pure (.error (late command)) }

/-- Start a command as a stage; a builtin that is not there fails with `late`. -/
def launchElse (ctx : Context) (command : Command) (streams : Streams) :
    StateM σ (Except Error (Stage ρ ω)) := do
  if command.builtin then
    match Builtin.ofName? command.displayName with
    | none => pure (.error (late command))
    | some b =>
      match ← host.work b command streams ctx.detach with
      | .ok w => pure (.ok (.worker w))
      | .error e => pure (.error e)
  else host.spawnStage ctx command streams

/-- Run one stage in place; one without a runner fails with `late`. -/
def runSingleElse (command : Command) (output errors : Sink) (ctx : Context) :
    StateM σ (Except Error Nat × Context) :=
  match command.runner with
  | .error _ => pure (.error (late command), ctx)
  | .ok _ => host.runSingle command output errors ctx

/-- Run stages, with `late` wherever a command turns out not to be there. -/
def runStagesElse (stages : List Command) (output errors : Sink) (ctx : Context) :
    StateM σ (Except Error Nat × Context) :=
  let host := host.spawnElse late
  match Strategy.of stages with
  | .single =>
    match stages with
    | [] => pure (.ok 0, ctx)
    | command :: _ => host.runSingleElse late command output errors ctx
  | .external => do
    let result ← host.runExternal stages output errors ctx
    pure (result, ctx)
  | .mixed => do
    let result ← host.runWired (host.launchElse late ctx) stages output errors
    pure (result, ctx)

variable {late}

lemma spawnStage_spawnElse {command : Command} (h : command.program.isSome = true) (ctx : Context)
    (streams : Streams) :
    (host.spawnElse late).spawnStage ctx command streams =
      host.spawnStage ctx command streams := by
  simp only [spawnStage, spawnElse, if_pos h]

/-- A command that was found is launched without a late error. -/
lemma launchElse_of_found {command : Command} (h : command.Found) (ctx : Context)
    (streams : Streams) :
    (host.spawnElse late).launchElse late ctx command streams =
      host.launch ctx command streams := by
  rw [Command.Found] at h
  cases hb : command.builtin with
  | true =>
    rw [if_pos hb] at h
    obtain ⟨b, hname⟩ := h
    have hlookup : Builtin.ofName? command.displayName = some b := by
      simp [Command.displayName, hname]
    simp only [launchElse, launch, hb, hlookup, if_true]
    rfl
  | false =>
    rw [if_neg (by simp [hb])] at h
    rw [host.launch_program ctx hb, ← host.spawnStage_spawnElse h, launchElse, hb]
    rfl

lemma runSingleElse_of_found {command : Command} (h : command.Found)
    (hrunnable : command.runnable = true) (output errors : Sink) (ctx : Context) :
    (host.spawnElse late).runSingleElse late command output errors ctx =
      host.runSingle command output errors ctx := by
  rcases h.isReady hrunnable with ⟨b, hrunner, -⟩ | ⟨hrunner, hprogram⟩
  · simp only [runSingleElse, runSingle, hrunner]
    rfl
  · simp only [runSingleElse, runSingle, hrunner, spawnElse, if_pos hprogram]

/-- Stages that were found are run without a late error, whatever the strategy. -/
theorem runStagesElse_of_found {stages : List Command}
    (h : ∀ c ∈ stages, c.Found ∧ c.runnable = true) (output errors : Sink) (ctx : Context) :
    host.runStagesElse late stages output errors ctx =
      host.runStages stages output errors ctx := by
  have hwired : ∀ start, (host.spawnElse late).runWired start stages output errors =
      host.runWired start stages output errors :=
    fun start =>
      host.runWired_of_teardown (host.spawnElse late) rfl rfl rfl start stages output errors
  unfold runStagesElse runStages
  cases hstrategy : Strategy.of stages with
  | single =>
    cases stages with
    | nil => rfl
    | cons command rest =>
      obtain ⟨hfound, hrunnable⟩ := h command List.mem_cons_self
      exact host.runSingleElse_of_found hfound hrunnable output errors ctx
  | external =>
    have hstart : ∀ c ∈ stages, ∀ streams, (host.spawnElse late).spawnStage ctx c streams =
        host.spawnStage ctx c streams := by
      intro c hc streams
      have hb := Strategy.builtin_of_external hstrategy c hc
      have hprogram : c.program.isSome = true := by simpa [Command.Found, hb] using (h c hc).1
      exact host.spawnStage_spawnElse hprogram ctx streams
    simp only [runExternal, hwired, host.runWired_congr hstart]
  | mixed =>
    have hstart : ∀ c ∈ stages, ∀ streams, (host.spawnElse late).launchElse late ctx c streams =
        host.launch ctx c streams :=
      fun c hc streams => host.launchElse_of_found (h c hc).1 ctx streams
    simp only [runMixed, hwired, host.runWired_congr hstart]

end Host

namespace Machine

variable (programs : Programs)

/-- Execute a pipeline, with `late` wherever a command turns out not to be there after all stages
were found. -/
def executeElse (late : Command → Error) (p : Pipeline) (ctx : Context) (m : Machine) :
    (Except Error Nat × Context) × Machine :=
  executeBy ((host programs).runStagesElse late) p ctx m

/-- The error that stands in these places. -/
def notFound (c : Command) : Error :=
  .commandNotFound c.displayName

lemma spawnElse_notFound : (host programs).spawnElse notFound = host programs := by
  have hspawn : ((host programs).spawnElse notFound).spawn = (host programs).spawn := by
    funext command streams ctx m
    cases hprogram : command.program with
    | some path => simp [Host.spawnElse, hprogram]
    | none =>
      simp only [Host.spawnElse, hprogram, host, spawn, notFound]
      rfl
  have hhost : (host programs).spawnElse notFound =
      { host programs with spawn := ((host programs).spawnElse notFound).spawn } := rfl
  rw [hhost, hspawn]

lemma runSingleElse_notFound {σ ρ ω : Type} (host : Host σ ρ ω) (command : Command)
    (output errors : Sink) (ctx : Context) :
    host.runSingleElse notFound command output errors ctx =
      host.runSingle command output errors ctx := by
  cases hrunner : command.runner with
  | ok runner => simp only [Host.runSingleElse, hrunner]
  | error e =>
    have he : e = notFound command := by
      unfold Command.runner at hrunner
      grind [notFound]
    simp only [Host.runSingleElse, Host.runSingle, hrunner, he]

lemma executeElse_notFound (p : Pipeline) (ctx : Context) (m : Machine) :
    executeElse programs notFound p ctx m = execute programs p ctx m := by
  have hrun : (host programs).runStagesElse notFound = (host programs).runStages := by
    funext stages output errors ctx
    unfold Host.runStagesElse Host.runStages
    simp only [spawnElse_notFound, runSingleElse_notFound]
    rfl
  rw [executeElse, hrun, execute_eq_executeBy]

/-- The stages of a line, and the command that takes their words, were found when they are run. -/
lemma found_of_parse_moments {run : StageRunner} {line : String} {p : Pipeline} {ctx : Context}
    {m : Machine} (hparse : Pipeline.parse ctx m.files line = .ok p) {x : Moment}
    (hx : x ∈ moments run p ctx m) : ∀ c ∈ x.stages, c.Found ∧ c.runnable = true :=
  fun _ hc => found_of_moments (fun _ hc => Pipeline.found_of_parse hparse hc) hx hc

lemma executeElse_of_parse {line : String} {p : Pipeline} {ctx : Context} {m : Machine}
    (hparse : Pipeline.parse ctx m.files line = .ok p) (late : Command → Error) :
    executeElse programs late p ctx m = execute programs p ctx m := by
  rw [execute_eq_executeBy]
  refine executeBy_congr fun x hx output errors => ?_
  rw [(host programs).runStagesElse_of_found (found_of_parse_moments hparse hx)]

/-- If all stages of a line can be run, its result is no unknown command. -/
lemma execute_ne_commandNotFound {line : String} {p : Pipeline} {ctx : Context} {m : Machine}
    (hparse : Pipeline.parse ctx m.files line = .ok p)
    (hrunnable : ∀ c ∈ p.stages, c.runnable = true) (name : String) :
    (execute programs p ctx m).1.1 ≠ .error (.commandNotFound name) := by
  have hfails : FailsWith (fun e => ∀ name, e ≠ .commandNotFound name)
      (executeBy (host programs).runStages p ctx m).1.1 := by
    refine executeBy_failsWith hrunnable (by rintro _ _ _ _ ⟨⟩) fun x hx output errors => ?_
    have hfound := found_of_parse_moments hparse hx
    rintro e he name rfl
    have hlate := Host.runStages_failsWith (host_raises programs) (fun c hc => (hfound c hc).1)
      (fun c hc => (hfound c hc).2) output errors x.context x.machine _ he
    cases hlate
  intro h
  rw [execute_eq_executeBy] at h
  exact hfails _ h name rfl

end Machine

namespace Pipeline

/-- A line that is to be run fails for an unknown command exactly if one of its names is unknown,
and reports the first of them. Whenever stages are run, nothing is missing to carry them out: any
error could stand in the places where a command is found missing later. -/
theorem execute_unknown (programs : Programs) {ctx : Context} {m : Machine} {line : String}
    {p : Pipeline} (hparse : parse ctx m.files line = .ok p) (hrun : p.isNoop = false) :
    (∀ name, (Machine.execute programs p ctx m).1.1 = .error (.commandNotFound name) ↔
      p.FirstUnknown ctx m.files name) ∧
    (∀ x ∈ Machine.moments (Machine.host programs).runStages p ctx m, ∀ c ∈ x.stages,
      c.IsReady) ∧
    (∀ late, Machine.executeElse programs late p ctx m = Machine.execute programs p ctx m) ∧
    ∀ p ctx m, Machine.executeElse programs Machine.notFound p ctx m =
      Machine.execute programs p ctx m := by
  refine ⟨fun name => ?_, fun x hx c hc => ?_, Machine.executeElse_of_parse programs hparse,
    Machine.executeElse_notFound programs⟩
  · rw [firstUnknown_iff hparse hrun]
    cases hfind : p.stages.find? fun c => !c.runnable with
    | none =>
      have hrunnable : ∀ c ∈ p.stages, c.runnable = true := by simpa using hfind
      simpa using Machine.execute_ne_commandNotFound programs hparse hrunnable name
    | some c =>
      obtain ⟨other, hother⟩ := exists_name hrun (List.mem_of_find?_eq_some hfind)
      have hresult : (Machine.execute programs p ctx m).1.1 = .error (.commandNotFound other) := by
        rw [Machine.execute_eq_executeBy]
        simp [Machine.executeBy, hrun, hfind, Command.displayName, hother]
      simp [hresult, hother]
  · obtain ⟨hfound, hrunnable⟩ := Machine.found_of_parse_moments hparse hx c hc
    exact hfound.isReady hrunnable

/-- The first of two unknown names is reported, though a builtin stands before it; and what `echo`
prints goes to a command that is there. -/
theorem execute_unknown_lines :
    let ctx : Context := { workspace := .root }
    let m : Machine := { files := {} }
    let programs : Programs := fun _ _ => .exit 0
    (∃ p, parse ctx m.files "echo hi | nosuch x | other > cd" = .ok p ∧
      (Machine.execute programs p ctx m).1.1 = .error (.commandNotFound "nosuch")) ∧
    ∃ p, parse ctx m.files "echo hi > pwd" = .ok p ∧
      ∀ name, (Machine.execute programs p ctx m).1.1 ≠ .error (.commandNotFound name) := by
  intro ctx m programs
  let echo := stageOf ctx m.files ["echo", "hi"]
  let nosuch := stageOf ctx m.files ["nosuch", "x"]
  let other := stageOf ctx m.files ["other"]
  have hthree : parse ctx m.files "echo hi | nosuch x | other > cd" =
      .ok ⟨[echo, nosuch, other], some ⟨"cd", .stdout, .truncate⟩⟩ := rfl
  have hone : parse ctx m.files "echo hi > pwd" =
      .ok ⟨[echo], some ⟨"pwd", .stdout, .truncate⟩⟩ := rfl
  refine ⟨⟨_, hthree, ?_⟩, ⟨_, hone, fun name => ?_⟩⟩
  · refine ((execute_unknown programs hthree rfl).1 "nosuch").mpr ?_
    refine ⟨[echo], nosuch, [other], rfl, rfl, by decide, ?_⟩
    rintro b hb name hname
    obtain rfl := List.mem_singleton.mp hb
    cases hname
    decide
  · rw [Ne, (execute_unknown programs hone rfl).1 name]
    rintro ⟨_ | ⟨b, before⟩, c, after, hstages, hname, hunknown, -⟩
    · obtain ⟨rfl, rfl⟩ := List.cons.inj hstages
      cases hname
      revert hunknown
      decide
    · simp at hstages

end Pipeline
end Shell
