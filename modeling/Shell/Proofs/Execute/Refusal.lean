import Shell.Proofs.Execute.Isolation
import Shell.Proofs.Machine.Desk

/-!
# Lines that are not run

Four checks stand before a line is run: that it can be read, that no segment is blank, that every
stage can be run, and that the file of a redirection can be opened. A line that fails one of them is
refused: no stage is started, and all that happens is that the line is recorded and the refusal
announced.

The same errors could come from running stages, where it would be too late to refuse. They do not:
a stage that passed the checks was found, as a builtin or as a program, and what a host starts for
such a stage fails with other errors.
-/

namespace Shell

/-! ### Refusals -/

/-- What a refusal prints on the two streams of the session, and its status. -/
structure Announcement where
  out : String
  err : String
  status : Nat
  deriving DecidableEq, Repr

/-- The announcement of an error that keeps a line from being run. -/
def Error.announcement? : Error → Option Announcement
  | .commandNotFound name => some ⟨name ++ ": command not found\n", "", 127⟩
  | .missingRedirectTarget => some ⟨"", "syntax error near unexpected token `newline'\n", 2⟩
  | .redirection name path cause =>
    some ⟨"", name ++ ": " ++ path ++ ": " ++ cause.text ++ "\n", 1⟩
  | _ => none

/-- The session after these texts were printed on its two streams. -/
def Session.printed (s : Session) (out err : String) : Session :=
  { s with stdout := ⟨s.stdout.bytes ++ encode out⟩, stderr := ⟨s.stderr.bytes ++ encode err⟩ }

lemma Session.report_eq_printed (s : Session) {e : Error} {a : Announcement}
    (h : e.announcement? = some a) : s.report e = s.printed a.out a.err := by
  cases e <;> cases h <;>
    simp [report, Error.reportsToStdout, Error.message, writeOut, writeErr, SharedOutput.write,
      printed, encode_empty, String.append_assoc]

lemma Error.status_of_announcement {e : Error} {a : Announcement}
    (h : e.announcement? = some a) : e.status = a.status := by
  cases e <;> cases h <;> rfl

/-! ### What stages fail with -/

/-- A result that fails, if it does, with an error of a kind. -/
def FailsWith {α : Type} (P : Error → Prop) (r : Except Error α) : Prop :=
  ∀ e, r = .error e → P e

lemma failsWith_ok {α : Type} (P : Error → Prop) (a : α) : FailsWith P (.ok a) := by
  rintro e ⟨⟩

lemma failsWith_error {α : Type} {P : Error → Prop} {e : Error} :
    FailsWith (α := α) P (.error e) ↔ P e := by
  constructor
  · intro h
    exact h e rfl
  · rintro h e ⟨⟩
    exact h

/-- A command whose name was found, as a builtin or as a program. -/
def Command.Found (c : Command) : Prop :=
  if c.builtin then ∃ b : Builtin, c.name = some b.name else c.program.isSome

/-- A command that a builtin carries out. -/
lemma Command.of_runner_builtin {c : Command} {b : Builtin} (h : c.runner = .ok (.builtin b)) :
    c.runnable = true ∧ c.builtin = true ∧ c.name.isNone = false := by
  rw [runner] at h
  split at h
  · cases h
  rename_i hrun
  split at h
  · rename_i hbuiltin
    refine ⟨by simpa using hrun, hbuiltin, ?_⟩
    cases hname : c.name with
    | none =>
      rw [hname] at h
      cases h
    | some name => rfl
  · cases h

namespace Host

variable {σ ρ ω : Type}

/-- What the operations of a host fail with. Of its workers `Q` is known. -/
structure Raises (host : Host σ ρ ω) (P : Error → Prop) (Q : ω → Prop) : Prop where
  pipe : ∀ name cause, P (.pipe name cause)
  spawn : ∀ command streams ctx s, command.program.isSome →
    FailsWith P (host.spawn command streams ctx s).1
  wait : ∀ process s, FailsWith P (host.wait process s).1
  work : ∀ b command streams ctx s, FailsWith P (host.work b command streams ctx s).1
  worker : ∀ b command streams ctx s w, (host.work b command streams ctx s).1 = .ok w → Q w
  join : ∀ w s, Q w → FailsWith P (host.join w s).1
  perform : ∀ b command streams ctx s, FailsWith P (host.perform b command streams ctx s).1.1

/-- A process, or a worker of which `Q` is known. -/
def StageIs (Q : ω → Prop) : Stage ρ ω → Prop
  | .process _ => True
  | .worker w => Q w

variable {host : Host σ ρ ω} {P : Error → Prop} {Q : ω → Prop} (h : host.Raises P Q)
include h

lemma waitFor_failsWith {stage : Stage ρ ω} (hstage : StageIs Q stage) (s : σ) :
    FailsWith P (host.waitFor stage s).1 := by
  cases stage with
  | process p => exact h.wait p s
  | worker w => exact h.join w s hstage

lemma finish_failsWith {stages : List (Stage ρ ω)} (hstages : ∀ x ∈ stages, StageIs Q x) (s : σ) :
    FailsWith P (host.finish stages s).1 := by
  rw [finish]
  cases hlast : stages.getLast? with
  | none => exact failsWith_ok P 0
  | some last => exact waitFor_failsWith h (hstages last (List.mem_of_getLast? hlast)) s

/-- By induction over the stages still to be started: all that were started are of a known kind. -/
lemma startAll_failsWith {start : Command → Streams → StateM σ (Except Error (Stage ρ ω))}
    {waiting : List (Command × Streams)}
    (hstart : ∀ x ∈ waiting, ∀ s, FailsWith P (start x.1 x.2 s).1 ∧
      ∀ stage, (start x.1 x.2 s).1 = .ok stage → StageIs Q stage)
    {started : List (Stage ρ ω)} (hstarted : ∀ x ∈ started, StageIs Q x) (s : σ) :
    FailsWith P (host.startAll start started waiting s).1 := by
  induction waiting generalizing started s with
  | nil => exact finish_failsWith h hstarted s
  | cons x rest ih =>
    obtain ⟨command, streams⟩ := x
    obtain ⟨herror, hok⟩ := hstart _ List.mem_cons_self s
    rw [startAll, bind_apply]
    cases hrun : (start command streams s).1 with
    | error e => exact failsWith_error.mpr (herror e hrun)
    | ok stage =>
      refine ih (fun y hy => hstart y (List.mem_cons_of_mem _ hy)) ?_ _
      intro y hy
      rcases List.mem_append.mp hy with hy | hy
      · exact hstarted y hy
      · obtain rfl := List.mem_singleton.mp hy
        exact hok _ hrun

lemma launch_failsWith {command : Command} (hfound : command.Found) (ctx : Context)
    (streams : Streams) (s : σ) :
    FailsWith P (host.launch ctx command streams s).1 ∧
      ∀ stage, (host.launch ctx command streams s).1 = .ok stage → StageIs Q stage := by
  rw [Command.Found] at hfound
  cases hb : command.builtin with
  | true =>
    rw [if_pos hb] at hfound
    obtain ⟨b, hname⟩ := hfound
    have hlookup : Builtin.ofName? command.displayName = some b := by
      simp [Command.displayName, hname]
    simp only [launch, hb, if_true, hlookup, bind_apply]
    cases hrun : (host.work b command streams ctx.detach s).1 with
    | error e => exact ⟨failsWith_error.mpr (h.work _ _ _ _ s e hrun), by rintro stage ⟨⟩⟩
    | ok w =>
      refine ⟨failsWith_ok P _, ?_⟩
      rintro stage ⟨⟩
      exact h.worker _ _ _ _ s w hrun
  | false =>
    rw [if_neg (by simp [hb])] at hfound
    rw [host.launch_program ctx hb, spawnStage, bind_apply]
    cases hrun : (host.spawn command streams ctx s).1 with
    | error e => exact ⟨failsWith_error.mpr (h.spawn _ _ _ s hfound e hrun), by rintro stage ⟨⟩⟩
    | ok p =>
      refine ⟨failsWith_ok P _, ?_⟩
      rintro stage ⟨⟩
      trivial

lemma wireFrom_failsWith (input : Source) (output errors : Sink) (stages : List Command) (s : σ) :
    FailsWith P (host.wireFrom input output errors stages s).1 := by
  fun_induction host.wireFrom input output errors stages generalizing s with
  | case1 => exact failsWith_ok P _
  | case2 => exact failsWith_ok P _
  | case3 input command next rest ih =>
    rw [bind_apply]
    cases hpipe : (host.makePipe s).1 with
    | error e => exact failsWith_error.mpr (h.pipe _ e)
    | ok pipe =>
      dsimp only
      rw [bind_apply]
      cases hrest : (host.wireFrom (.pipe pipe) output errors (next :: rest)
          (host.makePipe s).2).1 with
      | error e => exact failsWith_error.mpr (ih pipe _ e hrest)
      | ok wiring => exact failsWith_ok P _

lemma runMixed_failsWith {stages : List Command} (hfound : ∀ c ∈ stages, c.Found)
    (output errors : Sink) (ctx : Context) (s : σ) :
    FailsWith P (host.runMixed stages output errors ctx s).1 := by
  rw [runMixed, runWired, bind_apply]
  cases hwire : (host.wire stages output errors s).1 with
  | error e => exact failsWith_error.mpr (wireFrom_failsWith h _ _ _ _ s e hwire)
  | ok wiring =>
    refine startAll_failsWith h (fun x hx s => ?_) (by simp) _
    exact launch_failsWith h (hfound _ (List.of_mem_zip hx).1) ctx x.2 s

lemma runSingle_failsWith {command : Command} (hfound : command.Found)
    (hrunnable : command.runnable = true) (output errors : Sink) (ctx : Context) (s : σ) :
    FailsWith P (host.runSingle command output errors ctx s).1.1 := by
  rw [Command.Found] at hfound
  cases hb : command.builtin with
  | true =>
    rw [if_pos hb] at hfound
    obtain ⟨b, hname⟩ := hfound
    have hrunner : command.runner = .ok (.builtin b) := by
      simp [Command.runner, hrunnable, hb, hname]
    simp only [runSingle, hrunner]
    exact h.perform b command _ ctx s
  | false =>
    rw [if_neg (by simp [hb])] at hfound
    have hrunner : command.runner = .ok .external := by
      simp [Command.runner, hrunnable, hb]
    simp only [runSingle, hrunner]
    rw [bind_apply]
    cases hrun : (host.spawn command { input := .session, output, errors } ctx s).1 with
    | error e => exact failsWith_error.mpr (h.spawn _ _ _ s hfound e hrun)
    | ok p => exact h.wait p _

/-- Stages that were found fail only with what the host fails with. -/
theorem runStages_failsWith {stages : List Command} (hfound : ∀ c ∈ stages, c.Found)
    (hrunnable : ∀ c ∈ stages, c.runnable = true) (output errors : Sink) (ctx : Context) (s : σ) :
    FailsWith P (host.runStages stages output errors ctx s).1.1 := by
  rcases stages with _ | ⟨command, _ | ⟨next, rest⟩⟩
  · exact failsWith_ok P 0
  · exact runSingle_failsWith h (hfound _ List.mem_cons_self) (hrunnable _ List.mem_cons_self)
      _ _ _ s
  · rw [host.runStages_several ctx output errors (by simp)]
    exact runMixed_failsWith h hfound output errors ctx s

end Host

/-! ### Stages on the machine -/

/-- Errors of a line that was run. -/
def Error.IsLate (e : Error) : Prop :=
  e.announcement? = none

namespace Machine

variable (programs : Programs)

/-- A worker that has failed has failed late. -/
def Worker.FailsLate : Worker → Prop
  | .done result => FailsWith Error.IsLate result
  | .writing _ => True

lemma outcome_failsLate (b : Builtin) (result : Except Failure Nat) :
    FailsWith Error.IsLate (b.outcome result) := by
  unfold Builtin.outcome
  split
  · exact failsWith_ok _ _
  · split
    · exact failsWith_ok _ _
    · exact failsWith_error.mpr rfl

lemma perform_failsLate (b : Builtin) (command : Command) (streams : Streams) (ctx : Context)
    (m : Machine) : FailsWith Error.IsLate (m.perform b command streams ctx).1.1 :=
  outcome_failsLate b _

lemma work_failsLate (b : Builtin) (command : Command) (streams : Streams) (ctx : Context)
    (m : Machine) : (m.work b command streams ctx).1.FailsLate := by
  by_cases hpipe : ∃ id, streams.output = .pipe id
  · obtain ⟨id, hpipe⟩ := hpipe
    rw [work_pipe b command hpipe]
    dsimp only
    cases (b.report disk command.args ctx m).1.result with
    | error failure => exact outcome_failsLate b (.error failure)
    | ok status => trivial
  · rw [work_of_ne b command (not_exists.mp hpipe)]
    exact perform_failsLate b command streams ctx m

lemma wait_failsLate (id : Nat) (m : Machine) :
    FailsWith Error.IsLate (m.wait programs id).1 := by
  rw [wait]
  split
  · exact failsWith_error.mpr rfl
  · exact failsWith_ok _ _

lemma host_raises : (host programs).Raises Error.IsLate Worker.FailsLate where
  pipe _ _ := rfl
  spawn command streams ctx m hprogram := by
    obtain ⟨path, hpath⟩ := Option.isSome_iff_exists.mp hprogram
    change FailsWith Error.IsLate (spawn programs command streams ctx m).1
    rw [spawn, hpath]
    dsimp only
    split
    · exact failsWith_error.mpr rfl
    · exact failsWith_ok _ _
  wait id m := wait_failsLate programs id m
  work _ _ _ _ _ := failsWith_ok _ _
  worker b command streams ctx m w hw := by
    cases hw
    exact work_failsLate b command streams ctx m
  join w m hw := by
    cases w with
    | done result => exact hw
    | writing id => exact wait_failsLate programs id m
  perform b command streams ctx m := perform_failsLate b command streams ctx m

end Machine

/-! ### Stages of a line -/

/-- Looking up a command that can be run has found it. -/
lemma Context.found_resolve {ctx : Context} {fs : FileSystem} {name : String} (args : List String)
    (h : (ctx.resolve fs name).runnable = true) :
    ({ ctx.resolve fs name with args } : Command).Found := by
  cases hb : Builtin.ofName? name with
  | some b =>
    have hname : name = b.name := (Builtin.name_of_ofName? hb).symm
    simpa [Command.Found, resolve, hb] using ⟨b, hname⟩
  | none => simpa [Command.Found, resolve, hb] using h

lemma Pipeline.found_of_parse {ctx : Context} {fs : FileSystem} {line : String} {p : Pipeline}
    (h : parse ctx fs line = .ok p) {c : Command} (hc : c ∈ p.stages) (hrun : c.runnable = true) :
    c.Found := by
  rw [parse] at h
  split at h
  · cases h
  · cases h
    obtain ⟨ws, -, rfl⟩ := List.mem_map.mp hc
    cases ws with
    | nil => cases hrun
    | cons name args => exact Context.found_resolve _ hrun

/-! ### Executing with any way to run stages -/

/-- A way to run stages, the last of which writes to the given sinks. -/
abbrev StageRunner :=
  List Command → Sink → Sink → Context → StateM Machine (Except Error Nat × Context)

namespace Machine

section By

variable (run : StageRunner)

/-- Run stages with their words going to `target`. -/
def runIntoBy (stages : List Command) (stream : OutputStream) (target : Command) (ctx : Context)
    (m : Machine) : (Except Error Nat × Context) × Machine :=
  let sinks := redirected stream .capture
  let left := run stages sinks.1 sinks.2 ctx { m with capture := [] }
  let after := { left.2 with capture := m.capture }
  match left.1.1 with
  | .error e => ((.error e, left.1.2), after)
  | .ok _ =>
    let args := words (decodeLossy left.2.capture)
    run [{ target with args }] .sessionOut .sessionErr left.1.2 after

/-- Run stages with one of their streams going to a file. -/
def runToFileBy (stages : List Command) (r : Redirection) (ctx : Context) (m : Machine) :
    (Except Error Nat × Context) × Machine :=
  let path := (ctx.resolvePath r.target).text
  match m.files.openFile [] path (.write r.mode) with
  | .error e => ((.error (.redirection (lastName stages) path e), ctx), m)
  | .ok opened =>
    let sinks := redirected r.stream (.file opened.1 r.mode)
    run stages sinks.1 sinks.2 ctx { m with files := opened.2 }

/-- Execute a pipeline with this way to run stages. -/
def executeBy (p : Pipeline) (ctx : Context) (m : Machine) :
    (Except Error Nat × Context) × Machine :=
  if p.isNoop then ((.ok 0, ctx), m)
  else match p.stages.find? fun c => !c.runnable with
    | some c => ((.error (.commandNotFound c.displayName), ctx), m)
    | none =>
      match p.redirection with
      | none => run p.stages .sessionOut .sessionErr ctx m
      | some r =>
        let target := ctx.resolve m.files r.target
        if target.runnable then runIntoBy run p.stages r.stream target ctx m
        else runToFileBy run p.stages r ctx m

end By

variable (programs : Programs)

lemma runInto_eq_runIntoBy (stages : List Command) (stream : OutputStream) (target : Command)
    (ctx : Context) (m : Machine) :
    runInto programs stages stream target ctx m =
      runIntoBy (host programs).runStages stages stream target ctx m := by
  simp only [runInto, runIntoBy, bind_apply, get_apply, modify_apply]
  generalize (host programs).runStages stages (redirected stream .capture).1
    (redirected stream .capture).2 ctx { m with capture := [] } = left
  obtain ⟨⟨result, ctx'⟩, after⟩ := left
  cases result <;> rfl

lemma runToFile_eq_runToFileBy (stages : List Command) (r : Redirection) (ctx : Context)
    (m : Machine) :
    runToFile programs stages r ctx m =
      runToFileBy (host programs).runStages stages r ctx m := by
  simp only [runToFile, runToFileBy, get_bind_apply]
  cases m.files.openFile [] (ctx.resolvePath r.target).text (.write r.mode) <;> rfl

lemma execute_eq_executeBy (p : Pipeline) (ctx : Context) (m : Machine) :
    execute programs p ctx m = executeBy (host programs).runStages p ctx m := by
  simp only [execute, executeBy, ← runInto_eq_runIntoBy, ← runToFile_eq_runToFileBy]
  split
  · rfl
  cases p.stages.find? fun c => !c.runnable with
  | some c => rfl
  | none =>
    cases p.redirection with
    | none => rfl
    | some r =>
      dsimp only
      rw [get_bind_apply]
      split <;> rfl

variable {run : StageRunner}

/-- A refusal does not depend on how stages are run, because none is: an error that comes from
running stages is no refusal. -/
theorem executeBy_refused {p : Pipeline} {ctx : Context} {m : Machine} {e : Error}
    (hrun : ∀ (stages : List Command) output errors ctx m,
      (∀ c ∈ stages, c.Found ∧ c.runnable = true) →
        FailsWith Error.IsLate (run stages output errors ctx m).1.1)
    (hfound : ∀ c ∈ p.stages, c.runnable = true → c.Found)
    (h : (executeBy run p ctx m).1.1 = .error e) (he : ¬ e.IsLate) (run' : StageRunner) :
    executeBy run' p ctx m = ((.error e, ctx), m) := by
  by_cases hnoop : p.isNoop = true
  · rw [executeBy, if_pos hnoop] at h
    cases h
  simp only [executeBy, if_neg hnoop] at h ⊢
  cases hfind : p.stages.find? fun c => !c.runnable with
  | some c =>
    rw [hfind] at h
    cases h
    rfl
  | none =>
    have hstages : ∀ c ∈ p.stages, c.Found ∧ c.runnable = true := by
      intro c hc
      have hc' : c.runnable = true := by simpa using List.find?_eq_none.mp hfind c hc
      exact ⟨hfound c hc hc', hc'⟩
    have hlate : ∀ output errors ctx' m',
        (run p.stages output errors ctx' m').1.1 ≠ .error e :=
      fun _ _ _ _ heq => he (hrun _ _ _ _ _ hstages e heq)
    rw [hfind] at h
    cases hr : p.redirection with
    | none =>
      rw [hr] at h
      exact absurd h (hlate _ _ _ _)
    | some r =>
      simp only [hr] at h ⊢
      by_cases htarget : (ctx.resolve m.files r.target).runnable = true
      · -- both runs come after the checks
        exfalso
        rw [if_pos htarget, runIntoBy] at h
        dsimp only at h
        split at h
        · rename_i heq
          cases h
          exact hlate _ _ _ _ heq
        · refine he (hrun _ _ _ _ _ ?_ e h)
          simpa using ⟨Context.found_resolve _ htarget, htarget⟩
      · rw [if_neg htarget, runToFileBy] at h ⊢
        cases hopen : m.files.openFile [] (ctx.resolvePath r.target).text (.write r.mode) with
        | error cause =>
          rw [hopen] at h
          cases h
          rfl
        | ok opened =>
          rw [hopen] at h
          exact absurd h (hlate _ _ _ _)

end Machine

/-! ### Lines -/

namespace Interpreter

/-- The result of a line, with this way to run stages. -/
def runLineBy (run : StageRunner) (line : String) (ctx : Context) (m : Machine) :
    (Except Error Nat × Context) × Machine :=
  match Pipeline.parse ctx m.files line with
  | .error e => ((.error e, ctx), m)
  | .ok p => Machine.executeBy run p ctx m

variable (programs : Programs) (line : String) (sh : Interpreter)

lemma runLine_eq_runLineBy (ctx : Context) (m : Machine) :
    runLine programs line ctx m =
      runLineBy (Machine.host programs).runStages line ctx m := by
  rw [runLine, get_bind_apply, runLineBy]
  cases Pipeline.parse ctx m.files line with
  | error e => rfl
  | ok p => exact Machine.execute_eq_executeBy programs p ctx m

variable {line}

lemma runLineBy_noop {ctx : Context} {m : Machine} {p : Pipeline}
    (hparse : Pipeline.parse ctx m.files line = .ok p) (hnoop : p.isNoop = true)
    (run : StageRunner) : runLineBy run line ctx m = ((.ok 0, ctx), m) := by
  simp only [runLineBy, hparse, Machine.executeBy, if_pos hnoop]

lemma runLineBy_refused {ctx : Context} {m : Machine} {e : Error}
    (h : (runLine programs line ctx m).1.1 = .error e) (he : ¬ e.IsLate) (run : StageRunner) :
    runLineBy run line ctx m = ((.error e, ctx), m) := by
  rw [runLine_eq_runLineBy, runLineBy] at h
  rw [runLineBy]
  cases hparse : Pipeline.parse ctx m.files line with
  | error e' =>
    rw [hparse] at h
    cases h
    rfl
  | ok p =>
    rw [hparse] at h
    refine Machine.executeBy_refused ?_ (fun c hc => Pipeline.found_of_parse hparse hc) h he run
    intro stages output errors ctx m hstages
    exact Host.runStages_failsWith (Machine.host_raises programs) (fun c hc => (hstages c hc).1)
      (fun c hc => (hstages c hc).2) output errors ctx m

lemma flow_of_context {sh' : Interpreter} (h : sh'.context = sh.context.record line) :
    sh'.flow = sh.flow := by
  rw [flow, h, Context.exiting_record, flow]

/-- A line that is not run has no effect but to be recorded and, if it was refused, announced. In
particular no stage is run: the result is the same whatever would run the stages. -/
theorem evaluate_refused (line : String) :
    let ctx := sh.context.record line
    (∀ p, Pipeline.parse ctx sh.machine.files line = .ok p → p.isNoop = true →
      (∀ run, runLineBy run line ctx sh.machine = ((.ok 0, ctx), sh.machine)) ∧
      sh.evaluate programs line =
        (sh.flow, { context := ctx, machine := sh.machine, lastStatus := 0 })) ∧
    ∀ e a, (runLine programs line ctx sh.machine).1.1 = .error e → e.announcement? = some a →
      (∀ run, runLineBy run line ctx sh.machine = ((.error e, ctx), sh.machine)) ∧
      sh.evaluate programs line =
        (sh.flow,
          { context := ctx
            machine := { sh.machine with session := sh.machine.session.printed a.out a.err }
            lastStatus := a.status }) := by
  intro ctx
  constructor
  · intro p hparse hnoop
    have hrun := runLineBy_noop hparse hnoop
    refine ⟨hrun, ?_⟩
    simp only [evaluate, runLine_eq_runLineBy, ctx, hrun]
    exact Prod.ext (flow_of_context sh rfl) rfl
  · intro e a h ha
    have he : ¬ e.IsLate := by simp [Error.IsLate, ha]
    have hrun := runLineBy_refused programs h he
    refine ⟨hrun, ?_⟩
    simp only [evaluate, runLine_eq_runLineBy, ctx, hrun]
    rw [sh.machine.session.report_eq_printed ha, Error.status_of_announcement ha]
    exact Prod.ext (flow_of_context sh rfl) rfl

/-- A blank segment, an unknown command before a redirection, a redirection without a target, and
one to a path that cannot be opened. -/
theorem evaluate_refused_lines :
    let sh : Interpreter :=
      { context := { workspace := .root }
        machine := { files := { entries := [(["out"], .file 0o644 [42])] } } }
    let programs : Programs := fun _ _ => .exit 0
    (sh.evaluate programs "echo hi | > out").2.machine.files = sh.machine.files ∧
    (sh.evaluate programs "echo hi | nosuch > out").2.machine.files = sh.machine.files ∧
    (sh.evaluate programs "echo hi >").2.lastStatus = 2 ∧
    (sh.evaluate programs "exit > \x00").2.context = sh.context.record "exit > \x00" := by
  intro sh programs
  have hnul : (runLine programs "exit > \x00" (sh.context.record "exit > \x00") sh.machine).1.1 =
      .error (.redirection "exit" "/\x00" .nulInPath) := by
    revert programs sh
    rfl
  have hblank := (evaluate_refused programs sh "echo hi | > out").1 _ rfl rfl
  have hunknown := (evaluate_refused programs sh "echo hi | nosuch > out").2
    (.commandNotFound "nosuch") _ rfl rfl
  have htarget := (evaluate_refused programs sh "echo hi >").2 .missingRedirectTarget _ rfl rfl
  have hopen := (evaluate_refused programs sh "exit > \x00").2 _ _ hnul rfl
  exact ⟨by rw [hblank.2], by rw [hunknown.2], by rw [htarget.2], by rw [hopen.2]⟩

end Interpreter

end Shell
