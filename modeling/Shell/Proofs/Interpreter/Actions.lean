import Shell.Proofs.Context.Advance

/-!
# Sessions of any length

Everything that can happen to a session one after the other: lines are evaluated, a history file is
loaded, the working directory or a variable is set, the session is finished, and in between the
machine may become any other. After any number of such actions the context is sound, and the next
action only advances it (`Interpreter.isSound_and_advances`).
-/

namespace Shell

namespace Interpreter

variable (programs : Programs)

/-! ### One action -/

/-- The moments at which evaluating a line runs stages. -/
def moments (line : String) (sh : Interpreter) : List Moment :=
  let ctx := sh.context.record line
  match Pipeline.parse ctx sh.machine.files line with
  | .error _ => []
  | .ok p => Machine.moments (Machine.host programs).runStages p ctx sh.machine

lemma evaluate_advances (line : String) (sh : Interpreter) :
    sh.context.Advances (fun path => ∃ x ∈ sh.moments programs line, x.LeadsTo programs path)
      (sh.evaluate programs line).2.context := by
  rw [context_evaluate]
  refine (sh.context.record_advances line).trans ?_
  rw [moments]
  cases hparse : Pipeline.parse (sh.context.record line) sh.machine.files line with
  | error e =>
    rw [runLine, get_bind_apply, hparse]
    exact .refl _
  | ok p =>
    rw [runLine_of_parse programs line hparse]
    exact Machine.execute_advances programs p _ _

/-- Go to another directory. The session stays as it is if there is none. -/
def goTo (target : String) (sh : Interpreter) : Interpreter :=
  let moved := sh.context.setWorkspace sh.machine.files target
  { sh with context := moved.toOption.getD sh.context }

lemma goTo_advances (target : String) (sh : Interpreter) :
    sh.context.Advances (fun path => sh.machine.files.isDirectory path = true)
      (sh.goTo target).context := by
  rw [goTo]
  cases hset : sh.context.setWorkspace sh.machine.files target with
  | error e => exact .refl _
  | ok context => exact Context.setWorkspace_advances hset

lemma finish_advances {seen : String → Prop} (sh : Interpreter) :
    sh.context.Advances seen sh.finish.context := by
  rw [finish]
  split
  · exact .refl _
  · exact sh.context.requestExit_advances Machine.disk sh.machine

lemma loadHistory_advances {seen : String → Prop} (file : String) (sh : Interpreter) :
    sh.context.Advances seen (sh.loadHistory file).context := by
  have hload : sh.context.Advances seen (sh.context.loadHistory Machine.disk file sh.machine).1 :=
    sh.context.loadHistory_advances Machine.disk file sh.machine
  rw [loadHistory]
  generalize sh.context.loadHistory Machine.disk file sh.machine = loaded at hload ⊢
  exact hload

/-! ### Any number of actions -/

/-- What can happen to a session. -/
inductive Action
  | evaluate (line : String)
  | loadHistory (file : String)
  | setWorkspace (target : String)
  | setVar (key value : String)
  | finish
  /-- Not of the shell's doing: files and everything else around it change. -/
  | elsewhere (machine : Machine)

/-- The session after an action. -/
def Action.apply (sh : Interpreter) : Action → Interpreter
  | .evaluate line => (sh.evaluate programs line).2
  | .loadHistory file => sh.loadHistory file
  | .setWorkspace target => sh.goTo target
  | .setVar key value => { sh with context := sh.context.setVar key value }
  | .finish => sh.finish
  | .elsewhere machine => { sh with machine }

/-- The action may take the working directory to this path, where it finds a directory. -/
def Action.Finds (sh : Interpreter) (action : Action) (path : String) : Prop :=
  match action with
  | .evaluate line => ∃ x ∈ sh.moments programs line, x.LeadsTo programs path
  | .setWorkspace _ => sh.machine.files.isDirectory path = true
  | _ => False

/-- The session after actions. -/
def after (actions : List Action) (sh : Interpreter) : Interpreter :=
  actions.foldl (Action.apply programs) sh

lemma after_cons (action : Action) (rest : List Action) (sh : Interpreter) :
    after programs (action :: rest) sh = after programs rest (action.apply programs sh) := rfl

lemma Action.apply_advances (action : Action) (sh : Interpreter) :
    sh.context.Advances (action.Finds programs sh) (action.apply programs sh).context := by
  cases action with
  | evaluate line => exact evaluate_advances programs line sh
  | loadHistory file => exact loadHistory_advances file sh
  | setWorkspace target => exact goTo_advances target sh
  | setVar key value => exact sh.context.setVar_advances key value
  | finish => exact finish_advances sh
  | elsewhere machine => exact .refl _

/-- By induction over the actions: each leaves a sound context. -/
lemma isSound_after (actions : List Action) {sh : Interpreter} (h : sh.context.IsSound) :
    (after programs actions sh).context.IsSound := by
  induction actions generalizing sh with
  | nil => exact h
  | cons action rest ih =>
    rw [after_cons]
    exact ih ((action.apply_advances programs sh).sound h)

/-- At any time in any session, the working directory is a normal path, no entry of the history is
blank, and no more entries count as flushed than there are; and whatever is done next keeps the
entries, does not withdraw a request to end the session, and leaves the working directory where it
is or takes it to a directory that is found there. -/
theorem isSound_and_advances {base : String} (hbase : Path.isAbsolute base = true)
    (workspace : String) (vars : Variables) (machine : Machine) (actions : List Action) :
    let sh := after programs actions { context := .start base workspace vars, machine }
    sh.context.IsSound ∧
      ∀ action : Action,
        sh.context.Advances (action.Finds programs sh) (action.apply programs sh).context := by
  intro sh
  refine ⟨isSound_after programs actions (Context.isSound_start hbase workspace vars), ?_⟩
  intro action
  exact action.apply_advances programs sh

/-- A session that goes to a directory, which is then removed, and ends. -/
theorem isSound_and_advances_exit :
    let programs : Programs := fun _ _ => .exit 0
    let sh := after programs
      [.setWorkspace "./tmp/", .elsewhere { files := {} }, .evaluate " exit "]
      { context := .start "/" "usr/.." []
        machine := { files := { entries := [(["tmp"], .directory)] } } }
    sh.context = { workspace := ⟨true, ["tmp"]⟩, history := { entries := ["exit"] }
                   exiting := true } ∧
      sh.context.IsSound ∧
      ∀ action : Action,
        sh.context.Advances (action.Finds programs sh) (action.apply programs sh).context := by
  intro programs sh
  constructor
  · have hlocate : FileSystem.locate { entries := [(["tmp"], .directory)] } .target [] "/tmp" =
        .ok (.present ["tmp"] .directory) := by
      refine FileSystem.locate_eq_ok_iff.mpr ⟨⟨by decide, by decide, by decide⟩, ?_⟩
      exact .enter ⟨by decide, by decide, by decide, by decide⟩ (by decide) (by decide)
        (.arrive _ _)
    have hdirectory :
        FileSystem.isDirectory { entries := [(["tmp"], .directory)] } "/tmp" = true := by
      rw [FileSystem.isDirectory, FileSystem.stat?, hlocate]
    have hset : (Context.start "/" "usr/.." []).setWorkspace
        { entries := [(["tmp"], .directory)] } "./tmp/" = .ok { workspace := ⟨true, ["tmp"]⟩ } :=
      if_pos hdirectory
    simp only [sh, after_cons, Action.apply, goTo, hset]
    decide +kernel
  · exact isSound_and_advances programs (by decide) "usr/.." [] _ _

end Interpreter

end Shell
