import Shell.Proofs.Machine.Apart

/-!
# Processes that cannot print

Processes print through the streams that they have open. As long as none of these is the standard
output of the session, whatever the processes do leaves standard output as it is, and none of them
gets hold of it. That includes the builtins which are given to workers and whose text goes to a
pipe.
-/

namespace Shell

/-! ### Silent machines -/

/-- The stream with this number does not go to the standard output of the session. -/
def IsQuiet (opened : Array Opened) (stream : Nat) : Prop :=
  ∀ o, opened[stream]? = some o → o.channel ≠ .output

/-- No stream of the process goes to the standard output of the session. -/
def Process.IsSilent (opened : Array Opened) (p : Process) : Prop :=
  ∀ d ∈ p.descriptors, IsQuiet opened d.stream

namespace Machine

/-- No process can print to the standard output of the session. -/
def IsSilent (m : Machine) : Prop :=
  ∀ p ∈ m.processes, p.IsSilent m.opened

/-- The machine after something that prints nothing and makes no process able to. -/
structure Hushed (m m' : Machine) : Prop where
  silent : m'.IsSilent
  stdout : m'.session.stdout = m.session.stdout

lemma isSilent_iff_isApart {m : Machine} : m.IsSilent ↔ m.IsApart .output :=
  Iff.rfl

lemma Untouched.hushed {m m' : Machine} (h : Untouched .output m m') : Hushed m m' :=
  ⟨isSilent_iff_isApart.mpr h.apart, congrArg SharedOutput.mk h.content⟩

lemma Hushed.trans {m m' m'' : Machine} (h : Hushed m m') (h' : Hushed m' m'') : Hushed m m'' :=
  ⟨h'.silent, h'.stdout.trans h.stdout⟩

namespace IsSilent

variable {m m' : Machine} (h : m.IsSilent)
include h

lemma isApart : m.IsApart .output :=
  isSilent_iff_isApart.mp h

lemma hushed : Hushed m m :=
  h.isApart.untouched.hushed

lemma settle (programs : Programs) : Hushed m (m.settle programs) :=
  (h.isApart.settle rfl programs).hushed

lemma join (programs : Programs) (w : Worker) : Hushed m (m.join programs w).2 :=
  (h.isApart.join rfl programs w).hushed

lemma perform (b : Builtin) (command : Command) (streams : Streams) (ctx : Context) :
    (m.perform b command streams ctx).2.IsSilent :=
  isSilent_iff_isApart.mpr ((outside_isApart _).perform b command streams ctx h.isApart)

end IsSilent

/-! ### Workers -/

/-- An error of the worker does not show on standard output. -/
def Worker.IsMild : Worker → Prop
  | .done result => ∀ e, result = .error e → e.reportsToStdout = false
  | .writing _ => True

/-- The process of a worker whose text goes to a pipe. -/
lemma launch_worker (m : Machine) {input : Source}
    (hinput : input = .session ∨ ∃ id, input = .pipe id) (pipe : Nat) (here : Location)
    (todo : Proc) (ignored : List Nat) :
    let streams : Streams := { input := untaken input, output := .pipe pipe, errors := .sessionErr }
    let m' := (m.launch streams here todo ignored).2
    m'.files = m.files ∧ m'.session = m.session ∧ (m.IsSilent → m'.IsSilent) := by
  intro streams m'
  have havoid : streams.Avoid .output := by
    refine ⟨?_, trivial, by simp [streams]⟩
    rcases hinput with rfl | ⟨id, rfl⟩
    · exact Channel.file_ne rfl _
    · trivial
  refine ⟨?_, ?_, fun h => (h.isApart.launch rfl havoid here todo ignored).hushed.silent⟩
  all_goals
    rcases hinput with rfl | ⟨id, rfl⟩ <;> rfl

/-- A builtin that is given to a worker acts at once, and its text goes to a pipe. -/
lemma work_piped (m : Machine) {streams : Streams}
    (hinput : streams.input = .session ∨ ∃ id, streams.input = .pipe id) {pipe : Nat}
    (houtput : streams.output = .pipe pipe) (herrors : streams.errors = .sessionErr) (b : Builtin)
    (command : Command) (ctx : Context) :
    let reported := (b.report disk command.args ctx m).2
    let worked := m.work b command streams ctx
    worked.1.IsMild ∧ worked.2.files = reported.files ∧
      worked.2.session = reported.session ∧ (m.IsSilent → worked.2.IsSilent) := by
  obtain ⟨input, output, errors⟩ := streams
  subst houtput herrors
  intro reported worked
  have hreported : m.IsSilent → reported.IsSilent := fun h => isSilent_iff_isApart.mpr
    ((outside_isApart .output).disk.report b command.args ctx h.isApart)
  have houtput : (Streams.mk input (.pipe pipe) .sessionErr).output = .pipe pipe := rfl
  have hworked := work_pipe b command houtput ctx m
  dsimp only at hworked
  cases hresult : (b.report disk command.args ctx m).1.result with
  | error failure =>
    rw [hresult] at hworked
    simp only [worked, hworked]
    refine ⟨fun e he => ?_, rfl, rfl, hreported⟩
    unfold Builtin.outcome at he
    dsimp only at he
    split at he
    · cases he
    · cases he
      rfl
  | ok status =>
    rw [hresult] at hworked
    obtain ⟨hfiles, hsession, hsilent⟩ := launch_worker reported hinput pipe []
      (writer (encode (b.report disk command.args ctx m).1.stdout)
        (encode (b.report disk command.args ctx m).1.stderr) status).toProc [pipeSignal]
    simp only [worked, hworked]
    exact ⟨trivial, hfiles, hsession, hsilent ∘ hreported⟩

section

variable {m : Machine} (programs : Programs)

lemma Worker.IsMild.join {w : Worker} (hw : w.IsMild) {e : Error}
    (he : (m.join programs w).1 = .error e) : e.reportsToStdout = false := by
  cases w with
  | done result => exact hw e he
  | writing id =>
    rw [Machine.join, Machine.wait] at he
    split at he
    · cases he
      rfl
    · cases he

end

end Machine

end Shell
