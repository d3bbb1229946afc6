import Shell.Proofs.Builtin.Printing
import Shell.Proofs.Execute.Redirection
import Shell.Proofs.Machine.Writer

/-!
# Builtins whose output cannot be written

A builtin prints in the course of what it does, and ends with the first text that is not taken. All
that it does to the context and to files it has done by then. So it leaves the same context and the
same files whether its output can be written or not, and only its result tells: it is that of a
broken pipe if nobody reads the output, and a failure of the builtin if the output is refused for
another reason. If there is nothing to print then the result is the same as well
(`Machine.perform_unwritable`).
-/

namespace Shell

/-! ### Sinks -/

namespace Sink

/-- The sink is no pipe, and what is written to it is taken and changes no file. -/
structure Works (s : Sink) : Prop where
  ne_pipe : ∀ id, s ≠ .pipe id
  takes : ∀ (m : Machine) (bytes : Bytes), ∃ m', m.write s bytes = .ok m' ∧ m'.files = m.files

/-- Whatever is written to the sink fails, unless it is nothing. -/
def Refuses (s : Sink) (e : IoError) : Prop :=
  ∀ (m : Machine) (bytes : Bytes), bytes ≠ [] → m.write s bytes = .error e

lemma refuses_closed : closed.Refuses (.os .brokenPipe) := by
  intro m bytes hbytes
  simp [Machine.write, hbytes]

lemma refuses_full (mode : WriteMode) : (file (.device .full) mode).Refuses (.os .noSpace) := by
  intro m bytes hbytes
  cases hkind : m.session.kind <;>
    simp [Machine.write, Machine.channel, Machine.channelOf, FileSystem.writeAt, hbytes, hkind]

lemma refuses_directory (l : Location) (mode : WriteMode) :
    (file (.directory l) mode).Refuses (.os .badDescriptor) := by
  intro m bytes hbytes
  simp [Machine.write, FileSystem.writeAt, hbytes]

/-- Pipes take what is written to them. -/
lemma Refuses.ne_pipe {s : Sink} {e : IoError} (h : s.Refuses e) (id : Nat) : s ≠ .pipe id := by
  rintro rfl
  cases h { files := {} } [0] (by simp)

lemma works_sessionOut : sessionOut.Works where
  ne_pipe := nofun
  takes m bytes := by
    by_cases hbytes : bytes = []
    · exact ⟨m, by simp [Machine.write, hbytes], rfl⟩
    · rw [Machine.write, if_neg (by simpa using hbytes)]
      exact ⟨_, rfl, rfl⟩

end Sink

lemma encode_eq_nil_iff {s : String} : encode s = [] ↔ s = "" := by
  refine ⟨fun h => ?_, fun h => h ▸ encode_empty⟩
  have hdecoded := decode?_encode s
  rw [h, ← encode_empty, decode?_encode] at hdecoded
  exact (Option.some.inj hdecoded).symm

/-- How a builtin ends whose text was not taken. -/
lemma Builtin.outcome_output (b : Builtin) (cause : IoError) :
    b.outcome (.error (.output cause)) =
      if cause = .os .brokenPipe then .ok 141 else .error (.builtin b.name cause.message) := by
  simp [outcome, Failure.isBrokenPipe, Failure.cause?, Failure.message, brokenPipeStatus]

lemma Report.resultWhere_none (r : Report) : r.resultWhere (fun _ => none) = r.result := by
  simp [resultWhere]

/-- If nothing but standard output is refused. -/
lemma Report.resultWhere_stdout (r : Report) (cause : IoError) :
    r.resultWhere (OutputStream.pick (some cause) none) =
      if r.stdout = "" then r.result else .error (.output cause) := by
  by_cases hout : r.stdout = "" <;> simp [resultWhere, OutputStream.pick, hout]

namespace Machine

/-! ### Refused output -/

variable (b : Builtin) (c : Command) (ctx : Context) (m : Machine)

lemma write_empty (sink : Sink) : m.write sink (encode "") = .ok m := by
  simp [write, encode_empty]

/-- On the machine only the result depends on the output. -/
lemma perform_refused {working failing errors : Sink} {e : IoError} (hworks : working.Works)
    (hrefuses : failing.Refuses e) (herrors : ∀ id, errors ≠ .pipe id) (input : Source) :
    let out := (b.report disk c.args ctx m).1.stdout
    let plain := m.perform b c { input, output := working, errors } ctx
    let failed := m.perform b c { input, output := failing, errors } ctx
    failed.1.2 = plain.1.2 ∧ failed.2.files = plain.2.files ∧
      failed.1.1 = if out = "" then plain.1.1 else b.outcome (.error (.output e)) := by
  have hproper := b.report_isProper disk c.args ctx m
  have hworking : Streams.Whole ⟨input, working, errors⟩ := ⟨hworks.ne_pipe, herrors⟩
  have hfailing : Streams.Whole ⟨input, failing, errors⟩ := ⟨hrefuses.ne_pipe, herrors⟩
  have hplain := perform_eq b c hworking ctx m
  have hfailed := perform_eq b c hfailing ctx m
  rw [hplain, hfailed]
  generalize b.report disk c.args ctx m = reported at hproper
  obtain ⟨r, left⟩ := reported
  dsimp only at hproper ⊢
  cases hresult : r.result with
  | error failure =>
    obtain ⟨hout, -⟩ := hproper.silent failure hresult
    simp only [hout, if_true, and_self]
  | ok status =>
    by_cases hout : r.stdout = ""
    · simp only [hout, write_empty, if_true, and_self]
    · have herr : r.stderr = "" := hproper.one_stream.resolve_left hout
      obtain ⟨m', hwrite, hfiles⟩ := hworks.takes left (encode r.stdout)
      have hrefused := hrefuses left (encode r.stdout) (mt encode_eq_nil_iff.mp hout)
      simp only [hwrite, hrefused, herr, write_empty, hout, if_false, hfiles, and_self]

/-- The same for a worker whose pipe nobody reads. -/
lemma join_work_unread (programs : Programs) (hidle : m.processes = []) {input : Source}
    {pipe : Nat} (hinput : input ≠ .pipe pipe) :
    let reported := b.report disk c.args ctx m
    let worked := m.work b c { input, output := .pipe pipe, errors := .sessionErr } ctx
    let joined := worked.2.join programs worked.1
    joined.2.files = reported.2.files ∧
      joined.1 = if reported.1.stdout = "" then b.outcome reported.1.result else .ok 141 := by
  intro reported worked joined
  have hproper : reported.1.IsProper := b.report_isProper disk c.args ctx m
  have hidle' : reported.2.processes = [] := by
    have hshifts : m.Shifts reported.2 := (disk_shifts m).report b c.args ctx (.refl m)
    generalize reported.2 = left at hshifts
    obtain ⟨-⟩ := hshifts
    exact hidle
  have houtput : (Streams.mk input (.pipe pipe) .sessionErr).output = .pipe pipe := rfl
  have hworked : worked = _ := work_pipe b c houtput ctx m
  have hreported : b.report disk c.args ctx m = reported := rfl
  simp only [hreported] at hworked
  generalize reported = reported at hproper hidle' hworked
  obtain ⟨r, left⟩ := reported
  dsimp only at hproper hidle' hworked ⊢
  cases hresult : r.result with
  | error failure =>
    rw [hresult] at hworked
    have hnext : left.next? = none := by simp [Machine.next?, hidle']
    have hjoined : joined = (b.outcome (.error failure), left.settle programs) := by
      simp only [joined, hworked, join]
    rw [hjoined, settle_of_next? programs hnext, if_pos (hproper.silent failure hresult).1]
    exact ⟨rfl, rfl⟩
  | ok status =>
    rw [hresult] at hworked
    obtain ⟨p, hp, hid, htodo, hfiles⟩ := hasWriter_launch hidle' hinput []
      (writer (encode r.stdout) (encode r.stderr) status).toProc
    have hjoined : joined = worked.2.wait programs p.id := by
      simp only [joined, hworked, join, hid]
    obtain ⟨hstatus, hwait⟩ := hp.wait programs htodo
    have hle := hproper.status_le status hresult
    rw [hjoined, hworked]
    refine ⟨hwait.trans hfiles, hstatus.trans ?_⟩
    simp only [encode_eq_nil_iff]
    split
    · rw [Nat.mod_eq_of_lt (by omega)]
      rfl
    · rfl

/-- The files alone, at a desk where standard output is refused. -/
def refusingDesk (cause : IoError) : Desk FileSystem where
  toDisk := FileSystem.disk
  print stream text := fun fs =>
    (if stream = .stdout ∧ text ≠ "" then .error cause else .ok (), fs)

end Machine

end Shell
