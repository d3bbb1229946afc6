import Mathlib.Logic.Relation
import Mathlib.Order.WellFounded
import Mathlib.Data.List.Chain
import Shell.Proofs.Machine.Desk

/-!
# Workers side by side

Builtins that were given to workers, each with streams and a context of its own, and the moves that
a worker can make: its builtin acts, then its text is written piece by piece, to a pipe only as far
as the pipe has room, and then the worker has finished. Nobody reads the pipes, since builtins read
no input; but once the worker at the other end of a pipe has finished the pipe is broken, and that
is what its writer finds. In one step of the crew one of the workers moves, and nothing is said
about which of them.

Each step brings some worker closer to its end. If the workers are wired one after the other and
none of them writes a file, then they never get stuck before all of them have finished, and what the
last one prints does not depend on the others.
-/

namespace Shell

/-! ### Workers -/

/-- How far a worker has come. -/
inductive Phase
  | ready
  /-- The builtin has acted. These bytes are still to be written, in this order. -/
  | writing (todo : List (Sink × Bytes)) (status : Nat)
  | finished (result : Except Error Nat)

/-- A builtin that is given to a worker. -/
structure Job where
  builtin : Builtin
  command : Command
  streams : Streams
  context : Context

namespace Job

/-- What the builtin does on this machine. -/
def reported (j : Job) (m : Machine) : Report × Machine :=
  j.builtin.report Machine.disk j.command.args j.context m

/-- The phase after the builtin has acted with this report. -/
def acted (j : Job) (r : Report) : Phase :=
  match r.result with
  | .error failure => .finished (j.builtin.outcome (.error failure))
  | .ok status =>
    .writing [(j.streams.output, encode r.stdout), (j.streams.errors, encode r.stderr)] status

/-- The report of the builtin where it has these files and nothing else. -/
def response (j : Job) (fs : FileSystem) : Report :=
  (j.builtin.report FileSystem.disk j.command.args j.context fs).1

end Job

def Phase.isReady : Phase → Bool
  | .ready => true
  | _ => false

/-- A bound on the moves that are left to a worker that is writing. -/
def Phase.left : Phase → Nat
  | .writing todo _ => todo.foldr (fun x n => x.2.length + 1 + n) 1
  | _ => 0

structure Worker where
  job : Job
  phase : Phase := .ready

def Worker.IsFinished (w : Worker) : Prop :=
  ∃ result, w.phase = .finished result

/-- Workers on a machine. -/
structure Crew where
  machine : Machine
  workers : List Worker

namespace Crew

/-- The sink is a pipe whose reader has finished. -/
def IsBroken (c : Crew) (sink : Sink) : Prop :=
  ∃ id, sink = .pipe id ∧ ∃ w ∈ c.workers, w.job.streams.input = .pipe id ∧ w.IsFinished

/-- As many bytes can be written to the sink. Only pipes are limited. -/
def HasRoom (capacity : Nat) (c : Crew) (sink : Sink) (count : Nat) : Prop :=
  ∀ id, sink = .pipe id → ∀ p, c.machine.pipes[id]? = some p → p.size + count ≤ capacity

end Crew

/-- What a worker of a crew can do next: the machine and its own phase afterwards. -/
inductive Worker.Moves (capacity : Nat) (c : Crew) (w : Worker) : Machine → Phase → Prop
  | act (h : w.phase = .ready) :
    Moves capacity c w (w.job.reported c.machine).2 (w.job.acted (w.job.reported c.machine).1)
  | write {sink : Sink} {chunk rest : Bytes} {later : List (Sink × Bytes)} {status : Nat}
      {m : Machine} (h : w.phase = .writing ((sink, chunk ++ rest) :: later) status)
      (hchunk : chunk ≠ []) (hopen : ¬ c.IsBroken sink)
      (hroom : c.HasRoom capacity sink chunk.length)
      (hwrite : c.machine.write sink chunk = .ok m) :
    Moves capacity c w m (.writing ((sink, rest) :: later) status)
  | fail {sink : Sink} {bytes : Bytes} {later : List (Sink × Bytes)} {status : Nat} {e : IoError}
      (h : w.phase = .writing ((sink, bytes) :: later) status) (hbytes : bytes ≠ [])
      (hfail : c.IsBroken sink ∧ e = .os .brokenPipe ∨ c.machine.write sink bytes = .error e) :
    Moves capacity c w c.machine (.finished (w.job.builtin.outcome (.error (.output e))))
  | next {sink : Sink} {later : List (Sink × Bytes)} {status : Nat}
      (h : w.phase = .writing ((sink, []) :: later) status) :
    Moves capacity c w c.machine (.writing later status)
  | finish {status : Nat} (h : w.phase = .writing [] status) :
    Moves capacity c w c.machine (.finished (.ok status))

lemma Worker.Moves.acts {capacity : Nat} {c : Crew} {j : Job} {r : Report} {m : Machine}
    (h : j.reported c.machine = (r, m)) : Moves capacity c { job := j } m (j.acted r) := by
  have hmove : Moves capacity c { job := j } _ _ := .act rfl
  simp only [h] at hmove
  exact hmove

/-- A move is the first one of a worker, or it takes one from those that are left to it. -/
lemma Worker.Moves.decreases {capacity : Nat} {c : Crew} {w : Worker} {m : Machine} {phase : Phase}
    (h : w.Moves capacity c m phase) :
    phase.isReady = false ∧ (w.phase.isReady = true ∨
      w.phase.isReady = false ∧ phase.left < w.phase.left) := by
  cases h with
  | act h =>
    rw [h, Job.acted]
    split <;> exact ⟨rfl, .inl rfl⟩
  | write h hchunk =>
    have hlength := List.length_pos_iff.mpr hchunk
    refine ⟨rfl, .inr ⟨by rw [h]; rfl, ?_⟩⟩
    simp only [h, Phase.left, List.foldr_cons, List.length_append]
    omega
  | fail h =>
    refine ⟨rfl, .inr ⟨by rw [h]; rfl, ?_⟩⟩
    simp only [h, Phase.left, List.foldr_cons]
    omega
  | next h => simp [h, Phase.left, Phase.isReady]
  | finish h => simp [h, Phase.left, Phase.isReady]

namespace Crew

variable {capacity : Nat}

/-- One worker moves. -/
inductive Step (capacity : Nat) : Crew → Crew → Prop
  | move {machine m : Machine} {before after : List Worker} {w : Worker} {phase : Phase}
      (h : w.Moves capacity ⟨machine, before ++ w :: after⟩ m phase) :
    Step capacity ⟨machine, before ++ w :: after⟩ ⟨m, before ++ { w with phase } :: after⟩

/-- What a crew can come to. -/
def Reaches (capacity : Nat) : Crew → Crew → Prop :=
  Relation.ReflTransGen (Step capacity)

/-- No worker can move. -/
def IsStuck (capacity : Nat) (c : Crew) : Prop :=
  ∀ c', ¬ Step capacity c c'

/-- Workers that have finished do not move. -/
lemma isStuck_of_isFinished {capacity : Nat} {c : Crew} (h : ∀ w ∈ c.workers, w.IsFinished) :
    c.IsStuck capacity := by
  rintro _ ⟨hmove⟩
  obtain ⟨result, hphase⟩ := h _ (List.mem_append_right _ List.mem_cons_self)
  cases hmove with
  | act h | write h | fail h | next h | finish h => cases hphase.symm.trans h

/-! ### Every interleaving ends -/

/-- A bound on the moves that are left to those workers that are writing. -/
def left (workers : List Worker) : Nat :=
  workers.foldr (fun w n => w.phase.left + n) 0

lemma left_append (workers others : List Worker) :
    left (workers ++ others) = left workers + left others := by
  induction workers with
  | nil => simp [left]
  | cons w workers ih =>
    simp only [left, List.cons_append, List.foldr_cons] at ih ⊢
    rw [ih, Nat.add_assoc]

/-- How many workers have not acted yet, and the moves that are left to the others. -/
def measure (c : Crew) : Nat × Nat :=
  (c.workers.countP fun w => w.phase.isReady, left c.workers)

lemma Step.measure_lt {c c' : Crew} (h : Step capacity c c') :
    Prod.Lex (· < ·) (· < ·) c'.measure c.measure := by
  obtain ⟨hmove⟩ := h
  obtain ⟨hready', hready | ⟨hready, hleft⟩⟩ := hmove.decreases
  · refine .left _ _ ?_
    simp [hready, hready']
  · simp only [measure, List.countP_append, List.countP_cons, hready, hready', left_append]
    refine .right _ (Nat.add_lt_add_left ?_ _)
    exact Nat.add_lt_add_right hleft _

/-- There is no endless interleaving. -/
theorem wellFounded_step (capacity : Nat) : WellFounded fun c' c => Step capacity c c' := by
  have hlex : WellFounded (Prod.Lex (· < ·) (· < · : Nat → Nat → Prop)) :=
    (Prod.lex Nat.lt_wfRel Nat.lt_wfRel).wf
  exact Subrelation.wf (fun h => h.measure_lt) (InvImage.wf measure hlex)

/-- So every crew comes to a point at which no worker can move. -/
lemma exists_reaches_isStuck (capacity : Nat) (c : Crew) :
    ∃ c', Reaches capacity c c' ∧ c'.IsStuck capacity := by
  induction c using (wellFounded_step capacity).induction with
  | h c ih =>
    by_cases hstuck : c.IsStuck capacity
    · exact ⟨c, .refl, hstuck⟩
    · rw [IsStuck, not_forall_not] at hstuck
      obtain ⟨c', hstep⟩ := hstuck
      obtain ⟨c'', hreaches, hstuck⟩ := ih c' hstep
      exact ⟨c'', .head hstep hreaches, hstuck⟩

/-! ### What a worker has written -/

end Crew

/-- The sinks of a builtin in a pipeline without redirection. Writing to them does not fail. -/
def Sink.IsStream : Sink → Prop
  | .sessionOut | .sessionErr | .pipe _ => True
  | _ => False

lemma Machine.write_stream (m : Machine) (sink : Sink) (h : sink.IsStream) (bytes : Bytes) :
    ∃ m', m.write sink bytes = .ok m' ∧ m'.files = m.files ∧
      m'.session.stdout.bytes =
        m.session.stdout.bytes ++ if sink = .sessionOut then bytes else [] := by
  unfold write
  split
  · rename_i hempty
    obtain rfl := List.isEmpty_iff.mp hempty
    exact ⟨m, rfl, rfl, by simp⟩
  · cases sink with
    | sessionOut => exact ⟨_, rfl, rfl, rfl⟩
    | sessionErr => exact ⟨_, rfl, rfl, by simp [Session.writeErr]⟩
    | pipe id => exact ⟨_, rfl, rfl, by simp⟩
    | file | capture | closed => exact h.elim

/-- A worker has acted on these files, if it has acted, and written these bytes to its output. -/
inductive Worker.Wrote (fs : FileSystem) (w : Worker) : Bytes → Prop
  | ready (h : w.phase = .ready) : Wrote fs w []
  | failed {failure : Failure} (hresult : (w.job.response fs).result = .error failure)
      (h : w.phase = .finished (w.job.builtin.outcome (.error failure))) : Wrote fs w []
  | output {written rest : Bytes} {status : Nat} (hresult : (w.job.response fs).result = .ok status)
      (hout : written ++ rest = encode (w.job.response fs).stdout)
      (h : w.phase = .writing [(w.job.streams.output, rest),
        (w.job.streams.errors, encode (w.job.response fs).stderr)] status) : Wrote fs w written
  | errors {rest : Bytes} {status : Nat} (hresult : (w.job.response fs).result = .ok status)
      (h : w.phase = .writing [(w.job.streams.errors, rest)] status) :
    Wrote fs w (encode (w.job.response fs).stdout)
  | done {status : Nat} (hresult : (w.job.response fs).result = .ok status)
      (h : w.phase = .writing [] status) : Wrote fs w (encode (w.job.response fs).stdout)
  | finished {status : Nat} (hresult : (w.job.response fs).result = .ok status)
      (h : w.phase = .finished (.ok status)) : Wrote fs w (encode (w.job.response fs).stdout)
  | broken {written : Bytes} {id : Nat} (hpipe : w.job.streams.output = .pipe id)
      (h : w.phase = .finished (.ok Builtin.brokenPipeStatus)) : Wrote fs w written

namespace Worker

variable {fs : FileSystem} {w : Worker} {written : Bytes}

lemma Wrote.eq_nil (h : w.Wrote fs written) (hphase : w.phase = .ready) : written = [] := by
  cases h with
  | ready | failed => rfl
  | output _ _ h' | errors _ h' | done _ h' | finished _ h' | broken _ h' =>
    rw [hphase] at h'
    cases h'

/-- While a worker is writing, what it still has to write to its output goes on with what it wrote.
-/
lemma Wrote.todo_cases (h : w.Wrote fs written) {todo : List (Sink × Bytes)} {status : Nat}
    (hphase : w.phase = .writing todo status) :
    (w.job.response fs).result = .ok status ∧
      ((∃ rest, written ++ rest = encode (w.job.response fs).stdout ∧
        todo = [(w.job.streams.output, rest),
          (w.job.streams.errors, encode (w.job.response fs).stderr)]) ∨
      written = encode (w.job.response fs).stdout ∧
        (todo = [] ∨ ∃ rest, todo = [(w.job.streams.errors, rest)])) := by
  cases h with
  | output hresult hout h' =>
    cases hphase.symm.trans h'
    exact ⟨hresult, .inl ⟨_, hout, rfl⟩⟩
  | errors hresult h' =>
    cases hphase.symm.trans h'
    exact ⟨hresult, .inr ⟨rfl, .inr ⟨_, rfl⟩⟩⟩
  | done hresult h' =>
    cases hphase.symm.trans h'
    exact ⟨hresult, .inr ⟨rfl, .inl rfl⟩⟩
  | ready h' | failed _ h' | finished _ h' | broken _ h' => cases hphase.symm.trans h'

/-- The errors of a worker are those of its builtin. -/
lemma Wrote.reportsToStdout (h : w.Wrote fs written) {e : Error}
    (hphase : w.phase = .finished (.error e)) : e.reportsToStdout = false := by
  cases h with
  | @failed failure _ h' =>
    have houtcome := Phase.finished.inj (hphase.symm.trans h')
    unfold Builtin.outcome at houtcome
    dsimp only at houtcome
    split at houtcome <;> cases houtcome
    rfl
  | ready h' | output _ _ h' | errors _ h' | done _ h' | finished _ h' | broken _ h' =>
    cases hphase.symm.trans h'

end Worker

/-- The builtin leaves the machine as it is and finds nothing on it but these files. Its text goes
to the session or to a pipe, and its errors go to the session. -/
structure Job.IsPlain (fs : FileSystem) (j : Job) : Prop where
  output : j.streams.output = .sessionOut ∨ ∃ id, j.streams.output = .pipe id
  errors : j.streams.errors = .sessionErr
  reported : ∀ m : Machine, m.files = fs → j.reported m = (j.response fs, m)

lemma Job.IsPlain.output_isStream {fs : FileSystem} {j : Job} (h : j.IsPlain fs) :
    j.streams.output.IsStream := by
  rcases h.output with hout | ⟨id, hout⟩ <;> rw [hout] <;> trivial

/-- One move goes on with what was written, and only what is written to the session shows there. -/
lemma Worker.Moves.wrote {capacity : Nat} {c : Crew} {w : Worker} {m : Machine} {phase : Phase}
    (h : w.Moves capacity c m phase) (hplain : w.job.IsPlain c.machine.files) {written : Bytes}
    (hw : w.Wrote c.machine.files written) :
    m.files = c.machine.files ∧
    ∃ more, Wrote c.machine.files { w with phase } (written ++ more) ∧
      m.session.stdout.bytes = c.machine.session.stdout.bytes ++
        if w.job.streams.output = .sessionOut then more else [] := by
  have herr : w.job.streams.errors ≠ .sessionOut := by simp [hplain.errors]
  cases h with
  | act h =>
    obtain rfl := hw.eq_nil h
    rw [hplain.reported c.machine rfl]
    refine ⟨rfl, [], ?_, by simp⟩
    cases hresult : (w.job.response c.machine.files).result with
    | error failure => exact .failed hresult (by simp [Job.acted, hresult])
    | ok status => exact .output hresult (List.nil_append _) (by simp [Job.acted, hresult])
  | @write sink chunk rest later status m h hchunk _ _ hwrite =>
    obtain ⟨hresult, ⟨todo, hout, htodo⟩ | ⟨rfl, htodo | ⟨todo, htodo⟩⟩⟩ := hw.todo_cases h
    · -- a piece of what is printed
      cases htodo
      obtain ⟨m', hwrite', hfiles, hstdout⟩ :=
        c.machine.write_stream _ hplain.output_isStream chunk
      cases hwrite.symm.trans hwrite'
      rw [← List.append_assoc] at hout
      exact ⟨hfiles, chunk, .output hresult hout rfl, hstdout⟩
    · cases htodo
    · -- a piece of the errors
      cases htodo
      have hstream : w.job.streams.errors.IsStream := by simp [hplain.errors, Sink.IsStream]
      obtain ⟨m', hwrite', hfiles, hstdout⟩ := c.machine.write_stream _ hstream chunk
      cases hwrite.symm.trans hwrite'
      rw [if_neg herr] at hstdout
      exact ⟨hfiles, [], by simpa using .errors hresult rfl, by simpa using hstdout⟩
  | @fail sink bytes later status e h hbytes hfail =>
    have hsink : sink = w.job.streams.output ∨ sink = .sessionErr := by
      obtain ⟨-, ⟨todo, -, htodo⟩ | ⟨-, htodo | ⟨todo, htodo⟩⟩⟩ := hw.todo_cases h
      · exact .inl (by cases htodo; rfl)
      · cases htodo
      · exact .inr (by cases htodo; exact hplain.errors)
    rcases hfail with ⟨⟨id, hid, -⟩, rfl⟩ | hfail
    · have hpipe : w.job.streams.output = .pipe id := by
        rcases hsink with hsink | hsink
        · rw [← hsink, hid]
        · rw [hsink] at hid
          cases hid
      exact ⟨rfl, [], .broken hpipe rfl, by simp⟩
    · -- no other failure is possible
      have hstream : sink.IsStream := by
        rcases hsink with rfl | rfl
        · exact hplain.output_isStream
        · trivial
      obtain ⟨m', hwrite, -⟩ := c.machine.write_stream _ hstream bytes
      cases hfail.symm.trans hwrite
  | @next sink later status h =>
    refine ⟨rfl, [], ?_, by simp⟩
    rw [List.append_nil]
    obtain ⟨hresult, ⟨todo, hout, htodo⟩ | ⟨rfl, htodo | ⟨todo, htodo⟩⟩⟩ := hw.todo_cases h
    · cases htodo
      rw [List.append_nil] at hout
      rw [hout]
      exact .errors hresult rfl
    · cases htodo
    · cases htodo
      exact .done hresult rfl
  | finish h =>
    refine ⟨rfl, [], ?_, by simp⟩
    rw [List.append_nil]
    obtain ⟨hresult, ⟨todo, -, htodo⟩ | ⟨rfl, -⟩⟩ := hw.todo_cases h
    · cases htodo
    · exact .finished hresult rfl

/-! ### What a crew has printed -/

/-- One job writes to the pipe that the other one reads. -/
def Job.Feeds (j k : Job) : Prop :=
  ∃ id, j.streams.output = .pipe id ∧ k.streams.input = .pipe id

/-- Jobs that leave the files as they are, each feeding the next. -/
structure IsLine (fs : FileSystem) (jobs : List Job) : Prop where
  plain : ∀ j ∈ jobs, j.IsPlain fs
  chain : jobs.IsChain Job.Feeds

lemma IsLine.of_append {fs : FileSystem} {jobs rest : List Job} (h : IsLine fs (jobs ++ rest)) :
    IsLine fs jobs :=
  ⟨fun j hj => h.plain j (List.mem_append_left rest hj), h.chain.left_of_append⟩

/-- Only the last worker can have written to the session, and these bytes are what it wrote. -/
def Shows (fs : FileSystem) (workers : List Worker) (shown : Bytes) : Prop :=
  match workers.getLast? with
  | none => shown = []
  | some w => if w.job.streams.output = .sessionOut then w.Wrote fs shown else shown = []

lemma shows_concat {fs : FileSystem} {workers : List Worker} {w : Worker} {shown : Bytes} :
    Shows fs (workers ++ [w]) shown ↔
      if w.job.streams.output = .sessionOut then w.Wrote fs shown else shown = [] := by
  simp [Shows]

lemma shows_append_cons {fs : FileSystem} {before after : List Worker} {w u : Worker}
    {shown : Bytes} :
    Shows fs (before ++ w :: u :: after) shown ↔ Shows fs (u :: after) shown := by
  rw [Shows, Shows, List.append_cons, List.getLast?_append_of_ne_nil _ (List.cons_ne_nil u after)]

namespace Crew

variable {capacity : Nat} {fs : FileSystem} {jobs : List Job} {base : Bytes} {c c' : Crew}

/-- A crew that does these jobs on these files, and whose last worker has gone on with `base`. -/
structure Sound (jobs : List Job) (fs : FileSystem) (base : Bytes) (c : Crew) : Prop where
  jobs : c.workers.map Worker.job = jobs
  files : c.machine.files = fs
  wrote : ∀ w ∈ c.workers, ∃ written, w.Wrote fs written
  shows : ∃ shown, c.machine.session.stdout.bytes = base ++ shown ∧ Shows fs c.workers shown

/-- Nothing is known of the machine but the files and what was printed. -/
lemma Sound.of_machine (h : Sound jobs fs base c) {m : Machine} (hfiles : m.files = c.machine.files)
    (hstdout : m.session.stdout = c.machine.session.stdout) :
    Sound jobs fs base { c with machine := m } := by
  refine ⟨h.jobs, hfiles.trans h.files, h.wrote, ?_⟩
  rw [hstdout]
  exact h.shows

/-- A worker feeds the next one. -/
lemma Sound.feeds (h : Sound jobs fs base c) (hline : IsLine fs jobs)
    {before after : List Worker} {w u : Worker} (hworkers : c.workers = before ++ w :: u :: after) :
    w.job.Feeds u.job := by
  have hchain := hline.chain
  rw [← h.jobs, hworkers, List.map_append, List.map_cons, List.map_cons,
    List.isChain_append_cons_cons] at hchain
  exact hchain.2.1

/-- One step. Either the last worker goes on with what it wrote, or nothing shows. -/
lemma Sound.step (h : Sound jobs fs base c) (hline : IsLine fs jobs) (hstep : Step capacity c c') :
    Sound jobs fs base c' := by
  obtain ⟨hmove⟩ := hstep
  rename_i machine m before after w phase
  obtain rfl := h.files
  have hplain : w.job.IsPlain machine.files :=
    hline.plain _ (by rw [← h.jobs]; exact List.mem_map_of_mem (by simp))
  obtain ⟨shown, hstdout, hshows⟩ := h.shows
  have hothers : ∀ written, Worker.Wrote machine.files { w with phase } written →
      ∀ u ∈ before ++ { w with phase } :: after, ∃ written, u.Wrote machine.files written := by
    intro written hw u hu
    rcases List.mem_append.mp hu with hu | hu
    · exact h.wrote u (by simp [hu])
    rcases List.mem_cons.mp hu with rfl | hu
    · exact ⟨written, hw⟩
    · exact h.wrote u (by simp [hu])
  have hjobs : (before ++ { w with phase } :: after).map Worker.job = jobs := by
    rw [← h.jobs]
    simp
  by_cases hout : w.job.streams.output = .sessionOut
  · obtain rfl : after = [] := by
      cases after with
      | nil => rfl
      | cons u after =>
        obtain ⟨id, hpipe, -⟩ := h.feeds hline rfl
        rw [hpipe] at hout
        cases hout
    rw [shows_concat, if_pos hout] at hshows
    obtain ⟨hfiles, more, hw, hm⟩ := hmove.wrote hplain hshows
    rw [if_pos hout] at hm
    refine ⟨hjobs, hfiles, hothers _ hw, shown ++ more, ?_, ?_⟩
    · rw [hm, hstdout, List.append_assoc]
    · rw [shows_concat, if_pos hout]
      exact hw
  · obtain ⟨written, hwritten⟩ := h.wrote w (by simp)
    obtain ⟨hfiles, more, hw, hm⟩ := hmove.wrote hplain hwritten
    rw [if_neg hout, List.append_nil] at hm
    refine ⟨hjobs, hfiles, hothers _ hw, shown, hm.trans hstdout, ?_⟩
    cases after with
    | nil =>
      rw [shows_concat, if_neg hout] at hshows ⊢
      exact hshows
    | cons u after => exact shows_append_cons.mpr (shows_append_cons.mp hshows)

lemma Sound.reaches (h : Sound jobs fs base c) (hline : IsLine fs jobs)
    (hreaches : Reaches capacity c c') : Sound jobs fs base c' := by
  induction hreaches with
  | refl => exact h
  | tail _ hstep ih => exact ih.step hline hstep

/-- Another worker is added at the end. The one before it feeds it, so nothing was printed yet. -/
lemma Sound.add {j : Job} (h : Sound jobs fs base c) (hline : IsLine fs (jobs ++ [j])) :
    Sound (jobs ++ [j]) fs base { c with workers := c.workers ++ [{ job := j }] } := by
  obtain ⟨shown, hstdout, hshows⟩ := h.shows
  obtain rfl : shown = [] := by
    rcases List.eq_nil_or_concat c.workers with hnil | ⟨before, w, hconcat⟩
    · rw [hnil] at hshows
      exact hshows
    · have hchain := hline.chain
      rw [← h.jobs, hconcat, List.concat_eq_append, List.map_append, List.map_singleton,
        List.append_assoc, List.singleton_append, List.isChain_append_cons_cons] at hchain
      obtain ⟨id, hout, -⟩ := hchain.2.1
      rw [hconcat, List.concat_eq_append, shows_concat, if_neg (by simp [hout])] at hshows
      exact hshows
  refine ⟨by simp [h.jobs], h.files, fun w hw => ?_, [], hstdout, ?_⟩
  · rcases List.mem_append.mp hw with hw | hw
    · exact h.wrote w hw
    · rw [List.mem_singleton.mp hw]
      exact ⟨[], .ready rfl⟩
  · rw [shows_concat]
    split
    · exact .ready rfl
    · rfl

/-! ### No deadlock -/

/-- A list with an element that is not `P` has a last one. -/
lemma exists_last_not {α : Type} {P : α → Prop} {l : List α} (h : ¬ ∀ a ∈ l, P a) :
    ∃ before a after, l = before ++ a :: after ∧ ¬ P a ∧ ∀ b ∈ after, P b := by
  induction l with
  | nil => exact absurd (by simp) h
  | cons a l ih =>
    by_cases hl : ∀ b ∈ l, P b
    · refine ⟨[], a, l, rfl, fun ha => h ?_, hl⟩
      simpa using ⟨ha, hl⟩
    · obtain ⟨before, b, after, rfl, hb, hafter⟩ := ih hl
      exact ⟨a :: before, b, after, rfl, hb, hafter⟩

/-- The last worker that has not finished can move: a pipe to the next one is broken. -/
lemma Sound.isFinished_of_isStuck (h : Sound jobs fs base c) (hline : IsLine fs jobs)
    (hlast : ∀ j ∈ jobs.getLast?, j.streams.output = .sessionOut) (hstuck : c.IsStuck capacity) :
    ∀ w ∈ c.workers, w.IsFinished := by
  by_contra hnot
  obtain ⟨before, w, after, hworkers, hw, hafter⟩ := exists_last_not hnot
  obtain ⟨machine, workers⟩ := c
  obtain rfl : workers = before ++ w :: after := hworkers
  have hmoves : ∀ m phase, ¬ w.Moves capacity ⟨machine, before ++ w :: after⟩ m phase :=
    fun m phase hmove => hstuck _ (.move hmove)
  obtain rfl := h.files
  have hplain : w.job.IsPlain machine.files :=
    hline.plain _ (by rw [← h.jobs]; exact List.mem_map_of_mem (by simp))
  -- a sink that is no pipe takes all that is left
  have hwrite : ∀ {sink rest later status}, w.phase = .writing ((sink, rest) :: later) status →
      sink.IsStream → (∀ id, sink ≠ .pipe id) → False := by
    intro sink rest later status hphase hstream hpipe
    cases rest with
    | nil => exact hmoves _ _ (.next hphase)
    | cons b rest =>
      obtain ⟨m, hm, -⟩ := machine.write_stream sink hstream (b :: rest)
      rw [← List.append_nil (b :: rest)] at hphase
      refine hmoves m _ (.write hphase (List.cons_ne_nil b rest) ?_ ?_ hm)
      · rintro ⟨id, hid, -⟩
        exact hpipe id hid
      · intro id hid
        exact absurd hid (hpipe id)
  obtain ⟨written, hwritten⟩ := h.wrote w (by simp)
  cases hwritten with
  | ready hphase => exact hmoves _ _ (.act hphase)
  | failed _ hphase | finished _ hphase | broken _ hphase => exact hw ⟨_, hphase⟩
  | done _ hphase => exact hmoves _ _ (.finish hphase)
  | errors _ hphase =>
    rw [hplain.errors] at hphase
    exact hwrite hphase trivial (by simp)
  | @output written rest status _ _ hphase =>
    rcases hplain.output with hout | ⟨id, hout⟩
    · rw [hout] at hphase
      exact hwrite hphase trivial (by simp)
    · cases after with
      | nil =>
        have hend := hlast w.job (by rw [← h.jobs]; simp)
        rw [hout] at hend
        cases hend
      | cons u after =>
        obtain ⟨id', hout', hinput⟩ := h.feeds hline rfl
        cases rest with
        | nil => exact hmoves _ _ (.next hphase)
        | cons b rest =>
          refine hmoves _ _
            (.fail hphase (List.cons_ne_nil b rest) (.inl ⟨⟨id', hout', u, ?_⟩, rfl⟩))
          exact ⟨by simp, hinput, hafter u List.mem_cons_self⟩

/-! ### Workers that have finished -/

/-- A worker that has finished moves no more. -/
lemma Step.getElem?_of_isFinished (hstep : Step capacity c c') {i : Nat} {w : Worker}
    (hw : c.workers[i]? = some w) (hfinished : w.IsFinished) : c'.workers[i]? = some w := by
  obtain ⟨hmove⟩ := hstep
  rename_i machine m before after u phase
  have hi : i ≠ before.length := by
    rintro rfl
    obtain rfl : u = w := by simpa using hw
    obtain ⟨result, hresult⟩ := hfinished
    cases hmove with
    | act h | write h | fail h | next h | finish h => cases hresult.symm.trans h
  have hset : before ++ { u with phase } :: after =
      (before ++ u :: after).set before.length { u with phase } := by simp
  simp only [hset]
  rw [List.getElem?_set_ne (Ne.symm hi)]
  exact hw

/-- The workers that have finished are the same afterwards. -/
def Onward (c c' : Crew) : Prop :=
  ∀ (i : Nat) (w : Worker), c.workers[i]? = some w → w.IsFinished → c'.workers[i]? = some w

lemma Onward.trans {c'' : Crew} (h : Onward c c') (h' : Onward c' c'') : Onward c c'' :=
  fun i w hw hfinished => h' i w (h i w hw hfinished) hfinished

lemma Reaches.onward (h : Reaches capacity c c') : Onward c c' := by
  induction h with
  | refl => exact fun i w hw _ => hw
  | tail _ hstep ih =>
    exact ih.trans fun i w hw hfinished => hstep.getElem?_of_isFinished hw hfinished

end Crew

/-- A builtin that prints to the session carried out by the shell itself. -/
def Job.alone (j : Job) (m : Machine) : (Except Error Nat × Context) × Machine :=
  m.perform j.builtin j.command { input := .session, output := .sessionOut, errors := .sessionErr }
    j.context

/-- The builtin ends with an error, or it prints all its text. -/
lemma Job.IsPlain.alone_cases {j : Job} {m : Machine} (h : j.IsPlain m.files) :
    (∃ failure, (j.response m.files).result = .error failure ∧
      (j.alone m).1.1 = j.builtin.outcome (.error failure) ∧
      (j.alone m).2.session.stdout.bytes = m.session.stdout.bytes) ∨
    ∃ status, (j.response m.files).result = .ok status ∧ (j.alone m).1.1 = .ok status ∧
      (j.alone m).2.session.stdout.bytes =
        m.session.stdout.bytes ++ encode (j.response m.files).stdout := by
  have hreported : j.builtin.report Machine.disk j.command.args j.context m =
      (j.response m.files, m) := h.reported m rfl
  rw [alone, Machine.perform_eq j.builtin j.command Streams.whole_session, hreported]
  generalize j.response m.files = r
  dsimp only
  cases hresult : r.result with
  | error failure => exact .inl ⟨failure, rfl, rfl, rfl⟩
  | ok status =>
    obtain ⟨m₁, hwrite₁, -, hstdout₁⟩ := m.write_stream .sessionOut trivial (encode r.stdout)
    obtain ⟨m₂, hwrite₂, -, hstdout₂⟩ := m₁.write_stream .sessionErr trivial (encode r.stderr)
    refine .inr ⟨status, rfl, ?_⟩
    simp [hwrite₁, hwrite₂, hstdout₁, hstdout₂]

/-- Only the files and what was printed before matter to the builtin. -/
lemma Job.IsPlain.alone_congr {j : Job} {m m' : Machine} (h : j.IsPlain m.files)
    (hfiles : m'.files = m.files) (hstdout : m'.session.stdout = m.session.stdout) :
    (j.alone m').1.1 = (j.alone m).1.1 ∧
      (j.alone m').2.session.stdout = (j.alone m).2.session.stdout := by
  have hcases := IsPlain.alone_cases (m := m') (hfiles ▸ h)
  rw [hfiles, hstdout] at hcases
  obtain ⟨failure, hresult, hend, hbytes⟩ | ⟨status, hresult, hend, hbytes⟩ := h.alone_cases <;>
  obtain ⟨failure', hresult', hend', hbytes'⟩ | ⟨status', hresult', hend', hbytes'⟩ := hcases <;>
  cases hresult.symm.trans hresult'
  all_goals exact ⟨hend'.trans hend.symm, congrArg SharedOutput.mk (hbytes'.trans hbytes.symm)⟩

/-- A worker that printed to the session has finished like the builtin alone. -/
lemma Worker.Wrote.eq_alone {w : Worker} {m : Machine} {shown : Bytes} (h : w.Wrote m.files shown)
    (hplain : w.job.IsPlain m.files) (hout : w.job.streams.output = .sessionOut)
    {result : Except Error Nat}
    (hphase : w.phase = .finished result) :
    result = (w.job.alone m).1.1 ∧
      m.session.stdout.bytes ++ shown = (w.job.alone m).2.session.stdout.bytes := by
  cases h with
  | failed hresult h' =>
    obtain rfl := Phase.finished.inj (hphase.symm.trans h')
    obtain ⟨failure, hresult', hend, hbytes⟩ | ⟨status, hresult', -⟩ := hplain.alone_cases
    · cases hresult.symm.trans hresult'
      exact ⟨hend.symm, by rw [hbytes, List.append_nil]⟩
    · cases hresult.symm.trans hresult'
  | finished hresult h' =>
    cases hphase.symm.trans h'
    obtain ⟨failure, hresult', -⟩ | ⟨status, hresult', hend, hbytes⟩ := hplain.alone_cases
    · cases hresult.symm.trans hresult'
    · cases hresult.symm.trans hresult'
      exact ⟨hend.symm, hbytes.symm⟩
  | broken hpipe =>
    rw [hpipe] at hout
    cases hout
  | ready h' | output _ _ h' | errors _ h' | done _ h' => cases hphase.symm.trans h'

/-- When the last worker has finished, all that was printed is what its builtin prints alone. -/
lemma Crew.Sound.eq_alone {jobs : List Job} {j : Job} {m : Machine} {c : Crew}
    (h : Sound (jobs ++ [j]) m.files m.session.stdout.bytes c) (hplain : j.IsPlain m.files)
    (hout : j.streams.output = .sessionOut) {w : Worker} (hw : c.workers.getLast? = some w)
    {result : Except Error Nat} (hphase : w.phase = .finished result) :
    result = (j.alone m).1.1 ∧ c.machine.session.stdout = (j.alone m).2.session.stdout := by
  obtain rfl : w.job = j := by
    have hlast := congrArg List.getLast? h.jobs
    rw [List.getLast?_map, hw, List.getLast?_concat] at hlast
    exact Option.some.inj hlast
  obtain ⟨shown, hstdout, hshows⟩ := h.shows
  rw [Shows, hw] at hshows
  dsimp only at hshows
  rw [if_pos hout] at hshows
  obtain ⟨hresult, hbytes⟩ := hshows.eq_alone hplain hout hphase
  exact ⟨hresult, congrArg SharedOutput.mk (hstdout.trans hbytes)⟩

end Shell
