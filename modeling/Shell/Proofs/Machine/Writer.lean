import Mathlib.Tactic.NormNum
import Shell.Proofs.Machine.Frame

/-!
# The process of a worker

A builtin whose text goes to a pipe writes it in a process of its own. If nobody reads the pipe then
the first request to write is refused, and the process ends as one whose reader went away
(`Machine.HasWriter.wait`). It ends with the status of the builtin if there is nothing to print.
-/

namespace Shell

/-! ### What the process does -/

namespace Task

lemma writeAll_nil (stream turns : Nat) : writeAll stream [] turns = pure (.ok ()) := by
  cases turns <;> rfl

/-- Bytes are written by a request, which may be refused or be answered for all of them. -/
lemma writeAll_of_ne {bytes : Bytes} (h : bytes ≠ []) (stream : Nat)
    (k : Except Errno Unit → Proc) :
    ∃ next, writeAll stream bytes patience k = .call (.write stream bytes) next ∧
      (∀ cause, next (.error cause) = k (.error cause)) ∧
      next (.ok bytes.length) = k (.ok ()) := by
  obtain ⟨n, hn⟩ : ∃ n, patience = n + 1 := ⟨2 ^ 40 - 1, by norm_num [patience]⟩
  rw [hn, writeAll, if_neg (by simpa using h)]
  refine ⟨_, rfl, fun cause => rfl, ?_⟩
  dsimp only
  rw [List.drop_length, writeAll_nil]
  rfl

end Task

namespace Machine

/-- A builtin that prints starts with a request, and ends with 141 if it is refused. -/
lemma writer_of_ne {out : Bytes} (h : out ≠ []) (err : Bytes) (status : Nat) :
    ∃ next, (writer out err status).toProc = .call (.write 1 out) next ∧
      ∀ cause, next (.error cause) = .exit Builtin.brokenPipeStatus := by
  obtain ⟨next, hcall, herror, -⟩ := Task.writeAll_of_ne h 1 _
  exact ⟨next, hcall, fun cause => herror cause⟩

lemma writer_nil_nil (status : Nat) : (writer [] [] status).toProc = .exit status := by
  simp only [writer, Task.writeAll_nil]
  rfl

lemma writer_nil {err : Bytes} (h : err ≠ []) (status : Nat) :
    ∃ next, (writer [] err status).toProc = .call (.write 2 err) next ∧
      next (.ok err.length) = .exit status := by
  obtain ⟨next, hcall, -, hok⟩ := Task.writeAll_of_ne h 2 _
  exact ⟨next, hcall, hok⟩

/-! ### Requests to write -/

section

variable {m : Machine} {p : Process} {number stream pipe : Nat} {o : Opened} (bytes : Bytes)

lemma serveWrite_unread (hstream : m.stream? p number = some (stream, o))
    (hwritable : o.writable = true) (hchannel : o.channel = .pipe pipe)
    (hunread : m.hasReader pipe = false) :
    m.serveWrite p number bytes =
      .answered (.error .brokenPipe) p m (some (p.id, pipeSignal)) := by
  simp [serveWrite, hstream, hwritable, hchannel, hunread]

lemma serveWrite_errors (hstream : m.stream? p number = some (stream, o))
    (hwritable : o.writable = true) (hchannel : o.channel = .errors) :
    m.serveWrite p number bytes =
      .answered (.ok bytes.length) p { m with session := m.session.writeErr bytes } := by
  simp [serveWrite, hstream, hwritable, hchannel]

end

lemma deliver_ignored {m : Machine} {p : Process} (halive : p.ending = none)
    (hignored : pipeSignal ∈ p.ignored) (time : Nat) : m.deliver p pipeSignal time = m := by
  have hlive : p.alive = true := by simp [Process.alive, halive]
  rw [deliver, hlive, if_neg (by decide), if_neg (by decide), if_pos (by simpa using hignored)]

/-! ### A machine with one process -/

/-- One process is left that can act, a child of the shell. -/
structure HasOnly (m : Machine) (p : Process) : Prop where
  processes : m.processes = [p]
  id : p.id ≠ shellId
  parent : p.parent = shellId
  alive : p.ending = none
  unblocked : p.blocked = false

lemma exists_patience_eq : ∃ n, patience = n + 2 :=
  ⟨2 ^ 40 - 2, by norm_num [patience]⟩

variable {m : Machine} {p : Process} (programs : Programs)

namespace HasOnly

lemma next? (h : m.HasOnly p) : m.next? = some p := by
  simp [Machine.next?, h.processes, Process.alive, h.alive, h.unblocked]

lemma process? (h : m.HasOnly p) : m.process? p.id = some p := by
  simp [Machine.process?, h.processes]

lemma isDone (h : m.HasOnly p) : Machine.isDone p.id m = false := by
  simp [Machine.isDone, h.process?, Process.alive, h.alive]

lemma runUntil_succ (h : m.HasOnly p) (turns : Nat) :
    m.runUntil programs (Machine.isDone p.id) (turns + 1) =
      (m.act programs p).runUntil programs (Machine.isDone p.id) turns := by
  rw [runUntil, h.isDone, h.next?]
  rfl

/-- It ends, and then nobody can act any more. -/
lemma act_exit (h : m.HasOnly p) {code : Nat} (htodo : p.todo = .exit code) :
    let m' := m.act programs p
    m'.next? = none ∧ Machine.isDone p.id m' = true ∧
      (m'.process? p.id).bind Process.ending = some (.exited code) ∧ m'.files = m.files := by
  intro m'
  have hfinish : m' = { m with
      clock := max m.clock p.clock
      processes := [{ p with ending := some (.exited code), descriptors := [], blocked := false
                             todo := .exit 0 }] } := by
    have hparent : shellId ≠ p.id := fun heq => h.id heq.symm
    simp only [m', act, htodo, finish, h.processes, h.parent, hparent, List.map_cons, List.map_nil,
      if_true, if_false, decide_true, Bool.true_or, wake]
    simp [shellId, Process.alive]
  refine ⟨?_, ?_, ?_, by rw [hfinish]⟩
  · simp [Machine.next?, hfinish, Process.alive]
  · simp [Machine.isDone, Machine.process?, hfinish, Process.alive, isHeld]
  · simp [Machine.process?, hfinish]

/-- It goes on after a request that was answered. A signal that it ignores makes no difference. -/
lemma act_answered (h : m.HasOnly p) {r : Request} {next : r.Answer → Proc}
    (htodo : p.todo = .call r next) {answer : r.Answer} {m' : Machine} {signal : Option (Nat × Nat)}
    (hserve : { m with clock := max m.clock p.clock }.serve programs p r =
      .answered answer p m' signal)
    (hprocesses : m'.processes = [p])
    (hsignal : signal = none ∨ signal = some (p.id, pipeSignal) ∧ pipeSignal ∈ p.ignored) :
    m.act programs p =
      { m' with processes := [{ p with todo := next answer, clock := p.clock + r.cost }] } := by
  have hput : m'.put { p with todo := next answer, clock := p.clock + r.cost } =
      { m' with processes := [{ p with todo := next answer, clock := p.clock + r.cost }] } := by
    simp [put, hprocesses]
  rw [act, htodo]
  simp only [hserve, hput]
  rcases hsignal with rfl | ⟨rfl, hignored⟩
  · rfl
  · simp [Machine.process?, deliver_ignored, h.alive, hignored]

end HasOnly

lemma runUntil_of_done {done : Machine → Bool} (h : done m = true) (turns : Nat) :
    m.runUntil programs done turns = m := by
  cases turns with
  | zero => rfl
  | succ turns => rw [runUntil, if_pos h]

/-- Time passes, but nobody acts. -/
lemma settle_of_next? (h : m.next? = none) :
    m.settle programs = { m with clock := max (m.clock + reaction) m.clock } := by
  have hreached : hasReached (max (m.clock + reaction) m.clock) m = true := by
    rw [hasReached, h]
  rw [settle, advance, runUntil_of_done programs hreached]

/-- The shell waits for a process that ends and leaves nobody who can act. -/
lemma wait_of_runUntil {id : Nat} {m' : Machine} {ending : Ending}
    (hrun : m.runUntil programs (isDone id) patience = m') (hnext : m'.next? = none)
    (hending : (m'.process? id).bind Process.ending = some ending) :
    (m.wait programs id).1 = .ok ending.status ∧ (m.wait programs id).2.files = m'.files := by
  have hsettle := settle_of_next? programs hnext
  have hprocess : ((m'.settle programs).process? id).bind Process.ending = some ending := by
    rw [hsettle]
    exact hending
  rw [wait, await, hrun, hprocess]
  exact ⟨rfl, by rw [hsettle]⟩

namespace HasOnly

lemma wait_exit (h : m.HasOnly p) {code : Nat} (htodo : p.todo = .exit code) :
    (m.wait programs p.id).1 = .ok (code % 256) ∧ (m.wait programs p.id).2.files = m.files := by
  obtain ⟨n, hn⟩ := exists_patience_eq
  obtain ⟨hnext, hdone, hending, hfiles⟩ := h.act_exit programs htodo
  have hrun : m.runUntil programs (Machine.isDone p.id) patience = m.act programs p := by
    rw [hn, h.runUntil_succ, runUntil_of_done programs hdone]
  rw [← hfiles]
  exact wait_of_runUntil programs hrun hnext hending

/-- It ends when its request is answered. -/
lemma wait_answered (h : m.HasOnly p) {r : Request} {next : r.Answer → Proc}
    (htodo : p.todo = .call r next) {answer : r.Answer} {m' : Machine} {signal : Option (Nat × Nat)}
    (hserve : { m with clock := max m.clock p.clock }.serve programs p r =
      .answered answer p m' signal)
    (hprocesses : m'.processes = [p])
    (hsignal : signal = none ∨ signal = some (p.id, pipeSignal) ∧ pipeSignal ∈ p.ignored)
    {code : Nat} (hnext : next answer = .exit code) :
    (m.wait programs p.id).1 = .ok (code % 256) ∧
      (m.wait programs p.id).2.files = m'.files := by
  obtain ⟨n, hn⟩ := exists_patience_eq
  have hact := h.act_answered programs htodo hserve hprocesses hsignal
  let q : Process := { p with todo := next answer, clock := p.clock + r.cost }
  have hq : (m.act programs p).HasOnly q := ⟨by rw [hact], h.id, h.parent, h.alive, h.unblocked⟩
  obtain ⟨hidle, hdone, hending, hfiles⟩ := hq.act_exit programs hnext
  have hrun : m.runUntil programs (Machine.isDone p.id) patience =
      (m.act programs p).act programs q := by
    rw [hn, h.runUntil_succ]
    exact (hq.runUntil_succ programs n).trans (runUntil_of_done programs hdone n)
  have hacted : (m.act programs p).files = m'.files := by rw [hact]
  rw [← hacted, ← hfiles]
  exact wait_of_runUntil programs hrun hidle hending

end HasOnly

/-- The process of a worker is left, and nobody reads the pipe that it writes to. -/
structure HasWriter (m : Machine) (p : Process) (pipe : Nat) : Prop extends m.HasOnly p where
  ignores : pipeSignal ∈ p.ignored
  unread : m.hasReader pipe = false
  output : ∃ s o, m.stream? p 1 = some (s, o) ∧ o.writable = true ∧ o.channel = .pipe pipe
  errors : ∃ s o, m.stream? p 2 = some (s, o) ∧ o.writable = true ∧ o.channel = .errors

/-- It cannot print, so that it ends with 141 if there is something to print. -/
lemma HasWriter.wait {pipe : Nat} (h : m.HasWriter p pipe) {out err : Bytes} {status : Nat}
    (htodo : p.todo = (writer out err status).toProc) :
    (m.wait programs p.id).1 =
        .ok ((if out = [] then status else Builtin.brokenPipeStatus) % 256) ∧
      (m.wait programs p.id).2.files = m.files := by
  have hclock : ∀ number, ({ m with clock := max m.clock p.clock } : Machine).stream? p number =
      m.stream? p number := fun _ => rfl
  by_cases hout : out = []
  · subst hout
    by_cases herr : err = []
    · subst herr
      rw [writer_nil_nil] at htodo
      exact h.wait_exit programs htodo
    · obtain ⟨next, hcall, hnext⟩ := writer_nil herr status
      obtain ⟨s, o, hstream, hwritable, hchannel⟩ := h.errors
      exact h.wait_answered programs (htodo.trans hcall)
        (serveWrite_errors err ((hclock 2).trans hstream) hwritable hchannel) h.processes
        (.inl rfl) hnext
  · obtain ⟨next, hcall, hnext⟩ := writer_of_ne hout err status
    obtain ⟨s, o, hstream, hwritable, hchannel⟩ := h.output
    rw [if_neg hout]
    exact h.wait_answered programs (htodo.trans hcall)
      (serveWrite_unread out ((hclock 1).trans hstream) hwritable hchannel h.unread) h.processes
      (.inr ⟨rfl, h.ignores⟩) (hnext .brokenPipe)

/-- A worker whose text goes to a pipe that nobody else has open. -/
lemma hasWriter_launch (hidle : m.processes = []) {input : Source} {pipe : Nat}
    (hinput : input ≠ .pipe pipe) (here : Location) (todo : Proc) :
    let streams : Streams := { input := untaken input, output := .pipe pipe, errors := .sessionErr }
    let launched := m.launch streams here todo [pipeSignal]
    ∃ p, launched.2.HasWriter p pipe ∧ p.id = launched.1 ∧ p.todo = todo ∧
      launched.2.files = m.files := by
  obtain ⟨o, ho, hsource⟩ : ∃ o : Opened, o.channel ≠ .pipe pipe ∧
      m.openSource (untaken input) = m.openStream o := by
    cases input with
    | session => exact ⟨_, m.channel_ne_pipe _ pipe, rfl⟩
    | pipe id => exact ⟨_, by simpa using hinput, rfl⟩
    | file f => exact ⟨_, m.channel_ne_pipe f pipe, rfl⟩
  intro streams launched
  let n := m.opened.size
  let opened := ((m.opened.push o).push { channel := .pipe pipe, writable := true }).push
    { channel := .errors, writable := true }
  let p : Process :=
    { id := m.nextId, parent := shellId, todo, here, clock := m.clock, ignored := [pipeSignal]
      relays := if m.session.kind = .captured then [n + 2] else []
      descriptors := [⟨0, n, false⟩, ⟨1, n + 1, false⟩, ⟨2, n + 2, false⟩] }
  have hlaunched : launched =
      (m.nextId, { m with opened, processes := [p], started := m.started + 1 }) := by
    simp [launched, launch, streams, hsource, openSink, openStream, add, isRelayed, nextId, hidle,
      opened, p, n]
  have hin : opened[n]? = some o := by
    simp only [opened, n, Array.getElem?_push, Array.size_push]
    rw [if_neg (by omega), if_neg (by omega), if_pos trivial]
  have hout : opened[n + 1]? = some { channel := .pipe pipe, writable := true } := by
    simp only [opened, n, Array.getElem?_push, Array.size_push]
    rw [if_neg (by omega), if_pos trivial]
  have herr : opened[n + 2]? = some { channel := .errors, writable := true } := by
    simp only [opened, n, Array.getElem?_push, Array.size_push]
    rw [if_pos trivial]
  refine ⟨p, ⟨⟨?_, ?_, rfl, rfl, rfl⟩, ?_, ?_, ?_, ?_⟩, by rw [hlaunched], rfl, by rw [hlaunched]⟩
  · rw [hlaunched]
  · simp only [p, nextId, shellId]
    omega
  · simp [p]
  · simp [hlaunched, hasReader, anyOpen, p, hin, hout, herr, ho]
  · simp [hlaunched, stream?, Process.stream?, p, hout]
  · simp [hlaunched, stream?, Process.stream?, p, herr]

end Machine

end Shell
