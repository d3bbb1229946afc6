import Shell.Proofs.Execute.Crew
import Shell.Proofs.Execute.Refusal
import Shell.Proofs.History.Stages
import Shell.Proofs.Machine.Silence

/-!
# Interleavings of builtins

A pipeline of builtins is run by workers side by side. How far each of them has come when the shell
does something is decided by a schedule, and there is a host for each schedule: the shell itself
goes about as on any other host. Whatever the schedule, a pipeline whose builtins keep to themselves
prints to standard output what its last stage prints alone and ends as that does. The machine lets
its processes act in one particular order, and what it prints and returns is the same.

Builtins keep to themselves if they write no file and read none of the streams of the shell itself.
Two builtins that read its standard input do not: whoever comes first takes what is there.
-/

namespace Shell

/-! ### Builtins that keep to themselves -/

/-- A builtin that is given no file to write the history to, and no stream of the shell's own
process or endless device to read it from. -/
structure Command.KeepsToItself (ctx : Context) (fs : FileSystem) (c : Command) : Prop where
  builtin : ∃ b, c.runner = .ok (.builtin b)
  no_write : c.historyFile? "write" = none
  no_append : c.historyFile? "append" = none
  read : ∀ file, c.historyFile? "read" = some file → fs.IsStill (ctx.resolvePath file).text

/-- If `history` only reads. -/
lemma Desk.historyFiles_read {σ : Type} (d : Disk σ) {a : Arguments}
    (hwrite : a.value? "write" = none) (happend : a.value? "append" = none) (ctx : Context)
    (s : σ) :
    historyFiles a ctx d.operations s =
      match a.value? "read" with
      | none => ((.ok (), ctx), s)
      | some file =>
        let ((result, history), s) := ctx.history.readFile d (ctx.resolvePath file).text s
        ((result.mapError (.file file), { ctx with history }), s) := by
  simp only [Disk.operations, historyFiles, hwrite, happend]
  cases a.value? "read" with
  | none => rfl
  | some file =>
    dsimp only
    rw [bind_apply]
    rcases ctx.history.readFile d (ctx.resolvePath file).text s with ⟨⟨_ | _, _⟩, _⟩ <;> rfl

/-- On a copy of the context such a builtin leaves the machine as it is, and finds nothing on it but
its files. -/
lemma Command.KeepsToItself.report {ctx : Context} {m : Machine} {c : Command}
    (h : c.KeepsToItself ctx m.files) {b : Builtin} (hb : Builtin.ofName? c.displayName = some b) :
    b.report Machine.disk c.args ctx.detach m =
      ((b.report FileSystem.disk c.args ctx.detach m.files).1, m) := by
  rw [Builtin.report_eq, Builtin.report_eq]
  cases hargs : b.parseArguments c.args with
  | error e => rfl
  | ok a =>
    dsimp only
    split
    · rfl
    rename_i hhelp
    cases b with
    | echo | pwd => simp only [Desk.act, Disk.report_conclude]
    | type =>
      simp only [Desk.act, Disk.report_type]
      rfl
    | exit =>
      simp only [Desk.act, Disk.report_exit]
      rfl
    | cd =>
      simp only [Desk.act, Disk.report_cd]
      cases Builtin.cdTarget? a.positionals.head? ctx.detach.home with
      | none => rfl
      | some target =>
        have hfiles : Machine.disk.files m = FileSystem.disk.files m.files := rfl
        dsimp only
        rw [hfiles]
        split <;> rfl
    | history =>
      have hfile : ∀ long, a.value? long = c.historyFile? long := by
        intro long
        simp [historyFile?, Builtin.historyFile?, hb, hargs, hhelp]
      simp only [Desk.act, Disk.report_history]
      split
      · rfl
      rw [Desk.historyFiles_read _ ((hfile "write").trans h.no_write)
          ((hfile "append").trans h.no_append),
        Desk.historyFiles_read _ ((hfile "write").trans h.no_write)
          ((hfile "append").trans h.no_append)]
      cases hread : a.value? "read" with
      | none => rfl
      | some file =>
        have hplain := Machine.isPlain_of_isStill (h.read file ((hfile "read").symm.trans hread))
        have hpath : (ctx.detach.resolvePath file).text = (ctx.resolvePath file).text := rfl
        simp only [hpath, Machine.readFile_eq hplain, Machine.readFile_disk]

/-! ### Pipes between builtins -/

/-- Each stage writes to the pipe that the next one reads, and the last one to the session. -/
structure IsPiped (wiring : List Streams) : Prop where
  chain : wiring.IsChain fun s t => ∃ id, s.output = .pipe id ∧ t.input = .pipe id
  last : ∀ s ∈ wiring.getLast?, s.output = .sessionOut
  errors : ∀ s ∈ wiring, s.errors = .sessionErr

lemma IsPiped.tail {s t : Streams} {wiring : List Streams} (h : IsPiped (s :: t :: wiring)) :
    IsPiped (t :: wiring) :=
  ⟨h.chain.tail, h.last, fun u hu => h.errors u (List.mem_cons_of_mem s hu)⟩

lemma IsPiped.output {wiring : List Streams} (h : IsPiped wiring) {s : Streams} (hs : s ∈ wiring) :
    s.output = .sessionOut ∨ ∃ id, s.output = .pipe id := by
  obtain ⟨before, after, rfl⟩ := List.append_of_mem hs
  cases after with
  | nil => exact .inl (h.last s (by simp))
  | cons t after =>
    obtain ⟨id, hout, -⟩ := (List.isChain_append_cons_cons.mp h.chain).2.1
    exact .inr ⟨id, hout⟩

namespace Host

variable {σ ρ ω : Type} (host : Host σ ρ ω)

/-- By induction over the stages: a host that can make pipes wires them one after the other. -/
lemma wireFrom_isPiped {P : σ → Prop}
    (hpipe : ∀ s, P s → ∃ id, (host.makePipe s).1 = .ok id ∧ P (host.makePipe s).2)
    (input : Source) (stages : List Command) {s : σ} (hs : P s) :
    ∃ wiring, (host.wireFrom input .sessionOut .sessionErr stages s).1 = .ok wiring ∧
      P (host.wireFrom input .sessionOut .sessionErr stages s).2 ∧
      wiring.length = stages.length ∧ IsPiped wiring ∧ ∀ t ∈ wiring.head?, t.input = input := by
  fun_induction host.wireFrom input .sessionOut .sessionErr stages generalizing s with
  | case1 => exact ⟨[], rfl, hs, rfl, ⟨.nil, by simp, by simp⟩, by simp⟩
  | case2 input command =>
    refine ⟨_, rfl, hs, rfl, ⟨.singleton _, by simp, by simp⟩, by simp⟩
  | case3 input command next rest ih =>
    obtain ⟨id, hid, hs'⟩ := hpipe s hs
    obtain ⟨wiring, hwire, hend, hlength, hpiped, hhead⟩ := ih id hs'
    rw [bind_apply, hid]
    dsimp only
    rw [bind_apply, hwire]
    refine ⟨_, rfl, hend, by simp [hlength], ?_, by simp⟩
    obtain ⟨t, wiring, rfl⟩ : ∃ t rest', wiring = t :: rest' :=
      List.exists_cons_of_ne_nil (by rintro rfl; simp at hlength)
    refine ⟨.cons_cons ⟨id, rfl, hhead t rfl⟩ hpiped.chain, ?_, ?_⟩
    · simpa using hpiped.last
    · simpa using hpiped.errors

/-- Workers are not stopped. -/
lemma forM_cancel (workers : List ω) (s : σ) :
    (workers.map Stage.worker).forM host.cancel s = ((), s) := by
  induction workers with
  | nil => rfl
  | cons w workers ih => exact ih

end Host

/-! ### Jobs of a pipeline -/

/-- The job that a stage is given to a worker as. -/
def Command.job? (ctx : Context) (c : Command) (streams : Streams) : Option Job :=
  (Builtin.ofName? c.displayName).map fun b =>
    { builtin := b, command := c, streams, context := ctx.detach }

/-- The jobs of wired stages. -/
def jobsOf (ctx : Context) (stages : List (Command × Streams)) : List Job :=
  stages.filterMap fun x => x.1.job? ctx x.2

lemma jobsOf_cons (ctx : Context) {c : Command} {b : Builtin} (h : c.runner = .ok (.builtin b))
    (streams : Streams) (rest : List (Command × Streams)) :
    jobsOf ctx ((c, streams) :: rest) =
      { builtin := b, command := c, streams, context := ctx.detach } :: jobsOf ctx rest := by
  simp [jobsOf, Command.job?, Machine.ofName?_of_runner h]

/-- The crew right after all jobs were given to workers. -/
def Crew.launched (ctx : Context) (m : Machine) (stages : List (Command × Streams)) : Crew :=
  { machine := m, workers := (jobsOf ctx stages).map fun job => { job } }

section

variable (ctx : Context) {fs : FileSystem} {stages : List (Command × Streams)}
  (h : ∀ x ∈ stages, x.1.KeepsToItself ctx fs)
include h

lemma map_jobsOf :
    (jobsOf ctx stages).map (fun j => (j.command, j.streams)) = stages := by
  induction stages with
  | nil => rfl
  | cons x rest ih =>
    obtain ⟨hx, hrest⟩ := List.forall_mem_cons.mp h
    obtain ⟨b, hb⟩ := hx.builtin
    rw [jobsOf_cons ctx hb, List.map_cons, ih hrest]

lemma isLine_jobsOf (hpiped : IsPiped (stages.map Prod.snd)) :
    IsLine fs (jobsOf ctx stages) ∧
      ∀ j ∈ (jobsOf ctx stages).getLast?, j.streams.output = .sessionOut := by
  have hstreams : (jobsOf ctx stages).map Job.streams = stages.map Prod.snd := by
    rw [← congrArg (List.map Prod.snd) (map_jobsOf ctx h), List.map_map]
    rfl
  rw [← hstreams] at hpiped
  refine ⟨⟨fun j hj => ⟨?_, ?_, ?_⟩, ?_⟩, fun j hj => ?_⟩
  · exact hpiped.output (List.mem_map_of_mem hj)
  · exact hpiped.errors _ (List.mem_map_of_mem hj)
  · obtain ⟨x, hx, hjob⟩ := List.mem_filterMap.mp hj
    obtain ⟨b, hb, rfl⟩ := Option.map_eq_some_iff.mp hjob
    rintro m rfl
    exact (h x hx).report hb
  · have hchain := hpiped.chain
    rw [List.isChain_map] at hchain
    exact hchain
  · refine hpiped.last _ ?_
    rw [List.getLast?_map, Option.mem_def.mp hj]
    rfl

end

/-! ### Schedules -/

/-- The worker with this number has finished. -/
def Crew.HasFinished (c : Crew) (i : Nat) : Prop :=
  ∃ w, c.workers[i]? = some w ∧ w.IsFinished

/-- The result of a worker. One that has not finished has none, which is an error here. -/
def Crew.result (c : Crew) (i : Nat) : Except Error Nat :=
  match (c.workers[i]?).map Worker.phase with
  | some (.finished result) => result
  | _ => .error (.wait "" "deadlock")

/-- What workers do beside the shell, the steps of which are numbered. While the shell waits for a
worker, the workers go on until that one has finished, or until none of them can. -/
structure Schedule (capacity : Nat) where
  /-- What the workers do until the shell takes a step. -/
  meanwhile : Nat → Crew → Crew
  reaches_meanwhile : ∀ n c, Crew.Reaches capacity c (meanwhile n c)
  /-- What the workers do while the shell waits for one of them. -/
  await : Nat → Nat → Crew → Crew
  reaches_await : ∀ n i c, Crew.Reaches capacity c (await n i c)
  hasFinished_await : ∀ n i c, (await n i c).HasFinished i ∨ (await n i c).IsStuck capacity

/-- Nothing happens before the shell waits, and then all that can happen does. -/
instance (capacity : Nat) : Nonempty (Schedule capacity) :=
  ⟨{ meanwhile := fun _ c => c
     reaches_meanwhile := fun _ _ => .refl
     await := fun _ _ c => (Crew.exists_reaches_isStuck capacity c).choose
     reaches_await := fun _ _ c => (Crew.exists_reaches_isStuck capacity c).choose_spec.1
     hasFinished_await := fun _ _ c =>
      .inr (Crew.exists_reaches_isStuck capacity c).choose_spec.2 }⟩

/-- A crew beside the shell, and the number of the shell's next step. -/
structure Shift where
  crew : Crew
  number : Nat := 0

def Shift.next (shift : Shift) (crew : Crew) : Shift :=
  { crew, number := shift.number + 1 }

namespace Schedule

variable {capacity : Nat} (s : Schedule capacity)

/-- The host whose workers follow a schedule. It has no programs. -/
def host : Host Shift Empty Nat where
  makePipe shift :=
    let c := s.meanwhile shift.number shift.crew
    let pipe := c.machine.addPipe []
    (.ok pipe.1, shift.next { c with machine := pipe.2 })
  spawn command _ _ := pure (.error (.commandNotFound command.displayName))
  isRunning p := p.elim
  kill p := p.elim
  wait p := p.elim
  work b command streams ctx shift :=
    let c := s.meanwhile shift.number shift.crew
    let job : Job := { builtin := b, command, streams, context := ctx }
    (.ok c.workers.length, shift.next { c with workers := c.workers ++ [{ job }] })
  join i shift :=
    let c := s.await shift.number i shift.crew
    (c.result i, shift.next c)
  perform b command streams ctx shift :=
    let c := s.meanwhile shift.number shift.crew
    let performed := c.machine.perform b command streams ctx
    (performed.1, shift.next { c with machine := performed.2 })
  report e shift :=
    let c := s.meanwhile shift.number shift.crew
    let machine := { c.machine with session := c.machine.session.report e }
    ((), shift.next { c with machine })

/-- Run stages by workers that follow the schedule. -/
def run : StageRunner := fun stages output errors ctx m =>
  let r := s.host.runStages stages output errors ctx { crew := { machine := m, workers := [] } }
  (r.1, r.2.crew.machine)

variable {jobs : List Job} {fs : FileSystem} {base : Bytes} {shift : Shift}

lemma sound_makePipe (h : Crew.Sound jobs fs base shift.crew) (hline : IsLine fs jobs) :
    ∃ id, (s.host.makePipe shift).1 = .ok id ∧
      Crew.Sound jobs fs base (s.host.makePipe shift).2.crew := by
  have hc := h.reaches hline (s.reaches_meanwhile shift.number shift.crew)
  exact ⟨_, rfl, hc.of_machine rfl rfl⟩

lemma sound_report (h : Crew.Sound jobs fs base shift.crew) (hline : IsLine fs jobs) {e : Error}
    (he : e.reportsToStdout = false) : Crew.Sound jobs fs base (s.host.report e shift).2.crew := by
  have hc := h.reaches hline (s.reaches_meanwhile shift.number shift.crew)
  refine hc.of_machine rfl ?_
  simp [Session.report, he, Session.writeErr]

variable (hline : IsLine fs jobs)
include hline

/-- While the shell waits for a worker the crew goes on as before, and that worker finishes. -/
lemma join_cases (h : Crew.Sound jobs fs base shift.crew)
    (hlast : ∀ j ∈ jobs.getLast?, j.streams.output = .sessionOut) {i : Nat} (hi : i < jobs.length) :
    Crew.Reaches capacity shift.crew (s.host.join i shift).2.crew ∧
      ∃ w, (s.host.join i shift).2.crew.workers[i]? = some w ∧
        w.phase = .finished (s.host.join i shift).1 := by
  have hreaches := s.reaches_await shift.number i shift.crew
  have hc := h.reaches hline hreaches
  have hfinished : (s.await shift.number i shift.crew).HasFinished i := by
    rcases s.hasFinished_await shift.number i shift.crew with hfinished | hstuck
    · exact hfinished
    · have hi' : i < (s.await shift.number i shift.crew).workers.length := by
        rw [← List.length_map (f := Worker.job), hc.jobs]
        exact hi
      refine ⟨_, List.getElem?_eq_getElem hi', ?_⟩
      exact hc.isFinished_of_isStuck hline hlast hstuck _ (List.getElem_mem hi')
  obtain ⟨w, hw, result, hresult⟩ := hfinished
  refine ⟨hreaches, w, hw, ?_⟩
  have hjoin : (s.host.join i shift).1 = result := by
    simp [host, Crew.result, hw, hresult]
  rw [hjoin, hresult]

/-- The shell waits for a worker and reports its error, which does not show on standard output. -/
lemma reap_cases (h : Crew.Sound jobs fs base shift.crew)
    (hlast : ∀ j ∈ jobs.getLast?, j.streams.output = .sessionOut) {i : Nat} (hi : i < jobs.length) :
    let after := (s.host.reap (.worker i) shift).2.crew
    Crew.Sound jobs fs base after ∧ after.HasFinished i ∧ shift.crew.Onward after := by
  obtain ⟨hreaches, w, hw, hphase⟩ := s.join_cases hline h hlast hi
  have hjoin := h.reaches hline hreaches
  rw [Host.reap, bind_apply, Host.waitFor]
  cases hresult : (s.host.join i shift).1 with
  | ok status => exact ⟨hjoin, ⟨w, hw, _, hphase⟩, hreaches.onward⟩
  | error e =>
    rw [hresult] at hphase
    obtain ⟨written, hwrote⟩ := hjoin.wrote w (List.mem_of_getElem? hw)
    have honward : (s.host.join i shift).2.crew.Onward
        (s.host.report e (s.host.join i shift).2).2.crew :=
      fun k u hu hfinished => (s.reaches_meanwhile _ _).onward k u hu hfinished
    refine ⟨s.sound_report hjoin hline (hwrote.reportsToStdout hphase), ?_, ?_⟩
    · exact ⟨w, honward i w hw ⟨_, hphase⟩, _, hphase⟩
    · exact hreaches.onward.trans honward

/-- By induction over the workers that the shell waits for. -/
lemma abandon_cases (h : Crew.Sound jobs fs base shift.crew)
    (hlast : ∀ j ∈ jobs.getLast?, j.streams.output = .sessionOut) (ids : List Nat)
    (hids : ∀ i ∈ ids, i < jobs.length) :
    let after := (s.host.abandon (ids.map .worker) shift).2.crew
    Crew.Sound jobs fs base after ∧ (∀ i ∈ ids, after.HasFinished i) ∧ shift.crew.Onward after := by
  rw [Host.abandon, bind_apply, Host.forM_cancel]
  dsimp only
  induction ids generalizing shift with
  | nil => exact ⟨h, by simp, fun i w hw _ => hw⟩
  | cons i ids ih =>
    obtain ⟨hi, hrest⟩ := List.forall_mem_cons.mp hids
    obtain ⟨hsound, ⟨w, hw, hfinished⟩, honward⟩ := s.reap_cases hline h hlast hi
    obtain ⟨hsound', hfinished', honward'⟩ := ih hsound hrest
    refine ⟨hsound', List.forall_mem_cons.mpr ⟨?_, hfinished'⟩, honward.trans honward'⟩
    exact ⟨w, honward' i w hw hfinished, hfinished⟩

omit hline in
/-- The shell waits for the last worker and then for the others. -/
lemma finish_cases {j : Job} (hline : IsLine fs (jobs ++ [j]))
    (hout : j.streams.output = .sessionOut) (h : Crew.Sound (jobs ++ [j]) fs base shift.crew) :
    let ended := s.host.finish ((List.range (jobs ++ [j]).length).map .worker) shift
    Crew.Sound (jobs ++ [j]) fs base ended.2.crew ∧
      (∀ w ∈ ended.2.crew.workers, w.IsFinished) ∧
      ∃ w, ended.2.crew.workers.getLast? = some w ∧ w.phase = .finished ended.1 := by
  have hlast : ∀ k ∈ (jobs ++ [j]).getLast?, k.streams.output = .sessionOut := by simpa using hout
  have hlength : (jobs ++ [j]).length = jobs.length + 1 := by simp
  obtain ⟨hreaches, w, hw, hphase⟩ := s.join_cases hline h hlast (i := jobs.length) (by simp)
  have hids : ∀ i ∈ List.range jobs.length, i < (jobs ++ [j]).length := by
    intro i hi
    rw [hlength]
    exact (List.mem_range.mp hi).trans (Nat.lt_succ_self _)
  obtain ⟨hsound, hfinished, honward⟩ :=
    s.abandon_cases hline (h.reaches hline hreaches) hlast _ hids
  have hend : s.host.finish ((List.range (jobs ++ [j]).length).map .worker) shift =
      ((s.host.join jobs.length shift).1, (s.host.abandon
        ((List.range jobs.length).map .worker) (s.host.join jobs.length shift).2).2) := by
    rw [hlength, List.range_succ, List.map_append, List.map_singleton, Host.finish,
      List.getLast?_concat, List.dropLast_concat]
    rfl
  rw [hend]
  have hw' := honward _ w hw ⟨_, hphase⟩
  have hcount : (s.host.abandon ((List.range jobs.length).map .worker)
      (s.host.join jobs.length shift).2).2.crew.workers.length = jobs.length + 1 := by
    rw [← hlength, ← hsound.jobs, List.length_map]
  refine ⟨hsound, fun u hu => ?_, w, ?_, hphase⟩
  · obtain ⟨k, hk, rfl⟩ := List.getElem_of_mem hu
    rcases Nat.lt_or_ge k jobs.length with hlt | hge
    · obtain ⟨v, hv, hfin⟩ := hfinished k (List.mem_range.mpr hlt)
      obtain rfl := Option.some.inj ((List.getElem?_eq_getElem hk).symm.trans hv)
      exact hfin
    · obtain rfl : k = jobs.length := (Nat.le_of_lt_succ (hk.trans_eq hcount)).antisymm hge
      obtain rfl := Option.some.inj ((List.getElem?_eq_getElem hk).symm.trans hw')
      exact ⟨_, hphase⟩
  · rw [List.getLast?_eq_getElem?, hcount]
    exact hw'

omit hline in
/-- By induction over the stages that are still to be started. -/
lemma startAll_launch {ctx : Context} {waiting : List (Command × Streams)}
    (hkeeps : ∀ x ∈ waiting, x.1.KeepsToItself ctx fs)
    (hline : IsLine fs (jobs ++ jobsOf ctx waiting))
    (h : Crew.Sound jobs fs base shift.crew) :
    ∃ after : Shift, Crew.Sound (jobs ++ jobsOf ctx waiting) fs base after.crew ∧
      s.host.startAll (s.host.launch ctx) ((List.range jobs.length).map .worker) waiting shift =
        s.host.finish ((List.range (jobs ++ jobsOf ctx waiting).length).map .worker) after := by
  induction waiting generalizing jobs shift with
  | nil =>
    have hnil : jobs ++ jobsOf ctx [] = jobs := List.append_nil jobs
    rw [hnil]
    exact ⟨shift, h, rfl⟩
  | cons x rest ih =>
    obtain ⟨command, streams⟩ := x
    obtain ⟨hx, hrest⟩ := List.forall_mem_cons.mp hkeeps
    obtain ⟨b, hb⟩ := hx.builtin
    have hname : Builtin.ofName? command.displayName = some b := Machine.ofName?_of_runner hb
    have hflag : command.builtin = true := (Command.of_runner_builtin hb).2.1
    let job : Job := { builtin := b, command, streams, context := ctx.detach }
    have hjobs : jobs ++ jobsOf ctx ((command, streams) :: rest) =
        jobs ++ [job] ++ jobsOf ctx rest := by
      rw [jobsOf_cons ctx hb, List.append_cons]
    rw [hjobs] at hline ⊢
    let c := s.meanwhile shift.number shift.crew
    have hc : Crew.Sound jobs fs base c :=
      h.reaches hline.of_append.of_append (s.reaches_meanwhile shift.number shift.crew)
    have hcount : c.workers.length = jobs.length := by rw [← hc.jobs, List.length_map]
    have hnext : Crew.Sound (jobs ++ [job]) fs base
        (shift.next { c with workers := c.workers ++ [{ job }] }).crew := hc.add hline.of_append
    obtain ⟨after, hafter, hrun⟩ := ih hrest hline hnext
    refine ⟨after, hafter, ?_⟩
    rw [← hrun, Host.startAll, bind_apply]
    have hlaunch : s.host.launch ctx command streams shift =
        (.ok (.worker jobs.length), shift.next { c with workers := c.workers ++ [{ job }] }) := by
      simp only [Host.launch, hflag, if_true, hname, bind_apply, ← hcount]
      rfl
    rw [hlaunch]
    simp [List.range_succ]

end Schedule

/-! ### The last stage alone -/

lemma Command.KeepsToItself.execute_eq (programs : Programs) {c : Command} {ctx : Context}
    {fs : FileSystem} (h : c.KeepsToItself ctx fs) {streams : Streams} {j : Job}
    (hj : c.job? ctx streams = some j) (m : Machine) :
    Machine.execute programs { stages := [c] } ctx.detach m = j.alone m := by
  obtain ⟨b, hb⟩ := h.builtin
  have hname := Machine.ofName?_of_runner hb
  obtain ⟨b', hb', rfl⟩ := Option.map_eq_some_iff.mp hj
  cases hname.symm.trans hb'
  exact Machine.execute_builtin programs hb ctx.detach m

/-- The jobs of a wired pipeline, the last of which prints to the session. -/
lemma exists_jobs_eq (programs : Programs) (ctx : Context) {fs : FileSystem} {stages : List Command}
    (hkeeps : ∀ c ∈ stages, c.KeepsToItself ctx fs) {last : Command}
    (hlast : stages.getLast? = some last) {wiring : List Streams}
    (hlength : wiring.length = stages.length) (hpiped : IsPiped wiring) :
    ∃ jobs j, jobsOf ctx (stages.zip wiring) = jobs ++ [j] ∧ IsLine fs (jobs ++ [j]) ∧
      (jobs ++ [j]).length = stages.length ∧ j.streams.output = .sessionOut ∧
      ∀ m, j.alone m = Machine.execute programs { stages := [last] } ctx.detach m := by
  have hkeeps' : ∀ x ∈ stages.zip wiring, x.1.KeepsToItself ctx fs :=
    fun x hx => hkeeps _ (List.of_mem_zip hx).1
  have hsnd : (stages.zip wiring).map Prod.snd = wiring := List.map_snd_zip hlength.le
  have hcommands : (jobsOf ctx (stages.zip wiring)).map Job.command = stages := by
    have hfst := congrArg (List.map Prod.fst) (map_jobsOf ctx hkeeps')
    rw [List.map_fst_zip hlength.ge, List.map_map] at hfst
    exact hfst
  obtain ⟨hline, hout⟩ := isLine_jobsOf ctx hkeeps' (hsnd.symm ▸ hpiped)
  rw [← hcommands, List.getLast?_map] at hlast
  obtain ⟨j, hj, rfl⟩ := Option.map_eq_some_iff.mp hlast
  obtain ⟨jobs, hjobs⟩ := List.getLast?_eq_some_iff.mp hj
  refine ⟨jobs, j, hjobs, hjobs ▸ hline, ?_, hout j hj, fun m => ?_⟩
  · rw [← hjobs, ← List.length_map (f := Job.command), hcommands]
  · obtain ⟨x, hx, hjob⟩ := List.mem_filterMap.mp (List.mem_of_getLast? hj)
    have hcommand : x.1 = j.command := by
      obtain ⟨b, -, rfl⟩ := Option.map_eq_some_iff.mp hjob
      rfl
    rw [← hcommand]
    exact ((hkeeps' x hx).execute_eq programs hjob m).symm

/-! ### The order of the machine -/

namespace Machine

variable (programs : Programs)

/-- The shell waits for workers and reports their errors, none of which shows on standard output. -/
lemma IsSilent.abandon {m : Machine} (h : m.IsSilent) {workers : List Machine.Worker}
    (hmild : ∀ w ∈ workers, w.IsMild) :
    Hushed m ((host programs).abandon (workers.map .worker) m).2 := by
  rw [Host.abandon, bind_apply, Host.forM_cancel]
  dsimp only
  induction workers generalizing m with
  | nil => exact h.hushed
  | cons w workers ih =>
    obtain ⟨hw, hworkers⟩ := List.forall_mem_cons.mp hmild
    have hreap : Hushed m ((host programs).reap (.worker w) m).2 := by
      rw [Host.reap, bind_apply, Host.waitFor]
      have hjoin : Hushed m ((host programs).join w m).2 := h.join programs w
      cases hresult : ((host programs).join w m).1 with
      | ok status => exact hjoin
      | error e =>
        have hquiet : e.reportsToStdout = false := hw.join programs hresult
        refine ⟨hjoin.silent, Eq.trans ?_ hjoin.stdout⟩
        simp [host, Session.report, hquiet, Session.writeErr]
    exact hreap.trans (ih hreap.silent hworkers)

/-- The last builtin has acted when the shell waits for it, and what the others do shows nowhere. -/
lemma finish_work {j : Job} (houtput : j.streams.output = .sessionOut)
    (herrors : j.streams.errors = .sessionErr) {workers : List Machine.Worker}
    (hmild : ∀ w ∈ workers, w.IsMild) (m : Machine) :
    let worked := m.work j.builtin j.command j.streams j.context
    let ended := (host programs).finish ((workers ++ [worked.1]).map .worker) worked.2
    ended.1 = (j.alone m).1.1 ∧
      (m.IsSilent → ended.2.session.stdout = (j.alone m).2.session.stdout) := by
  have hwork : m.work j.builtin j.command j.streams j.context =
      (.done (j.alone m).1.1, (j.alone m).2) := by
    obtain ⟨b, command, ⟨input, output, errors⟩, ctx⟩ := j
    subst houtput herrors
    have hne : ∀ id, (⟨input, .sessionOut, .sessionErr⟩ : Streams).output ≠ .pipe id := nofun
    rw [work_of_ne b command hne]
    rfl
  have hend : (host programs).finish ((workers ++ [Worker.done (j.alone m).1.1]).map .worker)
      (j.alone m).2 = ((j.alone m).1.1,
        ((host programs).abandon (workers.map .worker) ((j.alone m).2.settle programs)).2) := by
    rw [List.map_append, List.map_singleton, Host.finish, List.getLast?_concat,
      List.dropLast_concat]
    rfl
  rw [hwork]
  dsimp only
  rw [hend]
  refine ⟨rfl, fun h => ?_⟩
  have hsettle := IsSilent.settle (h.perform _ _ _ _ : (j.alone m).2.IsSilent) programs
  exact (hsettle.trans (hsettle.silent.abandon programs hmild)).stdout

/-- By induction over the stages that are still to be started. All but the last write to pipes. -/
lemma startAll_work (ctx : Context) {waiting : List (Command × Streams)}
    (hpiped : IsPiped (waiting.map Prod.snd))
    (hinput : ∀ x ∈ waiting.head?, x.2.input = .session ∨ ∃ id, x.2.input = .pipe id) {j : Job}
    (hj : (jobsOf ctx waiting).getLast? = some j) (workers : List Machine.Worker)
    (hmild : ∀ w ∈ workers, w.IsMild) (m : Machine)
    (hkeeps : ∀ x ∈ waiting, x.1.KeepsToItself ctx m.files) :
    let ran := (host programs).startAll ((host programs).launch ctx) (workers.map .worker) waiting m
    ran.1 = (j.alone m).1.1 ∧
      (m.IsSilent → ran.2.session.stdout = (j.alone m).2.session.stdout) := by
  induction waiting generalizing workers m with
  | nil => cases hj
  | cons x rest ih =>
    obtain ⟨command, streams⟩ := x
    obtain ⟨hx, hrest⟩ := List.forall_mem_cons.mp hkeeps
    obtain ⟨b, hb⟩ := hx.builtin
    have hname : Builtin.ofName? command.displayName = some b := ofName?_of_runner hb
    have herrors : streams.errors = .sessionErr := hpiped.errors _ List.mem_cons_self
    let worked := m.work b command streams ctx.detach
    have hlaunch : (host programs).launch ctx command streams m =
        (.ok (.worker worked.1), worked.2) :=
      launch_builtin programs (Command.of_runner_builtin hb).2.1 hname ctx streams m
    have hrun : (host programs).startAll ((host programs).launch ctx) (workers.map .worker)
        ((command, streams) :: rest) m = (host programs).startAll ((host programs).launch ctx)
          ((workers ++ [worked.1]).map .worker) rest worked.2 := by
      simp only [Host.startAll, bind_apply, hlaunch, List.map_append, List.map_singleton]
    rw [jobsOf_cons ctx hb] at hj
    rw [hrun]
    cases rest with
    | nil =>
      obtain rfl : Job.mk b command streams ctx.detach = j := Option.some.inj hj
      have houtput : streams.output = .sessionOut := hpiped.last _ rfl
      exact finish_work programs (j := ⟨b, command, streams, ctx.detach⟩) houtput herrors hmild m
    | cons y rest =>
      obtain ⟨⟨id, houtput, hnext⟩, -⟩ := List.isChain_cons_cons.mp hpiped.chain
      obtain ⟨hw, hfiles, hsession, hsilent⟩ :=
        m.work_piped (hinput _ rfl) houtput herrors b command ctx.detach
      rw [hx.report hname] at hfiles hsession
      obtain ⟨b', hb'⟩ := (List.forall_mem_cons.mp hrest).1.builtin
      rw [jobsOf_cons ctx hb', List.getLast?_cons_cons, ← jobsOf_cons ctx hb'] at hj
      have hmild' : ∀ w ∈ workers ++ [worked.1], w.IsMild := by
        simpa using fun w hw' => hw'.elim (hmild w) (· ▸ hw)
      have hplain := (isLine_jobsOf ctx hrest hpiped.tail).1.plain j (List.mem_of_getLast? hj)
      obtain ⟨hresult, hstdout⟩ := ih hpiped.tail (by simpa using .inr ⟨id, hnext⟩) hj _
        hmild' worked.2 (hfiles.symm ▸ hrest)
      obtain ⟨hresult', hstdout'⟩ := hplain.alone_congr hfiles (congrArg Session.stdout hsession)
      exact ⟨hresult.trans hresult', fun h => (hstdout (hsilent h)).trans hstdout'⟩

end Machine

/-! ### Every interleaving -/

namespace Pipeline

/-- A crew that has just been launched has printed nothing. -/
lemma sound_launched (ctx : Context) (m : Machine) (stages : List (Command × Streams)) :
    Crew.Sound (jobsOf ctx stages) m.files m.session.stdout.bytes (Crew.launched ctx m stages) := by
  refine ⟨?_, rfl, ?_, [], (List.append_nil _).symm, ?_⟩
  · rw [Crew.launched, List.map_map]
    exact List.map_id _
  · intro w hw
    obtain ⟨job, -, rfl⟩ := List.mem_map.mp hw
    exact ⟨[], .ready rfl⟩
  · rw [Shows, Crew.launched, List.getLast?_map]
    cases (jobsOf ctx stages).getLast? with
    | none => rfl
    | some job =>
      dsimp only [Option.map_some]
      split
      · exact .ready rfl
      · rfl

section

variable (programs : Programs) (ctx : Context) {stages : List Command} {last : Command}
  (hlast : stages.getLast? = some last) (m : Machine)
  (hkeeps : ∀ c ∈ stages, c.KeepsToItself ctx m.files)
include hkeeps hlast

/-- All workers are launched, and then they are interleaved in any way. -/
lemma launched_agrees (capacity : Nat) :
    let alone := Machine.execute programs { stages := [last] } ctx.detach m
    ∃ wiring m', (Machine.host programs).wire stages .sessionOut .sessionErr m = (.ok wiring, m') ∧
      ∀ c, Crew.Reaches capacity (Crew.launched ctx m' (stages.zip wiring)) c →
        c.IsStuck capacity →
        (∀ w ∈ c.workers, w.IsFinished) ∧ c.workers.length = stages.length ∧
        c.workers.getLast?.map Worker.phase = some (.finished alone.1.1) ∧
        c.machine.session.stdout = alone.2.session.stdout := by
  intro alone
  -- making pipes changes neither the files nor what was printed
  obtain ⟨wiring, hwire, ⟨hfiles, hsession⟩, hlength, hpiped, -⟩ :=
    (Machine.host programs).wireFrom_isPiped
      (P := fun m' => m'.files = m.files ∧ m'.session = m.session)
      (fun m' h => ⟨_, rfl, h⟩) .session stages ⟨rfl, rfl⟩
  refine ⟨wiring, _, Prod.ext hwire rfl, fun c hreaches hstuck => ?_⟩
  obtain ⟨jobs, j, hjobs, hline, hcount, hout, halone⟩ :=
    exists_jobs_eq programs ctx hkeeps hlast hlength hpiped
  have hsound := sound_launched ctx
    ((Machine.host programs).wireFrom .session .sessionOut .sessionErr stages m).2
    (stages.zip wiring)
  rw [hjobs, hfiles, hsession] at hsound
  have hc := hsound.reaches hline hreaches
  have hfinished := hc.isFinished_of_isStuck hline (by simpa using hout) hstuck
  have hworkers : c.workers.length = stages.length := by
    rw [← hcount, ← hc.jobs, List.length_map]
  obtain ⟨w, hw⟩ : ∃ w, c.workers.getLast? = some w := by
    rw [← Option.isSome_iff_exists, List.getLast?_isSome]
    rintro hnil
    have hnone := hc.jobs
    simp [hnil] at hnone
  obtain ⟨result, hphase⟩ := hfinished w (List.mem_of_getLast? hw)
  obtain ⟨hresult, hstdout⟩ := hc.eq_alone (hline.plain j (by simp)) hout hw hphase
  rw [halone] at hresult hstdout
  exact ⟨hfinished, hworkers, by rw [hw, Option.map_some, hphase, hresult], hstdout⟩

/-- The shell starts the workers and waits for them while they follow a schedule. -/
lemma runMixed_agrees {capacity : Nat} (s : Schedule capacity) :
    let alone := Machine.execute programs { stages := [last] } ctx.detach m
    let ran := s.host.runMixed stages .sessionOut .sessionErr ctx
      { crew := { machine := m, workers := [] } }
    ran.1 = alone.1.1 ∧ ran.2.crew.machine.session.stdout = alone.2.session.stdout ∧
    (∀ w ∈ ran.2.crew.workers, w.IsFinished) ∧ ran.2.crew.workers.length = stages.length := by
  intro alone ran
  have hnone : IsLine m.files [] := ⟨by simp, .nil⟩
  have hstart : Crew.Sound [] m.files m.session.stdout.bytes { machine := m, workers := [] } :=
    ⟨rfl, rfl, by simp, [], (List.append_nil _).symm, rfl⟩
  obtain ⟨wiring, hwire, hsound, hlength, hpiped, -⟩ := s.host.wireFrom_isPiped
    (P := fun shift => Crew.Sound [] m.files m.session.stdout.bytes shift.crew)
    (fun shift h => s.sound_makePipe h hnone) .session stages
    (s := { crew := { machine := m, workers := [] } }) hstart
  obtain ⟨jobs, j, hjobs, hline, hcount, hout, halone⟩ :=
    exists_jobs_eq programs ctx hkeeps hlast hlength hpiped
  rw [← hjobs, ← List.nil_append (jobsOf _ _)] at hline
  obtain ⟨after, hafter, hrun⟩ := s.startAll_launch
    (fun x hx => hkeeps _ (List.of_mem_zip hx).1) hline hsound
  rw [List.nil_append, hjobs] at hline hafter hrun
  have hran : ran = s.host.finish ((List.range (jobs ++ [j]).length).map .worker) after := by
    rw [← hrun]
    simp only [ran, Host.runMixed, Host.runWired, Host.wire, bind_apply, hwire]
    rfl
  obtain ⟨hc, hfinished, w, hw, hphase⟩ := s.finish_cases hline hout hafter
  rw [← hran] at hc hfinished hw hphase
  obtain ⟨hresult, hstdout⟩ := hc.eq_alone (hline.plain j (by simp)) hout hw hphase
  rw [halone] at hresult hstdout
  exact ⟨hresult, hstdout, hfinished, by rw [← hcount, ← hc.jobs, List.length_map]⟩

/-- The machine has an order of its own. Processes that were there before may print meanwhile. -/
lemma host_runMixed_agrees :
    let alone := Machine.execute programs { stages := [last] } ctx.detach m
    let ran := (Machine.host programs).runMixed stages .sessionOut .sessionErr ctx m
    ran.1 = alone.1.1 ∧ (m.IsSilent → ran.2.session.stdout = alone.2.session.stdout) := by
  intro alone ran
  obtain ⟨wiring, hwire, ⟨hfiles, hsession, hsilent⟩, hlength, hpiped, hinput⟩ :=
    (Machine.host programs).wireFrom_isPiped
      (P := fun m' => m'.files = m.files ∧ m'.session = m.session ∧ (m.IsSilent → m'.IsSilent))
      (fun m' h => ⟨_, rfl, h⟩) .session stages ⟨rfl, rfl, id⟩
  obtain ⟨jobs, j, hjobs, hline, -, -, halone⟩ :=
    exists_jobs_eq programs ctx hkeeps hlast hlength hpiped
  have hsnd : (stages.zip wiring).map Prod.snd = wiring := List.map_snd_zip hlength.le
  have hfirst : ∀ x ∈ (stages.zip wiring).head?,
      x.2.input = .session ∨ ∃ id, x.2.input = .pipe id := by
    intro x hx
    refine .inl (hinput x.2 ?_)
    rw [← hsnd, List.head?_map, Option.mem_def.mp hx]
    rfl
  obtain ⟨hresult, hstdout⟩ := Machine.startAll_work programs ctx (hsnd.symm ▸ hpiped) hfirst
    (by rw [hjobs, List.getLast?_concat]) [] (by simp)
    ((Machine.host programs).wireFrom .session .sessionOut .sessionErr stages m).2
    (fun x hx => hfiles.symm ▸ hkeeps _ (List.of_mem_zip hx).1)
  have hran : ran = (Machine.host programs).startAll ((Machine.host programs).launch ctx) []
      (stages.zip wiring)
      ((Machine.host programs).wireFrom .session .sessionOut .sessionErr stages m).2 := by
    simp only [ran, Host.runMixed, Host.runWired, Host.wire, bind_apply, hwire]
  rw [List.map_nil, ← hran] at hresult hstdout
  obtain ⟨hresult', hstdout'⟩ :=
    (hline.plain j (by simp)).alone_congr hfiles (congrArg Session.stdout hsession)
  rw [halone m] at hresult' hstdout'
  exact ⟨hresult.trans hresult', fun h => (hstdout (hsilent h)).trans hstdout'⟩

end

/-- A pipeline of builtins has all that it takes to run its stages. -/
lemma executeBy_eq {p : Pipeline} (hstages : p.stages ≠ []) (hredirection : p.redirection = none)
    (hbuiltins : ∀ c ∈ p.stages, ∃ b, c.runner = .ok (.builtin b)) (run : StageRunner)
    (ctx : Context) (m : Machine) :
    Machine.executeBy run p ctx m = run p.stages .sessionOut .sessionErr ctx m := by
  have hnoop : p.isNoop = false := by
    rw [isNoop, Bool.or_eq_false_iff, List.any_eq_false]
    refine ⟨by simpa using hstages, fun c hc => ?_⟩
    obtain ⟨b, hb⟩ := hbuiltins c hc
    simp [(Command.of_runner_builtin hb).2.2]
  have hrunnable : p.stages.find? (fun c => !c.runnable) = none := by
    refine List.find?_eq_none.mpr fun c hc => ?_
    obtain ⟨b, hb⟩ := hbuiltins c hc
    simp [(Command.of_runner_builtin hb).1]
  rw [Machine.executeBy, if_neg (by simp [hnoop]), hrunnable, hredirection]

end Pipeline

/-! ### Stages that read the input of the shell -/

/-- Read all that is given to the shell on its standard input. -/
def readInput : Command :=
  { name := "history", args := ["-r", "/dev/stdin"], builtin := true, runnable := true
    workspace := "/" }

/-- The shell finds its standard input among the files, and bytes on it that are no text. -/
def givenNoText : Machine :=
  { files := { entries := [(["dev"], .directory), (["dev", "stdin"], .device (.descriptor 0))] }
    session := { kind := .inherited, stdin := ⟨[0xff, 0x0a]⟩ } }

/-- The error of who reads them. -/
def noTextError : Error :=
  .builtin "history" "/dev/stdin: stream did not contain valid UTF-8"

namespace Machine

/-- The machine when nothing is left on its standard input. -/
def emptied (m : Machine) : Machine :=
  { m with session := { m.session with stdin := ⟨[]⟩ } }

lemma openFile_givenNoText : givenNoText.files.openFile [] "/dev/stdin" .read =
    .ok (.device (.descriptor 0), givenNoText.files) := by
  have hsteps : FileSystem.steps "/dev/stdin" = ["dev", "stdin"] := by decide
  exact FileSystem.openFile_device (by decide) hsteps (by decide) (by decide) rfl rfl (by simp)

variable (m : Machine) (hfiles : m.files = givenNoText.files)
  (hkind : m.session.kind = .inherited)
include hfiles hkind

/-- Whoever reads the standard input of the shell leaves nothing there. -/
lemma report_readInput :
    let reported := Builtin.history.report disk readInput.args
      { workspace := .root, detached := true } m
    reported.1.result = ((asText m.session.stdin.rest).map fun _ => 0).mapError
        (.file "/dev/stdin") ∧
      reported.1.stdout = "" ∧ reported.1.stderr = "" ∧
      reported.2 = m.emptied := by
  have hargs : Builtin.history.parseArguments readInput.args =
      .ok { values := [("read", "/dev/stdin")] } := by decide
  have hpath :
      (({ workspace := .root, detached := true } : Context).resolvePath "/dev/stdin").text =
      "/dev/stdin" := by decide
  have hvalue : ({ values := [("read", "/dev/stdin")] } : Arguments).value? "read" =
      some "/dev/stdin" := by decide
  have hread : disk.read "/dev/stdin" m =
      (asText m.session.stdin.rest, m.emptied) := by
    simp only [disk, hfiles, openFile_givenNoText, readAll, channel, channelOf, hkind, emptied,
      Except.bind]
  rw [Builtin.report_eq, hargs]
  dsimp only
  rw [if_neg (by decide)]
  simp only [Desk.act, Disk.report_history]
  rw [if_neg (by decide), Desk.historyFiles_read _ (by decide) (by decide), hvalue]
  dsimp only
  rw [hpath, History.readFile, bind_apply, hread]
  cases asText m.session.stdin.rest <;> exact ⟨rfl, rfl, rfl, rfl⟩

end Machine

/-- One of the stages of `history -r /dev/stdin | history -r /dev/stdin`. -/
def readJob (input : Source) (output : Sink) : Job :=
  { builtin := .history, command := readInput, streams := ⟨input, output, .sessionErr⟩
    context := { workspace := .root, detached := true } }

namespace Machine

variable {m : Machine} (hfiles : m.files = givenNoText.files)
  (hkind : m.session.kind = .inherited) (input : Source) (output : Sink)
include hfiles hkind

omit hfiles hkind in
lemma reported_readJob : (readJob input output).reported m =
    Builtin.history.report disk readInput.args { workspace := .root, detached := true } m :=
  rfl

/-- Who acts first finds the bytes, which are no text. -/
lemma reported_readJob_first (hstdin : m.session.stdin.rest = [0xff, 0x0a]) :
    ∃ r : Report, (readJob input output).reported m = (r, m.emptied) ∧
      r.result = .error (.file "/dev/stdin" .notText) := by
  obtain ⟨hresult, -, -, hleft⟩ := m.report_readInput hfiles hkind
  have htext : asText m.session.stdin.rest = .error .notText := by
    rw [hstdin]
    decide
  rw [htext] at hresult
  rw [reported_readJob]
  exact ⟨_, Prod.ext rfl hleft, hresult⟩

/-- Who acts next finds nothing. -/
lemma reported_readJob_next (hstdin : m.session.stdin.rest = []) :
    ∃ r : Report, (readJob input output).reported m = (r, m.emptied) ∧
      r.result = .ok 0 ∧ encode r.stdout = [] ∧ encode r.stderr = [] := by
  obtain ⟨hresult, hout, herr, hleft⟩ := m.report_readInput hfiles hkind
  have htext : asText m.session.stdin.rest = .ok "" := by
    rw [hstdin]
    rfl
  rw [htext] at hresult
  rw [reported_readJob]
  exact ⟨_, Prod.ext rfl hleft, hresult, congrArg encode hout, congrArg encode herr⟩

end Machine

namespace Pipeline

lemma outcome_notText :
    Builtin.history.outcome (.error (.file "/dev/stdin" .notText)) = .error noTextError := by
  decide

lemma runner_readInput : readInput.runner = .ok (.builtin .history) := by
  decide

lemma ofName?_readInput : Builtin.ofName? readInput.displayName = some .history := by
  decide

/-- The last stage alone finds the bytes. -/
lemma execute_readInput (programs : Programs) :
    (Machine.execute programs { stages := [readInput] } { workspace := .root, detached := true }
      givenNoText).1.1 = .error noTextError := by
  obtain ⟨r, hreported, hresult⟩ :=
    Machine.reported_readJob_first (m := givenNoText) rfl rfl .session .sessionOut rfl
  rw [Job.reported] at hreported
  rw [Machine.execute_builtin programs runner_readInput,
    Machine.perform_eq _ _ Streams.whole_session]
  have hreport : Builtin.history.report Machine.disk readInput.args
      { workspace := .root, detached := true } givenNoText = (r, givenNoText.emptied) := hreported
  simp only [hreport, hresult]
  exact outcome_notText

/-- Behind another stage it finds nothing. -/
lemma alone_readJob_emptied {m : Machine} (hfiles : m.files = givenNoText.files)
    (hkind : m.session.kind = .inherited) (input : Source) :
    ((readJob input .sessionOut).alone m.emptied).1.1 = .ok 0 := by
  obtain ⟨r, hreported, hresult, hout, herr⟩ :=
    Machine.reported_readJob_next (m := m.emptied) hfiles hkind input .sessionOut rfl
  rw [Job.reported] at hreported
  rw [Job.alone, Machine.perform_eq _ _ Streams.whole_session, hreported]
  simp only [hresult, hout, herr, Machine.write_nil]

/-- The first of two stages takes the bytes, and then the second finds nothing. -/
lemma startAll_readInput (programs : Programs) {m : Machine}
    (hfiles : m.files = givenNoText.files) (hkind : m.session.kind = .inherited)
    (hstdin : m.session.stdin.rest = [0xff, 0x0a]) :
    ((Machine.host programs).startAll ((Machine.host programs).launch { workspace := .root }) []
      ([readInput, readInput].zip
        [⟨.session, .pipe 0, .sessionErr⟩, ⟨.pipe 0, .sessionOut, .sessionErr⟩]) m).1 = .ok 0 := by
  obtain ⟨r, hreported, hresult⟩ :=
    Machine.reported_readJob_first hfiles hkind .session (.pipe 0) hstdin
  rw [Job.reported] at hreported
  have hwork : m.work .history readInput ⟨.session, .pipe 0, .sessionErr⟩
      (readJob .session (.pipe 0)).context = (.done (.error noTextError), m.emptied) := by
    have hreport : Builtin.history.report Machine.disk readInput.args
        (readJob .session (.pipe 0)).context m = (r, m.emptied) := hreported
    rw [Machine.work_pipe _ _ rfl, hreport]
    simp only [hresult, outcome_notText]
  have hmild : ∀ w ∈ [Machine.Worker.done (.error noTextError)], w.IsMild := by
    simp [Machine.Worker.IsMild, noTextError, Error.reportsToStdout]
  have hlast := (Machine.finish_work programs (j := readJob (.pipe 0) .sessionOut) rfl rfl hmild
    m.emptied).1
  rw [alone_readJob_emptied hfiles hkind] at hlast
  have hcontext :
      (readJob .session (.pipe 0)).context = ({ workspace := .root } : Context).detach :=
    rfl
  rw [List.zip_cons_cons, List.zip_cons_cons, List.zip_nil_left, Host.startAll, bind_apply,
    Machine.launch_builtin programs rfl ofName?_readInput, ← hcontext, hwork]
  dsimp only
  rw [Host.startAll, bind_apply, Machine.launch_builtin programs rfl ofName?_readInput]
  exact hlast

/-- One way in which the two workers are interleaved: the first acts before the last. -/
lemma reaches_readInput {m : Machine} (hfiles : m.files = givenNoText.files)
    (hkind : m.session.kind = .inherited) (hstdin : m.session.stdin.rest = [0xff, 0x0a]) :
    ∃ c, Crew.Reaches 1 ⟨m, [⟨readJob .session (.pipe 0), .ready⟩,
        ⟨readJob (.pipe 0) .sessionOut, .ready⟩]⟩ c ∧ c.IsStuck 1 ∧
      c.workers.getLast?.map Worker.phase = some (.finished (.ok 0)) := by
  let failed : Worker := ⟨readJob .session (.pipe 0), .finished (.error noTextError)⟩
  let last (phase : Phase) : Worker := ⟨readJob (.pipe 0) .sessionOut, phase⟩
  let crew (phase : Phase) : Crew := ⟨m.emptied, [failed] ++ last phase :: []⟩
  have hfail : Crew.Step 1
      ⟨m, [] ++ ⟨readJob .session (.pipe 0), .ready⟩ :: [last .ready]⟩ (crew .ready) := by
    obtain ⟨r, hreported, hresult⟩ :=
      Machine.reported_readJob_first hfiles hkind .session (.pipe 0) hstdin
    have hacted : (readJob .session (.pipe 0)).acted r = .finished (.error noTextError) := by
      simp only [Job.acted, hresult, ← outcome_notText]
      rfl
    exact .move (hacted ▸ .acts hreported)
  have hact : Crew.Step 1 (crew .ready)
      (crew (.writing [(.sessionOut, []), (.sessionErr, [])] 0)) := by
    obtain ⟨r, hreported, hresult, hout, herr⟩ :=
      Machine.reported_readJob_next (m := m.emptied) hfiles hkind (.pipe 0) .sessionOut rfl
    have hacted : (readJob (.pipe 0) .sessionOut).acted r =
        .writing [(.sessionOut, []), (.sessionErr, [])] 0 := by
      simp only [Job.acted, hresult, hout, herr]
      rfl
    exact .move (hacted ▸ .acts hreported)
  have hnothing (sink : Sink) (later : List (Sink × Bytes)) :
      Crew.Step 1 (crew (.writing ((sink, []) :: later) 0)) (crew (.writing later 0)) :=
    .move (.next rfl)
  have hfinish : Crew.Step 1 (crew (.writing [] 0)) (crew (.finished (.ok 0))) :=
    .move (.finish rfl)
  refine ⟨crew (.finished (.ok 0)), ?_,
    Crew.isStuck_of_isFinished (by simp [crew, failed, last, Worker.IsFinished]), rfl⟩
  exact .head hfail (.head hact
    (.head (hnothing .sessionOut _) (.head (hnothing .sessionErr _) (.single hfinish))))

end Pipeline

end Shell
