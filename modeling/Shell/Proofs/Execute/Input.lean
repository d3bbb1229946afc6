import Shell.Proofs.Execute.Wiring
import Shell.Proofs.History.Stages
import Shell.Proofs.Machine.Reading

/-!
# Pipelines that begin with a builtin

Only the first stage of a pipeline reads the input of the session, and a builtin takes nothing from
it. So a pipeline that begins with a builtin leaves this input to the commands after it: none of
its programs is started with it.

There are two other ways to get at it. A builtin may be told to read the history from a file, and
the path of this file may lead to the standard input of the shell. And if the pipeline is redirected
to the standard input of the shell, then what the program at its end writes to is also what the
session reads, and the program may open its own output again and read from there.
-/

namespace Shell

/-- What carries out a builtin is no program. -/
lemma Command.runner_ne_external {c : Command} (h : c.builtin = true) :
    c.runner ≠ .ok .external := by
  rw [runner, if_pos h]
  split
  · simp
  · split <;> simp

namespace Host

variable {σ ρ ω : Type} (host : Host σ ρ ω) (ctx : Context)

/-- The host that starts programs only with streams that are allowed. What it refuses is not
found. -/
def restrict (allowed : Streams → Bool) : Host σ ρ ω :=
  { host with
    spawn := fun command streams ctx =>
      if allowed streams then host.spawn command streams ctx
      else pure (.error (.commandNotFound command.displayName)) }

/-- The host that starts no program with the input of the session. -/
def withhold : Host σ ρ ω :=
  host.restrict fun streams => streams.input ≠ .session

lemma launch_restrict {allowed : Streams → Bool} {command : Command} {streams : Streams}
    (h : command.builtin = true ∨ allowed streams = true) :
    (host.restrict allowed).launch ctx command streams = host.launch ctx command streams := by
  rw [launch, launch]
  split
  · rfl
  · rename_i hbuiltin
    have hallowed := h.resolve_left hbuiltin
    simp only [spawnStage, restrict, hallowed, if_true]

lemma runWired_restrict (allowed : Streams → Bool)
    (start : Command → Streams → StateM σ (Except Error (Stage ρ ω))) (stages : List Command)
    (output errors : Sink) :
    (host.restrict allowed).runWired start stages output errors =
      host.runWired start stages output errors :=
  host.runWired_of_teardown (host.restrict allowed) rfl rfl rfl start stages output errors

/-- It makes no difference what other streams a host allows than those that are wired. -/
lemma runMixed_restrict {allowed : Streams → Bool} {stages : List Command} (hne : stages ≠ [])
    {output errors : Sink}
    (hallowed : ∀ pipes : List Nat, pipes.length + 1 = stages.length →
      ∀ x ∈ stages.zip (chain output errors .session pipes),
        x.1.builtin = true ∨ allowed x.2 = true) :
    (host.restrict allowed).runMixed stages output errors ctx =
      host.runMixed stages output errors ctx := by
  funext s
  rw [runMixed, runWired_restrict, runMixed, runWired, runWired, bind_apply, bind_apply]
  rcases hwire : host.wire stages output errors s with ⟨_ | wiring, s'⟩
  · rfl
  · obtain ⟨pipes, -, hlength, hchain⟩ := (host.wire_eq_ok_iff hne output errors).mp hwire
    obtain rfl := isChain_iff.mp hchain
    dsimp only
    rw [host.startAll_congr (fun x hx => host.launch_restrict ctx (hallowed pipes hlength x hx))]

/-- Where the first stage is a builtin, no program is started with the session's input. -/
theorem runStages_withhold {stages : List Command} (hfirst : ∃ c ∈ stages.head?, c.builtin = true)
    (output errors : Sink) :
    host.withhold.runStages stages output errors ctx =
      host.runStages stages output errors ctx := by
  obtain ⟨first, hhead, hbuiltin⟩ := hfirst
  rcases stages with _ | ⟨command, _ | ⟨next, rest⟩⟩
  · cases hhead
  · -- a single builtin is carried out in place
    obtain rfl : command = first := by simpa using hhead
    simp only [runStages, Strategy.of, List.length_singleton, if_true, runSingle]
    rcases hrunner : command.runner with e | b | -
    · rfl
    · rfl
    · exact absurd hrunner (Command.runner_ne_external hbuiltin)
  · have hseveral : 2 ≤ (command :: next :: rest).length := by simp
    rw [runStages_several _ ctx output errors hseveral,
      runStages_several _ ctx output errors hseveral, withhold, runMixed_restrict _ _ (by simp)]
    intro pipes hlength x hx
    rcases (mem_zip_chain hlength hx).1 with ⟨hx, -⟩ | ⟨id, hinput⟩
    · obtain rfl : first = x.1 := Option.some.inj (hhead.symm.trans hx)
      exact .inl hbuiltin
    · exact .inr (by simp [hinput])

end Host

/-! ### Stages on the machine -/

namespace Machine

variable {m m' : Machine}

lemma stdin_report (s : Session) (e : Error) : (s.report e).stdin = s.stdin := by
  rw [Session.report]
  split <;> rfl

/-- The session still has all of its input, to which something may have been added, and nobody but
the shell can read it. -/
structure KeepsInput (m m' : Machine) : Prop where
  apart : m'.IsApart .input
  stdin : m.session.stdin.rest <+: m'.session.stdin.rest

lemma IsApart.keepsInput (h : m.IsApart .input) : KeepsInput m m :=
  ⟨h, List.prefix_refl _⟩

lemma KeepsInput.trans {m'' : Machine} (h : KeepsInput m m') (h' : KeepsInput m' m'') :
    KeepsInput m m'' :=
  ⟨h'.apart, h.stdin.trans h'.stdin⟩

lemma Untouched.keepsInput (h : Untouched .input m m') : KeepsInput m m' := by
  have hsame : m'.session.stdin.rest = m.session.stdin.rest := h.content
  exact ⟨h.apart, hsame ▸ List.prefix_refl _⟩

lemma LeavesInput.keepsInput (h : LeavesInput m m') (hapart : m'.IsApart .input) :
    KeepsInput m m' :=
  ⟨hapart, h.stdin⟩

/-- None of the files that the command may read the history from is the input of the session. -/
def ReadsElsewhere (m : Machine) (ctx : Context) (c : Command) : Prop :=
  ∀ file, c.historyFile? "read" = some file → ¬ m.OpensInput (ctx.resolvePath file).text

lemma ReadsElsewhere.operations {ctx : Context} {c : Command} (h : m.ReadsElsewhere ctx c)
    {b : Builtin} (hb : Builtin.ofName? c.displayName = some b) :
    ∀ x ∈ b.operations c.args ctx, ∀ path, x.2 = .read path → ¬ m.OpensInput path := by
  intro x hx path hop
  cases hargs : b.parseArguments c.args with
  | error e => simp [Builtin.operations, hargs] at hx
  | ok a =>
    by_cases hhelp : a.help = true
    · simp [Builtin.operations, hargs, hhelp] at hx
    cases b with
    | history =>
      have hfile : ∀ long, a.value? long = c.historyFile? long := by
        intro long
        simp [Command.historyFile?, Builtin.historyFile?, hb, hargs, hhelp]
      simp only [Builtin.operations, hargs, hhelp, Bool.false_eq_true, if_false,
        Builtin.historyOperations, List.mem_filterMap, List.mem_cons, List.not_mem_nil,
        or_false] at hx
      obtain ⟨option, rfl | rfl | rfl, hx⟩ := hx
      · obtain ⟨file, hvalue, rfl⟩ := Option.map_eq_some_iff.mp hx
        cases hop
        exact h file ((hfile "read").symm.trans hvalue)
      all_goals
        obtain ⟨file, -, rfl⟩ := Option.map_eq_some_iff.mp hx
        cases hop
    | exit =>
      simp only [Builtin.operations, hargs, hhelp, Bool.false_eq_true, if_false] at hx
      split at hx
      · cases hx
      · obtain rfl := List.mem_singleton.mp hx
        cases hop
    | _ => simp [Builtin.operations, hargs, hhelp] at hx

variable (h : m.IsApart .input)
include h

lemma IsApart.perform_input {b : Builtin} {command : Command} {ctx : Context}
    (hb : Builtin.ofName? command.displayName = some b) (hreads : m.ReadsElsewhere ctx command)
    {streams : Streams} (hwhole : streams.Whole) :
    KeepsInput m (m.perform b command streams ctx).2 := by
  refine (leavesInput_perform (hreads.operations hb) hwhole).keepsInput ?_
  exact (outside_isApart .input).perform b command streams ctx h

/-- A builtin that is given to a worker is not started with the session's input, even where it is
wired to read it. -/
lemma IsApart.work_apart (b : Builtin) (command : Command) {streams : Streams}
    (hinput : streams.input = .session ∨ ∃ id, streams.input = .pipe id)
    (herrors : ∀ id, streams.output = .pipe id → streams.errors.Avoids .input) (ctx : Context) :
    (m.work b command streams ctx).2.IsApart .input := by
  have hreported := (outside_isApart .input).disk.report b command.args ctx h
  refine work_after b command ctx m hreported (fun id todo hpipe => ?_) fun _ => ?_
  · have havoid : Streams.Avoid .input { streams with input := untaken streams.input } := by
      refine ⟨?_, ?_, herrors id hpipe⟩
      · rcases hinput with hinput | ⟨id, hinput⟩
        · simp [hinput, untaken, channelOf]
        · simp [hinput, untaken]
      · simp [hpipe]
    exact (IsApart.launch hreported rfl havoid [] todo [pipeSignal]).apart
  · exact (outside_isApart .input).perform b command streams ctx h

omit h in
/-- What the shell does to stages that were started leaves the session's input alone. -/
lemma preserves_input (programs : Programs) (m : Machine) (ctx : Context) :
    ((host programs).restrict fun _ => false).Preserves ctx (KeepsInput m)
      fun _ _ => False where
  makePipe _ hs := hs.trans ⟨hs.apart, List.prefix_refl _⟩
  spawn _ _ _ hs := hs
  isRunning _ _ hs := hs
  kill id _ hs := hs.trans (hs.apart.kill id).keepsInput
  wait id _ hs := hs.trans (hs.apart.wait rfl programs id).keepsInput
  work _ _ _ _ _ hfalse := hfalse.elim
  join w _ hs := hs.trans (hs.apart.join rfl programs w).keepsInput
  report e s hs := hs.trans ⟨hs.apart, stdin_report s.session e ▸ List.prefix_refl _⟩

omit h in
/-- A program that was started without the session's input. -/
lemma leavesInput_spawn (programs : Programs) (command : Command) {streams : Streams}
    (hinput : streams.input ≠ .session) (ctx : Context) {id : Nat}
    (hok : (spawn programs command streams ctx m).1 = .ok id) :
    LeavesInput m (spawn programs command streams ctx m).2 := by
  unfold spawn at hok ⊢
  split
  · exact .refl m
  · rename_i path hprogram
    rw [hprogram] at hok
    dsimp only at hok ⊢
    split
    · rename_i hprepare
      rw [hprepare] at hok
      cases hok
    · exact leavesInput_launch hinput _ _ _

/-- A stage is started. -/
lemma IsApart.launchStage_input (programs : Programs) (ctx : Context) {command : Command}
    {streams : Streams} (hinput : streams.input = .session ∨ ∃ id, streams.input = .pipe id)
    (herrors : ∀ id, streams.output = .pipe id → streams.errors.Avoids .input)
    (hwhole : ∀ id, streams.errors ≠ .pipe id)
    (hbuiltin : command.builtin = true → m.ReadsElsewhere ctx command)
    (hprogram : command.builtin = false → streams.Avoid .input) :
    KeepsInput m ((host programs).launch ctx command streams m).2 ∧
      ∀ stage, ((host programs).launch ctx command streams m).1 = .ok stage →
        LeavesInput m ((host programs).launch ctx command streams m).2 := by
  cases hcommand : command.builtin with
  | true =>
    cases hb : Builtin.ofName? command.displayName with
    | none =>
      have hlaunch : (host programs).launch ctx command streams m =
          (.error (.commandNotFound command.displayName), m) := by
        simp only [Host.launch, hcommand, hb, if_true]
        rfl
      rw [hlaunch]
      exact ⟨h.keepsInput, by simp⟩
    | some b =>
      have hreads : m.ReadsElsewhere ctx.detach command := hbuiltin hcommand
      have hleaves := leavesInput_work (hreads.operations hb) hwhole
      rw [launch_builtin programs hcommand hb]
      have hapart := h.work_apart b command hinput herrors ctx.detach
      exact ⟨hleaves.keepsInput hapart, fun _ _ => hleaves⟩
  | false =>
    have havoid := hprogram hcommand
    have hne : streams.input ≠ .session := by
      intro hsession
      simpa [hsession] using havoid.input
    have hspawn := (h.spawn rfl programs command havoid ctx).keepsInput
    rw [Host.launch_program _ _ hcommand, Host.spawnStage, bind_apply]
    cases hresult : ((host programs).spawn command streams ctx m).1 with
    | error e =>
      refine ⟨hspawn, fun stage hok => ?_⟩
      cases hok
    | ok id => exact ⟨hspawn, fun _ _ => leavesInput_spawn programs command hne ctx hresult⟩

/-- Stages the first of which is a builtin take nothing from the session's input, if no builtin
among them reads it as a file and the sinks that a program at the end is given do not lead
there. -/
lemma IsApart.runMixed_input (programs : Programs) (ctx : Context) {stages : List Command}
    (hfirst : ∃ c ∈ stages.head?, c.builtin = true)
    (hreads : ∀ c ∈ stages, c.builtin = true → m.ReadsElsewhere ctx c) {output errors : Sink}
    (hwhole : Streams.Whole ⟨.session, output, errors⟩)
    (hlast : ∀ c ∈ stages.getLast?, c.builtin = false →
      output.Avoids .input ∧ errors.Avoids .input) :
    KeepsInput m ((host programs).runMixed stages output errors ctx m).2 := by
  obtain ⟨first, hhead, hfirst⟩ := hfirst
  have hne : stages ≠ [] := by
    rintro rfl
    cases hhead
  rw [Host.runMixed, Host.runWired, bind_apply, wire_eq programs hne]
  dsimp only
  have hfinish : ((host programs).restrict fun _ => false).finish = (host programs).finish := rfl
  rw [← (host programs).startAll_of_teardown hfinish rfl]
  -- while stages are started no process acts, and nobody comes by a path that leads to the input
  refine Host.startAll_preserves_while (preserves_input programs m ctx)
    (T := fun s => s.IsApart .input ∧ LeavesInput m s) (fun s hs => hs.2.keepsInput hs.1)
    (fun x hx s hs => ?_) [] _ ⟨h, .of_output rfl rfl rfl⟩
  obtain ⟨hapart, hleaves⟩ := hs
  obtain ⟨hinput, hsinks⟩ := mem_zip_chain (m.length_pipesBetween hne) hx
  have herrors : ∀ id, x.2.output = .pipe id → x.2.errors.Avoids .input := by
    intro id houtput
    rcases hsinks with ⟨-, houtput', -⟩ | ⟨-, herrors⟩
    · exact absurd (houtput'.symm.trans houtput) (hwhole.output id)
    · simp [herrors]
  have hno_pipe : ∀ id, x.2.errors ≠ .pipe id := by
    intro id herrors
    rcases hsinks with ⟨-, -, herrors'⟩ | ⟨-, herrors'⟩
    · exact hwhole.errors id (herrors'.symm.trans herrors)
    · cases herrors'.symm.trans herrors
  have helsewhere : x.1.builtin = true → s.ReadsElsewhere ctx x.1 := by
    intro hbuiltin file hfile
    exact mt hleaves.opensInput (hreads x.1 (List.of_mem_zip hx).1 hbuiltin file hfile)
  have hprogram : x.1.builtin = false → x.2.Avoid .input := by
    intro hprogram
    obtain ⟨id, hid⟩ : ∃ id, x.2.input = .pipe id := by
      refine hinput.resolve_left ?_
      rintro ⟨hx, -⟩
      obtain rfl : first = x.1 := Option.some.inj (hhead.symm.trans hx)
      exact absurd (hfirst.symm.trans hprogram) (by decide)
    refine ⟨by simp [hid], ?_, ?_⟩
    all_goals
      rcases hsinks with ⟨hx, houtput, herrors⟩ | ⟨⟨id', houtput⟩, herrors⟩
    · rw [houtput]
      exact (hlast x.1 hx hprogram).1
    · simp [houtput]
    · rw [herrors]
      exact (hlast x.1 hx hprogram).2
    · simp [herrors]
  obtain ⟨hkept, hstarted⟩ := hapart.launchStage_input programs ctx (hinput.imp And.right id)
    herrors hno_pipe helsewhere hprogram
  exact ⟨(hleaves.keepsInput hapart).trans hkept,
    fun stage hok => ⟨hkept.apart, hleaves.trans (hstarted stage hok)⟩⟩

lemma IsApart.runStages_input (programs : Programs) (ctx : Context) {stages : List Command}
    (hfirst : ∃ c ∈ stages.head?, c.builtin = true)
    (hreads : ∀ c ∈ stages, c.builtin = true → m.ReadsElsewhere ctx c) {output errors : Sink}
    (hwhole : Streams.Whole ⟨.session, output, errors⟩)
    (hlast : ∀ c ∈ stages.getLast?, c.builtin = false →
      output.Avoids .input ∧ errors.Avoids .input) :
    KeepsInput m ((host programs).runStages stages output errors ctx m).2 := by
  rcases stages with _ | ⟨command, _ | ⟨next, rest⟩⟩
  · exact h.keepsInput
  · have hbuiltin : command.builtin = true := by simpa using hfirst
    simp only [Host.runStages, Strategy.of, List.length_singleton, if_true, Host.runSingle]
    rcases hrunner : command.runner with e | b | -
    · exact h.keepsInput
    · exact h.perform_input (ofName?_of_runner hrunner) (hreads command (by simp) hbuiltin)
        hwhole
    · exact absurd hrunner (Command.runner_ne_external hbuiltin)
  · rw [Host.runStages_state _ ctx output errors (by simp)]
    exact h.runMixed_input programs ctx hfirst hreads hwhole hlast

end Machine

/-! ### Executing a pipeline -/

/-- The pipeline begins with a builtin and does not go into a program. No builtin that it runs reads
the standard input of the shell as a file of the history. If the pipeline ends in a program then its
redirection does not open the standard input of the shell either. -/
structure Pipeline.SparesInput (programs : Programs) (p : Pipeline) (ctx : Context) (m : Machine) :
    Prop where
  first : ∃ c ∈ p.stages.head?, c.builtin = true
  command : ∀ r ∈ p.redirection, (ctx.resolve m.files r.target).runnable = true →
    (ctx.resolve m.files r.target).builtin = true
  reads : ∀ x ∈ Machine.moments (Machine.host programs).runStages p ctx m,
    ∀ c ∈ x.stages, c.builtin = true → x.machine.ReadsElsewhere x.context c
  file : ∀ r ∈ p.redirection, (ctx.resolve m.files r.target).runnable = false →
    ∀ c ∈ p.stages.getLast?, c.builtin = false →
      ∀ files, m.files.openFile [] (ctx.resolvePath r.target).text (.write r.mode) ≠
        .ok (.device (.descriptor 0), files)

namespace Machine

lemma redirected_avoids {sink : Sink} (hsink : sink.Avoids .input) (stream : OutputStream) :
    (redirected stream sink).1.Avoids .input ∧ (redirected stream sink).2.Avoids .input := by
  cases stream
  · exact ⟨hsink, by simp [redirected]⟩
  · exact ⟨by simp [redirected], hsink⟩

lemma channelOf_ne_input {f : OpenFile} (hf : f ≠ .device (.descriptor 0)) :
    channelOf f ≠ .input := by
  unfold channelOf
  split <;> simp_all

variable {m : Machine} (h : m.IsApart .input) (programs : Programs) (ctx : Context)
include h

/-- The words that a builtin takes are printed to a buffer. -/
lemma IsApart.runInto_input {stages : List Command}
    (hfirst : ∃ c ∈ stages.head?, c.builtin = true) (stream : OutputStream) {target : Command}
    (htarget : target.builtin = true)
    (hreads : ∀ x ∈ momentsInto (host programs).runStages stages stream target ctx m,
      ∀ c ∈ x.stages, c.builtin = true → x.machine.ReadsElsewhere x.context c) :
    KeepsInput m
      (runIntoBy (host programs).runStages stages stream target ctx m).2 := by
  have hempty : IsApart .input { m with capture := [] } := h
  have hcapture : Sink.Avoids .input .capture := by simp
  have hpipe : ∀ id, Sink.capture ≠ .pipe id := by simp
  have hleft : KeepsInput m (captured (host programs).runStages stages stream ctx m).2 := by
    have hrun := hempty.runStages_input programs ctx hfirst (hreads _ capturing_mem)
      (redirected_whole hpipe stream) fun _ _ _ => redirected_avoids hcapture stream
    exact ⟨hrun.apart, hrun.stdin⟩
  rw [runIntoBy_eq]
  split
  · exact ⟨hleft.apart, hleft.stdin⟩
  · rename_i hok
    have hrestored : KeepsInput m
        (taking (host programs).runStages stages stream target ctx m).machine :=
      ⟨hleft.apart, hleft.stdin⟩
    refine hrestored.trans (hrestored.apart.runStages_input programs _ ⟨_, rfl, ?_⟩
      (hreads _ (taking_mem hok)) Streams.whole_session (by simp))
    exact htarget

lemma IsApart.runToFile_input {stages : List Command}
    (hfirst : ∃ c ∈ stages.head?, c.builtin = true) (r : Redirection)
    (hreads : ∀ x ∈ momentsToFile stages r ctx m,
      ∀ c ∈ x.stages, c.builtin = true → x.machine.ReadsElsewhere x.context c)
    (hfile : ∀ c ∈ stages.getLast?, c.builtin = false →
      ∀ files, m.files.openFile [] (ctx.resolvePath r.target).text (.write r.mode) ≠
        .ok (.device (.descriptor 0), files)) :
    KeepsInput m (runToFileBy (host programs).runStages stages r ctx m).2 := by
  rw [runToFileBy]
  split
  · exact h.keepsInput
  · rename_i opened hopen
    have hopened : IsApart .input { m with files := opened.2 } := h
    have hpipe : ∀ id, Sink.file opened.1 r.mode ≠ .pipe id := by simp
    have hsink : ∀ c ∈ stages.getLast?, c.builtin = false →
        (Sink.file opened.1 r.mode).Avoids .input := by
      intro c hc hprogram
      refine channelOf_ne_input fun hdevice => ?_
      exact hfile c hc hprogram opened.2 (by rw [hopen, ← hdevice])
    have hmoment : ⟨stages, ctx, { m with files := opened.2 }⟩ ∈ momentsToFile stages r ctx m := by
      simp [momentsToFile, hopen]
    have hrun := hopened.runStages_input programs ctx hfirst (hreads _ hmoment)
      (redirected_whole hpipe r.stream)
      fun c hc hprogram => redirected_avoids (hsink c hc hprogram) r.stream
    exact ⟨hrun.apart, hrun.stdin⟩

lemma IsApart.execute_input {p : Pipeline} {ctx : Context} (hp : p.SparesInput programs ctx m) :
    KeepsInput m (execute programs p ctx m).2 := by
  have hreads := hp.reads
  rw [execute_eq_executeBy, executeBy]
  rw [moments] at hreads
  split
  · exact h.keepsInput
  rename_i hnoop
  rw [if_neg hnoop] at hreads
  split
  · exact h.keepsInput
  rename_i hfind
  simp only [hfind] at hreads
  split
  · rename_i hr
    simp only [hr] at hreads
    exact h.runStages_input programs ctx hp.first (hreads _ List.mem_cons_self)
      Streams.whole_session (by simp)
  · rename_i r hr
    simp only [hr] at hreads
    dsimp only
    split
    · rename_i hrunnable
      rw [if_pos hrunnable] at hreads
      exact h.runInto_input programs ctx hp.first r.stream (hp.command r hr hrunnable) hreads
    · rename_i hrunnable
      rw [if_neg hrunnable] at hreads
      exact h.runToFile_input programs ctx hp.first r hreads
        (hp.file r hr (by simpa using hrunnable))

end Machine

/-! ### Programs that read from their output -/

/-- A program that opens its own output again, and takes a byte from there. -/
def takesFromOutput : Programs := fun _ _ =>
  .call (.openFile "/dev/stdout" .read) fun
    | .ok number => .call (.read number 1) fun _ => .exit 0
    | .error _ => .exit 1

/-- A file system with a program and the streams of a process. -/
def withStreams : FileSystem :=
  { entries := [(["dev"], .directory), (["dev", "stdin"], .device (.descriptor 0)),
      (["dev", "stdout"], .device (.descriptor 1)), (["take"], .program "take")] }

def echoStage : Command :=
  { name := "echo", builtin := true, runnable := true, workspace := "/" }

def takeStage : Command :=
  { name := "take", program := "/take", runnable := true, workspace := "/" }

/-- The shell is given two bytes on its standard input. -/
def givenInput : Machine :=
  { files := withStreams, session := { kind := .inherited, stdin := ⟨[97, 98]⟩ } }

namespace Pipeline

end Pipeline

/-! ### Input that is taken through an output -/

namespace Machine

section

variable (programs : Programs)

/-- The machine after the process that acts next did so. -/
def turn (m : Machine) : Machine :=
  match m.next? with
  | none => m
  | some p => m.act programs p

lemma runUntil_turn {done : Machine → Bool} {m : Machine} (h : done m = false) (turns : Nat) :
    m.runUntil programs done (turns + 1) = (m.turn programs).runUntil programs done turns := by
  cases hnext : m.next? with
  | none => cases turns <;> simp [runUntil, turn, h, hnext]
  | some p => simp [runUntil, turn, h, hnext]

/-- A process that opens the path of one of its own streams gets a stream to the same channel. -/
lemma act_reopen {m : Machine} {p : Process} {path : String} {access : Access}
    {next : Except Errno Nat → Proc} (htodo : p.todo = .call (.openFile path access) next)
    {number s : Nat} {o : Opened}
    (hopen : m.files.openFile p.here (ofOctets path) access (0o666 &&& (0o777 - p.mask)) =
      .ok (.device (.descriptor number), m.files))
    (hstream : m.stream? p number = some (s, o)) (hchannel : ∀ l, o.channel ≠ .file (.file l)) :
    m.act programs p =
      ({ m with
          clock := max m.clock p.clock
          opened := m.opened.push (openedAs o.channel access) } : Machine).put
        { p.install p.freeNumber m.opened.size with
          todo := next (.ok p.freeNumber)
          clock := p.clock + (Request.openFile path access).cost } := by
  let now : Machine := { m with clock := max m.clock p.clock }
  have hpath : now.openPath p path access = .ok (o.channel, m.files) := by
    have hopen' : now.files.openFile p.here (ofOctets path) access (0o666 &&& (0o777 - p.mask)) =
      .ok (.device (.descriptor number), m.files) := hopen
    have hstream' : now.stream? p number = some (s, o) := hstream
    unfold openPath
    simp only [hopen', reopen, hstream']
    rfl
  have hserve : now.serve programs p (.openFile path access) =
      .answered (.ok p.freeNumber) (p.install p.freeNumber m.opened.size)
        { now with opened := m.opened.push (openedAs o.channel access) } := by
    change now.serveOpen p path access = _
    unfold serveOpen
    simp only [hpath]
    rfl
  rw [act, htodo]
  dsimp only
  rw [hserve]
  rfl

/-- The last of two stages is a process, which is waited for. -/
lemma finish_process (programs : Programs) (first : Stage Nat Worker) (id : Nat)
    (m : Machine) :
    ((host programs).finish [first, .process id] m).2 =
      ((host programs).abandon [first] (m.await programs id)).2 := by
  have hwait : (m.wait programs id).2 = m.await programs id := by
    rw [Machine.wait]
    split <;> rfl
  rw [← hwait]
  rfl

end

lemma steps_stdin : FileSystem.steps "/dev/stdin" = ["dev", "stdin"] := by decide

lemma openFile_stdin {access : Access} (haccess : access ≠ .fresh) :
    withStreams.openFile [] "/dev/stdin" access = .ok (.device (.descriptor 0), withStreams) :=
  FileSystem.openFile_device (by decide) steps_stdin (by decide) (by decide) rfl rfl haccess

lemma openFile_stdout {access : Access} (haccess : access ≠ .fresh) (bits : Nat) :
    withStreams.openFile [] "/dev/stdout" access bits =
      .ok (.device (.descriptor 1), withStreams) := by
  have hsteps : FileSystem.steps "/dev/stdout" = ["dev", "stdout"] := by decide
  exact FileSystem.openFile_device (by decide) hsteps (by decide) (by decide) rfl rfl haccess bits

/-- The program is found. -/
lemma prepare_take {m : Machine} (hfiles : m.files = withStreams) (hbase : m.base = []) :
    m.prepare "/take" takeStage [("PWD", "/")] =
      .ok ({ program := "take", name := "take", args := [] }, []) := by
  have hroot : withStreams.locate .target [] "/" = .ok (.present [] .directory) :=
    FileSystem.locate_eq_ok_iff.mpr ⟨by decide, .arrive _ _⟩
  have htake : withStreams.locate .target [] "/take" =
      .ok (.present ["take"] (.program "take")) := by
    have hsteps : FileSystem.steps "/take" = ["take"] := by decide
    refine FileSystem.locate_eq_ok_iff.mpr ⟨by decide, ?_⟩
    rw [ite_self, hsteps]
    exact .found (by decide) rfl (by decide) (by simp)
  have hplace : m.workplace takeStage.workspace = .ok [] := by
    simp [workplace, hfiles, hbase, takeStage, hroot]
  have hshort : Image.isTooLong
      (["take"].map toOctets ++ environment [("PWD", "/")]) = false := by
    rw [environment, List.mergeSort_singleton]
    decide
  exact prepare_program (by decide) hplace (by decide) (by decide) (hfiles ▸ htake) hshort

lemma not_runnable_stdin :
    (({ workspace := .root } : Context).resolve withStreams "/dev/stdin").runnable = false := by
  have hbuiltin : Builtin.ofName? "/dev/stdin" = none := by decide
  have habsolute : Path.isAbsolute "/dev/stdin" = true := by decide
  have hexecutable : withStreams.isExecutable "/dev/stdin" = false := by
    rw [FileSystem.isExecutable, FileSystem.stat?,
      FileSystem.locate_device (by decide) steps_stdin (by decide) (by decide) rfl rfl]
    rfl
  simp [Context.resolve, Context.findExecutable, hbuiltin, habsolute, hexecutable]

/-- The stages `echo | take`, with `take` writing to the standard input of the shell. -/
def takingPipeline : Pipeline :=
  { stages := [echoStage, takeStage]
    redirection := some { target := "/dev/stdin", stream := .stdout, mode := .truncate } }

/-- The streams of the two stages. -/
def echoStreams : Streams :=
  { input := .session, output := .pipe 0, errors := .sessionErr }

def takeStreams : Streams :=
  { input := .pipe 0, output := .file (.device (.descriptor 0)) .truncate, errors := .sessionErr }

/-- The machine after `echo` was started. -/
def withEcho : Machine :=
  (({ givenInput with pipes := #[{}] } : Machine).work .echo echoStage echoStreams
    { workspace := .root, detached := true }).2

/-- What `take` does. -/
def takeTodo : Proc :=
  takesFromOutput "take" { name := "take", vars := environment [("PWD", "/")] }

/-- The machine after `take` was started as well. -/
def withBoth : Machine :=
  (withEcho.launch takeStreams [] takeTodo).2

/-- The process of `take`, whose output is stream 4. -/
def takeProcess : Process :=
  { id := 3, parent := shellId, todo := takeTodo, here := [], clock := 0
    descriptors := [⟨0, 3, false⟩, ⟨1, 4, false⟩, ⟨2, 5, false⟩] }

lemma execute_taking :
    (execute takesFromOutput takingPipeline { workspace := .root } givenInput).2 =
      ((host takesFromOutput).finish [.worker (.writing 2), .process 3] withBoth).2 := by
  let ctx : Context := { workspace := .root }
  have hexecute : execute takesFromOutput takingPipeline ctx givenInput =
      (host takesFromOutput).runStages [echoStage, takeStage] takeStreams.output .sessionErr ctx
        givenInput := by
    have htarget : (ctx.resolvePath "/dev/stdin").text = "/dev/stdin" := by decide
    have hopen : withStreams.openFile [] "/dev/stdin" (.write .truncate) =
        .ok (.device (.descriptor 0), withStreams) := openFile_stdin (by simp)
    have hrunnable : ([echoStage, takeStage].find? fun c => !c.runnable) = none := rfl
    rw [execute_eq_executeBy, executeBy, if_neg (by decide)]
    dsimp only [takingPipeline, givenInput]
    rw [hrunnable]
    dsimp only
    rw [not_runnable_stdin, if_neg (by decide), runToFileBy]
    dsimp only
    rw [htarget, hopen]
    rfl
  have hfirst : (host takesFromOutput).launch ctx echoStage echoStreams
      { givenInput with pipes := #[{}] } = (.ok (.worker (.writing 2)), withEcho) := rfl
  have hsecond : (host takesFromOutput).launch ctx takeStage takeStreams withEcho =
      (.ok (.process 3), withBoth) := by
    have hprepare : withEcho.prepare "/take" takeStage (ctx.vars.set "PWD" takeStage.workspace) =
        .ok ({ program := "take", name := "take", args := [] }, []) := prepare_take rfl rfl
    have hspawn : (host takesFromOutput).spawn takeStage takeStreams ctx withEcho =
        (.ok 3, withBoth) := spawn_of_prepare takesFromOutput rfl hprepare takeStreams
    rw [Host.launch_program _ _ rfl, Host.spawnStage, bind_apply, hspawn]
    rfl
  have hwire := wire_eq takesFromOutput (by decide : [echoStage, takeStage] ≠ [])
    takeStreams.output .sessionErr givenInput
  rw [hexecute, Host.runStages_state _ _ _ _ (by decide), Host.runMixed, Host.runWired, bind_apply,
    hwire]
  change ((host takesFromOutput).startAll ((host takesFromOutput).launch ctx) []
    [(echoStage, echoStreams), (takeStage, takeStreams)]
    { givenInput with pipes := #[{}] }).2 = _
  rw [Host.startAll, bind_apply, hfirst]
  dsimp only
  rw [Host.startAll, bind_apply, hsecond]
  rfl

lemma stdin_taking : ¬ givenInput.session.stdin.rest <+:
    (execute takesFromOutput takingPipeline { workspace := .root }
      givenInput).2.session.stdin.rest := by
  -- `echo` acts first, and then `take` opens its output again
  let wrote := withBoth.turn takesFromOutput
  have hopen : wrote.files.openFile takeProcess.here (ofOctets "/dev/stdout") .read
      (0o666 &&& (0o777 - takeProcess.mask)) = .ok (.device (.descriptor 1), wrote.files) := by
    have hpath : ofOctets "/dev/stdout" = "/dev/stdout" := by decide
    change withStreams.openFile [] (ofOctets "/dev/stdout") .read _ = .ok (_, withStreams)
    rw [hpath]
    exact openFile_stdout (by simp) _
  have hstream : wrote.stream? takeProcess 1 = some (4, { channel := .input, writable := true }) :=
    rfl
  have hact := act_reopen takesFromOutput rfl hopen hstream (by simp)
  generalize hopened : (Machine.put _ _ : Machine) = opened at hact
  have hturn : wrote.turn takesFromOutput = opened := hact
  have hrun : withBoth.runUntil takesFromOutput (isDone 3) patience =
      opened.runUntil takesFromOutput (isDone 3) (2 ^ 40 - 2) := by
    have hpatience : patience = 2 ^ 40 - 2 + 1 + 1 := rfl
    rw [hpatience, runUntil_turn _ rfl, runUntil_turn _ rfl, hturn]
  rw [execute_taking, finish_process, await, hrun, ← hopened]
  decide +kernel

/-- What a builtin prints to the streams of the session does not change the input. -/
lemma stdin_perform (b : Builtin) (c : Command) (ctx : Context) (m : Machine) :
    (m.perform b c ⟨.session, .sessionOut, .sessionErr⟩ ctx).2.session.stdin =
      (b.report disk c.args ctx m).2.session.stdin := by
  refine perform_after (P := fun left => left.session.stdin = _) b c ctx m rfl
    Streams.whole_session fun stream bytes m₁ m₂ hsame hwrite => ?_
  rw [← hsame]
  cases stream <;>
  · rw [OutputStream.pick, write] at hwrite
    split at hwrite <;> cases hwrite <;> rfl

/-- The stage `history -r /dev/stdin`. -/
def readingStage : Command :=
  { name := "history", args := ["-r", "/dev/stdin"], builtin := true, runnable := true
    workspace := "/" }

lemma stdin_reading :
    let ctx : Context := { workspace := .root }
    (execute takesFromOutput { stages := [readingStage] } ctx givenInput).2.session.stdin =
      ⟨[]⟩ := by
  intro ctx
  have hrunner : readingStage.runner = .ok (.builtin .history) := by decide
  have hoperations : Builtin.history.operations readingStage.args ctx =
      [("/dev/stdin", .read "/dev/stdin")] := by decide
  have hopen : givenInput.files.openFile [] "/dev/stdin" .read =
      .ok (.device (.descriptor 0), withStreams) := openFile_stdin (by simp)
  have hread : (disk.read "/dev/stdin" givenInput).2.session.stdin = ⟨[]⟩ := by
    simp only [disk, hopen]
    rfl
  have hreport : (Builtin.history.report disk readingStage.args ctx
      givenInput).2.session.stdin = ⟨[]⟩ := by
    rw [Builtin.report_state, hoperations, History.attempt, bind_apply]
    simp only [History.Operation.act, History.readFile, bind_apply]
    rw [← hread]
    cases (disk.read "/dev/stdin" givenInput).1 <;> rfl
  rw [execute_builtin takesFromOutput hrunner]
  exact (stdin_perform _ _ _ _).trans hreport

end Machine

end Shell
