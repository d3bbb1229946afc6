import Shell.Proofs.Execute.Invariant
import Shell.Proofs.History.Reload
import Shell.Proofs.Machine.Desk
import Shell.Proofs.Machine.Files
import Shell.Proofs.Machine.Frame

/-!
# The history file and the stages of a pipeline

What stages do to the file of a history if `history` is given no other file. A builtin that runs
alone may append the pending entries to the file and then counts them as flushed. As a stage among
several it works on a copy of the context: it appends the pending entries too, but the history of
the session does not learn of it. Everything else leaves the file alone.
-/

namespace Shell

/-! ### Files of the history builtin -/

namespace Builtin

/-- The file that `history` is given with an option. -/
def historyFile? (long : String) (args : List String) : Option String :=
  match Builtin.history.parseArguments args with
  | .error _ => none
  | .ok a => if a.help then none else a.value? long

end Builtin

namespace Command

/-- The file that the command is given with an option if it is `history`. -/
def historyFile? (c : Command) (long : String) : Option String :=
  if Builtin.ofName? c.displayName = some .history then Builtin.historyFile? long c.args else none

/-- The command does not read or write a file of the history, and it appends only to the file at a
location. -/
structure KeepsTo (l : Location) (ctx : Context) (fs : FileSystem) (c : Command) : Prop where
  no_read : c.historyFile? "read" = none
  no_write : c.historyFile? "write" = none
  append : ∀ file, c.historyFile? "append" = some file →
    fs.place? (ctx.resolvePath file).text = some l

lemma KeepsTo.revises {l : Location} {ctx : Context} {fs fs' : FileSystem} {c : Command}
    (h : c.KeepsTo l ctx fs) (hrev : fs.Revises fs') : c.KeepsTo l ctx fs' :=
  ⟨h.no_read, h.no_write, fun file hfile => FileSystem.place?_revises hrev (h.append file hfile)⟩

lemma KeepsTo.detach {l : Location} {ctx : Context} {fs : FileSystem} {c : Command}
    (h : c.KeepsTo l ctx fs) : c.KeepsTo l ctx.detach fs :=
  ⟨h.no_read, h.no_write, h.append⟩

end Command

/-! ### One builtin -/

/-- All entries were appended to the file at a path. -/
def History.flushedTo (h : History) (path : String) : History :=
  { h with file := some path, flushed := h.entries.length }

/-- The history's own file is at a location. -/
def Context.HistoryAt (ctx : Context) (fs : FileSystem) (l : Location) : Prop :=
  ∃ path, ctx.history.file = some path ∧ fs.place? path = some l

/-- A request on the live context appends the pending entries to the history's own file. -/
lemma Context.requestExit_live {σ : Type} (d : Disk σ) {ctx : Context} {path : String}
    (hlive : ctx.detached = false) (hfile : ctx.history.file = some path) (s : σ) :
    ctx.requestExit d s =
      let ((_, history), s) := ctx.history.appendFile d path s
      ({ ctx with history, exiting := true }, s) := by
  have hflush : ctx.history.flushFile d = ctx.history.appendFile d path := by
    simp only [History.flushFile, hfile]
  rw [requestExit, if_neg (by simp [hlive]), hflush]
  rfl

/-- What a builtin does to the history and to its file at `l`, on a machine. -/
inductive Machine.Effect (l : Location) (ctx : Context) (m : Machine) (ctx' : Context)
    (m' : Machine) : Prop
  /-- Nothing. -/
  | idle (machine : m' = m) (history : ctx'.history = ctx.history)
      (exiting : ctx'.exiting = ctx.exiting)
  /-- The file may not be written. -/
  | refused (machine : m' = m) (mayWrite : m.files.mayWriteAt l = false)
  /-- The pending entries were appended. -/
  | appended (path : String) (place : m.files.place? path = some l)
      (history : ctx'.history = ctx.history.flushedTo path)
      (machine : m' = { m with files := m'.files })
      (saved : FileSystem.Saved m.files m'.files l
        (m.files.bytesAt l ++ encode (History.fileText ctx.history.pending)))

namespace Desk

/-- If `history` only appends. -/
lemma historyFiles_append {σ : Type} (d : Disk σ) {a : Arguments} (hread : a.value? "read" = none)
    (hwrite : a.value? "write" = none) (ctx : Context) (s : σ) :
    historyFiles a ctx d.operations s =
      match a.value? "append" with
      | none => ((.ok (), ctx), s)
      | some file =>
        let ((result, history), s) :=
          ctx.history.appendFile d (ctx.resolvePath file).text s
        ((result.mapError (.file file), { ctx with history }), s) := by
  simp only [Disk.operations, historyFiles, hread, hwrite]
  cases a.value? "append" with
  | none => rfl
  | some file =>
    dsimp only
    rw [bind_apply]
    rcases ctx.history.appendFile d (ctx.resolvePath file).text s with ⟨⟨_ | _, _⟩, _⟩ <;> rfl

end Desk

namespace Machine

variable {l : Location} {ctx : Context} {m : Machine}

/-- The history and the machine after an attempt to append to a file at `l`. -/
lemma effect_appendFile {ctx' : Context} {path : String} (hplace : m.files.place? path = some l)
    (hhistory : ctx'.history = (ctx.history.appendFile disk path m).1.2) :
    Effect l ctx m ctx' (ctx.history.appendFile disk path m).2 := by
  have happend := History.appendTo_of_place ctx.history hplace
  rw [appendFile_eq (isPlain_write_of_place hplace .append)] at hhistory ⊢
  split at happend
  · obtain ⟨fs', happend, hsaved⟩ := happend
    rw [happend] at hhistory ⊢
    exact .appended path hplace hhistory rfl hsaved
  · rename_i hnot
    rw [happend]
    exact .refused rfl (by simpa using fun h => hnot (.inr h))

lemma requestExit_effect (hown : ctx.detached = false → ctx.HistoryAt m.files l) :
    (ctx.requestExit disk m).1.detached = ctx.detached ∧
      Effect l ctx m (ctx.requestExit disk m).1 (ctx.requestExit disk m).2 ∧
      (ctx.detached = true → (ctx.requestExit disk m).2 = m) := by
  by_cases hdetached : ctx.detached = true
  · rw [Context.requestExit, if_pos hdetached]
    exact ⟨rfl, .idle rfl rfl rfl, fun _ => rfl⟩
  · have hlive : ctx.detached = false := by simpa using hdetached
    obtain ⟨path, hfile, hplace⟩ := hown hlive
    rw [Context.requestExit_live disk hlive hfile]
    exact ⟨rfl, effect_appendFile hplace rfl, fun h => absurd h hdetached⟩

lemma report_cd_effect (target : Option String) :
    let reported := disk.report (fun desk => desk.cd target ctx) m
    reported.1.context.detached = ctx.detached ∧ reported.2 = m ∧
      Effect l ctx m reported.1.context reported.2 := by
  intro reported
  have hreported : reported = _ := disk.report_cd ctx m target
  rw [hreported]
  split
  · exact ⟨rfl, rfl, .idle rfl rfl rfl⟩
  split
  · rename_i target _ ctx' hset
    rw [Context.setWorkspace] at hset
    split at hset
    · cases hset
      exact ⟨rfl, rfl, .idle rfl rfl rfl⟩
    · cases hset
  · exact ⟨rfl, rfl, .idle rfl rfl rfl⟩

lemma report_history_effect {a : Arguments} (hread : a.value? "read" = none)
    (hwrite : a.value? "write" = none)
    (happend : ∀ file, a.value? "append" = some file →
      m.files.place? (ctx.resolvePath file).text = some l) :
    let reported := disk.report (fun desk => desk.history a ctx) m
    reported.1.context.detached = ctx.detached ∧ Effect l ctx m reported.1.context reported.2 ∧
      (a.value? "append" = none → reported.2 = m) := by
  intro reported
  have hreported : reported = _ := disk.report_history ctx m a
  rw [hreported]
  split
  · exact ⟨rfl, .idle rfl rfl rfl, fun _ => rfl⟩
  rw [Desk.historyFiles_append disk hread hwrite]
  cases hfile : a.value? "append" with
  | none => exact ⟨rfl, .idle rfl rfl rfl, fun _ => rfl⟩
  | some file => exact ⟨rfl, effect_appendFile (happend file hfile) rfl, by rintro ⟨⟩⟩

/-- What a builtin does to the history and its file if it keeps to that file. -/
lemma report_effect {c : Command} {b : Builtin} (hb : Builtin.ofName? c.displayName = some b)
    (hkeeps : c.KeepsTo l ctx m.files) (hown : ctx.detached = false → ctx.HistoryAt m.files l) :
    let reported := b.report disk c.args ctx m
    reported.1.context.detached = ctx.detached ∧ Effect l ctx m reported.1.context reported.2 ∧
      (ctx.detached = true → c.historyFile? "append" = none → reported.2 = m) := by
  intro reported
  have hidle : ∀ r : Report, r.context = ctx →
      r.context.detached = ctx.detached ∧ Effect l ctx m r.context m ∧
        (ctx.detached = true → c.historyFile? "append" = none → m = m) := by
    rintro r hctx
    rw [hctx]
    exact ⟨rfl, .idle rfl rfl rfl, fun _ _ => rfl⟩
  have hreported : reported = _ := b.report_eq disk c.args ctx m
  rw [hreported]
  cases hargs : b.parseArguments c.args with
  | error e =>
    refine hidle _ ?_
    rfl
  | ok a =>
    dsimp only
    split
    · refine hidle _ ?_
      rfl
    rename_i hhelp
    cases b with
    | echo | pwd =>
      simp only [Desk.act, Disk.report_conclude]
      exact ⟨trivial, .idle rfl rfl rfl, fun _ _ => trivial⟩
    | type =>
      simp only [Desk.act, Disk.report_type]
      exact ⟨trivial, .idle rfl rfl rfl, fun _ _ => trivial⟩
    | exit =>
      obtain ⟨hdetached, heffect, hsame⟩ := requestExit_effect hown
      simp only [Desk.act, Disk.report_exit]
      exact ⟨hdetached, heffect, fun h _ => hsame h⟩
    | cd =>
      obtain ⟨hdetached, hsame, heffect⟩ := @report_cd_effect l ctx m a.positionals.head?
      exact ⟨hdetached, heffect, fun _ _ => hsame⟩
    | history =>
      have hfile : ∀ long, c.historyFile? long = a.value? long := by
        intro long
        simp [Command.historyFile?, Builtin.historyFile?, hb, hargs, hhelp]
      obtain ⟨hdetached, heffect, hsame⟩ := @report_history_effect l ctx m a
        (hfile "read" ▸ hkeeps.no_read) (hfile "write" ▸ hkeeps.no_write)
        (hfile "append" ▸ hkeeps.append)
      exact ⟨hdetached, heffect, fun _ h => hsame (hfile "append" ▸ h)⟩

/-! ### Builtins on the machine -/

lemma Effect.appends {ctx' : Context} {m' : Machine} (h : Effect l ctx m ctx' m') :
    Spares l m m' ∨ Appends l (encode (History.fileText ctx.history.pending)) m m' := by
  cases h with
  | idle hmachine _ _ | refused hmachine _ =>
    rw [hmachine]
    exact .inl (spares_refl m)
  | appended path hplace hhistory hmachine hsaved =>
    have hopened : m'.opened = m.opened := by rw [hmachine]
    refine .inr ⟨hsaved.revises, ?_, fun _ hmay => ⟨hsaved.mayWrite.trans hmay, hsaved.bytes⟩⟩
    rw [WritesAt, WritesAt, hopened]
    exact id

end Machine

/-- What is known of a stage among several: it keeps to the file, and `block` is what it appends. -/
structure Command.Adds (l : Location) (ctx : Context) (fs : FileSystem) (block : Bytes)
    (c : Command) : Prop where
  keeps : c.KeepsTo l ctx fs
  block : c.historyFile? "append" ≠ none → block = encode (History.fileText ctx.history.pending)

namespace Machine

variable {l : Location} {ctx : Context} {m m' : Machine}

/-- Writing the text of a builtin does not touch the context. -/
lemma context_perform (b : Builtin) (command : Command) {streams : Streams} (h : streams.Whole)
    (ctx : Context) (m : Machine) :
    (m.perform b command streams ctx).1.2 = (b.report disk command.args ctx m).1.context := by
  rw [perform_eq b command h]
  dsimp only
  split
  · rfl
  split
  · rfl
  split <;> rfl

/-- After a builtin acted, its text is written, which spares the file. -/
lemma perform_spares (b : Builtin) (command : Command) {streams : Streams} (h : streams.Whole)
    (hout : ¬ streams.output.IsAt l) (herr : ¬ streams.errors.IsAt l) (ctx : Context)
    (m : Machine) :
    Spares l (b.report disk command.args ctx m).2 (m.perform b command streams ctx).2 := by
  refine perform_after b command ctx m (spares_refl _) h fun stream bytes m₁ m₂ hspares hwrite => ?_
  cases stream with
  | stdout => exact hspares.spares (write_spares hout hwrite)
  | stderr => exact hspares.spares (write_spares herr hwrite)

lemma work_spares (b : Builtin) (command : Command) {streams : Streams}
    (hpipe : ∀ id, streams.errors ≠ .pipe id) (hout : ¬ streams.output.IsAt l)
    (herr : ¬ streams.errors.IsAt l) (ctx : Context) (m : Machine) :
    Spares l (b.report disk command.args ctx m).2 (m.work b command streams ctx).2 := by
  refine work_after b command ctx m (spares_refl _) ?_ ?_
  · exact fun id todo _ => launch_spares _ _ _ _ _
  · exact fun hne => perform_spares b command ⟨hne, hpipe⟩ hout herr ctx m

/-! ### Several stages -/

/-- The file at `l` has got some copies of `block` at its end. -/
def Repeats (l : Location) (block : Bytes) (m m' : Machine) : Prop :=
  ∃ copies, Appends l (List.replicate copies block).flatten m m'

lemma repeats_refl (block : Bytes) (m : Machine) : Repeats l block m m :=
  ⟨0, spares_refl m⟩

lemma Repeats.spares {block : Bytes} {m'' : Machine} (h : Repeats l block m m')
    (h' : Spares l m' m'') : Repeats l block m m'' := by
  obtain ⟨copies, h⟩ := h
  exact ⟨copies, h.spares h'⟩

lemma Repeats.appends {block : Bytes} {m'' : Machine} (h : Repeats l block m m')
    (h' : Appends l block m' m'') : Repeats l block m m'' := by
  obtain ⟨copies, h⟩ := h
  refine ⟨copies + 1, ?_⟩
  rw [List.replicate_succ', List.flatten_append]
  simpa using h.trans h'

lemma host_preserves (programs : Programs) {block : Bytes} (m : Machine) :
    (host programs).Preserves ctx (Repeats l block m) fun c streams =>
      c.Adds l ctx m.files block ∧ (∀ id, streams.errors ≠ .pipe id) ∧
        ¬ streams.output.IsAt l ∧ ¬ streams.errors.IsAt l where
  makePipe m' h := h.spares (spares_addPipe m' [])
  spawn command streams m' h := h.spares (spawn_spares programs command streams ctx m')
  isRunning _ m' h := h
  kill id m' h := h.spares (kill_spares id m')
  wait id m' h := h.spares (wait_spares programs id m')
  work b command streams m' hb hok h := by
    obtain ⟨hadds, hpipe, hout, herr⟩ := hok
    have hrev : m.files.Revises m'.files := h.choose_spec.revises
    -- On a copy of the context `exit` flushes nothing, so only `history` can append.
    obtain ⟨-, heffect, hsame⟩ := report_effect hb (hadds.keeps.revises hrev).detach
      (fun hlive => by cases hlive)
    have hrest := work_spares b command hpipe hout herr ctx.detach m'
    by_cases happend : command.historyFile? "append" = none
    · rw [hsame rfl happend] at hrest
      exact h.spares hrest
    · rw [hadds.block happend] at h ⊢
      rcases heffect.appends with hspares | happends
      · exact (h.spares hspares).spares hrest
      · exact (h.appends happends).spares hrest
  join w m' h := by
    cases w with
    | done result => exact h.spares (settle_spares programs m')
    | writing id => exact h.spares (wait_spares programs id m')
  report e m' h := h.spares (spares_of_eq rfl rfl)

/-! ### One stage -/

lemma ofName?_of_runner {c : Command} {b : Builtin} (h : c.runner = .ok (.builtin b)) :
    Builtin.ofName? c.displayName = some b := by
  rw [Command.runner] at h
  split at h
  · cases h
  split at h
  · split at h
    · rename_i hb
      cases h
      obtain ⟨name, hname, hb⟩ := Option.bind_eq_some_iff.mp hb
      rw [Command.displayName, hname]
      exact hb
    · cases h
  · cases h

/-- Executing one builtin is carrying it out with the streams of the session. -/
lemma execute_builtin (programs : Programs) {c : Command} {b : Builtin}
    (h : c.runner = .ok (.builtin b)) (ctx : Context) (m : Machine) :
    execute programs { stages := [c] } ctx m =
      m.perform b c { input := .session, output := .sessionOut, errors := .sessionErr } ctx := by
  obtain ⟨hrun, -, hnamed⟩ := Command.of_runner_builtin h
  have hnoop : Pipeline.isNoop { stages := [c] } = false := by simp [Pipeline.isNoop, hnamed]
  simp [execute, hnoop, hrun, Host.runStages, Strategy.of, Host.runSingle, h]
  rfl

/-- A stage that runs alone is a builtin on the live context, or it spares the file and the
context. -/
lemma runSingle_cases (programs : Programs) (c : Command) (output errors : Sink) (ctx : Context)
    (m : Machine) :
    (∃ b, Builtin.ofName? c.displayName = some b ∧
      (host programs).runSingle c output errors ctx m =
        m.perform b c { input := .session, output, errors } ctx) ∨
    (((host programs).runSingle c output errors ctx m).1.2 = ctx ∧
      Spares l m ((host programs).runSingle c output errors ctx m).2) := by
  rw [Host.runSingle]
  cases hrunner : c.runner with
  | error e => exact .inr ⟨rfl, spares_refl m⟩
  | ok runner =>
    cases runner with
    | builtin b => exact .inl ⟨b, ofName?_of_runner hrunner, rfl⟩
    | external =>
      right
      have hspawn := spawn_spares (l := l) programs c { input := .session, output, errors } ctx m
      dsimp only
      rw [bind_apply]
      cases ((host programs).spawn c { input := .session, output, errors } ctx m).1 with
      | error e => exact ⟨rfl, hspawn⟩
      | ok p => exact ⟨rfl, hspawn.spares (wait_spares programs p _)⟩

/-! ### Streams once opened -/

/-- No builtin opens a stream that stays open. -/
lemma outside_opened (m : Machine) : Outside fun m' => m'.opened = m.opened where
  files _ _ h := h
  session _ _ h := h
  capture _ _ h := h
  pipes _ _ h := h

lemma opened_perform (b : Builtin) (command : Command) (streams : Streams) (ctx : Context)
    (m : Machine) : (m.perform b command streams ctx).2.opened = m.opened :=
  (outside_opened m).perform b command streams ctx rfl

lemma work_writers (b : Builtin) (command : Command) (streams : Streams) (ctx : Context)
    (m : Machine) (h : m.WritesAt l) : (m.work b command streams ctx).2.WritesAt l := by
  have hopened : (b.report disk command.args ctx m).2.opened = m.opened :=
    (outside_opened m).disk.report b command.args ctx rfl
  have hreported : (b.report disk command.args ctx m).2.WritesAt l := by
    rw [WritesAt, hopened]
    exact h
  refine work_after (P := (·.WritesAt l)) b command ctx m hreported ?_ fun _ => ?_
  · exact fun id todo _ => (launch_spares _ _ _ _ _).writers hreported
  · rw [WritesAt, opened_perform]
    exact h

lemma host_preserves_writers (programs : Programs) :
    (host programs).Preserves ctx (·.WritesAt l) fun _ _ => True where
  makePipe m h := (spares_addPipe m []).writers h
  spawn command streams m h := (spawn_spares programs command streams ctx m).writers h
  isRunning _ m h := h
  kill id m h := (kill_spares id m).writers h
  wait id m h := (wait_spares programs id m).writers h
  work b command streams m _ _ h := work_writers b command streams ctx.detach m h
  join w m h := by
    cases w with
    | done result => exact (settle_spares programs m).writers h
    | writing id => exact (wait_spares programs id m).writers h
  report _ m h := h

/-- A stream that was opened before stages were run was opened after that. -/
lemma runStages_writers (programs : Programs) (stages : List Command) (output errors : Sink)
    (ctx : Context) (m : Machine) (h : m.WritesAt l) :
    ((host programs).runStages stages output errors ctx m).2.WritesAt l := by
  rcases stages with _ | ⟨c, _ | ⟨next, rest⟩⟩
  · exact h
  · rcases runSingle_cases (l := l) programs c output errors ctx m with ⟨b, -, hrun⟩ | ⟨-, hspares⟩
    · change ((host programs).runSingle c output errors ctx m).2.WritesAt l
      rw [hrun, WritesAt, opened_perform]
      exact h
    · exact hspares.writers h
  · rw [Host.runStages_state _ ctx output errors (by simp)]
    exact Host.runMixed_preserves (host_preserves_writers programs) (fun _ _ _ _ => trivial) m h

end Machine

end Shell
