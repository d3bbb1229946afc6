import Shell.Interpreter
import Shell.Proofs.History.Stages

/-!
# The history file after a session

A session loads its history from a file, evaluates lines and flushes the history when it ends. If
nothing else writes to the file, every line that was recorded is appended to it in order. It is
appended once, unless `history` was told to append while it was a stage among several: such a stage
writes the pending entries from a copy of the context, and they are still pending afterwards.
-/

namespace Shell

namespace History

/-! ### What was written -/

lemma flatten_replicate_encode (copies : Nat) (es : List String) :
    (List.replicate copies (encode (fileText es))).flatten =
      encode (fileText (List.replicate copies es).flatten) := by
  induction copies with
  | zero => rfl
  | succ copies ih =>
    rw [List.replicate_succ, List.flatten_cons, ih, List.replicate_succ, List.flatten_cons,
      fileText_append, encode_append]

/-- What a file has got of the entries `new`, the first `count` of which count as flushed. If `once`
holds, each of these was written just once. -/
structure Account (once : Prop) (new : List String) (count : Nat) (written : List String) :
    Prop where
  le_length : count ≤ new.length
  sublist : (new.take count).Sublist written
  mem : ∀ e ∈ written, e ∈ new
  eq : once → written = new.take count

namespace Account

variable {once : Prop} {new written : List String} {count : Nat}

lemma record (h : Account once new count written) (added : List String) :
    Account once (new ++ added) count written where
  le_length := by
    have hle := h.le_length
    rw [List.length_append]
    omega
  sublist := by
    rw [List.take_append_of_le_length h.le_length]
    exact h.sublist
  mem e he := List.mem_append_left _ (h.mem e he)
  eq honce := by
    rw [List.take_append_of_le_length h.le_length]
    exact h.eq honce

/-- The entries that are not flushed yet are written. -/
lemma flush (h : Account once new count written) :
    Account once new new.length (written ++ new.drop count) where
  le_length := Nat.le_refl _
  sublist := by
    rw [List.take_length]
    have hboth := h.sublist.append (List.Sublist.refl (new.drop count))
    rwa [List.take_append_drop] at hboth
  mem e he := by
    rcases List.mem_append.mp he with he | he
    · exact h.mem e he
    · exact List.mem_of_mem_drop he
  eq honce := by
    rw [h.eq honce, List.take_append_drop, List.take_length]

/-- The entries that are not flushed yet are written, but are not flushed all the same. -/
lemma repeated (h : Account once new count written) (hnot : ¬ once) (copies : Nat) :
    Account once new count (written ++ (List.replicate copies (new.drop count)).flatten) where
  le_length := h.le_length
  sublist := h.sublist.trans (List.sublist_append_left _ _)
  mem e he := by
    rcases List.mem_append.mp he with he | he
    · exact h.mem e he
    · obtain ⟨es, hes, he⟩ := List.mem_flatten.mp he
      rw [List.eq_of_mem_replicate hes] at he
      exact List.mem_of_mem_drop he
  eq honce := absurd honce hnot

end Account

end History

/-! ### The invariant -/

/-- What is written to the sink goes neither to a pipe nor to the file at `l`. -/
structure Sink.Misses (sink : Sink) (l : Location) : Prop where
  no_pipe : ∀ id, sink ≠ .pipe id
  not_at : ¬ sink.IsAt l

namespace Sink

variable (l : Location)

lemma misses_sessionOut : sessionOut.Misses l :=
  ⟨fun _ => nofun, by rintro ⟨mode, ⟨⟩⟩⟩

lemma misses_sessionErr : sessionErr.Misses l :=
  ⟨fun _ => nofun, by rintro ⟨mode, ⟨⟩⟩⟩

lemma misses_capture : capture.Misses l :=
  ⟨fun _ => nofun, by rintro ⟨mode, ⟨⟩⟩⟩

lemma misses_file {l : Location} {f : OpenFile} (h : f ≠ .file l) (mode : WriteMode) :
    (file f mode).Misses l := by
  refine ⟨fun _ => nofun, ?_⟩
  rintro ⟨_, ⟨⟩⟩
  exact h rfl

end Sink

/-- The file at `l` holds `base` and behind it what it got of the entries `new`, with which the
history goes on after the entries `before`. -/
structure Tracked (l : Location) (once : Prop) (base : Bytes) (before new : List String)
    (ctx : Context) (m : Machine) : Prop where
  live : ctx.detached = false
  file : ctx.HistoryAt m.files l
  mayWrite : m.files.mayWriteAt l = true
  entries : ctx.history.entries = before ++ new
  account : ∃ count written, ctx.history.flushed = before.length + count ∧
    m.files.bytesAt l = base ++ encode (History.fileText written) ∧
    History.Account once new count written
  ended : ctx.exiting = true → ctx.history.pending = []

namespace Tracked

variable {l : Location} {once : Prop} {base : Bytes} {before new : List String} {ctx : Context}
  {m m' : Machine}

lemma pending_eq {count : Nat} (hentries : ctx.history.entries = before ++ new)
    (hflushed : ctx.history.flushed = before.length + count) :
    ctx.history.pending = new.drop count := by
  rw [History.pending, hentries, hflushed, List.drop_append]
  simp

/-- The file got copies of the pending entries, or nothing. -/
lemma repeats {block : Bytes} (h : Tracked l once base before new ctx m)
    (hrepeats : Machine.Repeats l block m m')
    (hblock : block = [] ∨ ¬ once ∧ block = encode (History.fileText ctx.history.pending))
    (hnot : ¬ m'.WritesAt l) : Tracked l once base before new ctx m' := by
  obtain ⟨copies, happends⟩ := hrepeats
  obtain ⟨hmay, hbytes⟩ := happends.content hnot h.mayWrite
  obtain ⟨path, hfile, hplace⟩ := h.file
  obtain ⟨count, written, hflushed, hwritten, haccount⟩ := h.account
  refine ⟨h.live, ⟨path, hfile, FileSystem.place?_revises happends.revises hplace⟩, hmay, h.entries,
    ?_, h.ended⟩
  rcases hblock with rfl | ⟨honce, rfl⟩
  · refine ⟨count, written, hflushed, ?_, haccount⟩
    rw [hbytes, hwritten]
    simp
  · refine ⟨count, _, hflushed, ?_, haccount.repeated honce copies⟩
    rw [hbytes, hwritten, History.flatten_replicate_encode, History.fileText_append, encode_append,
      pending_eq h.entries hflushed, List.append_assoc]

lemma spares (h : Tracked l once base before new ctx m) (hspares : Machine.Spares l m m')
    (hnot : ¬ m'.WritesAt l) : Tracked l once base before new ctx m' :=
  h.repeats ⟨0, hspares⟩ (.inl rfl) hnot

/-- The pending entries were appended and count as flushed. -/
lemma flushedTo {ctx' : Context} {path : String} (h : Tracked l once base before new ctx m)
    (hlive : ctx'.detached = false) (hhistory : ctx'.history = ctx.history.flushedTo path)
    (hplace : m.files.place? path = some l)
    (hsaved : FileSystem.Saved m.files m'.files l
      (m.files.bytesAt l ++ encode (History.fileText ctx.history.pending))) :
    Tracked l once base before new ctx' m' := by
  obtain ⟨count, written, hflushed, hwritten, haccount⟩ := h.account
  refine ⟨hlive, ⟨path, by rw [hhistory]; rfl, FileSystem.place?_revises hsaved.revises hplace⟩,
    hsaved.mayWrite.trans h.mayWrite, by rw [hhistory]; exact h.entries, ?_, ?_⟩
  · refine ⟨new.length, _, ?_, ?_, haccount.flush⟩
    · rw [hhistory, History.flushedTo, h.entries, List.length_append]
    · rw [hsaved.bytes, hwritten, pending_eq h.entries hflushed, History.fileText_append,
        encode_append, List.append_assoc]
  · intro _
    rw [hhistory, History.pending, History.flushedTo, List.drop_length]

/-- A builtin on the live context. -/
lemma effect {ctx' : Context} (h : Tracked l once base before new ctx m)
    (hlive : ctx'.detached = ctx.detached) (heffect : Machine.Effect l ctx m ctx' m') :
    Tracked l once base before new ctx' m' := by
  cases heffect with
  | idle hmachine hhistory hexiting =>
    rw [hmachine]
    refine ⟨hlive.trans h.live, ?_, h.mayWrite, hhistory ▸ h.entries, hhistory ▸ h.account, ?_⟩
    · rw [Context.HistoryAt, hhistory]
      exact h.file
    · rw [hexiting, hhistory]
      exact h.ended
  | refused _ hmay =>
    rw [h.mayWrite] at hmay
    cases hmay
  | appended path hplace hhistory _ hsaved =>
    exact h.flushedTo (hlive.trans h.live) hhistory hplace hsaved

lemma record (h : Tracked l once base before new ctx m) (hgoing : ctx.exiting = false)
    (line : String) :
    Tracked l once base before (new ++ History.recorded [line]) (ctx.record line) m := by
  obtain ⟨count, written, hflushed, hwritten, haccount⟩ := h.account
  rw [Context.record, History.record_eq]
  refine ⟨h.live, h.file, h.mayWrite, ?_, ?_, fun hexit => ?_⟩
  · rw [← List.append_assoc, ← h.entries]
  · exact ⟨count, written, hflushed, hwritten, haccount.record _⟩
  · exact absurd hexit (by simp [hgoing])

/-! ### Stages -/

/-- A stage that runs alone, on the live context. -/
lemma runSingle (programs : Programs) {c : Command} {output errors : Sink}
    (h : Tracked l once base before new ctx m) (hkeeps : c.KeepsTo l ctx m.files)
    (hout : output.Misses l) (herr : errors.Misses l)
    (hnot : ¬ ((Machine.host programs).runSingle c output errors ctx m).2.WritesAt l) :
    Tracked l once base before new
      ((Machine.host programs).runSingle c output errors ctx m).1.2
      ((Machine.host programs).runSingle c output errors ctx m).2 := by
  rcases Machine.runSingle_cases (l := l) programs c output errors ctx m with
    ⟨b, hb, hrun⟩ | ⟨hctx, hspares⟩
  · obtain ⟨hlive, heffect, -⟩ := Machine.report_effect hb hkeeps fun _ => h.file
    have hwhole : Streams.Whole ⟨.session, output, errors⟩ := ⟨hout.no_pipe, herr.no_pipe⟩
    have hspares := Machine.perform_spares b c hwhole hout.not_at herr.not_at ctx m
    rw [hrun] at hnot ⊢
    rw [Machine.context_perform b c hwhole]
    exact (h.effect hlive heffect).spares hspares hnot
  · rw [hctx]
    exact h.spares hspares hnot

/-- Stages that run beside each other, on copies of the context. -/
lemma runMixed (programs : Programs) {stages : List Command} {output errors : Sink}
    (h : Tracked l once base before new ctx m) (hkeeps : ∀ c ∈ stages, c.KeepsTo l ctx m.files)
    (honce : once → ∀ c ∈ stages, c.historyFile? "append" = none)
    (hout : output.Misses l) (herr : errors.Misses l)
    (hnot : ¬ ((Machine.host programs).runMixed stages output errors ctx m).2.WritesAt l) :
    Tracked l once base before new ctx
      ((Machine.host programs).runMixed stages output errors ctx m).2 := by
  have hrun : ∀ block, (∀ c ∈ stages, c.Adds l ctx m.files block) → Machine.Repeats l block m
      ((Machine.host programs).runMixed stages output errors ctx m).2 := by
    intro block hadds
    refine Host.runMixed_preserves (Machine.host_preserves programs m) ?_ m
      (Machine.repeats_refl block m)
    rintro c hc streams (⟨rfl, rfl⟩ | ⟨⟨id, hpipe⟩, hsession⟩)
    · exact ⟨hadds c hc, herr.no_pipe, hout.not_at, herr.not_at⟩
    · have herrors := Sink.misses_sessionErr l
      rw [← hsession] at herrors
      refine ⟨hadds c hc, herrors.no_pipe, ?_, herrors.not_at⟩
      rintro ⟨mode, hmode⟩
      rw [hpipe] at hmode
      cases hmode
  -- Every stage that appends finds the same entries pending: how often they are written depends
  -- on the number of these stages, and they are still pending afterwards.
  by_cases hone : once
  · have hadds : ∀ c ∈ stages, c.Adds l ctx m.files [] := fun c hc =>
      ⟨hkeeps c hc, fun happend => absurd (honce hone c hc) happend⟩
    exact h.repeats (hrun [] hadds) (.inl rfl) hnot
  · have hadds : ∀ c ∈ stages,
        c.Adds l ctx m.files (encode (History.fileText ctx.history.pending)) :=
      fun c hc => ⟨hkeeps c hc, fun _ => rfl⟩
    exact h.repeats (hrun _ hadds) (.inr ⟨hone, rfl⟩) hnot

/-- Stages that keep to the file, and write their output elsewhere. -/
lemma runStages (programs : Programs) {stages : List Command} {output errors : Sink}
    (h : Tracked l once base before new ctx m) (hkeeps : ∀ c ∈ stages, c.KeepsTo l ctx m.files)
    (honce : once → 2 ≤ stages.length → ∀ c ∈ stages, c.historyFile? "append" = none)
    (hout : output.Misses l) (herr : errors.Misses l)
    (hnot : ¬ ((Machine.host programs).runStages stages output errors ctx m).2.WritesAt l) :
    Tracked l once base before new
      ((Machine.host programs).runStages stages output errors ctx m).1.2
      ((Machine.host programs).runStages stages output errors ctx m).2 := by
  rcases stages with _ | ⟨c, _ | ⟨next, rest⟩⟩
  · exact h
  · exact h.runSingle programs (hkeeps c List.mem_cons_self) hout herr hnot
  · have hmany : 2 ≤ (c :: next :: rest).length := by simp
    rw [Host.runStages_state _ ctx output errors hmany] at hnot ⊢
    rw [Host.runStages_context _ ctx output errors hmany]
    exact h.runMixed programs hkeeps (fun hone => honce hone hmany) hout herr hnot

end Tracked

/-! ### Lines that keep to the file -/

/-- The command that takes the words which stages print, with the context and the machine that it
finds. -/
def Machine.taker (programs : Programs) (p : Pipeline) (r : Redirection) (ctx : Context)
    (m : Machine) : Command × Context × Machine :=
  let sinks := redirected r.stream .capture
  let left := (host programs).runStages p.stages sinks.1 sinks.2 ctx { m with capture := [] }
  let args := words (decodeLossy left.2.capture)
  ({ ctx.resolve m.files r.target with args }, left.1.2, left.2)

/-- The commands of a pipeline keep to the file at `l`, and the pipeline is not redirected to it. -/
structure Pipeline.KeepsTo (programs : Programs) (l : Location) (ctx : Context) (m : Machine)
    (p : Pipeline) : Prop where
  stages : ∀ c ∈ p.stages, c.KeepsTo l ctx m.files
  /-- One stage appends at most. Stages run beside each other, and a line and its line feed are
  written one after the other: the lines of two that append may get into each other. -/
  single : (p.stages.filter fun c => (c.historyFile? "append").isSome).length ≤ 1
  taker : ∀ r, p.redirection = some r → (ctx.resolve m.files r.target).runnable = true →
    let (command, ctx, m) := m.taker programs p r ctx
    command.KeepsTo l ctx m.files
  file : ∀ r, p.redirection = some r → (ctx.resolve m.files r.target).runnable = false →
    ∀ f fs, m.files.openFile [] (ctx.resolvePath r.target).text (.write r.mode) = .ok (f, fs) →
      f ≠ .file l

/-- If `history` is told to append to a file, then not as a stage among several. -/
def Pipeline.AppendsAlone (p : Pipeline) : Prop :=
  2 ≤ p.stages.length → ∀ c ∈ p.stages, c.historyFile? "append" = none

namespace Tracked

variable {l : Location} {once : Prop} {base : Bytes} {before new : List String} {ctx : Context}
  {m : Machine} (programs : Programs)

/-- The session and the captured words are no part of it. -/
lemma of_files {m' : Machine} (h : Tracked l once base before new ctx m)
    (hfiles : m'.files = m.files) : Tracked l once base before new ctx m' := by
  obtain ⟨hlive, hfile, hmay, hentries, haccount, hended⟩ := h
  rw [← hfiles] at hfile hmay haccount
  exact ⟨hlive, hfile, hmay, hentries, haccount, hended⟩

lemma misses_redirected (stream : OutputStream) {sink : Sink} (h : sink.Misses l) :
    (Machine.redirected stream sink).1.Misses l ∧ (Machine.redirected stream sink).2.Misses l := by
  cases stream
  · exact ⟨h, Sink.misses_sessionErr l⟩
  · exact ⟨Sink.misses_sessionOut l, h⟩

/-- First the stages run, then the command that takes their words. -/
lemma runInto {p : Pipeline} {r : Redirection} (h : Tracked l once base before new ctx m)
    (hstages : ∀ c ∈ p.stages, c.KeepsTo l ctx m.files) (honce : once → p.AppendsAlone)
    (htaker : let (command, ctx, m) := m.taker programs p r ctx
      command.KeepsTo l ctx m.files)
    (hnot : ¬ (Machine.runIntoBy (Machine.host programs).runStages p.stages r.stream
      (ctx.resolve m.files r.target) ctx m).2.WritesAt l) :
    Tracked l once base before new
      (Machine.runIntoBy (Machine.host programs).runStages p.stages r.stream
        (ctx.resolve m.files r.target) ctx m).1.2
      (Machine.runIntoBy (Machine.host programs).runStages p.stages r.stream
        (ctx.resolve m.files r.target) ctx m).2 := by
  obtain ⟨hout, herr⟩ := misses_redirected r.stream (Sink.misses_capture l)
  have hclear : Tracked l once base before new ctx { m with capture := [] } := h.of_files rfl
  have hleft := hclear.runStages programs hstages (fun hone => honce hone) hout herr
  simp only [Machine.taker] at htaker
  simp only [Machine.runIntoBy] at hnot ⊢
  generalize (Machine.host programs).runStages p.stages (Machine.redirected r.stream .capture).1
    (Machine.redirected r.stream .capture).2 ctx { m with capture := [] } = left
    at hleft htaker hnot ⊢
  obtain ⟨⟨result, ctx'⟩, m'⟩ := left
  cases result with
  | error e => exact (hleft hnot).of_files rfl
  | ok status =>
    have hbefore : ¬ m'.WritesAt l := fun hw =>
      hnot (Machine.runStages_writers programs _ _ _ _ { m' with capture := m.capture } hw)
    have hafter : Tracked l once base before new ctx' { m' with capture := m.capture } :=
      (hleft hbefore).of_files rfl
    refine hafter.runStages programs ?_ ?_ (Sink.misses_sessionOut l) (Sink.misses_sessionErr l)
      hnot
    · intro c hc
      obtain rfl := List.mem_singleton.mp hc
      exact htaker
    · intro _ hmany
      exact absurd hmany (by simp)

/-- The file that the output goes to is another one. -/
lemma runToFile {p : Pipeline} {r : Redirection} (h : Tracked l once base before new ctx m)
    (hstages : ∀ c ∈ p.stages, c.KeepsTo l ctx m.files) (honce : once → p.AppendsAlone)
    (hfile : ∀ f fs, m.files.openFile [] (ctx.resolvePath r.target).text (.write r.mode) =
      .ok (f, fs) → f ≠ .file l)
    (hnot :
      ¬ (Machine.runToFileBy (Machine.host programs).runStages p.stages r ctx m).2.WritesAt l) :
    Tracked l once base before new
      (Machine.runToFileBy (Machine.host programs).runStages p.stages r ctx m).1.2
      (Machine.runToFileBy (Machine.host programs).runStages p.stages r ctx m).2 := by
  rw [Machine.runToFileBy] at hnot ⊢
  dsimp only at hnot ⊢
  cases hopen : m.files.openFile [] (ctx.resolvePath r.target).text (.write r.mode) with
  | error e => exact h
  | ok opened =>
    obtain ⟨f, fs⟩ := opened
    have hne := hfile f fs hopen
    rw [hopen] at hnot
    dsimp only at hnot ⊢
    have hbefore : ¬ m.WritesAt l := fun hw =>
      hnot (Machine.runStages_writers programs _ _ _ _ { m with files := fs } hw)
    have hspares : Machine.Spares l m { m with files := fs } := by
      refine Machine.spares_of_get? (FileSystem.openFile_revises hopen) id fun _ => ?_
      rcases FileSystem.openFile_cases hopen with rfl | ⟨k, mode, rfl, -, -, -, rfl⟩
      · rfl
      · refine FileSystem.get?_insert_of_ne _ _ ?_
        rintro rfl
        exact hne rfl
    obtain ⟨hout, herr⟩ := misses_redirected r.stream (Sink.misses_file hne r.mode)
    have hopened := h.spares hspares hbefore
    refine hopened.runStages programs ?_ (fun hone => honce hone) hout herr hnot
    exact fun c hc => (hstages c hc).revises (FileSystem.openFile_revises hopen)

lemma execute {p : Pipeline} (h : Tracked l once base before new ctx m)
    (hkeeps : p.isNoop = false → (∀ c ∈ p.stages, c.runnable = true) → p.KeepsTo programs l ctx m)
    (honce : once → p.AppendsAlone)
    (hnot : ¬ (Machine.execute programs p ctx m).2.WritesAt l) :
    Tracked l once base before new (Machine.execute programs p ctx m).1.2
      (Machine.execute programs p ctx m).2 := by
  rw [Machine.execute_eq_executeBy] at hnot ⊢
  by_cases hnoop : p.isNoop = true
  · rw [Machine.executeBy, if_pos hnoop] at hnot ⊢
    exact h
  simp only [Machine.executeBy, if_neg hnoop] at hnot ⊢
  cases hfind : p.stages.find? fun c => !c.runnable with
  | some c => exact h
  | none =>
    rw [hfind] at hnot
    have hrunnable : ∀ c ∈ p.stages, c.runnable = true := by
      intro c hc
      simpa using List.find?_eq_none.mp hfind c hc
    have hp := hkeeps (by simpa using hnoop) hrunnable
    cases hr : p.redirection with
    | none =>
      rw [hr] at hnot
      exact h.runStages programs hp.stages (fun hone => honce hone) (Sink.misses_sessionOut l)
        (Sink.misses_sessionErr l) hnot
    | some r =>
      simp only [hr] at hnot ⊢
      by_cases htarget : (ctx.resolve m.files r.target).runnable = true
      · rw [if_pos htarget] at hnot ⊢
        exact h.runInto programs hp.stages honce (hp.taker r hr htarget) hnot
      · rw [if_neg htarget] at hnot ⊢
        exact h.runToFile programs hp.stages honce (hp.file r hr (by simpa using htarget)) hnot

end Tracked

/-- A stream that was opened before a pipeline was executed was opened after that. -/
lemma Machine.execute_writers (programs : Programs) {l : Location} (p : Pipeline) (ctx : Context)
    {m : Machine} (h : m.WritesAt l) : (execute programs p ctx m).2.WritesAt l := by
  have hrun := runStages_writers (l := l) programs
  rw [execute_eq_executeBy, executeBy]
  split
  · exact h
  split
  · exact h
  split
  · exact hrun _ _ _ _ m h
  · dsimp only
    split
    · rw [runIntoBy]
      dsimp only
      split
      · exact hrun _ _ _ _ { m with capture := [] } h
      · exact hrun _ _ _ _ _ (hrun p.stages _ _ _ { m with capture := [] } h)
    · rw [runToFileBy]
      dsimp only
      split
      · exact h
      · rename_i opened _
        exact hrun _ _ _ _ { m with files := opened.2 } h

/-! ### Lines -/

namespace Interpreter

variable (programs : Programs)

/-- A line that keeps to the file at `l` if it is run. -/
def KeepsTo (l : Location) (line : String) (sh : Interpreter) : Prop :=
  ∀ p, Pipeline.parse (sh.context.record line) sh.machine.files line = .ok p →
    p.isNoop = false → (∀ c ∈ p.stages, c.runnable = true) →
      p.KeepsTo programs l (sh.context.record line) sh.machine

/-- In this line `history` appends to a file, if at all, on the live context. -/
def AppendsAlone (line : String) (sh : Interpreter) : Prop :=
  ∀ p, Pipeline.parse (sh.context.record line) sh.machine.files line = .ok p → p.AppendsAlone

/-- Reporting an error changes the session alone. -/
lemma machine_evaluate (line : String) (sh : Interpreter) :
    (sh.evaluate programs line).2.machine.files =
        (runLine programs line (sh.context.record line) sh.machine).2.files ∧
      (sh.evaluate programs line).2.machine.opened =
        (runLine programs line (sh.context.record line) sh.machine).2.opened := by
  rcases hrun : runLine programs line (sh.context.record line) sh.machine with ⟨⟨result, ctx⟩, m⟩
  cases result <;> simp [evaluate, hrun]

lemma runLine_cases (line : String) (ctx : Context) (m : Machine) :
    (∃ e, runLine programs line ctx m = ((.error e, ctx), m)) ∨
      ∃ p, Pipeline.parse ctx m.files line = .ok p ∧
        runLine programs line ctx m = Machine.execute programs p ctx m := by
  cases hparse : Pipeline.parse ctx m.files line with
  | error e =>
    refine .inl ⟨e, ?_⟩
    rw [runLine, get_bind_apply, hparse]
    rfl
  | ok p => exact .inr ⟨p, rfl, runLine_of_parse programs line hparse⟩

lemma evaluate_writers {l : Location} (line : String) {sh : Interpreter}
    (h : sh.machine.WritesAt l) : (sh.evaluate programs line).2.machine.WritesAt l := by
  rw [Machine.WritesAt, (machine_evaluate programs line sh).2]
  rcases runLine_cases programs line (sh.context.record line) sh.machine with
    ⟨e, hrun⟩ | ⟨p, -, hrun⟩
  · rw [hrun]
    exact h
  · rw [hrun]
    exact Machine.execute_writers programs p _ h

variable {l : Location} {once : Prop} {base : Bytes} {before new : List String}

/-- A line adds itself to the entries. -/
lemma tracked_evaluate {line : String} {sh : Interpreter}
    (h : Tracked l once base before new sh.context sh.machine) (hgoing : sh.context.exiting = false)
    (hkeeps : sh.KeepsTo programs l line) (honce : once → sh.AppendsAlone line)
    (hnot : ¬ (sh.evaluate programs line).2.machine.WritesAt l) :
    Tracked l once base before (new ++ History.recorded [line])
      (sh.evaluate programs line).2.context (sh.evaluate programs line).2.machine := by
  obtain ⟨hfiles, hopened⟩ := machine_evaluate programs line sh
  rw [Machine.WritesAt, hopened] at hnot
  rw [context_evaluate]
  refine Tracked.of_files ?_ hfiles
  have hrecord := h.record hgoing line
  rcases runLine_cases programs line (sh.context.record line) sh.machine with
    ⟨e, hrun⟩ | ⟨p, hparse, hrun⟩
  · rw [hrun]
    exact hrecord
  · rw [hrun] at hnot ⊢
    exact hrecord.execute programs (hkeeps p hparse) (fun hone => honce hone p hparse) hnot

/-! ### Sessions -/

/-- Evaluate lines until one of them ends the session. -/
def evaluateAll : List String → Interpreter → Interpreter
  | [], sh => sh
  | line :: rest, sh =>
    match sh.evaluate programs line with
    | (.exit, sh) => sh
    | (.next, sh) => evaluateAll rest sh

/-- The lines up to the one that ends the session. -/
def evaluated : List String → Interpreter → List String
  | [], _ => []
  | line :: rest, sh =>
    match sh.evaluate programs line with
    | (.exit, _) => [line]
    | (.next, sh) => line :: evaluated rest sh

/-- Every line that is evaluated is as `P` says of it and the session before it. -/
def Throughout (P : String → Interpreter → Prop) : List String → Interpreter → Prop
  | [], _ => True
  | line :: rest, sh =>
    P line sh ∧
      match sh.evaluate programs line with
      | (.exit, _) => True
      | (.next, sh) => Throughout P rest sh

/-- A whole session: lines are evaluated, and at the end of the input the session ends as by
`exit`. -/
def session (lines : List String) (sh : Interpreter) : Interpreter :=
  (evaluateAll programs lines sh).finish

lemma evaluateAll_writers {l : Location} (lines : List String) {sh : Interpreter}
    (h : sh.machine.WritesAt l) : (evaluateAll programs lines sh).machine.WritesAt l := by
  induction lines generalizing sh with
  | nil => exact h
  | cons line rest ih =>
    have hline := evaluate_writers programs line h
    rw [evaluateAll]
    split
    · rename_i heq
      rw [heq] at hline
      exact hline
    · rename_i heq
      rw [heq] at hline
      exact ih hline

/-- By induction over the lines: each adds itself to the entries, until one ends the session. -/
lemma tracked_evaluateAll {lines : List String} {sh : Interpreter}
    (h : Tracked l once base before new sh.context sh.machine) (hgoing : sh.context.exiting = false)
    (hkeeps : Throughout programs (fun line sh => sh.KeepsTo programs l line) lines sh)
    (honce : once → Throughout programs (fun line sh => sh.AppendsAlone line) lines sh)
    (hnot : ¬ (evaluateAll programs lines sh).machine.WritesAt l) :
    Tracked l once base before (new ++ History.recorded (evaluated programs lines sh))
      (evaluateAll programs lines sh).context (evaluateAll programs lines sh).machine := by
  induction lines generalizing sh new with
  | nil => simpa [evaluated, evaluateAll, History.recorded] using h
  | cons line rest ih =>
    obtain ⟨hkeep, hrest⟩ := hkeeps
    have hflow := flow_evaluate programs line sh
    have hstep := tracked_evaluate programs h hgoing hkeep (fun hone => (honce hone).1)
    have hlater : once → _ := fun hone => (honce hone).2
    rw [evaluateAll] at hnot ⊢
    rw [evaluated, History.recorded]
    rcases heval : sh.evaluate programs line with ⟨flow, sh'⟩
    rw [heval] at hflow hstep hrest hlater hnot
    cases flow with
    | exit => exact hstep hnot
    | next =>
      have hgoing' : sh'.context.exiting = false := by
        cases hexit : sh'.context.exiting with
        | false => rfl
        | true =>
          rw [(flow_eq_exit_iff sh').mpr hexit] at hflow
          cases hflow
      have hbefore : ¬ sh'.machine.WritesAt l := fun hw =>
        hnot (evaluateAll_writers programs rest hw)
      have hend := ih (hstep hbefore) hgoing' hrest hlater hnot
      rw [List.append_assoc, ← History.recorded_cons] at hend
      exact hend

lemma opened_finish (sh : Interpreter) : sh.finish.machine.opened = sh.machine.opened := by
  rw [finish]
  split
  · rfl
  · exact (Machine.outside_opened sh.machine).disk.requestExit sh.context rfl

lemma exiting_requestExit {σ : Type} (d : Disk σ) {ctx : Context} (h : ctx.detached = false)
    (s : σ) : (ctx.requestExit d s).1.exiting = true := by
  unfold Context.requestExit
  rw [h]
  rfl

/-- Ending the session flushes what is pending. -/
lemma tracked_finish {sh : Interpreter} (h : Tracked l once base before new sh.context sh.machine) :
    Tracked l once base before new sh.finish.context sh.finish.machine ∧
      sh.finish.context.history.pending = [] := by
  rw [finish]
  by_cases hexit : sh.context.exiting = true
  · rw [if_pos hexit]
    exact ⟨h, h.ended hexit⟩
  · rw [if_neg hexit]
    obtain ⟨hlive, heffect, -⟩ := Machine.requestExit_effect fun _ => h.file
    have hend := h.effect hlive heffect
    exact ⟨hend, hend.ended (exiting_requestExit Machine.disk h.live _)⟩

/-- A history whose file is at `l` and all of whose entries are flushed. -/
lemma Tracked.start {ctx : Context} {m : Machine} (once : Prop) (hlive : ctx.detached = false)
    (hgoing : ctx.exiting = false) (hfile : ctx.HistoryAt m.files l)
    (hflushed : ctx.history.flushed = ctx.history.entries.length)
    (hmay : m.files.mayWriteAt l = true) :
    Tracked l once (m.files.bytesAt l) ctx.history.entries [] ctx m where
  live := hlive
  file := hfile
  mayWrite := hmay
  entries := (List.append_nil _).symm
  account := by
    have haccount : History.Account once [] 0 [] :=
      ⟨Nat.le_refl 0, List.Sublist.refl [], fun _ he => he, fun _ => rfl⟩
    refine ⟨0, [], hflushed, ?_, haccount⟩
    simp [History.fileText, encode_eq_flatMap]
  ended hexit := by
    rw [hgoing] at hexit
    cases hexit

/-- What loading a regular file leaves as it was, and where the history is afterwards. -/
lemma loadHistory_spec {sh : Interpreter} {file : String}
    (hplace : sh.machine.files.place? (sh.context.resolvePath file).text = some l) :
    (sh.loadHistory file).machine = sh.machine ∧
      (sh.loadHistory file).context.detached = sh.context.detached ∧
      (sh.loadHistory file).context.exiting = sh.context.exiting ∧
      (sh.loadHistory file).context.history.file = some (sh.context.resolvePath file).text ∧
      (sh.loadHistory file).context.history.flushed =
        (sh.loadHistory file).context.history.entries.length := by
  have hplain := Machine.isPlain_read_of_place hplace
  have hload : sh.loadHistory file =
      { sh with context := { sh.context with
                  history := (sh.context.history.load sh.machine.files
                    (sh.context.resolvePath file).text).2 } } := by
    rw [loadHistory, Context.loadHistory, bind_apply, Machine.loadFile_eq hplain]
    generalize sh.context.history.load sh.machine.files (sh.context.resolvePath file).text = loaded
    rfl
  rw [hload, History.load_eq, History.readFrom_eq]
  cases sh.machine.files.readText (sh.context.resolvePath file).text <;>
    exact ⟨rfl, rfl, rfl, rfl, rfl⟩

/-- The file of a history after a session in whose pipelines one stage at most appends to it: behind
what it held there is every line that was recorded, in order. Nothing else is there, and if
`history` never appended as a stage among several, each is there just once. -/
theorem bytesAt_session {sh : Interpreter} {file : String} {lines : List String}
    (hlive : sh.context.detached = false) (hgoing : sh.context.exiting = false)
    (hplace : sh.machine.files.place? (sh.context.resolvePath file).text = some l)
    (hmay : sh.machine.files.mayWriteAt l = true)
    (hkeeps : Throughout programs (fun line sh => sh.KeepsTo programs l line) lines
      (sh.loadHistory file))
    (hnot : ¬ (session programs lines (sh.loadHistory file)).machine.WritesAt l) :
    ∃ written,
      (session programs lines (sh.loadHistory file)).machine.files.bytesAt l =
        sh.machine.files.bytesAt l ++ encode (History.fileText written) ∧
      (History.recorded (evaluated programs lines (sh.loadHistory file))).Sublist written ∧
      (∀ e ∈ written, e ∈ History.recorded (evaluated programs lines (sh.loadHistory file))) ∧
      (Throughout programs (fun line sh => sh.AppendsAlone line) lines (sh.loadHistory file) →
        written = History.recorded (evaluated programs lines (sh.loadHistory file))) := by
  obtain ⟨hmachine, hdetached, hexiting, hfile, hflushed⟩ := loadHistory_spec hplace
  rw [← hmachine] at hplace hmay ⊢
  rw [← hdetached] at hlive
  rw [← hexiting] at hgoing
  generalize sh.loadHistory file = loaded at *
  -- The invariant is taken with the condition for "just once" as a proposition, so that one run
  -- gives both parts.
  have hstart := Tracked.start
    (Throughout programs (fun line sh => sh.AppendsAlone line) lines loaded) hlive hgoing
    ⟨_, hfile, hplace⟩ hflushed hmay
  rw [session, Machine.WritesAt, opened_finish] at hnot
  have hlines := tracked_evaluateAll programs hstart hgoing hkeeps id hnot
  obtain ⟨hend, hpending⟩ := tracked_finish hlines
  obtain ⟨count, written, hflushed, hbytes, haccount⟩ := hend.account
  rw [Tracked.pending_eq hend.entries hflushed, List.drop_eq_nil_iff] at hpending
  have hall := List.take_of_length_le hpending
  rw [List.nil_append] at haccount hall
  refine ⟨written, hbytes, ?_, haccount.mem, fun hone => ?_⟩
  · rw [← hall]
    exact haccount.sublist
  · rw [haccount.eq hone, hall]

/-! ### Sessions of one line -/

/-- A line of stages that can all be run, with no redirection. -/
lemma runLine_stages (line : String) {ctx : Context} {m : Machine} {stages : List Command}
    (hparse : Pipeline.parse ctx m.files line = .ok { stages })
    (hnoop : Pipeline.isNoop { stages } = false) (hrunnable : ∀ c ∈ stages, c.runnable = true) :
    runLine programs line ctx m =
      (Machine.host programs).runStages stages .sessionOut .sessionErr ctx m := by
  have hfind : (stages.find? fun c => !c.runnable) = none := by
    rw [List.find?_eq_none]
    intro c hc
    simp [hrunnable c hc]
  rw [runLine_of_parse programs line hparse, Machine.execute_eq_executeBy, Machine.executeBy, hnoop]
  simp only [hfind, Bool.false_eq_true, if_false]

/-- A builtin that runs alone opens no stream. -/
lemma opened_evaluate {line : String} {sh : Interpreter} {c : Command} {b : Builtin}
    (hparse : Pipeline.parse (sh.context.record line) sh.machine.files line = .ok { stages := [c] })
    (hname : c.name.isSome = true) (hrunner : c.runner = .ok (.builtin b)) :
    (sh.evaluate programs line).2.machine.opened = sh.machine.opened := by
  have hrunnable : c.runnable = true := by
    cases hc : c.runnable with
    | true => rfl
    | false => simp [Command.runner, hc] at hrunner
  have hrun : (Machine.host programs).runSingle c .sessionOut .sessionErr (sh.context.record line)
      sh.machine = sh.machine.perform b c
        { input := .session, output := .sessionOut, errors := .sessionErr }
        (sh.context.record line) := by
    rw [Host.runSingle, hrunner]
    rfl
  rw [(machine_evaluate programs line sh).2, runLine_stages programs line hparse
    (by simp [Pipeline.isNoop, hname]) (by simpa using hrunnable)]
  change ((Machine.host programs).runSingle c .sessionOut .sessionErr (sh.context.record line)
    sh.machine).2.opened = sh.machine.opened
  rw [hrun]
  exact Machine.opened_perform b c _ _ _

lemma evaluated_singleton (line : String) (sh : Interpreter) :
    evaluated programs [line] sh = [line] := by
  rw [evaluated]
  split <;> rfl

lemma session_singleton (line : String) (sh : Interpreter) :
    session programs [line] sh = (sh.evaluate programs line).2.finish := by
  have hall : evaluateAll programs [line] sh = (sh.evaluate programs line).2 := by
    rw [evaluateAll]
    split <;> simp_all [evaluateAll]
  rw [session, hall]

/-- A builtin and its arguments, as they are read in the root directory. -/
def builtinStage (name : String) (args : List String) : Command :=
  { name, args, builtin := true, runnable := true, workspace := "/" }

/-- A session of one line, which appends itself to the file: it is not appended again at the end. -/
theorem bytesAt_session_append :
    (session (fun _ _ => .exit 0) ["history -a /h"]
      (loadHistory "/h" { context := { workspace := .root }
                          machine := { files := History.onlyFile "ls\n" } })).machine.files.bytesAt
        ["h"] = encode "ls\nhistory -a /h\n" := by
  generalize hsh : ({ context := { workspace := .root }
                      machine := { files := History.onlyFile "ls\n" } } : Interpreter) = sh
  have hfiles : sh.machine.files = History.onlyFile "ls\n" := by rw [← hsh]
  have hplace : sh.machine.files.place? "/h" = some ["h"] := hfiles ▸ History.place?_onlyFile _
  have hpath : (sh.context.resolvePath "/h").text = "/h" := by
    rw [← hsh]
    decide
  have hloaded : sh.machine.files.place? (sh.context.resolvePath "/h").text = some ["h"] := by
    rw [hpath]
    exact hplace
  have hmachine : (sh.loadHistory "/h").machine = sh.machine := (loadHistory_spec hloaded).1
  obtain ⟨h, hctx⟩ : ∃ h, (sh.loadHistory "/h").context.record "history -a /h" =
      { workspace := .root, history := h } := ⟨_, by rw [← hsh]; rfl⟩
  have hparse : Pipeline.parse ((sh.loadHistory "/h").context.record "history -a /h")
      (sh.loadHistory "/h").machine.files "history -a /h" =
        .ok { stages := [builtinStage "history" ["-a", "/h"]] } := by
    rw [hctx]
    rfl
  have hkeeps : (sh.loadHistory "/h").KeepsTo (fun _ _ => .exit 0) ["h"] "history -a /h" := by
    intro p hp _ _
    obtain rfl := Except.ok.inj (hparse.symm.trans hp)
    refine ⟨fun d hd => ?_, by decide, by rintro r ⟨⟩, by rintro r ⟨⟩⟩
    obtain rfl := List.mem_singleton.mp hd
    refine ⟨by decide, by decide, fun file hfile => ?_⟩
    obtain rfl := Option.some.inj (show some "/h" = some file from hfile)
    rw [hctx, hmachine]
    exact hplace
  have halone : (sh.loadHistory "/h").AppendsAlone "history -a /h" := by
    intro p hp hmany
    obtain rfl := Except.ok.inj (hparse.symm.trans hp)
    exact absurd hmany (by simp)
  have hnot : ¬ (session (fun _ _ => .exit 0) ["history -a /h"]
      (sh.loadHistory "/h")).machine.WritesAt ["h"] := by
    have hopened := opened_evaluate (fun _ _ => .exit 0) hparse rfl (b := .history) rfl
    rintro ⟨o, ho, -⟩
    rw [session_singleton, opened_finish, hopened, hmachine, ← hsh] at ho
    exact absurd ho (by simp)
  obtain ⟨written, hbytes, -, -, hwritten⟩ := @bytesAt_session (fun _ _ => .exit 0) ["h"] sh "/h"
    ["history -a /h"] (by rw [← hsh]) (by rw [← hsh]) hplace
    (hfiles ▸ History.mayWriteAt_onlyFile _) ⟨hkeeps, by split <;> trivial⟩ hnot
  rw [hbytes, hwritten ⟨halone, by split <;> trivial⟩, evaluated_singleton, hfiles]
  decide

/-- A shell in the root directory with these entries, none of which is flushed to its file yet. -/
def unflushed (entries : List String) : Interpreter where
  context := { workspace := .root, history := ⟨entries, some "/h", 0⟩ }
  machine := { files := History.onlyFile "" }

lemma appendFile_onlyFile (h : History) {text : String} {m : Machine}
    (hfiles : m.files = History.onlyFile text) :
    h.appendFile Machine.disk "/h" m =
      ((.ok (), { h with file := some "/h", flushed := h.entries.length }),
        { m with files := History.onlyFile (text ++ History.fileText h.pending) }) := by
  have hplace : m.files.place? "/h" = some ["h"] := hfiles ▸ History.place?_onlyFile text
  rw [Machine.appendFile_eq (Machine.isPlain_write_of_place hplace .append), hfiles,
    History.appendTo_onlyFile]

/-- What is done by a `history` that appends the only entry of its history to `/h`. -/
lemma report_history_append {ctx : Context} {entry : String}
    (hpath : (ctx.resolvePath "/h").text = "/h") (hhistory : ctx.history = ⟨[entry], some "/h", 0⟩)
    {text : String} {m : Machine} (hfiles : m.files = History.onlyFile text) :
    Builtin.history.report Machine.disk ["-a", "/h"] ctx m =
      ({ context := { ctx with history := ⟨[entry], some "/h", 1⟩ } },
        { m with files := History.onlyFile (text ++ History.fileText [entry]) }) := by
  have hargs : Builtin.history.parseArguments ["-a", "/h"] =
      .ok { values := [("append", "/h")] } := rfl
  have hvalue : Arguments.value? { values := [("append", "/h")] } "append" = some "/h" := rfl
  rw [Builtin.report_eq, hargs]
  simp only [Bool.false_eq_true, if_false, Desk.act, Disk.report_history, List.isEmpty_cons]
  rw [Desk.historyFiles_append _ rfl rfl]
  simp only [hvalue, hpath, hhistory, appendFile_onlyFile _ hfiles]
  rfl

/-- A stage that appends the only entry of its history to `/h`, and has nothing to print. -/
lemma work_history_append {ctx : Context} {entry : String}
    (hpath : (ctx.resolvePath "/h").text = "/h") (hhistory : ctx.history = ⟨[entry], some "/h", 0⟩)
    (input : Source) (id : Nat) {text : String} {m : Machine}
    (hfiles : m.files = History.onlyFile text) :
    m.work .history (builtinStage "history" ["-a", "/h"]) ⟨input, .pipe id, .sessionErr⟩ ctx =
      ({ m with files := History.onlyFile (text ++ History.fileText [entry]) }.launch
        ⟨Machine.untaken input, .pipe id, .sessionErr⟩ [] (Machine.writer [] [] 0).toProc
        [Machine.pipeSignal]).map .writing fun m => m := by
  rw [Machine.work_pipe .history _ rfl]
  simp only [builtinStage, report_history_append hpath hhistory hfiles]
  rfl

/-- Two stages, the first of which is a builtin: it is given to a worker before the second stage is
started. -/
lemma runMixed_pair {c d : Command} {b : Builtin} (hc : c.builtin = true)
    (hb : Builtin.ofName? c.displayName = some b) (output errors : Sink) (ctx : Context)
    (m : Machine) :
    (Machine.host programs).runMixed [c, d] output errors ctx m =
      let w := (m.addPipe []).2.work b c ⟨.session, .pipe m.pipes.size, .sessionErr⟩ ctx.detach
      (Machine.host programs).startAll ((Machine.host programs).launch ctx) [.worker w.1]
        [(d, ⟨.pipe m.pipes.size, output, errors⟩)] w.2 := by
  rw [Host.runMixed, Host.runWired, bind_apply]
  change (Machine.host programs).startAll _ [] [(c, _), (d, _)] (m.addPipe []).2 = _
  rw [Host.startAll, bind_apply, Machine.launch_builtin programs hc hb]
  rfl

/-- The line has appended itself once, and is pending all the same. -/
lemma evaluate_unflushed :
    ((unflushed []).evaluate (fun _ _ => .exit 0) "history -a /h | echo").2.context =
        (unflushed ["history -a /h | echo"]).context ∧
      ((unflushed []).evaluate (fun _ _ => .exit 0) "history -a /h | echo").2.machine.files =
        History.onlyFile "history -a /h | echo\n" := by
  have hparse : Pipeline.parse (unflushed ["history -a /h | echo"]).context
      (unflushed []).machine.files "history -a /h | echo" =
        .ok { stages := [builtinStage "history" ["-a", "/h"], builtinStage "echo" []] } := rfl
  have hrun := runLine_stages (fun _ _ => .exit 0) "history -a /h | echo" hparse (by decide)
    (by decide)
  have hrecord : (unflushed []).context.record "history -a /h | echo" =
      (unflushed ["history -a /h | echo"]).context := rfl
  constructor
  · rw [context_evaluate, hrecord, hrun, Host.runStages_context _ _ _ _ (by simp)]
  · rw [(machine_evaluate _ _ _).1, hrecord, hrun, Host.runStages_state _ _ _ _ (by simp),
      runMixed_pair _ rfl (b := .history) rfl, work_history_append rfl rfl _ _ rfl]
    -- the rest of the run follows no path, so it can be evaluated
    decide +kernel

/-- A session of one line that appends itself to the file from a stage among two: it is appended
again at the end. -/
theorem bytesAt_session_twice :
    (session (fun _ _ => .exit 0) ["history -a /h | echo"]
      (loadHistory "/h" { context := { workspace := .root }
                          machine := { files := History.onlyFile "" } })).machine.files.bytesAt
        ["h"] = encode "history -a /h | echo\nhistory -a /h | echo\n" := by
  have hload : loadHistory "/h" { context := { workspace := .root }
                                  machine := { files := History.onlyFile "" } } = unflushed [] := by
    have hpath : (Context.resolvePath { workspace := .root } "/h").text = "/h" := rfl
    have hload := Machine.loadFile_eq (m := { files := History.onlyFile "" })
      (Machine.isPlain_read_of_place (History.place?_onlyFile "")) {}
    simp only [History.load_eq, History.readFrom_eq, History.readText_onlyFile] at hload
    rw [loadHistory, Context.loadHistory, bind_apply, hpath, hload]
    rfl
  obtain ⟨hcontext, hfiles⟩ := evaluate_unflushed
  rw [hload, session_singleton, finish, if_neg (by rw [hcontext]; decide), hcontext,
    Context.requestExit_live _ rfl rfl, appendFile_onlyFile _ hfiles]
  decide

end Interpreter

end Shell
