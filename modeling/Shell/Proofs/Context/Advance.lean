import Shell.Proofs.Execute.Moments
import Shell.Proofs.History.Stages
import Shell.Proofs.Path.Normal

/-!
# How a context advances

Whatever is done with a context, its history only grows at the end, a request to end the session
stays, and the working directory goes only to places that were found to be directories. On the way
the context stays sound: the working directory is a normal path, and the history has no blank entry
and counts no more entries as flushed than it has. This is shown of the operations of a history, of
each builtin, of stages and of a pipeline, and each time follows from the one before.
-/

namespace Shell

/-! ### Histories -/

namespace History

/-- No more entries count as flushed than there are, and none is blank. -/
structure IsSound (h : History) : Prop where
  flushed_le : h.flushed ≤ h.entries.length
  not_blank : ∀ e ∈ h.entries, isBlankText e = false

/-- The entries are still there, and `h'` is sound if `h` is. -/
structure Advances (h h' : History) : Prop where
  entries : h.entries <+: h'.entries
  sound : h.IsSound → h'.IsSound

variable {h h' h'' : History}

lemma Advances.refl (h : History) : h.Advances h :=
  ⟨List.prefix_rfl, id⟩

lemma Advances.trans (h₁ : h.Advances h') (h₂ : h'.Advances h'') : h.Advances h'' :=
  ⟨h₁.entries.trans h₂.entries, h₂.sound ∘ h₁.sound⟩

/-- Every operation adds entries that are not blank and flushes all entries or none. -/
lemma advances_of_append {added : List String} (hadded : ∀ e ∈ added, isBlankText e = false)
    (hentries : h'.entries = h.entries ++ added)
    (hflushed : h'.flushed = h.flushed ∨ h'.flushed = h'.entries.length) : h.Advances h' where
  entries := hentries ▸ List.prefix_append _ _
  sound hsound := by
    constructor
    · have hle := hsound.flushed_le
      rw [hentries, List.length_append] at hflushed ⊢
      omega
    · intro e he
      rw [hentries, List.mem_append] at he
      exact he.elim (hsound.not_blank e) (hadded e)

/-- The file and the number of flushed entries are all that is changed. -/
lemma advances_of_entries (hentries : h'.entries = h.entries)
    (hflushed : h'.flushed = h.flushed ∨ h'.flushed = h'.entries.length) : h.Advances h' :=
  advances_of_append (by simp) (hentries.trans (List.append_nil _).symm) hflushed

variable (h)

lemma record_advances (line : String) : h.Advances (h.record line) := by
  rw [record_eq]
  refine advances_of_append (fun e he => ?_) rfl (.inl rfl)
  obtain ⟨hmem, hne⟩ := List.mem_filter.mp he
  obtain rfl : e = trimBlank line := by simpa using hmem
  exact isBlankText_trimBlank (by simpa using hne)

section

variable {σ : Type} (d : Disk σ) (path : String) (s : σ)

lemma readFile_advances : h.Advances (h.readFile d path s).1.2 := by
  rw [readFile, bind_apply]
  cases (d.read path s).1 with
  | error e => exact advances_of_entries rfl (.inl rfl)
  | ok text =>
    refine advances_of_append (fun e he => ?_) rfl (.inl rfl)
    simpa using (List.mem_filter.mp he).2

lemma loadFile_advances : h.Advances (h.loadFile d path s).1.2 := by
  rw [loadFile, bind_apply]
  exact (h.readFile_advances d path s).trans (advances_of_entries rfl (.inr rfl))

lemma writeFile_advances : h.Advances (h.writeFile d path s).1.2 := by
  rw [writeFile, bind_apply]
  cases (d.save path .truncate _ s).1 with
  | error e => exact advances_of_entries rfl (.inl rfl)
  | ok => exact advances_of_entries rfl (.inr rfl)

lemma appendFile_advances : h.Advances (h.appendFile d path s).1.2 := by
  unfold appendFile
  dsimp only
  split
  · exact advances_of_entries rfl (.inr rfl)
  · rw [bind_apply]
    cases (d.save path .append _ s).1 with
    | error e => exact advances_of_entries rfl (.inl rfl)
    | ok => exact advances_of_entries rfl (.inr rfl)

lemma flushFile_advances : h.Advances (h.flushFile d s).1.2 := by
  rw [flushFile]
  cases h.file with
  | none => exact .refl h
  | some path => exact h.appendFile_advances d path s

end

end History

/-! ### Contexts -/

namespace Context

/-- What holds of the context of a session at any time. -/
structure IsSound (ctx : Context) : Prop where
  workspace : ctx.workspace.IsNormal
  history : ctx.history.IsSound

/-- What may become of a context while `seen` are the paths that were found to be directories. -/
structure Advances (seen : String → Prop) (ctx ctx' : Context) : Prop where
  entries : ctx.history.entries <+: ctx'.history.entries
  exiting : ctx.exiting = true → ctx'.exiting = true
  workspace : ctx'.workspace = ctx.workspace ∨ seen ctx'.workspace.text
  sound : ctx.IsSound → ctx'.IsSound

variable {seen seen' : String → Prop} {ctx ctx' ctx'' : Context}

lemma Advances.refl (ctx : Context) : ctx.Advances seen ctx :=
  ⟨List.prefix_rfl, id, .inl rfl, id⟩

lemma Advances.trans (h : ctx.Advances seen ctx') (h' : ctx'.Advances seen ctx'') :
    ctx.Advances seen ctx'' where
  entries := h.entries.trans h'.entries
  exiting := h'.exiting ∘ h.exiting
  workspace := by
    rcases h'.workspace with heq | hseen
    · rw [heq]
      exact h.workspace
    · exact .inr hseen
  sound := h'.sound ∘ h.sound

lemma Advances.imp (h : ctx.Advances seen ctx')
    (hseen : seen ctx'.workspace.text → seen' ctx'.workspace.text) : ctx.Advances seen' ctx' :=
  ⟨h.entries, h.exiting, h.workspace.imp_right hseen, h.sound⟩

/-- Nothing but the history is changed, and a request to end the session may be made. -/
lemma advances_of_history {history : History} (h : ctx.history.Advances history) {exiting : Bool}
    (hexiting : ctx.exiting = true → exiting = true) :
    ctx.Advances seen { ctx with history, exiting } where
  entries := h.entries
  exiting := hexiting
  workspace := .inl rfl
  sound hsound := ⟨hsound.workspace, h.sound hsound.history⟩

lemma record_advances (ctx : Context) (line : String) : ctx.Advances seen (ctx.record line) :=
  advances_of_history (ctx.history.record_advances line) id

lemma loadHistory_advances {σ : Type} (d : Disk σ) (ctx : Context) (file : String) (s : σ) :
    ctx.Advances seen (ctx.loadHistory d file s).1 :=
  advances_of_history (ctx.history.loadFile_advances d _ s) id

lemma setVar_advances (ctx : Context) (key value : String) :
    ctx.Advances seen (ctx.setVar key value) :=
  ⟨List.prefix_rfl, id, .inl rfl, fun hsound => ⟨hsound.workspace, hsound.history⟩⟩

lemma requestExit_advances {σ : Type} (d : Disk σ) (ctx : Context) (s : σ) :
    ctx.Advances seen (ctx.requestExit d s).1 := by
  unfold requestExit
  split
  · exact .refl ctx
  · exact advances_of_history (ctx.history.flushFile_advances d s) fun _ => rfl

/-- The new working directory is a directory, and as normal as the one at which it was read. -/
lemma setWorkspace_advances {fs : FileSystem} {target : String}
    (h : ctx.setWorkspace fs target = .ok ctx') :
    ctx.Advances (fun path => fs.isDirectory path = true) ctx' := by
  rw [setWorkspace] at h
  split at h
  · rename_i hdirectory
    cases h
    exact
      { entries := List.prefix_rfl
        exiting := id
        workspace := .inr hdirectory
        sound := fun hsound => ⟨Path.isNormal_resolve fun _ => hsound.workspace, hsound.history⟩ }
  · cases h

lemma isSound_start {base : String} (hbase : Path.isAbsolute base = true) (workspace : String)
    (vars : Variables) : (start base workspace vars).IsSound where
  workspace := by
    refine Path.isNormal_resolve fun _ => Path.isNormal_resolve fun hrelative => ?_
    rw [hbase] at hrelative
    cases hrelative
  history := ⟨Nat.le_refl 0, by simp [start]⟩

end Context

/-! ### Builtins -/

namespace Desk

variable {σ : Type} {d : Desk σ} {seen : String → Prop} {ctx : Context} {s : σ}

/-- Printing is no business of the context. -/
lemma context_conclude (stream : OutputStream) (text : String) (status : Nat) :
    (d.conclude stream text status ctx s).1.2 = ctx := by
  rw [conclude, bind_apply]
  cases (d.print stream text s).1 <;> rfl

/-- By induction over the names. -/
lemma context_type (status : Nat) (names : List String) :
    (d.type ctx status names s).1.2 = ctx := by
  induction names generalizing status s with
  | nil => rfl
  | cons name names ih =>
    rw [type, get_bind_apply, bind_apply]
    cases (d.print .stdout _ s).1 with
    | error cause => rfl
    | ok => exact ih _

lemma cd_advances (target : Option String) :
    ctx.Advances (fun path => (d.files s).isDirectory path = true) (d.cd target ctx s).1.2 := by
  rw [cd]
  cases Builtin.cdTarget? target ctx.home with
  | none => exact .refl ctx
  | some target =>
    dsimp only
    rw [get_bind_apply]
    cases hset : ctx.setWorkspace (d.files s) target with
    | ok ctx' => exact Context.setWorkspace_advances hset
    | error e =>
      dsimp only
      rw [context_conclude]
      exact .refl ctx

/-- By induction over the operations: each acts on the history alone, and a failed one is the
last. -/
lemma historyFiles_advances (a : Arguments)
    {operations : List (String × (History → String → StateM σ (Except IoError Unit × History)))}
    (h : ∀ x ∈ operations, ∀ (history : History) path s,
      history.Advances (x.2 history path s).1.2) :
    ctx.Advances seen (historyFiles a ctx operations s).1.2 := by
  induction operations generalizing ctx s with
  | nil => exact .refl ctx
  | cons x operations ih =>
    obtain ⟨hx, hrest⟩ := List.forall_mem_cons.mp h
    rw [historyFiles]
    cases a.value? x.1 with
    | none => exact ih hrest
    | some file =>
      have hstep : ctx.Advances seen { ctx with
          history := (x.2 ctx.history (ctx.resolvePath file).text s).1.2 } :=
        Context.advances_of_history (hx _ _ s) id
      dsimp only
      rw [bind_apply]
      generalize x.2 ctx.history (ctx.resolvePath file).text s = y at hstep ⊢
      obtain ⟨⟨_ | _, history⟩, s'⟩ := y
      · exact hstep
      · exact hstep.trans (ih hrest)

lemma operations_advances {d : Disk σ} :
    ∀ x ∈ d.operations, ∀ (history : History) path s,
      history.Advances (x.2 history path s).1.2 := by
  simp only [Disk.operations, List.forall_mem_cons]
  exact ⟨fun history path s => history.readFile_advances d path s,
    fun history path s => history.writeFile_advances d path s,
    fun history path s => history.appendFile_advances d path s, by simp⟩

lemma history_advances (a : Arguments) :
    ctx.Advances seen (d.history a ctx s).1.2 := by
  unfold history
  split
  · rw [context_conclude]
    exact .refl ctx
  · have hfiles : ctx.Advances seen (historyFiles a ctx d.operations s).1.2 :=
      historyFiles_advances a operations_advances
    rw [bind_apply]
    generalize historyFiles a ctx d.operations s = y at hfiles ⊢
    obtain ⟨⟨_ | _, ctx'⟩, s'⟩ := y <;> exact hfiles

theorem execute_advances (b : Builtin) (args : List String) :
    ctx.Advances (fun path => (d.files s).isDirectory path = true)
      (d.execute b args ctx s).1.2 := by
  rw [execute]
  cases b.parseArguments args with
  | error e =>
    dsimp only
    rw [context_conclude]
    exact .refl ctx
  | ok a =>
    dsimp only
    split
    · rw [context_conclude]
      exact .refl ctx
    cases b with
    | echo | pwd =>
      rw [act, context_conclude]
      exact .refl ctx
    | exit => exact ctx.requestExit_advances d.toDisk s
    | type =>
      rw [act, context_type]
      exact .refl ctx
    | cd => exact cd_advances _
    | history => exact history_advances a

end Desk

/-! ### Stages and pipelines -/

/-- The stages that are run at a moment leave the working directory at this path, and when they are
run they find a directory there. -/
def Moment.LeadsTo (programs : Programs) (x : Moment) (path : String) : Prop :=
  x.machine.files.isDirectory path = true ∧
    ∃ output errors, path = Path.text
      ((Machine.host programs).runStages x.stages output errors x.context x.machine).1.2.workspace

namespace Machine

variable (programs : Programs)

/-- Only a builtin that runs alone works on the context itself. -/
lemma runStages_advances (stages : List Command) (output errors : Sink) (ctx : Context)
    (m : Machine) :
    ctx.Advances (fun path => m.files.isDirectory path = true)
      ((host programs).runStages stages output errors ctx m).1.2 := by
  rcases stages with _ | ⟨c, _ | ⟨next, rest⟩⟩
  · exact .refl ctx
  · change ctx.Advances _ ((host programs).runSingle c output errors ctx m).1.2
    rcases runSingle_cases (l := []) programs c output errors ctx m with ⟨b, -, hrun⟩ | ⟨hctx, -⟩
    · rw [hrun]
      exact Desk.execute_advances (d := desk ⟨.session, output, errors⟩) (s := { machine := m }) b
        c.args
    · rw [hctx]
      exact .refl ctx
  · rw [Host.runStages_context _ ctx output errors (by simp)]
    exact .refl ctx

theorem execute_advances (p : Pipeline) (ctx : Context) (m : Machine) :
    ctx.Advances
      (fun path => ∃ x ∈ moments (host programs).runStages p ctx m, x.LeadsTo programs path)
      (execute programs p ctx m).1.2 := by
  rw [execute_eq_executeBy]
  refine executeBy_context .refl (fun _ _ _ => .trans) fun x hx output errors => ?_
  refine (runStages_advances programs x.stages output errors x.context x.machine).imp ?_
  intro hdirectory
  exact ⟨x, hx, hdirectory, output, errors, rfl⟩

end Machine

end Shell
