import Shell.Proofs.Command.Opening
import Shell.Proofs.Machine.Apart

/-!
# Input that the shell reads itself

A builtin takes nothing from the input that it is wired to. But `history` reads files, and a device
may lead to the input of the session: then all of it is read, and is gone. Anything else that a
builtin does takes nothing from this input, though it may add to it. It also leaves it at that which
paths lead there, since files are made and written, but no device is.
-/

namespace Shell

namespace Machine

/-- Who reads at the path reads the input of the session. -/
def OpensInput (m : Machine) (path : String) : Prop :=
  ∃ f files, m.files.openFile [] path .read = .ok (f, files) ∧ m.channel f = .input

/-- Files may have been made and written, and nothing was taken from the input of the session, to
which something may have been added. -/
structure LeavesInput (m m' : Machine) : Prop where
  files : m.files.Revises m'.files
  kind : m'.session.kind = m.session.kind
  stdin : m.session.stdin.rest <+: m'.session.stdin.rest

variable {m m' : Machine}

namespace LeavesInput

/-- Neither files nor the input of the session have changed. -/
lemma of_output (hfiles : m'.files = m.files) (hkind : m'.session.kind = m.session.kind)
    (hstdin : m'.session.stdin = m.session.stdin) : LeavesInput m m' :=
  ⟨hfiles ▸ FileSystem.revises_refl _, hkind, hstdin ▸ List.prefix_refl _⟩

lemma refl (m : Machine) : LeavesInput m m :=
  of_output rfl rfl rfl

/-- Files have changed, and nothing else. -/
lemma of_revises {files : FileSystem} (h : m.files.Revises files) :
    LeavesInput m { m with files } :=
  ⟨h, rfl, List.prefix_refl _⟩

lemma trans {m'' : Machine} (h : LeavesInput m m') (h' : LeavesInput m' m'') :
    LeavesInput m m'' :=
  ⟨h.files.trans h'.files, h'.kind.trans h.kind, h.stdin.trans h'.stdin⟩

/-- A path that leads to the input of the session did so before. -/
lemma opensInput {path : String} (h : LeavesInput m m') (hpath : m'.OpensInput path) :
    m.OpensInput path := by
  obtain ⟨f, files, hopen, hchannel⟩ := hpath
  have hsame : m.channel f = .input := by
    simpa only [channel, h.kind] using hchannel
  obtain rfl : f = .device (.descriptor 0) := by
    unfold channel channelOf at hchannel
    repeat' split at hchannel
    all_goals first | rfl | cases hchannel
  exact ⟨_, _, FileSystem.openFile_device_before h.files hopen, hsame⟩

end LeavesInput

/-! ### Reading and writing -/

lemma leavesInput_write {sink : Sink} {bytes : Bytes} {written : Nat}
    (h : m.write sink bytes written = .ok m') : LeavesInput m m' := by
  unfold Machine.write at h
  repeat' split at h
  all_goals cases h
  · exact .refl m
  · exact .of_output rfl rfl rfl
  · exact .of_output rfl rfl rfl
  · exact .of_output rfl rfl rfl
  · exact .of_output rfl rfl rfl
  · -- what is written to the input comes behind what is there
    exact ⟨FileSystem.revises_refl _, rfl, List.prefix_append _ _⟩
  · exact .of_output rfl rfl rfl
  · exact .of_output rfl rfl rfl
  · rename_i hwrite
    exact .of_revises (FileSystem.writeAt_revises hwrite)

lemma leavesInput_save (m : Machine) (path : String) (mode : WriteMode) (bytes : Bytes) :
    LeavesInput m (disk.save path mode bytes m).2 := by
  simp only [disk]
  split
  · exact .refl m
  · rename_i f files hopen
    have hopened : LeavesInput m { m with files } :=
      .of_revises (FileSystem.openFile_revises hopen)
    split
    · exact hopened
    · rename_i hwrite
      exact hopened.trans (leavesInput_write hwrite)

/-- Reading takes from the input of the session only where the path leads there. -/
lemma leavesInput_read {path : String} (hpath : ¬ m.OpensInput path) :
    LeavesInput m (disk.read path m).2 := by
  simp only [disk]
  split
  · exact .refl m
  · rename_i f files hopen
    have hchannel : m.channel f ≠ .input := fun hinput => hpath ⟨f, files, hopen, hinput⟩
    have hread : (m.readAll f).2 = m := by
      unfold readAll
      split
      · exact absurd ‹_› hchannel
      all_goals rfl
    change LeavesInput m (m.readAll f).2
    rw [hread]
    exact .refl m

/-- The disk of the machine, with nothing to be read on it. -/
def unread : Disk Machine :=
  { disk with read := fun _ => pure (.ok "") }

lemma unread_preserves (m : Machine) : unread.Preserves (LeavesInput m) where
  read _ _ h := h
  save path mode bytes m' h := h.trans (m'.leavesInput_save path mode bytes)

/-! ### Builtins -/

open History (Operation)

/-- An operation on the history that does not read the input of the session. -/
lemma leavesInput_act {op : Operation} (h : History)
    (hread : ∀ path, op = .read path → ¬ m.OpensInput path) :
    LeavesInput m (op.act disk h m).2 := by
  -- but for `read` it makes no difference what is to be read
  have hsaves := m.unread_preserves
  cases op with
  | record line => exact .refl m
  | read path =>
    have hdisk := leavesInput_read (hread path rfl)
    simp only [Operation.act, History.readFile, bind_apply]
    cases (disk.read path m).1 <;> exact hdisk
  | write path => exact hsaves.writeFile h path (.refl m)
  | append path => exact hsaves.appendFile h path (.refl m)
  | flush => exact hsaves.flushFile h (.refl m)

variable {b : Builtin} {c : Command} {ctx : Context}
  (hreads : ∀ x ∈ b.operations c.args ctx, ∀ path, x.2 = .read path → ¬ m.OpensInput path)
include hreads

/-- A builtin whose operations do not read the input of the session. -/
lemma leavesInput_report : LeavesInput m (b.report disk c.args ctx m).2 := by
  rw [b.report_state]
  refine History.attempt_preserves (fun x hx h s hs => ?_) ctx.history (.refl m)
  exact hs.trans (leavesInput_act h fun path hop => mt hs.opensInput (hreads x hx path hop))

lemma leavesInput_perform {streams : Streams} (hwhole : streams.Whole) :
    LeavesInput m (m.perform b c streams ctx).2 :=
  perform_after b c ctx m (leavesInput_report hreads) hwhole fun _ _ _ _ h hwrite =>
    h.trans (leavesInput_write hwrite)

omit hreads in
/-- A process that is not started with the input of the session. -/
lemma leavesInput_launch {streams : Streams} (hinput : streams.input ≠ .session) (here : Location)
    (todo : Proc) (ignored : List Nat) :
    LeavesInput m (m.launch streams here todo ignored).2 := by
  have hsource : LeavesInput m (m.openSource streams.input).2 := by
    unfold openSource
    split
    · exact .of_output rfl rfl rfl
    · exact .of_output rfl rfl rfl
    · exact absurd ‹_› hinput
  have hsink : ∀ (m : Machine) (sink : Sink), LeavesInput m (m.openSink sink).2 := by
    intro m sink
    cases sink <;> exact .of_output rfl rfl rfl
  have hopened := (hsource.trans (hsink _ streams.output)).trans (hsink _ streams.errors)
  exact ⟨hopened.files, hopened.kind, hopened.stdin⟩

/-- A builtin that is given to a worker. -/
lemma leavesInput_work {streams : Streams} (herrors : ∀ id, streams.errors ≠ .pipe id) :
    LeavesInput m (m.work b c streams ctx).2 := by
  have hreported := leavesInput_report hreads
  refine work_after b c ctx m hreported (fun id todo _ => ?_) fun hne => ?_
  · refine hreported.trans (leavesInput_launch ?_ [] todo [pipeSignal])
    cases streams.input <;> simp [untaken]
  · exact leavesInput_perform hreads ⟨hne, herrors⟩

end Machine

end Shell
