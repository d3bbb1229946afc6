import Shell.Proofs.Command.Opening
import Shell.Proofs.Machine.Files

/-!
# Files that builtins open on the machine

Two machines that differ in the file at one location are the same to everyone who does not open this
file. What a builtin reads and saves changes nothing on the machine but its files, and the streams
of the session where a path leads to one of them.
-/

namespace Shell

namespace Machine

/-! ### Two machines that differ in one file -/

/-- The machines differ in what is at `l` and in nothing else. -/
inductive AgreeExcept (l : Location) (e e' : Option Entry) (m : Machine) : Machine → Prop
  | of_files {files : FileSystem} (h : m.files.AgreeExcept l e e' files) :
    AgreeExcept l e e' m { m with files }

namespace AgreeExcept

variable {l : Location} {e e' : Option Entry} {m m' : Machine} (h : AgreeExcept l e e' m m')
include h

lemma files : m.files.AgreeExcept l e e' m'.files := by
  obtain ⟨h⟩ := h
  exact h

lemma with_files {fs fs' : FileSystem} (hfiles : fs.AgreeExcept l e e' fs') :
    AgreeExcept l e e' { m with files := fs } { m' with files := fs' } := by
  obtain ⟨-⟩ := h
  exact .of_files hfiles

lemma channel : m'.channel = m.channel := by
  obtain ⟨-⟩ := h
  rfl

lemma readAll {f : OpenFile} (hf : f ≠ .file l) :
    (m'.readAll f).1 = (m.readAll f).1 ∧ AgreeExcept l e e' (m.readAll f).2 (m'.readAll f).2 := by
  have hchannel := h.channel
  obtain ⟨h⟩ := h
  simp only [Machine.readAll, hchannel]
  cases m.channel f with
  | input | output | errors => exact ⟨rfl, .of_files h⟩
  | file _ | pipe _ | capture => exact ⟨h.readAll hf, .of_files h⟩

lemma write {f : OpenFile} (hf : f ≠ .file l) (mode : WriteMode) (bytes : Bytes) :
    (∃ cause, m.write (.file f mode) bytes = .error cause ∧
        m'.write (.file f mode) bytes = .error cause) ∨
      ∃ written written', m.write (.file f mode) bytes = .ok written ∧
        m'.write (.file f mode) bytes = .ok written' ∧ AgreeExcept l e e' written written' := by
  have hchannel := h.channel
  obtain ⟨h⟩ := h
  simp only [Machine.write, hchannel]
  by_cases hempty : bytes.isEmpty = true
  · simp only [hempty, if_true]
    exact .inr ⟨_, _, rfl, rfl, .of_files h⟩
  simp only [hempty, Bool.false_eq_true, if_false]
  cases m.channel f with
  | input | output | errors => exact .inr ⟨_, _, rfl, rfl, .of_files h⟩
  | file _ | pipe _ | capture =>
    rcases h.writeAt hf (FileSystem.nextOffset 0 mode) bytes with
      ⟨cause, hfirst, hsecond⟩ | ⟨written, written', after, hfirst, hsecond, hwritten⟩
    · simp only [hfirst, hsecond]
      exact .inl ⟨cause, rfl, rfl⟩
    · simp only [hfirst, hsecond]
      exact .inr ⟨_, _, rfl, rfl, .of_files hwritten⟩

end AgreeExcept

/-- Whoever does not open the file at `l` finds no difference. -/
lemma disk_mirrors {l : Location} {e e' : Option Entry} (hrewritten : Entry.Rewritten e e') :
    disk.Mirrors l e e' (AgreeExcept l e e') where
  files _ _ h := h.files
  read path m m' h hne := by
    simp only [disk]
    rcases h.files.openFile_read hrewritten hne with
      ⟨cause, cause', hfirst, hsecond, halike⟩ | ⟨f, hf, hfirst, hsecond⟩
    · simp only [hfirst, hsecond]
      exact ⟨halike _, h⟩
    · simp only [hfirst, hsecond]
      obtain ⟨hbytes, hafter⟩ := h.readAll hf
      exact ⟨hbytes ▸ .same _, hafter⟩
  save path mode bytes m m' h hne := by
    simp only [disk]
    rcases h.files.openFile hrewritten hne mode with
      ⟨cause, cause', hfirst, hsecond, halike⟩ | ⟨f, opened, opened', hf, hfirst, hsecond, hagree⟩
    · simp only [hfirst, hsecond]
      exact ⟨halike _, h⟩
    · simp only [hfirst, hsecond]
      rcases (h.with_files hagree).write hf mode bytes with
        ⟨cause, hfirst, hsecond⟩ | ⟨written, written', hfirst, hsecond, hwritten⟩
      · simp only [hfirst, hsecond]
        exact ⟨.same _, h.with_files hagree⟩
      · simp only [hfirst, hsecond]
        exact ⟨.same _, hwritten⟩

/-! ### What the disk of the machine changes -/

/-- Only files and the streams of the session have changed, and these streams only if the session is
not kept in memory. -/
inductive Shifts (m : Machine) : Machine → Prop
  | of_session {files : FileSystem} {session : Session}
      (h : m.session.kind = .captured → session = m.session) : Shifts m { m with files, session }

lemma Shifts.refl (m : Machine) : Shifts m m :=
  .of_session fun _ => rfl

lemma Shifts.trans {m m' m'' : Machine} (h : Shifts m m') (h' : Shifts m' m'') : Shifts m m'' := by
  obtain ⟨h⟩ := h
  obtain ⟨h'⟩ := h'
  refine .of_session fun hkind => ?_
  have hsession := h hkind
  exact (h' (hsession ▸ hkind)).trans hsession

lemma shifts_readAll (m : Machine) (f : OpenFile) : Shifts m (m.readAll f).2 := by
  unfold readAll
  split
  · rename_i hchannel
    refine .of_session fun hkind => ?_
    simp [channel, hkind] at hchannel
  all_goals exact .refl m

lemma shifts_write {m m' : Machine} {f : OpenFile} {mode : WriteMode} {bytes : Bytes}
    (hwrite : m.write (.file f mode) bytes = .ok m') : Shifts m m' := by
  simp only [write] at hwrite
  split at hwrite
  · cases hwrite
    exact .refl m
  split at hwrite
  iterate 3
    rename_i hchannel
    cases hwrite
    refine .of_session fun hkind => ?_
    simp [channel, hkind] at hchannel
  split at hwrite
  · cases hwrite
    exact .of_session fun _ => rfl
  · cases hwrite

lemma disk_shifts (m : Machine) : disk.Preserves m.Shifts where
  read path m' h := by
    simp only [disk]
    split
    · exact h
    · exact h.trans (m'.shifts_readAll _)
  save path mode bytes m' h := by
    simp only [disk]
    split
    · exact h
    · rename_i f files hopen
      have hopened : m.Shifts { m' with files } := h.trans (.of_session fun _ => rfl)
      split
      · exact hopened
      · rename_i hwrite
        exact hopened.trans (shifts_write hwrite)

section

open History (Operation)

/-- In a session that is kept in memory no path leads to a stream. -/
lemma opens_isPlain_of_captured (ops : List (String × Operation)) (h : History) {m : Machine}
    (hkind : m.session.kind = .captured) : History.Opens disk IsPlain ops h m := by
  induction ops generalizing h m with
  | nil => trivial
  | cons x ops ih =>
    obtain ⟨name, op⟩ := x
    refine ⟨fun path access _ => isPlain_of_captured hkind path access, fun h' m' hact => ?_⟩
    refine ih h' ?_
    have hshifts : m.Shifts (op.act disk h m).2 := (disk_shifts m).act op h (.refl m)
    rw [hact] at hshifts
    obtain ⟨hsession⟩ := hshifts
    rw [hsession hkind]
    exact hkind

lemma session_act (op : Operation) (h : History) {m : Machine} (hplain : ∀ path access,
      op.opened? h = some (path, access) → m.IsPlain path access) :
    (op.act disk h m).2.session = m.session := by
  have happend : ∀ path, (h.pending.isEmpty = false → m.IsPlain path (.write .append)) →
      (h.appendFile disk path m).2.session = m.session := by
    intro path hplain
    cases hempty : h.pending.isEmpty with
    | true =>
      have hpending : ({ h with file := some path } : History).pending = h.pending := rfl
      rw [History.appendFile]
      simp only [hpending, hempty, if_true]
      rfl
    | false => rw [appendFile_eq (hplain hempty)]
  cases op with
  | record line => rfl
  | read path =>
    have hread := readFile_eq (hplain path .read rfl) h
    exact congrArg (fun x => x.2.session) hread
  | write path =>
    have hwrite := writeFile_eq (hplain path _ rfl) h
    exact congrArg (fun x => x.2.session) hwrite
  | append path =>
    exact happend path fun hempty => hplain path _ (by simp [Operation.opened?, hempty])
  | flush =>
    simp only [Operation.act, History.flushFile]
    cases hfile : h.file with
    | none => rfl
    | some path =>
      exact happend path fun hempty => hplain path _ (by simp [Operation.opened?, hempty, hfile])

/-- By induction over the operations. -/
lemma session_attempt {ops : List (String × Operation)} {h : History} {m : Machine}
    (hplain : History.Opens disk IsPlain ops h m) :
    (History.attempt disk ops h m).2.session = m.session := by
  induction ops generalizing h m with
  | nil => rfl
  | cons x ops ih =>
    obtain ⟨name, op⟩ := x
    obtain ⟨hhead, hrest⟩ := hplain
    have hact := session_act op h hhead
    rw [History.attempt, bind_apply]
    generalize hstep : op.act disk h m = x at hact
    obtain ⟨⟨_ | _, h'⟩, m'⟩ := x
    · exact hact
    · exact (ih (hrest h' m' hstep)).trans hact

end

/-- A builtin that opens no stream leaves those of the session alone. -/
lemma session_report {b : Builtin} {args : List String} {ctx : Context} {m : Machine}
    (hplain : History.Opens disk IsPlain (b.operations args ctx) ctx.history m) :
    (b.report disk args ctx m).2.session = m.session := by
  rw [b.report_state]
  exact session_attempt hplain

end Machine

end Shell
