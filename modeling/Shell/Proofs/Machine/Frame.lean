import Shell.Execute
import Shell.Proofs.FileSystem.Regular

/-!
# What the machine does to a file

All that processes do to files goes through streams, and the machine remembers every stream that was
ever opened. So a file that was never open for writing holds what it held before, whatever the
processes did meanwhile; only the shell itself can have added something to it.
-/

namespace Shell

/-! ### Writers -/

/-- A stream that writes to the file at a location. -/
def Opened.WritesAt (o : Opened) (l : Location) : Prop :=
  o.writable = true ∧ o.channel = .file (.file l)

/-- A sink that is the file at a location. -/
def Sink.IsAt (sink : Sink) (l : Location) : Prop :=
  ∃ mode, sink = .file (.file l) mode

/-- The machine after a request, if that was answered, is as `P` says. -/
def Served.Leaves {α : Type} (P : Machine → Prop) : Served α → Prop
  | .blocked => True
  | .answered _ _ m _ => P m
  | .replaced _ m => P m

namespace Machine

/-- Some stream was opened that writes to the file at a location. -/
def WritesAt (m : Machine) (l : Location) : Prop :=
  ∃ o ∈ m.opened, o.WritesAt l

/-- Files were made and written, and the file at `l` has got `bytes` at its end if no stream writes
to it. -/
structure Appends (l : Location) (bytes : Bytes) (m m' : Machine) : Prop where
  revises : m.files.Revises m'.files
  writers : m.WritesAt l → m'.WritesAt l
  content : ¬ m'.WritesAt l → m.files.mayWriteAt l = true →
    m'.files.mayWriteAt l = true ∧ m'.files.bytesAt l = m.files.bytesAt l ++ bytes

/-- The file at `l` is left alone, if no stream writes to it. -/
abbrev Spares (l : Location) (m m' : Machine) : Prop :=
  Appends l [] m m'

variable {l : Location} {m m' m'' : Machine}

/-- A file is spared if nothing was put in its place, or else by a stream. -/
lemma spares_of_get? (hrev : m.files.Revises m'.files) (hwriters : m.WritesAt l → m'.WritesAt l)
    (hget : ¬ m'.WritesAt l → m'.files.get? l = m.files.get? l) : Spares l m m' where
  revises := hrev
  writers := hwriters
  content hnot hmay := by
    simp only [FileSystem.mayWriteAt, FileSystem.bytesAt, hget hnot, List.append_nil, and_true]
    exact hmay

lemma spares_of_eq (hfiles : m'.files = m.files) (hopened : m'.opened = m.opened) :
    Spares l m m' := by
  refine spares_of_get? (hfiles ▸ FileSystem.revises_refl _) ?_ fun _ => by rw [hfiles]
  rw [WritesAt, WritesAt, hopened]
  exact id

lemma spares_refl (m : Machine) : Spares l m m :=
  spares_of_eq rfl rfl

lemma Appends.trans {a b : Bytes} (h : Appends l a m m') (h' : Appends l b m' m'') :
    Appends l (a ++ b) m m'' where
  revises := h.revises.trans h'.revises
  writers hw := h'.writers (h.writers hw)
  content hnot hmay := by
    obtain ⟨hmay', hbytes⟩ := h.content (fun hw => hnot (h'.writers hw)) hmay
    obtain ⟨hmay'', hbytes'⟩ := h'.content hnot hmay'
    exact ⟨hmay'', by rw [hbytes', hbytes, List.append_assoc]⟩

lemma Appends.spares {a : Bytes} (h : Appends l a m m') (h' : Spares l m' m'') :
    Appends l a m m'' := by
  simpa using h.trans h'

lemma Spares.appends {a : Bytes} (h : Spares l m m') (h' : Appends l a m' m'') :
    Appends l a m m'' :=
  h.trans h'

/-! ### Processes -/

@[simp] lemma files_put (m : Machine) (p : Process) : (m.put p).files = m.files := rfl

@[simp] lemma opened_put (m : Machine) (p : Process) : (m.put p).opened = m.opened := rfl

lemma spares_put (m : Machine) (p : Process) : Spares l m (m.put p) :=
  spares_of_eq rfl rfl

@[simp] lemma files_add (m : Machine) (p : Process) : (m.add p).files = m.files := rfl

@[simp] lemma opened_add (m : Machine) (p : Process) : (m.add p).opened = m.opened := rfl

@[simp] lemma files_wake (m : Machine) (time : Nat) : (m.wake time).files = m.files := by
  rw [wake]
  split <;> rfl

@[simp] lemma opened_wake (m : Machine) (time : Nat) : (m.wake time).opened = m.opened := by
  rw [wake]
  split <;> rfl

lemma spares_finish (m : Machine) (p : Process) (ending : Ending) (time : Nat) :
    Spares l m (m.finish p ending time) :=
  spares_of_eq (by simp [finish]) (by simp [finish])

lemma spares_deliver (m : Machine) (p : Process) (number time : Nat) :
    Spares l m (m.deliver p number time) := by
  rw [deliver]
  split
  · exact spares_refl m
  split
  · exact spares_finish m p _ time
  split
  · exact spares_refl m
  split
  · exact spares_of_eq (by simp) (by simp)
  split
  · exact spares_finish m p _ time
  · exact spares_refl m

/-! ### Streams -/

lemma spares_openStream (m : Machine) (o : Opened) : Spares l m (m.openStream o).2 := by
  refine spares_of_get? (FileSystem.revises_refl _) ?_ fun _ => rfl
  rintro ⟨o', ho', hw⟩
  exact ⟨o', Array.mem_push_of_mem o ho', hw⟩

lemma spares_addPipe (m : Machine) (bytes : Bytes) : Spares l m (m.addPipe bytes).2 :=
  spares_of_eq rfl rfl

lemma spares_openPipe (m : Machine) : Spares l m m.openPipe.2 :=
  ((spares_addPipe m []).spares (spares_openStream _ _)).spares (spares_openStream _ _)

/-- The stream that a process reads or writes is one of those that were opened. -/
lemma mem_of_stream? {p : Process} {number s : Nat} {o : Opened}
    (h : m.stream? p number = some (s, o)) : m.opened[s]? = some o := by
  rw [stream?, Option.bind_eq_some_iff] at h
  obtain ⟨s', -, h⟩ := h
  rw [Option.map_eq_some_iff] at h
  obtain ⟨o', ho', heq⟩ := h
  cases heq
  exact ho'

/-- A stream at another position still goes where it went. -/
lemma spares_setOpened {s : Nat} {o : Opened} (h : m.opened[s]? = some o) (offset : Nat) :
    Spares l m (m.setOpened s { o with offset }) := by
  refine spares_of_get? (FileSystem.revises_refl _) ?_ fun _ => rfl
  rintro ⟨o', ho', hw⟩
  obtain ⟨i, hi⟩ := Array.mem_iff_getElem?.mp ho'
  by_cases his : s = i
  · subst his
    obtain rfl : o = o' := Option.some.inj (h.symm.trans hi)
    refine ⟨{ o with offset }, Array.mem_iff_getElem?.mpr ⟨s, ?_⟩, hw⟩
    obtain ⟨hlt, -⟩ := Array.getElem?_eq_some_iff.mp h
    simp [setOpened, hlt]
  · refine ⟨o', Array.mem_iff_getElem?.mpr ⟨i, ?_⟩, hw⟩
    rw [setOpened, Array.getElem?_setIfInBounds_ne his, hi]

/-- Writing through a stream that was opened. -/
lemma spares_writeAt {s : Nat} {o : Opened} (hopened : m.opened[s]? = some o)
    (hwritable : o.writable = true) {f : OpenFile} (hchannel : o.channel = .file f)
    {place : Option Nat} {bytes : Bytes} {files : FileSystem} {offset : Nat}
    (h : m.files.writeAt f place bytes = .ok (files, offset)) :
    Spares l m ({ m with files }.setOpened s { o with offset }) := by
  have hstream : Spares l { m with files } ({ m with files }.setOpened s { o with offset }) :=
    spares_setOpened (m := { m with files }) hopened offset
  have hfiles : Spares l m { m with files } := by
    refine spares_of_get? (FileSystem.writeAt_revises h) id fun hnot => ?_
    rcases FileSystem.writeAt_cases h with rfl | ⟨k, mode, content, content', rfl, -, rfl⟩
    · rfl
    · refine FileSystem.get?_insert_of_ne _ _ ?_
      rintro rfl
      exact hnot ⟨o, Array.mem_iff_getElem?.mpr ⟨s, hopened⟩, hwritable, hchannel⟩
  exact hfiles.spares hstream

lemma writable_openedAs (channel : Channel) {access : Access} (h : access ≠ .read) :
    (openedAs channel access).writable = true := by
  rcases access with _ | (_ | _) | _ | _ <;> first | rfl | exact absurd rfl h

lemma channel_openedAs (channel : Channel) (access : Access) :
    (openedAs channel access).channel = channel := by
  rcases access with _ | (_ | _) | _ | _ <;> rfl

/-- A file that was opened and got a stream. -/
lemma spares_openFile {here : Location} {path : String} {access : Access} {bits : Nat}
    {f : OpenFile} {files : FileSystem}
    (h : m.files.openFile here path access bits = .ok (f, files)) :
    Spares l m ({ m with files }.openStream (openedAs (.file f) access)).2 := by
  refine spares_of_get? (FileSystem.openFile_revises h) ?_ ?_
  · rintro ⟨o, ho, hw⟩
    exact ⟨o, Array.mem_push_of_mem _ ho, hw⟩
  · intro hnot
    rcases FileSystem.openFile_cases h with rfl | ⟨k, mode, rfl, haccess, -, -, rfl⟩
    · rfl
    · refine FileSystem.get?_insert_of_ne _ _ ?_
      rintro rfl
      exact hnot ⟨_, Array.mem_push_self, writable_openedAs _ haccess, channel_openedAs _ _⟩

/-! ### Requests -/

lemma serveRead_spares (m : Machine) (p : Process) (number max : Nat) :
    (m.serveRead p number max).Leaves (Spares l m) := by
  rw [serveRead]
  split
  · exact spares_refl m
  rename_i s o hstream
  split
  · exact spares_refl m
  split
  · exact spares_of_eq rfl rfl
  · split
    · exact spares_refl m
    split
    · split
      · trivial
      · exact spares_refl m
    · exact spares_of_eq (by simp) (by simp)
  · split
    · exact spares_refl m
    · exact spares_setOpened (mem_of_stream? hstream) _
  · exact spares_refl m

lemma serveWrite_spares (m : Machine) (p : Process) (number : Nat) (bytes : Bytes) :
    (m.serveWrite p number bytes).Leaves (Spares l m) := by
  rw [serveWrite]
  split
  · exact spares_refl m
  rename_i s o hstream
  split
  · exact spares_refl m
  rename_i hwritable
  split
  · exact spares_of_eq rfl rfl
  · exact spares_of_eq rfl rfl
  · exact spares_of_eq rfl rfl
  · exact spares_of_eq rfl rfl
  · split
    · exact spares_refl m
    split
    · exact spares_refl m
    dsimp only
    split
    · trivial
    · exact spares_of_eq (by simp) (by simp)
  · rename_i f hchannel
    dsimp only
    split
    · exact spares_refl m
    · rename_i hwrite
      exact spares_writeAt (mem_of_stream? hstream) (by simpa using hwritable) hchannel hwrite

lemma serveOpen_spares (m : Machine) (p : Process) (path : String) (access : Access) :
    (m.serveOpen p path access).Leaves (Spares l m) := by
  unfold serveOpen
  split
  · exact spares_refl m
  rename_i channel files hpath
  change Spares l m ({ m with files }.openStream (openedAs channel access)).2
  unfold openPath at hpath
  split at hpath
  · cases hpath
  · -- one of the process's own streams
    rw [reopen] at hpath
    split at hpath
    · cases hpath
    split at hpath
    · split at hpath
      · cases hpath
      · rename_i hopen
        cases hpath
        exact spares_openFile hopen
    · -- a pipe, a device or the session: no file is made or emptied
      cases hpath
      exact spares_openStream m _
  · rename_i hopen
    cases hpath
    exact spares_openFile hopen

lemma serve_spares (programs : Programs) (m : Machine) (p : Process) (r : Request) :
    (m.serve programs p r).Leaves (Spares l m) := by
  cases r with
  | read number max => exact serveRead_spares m p number max
  | write number bytes => exact serveWrite_spares m p number bytes
  | openFile path access => exact serveOpen_spares m p path access
  | close number =>
    simp only [serve, serveClose]
    split
    · exact spares_refl m
    · exact spares_of_eq (by simp) (by simp)
  | copyTo source target =>
    simp only [serve, serveCopy]
    split
    · exact spares_refl m
    · exact spares_of_eq (by simp) (by simp)
  | copyAbove source least =>
    simp only [serve, serveCopyAbove]
    split <;> exact spares_refl m
  | pipe => exact spares_openPipe m
  | rewind number back =>
    simp only [serve, serveRewind]
    split
    · exact spares_refl m
    · rename_i hstream
      split
      · exact spares_setOpened (mem_of_stream? hstream) _
      · exact spares_refl m
  | enter path =>
    simp only [serve]
    unfold serveEnter
    split <;> exact spares_refl m
  | wait child patient =>
    simp only [serve, serveWait]
    split
    · exact spares_of_eq rfl rfl
    split
    · exact spares_refl m
    split
    · trivial
    · exact spares_refl m
  | signal target number =>
    simp only [serve, serveSignal]
    split
    · exact spares_refl m
    split <;> exact spares_refl m
  | exec path args vars =>
    simp only [serve, serveExec]
    split
    · exact spares_refl m
    split
    · exact spares_refl m
    · exact spares_of_eq (by simp) (by simp)
  | _ => exact spares_refl m

/-! ### Running -/

lemma act_spares (programs : Programs) (m : Machine) (p : Process) :
    Spares l m (m.act programs p) := by
  have hclock : Spares l m { m with clock := max m.clock p.clock } := spares_of_eq rfl rfl
  refine hclock.appends ?_
  rw [act]
  dsimp only
  split
  · exact spares_finish _ p _ _
  · exact spares_of_eq (by simp) (by simp)
  · rename_i request next _
    have hserve := serve_spares (l := l) programs { m with clock := max m.clock p.clock } p request
    split
    · exact spares_of_eq rfl rfl
    · rename_i hserved
      rw [hserved] at hserve
      exact Appends.spares hserve (spares_of_eq rfl rfl)
    · rename_i hserved
      rw [hserved] at hserve
      refine Appends.spares hserve ?_
      split
      · exact spares_of_eq rfl rfl
      split
      · exact spares_of_eq rfl rfl
      · exact (spares_put _ _).spares (spares_deliver _ _ _ _)

lemma runUntil_spares (programs : Programs) (done : Machine → Bool) (turns : Nat) (m : Machine) :
    Spares l m (m.runUntil programs done turns) := by
  induction turns generalizing m with
  | zero => exact spares_refl m
  | succ turns ih =>
    rw [runUntil]
    split
    · exact spares_refl m
    split
    · exact spares_refl m
    · exact (act_spares programs m _).spares (ih _)

lemma advance_spares (programs : Programs) (time : Nat) (m : Machine) :
    Spares l m (m.advance programs time) :=
  (runUntil_spares programs _ patience m).spares (spares_of_eq rfl rfl)

lemma settle_spares (programs : Programs) (m : Machine) : Spares l m (m.settle programs) :=
  advance_spares programs _ m

lemma wait_spares (programs : Programs) (id : Nat) (m : Machine) :
    Spares l m (m.wait programs id).2 := by
  have hawait : Spares l m (m.await programs id) :=
    (runUntil_spares programs _ patience m).spares (settle_spares programs _)
  rw [wait]
  split <;> exact hawait

lemma kill_spares (id : Nat) (m : Machine) : Spares l m (m.kill id) := by
  rw [kill]
  split
  · exact spares_refl m
  · exact spares_deliver _ _ _ _

/-! ### Starting stages -/

lemma openSource_spares (m : Machine) (source : Source) : Spares l m (m.openSource source).2 := by
  unfold openSource
  split
  · exact spares_openStream m _
  · exact spares_openStream m _
  · split
    · exact spares_openStream m _
    · refine Appends.spares ?_ (spares_openStream _ _)
      exact spares_of_eq rfl rfl

lemma openSink_spares (m : Machine) (sink : Sink) : Spares l m (m.openSink sink).2 := by
  unfold openSink
  split
  case h_5 => exact (spares_addPipe m []).spares (spares_openStream _ _)
  all_goals exact spares_openStream m _

lemma launch_spares (m : Machine) (streams : Streams) (here : Location) (todo : Proc)
    (ignored : List Nat) : Spares l m (m.launch streams here todo ignored).2 := by
  have hstreams := ((openSource_spares (l := l) m streams.input).spares
    (openSink_spares _ streams.output)).spares (openSink_spares _ streams.errors)
  exact hstreams.spares (spares_of_eq rfl rfl)

lemma spawn_spares (programs : Programs) (command : Command) (streams : Streams) (ctx : Context)
    (m : Machine) : Spares l m (spawn programs command streams ctx m).2 := by
  rw [spawn]
  split
  · exact spares_refl m
  dsimp only
  split
  · exact settle_spares programs m
  · exact launch_spares m _ _ _ _

/-- What the shell itself writes to a sink spares a file that the sink is not. -/
lemma write_spares {sink : Sink} (hsink : ¬ sink.IsAt l) {bytes : Bytes}
    (h : m.write sink bytes = .ok m') : Spares l m m' := by
  unfold write at h
  split at h
  · cases h
    exact spares_refl m
  split at h
  · cases h
    exact spares_of_eq rfl rfl
  · cases h
    exact spares_of_eq rfl rfl
  · cases h
    exact spares_of_eq rfl rfl
  · cases h
    exact spares_of_eq rfl rfl
  · cases h
  · rename_i f mode
    split at h
    · cases h
      exact spares_of_eq rfl rfl
    · cases h
      exact spares_of_eq rfl rfl
    · cases h
      exact spares_of_eq rfl rfl
    · split at h
      · rename_i hwrite
        cases h
        refine spares_of_get? (FileSystem.writeAt_revises hwrite) id fun _ => ?_
        rcases FileSystem.writeAt_cases hwrite with rfl | ⟨k, mode', _, _, rfl, -, rfl⟩
        · rfl
        · refine FileSystem.get?_insert_of_ne _ _ ?_
          rintro rfl
          exact hsink ⟨mode, rfl⟩
      · cases h

end Machine

end Shell
