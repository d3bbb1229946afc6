import Shell.Proofs.Machine.Desk
import Shell.Proofs.Machine.Frame

/-!
# Processes without a stream to the shell

Processes get at what the shell reads and prints through the streams that they have open. As long as
none of these goes to one of the shell's own channels, whatever the processes do leaves the channel
as it is, and none of them gets hold of it: a stream that a process opens or copies goes where one
of its own streams went, or to a file or a pipe.

So only the shell can let a process have such a stream, when it starts the process.
-/

namespace Shell

/-- One of the shell's own channels: a session's stream, or the buffer for the words of a command.
-/
def Channel.isOwn : Channel → Bool
  | .pipe _ | .file _ => false
  | _ => true

lemma Channel.pipe_ne {c : Channel} (hc : c.isOwn = true) (id : Nat) : .pipe id ≠ c := by
  rintro rfl
  cases hc

lemma Channel.file_ne {c : Channel} (hc : c.isOwn = true) (f : OpenFile) : .file f ≠ c := by
  rintro rfl
  cases hc

/-! ### Streams that go elsewhere -/

/-- The stream with this number does not go to the channel. -/
def Misses (c : Channel) (opened : Array Opened) (stream : Nat) : Prop :=
  ∀ o, opened[stream]? = some o → o.channel ≠ c

section

variable {c : Channel} {opened : Array Opened} {stream : Nat}

/-- Another stream was opened, which goes elsewhere. -/
lemma Misses.push (h : Misses c opened stream) {o : Opened} (ho : o.channel ≠ c) :
    Misses c (opened.push o) stream := by
  intro o' ho'
  rw [Array.getElem?_push] at ho'
  split at ho'
  · rwa [← Option.some.inj ho']
  · exact h o' ho'

lemma misses_push_size {o : Opened} (ho : o.channel ≠ c) :
    Misses c (opened.push o) opened.size := by
  intro o' ho'
  rw [Array.getElem?_push_size] at ho'
  rwa [← Option.some.inj ho']

/-- A stream at another position still goes where it went. -/
lemma Misses.setIfInBounds (h : Misses c opened stream) {s : Nat} {o : Opened}
    (ho : opened[s]? = some o) (offset : Nat) :
    Misses c (opened.setIfInBounds s { o with offset }) stream := by
  intro o' ho'
  rw [Array.getElem?_setIfInBounds] at ho'
  split at ho'
  · rename_i hs
    split at ho'
    · rw [← Option.some.inj ho']
      exact h o (hs ▸ ho)
    · cases ho'
  · exact h o' ho'

end

/-! ### Processes -/

/-- No stream of the process goes to the channel. -/
def Process.IsApart (c : Channel) (opened : Array Opened) (p : Process) : Prop :=
  ∀ d ∈ p.descriptors, Misses c opened d.stream

namespace Process.IsApart

variable {c : Channel} {opened : Array Opened} {p q : Process}

/-- The other process has no other streams. -/
lemma of_subset (h : p.IsApart c opened) (hq : q.descriptors ⊆ p.descriptors) :
    q.IsApart c opened :=
  fun d hd => h d (hq hd)

lemma push (h : p.IsApart c opened) {o : Opened} (ho : o.channel ≠ c) :
    p.IsApart c (opened.push o) :=
  fun d hd => (h d hd).push ho

lemma setIfInBounds (h : p.IsApart c opened) {s : Nat} {o : Opened} (ho : opened[s]? = some o)
    (offset : Nat) : p.IsApart c (opened.setIfInBounds s { o with offset }) :=
  fun d hd => (h d hd).setIfInBounds ho offset

lemma install (h : p.IsApart c opened) {s : Nat} (hs : Misses c opened s) (number : Nat)
    (hidden : Bool) : (p.install number s hidden).IsApart c opened := by
  intro d hd
  rcases List.mem_cons.mp hd with rfl | hd
  · exact hs
  · exact h d (List.mem_filter.mp hd).1

lemma uninstall (h : p.IsApart c opened) (number : Nat) : (p.uninstall number).IsApart c opened :=
  h.of_subset fun _ hd => (List.mem_filter.mp hd).1

lemma misses (h : p.IsApart c opened) {number s : Nat} (hs : p.stream? number = some s) :
    Misses c opened s := by
  obtain ⟨d, hd, rfl⟩ := Option.map_eq_some_iff.mp hs
  exact h d (List.mem_of_find?_eq_some hd)

end Process.IsApart

namespace Machine

/-! ### Machines -/

/-- No process has a stream to the channel. -/
def IsApart (c : Channel) (m : Machine) : Prop :=
  ∀ p ∈ m.processes, p.IsApart c m.opened

/-- What is still to be read from one of the shell's own channels, or was written to it. -/
def content (m : Machine) : Channel → Bytes
  | .input => m.session.stdin.rest
  | .output => m.session.stdout.bytes
  | .errors => m.session.stderr.bytes
  | .capture => m.capture
  | .pipe _ | .file _ => []

/-- The machine after something that leaves the channel alone and lets no process have it. -/
structure Untouched (c : Channel) (m m' : Machine) : Prop where
  apart : m'.IsApart c
  content : m'.content c = m.content c

variable {c : Channel} {m m' : Machine} {p : Process}

lemma IsApart.untouched (h : m.IsApart c) : Untouched c m m :=
  ⟨h, rfl⟩

namespace Untouched

lemma trans {m'' : Machine} (h : Untouched c m m') (h' : Untouched c m' m'') :
    Untouched c m m'' :=
  ⟨h'.apart, h'.content.trans h.content⟩

lemma put (h : Untouched c m m') (hp : p.IsApart c m'.opened) : Untouched c m (m'.put p) := by
  refine ⟨fun q hq => ?_, h.content⟩
  obtain ⟨r, hr, rfl⟩ := List.mem_map.mp hq
  split
  · exact hp
  · exact h.apart r hr

lemma add (h : Untouched c m m') (hp : p.IsApart c m'.opened) : Untouched c m (m'.add p) := by
  refine ⟨fun q hq => ?_, h.content⟩
  rcases List.mem_append.mp hq with hq | hq
  · exact h.apart q hq
  · rw [List.mem_singleton.mp hq]
    exact hp

lemma wake (h : Untouched c m m') (time : Nat) : Untouched c m (m'.wake time) := by
  rw [Machine.wake]
  split
  · refine ⟨fun q hq => ?_, h.content⟩
    obtain ⟨r, hr, rfl⟩ := List.mem_map.mp hq
    split <;> exact h.apart r hr
  · exact h

/-- A process that ends lets go of its streams. -/
lemma finish (h : Untouched c m m') (p : Process) (ending : Ending) (time : Nat) :
    Untouched c m (m'.finish p ending time) := by
  unfold Machine.finish
  extract_lets orphaned awaited ended processes
  have horphaned : ∀ q ∈ orphaned, q.IsApart c m'.opened := by
    intro q hq
    obtain ⟨r, hr, rfl⟩ := List.mem_map.mp hq
    split <;> exact h.apart r hr
  have hprocesses : ∀ q ∈ processes, q.IsApart c m'.opened := by
    intro q hq
    simp only [processes] at hq
    split at hq
    · obtain ⟨r, hr, rfl⟩ := List.mem_map.mp hq
      split
      · simp [Process.IsApart, ended]
      · exact horphaned r hr
    · exact horphaned q (List.mem_filter.mp hq).1
  refine wake ?_ time
  exact ⟨fun q hq => hprocesses q (List.mem_filter.mp hq).1, h.content⟩

lemma deliver (h : Untouched c m m') {id : Nat} (hp : m'.process? id = some p)
    (number time : Nat) : Untouched c m (m'.deliver p number time) := by
  rw [Machine.deliver]
  split
  · exact h
  split
  · exact h.finish p _ time
  split
  · exact h
  split
  · refine (h.put ?_).wake time
    exact h.apart p (List.mem_of_find?_eq_some hp)
  split
  · exact h.finish p _ time
  · exact h

lemma openStream (h : Untouched c m m') {o : Opened} (ho : o.channel ≠ c) :
    Untouched c m (m'.openStream o).2 :=
  ⟨fun q hq => (h.apart q hq).push ho, h.content⟩

end Untouched

end Machine

/-! ### Requests -/

/-- If a request was answered, then neither the process nor the machine has the channel, and the
channel was left alone. -/
def Served.IsUntouched {α : Type} (c : Channel) (m : Machine) : Served α → Prop
  | .blocked => True
  | .answered _ p m' _ => Machine.Untouched c m m' ∧ p.IsApart c m'.opened
  | .replaced p m' => Machine.Untouched c m m' ∧ p.IsApart c m'.opened

namespace Machine

/-- What a process without the channel reads or writes does not go there. -/
lemma channel_ne_of_stream? {c : Channel} {m : Machine} {p : Process} (hp : p.IsApart c m.opened)
    {number s : Nat} {o : Opened} (hstream : m.stream? p number = some (s, o)) :
    o.channel ≠ c := by
  obtain ⟨s', hs', ho⟩ := Option.bind_eq_some_iff.mp hstream
  obtain ⟨o', ho', heq⟩ := Option.map_eq_some_iff.mp ho
  cases heq
  exact hp.misses hs' o ho'

section

variable {c : Channel} {m : Machine} {p : Process} (h : m.IsApart c) (hp : p.IsApart c m.opened)
include h hp

lemma IsApart.setOpened {s : Nat} {o : Opened} (ho : m.opened[s]? = some o) (offset : Nat) :
    Untouched c m (m.setOpened s { o with offset }) ∧
      p.IsApart c (m.setOpened s { o with offset }).opened :=
  ⟨⟨fun q hq => (h q hq).setIfInBounds ho offset, rfl⟩, hp.setIfInBounds ho offset⟩

/-- Something went through a pipe. -/
lemma IsApart.setPipes (pipes : Array Pipe) (time : Nat) :
    Untouched c m ({ m with pipes }.wake time) ∧
      p.IsApart c ({ m with pipes }.wake time).opened := by
  have hpipes : Untouched c m { m with pipes } := ⟨h, rfl⟩
  exact ⟨hpipes.wake time, by simpa using hp⟩

/-- The process has other streams now. -/
lemma IsApart.putProcess (time : Nat) :
    Untouched c m ((m.put p).wake time) ∧ p.IsApart c ((m.put p).wake time).opened :=
  ⟨(h.untouched.put hp).wake time, by simpa using hp⟩

lemma IsApart.serveRead (number max : Nat) : (m.serveRead p number max).IsUntouched c m := by
  rw [Machine.serveRead]
  split
  · exact ⟨h.untouched, hp⟩
  rename_i s o hstream
  split
  · exact ⟨h.untouched, hp⟩
  split
  · -- the channel that is read is another one
    rename_i hchannel
    have hne := hchannel ▸ channel_ne_of_stream? hp hstream
    refine ⟨⟨h, ?_⟩, hp⟩
    cases c <;> first | rfl | exact absurd rfl hne
  · split
    · exact ⟨h.untouched, hp⟩
    split
    · split
      · trivial
      · exact ⟨h.untouched, hp⟩
    · exact h.setPipes hp _ _
  · split
    · exact ⟨h.untouched, hp⟩
    · exact h.setOpened hp (mem_of_stream? hstream) _
  · exact ⟨h.untouched, hp⟩

lemma IsApart.serveWrite (number : Nat) (bytes : Bytes) :
    (m.serveWrite p number bytes).IsUntouched c m := by
  rw [Machine.serveWrite]
  split
  · exact ⟨h.untouched, hp⟩
  rename_i s o hstream
  have hne := channel_ne_of_stream? hp hstream
  split
  · exact ⟨h.untouched, hp⟩
  split
  iterate 4
    rename_i hchannel
    rw [hchannel] at hne
    refine ⟨⟨h, ?_⟩, hp⟩
    cases c <;> first | rfl | exact absurd rfl hne
  · split
    · exact ⟨h.untouched, hp⟩
    split
    · exact ⟨h.untouched, hp⟩
    dsimp only
    split
    · trivial
    · exact h.setPipes hp _ _
  · dsimp only
    split
    · exact ⟨h.untouched, hp⟩
    · rename_i files offset _
      have hfiles : IsApart c { m with files } := h
      obtain ⟨hset, hset'⟩ := hfiles.setOpened hp (mem_of_stream? hstream) offset
      exact ⟨⟨hset.apart, hset.content⟩, hset'⟩

/-- A process opens a file, or one of its own streams again. -/
lemma IsApart.serveOpen (hc : c.isOwn = true) (path : String) (access : Access) :
    (m.serveOpen p path access).IsUntouched c m := by
  unfold Machine.serveOpen
  split
  · exact ⟨h.untouched, hp⟩
  rename_i channel files hpath
  have hchannel : (openedAs channel access).channel ≠ c := by
    rw [channel_openedAs]
    unfold openPath at hpath
    split at hpath
    · cases hpath
    · rw [reopen] at hpath
      split at hpath
      · cases hpath
      rename_i o hstream
      split at hpath
      · split at hpath <;> cases hpath
        exact Channel.file_ne hc _
      · cases hpath
        exact channel_ne_of_stream? hp hstream
    · cases hpath
      exact Channel.file_ne hc _
  refine ⟨⟨fun q hq => (h q hq).push hchannel, rfl⟩, ?_⟩
  exact (hp.push hchannel).install (misses_push_size hchannel) _ _

lemma IsApart.servePipe (hc : c.isOwn = true) : (m.servePipe p).IsUntouched c m := by
  have hpipe : ∀ id r w, ({ channel := .pipe id, readable := r, writable := w } : Opened).channel ≠
      c := fun id _ _ => Channel.pipe_ne hc id
  have hadd : Untouched c m (m.addPipe []).2 := ⟨h, rfl⟩
  refine ⟨(hadd.openStream (hpipe _ _ _)).openStream (hpipe _ _ _), ?_⟩
  refine Process.IsApart.install (.install ((hp.push ?_).push ?_) ?_ _ _) ?_ _ _
  · exact hpipe _ _ _
  · exact hpipe _ _ _
  · exact (misses_push_size (hpipe _ _ _)).push (hpipe _ _ _)
  · exact misses_push_size (hpipe _ _ _)

lemma IsApart.serveExec (programs : Programs) (path : String) (args vars : List String) :
    (m.serveExec programs p path args vars).IsUntouched c m := by
  rw [Machine.serveExec]
  dsimp only
  split
  · exact ⟨h.untouched, hp⟩
  split
  · exact ⟨h.untouched, hp⟩
  · refine h.putProcess (hp.of_subset fun _ hd => ?_) _
    exact (List.mem_filter.mp hd).1

/-- Whatever a process without the channel asks for, it and the machine stay apart from it. -/
lemma IsApart.serve (hc : c.isOwn = true) (programs : Programs) (r : Request) :
    (m.serve programs p r).IsUntouched c m := by
  cases r with
  | read number max => exact h.serveRead hp number max
  | write number bytes => exact h.serveWrite hp number bytes
  | openFile path access => exact h.serveOpen hp hc path access
  | close number =>
    simp only [Machine.serve, serveClose]
    split
    · exact ⟨h.untouched, hp⟩
    · exact h.putProcess (hp.uninstall number) _
  | copyTo source target =>
    simp only [Machine.serve, serveCopy]
    split
    · exact ⟨h.untouched, hp⟩
    · rename_i hs
      exact h.putProcess (hp.install (hp.misses hs) target false) _
  | copyAbove source least =>
    simp only [Machine.serve, serveCopyAbove]
    split
    · exact ⟨h.untouched, hp⟩
    · rename_i hs
      exact ⟨h.untouched, hp.install (hp.misses hs) _ _⟩
  | pipe => exact h.servePipe hp hc
  | rewind number back =>
    simp only [Machine.serve, serveRewind]
    split
    · exact ⟨h.untouched, hp⟩
    · rename_i hstream
      split
      · exact h.setOpened hp (mem_of_stream? hstream) _
      · exact ⟨h.untouched, hp⟩
  | enter path =>
    simp only [Machine.serve]
    unfold serveEnter
    split <;> exact ⟨h.untouched, hp⟩
  | wait child patient =>
    simp only [Machine.serve, serveWait]
    split
    · exact ⟨⟨fun q hq => h q (List.mem_filter.mp hq).1, rfl⟩, hp⟩
    split
    · exact ⟨h.untouched, hp⟩
    split
    · trivial
    · exact ⟨h.untouched, hp⟩
  | signal target number =>
    simp only [Machine.serve, serveSignal]
    split
    · exact ⟨h.untouched, hp⟩
    split <;> exact ⟨h.untouched, hp⟩
  | handle number d => cases d <;> exact ⟨h.untouched, hp⟩
  | exec path args vars => exact h.serveExec hp programs path args vars
  | _ => exact ⟨h.untouched, hp⟩

/-! ### Running -/

lemma IsApart.act (hc : c.isOwn = true) (programs : Programs) :
    Untouched c m (m.act programs p) := by
  have hclock : Untouched c m { m with clock := max m.clock p.clock } := ⟨h, rfl⟩
  rw [Machine.act]
  dsimp only
  split
  · exact hclock.finish p _ _
  · refine (hclock.put ?_).add ?_ <;> exact hp
  · rename_i request next _
    have hserve := hclock.apart.serve hp hc programs request
    split
    · exact hclock.put hp
    · rename_i hserved
      rw [hserved] at hserve
      exact (hclock.trans hserve.1).put hserve.2
    · rename_i hserved
      rw [hserved] at hserve
      have hanswered := hclock.trans hserve.1
      split
      · refine hanswered.put ?_
        exact hserve.2
      split
      · refine hanswered.put ?_
        exact hserve.2
      · rename_i hq
        refine Untouched.deliver (hanswered.put ?_) hq _ _
        exact hserve.2

end

/-- The process that acts next is one of those of the machine. -/
lemma mem_of_next? {m : Machine} {p : Process} (h : m.next? = some p) : p ∈ m.processes := by
  suffices ∀ b ∈ m.next?, b ∈ m.processes from this p h
  refine List.foldlRecOn (motive := fun best => ∀ b ∈ best, b ∈ m.processes) _ _ (by simp) ?_
  intro best hbest q hq b hb
  split at hb
  · split at hb
    · rwa [← Option.some.inj hb]
    · rename_i b'
      rw [← Option.some.inj hb, earlier]
      split
      · exact hq
      · exact hbest b' rfl
  · exact hbest b hb

section

variable {c : Channel} {m : Machine} (h : m.IsApart c) (hc : c.isOwn = true) (programs : Programs)
include h hc

lemma IsApart.runUntil (done : Machine → Bool) (turns : Nat) :
    Untouched c m (m.runUntil programs done turns) := by
  induction turns generalizing m with
  | zero => exact h.untouched
  | succ turns ih =>
    rw [Machine.runUntil]
    split
    · exact h.untouched
    split
    · exact h.untouched
    · rename_i hnext
      have hact := h.act (h _ (mem_of_next? hnext)) hc programs
      exact hact.trans (ih hact.apart)

lemma IsApart.settle : Untouched c m (m.settle programs) := by
  have hrun := h.runUntil hc programs
    (hasReached (max (m.clock + reaction) m.clock)) patience
  exact ⟨hrun.apart, hrun.content⟩

lemma IsApart.wait (id : Nat) : Untouched c m (m.wait programs id).2 := by
  have hrun := h.runUntil hc programs (isDone id) patience
  have hawait : Untouched c m (m.await programs id) :=
    hrun.trans (hrun.apart.settle hc programs)
  rw [Machine.wait]
  split <;> exact hawait

lemma IsApart.join (w : Worker) : Untouched c m (m.join programs w).2 := by
  cases w with
  | done result => exact h.settle hc programs
  | writing id => exact h.wait hc programs id

omit hc in
lemma IsApart.kill (id : Nat) : Untouched c m (m.kill id) := by
  rw [Machine.kill]
  split
  · exact h.untouched
  · rename_i hp
    exact h.untouched.deliver hp _ _

end

end Machine

/-! ### Starting processes -/

/-- The source is not the channel. -/
@[simp] def Source.Avoids (c : Channel) : Source → Prop
  | .session => c ≠ .input
  | .pipe _ => True
  | .file f => Machine.channelOf f ≠ c

/-- The sink is not the channel. -/
@[simp] def Sink.Avoids (c : Channel) : Sink → Prop
  | .sessionOut => c ≠ .output
  | .sessionErr => c ≠ .errors
  | .capture => c ≠ .capture
  | .pipe _ | .closed => True
  | .file f _ => Machine.channelOf f ≠ c

/-- None of the streams is the channel. -/
structure Streams.Avoid (c : Channel) (streams : Streams) : Prop where
  input : streams.input.Avoids c
  output : streams.output.Avoids c
  errors : streams.errors.Avoids c

namespace Machine

lemma channel_ne {c : Channel} (hc : c.isOwn = true) {f : OpenFile} (hf : channelOf f ≠ c)
    (m : Machine) : m.channel f ≠ c := by
  unfold channel
  split
  · exact hf
  · exact Channel.file_ne hc f

/-- A stream was opened that goes elsewhere, and those that went elsewhere still do. -/
structure OpensElsewhere (c : Channel) (m : Machine) (r : Nat × Machine) : Prop where
  untouched : Untouched c m r.2
  misses : Misses c r.2.opened r.1
  kept : ∀ stream, Misses c m.opened stream → Misses c r.2.opened stream

lemma Untouched.opensElsewhere {c : Channel} {m m' : Machine} (h : Untouched c m m')
    (hopened : m'.opened = m.opened) {o : Opened} (ho : o.channel ≠ c) :
    OpensElsewhere c m (m'.openStream o) := by
  refine ⟨h.openStream ho, misses_push_size ho, fun stream hs => ?_⟩
  rw [← hopened] at hs
  exact hs.push ho

section

variable {c : Channel} {m : Machine} (h : m.IsApart c) (hc : c.isOwn = true)
include h hc

lemma IsApart.openSource {source : Source} (hsource : source.Avoids c) :
    OpensElsewhere c m (m.openSource source) := by
  unfold Machine.openSource
  split
  · exact h.untouched.opensElsewhere rfl (Channel.pipe_ne hc _)
  · exact h.untouched.opensElsewhere rfl (channel_ne hc hsource m)
  · split
    · exact h.untouched.opensElsewhere rfl (Ne.symm hsource)
    · -- the session's input is handed over, which is not the channel
      refine Untouched.opensElsewhere ?_ ?_ ?_
      · refine ⟨h, ?_⟩
        cases c <;> first | rfl | exact absurd rfl hsource
      · rfl
      · exact Channel.pipe_ne hc _

lemma IsApart.openSink {sink : Sink} (hsink : sink.Avoids c) :
    OpensElsewhere c m (m.openSink sink) := by
  unfold Machine.openSink
  split
  · exact h.untouched.opensElsewhere rfl (Ne.symm hsink)
  · exact h.untouched.opensElsewhere rfl (Ne.symm hsink)
  · exact h.untouched.opensElsewhere rfl (Ne.symm hsink)
  · exact h.untouched.opensElsewhere rfl (Channel.pipe_ne hc _)
  · refine Untouched.opensElsewhere ?_ ?_ ?_
    · exact ⟨h, rfl⟩
    · rfl
    · exact Channel.pipe_ne hc _
  · exact h.untouched.opensElsewhere rfl (channel_ne hc hsink m)

/-- The shell starts a process with streams that go elsewhere. -/
lemma IsApart.launch {streams : Streams} (hstreams : streams.Avoid c) (here : Location)
    (todo : Proc) (ignored : List Nat) :
    Untouched c m (m.launch streams here todo ignored).2 := by
  have hinput := h.openSource hc hstreams.input
  have houtput := hinput.untouched.apart.openSink hc hstreams.output
  have herrors := houtput.untouched.apart.openSink hc hstreams.errors
  have hopened := (hinput.untouched.trans houtput.untouched).trans herrors.untouched
  refine hopened.add ?_
  simp only [Process.IsApart, List.forall_mem_cons]
  refine ⟨?_, ?_, herrors.misses, by simp⟩
  · exact herrors.kept _ (houtput.kept _ hinput.misses)
  · exact herrors.kept _ houtput.misses

lemma IsApart.spawn (programs : Programs) (command : Command) {streams : Streams}
    (hstreams : streams.Avoid c) (ctx : Context) :
    Untouched c m (Machine.spawn programs command streams ctx m).2 := by
  rw [Machine.spawn]
  split
  · exact h.untouched
  dsimp only
  split
  · exact h.settle hc programs
  · exact h.launch hc hstreams _ _ _

end

/-! ### Builtins -/

/-- What the shell itself does lets no process have a stream. -/
lemma outside_isApart (c : Channel) : Outside (IsApart c) where
  files _ _ h := h
  session _ _ h := h
  capture _ _ h := h
  pipes _ _ h := h

end Machine

end Shell
