import Mathlib.Data.List.Basic
import Mathlib.Tactic.Lemma
import Shell.Stream

/-!
# Handles of one stream

Input and output that are kept in memory have any number of handles, and whoever holds one may act
at any time, or make another handle of it. The streams of all handles that go back to the same first
one are one stream. Whatever the order in which they are used: each byte of the input goes to
exactly one reader, in order and until there are no more, and the output is what was written, in
order (`Sharing.run_shares`).
-/

namespace Shell

/-! ### Turns -/

section Turns

variable {ι σ α β : Type}

/-- Clients act on something that they share, one at a time. A turn says who acts and what is asked
for; the answers stand in the order of the turns. -/
def interleaved (act : σ → α → β × σ) (s : σ) : List (ι × α) → List (ι × β) × σ
  | [] => ([], s)
  | (client, a) :: turns =>
    let (b, s) := act s a
    let (answers, s) := interleaved act s turns
    ((client, b) :: answers, s)

@[simp] lemma interleaved_nil (act : σ → α → β × σ) (s : σ) :
    interleaved act s ([] : List (ι × α)) = ([], s) := rfl

@[simp] lemma interleaved_cons (act : σ → α → β × σ) (s : σ) (client : ι) (a : α)
    (turns : List (ι × α)) :
    interleaved act s ((client, a) :: turns) =
      ((client, (act s a).1) :: (interleaved act (act s a).2 turns).1,
        (interleaved act (act s a).2 turns).2) := rfl

lemma interleaved_append (act : σ → α → β × σ) (s : σ) (turns : List (ι × α)) (client : ι)
    (a : α) :
    let before := interleaved act s turns
    interleaved act s (turns ++ [(client, a)]) =
      (before.1 ++ [(client, (act before.2 a).1)], (act before.2 a).2) := by
  induction turns generalizing s with
  | nil => rfl
  | cons turn turns ih =>
    obtain ⟨first, b⟩ := turn
    simp only [List.cons_append, interleaved_cons, ih]

/-- All bytes that were given, in order. -/
def delivered (answers : List (ι × Bytes)) : Bytes :=
  answers.flatMap Prod.snd

/-- The bytes that a client was given, in order. -/
def received [DecidableEq ι] (client : ι) (answers : List (ι × Bytes)) : Bytes :=
  delivered (answers.filter fun x => x.1 = client)

/-- Every byte that was given, with the client that it was given to. -/
def owned (answers : List (ι × Bytes)) : List (ι × UInt8) :=
  answers.flatMap fun x => x.2.map (Prod.mk x.1)

lemma map_snd_owned (answers : List (ι × Bytes)) :
    (owned answers).map Prod.snd = delivered answers := by
  simp [owned, delivered, List.map_flatMap, Function.comp_def]

lemma received_eq [DecidableEq ι] (client : ι) (answers : List (ι × Bytes)) :
    received client answers =
      ((owned answers).filter fun x => x.1 = client).map Prod.snd := by
  induction answers with
  | nil => rfl
  | cons x answers ih =>
    by_cases hx : x.1 = client
    · simp_all [received, delivered, owned, List.filter_map, Function.comp_def]
    · simp_all [received, delivered, owned, List.filter_map, Function.comp_def]

end Turns

variable {ι : Type}

/-! ### One stream -/

/-- What all readers ask for together. -/
def asked : List (ι × Nat) → Nat
  | [] => 0
  | (_, max) :: turns => max + asked turns

@[simp] lemma asked_cons (client : ι) (max : Nat) (turns : List (ι × Nat)) :
    asked ((client, max) :: turns) = max + asked turns := rfl

namespace SharedInput

/-- A reader is given what stands behind all that was asked for before. -/
lemma getElem?_interleaved (input : SharedInput) (turns : List (ι × Nat)) (i : Nat) :
    (interleaved read input turns).1[i]? = turns[i]?.map fun turn =>
      (turn.1, (input.rest.drop (asked (turns.take i))).take turn.2) := by
  induction turns generalizing input i with
  | nil => rfl
  | cons turn turns ih =>
    obtain ⟨client, max⟩ := turn
    cases i with
    | zero => rfl
    | succ i => simp [ih, read]

/-- By induction over the turns: what one reader leaves is what the next one finds. -/
lemma delivered_interleaved (input : SharedInput) (turns : List (ι × Nat)) :
    delivered (interleaved read input turns).1 = input.rest.take (asked turns) ∧
      (interleaved read input turns).2.rest = input.rest.drop (asked turns) := by
  induction turns generalizing input with
  | nil => exact ⟨rfl, rfl⟩
  | cons turn turns ih =>
    obtain ⟨client, max⟩ := turn
    obtain ⟨hbytes, hleft⟩ := ih (input.read max).2
    have hfirst : delivered (interleaved read input ((client, max) :: turns)).1 =
        input.rest.take max ++ delivered (interleaved read (input.read max).2 turns).1 := rfl
    rw [hfirst, hbytes, interleaved_cons, hleft, asked_cons]
    exact ⟨List.take_add.symm, List.drop_drop⟩

end SharedInput

/-- By induction over the turns: every writer adds to the end. -/
lemma SharedOutput.interleaved_write (output : SharedOutput) (turns : List (ι × Bytes)) :
    interleaved write output turns =
      (turns.map fun turn => (turn.1, turn.2.length),
        ⟨output.bytes ++ turns.flatMap Prod.snd⟩) := by
  induction turns generalizing output with
  | nil => simp
  | cons turn turns ih =>
    obtain ⟨client, data⟩ := turn
    simp [ih, write]

/-! ### Uses of streams -/

/-- The first handle of a stream: its number, and what there was to read. -/
structure Origin where
  number : Nat
  input : Bytes := []
  deriving DecidableEq, Repr

/-- A handle was used. -/
structure Use (α β : Type) where
  handle : Nat
  /-- The first handle of the stream. -/
  stream : Origin
  request : α
  answer : Option β
  deriving DecidableEq, Repr

section Uses

variable {α β : Type}

/-- The uses of a stream. -/
def usesOf (o : Origin) (uses : List (Use α β)) : List (Use α β) :=
  uses.filter fun u => u.stream = o

/-- Who asked, and for what. -/
def asks (uses : List (Use α β)) : List (Nat × α) :=
  uses.map fun u => (u.handle, u.request)

/-- Who was answered, and how. -/
def given (uses : List (Use α β)) : List (Nat × β) :=
  uses.filterMap fun u => u.answer.map (Prod.mk u.handle)

lemma usesOf_append_self (uses : List (Use α β)) (u : Use α β) :
    usesOf u.stream (uses ++ [u]) = usesOf u.stream uses ++ [u] := by
  simp [usesOf]

lemma usesOf_append_of_ne {o : Origin} {u : Use α β} (h : u.stream ≠ o) (uses : List (Use α β)) :
    usesOf o (uses ++ [u]) = usesOf o uses := by
  simp [usesOf, h]

lemma usesOf_eq_nil {o : Origin} {uses : List (Use α β)} (h : ∀ u ∈ uses, u.stream ≠ o) :
    usesOf o uses = [] := by
  simpa [usesOf] using h

end Uses

/-! ### Cells that are shared -/

namespace Heap

variable {σ β : Type} {h : Heap σ} {p q : Pointer} {s : σ}

lemma address_lt (hp : h.get? p = some s) : p.address < h.cells.length :=
  (List.getElem?_eq_some_iff.mp hp).1

lemma get?_allocate_self (h : Heap σ) (s : σ) :
    (allocate s h).2.get? (allocate s h).1 = some s := by
  simp [allocate, get?]

lemma get?_allocate (hp : h.get? p = some s) (s' : σ) :
    (allocate s' h).2.get? p = some s := by
  rw [← hp]
  exact List.getElem?_append_left (address_lt hp)

/-- Nobody had a handle of a new cell. -/
lemma ne_allocate (hp : h.get? p = some s) (s' : σ) : p ≠ (allocate s' h).1 := by
  rintro rfl
  exact absurd (address_lt hp) (Nat.lt_irrefl _)

lemma lock_of_get? (hp : h.get? p = some s) (act : σ → β × σ) :
    lock p act h = (some (act s).1, ⟨h.cells.set p.address (act s).2⟩) := by
  simp only [lock, hp]

lemma get?_lock_self (hp : h.get? p = some s) (act : σ → β × σ) :
    (lock p act h).2.get? p = some (act s).2 := by
  rw [lock_of_get? hp]
  exact List.getElem?_set_self (address_lt hp)

/-- All other cells stay as they are. -/
lemma get?_lock_of_ne (hp : h.get? p = some s) (hq : q ≠ p) (act : σ → β × σ) :
    (lock p act h).2.get? q = h.get? q := by
  rw [lock_of_get? hp]
  refine List.getElem?_set_ne fun haddress => hq ?_
  cases p
  cases q
  exact congrArg Pointer.mk haddress.symm

end Heap

/-- Handles that go back to the same first handle have the same cell, and others have other cells.
In the cell of a stream is what its uses have left, one after the other, and they were answered
accordingly. -/
structure Shares {σ α β : Type} (act : σ → α → β × σ) (start : Origin → σ) (heap : Heap σ)
    (holders : List (Pointer × Origin)) (uses : List (Use α β)) : Prop where
  cell : ∀ x ∈ holders,
    heap.get? x.1 = some (interleaved act (start x.2) (asks (usesOf x.2 uses))).2
  same : ∀ x ∈ holders, ∀ y ∈ holders, x.1 = y.1 ↔ x.2 = y.2
  answers : ∀ o, given (usesOf o uses) = (interleaved act (start o) (asks (usesOf o uses))).1
  held : ∀ u ∈ uses, ∃ x ∈ holders, x.2 = u.stream

namespace Shares

variable {σ α β : Type} {act : σ → α → β × σ} {start : Origin → σ} {heap : Heap σ}
  {holders : List (Pointer × Origin)} {uses : List (Use α β)}

lemma nil (act : σ → α → β × σ) (start : Origin → σ) : Shares act start {} [] [] where
  cell := by simp
  same := by simp
  answers _ := rfl
  held := by simp

variable (h : Shares act start heap holders uses)
include h

/-- Somebody has another handle of a stream. -/
lemma copy {x : Pointer × Origin} (hx : x ∈ holders) :
    Shares act start heap (holders ++ [x]) uses := by
  have hmem : ∀ y ∈ holders ++ [x], y ∈ holders := by
    intro y hy
    rcases List.mem_append.mp hy with hy | hy
    · exact hy
    · rwa [List.mem_singleton.mp hy]
  refine ⟨fun y hy => h.cell y (hmem y hy), fun y hy z hz => h.same y (hmem y hy) z (hmem z hz),
    h.answers, fun u hu => ?_⟩
  obtain ⟨y, hy, hstream⟩ := h.held u hu
  exact ⟨y, List.mem_append_left _ hy, hstream⟩

/-- A stream comes into being. -/
lemma allocate {o : Origin} (hnew : ∀ x ∈ holders, x.2 ≠ o) :
    Shares act start (Heap.allocate (start o) heap).2
      (holders ++ [((Heap.allocate (start o) heap).1, o)]) uses := by
  have hunused : usesOf o uses = [] := by
    refine usesOf_eq_nil fun u hu => ?_
    obtain ⟨x, hx, hstream⟩ := h.held u hu
    exact hstream ▸ hnew x hx
  have hother : ∀ x ∈ holders, x.1 ≠ (Heap.allocate (start o) heap).1 :=
    fun x hx => Heap.ne_allocate (h.cell x hx) _
  refine ⟨fun x hx => ?_, fun x hx y hy => ?_, h.answers, fun u hu => ?_⟩
  · rcases List.mem_append.mp hx with hx | hx
    · exact Heap.get?_allocate (h.cell x hx) _
    · obtain rfl := List.mem_singleton.mp hx
      rw [hunused]
      exact Heap.get?_allocate_self heap (start o)
  · rcases List.mem_append.mp hx with hx | hx <;> rcases List.mem_append.mp hy with hy | hy
    · exact h.same x hx y hy
    · obtain rfl := List.mem_singleton.mp hy
      exact ⟨fun heq => absurd heq (hother x hx), fun heq => absurd heq (hnew x hx)⟩
    · obtain rfl := List.mem_singleton.mp hx
      exact ⟨fun heq => absurd heq.symm (hother y hy), fun heq => absurd heq.symm (hnew y hy)⟩
    · obtain rfl := List.mem_singleton.mp hx
      obtain rfl := List.mem_singleton.mp hy
      simp
  · obtain ⟨x, hx, hstream⟩ := h.held u hu
    exact ⟨x, List.mem_append_left _ hx, hstream⟩

/-- A stream is used through one of its handles: it is used for all of them, and no other stream is.
-/
lemma use {p : Pointer} {o : Origin} (hp : (p, o) ∈ holders) (handle : Nat) (request : α) :
    let used := Heap.lock p (fun s => act s request) heap
    Shares act start used.2 holders (uses ++ [⟨handle, o, request, used.1⟩]) := by
  intro used
  have hcell := h.cell _ hp
  have hused : used = _ := Heap.lock_of_get? hcell fun s => act s request
  let u : Use α β := ⟨handle, o, request, used.1⟩
  have hasks : asks (usesOf o (uses ++ [u])) = asks (usesOf o uses) ++ [(handle, request)] := by
    rw [usesOf_append_self uses u]
    simp [asks, u]
  have hturn := interleaved_append act (start o) (asks (usesOf o uses)) handle request
  refine ⟨fun x hx => ?_, h.same, fun o' => ?_, fun v hv => ?_⟩
  · by_cases hstream : x.2 = o
    · obtain rfl : x.1 = p := (h.same x hx _ hp).mpr hstream
      subst hstream
      rw [hasks, hturn]
      exact Heap.get?_lock_self hcell _
    · have hne : x.1 ≠ p := fun heq => hstream ((h.same x hx _ hp).mp heq)
      rw [usesOf_append_of_ne (Ne.symm hstream)]
      exact (Heap.get?_lock_of_ne hcell hne _).trans (h.cell x hx)
  · by_cases hstream : o' = o
    · subst hstream
      have hgiven : given (usesOf o' (uses ++ [u])) = given (usesOf o' uses) ++
          [(handle, (act (interleaved act (start o') (asks (usesOf o' uses))).2 request).1)] := by
        rw [usesOf_append_self uses u]
        simp [given, u, hused]
      rw [hgiven, hasks, hturn, h.answers]
    · rw [usesOf_append_of_ne (Ne.symm hstream)]
      exact h.answers o'
  · rcases List.mem_append.mp hv with hv | hv
    · exact h.held v hv
    · obtain rfl := List.mem_singleton.mp hv
      exact ⟨_, hp, rfl⟩

end Shares

/-! ### Handles -/

/-- A handle of a stream in memory. -/
inductive Handle
  | reader (reader : MemReader)
  | buffer (buffer : SharedBuffer)
  | writer (writer : MemWriter)
  deriving DecidableEq, Repr

namespace Handle

def clone : Handle → Handle
  | .reader r => .reader r.clone
  | .buffer b => .buffer b.clone
  | .writer w => .writer w.clone

/-- The cell of the input that the handle reads. -/
def input? : Handle → Option Pointer
  | .reader r => some r.cursor
  | _ => none

/-- The cell of the output that the handle belongs to. -/
def output? : Handle → Option Pointer
  | .reader _ => none
  | .buffer b => some b.bytes
  | .writer w => some w.buffer.bytes

@[simp] lemma input?_clone (h : Handle) : h.clone.input? = h.input? := by
  cases h <;> rfl

@[simp] lemma output?_clone (h : Handle) : h.clone.output? = h.output? := by
  cases h <;> rfl

end Handle

/-- What those do who share streams. Handles are numbered in the order in which they were made. -/
inductive Sharing.Step
  | newReader (input : Bytes)
  | newBuffer
  | clone (handle : Nat)
  | writer (buffer : Nat)
  | read (reader max : Nat)
  | write (writer : Nat) (data : Bytes)
  deriving DecidableEq, Repr

/-- Streams in memory, the handles that were made, each with the first handle that it goes back to,
and how handles were used so far. -/
structure Sharing where
  inputs : Heap SharedInput := {}
  outputs : Heap SharedOutput := {}
  handles : List (Handle × Origin) := []
  reads : List (Use Nat Bytes) := []
  writes : List (Use Bytes Nat) := []
  deriving DecidableEq, Repr

namespace Sharing

/-- One step. Nothing is done with a handle that there is not, or that is of another kind. -/
def step (s : Sharing) : Step → Sharing
  | .newReader input =>
    let (reader, inputs) := MemReader.new input s.inputs
    { s with inputs, handles := s.handles ++ [(.reader reader, ⟨s.handles.length, input⟩)] }
  | .newBuffer =>
    let (buffer, outputs) := SharedBuffer.new s.outputs
    { s with outputs, handles := s.handles ++ [(.buffer buffer, ⟨s.handles.length, []⟩)] }
  | .clone i =>
    match s.handles[i]? with
    | some (h, o) => { s with handles := s.handles ++ [(h.clone, o)] }
    | none => s
  | .writer i =>
    match s.handles[i]? with
    | some (.buffer b, o) => { s with handles := s.handles ++ [(.writer b.writer, o)] }
    | _ => s
  | .read i max =>
    match s.handles[i]? with
    | some (.reader r, o) =>
      let (answer, inputs) := r.read max s.inputs
      { s with inputs, reads := s.reads ++ [⟨i, o, max, answer⟩] }
    | _ => s
  | .write i data =>
    match s.handles[i]? with
    | some (.writer w, o) =>
      let (answer, outputs) := w.write data s.outputs
      { s with outputs, writes := s.writes ++ [⟨i, o, data, answer⟩] }
    | _ => s

lemma step_newReader (s : Sharing) (input : Bytes) :
    let made := Heap.allocate ⟨input⟩ s.inputs
    s.step (.newReader input) =
      { s with
        inputs := made.2
        handles := s.handles ++ [(.reader ⟨made.1⟩, ⟨s.handles.length, input⟩)] } := rfl

lemma step_newBuffer (s : Sharing) :
    let made := Heap.allocate {} s.outputs
    s.step .newBuffer =
      { s with
        outputs := made.2
        handles := s.handles ++ [(.buffer ⟨made.1⟩, ⟨s.handles.length, []⟩)] } := rfl

/-- Step after step. -/
def run (steps : List Step) : Sharing :=
  steps.foldl step {}

/-- Those who have a handle of an input, or of an output. -/
def holders (cell? : Handle → Option Pointer) (handles : List (Handle × Origin)) :
    List (Pointer × Origin) :=
  handles.filterMap fun x => (cell? x.1).map fun p => (p, x.2)

lemma mem_holders {cell? : Handle → Option Pointer} {handles : List (Handle × Origin)} {h : Handle}
    {o : Origin} {p : Pointer} (hmem : (h, o) ∈ handles) (hp : cell? h = some p) :
    (p, o) ∈ holders cell? handles :=
  List.mem_filterMap.mpr ⟨_, hmem, by simp [hp]⟩

lemma holders_append (cell? : Handle → Option Pointer) (handles : List (Handle × Origin))
    (h : Handle) (o : Origin) :
    holders cell? (handles ++ [(h, o)]) =
      holders cell? handles ++ ((cell? h).map fun p => (p, o)).toList := by
  cases hp : cell? h <;> simp [holders, hp]

/-- What holds after any number of steps. -/
structure Sound (s : Sharing) : Prop where
  inputs : Shares SharedInput.read (fun o => ⟨o.input⟩) s.inputs
    (holders Handle.input? s.handles) s.reads
  outputs : Shares SharedOutput.write (fun _ => {}) s.outputs
    (holders Handle.output? s.handles) s.writes
  number_lt : ∀ x ∈ s.handles, x.2.number < s.handles.length

namespace Sound

variable {s : Sharing} (h : s.Sound)
include h

/-- No handle goes back to the handle that is made next. -/
lemma holders_ne (cell? : Handle → Option Pointer) (input : Bytes) :
    ∀ x ∈ holders cell? s.handles, x.2 ≠ ⟨s.handles.length, input⟩ := by
  intro x hx hstream
  obtain ⟨y, hy, hcell⟩ := List.mem_filterMap.mp hx
  obtain ⟨p, -, rfl⟩ := Option.map_eq_some_iff.mp hcell
  have hlt := h.number_lt y hy
  rw [show y.2 = _ from hstream] at hlt
  exact Nat.lt_irrefl _ hlt

lemma number_lt_append {x : Handle × Origin} (hx : x.2.number ≤ s.handles.length) :
    ∀ y ∈ s.handles ++ [x], y.2.number < (s.handles ++ [x]).length := by
  intro y hy
  rw [List.length_append, List.length_singleton]
  rcases List.mem_append.mp hy with hy | hy
  · exact Nat.lt_succ_of_lt (h.number_lt y hy)
  · rw [List.mem_singleton.mp hy]
    exact Nat.lt_succ_of_le hx

/-- A handle is made from another one. -/
lemma copy {handle copied : Handle} {o : Origin} (hmem : (handle, o) ∈ s.handles)
    (hinput : copied.input? = handle.input?) (houtput : copied.output? = handle.output?) :
    Sound { s with handles := s.handles ++ [(copied, o)] } := by
  have hnumber := Nat.le_of_lt (h.number_lt (handle, o) hmem)
  refine ⟨?_, ?_, h.number_lt_append hnumber⟩
  · rw [holders_append, hinput]
    cases hp : handle.input? with
    | none => simpa using h.inputs
    | some p => exact h.inputs.copy (mem_holders hmem hp)
  · rw [holders_append, houtput]
    cases hp : handle.output? with
    | none => simpa using h.outputs
    | some p => exact h.outputs.copy (mem_holders hmem hp)

/-- Every step leaves the streams shared as they should be. -/
lemma step (x : Step) : (s.step x).Sound := by
  cases x with
  | newReader input =>
    rw [step_newReader]
    refine ⟨?_, ?_, h.number_lt_append (Nat.le_refl _)⟩
    · rw [holders_append]
      exact h.inputs.allocate (h.holders_ne Handle.input? input)
    · rw [holders_append]
      simpa [Handle.output?] using h.outputs
  | newBuffer =>
    rw [step_newBuffer]
    refine ⟨?_, ?_, h.number_lt_append (Nat.le_refl _)⟩
    · rw [holders_append]
      simpa [Handle.input?] using h.inputs
    · rw [holders_append]
      exact h.outputs.allocate (h.holders_ne Handle.output? [])
  | clone i =>
    simp only [Sharing.step]
    split
    · rename_i handle o hi
      exact h.copy (List.mem_of_getElem? hi) handle.input?_clone handle.output?_clone
    · exact h
  | writer i =>
    simp only [Sharing.step]
    split
    · rename_i b o hi
      exact h.copy (List.mem_of_getElem? hi) rfl rfl
    · exact h
  | read i max =>
    simp only [Sharing.step]
    split
    · rename_i r o hi
      exact ⟨h.inputs.use (mem_holders (List.mem_of_getElem? hi) rfl) i max, h.outputs, h.number_lt⟩
    · exact h
  | write i data =>
    simp only [Sharing.step]
    split
    · rename_i w o hi
      exact ⟨h.inputs, h.outputs.use (mem_holders (List.mem_of_getElem? hi) rfl) i data,
        h.number_lt⟩
    · exact h

end Sound

/-- By induction over the steps. -/
lemma sound_run (steps : List Step) : (run steps).Sound := by
  have hstart : Sound {} := ⟨.nil _ _, .nil _ _, by simp⟩
  refine List.foldlRecOn steps Sharing.step hstart fun s hs x _ => ?_
  exact hs.step x

lemma run_append (steps : List Step) (x : Step) : run (steps ++ [x]) = (run steps).step x := by
  rw [run, List.foldl_append]
  rfl

/-- A reader takes from what is in its cell. -/
lemma reads_step {s : Sharing} {i : Nat} {r : MemReader} {o : Origin}
    (hi : s.handles[i]? = some (.reader r, o)) {input : SharedInput}
    (hcell : s.inputs.get? r.cursor = some input) (max : Nat) :
    (s.step (.read i max)).reads = s.reads ++ [⟨i, o, max, some (input.read max).1⟩] := by
  simp only [step, hi, MemReader.read, Heap.lock_of_get? hcell]

/-- A writer adds to what is in its cell. -/
lemma writes_step {s : Sharing} {i : Nat} {w : MemWriter} {o : Origin}
    (hi : s.handles[i]? = some (.writer w, o)) {output : SharedOutput}
    (hcell : s.outputs.get? w.buffer.bytes = some output) (data : Bytes) :
    (s.step (.write i data)).writes = s.writes ++ [⟨i, o, data, some (output.write data).1⟩] := by
  simp only [step, hi, MemWriter.write, Heap.lock_of_get? hcell]

/-- Somebody makes readers and buffers, clones them and makes writers, and uses them, in any order.
A reader and its clones share one input. However much they ask for each time, each is given what
stands behind all that was asked for before through any of them. Together that is the front of the
input, as much as they asked for or all of it, and the rest is what the next of them will find,
whichever it is. Each byte is given to one reader: what a reader was given are the bytes that it
owns, in their order. The writers of a buffer share one output: each write is taken as a whole, and
every handle of the buffer shows what was written, in order. What is done with the handles of
another stream makes no difference. -/
theorem run_shares (steps : List Step) :
    let s := run steps
    (∀ o : Origin,
      let turns := asks (usesOf o s.reads)
      let answers := given (usesOf o s.reads)
      let count := min (asked turns) o.input.length
      (∀ i, answers[i]? = turns[i]?.map fun turn =>
        (turn.1, (o.input.drop (asked (turns.take i))).take turn.2)) ∧
      delivered answers = o.input.take count ∧
      (∃ owned : List (Nat × UInt8), owned.map Prod.snd = o.input.take count ∧
        ∀ reader, received reader answers =
          (owned.filter fun x => x.1 = reader).map Prod.snd) ∧
      (∀ r, (Handle.reader r, o) ∈ s.handles →
        s.inputs.get? r.cursor = some ⟨o.input.drop count⟩) ∧
      ∀ i r max, s.handles[i]? = some (Handle.reader r, o) →
        (run (steps ++ [.read i max])).reads =
          s.reads ++ [⟨i, o, max, some ((o.input.drop count).take max)⟩]) ∧
    ∀ o : Origin,
      let turns := asks (usesOf o s.writes)
      given (usesOf o s.writes) = turns.map (fun turn => (turn.1, turn.2.length)) ∧
      (∀ b, (Handle.buffer b, o) ∈ s.handles →
        b.contents s.outputs = some (turns.flatMap Prod.snd)) ∧
      ∀ i w data, s.handles[i]? = some (Handle.writer w, o) →
        (run (steps ++ [.write i data])).writes = s.writes ++ [⟨i, o, data, some data.length⟩] := by
  intro s
  have hsound : s.Sound := sound_run steps
  refine ⟨fun o => ?_, fun o => ?_⟩
  · intro turns answers count
    have hanswers : answers = (interleaved SharedInput.read ⟨o.input⟩ turns).1 :=
      hsound.inputs.answers o
    obtain ⟨hbytes, hleft⟩ := SharedInput.delivered_interleaved ⟨o.input⟩ turns
    have htake : delivered answers = o.input.take count := by
      rw [hanswers, hbytes, List.take_eq_take_min]
    have hcell : ∀ r, (Handle.reader r, o) ∈ s.handles →
        s.inputs.get? r.cursor = some ⟨o.input.drop count⟩ := by
      intro r hr
      rw [hsound.inputs.cell _ (mem_holders hr rfl), ← List.drop_eq_drop_min, ← hleft]
    refine ⟨fun i => ?_, htake, ⟨owned answers, ?_, fun reader => received_eq reader answers⟩,
      hcell, fun i r max hi => ?_⟩
    · rw [hanswers]
      exact SharedInput.getElem?_interleaved ⟨o.input⟩ turns i
    · rw [map_snd_owned, htake]
    · rw [run_append]
      exact reads_step hi (hcell r (List.mem_of_getElem? hi)) max
  · intro turns
    have hwritten := SharedOutput.interleaved_write {} turns
    refine ⟨?_, fun b hb => ?_, fun i w data hi => ?_⟩
    · rw [hsound.outputs.answers o, hwritten]
    · rw [SharedBuffer.contents, hsound.outputs.cell _ (mem_holders hb rfl), hwritten]
      rfl
    · rw [run_append]
      exact writes_step hi (hsound.outputs.cell _ (mem_holders (List.mem_of_getElem? hi) rfl)) data

/-- A clone of a clone asks for more than there is, and another reader is used in between. -/
example :
    let s := run [.newReader [1, 2, 3], .clone 0, .newReader [9], .read 0 2, .read 2 1, .read 1 0,
      .clone 1, .read 3 5]
    given (usesOf ⟨0, [1, 2, 3]⟩ s.reads) = [(0, [1, 2]), (1, []), (3, [3])] := by decide

end Sharing

end Shell
