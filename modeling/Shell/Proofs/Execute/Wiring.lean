import Mathlib.Data.List.Nodup
import Shell.Proofs.Execute.Moments
import Shell.Proofs.Execute.Invariant
import Shell.Proofs.Machine.Apart

/-!
# Chains of stages

The stages of a pipeline form a chain. The first stage reads the input of the session, between each
two neighbours there is a pipe, and only the last stage writes to where the pipeline writes. So each
pipe has one reader and one writer, and a reader has come to the end when the stage before it is
gone.

This is shown for every host: stages are wired if as many pipes can be made as are needed, and then
they are wired in this way (`Host.wire_eq_ok_iff`). The machine can always make pipes.
-/

namespace Shell

/-! ### Ends of pipes -/

/-- An end of a pipe. -/
inductive PipeEnd
  | read (pipe : Nat)
  | write (pipe : Nat)
  deriving DecidableEq, Repr

def Source.ends : Source → List PipeEnd
  | .pipe id => [.read id]
  | _ => []

def Sink.ends : Sink → List PipeEnd
  | .pipe id => [.write id]
  | _ => []

/-- The ends of pipes that a stage with these streams holds. -/
def Streams.ends (s : Streams) : List PipeEnd :=
  s.input.ends ++ s.output.ends ++ s.errors.ends

/-! ### Chains -/

/-- Stages with these streams form a chain: the first reads `input`, each of the pipes leads from a
stage to the next one, the stages before the last write errors to the session, and the last stage
writes to the given sinks. -/
structure IsChain (input : Source) (pipes : List Nat) (output errors : Sink)
    (wiring : List Streams) : Prop where
  map_input : wiring.map Streams.input = input :: pipes.map .pipe
  map_output : wiring.map Streams.output = pipes.map .pipe ++ [output]
  map_errors : wiring.map Streams.errors = List.replicate pipes.length .sessionErr ++ [errors]

/-- The streams of such a chain. -/
def chain (output errors : Sink) (input : Source) : List Nat → List Streams
  | [] => [{ input, output, errors }]
  | pipe :: pipes =>
    { input, output := .pipe pipe, errors := .sessionErr } :: chain output errors (.pipe pipe) pipes

lemma isChain_chain (input : Source) (pipes : List Nat) (output errors : Sink) :
    IsChain input pipes output errors (chain output errors input pipes) := by
  induction pipes generalizing input with
  | nil => constructor <;> simp [chain]
  | cons pipe pipes ih =>
    obtain ⟨hinput, houtput, herrors⟩ := ih (.pipe pipe)
    constructor
    · simp [chain, hinput]
    · simp [chain, houtput]
    · simp [chain, herrors, List.replicate_succ]

lemma Streams.eq_of_maps {xs ys : List Streams} (hinput : xs.map input = ys.map input)
    (houtput : xs.map output = ys.map output) (herrors : xs.map errors = ys.map errors) :
    xs = ys := by
  induction xs generalizing ys with
  | nil => simpa using hinput.symm
  | cons x xs ih =>
    cases ys with
    | nil => simp at hinput
    | cons y ys =>
      simp only [List.map_cons, List.cons.injEq] at hinput houtput herrors
      rw [ih hinput.2 houtput.2 herrors.2]
      obtain ⟨_, _, _⟩ := x
      obtain ⟨_, _, _⟩ := y
      simp_all

/-- There is only one such chain. -/
lemma isChain_iff {input : Source} {pipes : List Nat} {output errors : Sink}
    {wiring : List Streams} :
    IsChain input pipes output errors wiring ↔ wiring = chain output errors input pipes := by
  have hchain := isChain_chain input pipes output errors
  constructor
  · intro h
    exact Streams.eq_of_maps (h.map_input.trans hchain.map_input.symm)
      (h.map_output.trans hchain.map_output.symm) (h.map_errors.trans hchain.map_errors.symm)
  · rintro rfl
    exact hchain

/-! ### Ends in a chain -/

/-- From left to right, each pipe is written to by a stage and read by the next one. -/
lemma flatMap_ends_chain (input : Source) (pipes : List Nat) (output errors : Sink) :
    (chain output errors input pipes).flatMap Streams.ends =
      input.ends ++ pipes.flatMap (fun id => [.write id, .read id]) ++ output.ends ++
        errors.ends := by
  induction pipes generalizing input with
  | nil => simp [chain, Streams.ends]
  | cons pipe pipes ih => simp [chain, Streams.ends, ih, Source.ends, Sink.ends]

lemma Source.count_ends {source : Source} {id : Nat} (h : source ≠ .pipe id) :
    source.ends.count (.read id) = 0 ∧ source.ends.count (.write id) = 0 := by
  cases source <;> simp_all [ends]

lemma Sink.count_ends {sink : Sink} {id : Nat} (h : sink ≠ .pipe id) :
    sink.ends.count (.read id) = 0 ∧ sink.ends.count (.write id) = 0 := by
  cases sink <;> simp_all [ends]

lemma count_flatMap_ends (pipes : List Nat) (id : Nat) :
    let ends := pipes.flatMap fun id => [PipeEnd.write id, .read id]
    ends.count (.read id) = pipes.count id ∧ ends.count (.write id) = pipes.count id := by
  induction pipes with
  | nil => exact ⟨rfl, rfl⟩
  | cons pipe pipes ih => simp_all [List.count_cons]

/-- Each end of the pipe is held once in all. -/
def HoldsOnce (wiring : List Streams) (pipe : Nat) : Prop :=
  (wiring.flatMap Streams.ends).count (.read pipe) = 1 ∧
    (wiring.flatMap Streams.ends).count (.write pipe) = 1

/-- If the pipes are different ones and the given streams are none of them, each end is held
once. -/
lemma IsChain.holdsOnce {input : Source} {pipes : List Nat} {output errors : Sink}
    {wiring : List Streams} (h : IsChain input pipes output errors wiring) (hnodup : pipes.Nodup)
    {id : Nat} (hid : id ∈ pipes) (hinput : input ≠ .pipe id) (houtput : output ≠ .pipe id)
    (herrors : errors ≠ .pipe id) : HoldsOnce wiring id := by
  have hone : pipes.count id = 1 := List.count_eq_one_of_mem hnodup hid
  rw [HoldsOnce, isChain_iff.mp h, flatMap_ends_chain]
  simp [count_flatMap_ends, hone, Source.count_ends hinput, Sink.count_ends houtput,
    Sink.count_ends herrors]

/-! ### Wiring -/

namespace Host

variable {σ ρ ω : Type}

/-- The host makes these pipes one after the other. -/
inductive Makes (host : Host σ ρ ω) : σ → List Nat → σ → Prop
  | nil (s : σ) : Makes host s [] s
  | cons {s s' s'' : σ} {pipe : Nat} {pipes : List Nat} (first : host.makePipe s = (.ok pipe, s'))
      (rest : Makes host s' pipes s'') : Makes host s (pipe :: pipes) s''

variable (host : Host σ ρ ω)

/-- By induction over the pipes: behind each of them the next stage reads it. -/
lemma wireFrom_of_makes {s s' : σ} {pipes : List Nat} (h : host.Makes s pipes s')
    (input : Source) (output errors : Sink) {stages : List Command}
    (hlength : pipes.length + 1 = stages.length) :
    host.wireFrom input output errors stages s = (.ok (chain output errors input pipes), s') := by
  induction h generalizing input stages with
  | nil s =>
    obtain ⟨command, rfl⟩ := List.length_eq_one_iff.mp hlength.symm
    rfl
  | cons first rest ih =>
    rcases stages with _ | ⟨command, _ | ⟨next, stages⟩⟩
    · cases hlength
    · simp at hlength
    · rw [wireFrom, bind_apply, first]
      dsimp only
      rw [bind_apply, ih _ (by simpa using hlength)]
      rfl

/-- By induction over the stages: each but the last needs a pipe. -/
lemma makes_of_wireFrom {input : Source} {output errors : Sink} {stages : List Command}
    (hne : stages ≠ []) {s s' : σ} {wiring : List Streams}
    (h : host.wireFrom input output errors stages s = (.ok wiring, s')) :
    ∃ pipes, host.Makes s pipes s' ∧ pipes.length + 1 = stages.length ∧
      wiring = chain output errors input pipes := by
  induction stages generalizing input s wiring with
  | nil => exact absurd rfl hne
  | cons command rest ih =>
    cases rest with
    | nil =>
      cases h
      exact ⟨[], .nil _, rfl, rfl⟩
    | cons next rest =>
      rw [wireFrom, bind_apply] at h
      rcases hpipe : host.makePipe s with ⟨_ | pipe, s₁⟩
      · rw [hpipe] at h
        cases h
      rw [hpipe] at h
      dsimp only at h
      rw [bind_apply] at h
      rcases hrest : host.wireFrom (.pipe pipe) output errors (next :: rest) s₁ with
        ⟨_ | wiring', s₂⟩
      · rw [hrest] at h
        cases h
      rw [hrest] at h
      cases h
      obtain ⟨pipes, hmakes, hlength, rfl⟩ := ih (by simp) hrest
      exact ⟨pipe :: pipes, .cons hpipe hmakes, by simpa using hlength, rfl⟩

/-- Wiring stages succeeds if as many pipes can be made as are needed, and makes a chain of them. -/
lemma wire_eq_ok_iff {stages : List Command} (hne : stages ≠ []) (output errors : Sink) {s s' : σ}
    {wiring : List Streams} :
    host.wire stages output errors s = (.ok wiring, s') ↔
      ∃ pipes, host.Makes s pipes s' ∧ pipes.length + 1 = stages.length ∧
        IsChain .session pipes output errors wiring := by
  constructor
  · intro h
    obtain ⟨pipes, hmakes, hlength, hwiring⟩ := host.makes_of_wireFrom hne h
    exact ⟨pipes, hmakes, hlength, isChain_iff.mpr hwiring⟩
  · rintro ⟨pipes, hmakes, hlength, hchain⟩
    rw [isChain_iff.mp hchain]
    exact host.wireFrom_of_makes hmakes .session output errors hlength

end Host

/-! ### Stages among those of a chain -/

/-- What a stage of a chain reads and writes, by its place. -/
lemma mem_zip_chain {output errors : Sink} {input : Source} {pipes : List Nat}
    {stages : List Command} (hlength : pipes.length + 1 = stages.length) {x : Command × Streams}
    (hx : x ∈ stages.zip (chain output errors input pipes)) :
    (stages.head? = some x.1 ∧ x.2.input = input ∨ ∃ id, x.2.input = .pipe id) ∧
      (stages.getLast? = some x.1 ∧ x.2.output = output ∧ x.2.errors = errors ∨
        (∃ id, x.2.output = .pipe id) ∧ x.2.errors = .sessionErr) := by
  induction pipes generalizing input stages with
  | nil =>
    obtain ⟨command, rfl⟩ := List.length_eq_one_iff.mp hlength.symm
    obtain rfl := List.mem_singleton.mp hx
    exact ⟨.inl ⟨rfl, rfl⟩, .inl ⟨rfl, rfl, rfl⟩⟩
  | cons pipe pipes ih =>
    rcases stages with _ | ⟨command, _ | ⟨next, stages⟩⟩
    · cases hlength
    · simp at hlength
    rcases List.mem_cons.mp hx with rfl | hx
    · exact ⟨.inl ⟨rfl, rfl⟩, .inr ⟨⟨pipe, rfl⟩, rfl⟩⟩
    · obtain ⟨hinput, hsinks⟩ := ih (by simpa using hlength) hx
      refine ⟨.inr ?_, ?_⟩
      · rcases hinput with ⟨-, hinput⟩ | hinput
        · exact ⟨pipe, hinput⟩
        · exact hinput
      · rw [List.getLast?_cons_cons]
        exact hsinks

/-! ### Pipes of the machine -/

namespace Machine

/-- The machine can always make pipes, and makes new ones. -/
lemma host_makes (programs : Programs) (m : Machine) (count : Nat) :
    (host programs).Makes m (List.range' m.pipes.size count)
      { m with pipes := m.pipes ++ Array.replicate count {} } := by
  induction count generalizing m with
  | zero =>
    simp only [List.range'_zero, Array.replicate_zero, Array.append_empty]
    exact .nil m
  | succ count ih =>
    have hpipes : m.pipes.push ({} : Pipe) ++ Array.replicate count ({} : Pipe) =
        m.pipes ++ Array.replicate (count + 1) ({} : Pipe) := by
      apply Array.toList_inj.mp
      simp [List.replicate_succ]
    have hrest := ih { m with pipes := m.pipes.push {} }
    rw [Array.size_push] at hrest
    rw [List.range'_succ, ← hpipes]
    exact .cons rfl hrest

/-- The pipes between these stages. -/
def pipesBetween (m : Machine) (stages : List Command) : List Nat :=
  List.range' m.pipes.size (stages.length - 1)

lemma length_pipesBetween (m : Machine) {stages : List Command} (hne : stages ≠ []) :
    (m.pipesBetween stages).length + 1 = stages.length := by
  have hpos := List.length_pos_iff.mpr hne
  rw [pipesBetween, List.length_range']
  omega

/-- Stages are wired by pipes that were not there before, and nothing else is done. -/
lemma wire_eq (programs : Programs) {stages : List Command} (hne : stages ≠ [])
    (output errors : Sink) (m : Machine) :
    (host programs).wire stages output errors m =
      (.ok (chain output errors .session (m.pipesBetween stages)),
        { m with pipes := m.pipes ++ Array.replicate (stages.length - 1) {} }) :=
  (host programs).wireFrom_of_makes (host_makes programs m _) .session output errors
    (m.length_pipesBetween hne)

/-- No sink that was there before is one of the new pipes. -/
lemma holdsOnce_chain (m : Machine) (stages : List Command) {output errors : Sink}
    (hsinks : ∀ id, output = .pipe id ∨ errors = .pipe id → id < m.pipes.size) {id : Nat}
    (hid : id ∈ m.pipesBetween stages) :
    HoldsOnce (chain output errors .session (m.pipesBetween stages)) id := by
  have hnew : m.pipes.size ≤ id := (List.mem_range'_1.mp hid).1
  refine (isChain_chain .session _ output errors).holdsOnce List.nodup_range' hid (by simp) ?_ ?_
  · rintro rfl
    exact absurd (hsinks id (.inl rfl)) (by omega)
  · rintro rfl
    exact absurd (hsinks id (.inr rfl)) (by omega)

end Machine

end Shell
