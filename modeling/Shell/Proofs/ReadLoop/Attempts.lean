import Mathlib.Data.List.TakeWhile
import Shell.Proofs.History.Session
import Shell.Proofs.Text.Lines
import Shell.ReadLoop

/-!
# Attempts to read

The read loop asks its source for a line again and again. Many sources play a list of events, one
for each attempt: scripted ones, and plain input, whose events are its lines. Over such a source the
loop comes to the session of the lines that were read before the end of the input, and what the
source hears are the attempts, each of them once. The bound on the number of attempts does not
matter, since every attempt takes an event away.
-/

namespace Shell

/-! ### The order of what is done -/

/-- Something that the read loop does. -/
inductive Deed
  | sync
  | readLine (prompt : String)
  | remember (line : String)
  | evaluate (line : String)
  | finish
  deriving DecidableEq, Repr

section

variable {σ : Type} (r : Reading σ)

/-- Everything is noted down when it is done. -/
def Reading.noting : Reading (σ × List Deed) where
  sync x := (r.sync x.1, x.2 ++ [.sync])
  readLine prompt x :=
    let (result, s) := r.readLine prompt x.1
    (result, s, x.2 ++ [.readLine prompt])
  remember line x := (r.remember line x.1, x.2 ++ [.remember line])
  evaluate line x :=
    let (flow, s) := r.evaluate line x.1
    (flow, s, x.2 ++ [.evaluate line])
  finish x := (r.finish x.1, x.2 ++ [.finish])

@[simp] lemma Reading.noting_sync (s : σ) (deeds : List Deed) :
    r.noting.sync (s, deeds) = (r.sync s, deeds ++ [.sync]) := rfl

@[simp] lemma Reading.noting_readLine (prompt : String) (s : σ) (deeds : List Deed) :
    r.noting.readLine prompt (s, deeds) =
      ((r.readLine prompt s).1, (r.readLine prompt s).2, deeds ++ [.readLine prompt]) := rfl

@[simp] lemma Reading.noting_remember (line : String) (s : σ) (deeds : List Deed) :
    r.noting.remember line (s, deeds) = (r.remember line s, deeds ++ [.remember line]) := rfl

@[simp] lemma Reading.noting_evaluate (line : String) (s : σ) (deeds : List Deed) :
    r.noting.evaluate line (s, deeds) =
      ((r.evaluate line s).1, (r.evaluate line s).2, deeds ++ [.evaluate line]) := rfl

@[simp] lemma Reading.noting_finish (s : σ) (deeds : List Deed) :
    r.noting.finish (s, deeds) = (r.finish s, deeds ++ [.finish]) := rfl

/-- By induction over the bound: what is noted makes no difference. -/
lemma Reading.loop_noting (prompt : String) (fuel : Nat) (s : σ) (deeds : List Deed) :
    let noted := r.noting.loop prompt fuel (s, deeds)
    r.loop prompt fuel s = (noted.1, noted.2.1) := by
  induction fuel generalizing s deeds with
  | zero => rfl
  | succ fuel ih =>
    simp only [loop, noting_sync, noting_readLine]
    rcases r.readLine prompt (r.sync s) with ⟨reason | line, t⟩
    · rfl
    cases line with
    | input text =>
      dsimp only
      by_cases hblank : isBlankText text = true
      · simp only [hblank, if_true, noting_evaluate]
        rcases r.evaluate text t with ⟨_ | _, u⟩
        · exact ih u _
        · rfl
      · simp only [hblank, Bool.false_eq_true, if_false, noting_remember, noting_evaluate]
        rcases r.evaluate text (r.remember text t) with ⟨_ | _, u⟩
        · exact ih u _
        · rfl
    | interrupted => exact ih t _
    | eof => rfl

end

/-! ### Attempts -/

/-- An attempt to read: the session before it, and what was read. -/
structure Attempt where
  before : Interpreter
  event : Event

namespace Attempt

/-- The line that was read. -/
def line? (a : Attempt) : Option String :=
  match a.event with
  | .line text => some text
  | _ => none

/-- The calls of an attempt: the source is told about the session and asked for a line, which it is
to keep unless the line is blank. -/
def calls (prompt : String) (a : Attempt) : List Call :=
  [.sync a.before.context.workspace.text, .readLine prompt] ++
    (a.line?.toList.filter fun text => !isBlankText text).map .remember

/-- What the loop does in an attempt. A line is kept before it is evaluated. -/
def deeds (prompt : String) (a : Attempt) : List Deed :=
  [.sync, .readLine prompt] ++ match a.event with
    | .line text => (if isBlankText text then [] else [.remember text]) ++ [.evaluate text]
    | .interrupt => []
    | .eof => [.finish]
    | .fail _ => []

/-- What these calls do to a source. -/
def heard {ς : Type} (source : LineSource ς) (prompt : String) (s : ς) (a : Attempt) : ς :=
  let s := (source.readLine prompt (source.sync a.before.context s) a.before.machine).2.1
  match a.line? with
  | none => s
  | some text => if isBlankText text then s else source.remember text s

end Attempt

/-- The line that a source was told to keep. -/
def Call.remembered? : Call → Option String
  | .remember line => some line
  | _ => none

/-- The lines that are read before the end of the input. -/
def Event.inputs : List Event → List String
  | .line text :: rest => text :: inputs rest
  | .interrupt :: rest => inputs rest
  | _ => []

variable (programs : Programs)

/-- The attempts to read that a session makes. The last one reaches the end of the input, or fails,
or reads the line that ends the session. -/
def attempts : List Event → Interpreter → List Attempt
  | .line text :: rest, sh =>
    ⟨sh, .line text⟩ :: match sh.evaluate programs text with
      | (.exit, _) => []
      | (.next, sh) => attempts rest sh
  | .interrupt :: rest, sh => ⟨sh, .interrupt⟩ :: attempts rest sh
  | .fail reason :: _, sh => [⟨sh, .fail reason⟩]
  | _, sh => [⟨sh, .eof⟩]

/-- Interrupted attempts make no difference to the others. -/
lemma attempts_filter_interrupt (events : List Event) (sh : Interpreter) :
    (attempts programs events sh).filter (fun a => a.event ≠ .interrupt) =
      attempts programs (events.filter (· ≠ .interrupt)) sh := by
  induction events generalizing sh with
  | nil => rfl
  | cons e rest ih =>
    cases e with
    | line text =>
      have hkept : (Event.line text :: rest).filter (· ≠ .interrupt) =
          .line text :: rest.filter (· ≠ .interrupt) := by simp
      rw [hkept, attempts, attempts, List.filter_cons_of_pos (by simp)]
      rcases sh.evaluate programs text with ⟨_ | _, sh'⟩
      · exact congrArg (_ :: ·) (ih sh')
      · rfl
    | interrupt => simpa [attempts] using ih sh
    | eof => simp [attempts]
    | fail reason => simp [attempts]

/-- The lines that are read are those which are evaluated. -/
lemma filterMap_line?_attempts (events : List Event) (sh : Interpreter) :
    (attempts programs events sh).filterMap Attempt.line? =
      sh.evaluated programs (Event.inputs events) := by
  induction events generalizing sh with
  | nil => rfl
  | cons e rest ih =>
    cases e with
    | line text =>
      rw [attempts, Event.inputs, Interpreter.evaluated]
      rcases sh.evaluate programs text with ⟨_ | _, sh'⟩
      · simpa [Attempt.line?] using ih sh'
      · simp [Attempt.line?]
    | interrupt => exact ih sh
    | eof => rfl
    | fail reason => rfl

lemma remembered?_calls (prompt : String) (l : List Attempt) :
    (l.flatMap (Attempt.calls prompt)).filterMap Call.remembered? =
      (l.filterMap Attempt.line?).filter fun text => !isBlankText text := by
  induction l with
  | nil => rfl
  | cons a l ih =>
    rw [List.flatMap_cons, List.filterMap_append, ih]
    cases hline : a.line? with
    | none => simp [Attempt.calls, hline, List.filterMap_cons, Call.remembered?]
    | some text =>
      cases hblank : isBlankText text <;>
        simp [Attempt.calls, hline, hblank, List.filterMap_cons, Call.remembered?]

/-! ### The end of a session -/

namespace Interpreter

/-- A session that has ended stays as it is. -/
lemma finish_finish (sh : Interpreter) : sh.finish.finish = sh.finish := by
  by_cases hexit : sh.context.exiting = true
  · rw [finish, finish, if_pos hexit, if_pos hexit]
  · cases hdetached : sh.context.detached with
    | true =>
      have hfinish : sh.finish = sh := by
        simp [finish, hexit, Context.requestExit, hdetached, pure_apply]
      rw [hfinish, hfinish]
    | false =>
      have hexit' : sh.finish.context.exiting = true := by
        simp only [finish, hexit, Context.requestExit, hdetached, Bool.false_eq_true, if_false,
          bind_apply]
        rfl
      rw [finish, if_pos hexit']

variable {programs}

/-- The line that ends the session does so at once. -/
lemma session_exit {line : String} {rest : List String} {sh sh' : Interpreter}
    (h : sh.evaluate programs line = (.exit, sh')) :
    sh.session programs (line :: rest) = sh' := by
  have hflow := flow_evaluate programs line sh
  rw [h] at hflow
  rw [session, evaluateAll, h, finish, if_pos ((flow_eq_exit_iff sh').mp hflow.symm)]

lemma session_next {line : String} {rest : List String} {sh sh' : Interpreter}
    (h : sh.evaluate programs line = (.next, sh')) :
    sh.session programs (line :: rest) = sh'.session programs rest := by
  rw [session, evaluateAll, h, session]

end Interpreter

/-! ### Sources that play events -/

/-- What reading gives for an event. -/
def Event.result : Event → Except String Line
  | .line text => .ok (.input text)
  | .interrupt => .ok .interrupted
  | .eof => .ok .eof
  | .fail reason => .error reason

/-- A source reads one event after the other, and the end of the input after the last. Which events
are left is known from its state. It does nothing to the machine. -/
structure LineSource.Plays {ς : Type} (source : LineSource ς) (events : ς → List Event) : Prop where
  sync : ∀ ctx s, events (source.sync ctx s) = events s
  remember : ∀ line s, events (source.remember line s) = events s
  read : ∀ prompt s m,
    (source.readLine prompt s m).1 = ((events s).head?.getD .eof).result ∧
    events (source.readLine prompt s m).2.1 = (events s).tail ∧
    (source.readLine prompt s m).2.2 = m

section

variable {ς : Type} {source : LineSource ς} {events : ς → List Event}

lemma LineSource.Plays.events_heard (h : source.Plays events) (prompt : String) (s : ς)
    (a : Attempt) : events (a.heard source prompt s) = (events s).tail := by
  have hread := (h.read prompt (source.sync a.before.context s) a.before.machine).2.1
  rw [h.sync] at hread
  rw [Attempt.heard, ← hread]
  cases a.line? with
  | none => rfl
  | some text =>
    dsimp only
    split
    · rfl
    · exact h.remember text _

/-- One attempt of the loop. -/
lemma LineSource.Plays.noting_succ (h : source.Plays events) (prompt : String) (fuel : Nat)
    (s : ς) (sh : Interpreter) (deeds : List Deed) :
    let loop := (source.reading programs).noting.loop prompt
    let e := (events s).head?.getD .eof
    let a : Attempt := ⟨sh, e⟩
    let s' := a.heard source prompt s
    let deeds' := deeds ++ a.deeds prompt
    loop (fuel + 1) ((s, sh), deeds) =
      match e with
      | .line text =>
        match sh.evaluate programs text with
        | (.exit, sh') => (.ok (), (s', sh'), deeds')
        | (.next, sh') => loop fuel ((s', sh'), deeds')
      | .interrupt => loop fuel ((s', sh), deeds')
      | .eof => (.ok (), (s', sh.finish), deeds')
      | .fail reason => (.error reason, (s', sh), deeds') := by
  intro loop e a s' deeds'
  obtain ⟨hresult, -, hmachine⟩ := h.read prompt (source.sync sh.context s) sh.machine
  rw [h.sync] at hresult
  simp only [loop, deeds', s', a, Attempt.heard, Attempt.deeds]
  rcases hread : source.readLine prompt (source.sync sh.context s) sh.machine with ⟨r, t, m⟩
  rw [hread] at hresult hmachine
  obtain rfl : r = e.result := hresult
  obtain rfl : m = sh.machine := hmachine
  have hline : (source.reading programs).readLine prompt ((source.reading programs).sync (s, sh)) =
      (e.result, t, sh) := by
    simp only [LineSource.reading, hread]
  simp only [Reading.loop, Reading.noting_sync, Reading.noting_readLine, hline]
  cases e with
  | line text =>
    have hevaluate : ∀ s, (source.reading programs).evaluate text (s, sh) =
        ((sh.evaluate programs text).1, s, (sh.evaluate programs text).2) := fun _ => rfl
    have hremember : (source.reading programs).remember text (t, sh) =
        (source.remember text t, sh) := rfl
    cases hblank : isBlankText text
    all_goals
      simp only [Event.result, Attempt.line?, hblank, Reading.noting_remember,
        Reading.noting_evaluate, hremember, hevaluate, Bool.false_eq_true, if_false, if_true,
        List.append_assoc, List.nil_append, List.cons_append]
      rcases sh.evaluate programs text with ⟨_ | _, sh'⟩ <;> rfl
  | interrupt => simp [Event.result, Attempt.line?]
  | eof =>
    simp only [Event.result, Attempt.line?, Reading.noting_finish, List.append_assoc,
      List.cons_append, List.nil_append]
    rfl
  | fail reason => simp [Event.result, Attempt.line?]

/-- By induction over the events that are left: the loop goes through them as the session does, and
does in each attempt what there is to be done. -/
lemma LineSource.Plays.noting_eq (h : source.Plays events) (prompt : String) {fuel : Nat} {s : ς}
    (hfuel : (events s).length < fuel) (hfail : ∀ reason, Event.fail reason ∉ events s)
    (sh : Interpreter) (deeds : List Deed) :
    let made := attempts programs (events s) sh
    (source.reading programs).noting.loop prompt fuel ((s, sh), deeds) =
      (.ok (), (made.foldl (Attempt.heard source prompt) s,
        sh.session programs (Event.inputs (events s))),
        deeds ++ made.flatMap (Attempt.deeds prompt)) := by
  generalize htodo : events s = todo at hfuel hfail
  induction todo generalizing fuel s sh deeds with
  | nil =>
    obtain ⟨fuel, rfl⟩ := Nat.exists_eq_succ_of_ne_zero (Nat.ne_zero_of_lt hfuel)
    rw [h.noting_succ, htodo]
    rfl
  | cons e rest ih =>
    obtain ⟨fuel, rfl⟩ := Nat.exists_eq_succ_of_ne_zero (Nat.ne_zero_of_lt hfuel)
    have hrest : ∀ a : Attempt, events (a.heard source prompt s) = rest := by
      intro a
      rw [h.events_heard, htodo, List.tail_cons]
    have hfuel' : rest.length < fuel := by simpa using hfuel
    have hfail' : ∀ reason, Event.fail reason ∉ rest :=
      fun reason hmem => hfail reason (List.mem_cons_of_mem _ hmem)
    rw [h.noting_succ, htodo, List.head?_cons, Option.getD_some]
    cases e with
    | line text =>
      dsimp only
      rw [attempts, Event.inputs]
      rcases heval : sh.evaluate programs text with ⟨_ | _, sh'⟩
      · rw [Interpreter.session_next heval, List.foldl_cons, List.flatMap_cons, ← List.append_assoc]
        exact ih sh' _ (hrest _) hfuel' hfail'
      · rw [Interpreter.session_exit heval]
        simp
    | interrupt =>
      dsimp only
      rw [attempts, List.foldl_cons, List.flatMap_cons, ← List.append_assoc]
      exact ih sh _ (hrest _) hfuel' hfail'
    | eof => simp [attempts, Interpreter.session, Interpreter.evaluateAll, Event.inputs]
    | fail reason => exact absurd List.mem_cons_self (hfail reason)

theorem LineSource.Plays.readLoop_eq (h : source.Plays events) (prompt : String) {fuel : Nat}
    {s : ς} (hfuel : (events s).length < fuel) (hfail : ∀ reason, Event.fail reason ∉ events s)
    (sh : Interpreter) :
    readLoop programs source prompt fuel s sh =
      (.ok (), (attempts programs (events s) sh).foldl (Attempt.heard source prompt) s,
        sh.session programs (Event.inputs (events s))) := by
  rw [readLoop, Reading.loop_noting _ prompt fuel (s, sh) [],
    h.noting_eq programs prompt hfuel hfail]

end

/-! ### Scripted lines -/

lemma Scripted.plays : Scripted.source.Plays Scripted.events where
  sync _ _ := rfl
  remember _ _ := rfl
  read prompt s m := by
    rcases s with ⟨_ | ⟨e, rest⟩, calls⟩
    · exact ⟨rfl, rfl, rfl⟩
    · cases e <;> exact ⟨rfl, rfl, rfl⟩

lemma Scripted.calls_heard (prompt : String) (s : Scripted) (a : Attempt) :
    (a.heard Scripted.source prompt s).calls.reverse = s.calls.reverse ++ a.calls prompt := by
  have hread : ∀ m, (Scripted.source.readLine prompt
      (Scripted.source.sync a.before.context s) m).2.1.calls =
        .readLine prompt :: .sync a.before.context.workspace.text :: s.calls := by
    intro m
    rcases s with ⟨_ | ⟨e, rest⟩, calls⟩ <;> rfl
  rw [Attempt.heard, Attempt.calls]
  cases hline : a.line? with
  | none => simp [hread]
  | some text =>
    have hremember : ∀ s, (Scripted.source.remember text s).calls = .remember text :: s.calls :=
      fun _ => rfl
    cases hblank : isBlankText text <;> simp [hblank, hread, hremember]

lemma Scripted.calls_foldl_heard (prompt : String) (l : List Attempt) (s : Scripted) :
    (l.foldl (Attempt.heard Scripted.source prompt) s).calls.reverse =
      s.calls.reverse ++ l.flatMap (Attempt.calls prompt) := by
  induction l generalizing s with
  | nil => simp
  | cons a l ih => rw [List.foldl_cons, ih, calls_heard, List.flatMap_cons, List.append_assoc]

/-! ### Plain lines -/

/-- The event of a line of bytes. -/
def Plain.event (line : Bytes) : Event :=
  match decode? line with
  | none => .fail IoError.notText.message
  | some text => .line (trimLineEnds text)

/-- The events of plain input are its lines. -/
def Plain.events (s : Plain) : List Event :=
  (byteLines s.rest).map Plain.event

/-- The lines of a text, each without the line feed and the carriage returns at its end. -/
def inputLines (text : String) : List String :=
  (cutLines '\n' text.toList).map fun line =>
    trimLineEnds (String.ofList (if line.2 then line.1 ++ ['\n'] else line.1))

/-- Cutting the first line off leaves the others. -/
lemma byteLines_eq {bytes : Bytes} (hne : bytes ≠ []) :
    byteLines bytes = (firstLine bytes).1 :: byteLines (firstLine bytes).2 := by
  have htake : ∀ {line : Bytes}, 10 ∉ line → ∀ b ∈ line, decide (b ≠ 10) = true := by
    intro line hline b hb
    exact decide_eq_true (ne_of_mem_of_not_mem hb hline)
  by_cases hmem : 10 ∈ bytes
  · obtain ⟨line, rest, rfl, hline⟩ := List.eq_append_cons_of_mem hmem
    rw [firstLine, List.takeWhile_append_of_pos (htake hline)]
    simp [byteLines, cutLines_line hline, List.take_append, List.drop_append,
      List.take_of_length_le, List.drop_of_length_le]
  · rw [firstLine, List.takeWhile_eq_self_iff.mpr (htake hmem)]
    have hnil : cutLines (10 : UInt8) [] = [] := rfl
    simp [byteLines, cutLines_of_notMem hmem, hne, List.take_of_length_le, List.drop_of_length_le,
      hnil]

lemma length_byteLines_le (bytes : Bytes) : (byteLines bytes).length ≤ bytes.length := by
  rw [byteLines, List.length_map]
  induction bytes using lines_induction (10 : UInt8) with
  | last line hline =>
    rw [cutLines_of_notMem hline]
    split
    · simp
    · exact List.length_pos_iff.mpr ‹_›
  | line line rest hline ih =>
    rw [cutLines_line hline, List.length_cons, List.length_append, List.length_cons]
    omega

lemma Plain.plays : Plain.source.Plays Plain.events where
  sync _ _ := rfl
  remember _ _ := rfl
  read prompt s m := by
    by_cases hrest : s.rest = []
    · simp [source, events, hrest, firstLine, plainLine, byteLines, cutLines, cutLinesFrom,
        Event.result]
    · have hline : (firstLine s.rest).1 ≠ [] := by simp [firstLine, hrest]
      refine ⟨?_, ?_, rfl⟩
      · rw [events, byteLines_eq hrest, List.map_cons, List.head?_cons, Option.getD_some, event]
        change plainLine (firstLine s.rest).1 = _
        rw [plainLine, if_neg (by simpa using hline)]
        cases decode? (firstLine s.rest).1 <;> rfl
      · rw [events, events, byteLines_eq hrest]
        rfl

/-- A text that is read as plain input has no malformed line. -/
lemma Plain.events_encode (text : String) (prompts : Bytes) :
    Plain.events { rest := encode text, prompts } = (inputLines text).map .line := by
  rw [events, byteLines, cutLines_encode, inputLines, List.map_map, List.map_map, List.map_map]
  refine List.map_congr_left fun line _ => ?_
  obtain ⟨line, ended⟩ := line
  have hfeed : encode (String.ofList line) ++ [10] = encode (String.ofList (line ++ ['\n'])) := by
    rw [String.ofList_append, encode_append]
    rfl
  cases ended <;> simp [event, hfeed, decode?_encode]

lemma Event.inputs_map_line (lines : List String) : inputs (lines.map .line) = lines := by
  induction lines with
  | nil => rfl
  | cons line rest ih => rw [List.map_cons, inputs, ih]

lemma Plain.prompts_foldl_heard (prompt : String) (l : List Attempt) (s : Plain) :
    (l.foldl (Attempt.heard Plain.source prompt) s).prompts =
      s.prompts ++ (List.replicate l.length (encode prompt)).flatten := by
  induction l generalizing s with
  | nil => simp
  | cons a l ih =>
    have hheard : (a.heard Plain.source prompt s).prompts = s.prompts ++ encode prompt := by
      rw [Attempt.heard]
      cases a.line? with
      | none => rfl
      | some text => cases hblank : isBlankText text <;> simp [hblank, source]
    rw [List.foldl_cons, ih, hheard, List.length_cons, List.replicate_succ, List.flatten_cons,
      List.append_assoc]

/-! ### Runs of the loop -/

/-- Over a text the loop evaluates the lines of the text, and over a list of events without a
failure those that are read before the end of the input; in both cases up to the first line that
ends the session, and otherwise it ends the session itself. For each attempt it prints the prompt,
or tells the source about the session, asks for a line and has it kept unless it is blank; then it
evaluates the line.
Interrupted attempts make no difference to the session and to the other attempts. When the loop has
ended there is nothing left to be done at the end of the session. -/
theorem readLoop_attempts (prompt : String) (sh : Interpreter) :
    (∀ (text : String) (fuel : Nat), (encode text).length < fuel →
      let r := readLoop programs Plain.source prompt fuel { rest := encode text } sh
      let made := attempts programs ((inputLines text).map .line) sh
      r.1 = .ok () ∧ r.2.2 = sh.session programs (inputLines text) ∧ r.2.2.finish = r.2.2 ∧
      made.filterMap Attempt.line? = sh.evaluated programs (inputLines text) ∧
      r.2.1.prompts = (List.replicate made.length (encode prompt)).flatten ∧
      ((Plain.source.reading programs).noting.loop prompt fuel
        (({ rest := encode text }, sh), [])).2.2 = made.flatMap (Attempt.deeds prompt)) ∧
    (∀ (events : List Event) (fuel : Nat), (∀ reason, Event.fail reason ∉ events) →
      events.length < fuel →
      let r := readLoop programs Scripted.source prompt fuel { events } sh
      let lines := Event.inputs events
      r.1 = .ok () ∧ r.2.2 = sh.session programs lines ∧ r.2.2.finish = r.2.2 ∧
      r.2.1.calls.reverse = (attempts programs events sh).flatMap (Attempt.calls prompt) ∧
      r.2.1.calls.reverse.filterMap Call.remembered? =
        ((sh.evaluated programs lines).filter fun text => !isBlankText text) ∧
      ((Scripted.source.reading programs).noting.loop prompt fuel (({ events }, sh), [])).2.2 =
        (attempts programs events sh).flatMap (Attempt.deeds prompt)) ∧
    ∀ events : List Event,
      Event.inputs (events.filter (· ≠ .interrupt)) = Event.inputs events ∧
      attempts programs (events.filter (· ≠ .interrupt)) sh =
        (attempts programs events sh).filter fun a => a.event ≠ .interrupt := by
  refine ⟨fun text fuel hfuel => ?_, fun events fuel hfail hfuel => ?_, fun events => ⟨?_, ?_⟩⟩
  · have hevents := Plain.events_encode text []
    have hbound : (Plain.events { rest := encode text }).length < fuel := by
      rw [Plain.events, List.length_map]
      exact (length_byteLines_le _).trans_lt hfuel
    have hfail : ∀ reason, Event.fail reason ∉ Plain.events { rest := encode text } := by
      simp [hevents]
    have hrun := Plain.plays.readLoop_eq programs prompt hbound hfail sh
    have hnoted := Plain.plays.noting_eq programs prompt hbound hfail sh []
    rw [hevents, Event.inputs_map_line] at hrun hnoted
    simp only [hrun, hnoted, List.nil_append]
    refine ⟨trivial, trivial, Interpreter.finish_finish _, ?_, ?_, trivial⟩
    · rw [filterMap_line?_attempts, Event.inputs_map_line]
    · rw [Plain.prompts_foldl_heard, List.nil_append]
  · have hrun := Scripted.plays.readLoop_eq programs prompt (s := { events }) hfuel hfail sh
    have hnoted := Scripted.plays.noting_eq programs prompt (s := { events }) hfuel hfail sh []
    simp only [hrun, hnoted, Scripted.calls_foldl_heard, List.reverse_nil, List.nil_append]
    refine ⟨trivial, trivial, Interpreter.finish_finish _, trivial, ?_, trivial⟩
    rw [remembered?_calls, filterMap_line?_attempts]
  · induction events with
    | nil => rfl
    | cons e rest ih => cases e <;> simp_all [Event.inputs]
  · exact (attempts_filter_interrupt programs events sh).symm

/-- A line that is blank, an interrupted attempt, and the line that ends the session: the source
hears of each, and it is not asked again. -/
theorem readLoop_attempts_exit :
    let sh : Interpreter :=
      { context := { workspace := .root }, machine := { files := { entries := [] } } }
    let programs : Programs := fun _ _ => .exit 0
    let plain := readLoop programs Plain.source "$ " 12 { rest := encode "exit\r\nexit" } sh
    let events : List Event := [.line " ", .interrupt, .line "exit", .line "exit"]
    let scripted := readLoop programs Scripted.source "$ " 5 { events } sh
    plain.1 = .ok () ∧ plain.2.1.prompts = encode "$ " ∧ scripted.1 = .ok () ∧
    scripted.2.1.calls.reverse =
      [.sync "/", .readLine "$ ", .sync "/", .readLine "$ ", .sync "/", .readLine "$ ",
        .remember "exit"] := by
  intro sh programs plain events scripted
  obtain ⟨hplain, hscripted, -⟩ := readLoop_attempts programs "$ " sh
  obtain ⟨hok, -, -, -, hprompts, -⟩ := hplain "exit\r\nexit" 12 (by decide)
  obtain ⟨hok', -, -, hcalls, -⟩ := hscripted events 5 (by simp [events]) (by decide)
  refine ⟨hok, ?_, hok', ?_⟩
  · rw [hprompts]
    rfl
  · rw [hcalls]
    rfl

end Shell
