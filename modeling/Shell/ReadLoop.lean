import Shell.Interpreter
import Shell.Text.Grapheme

/-!
# The read loop

Lines are read from a source and evaluated until one of them ends the session or the source does.
The end of the source writes pending history just as `exit` does. A failing source ends the loop
with its reason.
-/

namespace Shell

/-- The result of one attempt to read a line. -/
inductive Line
  | input (text : String)
  /-- The line was given up; the prompt is shown again. -/
  | interrupted
  | eof
  deriving DecidableEq, Repr

/-- Where lines come from. A source has a state of its own and may use the machine's streams. -/
structure LineSource (ς : Type) where
  /-- Called before each prompt. -/
  sync : Context → ς → ς := fun _ s => s
  readLine : String → ς → Machine → Except String Line × ς × Machine
  /-- Keep a line for recall. -/
  remember : String → ς → ς := fun _ s => s

/-- What the read loop calls on, all of it in one state: a source of lines and a session. -/
structure Reading (σ : Type) where
  sync : σ → σ
  readLine : String → σ → Except String Line × σ
  remember : String → σ → σ
  /-- Evaluate a line in the session. -/
  evaluate : String → σ → Flow × σ
  /-- The input has ended, and the session with it. -/
  finish : σ → σ

/-- Read and evaluate lines. The number bounds the attempts to read. -/
def Reading.loop {σ : Type} (r : Reading σ) (prompt : String) : Nat → σ → Except String Unit × σ
  | 0, s => (.ok (), s)
  | fuel + 1, s =>
    match r.readLine prompt (r.sync s) with
    | (.error reason, s) => (.error reason, s)
    | (.ok .eof, s) => (.ok (), r.finish s)
    | (.ok .interrupted, s) => loop r prompt fuel s
    | (.ok (.input line), s) =>
      let s := if isBlankText line then s else r.remember line s
      match r.evaluate line s with
      | (.exit, s) => (.ok (), s)
      | (.next, s) => loop r prompt fuel s

section

variable {ς : Type} (programs : Programs) (source : LineSource ς)

/-- A source and a session side by side. -/
def LineSource.reading : Reading (ς × Interpreter) where
  sync x := (source.sync x.2.context x.1, x.2)
  readLine prompt x :=
    let (result, s, machine) := source.readLine prompt x.1 x.2.machine
    (result, s, { x.2 with machine })
  remember line x := (source.remember line x.1, x.2)
  evaluate line x :=
    let (flow, sh) := x.2.evaluate programs line
    (flow, x.1, sh)
  finish x := (x.1, x.2.finish)

/-- Read lines from a source and evaluate them in a session. -/
def readLoop (prompt : String) (fuel : Nat) (s : ς) (sh : Interpreter) :
    Except String Unit × ς × Interpreter :=
  (source.reading programs).loop prompt fuel (s, sh)

end

/-! ### Scripted lines -/

/-- One attempt to read from a scripted source. -/
inductive Event
  | line (text : String)
  | interrupt
  | eof
  | fail (reason : String)
  deriving DecidableEq, Repr

/-- A call that the loop makes to its source. -/
inductive Call
  | sync (workspace : String)
  | readLine (prompt : String)
  | remember (line : String)
  deriving DecidableEq, Repr

/-- A source that plays events and keeps the calls made to it, the last one first. -/
structure Scripted where
  events : List Event
  calls : List Call := []
  deriving DecidableEq, Repr

def Scripted.source : LineSource Scripted where
  sync ctx s := { s with calls := .sync ctx.workspace.text :: s.calls }
  remember line s := { s with calls := .remember line :: s.calls }
  readLine prompt s m :=
    let calls := Call.readLine prompt :: s.calls
    match s.events with
    | [] => (.ok .eof, { events := [], calls }, m)
    | e :: events =>
      let result := match e with
        | .line text => .ok (.input text)
        | .interrupt => .ok .interrupted
        | .eof => .ok .eof
        | .fail reason => .error reason
      (result, { events, calls }, m)

/-- Run the loop over a list of events, the end of which is the end of the input. -/
def runScripted (programs : Programs) (prompt : String) (events : List Event) (sh : Interpreter) :
    Except String Unit × Scripted × Interpreter :=
  readLoop programs Scripted.source prompt (events.length + 1) { events } sh

/-! ### Plain lines -/

/-- Cut the first line off some bytes, with its line feed. -/
def firstLine (bytes : Bytes) : Bytes × Bytes :=
  let line := bytes.takeWhile (· ≠ 10)
  (bytes.take (line.length + 1), bytes.drop (line.length + 1))

/-- The text of a line without the line ends after it. -/
def trimLineEnds (text : String) : String :=
  String.ofList (text.toList.reverse.dropWhile fun c => c = '\n' || c = '\r').reverse

/-- A line of plain input: nothing at all is the end of the input. -/
def plainLine (bytes : Bytes) : Except String Line :=
  if bytes.isEmpty then .ok .eof
  else match decode? bytes with
    | none => .error IoError.notText.message
    | some text => .ok (.input (trimLineEnds text))

/-- Plain input in memory, with the prompts that were printed. -/
structure Plain where
  rest : Bytes
  prompts : Bytes := []
  deriving DecidableEq, Repr

def Plain.source : LineSource Plain where
  readLine prompt s m :=
    let (line, rest) := firstLine s.rest
    (plainLine line, { rest, prompts := s.prompts ++ encode prompt }, m)

/-- Run the loop over plain input in memory. -/
def runPlain (programs : Programs) (prompt : String) (input : Bytes) (sh : Interpreter) :
    Except String Unit × Plain × Interpreter :=
  readLoop programs Plain.source prompt (input.length + 1) { rest := input } sh

/-! ### Lines of standard input -/

/-- How many bytes are taken from standard input at a time. -/
def blockSize : Nat := 8192

/-- Take a line from what was already taken, and blocks of standard input where that is not enough.
The first argument bounds the number of blocks. -/
def bufferedLine : Nat → Bytes → SharedInput → Bytes × Bytes × SharedInput
  | 0, buffer, stdin => (buffer, [], stdin)
  | fuel + 1, buffer, stdin =>
    if buffer.contains 10 then
      let (line, rest) := firstLine buffer
      (line, rest, stdin)
    else
      let (block, stdin) := stdin.read blockSize
      if block.isEmpty then (buffer, [], stdin) else bufferedLine fuel (buffer ++ block) stdin

/-- Take a line of the machine's standard input. -/
def stdinLine (buffer : Bytes) (m : Machine) : Bytes × Bytes × Machine :=
  let (line, rest, stdin) :=
    bufferedLine (m.session.stdin.rest.length + 1) buffer m.session.stdin
  (line, rest, { m with session := { m.session with stdin } })

/-- Standard input read in blocks; the state is what was taken and not used yet. Prompts go to
standard output. -/
def stdinSource : LineSource Bytes where
  readLine prompt buffer m :=
    let m := { m with session := m.session.writeOut (encode prompt) }
    let (line, rest, m) := stdinLine buffer m
    (plainLine line, rest, m)

/-- One line end, of one or two characters, is cut off a line. -/
def stripLineEnd (text : String) : String :=
  match text.toList.reverse with
  | '\n' :: '\r' :: cs => String.ofList cs.reverse
  | '\n' :: cs => String.ofList cs.reverse
  | _ => text

/-- The terminals, named by the variable `TERM`, on which no line can be edited. -/
def plainTerminals : List String := ["dumb", "cons25", "emacs"]

/-- No line can be edited on a terminal of this name. Letters count the same in both cases. -/
def isPlainTerminal (name : String) : Bool :=
  plainTerminals.contains (String.ofList (name.toList.map Char.toLower))

/-- A line editor whose input is no terminal. Backspaces take back what was typed before them. The
prompt is shown only if the terminal is named as one on which no line can be edited. -/
def editorSource (showsPrompt : Bool) : LineSource Bytes where
  readLine prompt buffer m :=
    let m := if showsPrompt then { m with session := m.session.writeOut (encode prompt) } else m
    let (line, rest, m) := stdinLine buffer m
    let result := if line.isEmpty then .ok .eof
      else match decode? line with
        | some text => .ok (.input (Grapheme.applyBackspaces (stripLineEnd text)))
        | none => .error (IoError.notText.message ++ ": " ++ IoError.notText.message)
    (result, rest, m)

/-- A session that writes to its own standard input may never come to an end of it. So many lines
are read besides those that were there at first. -/
def lineLimit : Nat := 1000000

/-- Run the loop over standard input. -/
def runStdin (programs : Programs) (source : LineSource Bytes) (prompt : String)
    (sh : Interpreter) : Except String Unit × Interpreter :=
  let (result, _, sh) :=
    readLoop programs source prompt (sh.machine.session.stdin.rest.length + lineLimit) [] sh
  (result, sh)

end Shell
