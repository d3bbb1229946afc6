import Shell.Text.Blank

/-!
# Tokens of a command line

A line is a sequence of words, pipes and redirections. It is read one character at a time by a
scanner whose state says which quotes are open and which character is still waiting for the next
one: a backslash, a digit that may name a stream, or a `>` that may be doubled.

* Outside quotes a backslash makes the next character part of a word; in double quotes it does so
  only before `"` and another backslash; in single quotes it stands for itself.
* `|`, `>` and `>>` end a word wherever they stand. A `1` or `2` right before `>` belongs to the
  operator and names the stream.
* An empty pair of quotes is an empty word. A quote that is still open at the end of the line is
  closed there, and a last lone backslash stands for itself.
-/

namespace Shell

/-- The two output streams of a command. -/
inductive OutputStream
  | stdout
  | stderr
  deriving DecidableEq, Repr

/-- How the target of a redirection is opened. -/
inductive WriteMode
  | truncate
  | append
  deriving DecidableEq, Repr

inductive Token
  | word (text : String)
  | pipe
  | redirect (stream : OutputStream) (mode : WriteMode)
  deriving DecidableEq, Repr

namespace Token

/-- What the scanner is inside of, or waiting for. -/
inductive Mode
  /-- Outside quotes. -/
  | bare
  | single
  | double
  /-- After a backslash outside quotes. -/
  | escape
  /-- After a backslash in double quotes. -/
  | doubleEscape
  /-- After a digit that names `stream` if a `>` comes next, outside quotes. -/
  | digit (stream : OutputStream)
  /-- After a first `>` for `stream`. -/
  | arrow (stream : OutputStream)
  deriving DecidableEq, Repr

/-- The state of the scanner. `word` is the word being read, in reverse, and `none` between words;
`done` holds the tokens before it, in reverse. -/
structure Scan where
  mode : Mode := .bare
  word : Option (List Char) := none
  done : List Token := []
  deriving DecidableEq, Repr

namespace Scan

/-- Add a character to the word being read. -/
def push (s : Scan) (c : Char) : Scan :=
  { s with word := some (c :: s.word.getD []) }

/-- Begin a word, possibly an empty one. -/
def begin (s : Scan) : Scan :=
  { s with word := some (s.word.getD []) }

/-- End the word being read, if there is one. -/
def finishWord (s : Scan) : Scan :=
  match s.word with
  | none => s
  | some cs => { s with word := none, done := .word (String.ofList cs.reverse) :: s.done }

/-- Add an operator; it ends the word before it. -/
def operator (s : Scan) (t : Token) : Scan :=
  let s := s.finishWord
  { s with done := t :: s.done }

/-- Go on in mode `m`. -/
def enter (s : Scan) (m : Mode) : Scan :=
  { s with mode := m }

/-- The digit that names a stream. -/
def streamDigit : OutputStream → Char
  | .stdout => '1'
  | .stderr => '2'

/-- Read a character outside quotes with nothing waiting. -/
def stepBare (s : Scan) (c : Char) : Scan :=
  if c = '\\' then s.begin.enter .escape
  else if c = '|' then (s.operator .pipe).enter .bare
  else if c = '>' then s.finishWord.enter (.arrow .stdout)
  else if c = '1' then s.enter (.digit .stdout)
  else if c = '2' then s.enter (.digit .stderr)
  else if c = '\'' then s.begin.enter .single
  else if c = '"' then s.begin.enter .double
  else if isBlank c then s.finishWord.enter .bare
  else (s.push c).enter .bare

/-- Read one character. -/
def step (s : Scan) (c : Char) : Scan :=
  match s.mode with
  | .bare => s.stepBare c
  | .single => if c = '\'' then s.enter .bare else s.push c
  | .double =>
    if c = '"' then s.enter .bare
    else if c = '\\' then s.enter .doubleEscape
    else s.push c
  | .escape => (s.push c).enter .bare
  | .doubleEscape =>
    if c = '"' ∨ c = '\\' then (s.push c).enter .double
    else ((s.push '\\').push c).enter .double
  | .digit stream =>
    if c = '>' then s.finishWord.enter (.arrow stream)
    else (s.push (streamDigit stream)).stepBare c
  | .arrow stream =>
    if c = '>' then (s.operator (.redirect stream .append)).enter .bare
    else (s.operator (.redirect stream .truncate)).stepBare c

/-- Settle what is waiting at the end of the line. -/
def close (s : Scan) : Scan :=
  match s.mode with
  | .bare | .single | .double => s.finishWord
  | .escape | .doubleEscape => (s.push '\\').finishWord
  | .digit stream => (s.push (streamDigit stream)).finishWord
  | .arrow stream => s.operator (.redirect stream .truncate)

/-- The state after reading `cs` from state `s`. -/
def run (s : Scan) (cs : List Char) : Scan :=
  cs.foldl step s

/-- The tokens of a line that ends here. -/
def tokens (s : Scan) : List Token :=
  s.close.done.reverse

/-- Outside quotes with no backslash waiting. -/
def isSettled (s : Scan) : Bool :=
  match s.mode with
  | .bare | .digit _ | .arrow _ => true
  | _ => false

@[simp] theorem run_nil (s : Scan) : s.run [] = s := rfl

@[simp] theorem run_cons (s : Scan) (c : Char) (cs : List Char) :
    s.run (c :: cs) = (s.step c).run cs := rfl

theorem run_append (s : Scan) (as bs : List Char) : s.run (as ++ bs) = (s.run as).run bs := by
  simp [run]

end Scan

/-- The text of a word token. -/
def word? : Token → Option String
  | .word text => some text
  | _ => none

end Token

/-- The tokens of a line. -/
def tokenize (line : String) : List Token :=
  (Token.Scan.run {} line.toList).tokens

/-- The words of a line, without its operators. -/
def words (line : String) : List String :=
  (tokenize line).filterMap Token.word?

end Shell
