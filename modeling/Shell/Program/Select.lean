import Shell.Program.Amount
import Shell.Program.Tool
import Shell.Text.Lines

/-!
# Tools that select a part of a text

`head` and `tail` with a number of lines or bytes. A line ends at a line feed, or at a zero byte if
that is asked for.
-/

namespace Shell

namespace Program

/-- When the names of files are printed before what is selected from them. -/
inductive Headings
  | several
  | always
  | never
  deriving DecidableEq, Repr

/-- What is selected. -/
structure Selection where
  /-- The count is of lines, not of bytes. -/
  lines : Bool := true
  count : Nat := 10
  /-- Counted from the other end: for the first part, all but so many at the end, and for the last,
  all from this one on. -/
  turned : Bool := false
  headings : Headings := .several
  /-- What ends a line. -/
  ender : UInt8 := 10
  /-- Wait for more at the end. -/
  follow : Bool := false
  deriving DecidableEq, Repr

namespace Selection

/-- The lines of a text, each with what ends it. -/
def cut (s : Selection) (bytes : Bytes) : List Bytes :=
  (cutLines s.ender bytes).map fun line => if line.2 then line.1 ++ [s.ender] else line.1

/-- All but the last units. -/
def allButLast (s : Selection) (bytes : Bytes) : Bytes :=
  if s.lines then
    let pieces := s.cut bytes
    (pieces.take (pieces.length - s.count)).flatten
  else bytes.take (bytes.length - s.count)

/-- The last units, or all from one on. -/
def last (s : Selection) (bytes : Bytes) : Bytes :=
  if s.lines then
    let pieces := s.cut bytes
    (pieces.drop (if s.turned then s.count - 1 else pieces.length - s.count)).flatten
  else bytes.drop (if s.turned then s.count - 1 else bytes.length - s.count)

/-- How much of a block belongs to the first `count` lines, and how many lines are still missing. -/
def takeLines (ender : UInt8) : Nat → Bytes → Nat → Nat × Nat
  | 0, _, taken => (taken, 0)
  | count, [], taken => (taken, count)
  | count + 1, b :: rest, taken =>
    takeLines ender (if b = ender then count else count + 1) rest (taken + 1)

/-- Headings are printed for this many operands. -/
def hasHeadings (s : Selection) (operands : List String) : Bool :=
  s.headings = .always || (s.headings = .several && operands.length > 1)

/-- What a number counts, in complaints. -/
def what (lines : Bool) : String :=
  if lines then "invalid number of lines" else "invalid number of bytes"

end Selection

/-- Print what is selected. If it is not taken the tool ends. -/
def emitSelected (inv : Invocation) (bytes : Bytes) : Task Unit := do
  match ← Task.writeAll 1 bytes with
  | .ok () => pure ()
  | .error e => do
    complain inv ("error writing " ++ Quoted.always "standard output" ++ ": " ++ e.text)
    Task.exit 1

/-- The name of an operand in a heading or complaint. -/
def operandName (operand : String) : String :=
  if operand = "-" then "standard input" else operand

/-- Print the heading of an operand. -/
def printHeading (inv : Invocation) (first : Bool) (operand : String) : Task Unit :=
  emitSelected inv (octetBytes ((if first then "" else "\n") ++ "==> " ++ operandName operand ++ " <==\n"))

/-- Complain about an operand that cannot be read. -/
def readFailure (inv : Invocation) (operand : String) (e : Errno) : Task Nat :=
  fail inv ("error reading " ++ Quoted.always (operandName operand) ++ ": " ++ e.text)

/-- Do something with an operand that is open. -/
def ifOpen (inv : Invocation) (operand : String) (stream : Nat) (act : Task Nat) : Task Nat := do
  match ← Task.ask (.statusOf stream) with
  | .ok _ => act
  | .error e => fail inv ("cannot fstat " ++ Quoted.always (operandName operand) ++ ": " ++ e.text)

/-- Go through operands with headings; `select` gets the open stream of each. -/
def selectFrom (inv : Invocation) (headings : Bool) (select : String → Nat → Task Nat) :
    Bool → List String → Task Nat
  | _, [] => pure 0
  | first, operand :: rest => do
    match ← openInput operand with
    | .error e => do
      complain inv ("cannot open " ++ Quoted.always operand ++ " for reading: " ++ e.text)
      let _ ← selectFrom inv headings select first rest
      pure 1
    | .ok stream => do
      if headings then printHeading inv first operand
      let code ← select operand stream
      closeInput operand stream
      let more ← selectFrom inv headings select false rest
      pure (max code more)

/-! ### The first part -/

/-- How many bytes `head` reads at a time. -/
def headBlock : Nat := 8192

/-- Print the first lines of a stream. What was read too much is given back if it can be. -/
def firstLines (inv : Invocation) (operand : String) (ender : UInt8) (stream : Nat) :
    Nat → Nat → Task Nat
  | 0, _ => pure 0
  | _, 0 => pure 0
  | turns + 1, count => do
    match ← Task.ask (.read stream headBlock) with
    | .error e => readFailure inv operand e
    | .ok [] => pure 0
    | .ok block => do
      let (taken, missing) := Selection.takeLines ender count block 0
      if missing = 0 && taken < block.length then
        let _ ← Task.ask (.rewind stream (block.length - taken))
      emitSelected inv (block.take taken)
      firstLines inv operand ender stream turns missing

/-- Print the first bytes of a stream. -/
def firstBytes (inv : Invocation) (operand : String) (stream : Nat) : Nat → Nat → Task Nat
  | 0, _ => pure 0
  | _, 0 => pure 0
  | turns + 1, count => do
    match ← Task.ask (.read stream (min headBlock count)) with
    | .error e => readFailure inv operand e
    | .ok [] => pure 0
    | .ok block => do
      emitSelected inv block
      firstBytes inv operand stream turns (count - block.length)

/-- Print the first part of a stream. -/
def selectFirst (inv : Invocation) (s : Selection) (operand : String) (stream : Nat) :
    Task Nat := do
  if s.turned then
    ifOpen inv operand stream do
      match ← Task.readAll stream with
      | .error e => readFailure inv operand e
      | .ok bytes => do
        emitSelected inv (s.allButLast bytes)
        pure 0
  else if s.lines then firstLines inv operand s.ender stream Task.patience s.count
  else firstBytes inv operand stream Task.patience s.count

def headSwitches : Switches where
  letters := [('c', .yes), ('n', .yes), ('q', .no), ('v', .no), ('z', .no)] ++
    "0123456789".toList.map fun c => (c, .no)
  names := [
    { name := "bytes", need := .yes, letter := 'c' },
    { name := "lines", need := .yes, letter := 'n' },
    { name := "quiet", letter := 'q' }, { name := "silent", letter := 'q' },
    { name := "verbose", letter := 'v' }, { name := "zero-terminated", letter := 'z' }]

/-- The selection with an option of `head`, or a complaint and whether a hint follows it. -/
def headOption (s : Selection) : Switches.Given → Except (String × Bool) Selection
  | (c, some value) =>
    let (turned, text) := match value.toList with
      | '-' :: cs => (true, String.ofList cs)
      | _ => (false, value)
    match Amount.parse text with
    | .ok count => .ok { s with lines := c = 'n', count, turned }
    | .error e => .error (Amount.complaint (Selection.what (c = 'n')) text e, false)
  | ('q', none) => .ok { s with headings := .never }
  | ('v', none) => .ok { s with headings := .always }
  | ('z', none) => .ok { s with ender := 0 }
  | (c, none) => .error ("invalid trailing option -- " ++ String.ofList [c], true)

/-- A first argument of `head` that is a number behind a dash, with letters behind it: the
selection, or the letter that is wrong. -/
def headNumber (s : Selection) (digits : List Char) :
    List Char → List Char → Except (String × Bool) Selection
  | [], suffix =>
    let text := String.ofList (digits ++ suffix)
    match Amount.parse text with
    | .ok count => .ok { s with count }
    | .error e => .error (Amount.complaint (Selection.what s.lines) text e, false)
  | c :: rest, suffix =>
    match c with
    | 'c' => headNumber { s with lines := false } digits rest []
    | 'b' | 'k' | 'm' => headNumber { s with lines := false } digits rest [c]
    | 'l' => headNumber { s with lines := true } digits rest suffix
    | 'q' => headNumber { s with headings := .never } digits rest suffix
    | 'v' => headNumber { s with headings := .always } digits rest suffix
    | 'z' => headNumber { s with ender := 0 } digits rest suffix
    | _ => .error ("invalid trailing option -- " ++ String.ofList [c], true)

/-- The selection that the first argument of `head` makes by a number behind a dash, and the
arguments after it. -/
def headStart (args : List String) : Except (String × Bool) Selection × List String :=
  match args with
  | arg :: rest =>
    match arg.toList with
    | '-' :: d :: cs =>
      if d.isDigit then
        let digits := d :: cs.takeWhile Char.isDigit
        (headNumber {} digits (cs.dropWhile Char.isDigit) [], rest)
      else (.ok {}, args)
    | _ => (.ok {}, args)
  | [] => (.ok {}, args)

/-- Fold options into a selection up to the first that is wrong. -/
def selection (add : Selection → Switches.Given → Except (String × Bool) Selection)
    (s : Selection) : List Switches.Given → Except (String × Bool) Selection
  | [] => .ok s
  | o :: rest =>
    match add s o with
    | .error e => .error e
    | .ok s => selection add s rest

/-- Print a complaint about arguments, with a hint if `hint` is set. -/
def refuse (inv : Invocation) : String × Bool → Task Nat
  | (text, hint) => if hint then misuse inv text else fail inv text

/-- Print the first lines of the operands. -/
def head (inv : Invocation) : Task Nat := do
  let (start, args) := headStart inv.args
  let r := headSwitches.read args
  match start with
  | .error e => refuse inv e
  | .ok s =>
    match selection headOption s r.options with
    | .error e => refuse inv e
    | .ok s =>
      match r.complaint with
      | some text => misuse inv text
      | none =>
        let operands := orStdin r.operands
        let code ← selectFrom inv (s.hasHeadings operands) (selectFirst inv s) true operands
        closeStdin inv operands "-" code

/-! ### The last part -/

/-- Print what is added to a file as it is added. -/
def followStream (inv : Invocation) (stream : Nat) : Nat → Task Nat
  | 0 => pure 0
  | turns + 1 => do
    match ← Task.ask (.read stream Task.blockSize) with
    | .error _ => pure 1
    | .ok [] => do
      Task.ask (.pause 100000)
      followStream inv stream turns
    | .ok block => do
      emitSelected inv block
      followStream inv stream turns

/-- Print the last part of a stream. -/
def selectLast (inv : Invocation) (s : Selection) (operand : String) (stream : Nat) :
    Task Nat :=
  ifOpen inv operand stream do
    match ← Task.readAll stream with
    | .error e => do
      let code ← readFailure inv operand e
      if s.lines && !(s.turned && s.count ≤ 1) then pure code else Task.exit code
    | .ok bytes => do
      emitSelected inv (s.last bytes)
      if s.follow && operand ≠ "-" then followStream inv stream Task.patience else pure 0

def tailSwitches : Switches where
  letters := [('c', .yes), ('n', .yes), ('f', .no), ('F', .no), ('q', .no), ('s', .yes), ('v', .no),
    ('z', .no)] ++ "0123456789".toList.map fun c => (c, .no)
  names := [
    { name := "bytes", need := .yes, letter := 'c' },
    { name := "follow", need := .maybe, letter := 'f' },
    { name := "lines", need := .yes, letter := 'n' },
    { name := "quiet", letter := 'q' }, { name := "silent", letter := 'q' },
    { name := "sleep-interval", need := .yes, letter := 's' },
    { name := "verbose", letter := 'v' }, { name := "zero-terminated", letter := 'z' }]

/-- The selection with an option of `tail`, or a complaint and whether a hint follows it. -/
def tailOption (s : Selection) : Switches.Given → Except (String × Bool) Selection
  | ('s', some _) => .ok s
  | ('f', _) => .ok { s with follow := true }
  | ('F', _) => .ok { s with follow := true }
  | (c, some value) =>
    let turned := s.turned || value.toList.head? = some '+'
    let text := match value.toList with
      | '-' :: cs => String.ofList cs
      | _ => value
    match Amount.parse text with
    | .ok count => .ok { s with lines := c = 'n', count, turned }
    | .error e => .error (Amount.complaint (Selection.what (c = 'n')) text e, false)
  | ('q', none) => .ok { s with headings := .never }
  | ('v', none) => .ok { s with headings := .always }
  | ('z', none) => .ok { s with ender := 0 }
  | (c, none) => .error ("option used in invalid context -- " ++ String.ofList [c], false)

/-- The selection that one argument makes by a sign, a number and letters. -/
def tailNumber? (sign : Char) (cs : List Char) : Option Selection :=
  let digits := cs.takeWhile Char.isDigit
  let rest := cs.drop digits.length
  let plain := sign = '-' && (cs.isEmpty || cs = ['c'])
  if plain || (sign ≠ '-' && sign ≠ '+') then none
  else
    let (lines, unit, rest) := match rest with
      | 'b' :: cs => (false, 512, cs)
      | 'c' :: cs => (false, 1, cs)
      | 'l' :: cs => (true, 1, cs)
      | cs => (true, 1, cs)
    let (follow, rest) := match rest with
      | 'f' :: cs => (true, cs)
      | cs => (false, cs)
    if !rest.isEmpty then none
    else
      let count := (if digits.isEmpty then 10 else decimal digits) * unit
      some { lines, count, turned := sign = '+', follow }

/-- The selection that the first argument of `tail` makes by itself, if at most one operand follows,
and the arguments after it. -/
def tailStart (args : List String) : Selection × List String :=
  let fits := match args with
    | [_] => true
    | [_, "--"] => true
    | [_, "--", _] => true
    | [_, operand] => operand = "-" || operand.toList.head? ≠ some '-'
    | _ => false
  match args with
  | arg :: rest =>
    match arg.toList with
    | sign :: cs =>
      match if fits then tailNumber? sign cs else none with
      | some s => (s, rest)
      | none => ({}, args)
    | [] => ({}, args)
  | [] => ({}, args)

/-- Print the last lines of the operands. -/
def tail (inv : Invocation) : Task Nat := do
  let (s, args) := tailStart inv.args
  let r := tailSwitches.read args
  match selection tailOption s r.options with
  | .error e => refuse inv e
  | .ok s =>
    match r.complaint with
    | some text => misuse inv text
    | none =>
      let operands := orStdin r.operands
      if s.count = 0 && !s.turned && !s.follow then pure 0
      else
        let code ← selectFrom inv (s.hasHeadings operands) (selectLast inv s) true operands
        closeStdin inv operands "-" code

end Program

end Shell
