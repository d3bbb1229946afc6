import Shell.Program.Tool

/-!
# Counting

`wc` counts lines, words and bytes.
-/

namespace Shell

namespace Program

/-- What was counted in a text. -/
structure Counts where
  lines : Nat := 0
  words : Nat := 0
  bytes : Nat := 0
  /-- The widest line. -/
  width : Nat := 0
  deriving DecidableEq, Repr

namespace Counts

/-- A text being counted: the counts, whether a word is open, and the width of the open line. -/
structure Progress where
  counts : Counts := {}
  inWord : Bool := false
  column : Nat := 0
  deriving DecidableEq, Repr

/-- A word ends. -/
def Progress.gap (p : Progress) : Progress :=
  if p.inWord then
    { p with inWord := false, counts := { p.counts with words := p.counts.words + 1 } }
  else p

/-- A line ends, as far as its width goes. -/
def Progress.widen (p : Progress) : Progress :=
  { p with counts := { p.counts with width := max p.counts.width p.column }, column := 0 }

/-- Count one byte. Bytes that cannot be printed neither make a word nor end one. -/
def Progress.step (p : Progress) (b : UInt8) : Progress :=
  if b = 10 then
    let p := p.gap.widen
    { p with counts := { p.counts with lines := p.counts.lines + 1 } }
  else if b = 13 || b = 12 then p.gap.widen
  else if b = 9 then { p.gap with column := p.column + 8 - p.column % 8 }
  else if b = 32 then { p.gap with column := p.column + 1 }
  else if b = 11 then p.gap
  else if 32 < b && b < 127 then { p with inWord := true, column := p.column + 1 }
  else p

/-- Count a text. -/
def ofBytes (bytes : Bytes) : Counts :=
  let p := (bytes.foldl Progress.step {}).gap.widen
  { p.counts with bytes := bytes.length }

def add (a b : Counts) : Counts :=
  { lines := a.lines + b.lines, words := a.words + b.words, bytes := a.bytes + b.bytes
    width := max a.width b.width }

end Counts

/-- When a line with the sums is printed. -/
inductive Totals
  | several
  | always
  | only
  | never
  deriving DecidableEq, Repr

/-- What `wc` prints. -/
structure Report where
  wanted : List Char := []
  totals : Totals := .several
  deriving DecidableEq, Repr

namespace Report

/-- The letters of the columns that are printed. -/
def columns (r : Report) : List Char :=
  if r.wanted.isEmpty then ['l', 'w', 'c']
  else ['l', 'w', 'm', 'c', 'L'].filter r.wanted.contains

/-- The number in a column. -/
def column (c : Counts) : Char → Nat
  | 'l' => c.lines
  | 'w' => c.words
  | 'L' => c.width
  | _ => c.bytes

/-- A line of numbers with a name behind them. -/
def row (r : Report) (width : Nat) (c : Counts) (name : Option String) : Bytes :=
  let numbers := r.columns.map fun l => padLeft width (toString (column c l))
  octetBytes (joinText " " numbers ++ (name.map (" " ++ ·)).getD "" ++ "\n")

end Report

def wcSwitches : Switches where
  letters := "clLmw".toList.map fun c => (c, .no)
  names := [
    { name := "bytes", letter := 'c' }, { name := "chars", letter := 'm' },
    { name := "lines", letter := 'l' }, { name := "words", letter := 'w' },
    { name := "max-line-length", letter := 'L' },
    { name := "total", need := .yes, letter := 'T' }]

/-- The meaning of a word after `--total`. -/
def totals (word : String) : Except String Totals :=
  choose "--total"
    [(["auto"], .several), (["always"], .always), (["only"], .only), (["never"], .never)] word

/-- The meanings of all words after `--total`, or the complaint about the first wrong one. -/
def allTotals (options : List Switches.Given) : Except String (List Totals) :=
  (options.filter fun o => o.1 = 'T').mapM fun o => totals (o.2.getD "")

/-- The size of an operand that is a file, or `none` for a stream; the failure if there is nothing.
-/
def operandSize (operand : String) : Task (Except Errno (Option Nat)) := do
  let size := fun (s : FileStatus) => match s.entry with
    | .file _ content => some content.length
    | _ => none
  let status ← if operand = "-" then Task.ask (.statusOf 0) else Task.ask (.inspect operand true)
  pure (status.map size)

/-- How wide the numbers are: as wide as the size of all files, and seven if there is something else
than files. -/
def countWidth (r : Report) (operands : List String) : Task Nat := do
  if operands.length ≤ 1 && r.columns.length = 1 then pure 1
  else
    let sizes ← operands.mapM operandSize
    let known := sizes.filterMap fun s => s.toOption
    let total := known.foldl (fun n s => n + s.getD 0) 0
    let least := if known.any Option.isNone then 7 else 1
    pure (max least (toString total).length)

/-- Print a line of numbers. Why it is not taken is only told if nothing could be written at all. -/
def emitCounts (inv : Invocation) (bytes : Bytes) : Task Unit := do
  match ← Task.writeAll 1 bytes with
  | .ok () => pure ()
  | .error e => do
    complain inv ("write error" ++ if e = .badDescriptor then ": " ++ e.text else "")
    Task.exit 1

/-- Count the operands one after the other. The result has the sums. -/
def countOperands (inv : Invocation) (r : Report) (width : Nat) :
    Counts → Nat → List (String × Bool) → Task (Counts × Nat)
  | sum, code, [] => pure (sum, code)
  | sum, code, (operand, named) :: rest => do
    let print := fun (c : Counts) => do
      if r.totals ≠ .only then emitCounts inv (r.row width c (if named then some operand else none))
    if operand = "" then
      complain inv "invalid zero-length file name"
      countOperands inv r width sum 1 rest
    else match ← openInput operand with
      | .error e => do
        complain inv (Quoted.name operand ++ ": " ++ e.text)
        countOperands inv r width sum 1 rest
      | .ok stream => do
        let result ← Task.readAll stream
        closeInput operand stream
        match result with
        | .error e => do
          let name := if named then Quoted.name operand else "'standard input'"
          complain inv (name ++ ": " ++ e.text)
          print {}
          countOperands inv r width sum 1 rest
        | .ok bytes => do
          let c := Counts.ofBytes bytes
          print c
          countOperands inv r width (sum.add c) code rest

/-- Count lines, words and bytes of the operands. -/
def wc (inv : Invocation) : Task Nat := do
  let given := wcSwitches.read inv.args
  match allTotals given.options with
  | .error complaint => misuse inv complaint
  | .ok totals =>
    match given.complaint with
    | some text => misuse inv text
    | none => do
      let r : Report :=
        { wanted := (given.options.map Prod.fst).filter (· ≠ 'T')
          totals := totals.getLast?.getD .several }
      let operands := orStdin given.operands
      let width ← countWidth r operands
      let named := !given.operands.isEmpty
      let (sum, code) ← countOperands inv r width {} 0 (operands.map fun o => (o, named))
      let total := r.totals = .always || r.totals = .only ||
        (r.totals = .several && operands.length > 1)
      if total then
        let width := if r.totals = .only then 1 else width
        emitCounts inv (r.row width sum (if r.totals = .only then none else some "total"))
      closeStdin inv operands "-" code

end Program

end Shell
