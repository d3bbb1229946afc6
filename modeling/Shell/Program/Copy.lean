import Shell.Program.Tool
import Shell.Text.Floating

/-!
# Tools that pass text on or make it up

`cat`, `yes`, and the programs without output: `true`, `false` and `sleep`.
-/

namespace Shell

namespace Program

/-! ### Copying -/

/-- What `cat` shows beside the text. -/
structure Display where
  number : Bool := false
  /-- Lines with nothing on them get no number. -/
  numberFilled : Bool := false
  squeeze : Bool := false
  ends : Bool := false
  tabs : Bool := false
  control : Bool := false
  deriving DecidableEq, Repr

namespace Display

/-- Text is passed on unchanged. -/
def isPlain (d : Display) : Bool :=
  !(d.number || d.numberFilled || d.squeeze || d.ends || d.tabs || d.control)

/-- The display with an option added. -/
def add (d : Display) (option : Char) : Display :=
  match option with
  | 'A' => { d with control := true, ends := true, tabs := true }
  | 'b' => { d with number := true, numberFilled := true }
  | 'e' => { d with control := true, ends := true }
  | 'E' => { d with ends := true }
  | 'n' => { d with number := true }
  | 's' => { d with squeeze := true }
  | 't' => { d with control := true, tabs := true }
  | 'T' => { d with tabs := true }
  | 'v' => { d with control := true }
  | _ => d

/-- Where the text has got to. -/
structure Place where
  line : Nat := 0
  /-- How many line feeds came last, or `none` inside a line. The start counts as after a line. -/
  feeds : Option Nat := some 0
  /-- A carriage return that is not shown yet. -/
  heldReturn : Bool := false
  deriving DecidableEq, Repr

/-- A byte as it is shown. -/
def shown (d : Display) (b : UInt8) : Bytes :=
  let caret := fun (n : Nat) => [94, (n ^^^ 64).toUInt8]
  let n := b.toNat
  if n = 9 then if d.tabs then caret n else [b]
  else if !d.control then [b]
  else if n < 32 || n = 127 then caret n
  else if n < 127 then [b]
  else
    let low := n - 128
    [77, 45] ++ (if low < 32 || low = 127 then caret low else [low.toUInt8])

/-- The number of a line. -/
def numberText (line : Nat) : Bytes :=
  octetBytes (padLeft 6 (toString line) ++ "\t")

/-- Show one byte of text. -/
def step (d : Display) (p : Place) (b : UInt8) : Bytes × Place :=
  if b = 10 then
    let feeds := match p.feeds with
      | none => 0
      | some n => n + 1
    if d.squeeze && feeds ≥ 2 then ([], { p with feeds := some 2 })
    else
      let numbered := feeds > 0 && d.number && !d.numberFilled
      let line := if numbered then p.line + 1 else p.line
      let held : Bytes := if p.heldReturn then (if d.ends then [94, 77] else [13]) else []
      ((if numbered then numberText line else []) ++ held ++ (if d.ends then [36] else []) ++ [10],
        { line, feeds := some (min feeds 2) })
  else
    let numbered := p.feeds.isSome && d.number
    let line := if numbered then p.line + 1 else p.line
    let head : Bytes := (if p.heldReturn then [13] else []) ++
      (if numbered then numberText line else [])
    if b = 13 && d.ends && !d.control then (head, { line, feeds := none, heldReturn := true })
    else (head ++ d.shown b, { line, feeds := none })

/-- Show some text. -/
def render (d : Display) (p : Place) (bytes : Bytes) : Bytes × Place :=
  let (done, p) := bytes.foldl (fun (acc : Bytes × Place) b =>
    let (text, p) := d.step acc.2 b
    (text.reverse ++ acc.1, p)) ([], p)
  (done.reverse, p)

end Display

/-- Copy a stream to its end. -/
def copyStream (inv : Invocation) (operand : String) (d : Display) (stream : Nat) :
    Nat → Display.Place → Task (Nat × Display.Place)
  | 0, p => pure (0, p)
  | turns + 1, p => do
    match ← Task.ask (.read stream Task.blockSize) with
    | .error e => do
      complain inv (Quoted.name operand ++ ": " ++ e.text)
      pure (1, p)
    | .ok [] => pure (0, p)
    | .ok block =>
      if d.isPlain then do
        emit inv block
        copyStream inv operand d stream turns p
      else do
        let (text, p) := d.render p block
        emit inv text
        copyStream inv operand d stream turns p

/-- A stream is the file that standard output goes to, and is not read to its end yet. -/
def isOwnOutput (stream : Nat) : Task Bool := do
  match ← Task.ask (.statusOf stream), ← Task.ask (.statusOf 1) with
  | .ok source, .ok target =>
    match source.entry with
    | .file _ content =>
      pure (source.location == target.location && source.location.isSome &&
        source.offset < content.length)
    | _ => pure false
  | _, _ => pure false

/-- Copy one operand. A file is not copied to itself. -/
def copyOperand (inv : Invocation) (d : Display) (p : Display.Place) (operand : String) :
    Task (Nat × Display.Place) := do
  match ← openInput operand with
  | .error e => do
    complain inv (Quoted.name operand ++ ": " ++ e.text)
    pure (1, p)
  | .ok stream => do
    if ← isOwnOutput stream then
      complain inv (Quoted.name operand ++ ": input file is output file")
      closeInput operand stream
      pure (1, p)
    else
      let result ← copyStream inv operand d stream Task.patience p
      closeInput operand stream
      pure result

/-- Copy operands one after the other. -/
def copyOperands (inv : Invocation) (d : Display) : Display.Place → List String → Task Nat
  | p, [] => do
    if p.heldReturn then emit inv [13]
    pure 0
  | p, operand :: rest => do
    let (code, p) ← copyOperand inv d p operand
    let more ← copyOperands inv d p rest
    pure (max code more)

def catSwitches : Switches where
  letters := "benstuvAET".toList.map fun c => (c, .no)
  names := [
    { name := "number-nonblank", letter := 'b' }, { name := "number", letter := 'n' },
    { name := "squeeze-blank", letter := 's' }, { name := "show-nonprinting", letter := 'v' },
    { name := "show-ends", letter := 'E' }, { name := "show-tabs", letter := 'T' },
    { name := "show-all", letter := 'A' }]

/-- Copy the operands, or standard input, to standard output. -/
def cat (inv : Invocation) : Task Nat := do
  let r := catSwitches.read inv.args
  match r.complaint with
  | some text => misuse inv text
  | none =>
    match ← Task.ask (.statusOf 1) with
    | .error e => fail inv ("standard output: " ++ e.text)
    | .ok _ => do
      let operands := orStdin r.operands
      let code ← copyOperands inv (r.options.foldl (fun d o => d.add o.1) {}) {} operands
      closeStdin inv operands "closing standard input" code

/-! ### Making text up -/

/-- Write the same bytes over and over until they are not taken. -/
def repeatForever (inv : Invocation) (bytes : Bytes) : Nat → Task Nat
  | 0 => pure 0
  | turns + 1 => do
    match ← Task.writeAll 1 bytes with
    | .error e => fail inv ("standard output: " ++ e.text)
    | .ok () => repeatForever inv bytes turns

/-- How many bytes `yes` writes at a time at least. -/
def yesBlock : Nat := 8192

/-- Print the arguments, or `y`, over and over. -/
def yes (inv : Invocation) : Task Nat :=
  let r := ({ letters := [] } : Switches).read inv.args
  match r.complaint with
  | some text => misuse inv text
  | none =>
    let line := if r.operands.isEmpty then "y" else joinText " " r.operands
    let bytes := octetBytes (line ++ "\n")
    repeatForever inv (List.replicate (yesBlock / bytes.length + 1) bytes).flatten Task.patience

/-! ### Time -/

/-- How many microseconds a unit of time has. -/
def unitMicros? : Char → Option Nat
  | 's' => some 1000000
  | 'm' => some 60000000
  | 'h' => some 3600000000
  | 'd' => some 86400000000
  | _ => none

/-- The microseconds of a time: a number and perhaps a unit. -/
def duration? (text : String) : Option Nat :=
  match Floating.read? Floating.extended text.toList with
  | none => none
  | some (x, rest) =>
    let unit := match rest with
      | [] => some 1000000
      | [u] => unitMicros? u
      | _ => none
    match x, unit with
    | .finite negative m e, some u =>
      if negative && m ≠ 0 then none
      else
        let (num, den) := Floating.ratio m e
        some (num * u / den)
    | .infinite false, some _ => some (Nat.pow 10 20)
    | _, _ => none

/-- Wait for the sum of the durations. -/
def sleep (inv : Invocation) : Task Nat := do
  let r := ({ letters := [] } : Switches).read inv.args
  match r.complaint with
  | some text => misuse inv text
  | none =>
    if r.operands.isEmpty then misuse inv "missing operand"
    else
      let wrong := r.operands.filter fun a => (duration? a).isNone
      if !wrong.isEmpty then
        wrong.forM fun a => complain inv ("invalid time interval " ++ Quoted.argument a)
        say (tryHelp inv)
        pure 1
      else
        let micros := r.operands.foldl (fun n a => n + (duration? a).getD 0) 0
        Task.ask (.pause micros)
        pure 0

end Program

end Shell
