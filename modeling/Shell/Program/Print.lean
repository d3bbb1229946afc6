import Shell.Program.Tool
import Shell.Text.Directive
import Shell.Text.Number

/-!
# Printing by a format

`printf` writes its arguments by a format, which is gone through again until all are used.
-/

namespace Shell

namespace Program

namespace Print

/-! ### Escapes -/

/-- What a backslash and what follows it stand for. -/
inductive Escape
  | byte (value : Nat)
  | text (chars : List Char)
  /-- All output ends here. -/
  | stop
  /-- A digit is missing. -/
  | malformed
  deriving DecidableEq, Repr

/-- The byte that a letter after a backslash stands for. -/
def escapeLetter? : Char → Option Nat
  | 'a' => some 7
  | 'b' => some 8
  | 'e' => some 27
  | 'f' => some 12
  | 'n' => some 10
  | 'r' => some 13
  | 't' => some 9
  | 'v' => some 11
  | '\\' => some 92
  | '"' => some 34
  | _ => none

def isOctal (c : Char) : Bool := '0' ≤ c && c ≤ '7'

def isHex (c : Char) : Bool := isDigitIn 16 c

/-- A code point, written as it is done where only ASCII can be shown. -/
def codePoint (n : Nat) : List Char :=
  if n < 128 then [Char.ofNat n]
  else
    let digits := (Nat.toDigits 16 n).map Char.toUpper
    let width := if n < 0x10000 then 4 else 8
    ['\\', if n < 0x10000 then 'u' else 'U'] ++ List.replicate (width - digits.length) '0' ++ digits

/-- The escape behind a backslash and what follows it. With `leadingZero`, a zero may stand before
three octal digits. -/
def escape (leadingZero : Bool) (cs : List Char) : Escape × List Char :=
  match cs with
  | [] => (.text ['\\'], [])
  | c :: rest =>
    if c = 'c' then (.stop, [])
    else if c = 'x' then
      let ds := (rest.take 2).takeWhile isHex
      if ds.isEmpty then (.malformed, rest) else (.byte (numeral 16 ds), rest.drop ds.length)
    else if c = 'u' || c = 'U' then
      let count := if c = 'u' then 4 else 8
      let ds := (rest.take count).takeWhile isHex
      if ds.length < count then (.malformed, rest)
      else (.text (codePoint (numeral 16 ds)), rest.drop count)
    else if isOctal c then
      let ds := if leadingZero && c = '0' then rest else cs
      let taken := (ds.take 3).takeWhile isOctal
      (.byte (numeral 8 taken % 256), ds.drop taken.length)
    else match escapeLetter? c with
      | some b => (.byte b, rest)
      | none => (.text ['\\', c], rest)

/-- Text with its escapes resolved. The flag tells that output ends; `none` is a malformed escape.
-/
def unescape (leadingZero : Bool) : Nat → List Char → List Char → Option (List Char × Bool)
  | 0, done, _ => some (done.reverse, false)
  | _ + 1, done, [] => some (done.reverse, false)
  | fuel + 1, done, '\\' :: cs =>
    match escape leadingZero cs with
    | (.byte b, rest) => unescape leadingZero fuel (Char.ofNat b :: done) rest
    | (.text t, rest) => unescape leadingZero fuel (t.reverse ++ done) rest
    | (.stop, _) => some (done.reverse, true)
    | (.malformed, _) => none
  | fuel + 1, done, c :: cs => unescape leadingZero fuel (c :: done) cs

/-! ### Formats -/

/-- A width or precision. -/
inductive Size
  | none
  | fixed (n : Nat)
  /-- The next argument. -/
  | argument
  deriving DecidableEq, Repr

/-- A part of a format. -/
inductive Piece
  | literal (chars : List Char)
  | directive (d : Directive) (width precision : Size)
  /-- A directive that does not exist, as it is written. -/
  | wrong (text : List Char)
  | stop
  | malformed
  deriving DecidableEq, Repr

/-- A width or precision at the front, and what follows. -/
def sizeAt (cs : List Char) : Size × List Char :=
  match cs with
  | '*' :: rest => (.argument, rest)
  | _ =>
    let ds := cs.takeWhile Char.isDigit
    (if ds.isEmpty then .none else .fixed (numeral 10 ds), cs.drop ds.length)

/-- Letters of conversions that may have flags and sizes. -/
def isConversion (c : Char) : Bool :=
  "cdiouxXsaAeEfFgG".toList.contains c

/-- The letters with which a flag cannot stand. -/
def excluded : Char → List Char
  | '\'' | 'I' => "aAceEosxX".toList
  | '#' => "cdisu".toList
  | '0' => "cs".toList
  | _ => []

/-- The directive with flags and sizes behind a percent sign, and what follows it. -/
def sizedAt (cs : List Char) : Piece × List Char :=
  let flags := cs.takeWhile fun c => "-+ #0'I".toList.contains c
  let rest := cs.drop flags.length
  let (width, rest) := sizeAt rest
  let (precision, rest) := match rest with
    | '.' :: after =>
      let (p, after) := sizeAt after
      (if p = Size.none then Size.fixed 0 else p, after)
    | _ => (Size.none, rest)
  let rest := rest.dropWhile fun c => "hlLjtz".toList.contains c
  let written := fun (rest : List Char) => '%' :: cs.take (cs.length - rest.length)
  match rest with
  | [] => (.wrong (written []), [])
  | c :: after =>
    if isConversion c && !flags.any (fun flag => (excluded flag).contains c) &&
        !(c = 'c' && precision ≠ .none) then
      let d := flags.foldl Directive.addFlag { letter := c }
      (.directive d width precision, after)
    else (.wrong (written after), after)

/-- The directive behind a percent sign, and what follows it. Some have no flags and sizes. -/
def directiveAt (cs : List Char) : Piece × List Char :=
  match cs with
  | 'b' :: rest => (.directive { letter := 'b' } .none .none, rest)
  | 'q' :: rest => (.directive { letter := 'q' } .none .none, rest)
  | _ => sizedAt cs

/-- The parts of a format. -/
def pieces : Nat → List Piece → List Char → List Piece
  | 0, done, _ => done.reverse
  | _ + 1, done, [] => done.reverse
  | fuel + 1, done, '%' :: '%' :: cs => pieces fuel (.literal ['%'] :: done) cs
  | fuel + 1, done, '%' :: cs =>
    let (p, rest) := directiveAt cs
    pieces fuel (p :: done) rest
  | fuel + 1, done, '\\' :: cs =>
    match escape false cs with
    | (.byte b, rest) => pieces fuel (.literal [Char.ofNat b] :: done) rest
    | (.text t, rest) => pieces fuel (.literal t :: done) rest
    | (.stop, _) => (Piece.stop :: done).reverse
    | (.malformed, _) => (Piece.malformed :: done).reverse
  | fuel + 1, done, c :: cs => pieces fuel (.literal [c] :: done) cs

/-! ### Values -/

/-- What is wrong with a number. -/
inductive Fault
  | notNumber
  | leftover
  | outOfRange
  deriving DecidableEq, Repr

def Fault.text : Fault → String
  | .notNumber => "expected a numeric value"
  | .leftover => "value not completely converted"
  | .outOfRange => "Numerical result out of range"

/-- The character code that an argument with a quote in front stands for. -/
def quotedCode? (arg : String) : Option Nat :=
  match arg.toList with
  | '\'' :: c :: _ | '"' :: c :: _ => some c.toNat
  | _ => none

/-- The whole number that an argument stands for. -/
def wholeNumber (arg : String) : Int × Option Fault :=
  match wholeNumberAt? true arg.toList with
  | none => (0, if arg = "" then none else some .notNumber)
  | some (value, rest) => (value, if rest.isEmpty then none else some .leftover)

/-- The signed value of an argument. -/
def signedValue (arg : String) : Int × Option Fault :=
  match quotedCode? arg with
  | some n => (n, none)
  | none =>
    let (v, fault) := wholeNumber arg
    if fitsWord v then (v, fault) else (clampWord v, some .outOfRange)

/-- The value of an argument without sign; negative numbers count down from the top. -/
def naturalValue (arg : String) : Nat × Option Fault :=
  match quotedCode? arg with
  | some n => (n, none)
  | none =>
    let (v, fault) := wholeNumber arg
    if v.natAbs > Nat.pow 2 64 - 1 then (Nat.pow 2 64 - 1, some .outOfRange)
    else ((v % Int.pow 2 64).toNat, fault)

/-- The floating-point value of an argument. -/
def floatingValue (f : Floating.Format) (arg : String) : Floating × Option Fault :=
  match quotedCode? arg with
  | some n => (Floating.ofRatio f false n 1, none)
  | none =>
    match Floating.readRanged? f arg.toList with
    | none => (.finite false 0 0, if arg = "" then none else some .notNumber)
    | some (x, strained, rest) =>
      (x, if strained then some .outOfRange else if rest.isEmpty then none else some .leftover)

/-- What stands behind a character code in an argument. -/
def ignored? (arg : String) : Option String :=
  match arg.toList with
  | '\'' :: _ :: c :: cs | '"' :: _ :: c :: cs => some (String.ofList (c :: cs))
  | _ => none

/-! ### Printing -/

/-- Complain about a number as an argument gives it. The result is the status for it. -/
def report (inv : Invocation) (arg : String) (fault : Option Fault) : Task Nat := do
  match ignored? arg with
  | none => pure ()
  | some rest =>
    complain inv ("warning: " ++ rest ++
      ": character(s) following character constant have been ignored")
  match fault with
  | none => pure 0
  | some f => fail inv (Quoted.argument arg ++ ": " ++ f.text)

/-- The greatest width and precision. -/
def sizeLimit : Nat := Nat.pow 2 31 - 1

/-- A width or precision, the arguments left, and the status. What has no limits below is cut there;
a number beyond the limits ends the tool. -/
def sizeOf (inv : Invocation) (what : String) (least : Option Int) (size : Size)
    (args : List String) : Task (Option Int × List String × Nat) := do
  match size with
  | .none => pure (none, args, 0)
  | .fixed n => pure (some n, args, 0)
  | .argument =>
    match args with
    | [] => pure (some 0, [], 0)
    | arg :: rest =>
      let (n, fault) := signedValue arg
      let code ← report inv arg fault
      if (sizeLimit : Int) < n || least.any (n < ·) then
        complain inv ("invalid " ++ what ++ ": " ++ Quoted.argument arg)
        Task.exit 1
      else pure (some n, rest, code)

/-- The directive with a width and precision that may be arguments, the arguments left, and the
status. -/
def sized (inv : Invocation) (d : Directive) (width precision : Size) (args : List String) :
    Task (Directive × List String × Nat) := do
  let (width, args, code) ← sizeOf inv "field width" (some (-(sizeLimit : Int) - 1)) width args
  let (precision, args, more) ← sizeOf inv "precision" none precision args
  let width := width.getD 0
  pure ({ d with width := width.natAbs, left := d.left || width < 0
                 precision := precision.bind fun n => if n < 0 then none else some n.toNat },
    args, max code more)

/-- What a directive prints for an argument: the text, what is wrong with the argument, and whether
output ends. `none` is a malformed escape. -/
def convert (d : Directive) (arg : String) : Option (String × Option Fault × Bool) :=
  match d.letter with
  | 's' => some (d.text arg, none, false)
  | 'q' => some (Quoted.name arg, none, false)
  | 'c' => some (d.fill (String.ofList [arg.toList.head?.getD '\x00']), none, false)
  | 'b' =>
    (unescape true (arg.length + 1) [] arg.toList).map fun (cs, stopped) =>
      (d.text (String.ofList cs), none, stopped)
  | 'd' | 'i' =>
    let (v, fault) := signedValue arg
    some (d.integer v, fault, false)
  | 'o' | 'u' | 'x' | 'X' =>
    let (n, fault) := naturalValue arg
    some (d.natural n, fault, false)
  | _ =>
    let (x, fault) := floatingValue Floating.extended arg
    some (d.floating Floating.extended.bits x, fault, false)

/-- How one pass over a format ended. -/
structure Pass where
  args : List String
  code : Nat
  stopped : Bool := false
  deriving DecidableEq, Repr

/-- Go through a format once. Where output is told to end, all is well. -/
def once (inv : Invocation) : List Piece → List String → Nat → Task Pass
  | [], args, code => pure { args, code }
  | .stop :: _, args, _ => pure { args, code := 0, stopped := true }
  | .malformed :: _, args, _ => do
    complain inv "missing hexadecimal number in escape"
    pure { args, code := 1, stopped := true }
  | .wrong text :: _, args, _ => do
    complain inv (String.ofList text ++ ": invalid conversion specification")
    pure { args, code := 1, stopped := true }
  | .literal cs :: rest, args, code => do
    emit inv (octetBytes (String.ofList cs))
    once inv rest args code
  | .directive d width precision :: rest, args, code => do
    let (d, args, sizeCode) ← sized inv d width precision args
    let arg := args.head?.getD ""
    if args.isEmpty && (d.letter = 'b' || d.letter = 'q') then once inv rest args code
    else match convert d arg with
    | none => do
      complain inv "missing hexadecimal number in escape"
      pure { args, code := 1, stopped := true }
    | some (text, fault, stopped) => do
      let faultCode ← if d.isNumeric then report inv arg fault else pure 0
      emit inv (octetBytes text)
      let code := max code (max sizeCode faultCode)
      if stopped then pure { args, code := 0, stopped := true }
      else once inv rest (args.drop 1) code

/-- Go through a format until all arguments are used. -/
def passes (inv : Invocation) (ps : List Piece) : Nat → List String → Nat → Task Nat
  | 0, _, code => pure code
  | fuel + 1, args, code => do
    let p ← once inv ps args code
    if p.stopped || p.args.isEmpty then pure p.code
    else if p.args.length = args.length then do
      complain inv ("warning: ignoring excess arguments, starting with " ++
        Quoted.argument (p.args.head?.getD ""))
      pure p.code
    else passes inv ps fuel p.args p.code

end Print

/-- Write the arguments by a format. -/
def printf (inv : Invocation) : Task Nat :=
  match (if inv.args.head? = some "--" then inv.args.drop 1 else inv.args) with
  | [] => misuse inv "missing operand"
  | format :: args =>
    Print.passes inv (Print.pieces (format.length + 1) [] format.toList) (args.length + 1) args 0

end Program

end Shell
