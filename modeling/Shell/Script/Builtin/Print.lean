import Shell.Script.Builtin.Basic
import Shell.Text.Directive

/-!
# Printing

The commands `echo` and `printf` of the shell. Escapes begin with a backslash, and what a backslash
does not change it leaves as it is.
-/

namespace Shell

namespace Script

namespace Builtin

/-! ### Escapes -/

def isOctal (c : Char) : Bool := '0' ≤ c && c ≤ '7'

/-- The byte that a letter behind a backslash stands for. -/
def escapeLetter? : Char → Option Char
  | '\\' => some '\\'
  | 'a' => some '\x07'
  | 'b' => some '\x08'
  | 'e' => some '\x1b'
  | 'f' => some '\x0c'
  | 'n' => some '\n'
  | 'r' => some '\r'
  | 't' => some '\t'
  | 'v' => some '\x0b'
  | _ => none

/-- What an escape stands for, and what follows it. The backslash was passed. -/
def escapeAt (cs : List Char) : Char × List Char :=
  let digits := (cs.take 3).takeWhile isOctal
  if !digits.isEmpty then (Char.ofNat (numeral 8 digits % 256), cs.drop digits.length)
  else match cs with
    | c :: rest =>
      match escapeLetter? c with
      | some e => (e, rest)
      | none => ('\\', cs)
    | [] => ('\\', [])

/-- A text with its escapes resolved, and whether all output ends with it. A zero may stand before
the octal digits of an escape. -/
def unescape : Nat → List Char → List Char → List Char × Bool
  | 0, done, _ => (done.reverse, false)
  | _ + 1, done, [] => (done.reverse, false)
  | _ + 1, done, '\\' :: 'c' :: _ => (done.reverse, true)
  | fuel + 1, done, '\\' :: '0' :: d :: rest =>
    let (c, rest) := if isOctal d then escapeAt (d :: rest) else ('\x00', d :: rest)
    unescape fuel (c :: done) rest
  | fuel + 1, done, '\\' :: rest =>
    let (c, rest) := escapeAt rest
    unescape fuel (c :: done) rest
  | fuel + 1, done, c :: rest => unescape fuel (c :: done) rest

/-- A text with its escapes resolved, and whether all output ends with it. -/
def unescaped (text : String) : String × Bool :=
  let (cs, stop) := unescape (text.length + 1) [] text.toList
  (String.ofList cs, stop)

/-! ### Echo -/

/-- The texts with blanks between them and `last` behind them, unless one ends the output. -/
def echoed (last : String) : List String → String
  | [] => last
  | [text] =>
    let (text, stop) := unescaped text
    if stop then text else text ++ last
  | text :: rest =>
    let (text, stop) := unescaped text
    if stop then text else text ++ " " ++ echoed last rest

/-- Print the arguments. -/
def echo (args : List String) : Sh Nat :=
  match args with
  | "-n" :: args => print (echoed "" args)
  | args => print (echoed "\n" args)

/-! ### Formats -/

/-- What is printed so far, the arguments left and the status. -/
structure Printing where
  text : String := ""
  args : List String
  status : Nat := 0
  stopped : Bool := false
  deriving DecidableEq, Repr

/-- The next argument, or nothing. -/
def Printing.next (p : Printing) : Option String × Printing :=
  (p.args.head?, { p with args := p.args.drop 1 })

/-- Complain about an argument that is no number. -/
def complainNumber (p : Printing) (text : String) : Sh Printing := do
  Sh.warn text
  pure { p with status := 1 }

/-- The number that the next argument stands for, and what is wrong with it. -/
def Printing.number (p : Printing) (signed : Bool) : Sh (Int × Printing) := do
  let (arg, p) := p.next
  match arg with
  | none => return (0, p)
  | some arg =>
    match arg.toList with
    | '\'' :: rest | '"' :: rest => return (rest.head?.elim 0 fun c => (c.toNat : Int), p)
    | cs =>
      match wholeNumberAt? true cs with
      | none =>
        if arg = "" then return (0, p)
        return (0, ← complainNumber p (arg ++ ": expected numeric value"))
      | some (value, rest) =>
        let (clamped, fits) :=
          if signed then (clampWord value, fitsWord value)
          else if value.natAbs < Nat.pow 2 64 then (value % Int.pow 2 64, true)
          else (Int.pow 2 64 - 1, false)
        if !rest.isEmpty then
          return (clamped, ← complainNumber p (arg ++ ": not completely converted"))
        if !fits then
          return (clamped, ← complainNumber p (arg ++ ": Numerical result out of range"))
        return (clamped, p)

/-- The floating-point number that the next argument stands for. -/
def Printing.floating (p : Printing) : Sh (Floating × Printing) := do
  let (arg, p) := p.next
  match arg with
  | none => return (.finite false 0 0, p)
  | some arg =>
    match arg.toList with
    | '\'' :: rest | '"' :: rest =>
      return (Floating.ofRatio Floating.double false (rest.head?.elim 0 Char.toNat) 1, p)
    | cs =>
      match Floating.readRanged? Floating.double cs with
      | none =>
        if arg = "" then return (.finite false 0 0, p)
        return (.finite false 0 0, ← complainNumber p (arg ++ ": expected numeric value"))
      | some (x, false, []) => return (x, p)
      | some (x, true, []) =>
        return (x, ← complainNumber p (arg ++ ": Numerical result out of range"))
      | some (x, _, _) =>
        return (x, ← complainNumber p (arg ++ ": not completely converted"))

/-- A width or precision at the front of a format: digits, or a star for the next argument. -/
def sizeAt (p : Printing) (cs : List Char) : Sh (Option Int × List Char × Printing) := do
  match cs with
  | '*' :: rest =>
    let (n, p) ← p.number true
    return (some (Int.bmod n (Nat.pow 2 32)), rest, p)
  | cs =>
    let digits := cs.takeWhile Char.isDigit
    return (if digits.isEmpty then none else some (decimal digits), cs.drop digits.length, p)

/-- Leave `printf` with an error, behind what was printed so far. -/
def failPrinting {α : Type} (p : Printing) (text : String) : Sh α := do
  Sh.warn text
  let _ ← print p.text
  Sh.modify fun s => { s with status := 2 }
  Sh.jump .error

/-- Print by a directive, whose percent sign was passed. -/
def directive (p : Printing) (cs : List Char) : Sh (Printing × List Char) := do
  let flags := cs.takeWhile fun c => "#-+ 0".toList.contains c
  let (width, rest, p) ← sizeAt p (cs.drop flags.length)
  let (precision, rest, p) ←
    match rest with
    | '.' :: rest =>
      let (n, rest, p) ← sizeAt p rest
      pure (some (n.getD 0), rest, p)
    | rest => pure (none, rest, p)
  match rest with
  | [] => failPrinting p "missing format character"
  | letter :: rest =>
    let width := width.getD 0
    let d : Directive := flags.foldl Directive.addFlag { letter }
    let d := { d with width := width.natAbs, left := d.left || width < 0,
                      precision := (precision.filter (0 ≤ ·)).map Int.toNat }
    let add (p : Printing) (text : String) : Printing := { p with text := p.text ++ text }
    match letter with
    | 'b' =>
      let (arg, p) := p.next
      let (text, stopped) := unescaped (arg.getD "")
      return ({ add p (d.text text) with stopped }, rest)
    | 'c' =>
      let (arg, p) := p.next
      let c := (arg.bind fun a => a.toList.head?).getD '\x00'
      return (add p (d.fill (String.ofList [c])), rest)
    | 's' =>
      let (arg, p) := p.next
      return (add p (d.text (arg.getD "")), rest)
    | 'd' | 'i' =>
      let (n, p) ← p.number true
      return (add p (d.integer n), rest)
    | 'o' | 'u' | 'x' | 'X' =>
      let (n, p) ← p.number false
      return (add p (d.natural n.toNat), rest)
    | 'a' | 'A' | 'e' | 'E' | 'f' | 'F' | 'g' | 'G' =>
      let (x, p) ← p.floating
      return (add p (d.floating Floating.double.bits x), rest)
    | _ =>
      let written := '%' :: cs.take (cs.length - rest.length)
      failPrinting p (String.ofList written ++ ": invalid directive")

/-- Go through a format once. -/
def printOnce : Nat → Printing → List Char → Sh Printing
  | 0, p, _ => pure p
  | _ + 1, p, [] => pure p
  | fuel + 1, p, '\\' :: rest =>
    let (c, rest) := escapeAt rest
    printOnce fuel { p with text := p.text.push c } rest
  | fuel + 1, p, '%' :: '%' :: rest => printOnce fuel { p with text := p.text.push '%' } rest
  | fuel + 1, p, '%' :: rest => do
    let (p, rest) ← directive p rest
    if p.stopped then pure p else printOnce fuel p rest
  | fuel + 1, p, c :: rest => printOnce fuel { p with text := p.text.push c } rest

/-- Go through a format until all arguments are used. -/
def printAll (format : List Char) : Nat → Printing → Sh Printing
  | 0, p => pure p
  | fuel + 1, p => do
    let q ← printOnce (format.length + 1) p format
    if q.stopped || q.args.isEmpty || q.args.length = p.args.length then pure q
    else printAll format fuel q

/-- Print the arguments by a format. -/
def printf (args : List String) : Sh Nat := do
  let a ← arguments [] args
  match a.operands with
  | [] => Sh.fail "usage: printf format [arg ...]"
  | format :: args =>
    let p ← printAll format.toList (args.length + 1) { args }
    print p.text p.status

end Builtin

end Script

end Shell
