import Shell.Text.Floating
import Shell.Text.Octets

/-!
# Directives of a format

A directive of `printf` has flags, a width, a precision and a letter for the kind of value. Texts
are texts of octets.
-/

namespace Shell

/-- A directive: how a value is written. -/
structure Directive where
  left : Bool := false
  plus : Bool := false
  blank : Bool := false
  alternate : Bool := false
  zero : Bool := false
  width : Nat := 0
  precision : Option Nat := none
  letter : Char
  deriving DecidableEq, Repr

namespace Directive

/-- The directive with the flag that a character stands for. -/
def addFlag (d : Directive) : Char → Directive
  | '-' => { d with left := true }
  | '+' => { d with plus := true }
  | ' ' => { d with blank := true }
  | '#' => { d with alternate := true }
  | '0' => { d with zero := true }
  | _ => d

def blanks (count : Nat) (c : Char := ' ') : String :=
  String.ofList (List.replicate count c)

/-- The value is a number. -/
def isNumeric (d : Directive) : Bool :=
  !"bcqs".toList.contains d.letter

/-- Fill a text up to the width. -/
def fill (d : Directive) (text : String) : String :=
  let gap := blanks (d.width - text.length)
  if d.left then text ++ gap else gap ++ text

/-- A text, cut to the precision. -/
def text (d : Directive) (s : String) : String :=
  d.fill (match d.precision with
    | some p => String.ofList (s.toList.take p)
    | none => s)

/-- A number with its sign or mark in front of it; zeros fill the width between the two. -/
def signed (d : Directive) (zeros : Bool) (mark digits : String) : String :=
  if zeros && !d.left then
    mark ++ blanks (d.width - mark.length - digits.length) '0' ++ digits
  else d.fill (mark ++ digits)

/-- The sign of a number. -/
def sign (d : Directive) (negative : Bool) : String :=
  if negative then "-" else if d.plus then "+" else if d.blank then " " else ""

/-- Digits with zeros in front up to the precision. No digit stands for zero at precision zero. -/
def digits (d : Directive) (n : Nat) (text : String) : String :=
  match d.precision with
  | none => text
  | some p => if n = 0 && p = 0 then "" else blanks (p - text.length) '0' ++ text

/-- A signed whole number. -/
def integer (d : Directive) (value : Int) : String :=
  d.signed (d.zero && d.precision.isNone) (d.sign (value < 0))
    (d.digits value.natAbs (toString value.natAbs))

/-- A whole number without sign, in the base that the letter asks for. -/
def natural (d : Directive) (n : Nat) : String :=
  let zeros := d.zero && d.precision.isNone
  match d.letter with
  | 'o' =>
    let text := d.digits n (String.ofList (Nat.toDigits 8 n))
    let text := if d.alternate && text.toList.head? ≠ some '0' then "0" ++ text else text
    d.signed zeros "" text
  | 'x' =>
    d.signed zeros (if d.alternate && n ≠ 0 then "0x" else "")
      (d.digits n (String.ofList (Nat.toDigits 16 n)))
  | 'X' =>
    d.signed zeros (if d.alternate && n ≠ 0 then "0X" else "")
      (d.digits n (String.ofList ((Nat.toDigits 16 n).map Char.toUpper)))
  | _ => d.signed zeros "" (d.digits n (toString n))

/-- A floating-point number. -/
def floating (d : Directive) (bits : Nat) (x : Floating) : String :=
  let upper := d.letter.isUpper
  let cased := fun (s : String) => if upper then String.ofList (s.toList.map Char.toUpper) else s
  let mark := d.sign x.isNegative
  match x with
  | .infinite _ => d.fill (mark ++ cased "inf")
  | .notNumber _ => d.fill (mark ++ cased "nan")
  | .finite _ m e =>
    let places := d.precision.getD 6
    let text := match d.letter.toLower with
      | 'f' => Floating.fixed m e places d.alternate
      | 'e' => Floating.scientific m e places d.alternate 'e'
      | 'g' => Floating.general m e places d.alternate 'e'
      | _ => Floating.hexadecimal bits m e
    d.signed d.zero mark (cased text)

end Directive

end Shell
