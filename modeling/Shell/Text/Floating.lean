import Shell.Text.Number

/-!
# Floating-point numbers in text

Numbers with a binary fraction of limited precision, read from decimal text and written as decimal
text with a number of places or digits. Both directions are exact up to one rounding: to the nearest
number, and of two that are equally near to the even one.
-/

namespace Shell

/-- A number `mantissa * 2 ^ exponent` with a sign, or something that is no such number. -/
inductive Floating
  | finite (negative : Bool) (mantissa : Nat) (exponent : Int)
  | infinite (negative : Bool)
  | notNumber (negative : Bool)
  deriving DecidableEq, Repr

/-- A quotient rounded to the nearest whole number, a half to the even one. -/
def roundDiv (num den : Nat) : Nat :=
  let q := num / den
  let r := num % den
  if 2 * r > den || (2 * r = den && q % 2 = 1) then q + 1 else q

namespace Floating

/-- The sign of a number. -/
def isNegative : Floating → Bool
  | .finite s _ _ | .infinite s | .notNumber s => s

/-- The precision of a format: how many bits a mantissa has, and the greatest exponent of two below
which numbers are finite. -/
structure Format where
  bits : Nat
  top : Nat
  deriving DecidableEq, Repr

/-- Numbers of 64 bits. -/
def double : Format := ⟨53, 1024⟩

/-- Numbers of 80 bits. -/
def extended : Format := ⟨64, 16384⟩

/-- The least exponent that a number of a format has. -/
def Format.bottom (f : Format) : Int := 3 - (f.top : Int) - f.bits

/-- The number of a format that is nearest to a quotient. -/
def ofRatio (f : Format) (negative : Bool) (num den : Nat) : Floating :=
  if num = 0 || den = 0 then .finite negative 0 0
  else
    let size : Int := (Nat.log2 num : Int) - Nat.log2 den
    let exponent : Int := max (size - f.bits) f.bottom
    let m := if exponent ≥ 0 then roundDiv num (den * Nat.pow 2 exponent.toNat)
      else roundDiv (num * Nat.pow 2 (-exponent).toNat) den
    let (m, exponent) := if Nat.log2 m ≥ f.bits then
        let exponent := exponent + 1
        (if exponent ≥ 0 then roundDiv num (den * Nat.pow 2 exponent.toNat)
          else roundDiv (num * Nat.pow 2 (-exponent).toNat) den, exponent)
      else (m, exponent)
    let (m, exponent) := if m = Nat.pow 2 f.bits then (m / 2, exponent + 1) else (m, exponent)
    if (Nat.log2 m : Int) + exponent ≥ f.top then .infinite negative
    else .finite negative m exponent

/-- A number of a format is so great or small that it stands for a quotient badly. -/
def isStrained (f : Format) (num den : Nat) : Floating → Bool
  | .finite _ m e =>
    let isExact := if e ≥ 0 then m * Nat.pow 2 e.toNat * den = num
      else m * den = num * Nat.pow 2 (-e).toNat
    m < Nat.pow 2 (f.bits - 1) && !isExact
  | .infinite _ => true
  | .notNumber _ => false

/-- The value of a hexadecimal digit. -/
def hexDigit? (c : Char) : Option Nat :=
  if c.isDigit then some (c.toNat - 48)
  else if 'a' ≤ c ∧ c ≤ 'f' then some (c.toNat - 87)
  else if 'A' ≤ c ∧ c ≤ 'F' then some (c.toNat - 55)
  else none

/-- An exponent behind one of two letters: its value and what follows. -/
def exponentAt (letters : List Char) (cs : List Char) : Int × List Char :=
  match cs with
  | e :: rest =>
    let (sign, digits) : Int × List Char := match rest with
      | '-' :: ds => (-1, ds)
      | '+' :: ds => (1, ds)
      | ds => (1, ds)
    if letters.contains e && digits.head?.any Char.isDigit then
      (sign * (min (decimal (digits.takeWhile Char.isDigit)) 20000 : Nat),
        digits.dropWhile Char.isDigit)
    else (0, cs)
  | [] => (0, cs)

/-- Digits of a base with a point somewhere among them: their value, how many stand behind the
point, and what follows. -/
def digitsAt (base : Nat) (cs : List Char) : Option (Nat × Nat × List Char) :=
  let isDigit := fun c => (hexDigit? c).any (· < base)
  let value := fun (n : Nat) (ds : List Char) =>
    ds.foldl (fun n c => n * base + (hexDigit? c).getD 0) n
  let whole := cs.takeWhile isDigit
  let rest := cs.drop whole.length
  let (fraction, after) := match rest with
    | '.' :: ds => (ds.takeWhile isDigit, ds.dropWhile isDigit)
    | _ => ([], rest)
  if whole.isEmpty && fraction.isEmpty then none
  else some (value (value 0 whole) fraction, fraction.length, after)

/-- The letters of a word, in either case, at the front of a text. -/
def wordAt (word : String) (cs : List Char) : Option (List Char) :=
  if (cs.take word.length).map Char.toLower = word.toList then some (cs.drop word.length) else none

/-- A scaled number, and whether it is out of the range of the format. -/
def scaled (f : Format) (negative : Bool) (n base : Nat) (e : Int) : Floating × Bool :=
  let num := if e ≥ 0 then n * Nat.pow base e.toNat else n
  let den := if e ≥ 0 then 1 else Nat.pow base (-e).toNat
  let x := ofRatio f negative num den
  (x, isStrained f num den x)

/-- The number at the front of a text, after blanks and a sign, whether it is out of range, and what
follows it. -/
def readRanged? (f : Format) (text : List Char) : Option (Floating × Bool × List Char) :=
  let cs := text.dropWhile fun c => c = ' ' || (9 ≤ c.toNat && c.toNat ≤ 13)
  let (negative, cs) := match cs with
    | '-' :: cs => (true, cs)
    | '+' :: cs => (false, cs)
    | cs => (false, cs)
  match wordAt "infinity" cs, wordAt "inf" cs, wordAt "nan" cs with
  | some rest, _, _ => some (.infinite negative, false, rest)
  | _, some rest, _ => some (.infinite negative, false, rest)
  | _, _, some rest => some (.notNumber negative, false, rest)
  | none, none, none =>
    match (wordAt "0x" cs).bind (digitsAt 16) with
    | some (n, places, rest) =>
      let (e, rest) := exponentAt ['p', 'P'] rest
      let (number, strained) := scaled f negative n 2 (e - 4 * (places : Int))
      some (number, strained, rest)
    | none =>
      match digitsAt 10 cs with
      | none => none
      | some (n, places, rest) =>
        let (e, rest) := exponentAt ['e', 'E'] rest
        let (number, strained) := scaled f negative n 10 (e - (places : Int))
        some (number, strained, rest)

/-- The number at the front of a text, after blanks and a sign, and what follows it. -/
def read? (f : Format) (text : List Char) : Option (Floating × List Char) :=
  (readRanged? f text).map fun (x, _, rest) => (x, rest)

/-- A number without its sign as a quotient. -/
def ratio (mantissa : Nat) (exponent : Int) : Nat × Nat :=
  if exponent ≥ 0 then (mantissa * Nat.pow 2 exponent.toNat, 1)
  else (mantissa, Nat.pow 2 (-exponent).toNat)

/-- Decimal digits with so many places behind the point. -/
def withPlaces (digits : Nat) (places : Nat) (point : Bool) : String :=
  let text := toString digits
  let text := String.ofList (List.replicate (places + 1 - text.length) '0') ++ text
  let whole := String.ofList (text.toList.take (text.length - places))
  if places = 0 then whole ++ (if point then "." else "")
  else whole ++ "." ++ String.ofList (text.toList.drop (text.length - places))

/-- A number without its sign, written with so many places. -/
def fixed (mantissa : Nat) (exponent : Int) (places : Nat) (point : Bool) : String :=
  let (num, den) := ratio mantissa exponent
  withPlaces (roundDiv (num * Nat.pow 10 places) den) places point

/-- The greatest power of ten that is not above a quotient. The second argument is a power that may
be a little too small. -/
def decimalExponent (num den : Nat) : Nat → Int → Int
  | 0, e => e
  | fuel + 1, e =>
    let next := e + 1
    let reached := if next ≥ 0 then den * Nat.pow 10 next.toNat ≤ num
      else den ≤ num * Nat.pow 10 (-next).toNat
    if reached then decimalExponent num den fuel next else e

/-- The decimal exponent of a number without its sign, and its first `places + 1` digits. -/
def scientificDigits (mantissa : Nat) (exponent : Int) (places : Nat) : Int × Nat :=
  if mantissa = 0 then (0, 0)
  else
    let (num, den) := ratio mantissa exponent
    let size : Int := (Nat.log2 num : Int) - Nat.log2 den
    let low := (size - 1) * 30103 / 100000 - 2
    let e := decimalExponent num den 10 low
    let shift : Int := (places : Int) - e
    let digits := if shift ≥ 0 then roundDiv (num * Nat.pow 10 shift.toNat) den
      else roundDiv num (den * Nat.pow 10 (-shift).toNat)
    if digits ≥ Nat.pow 10 (places + 1) then (e + 1, digits / 10) else (e, digits)

/-- An exponent of at least two digits with its sign. -/
def exponentText (e : Int) : String :=
  let digits := toString e.natAbs
  (if e < 0 then "-" else "+") ++ (if digits.length < 2 then "0" else "") ++ digits

/-- A number without its sign, written with one digit before the point and an exponent. -/
def scientific (mantissa : Nat) (exponent : Int) (places : Nat) (point : Bool) (letter : Char) :
    String :=
  let (e, digits) := scientificDigits mantissa exponent places
  withPlaces digits places point ++ String.ofList [letter] ++ exponentText e

/-- A text without zeros at its end behind a point. -/
def trimZeros (text : String) : String :=
  if text.toList.contains '.' then
    let cs := text.toList.reverse.dropWhile (· = '0')
    String.ofList (if cs.head? = some '.' then cs.drop 1 else cs).reverse
  else text

/-- A number without its sign, written the shorter way with so many digits. -/
def general (mantissa : Nat) (exponent : Int) (digits : Nat) (keep : Bool) (letter : Char) :
    String :=
  let digits := max digits 1
  let (e, shown) := scientificDigits mantissa exponent (digits - 1)
  let trim := fun text => if keep then text else trimZeros text
  if e < -4 || e ≥ digits then
    trim (withPlaces shown (digits - 1) keep) ++ String.ofList [letter] ++ exponentText e
  else trim (fixed mantissa exponent ((digits : Int) - 1 - e).toNat keep)

/-- A number without its sign, in hexadecimal: the digits of the mantissa in groups of four bits
from the front, and an exponent of two. -/
def hexadecimal (bits : Nat) (mantissa : Nat) (exponent : Int) : String :=
  let digit := fun (n : Nat) => Char.ofNat (if n < 10 then 48 + n else 87 + n)
  if mantissa = 0 then "0x0p+0"
  else
    let lead := (bits - 1) % 4 + 1
    let shift := bits - 1 - Nat.log2 mantissa
    let m := mantissa * Nat.pow 2 shift
    let e := exponent - shift + ((bits - lead : Nat) : Int)
    let count := (bits - lead) / 4
    let first := m / Nat.pow 2 (4 * count)
    let rest := (List.range count).map fun i => digit (m / Nat.pow 16 (count - 1 - i) % 16)
    let rest := (rest.reverse.dropWhile (· = '0')).reverse
    "0x" ++ String.ofList [digit first] ++
      (if rest.isEmpty then "" else "." ++ String.ofList rest) ++ "p" ++
      (if e < 0 then "-" else "+") ++ toString e.natAbs

end Floating

end Shell
