/-!
# Numbers in text
-/

namespace Shell

/-- The value of a non-empty list of decimal digits. -/
def digits? (cs : List Char) : Option Nat :=
  if cs.isEmpty then none
  else cs.foldl (fun acc c =>
    match acc with
    | none => none
    | some n => if c.isDigit then some (n * 10 + (c.toNat - 48)) else none) (some 0)

/-- The number that decimal digits stand for. -/
def decimal (cs : List Char) : Nat :=
  cs.foldl (fun n c => n * 10 + (c.toNat - 48)) 0

/-- A number with an optional sign that fits a signed word of 64 bits. -/
def signedWord? (s : String) : Option Int :=
  let value : Option Int :=
    match s.toList with
    | '-' :: cs => (digits? cs).map fun n => -(n : Int)
    | '+' :: cs => (digits? cs).map fun n => (n : Int)
    | cs => (digits? cs).map fun n => (n : Int)
  value.filter fun n => -9223372036854775808 ≤ n && n ≤ 9223372036854775807

/-! ### Other bases -/

/-- The value of a digit, letters following the decimal digits. -/
def digitValue? (c : Char) : Option Nat :=
  if c.isDigit then some (c.toNat - '0'.toNat)
  else if c.isLower then some (c.toNat - 'a'.toNat + 10)
  else if c.isUpper then some (c.toNat - 'A'.toNat + 10)
  else none

def isDigitIn (base : Nat) (c : Char) : Bool := (digitValue? c).any (· < base)

/-- The number that digits of a base stand for. -/
def numeral (base : Nat) (ds : List Char) : Nat :=
  ds.foldl (fun n c => n * base + (digitValue? c).getD 0) 0

/-- A blank in front of a number. -/
def isBlankOctet (c : Char) : Bool := c = ' ' || ('\t' ≤ c && c ≤ '\r')

/-- The base that the digits of a number are written in, and the digits: hexadecimal behind `0x`,
binary behind `0b`, octal behind another zero. -/
def baseOf (cs : List Char) : Nat × List Char :=
  match cs with
  | '0' :: x :: d :: rest =>
    if (x = 'x' || x = 'X') && isDigitIn 16 d then (16, d :: rest)
    else if (x = 'b' || x = 'B') && isDigitIn 2 d then (2, d :: rest)
    else (8, cs)
  | '0' :: _ => (8, cs)
  | _ => (10, cs)

/-- The whole number at the front of a text, behind blanks and a sign, and what follows it. Where
`anyBase` holds the base is told by how the number begins, else it is decimal. -/
def wholeNumberAt? (anyBase : Bool) (cs : List Char) : Option (Int × List Char) :=
  let cs := cs.dropWhile isBlankOctet
  let (negative, cs) := match cs with
    | '-' :: cs => (true, cs)
    | '+' :: cs => (false, cs)
    | cs => (false, cs)
  let (base, ds) := if anyBase then baseOf cs else (10, cs)
  let taken := ds.takeWhile (isDigitIn base)
  if taken.isEmpty then none
  else
    let value : Int := numeral base taken
    some (if negative then -value else value, ds.drop taken.length)

/-- The bounds of a signed word of 64 bits. -/
def wordMin : Int := -(Int.pow 2 63)

def wordMax : Int := Int.pow 2 63 - 1

/-- The number fits a signed word of 64 bits. -/
def fitsWord (n : Int) : Bool := wordMin ≤ n && n ≤ wordMax

/-- The nearest number that fits a signed word of 64 bits. -/
def clampWord (n : Int) : Int := max wordMin (min wordMax n)

end Shell
