import Shell.Text.Number
import Shell.Text.Quoted

/-!
# Amounts

Numbers in the arguments of tools, which may have a suffix that multiplies them.
-/

namespace Shell

/-- Why a text is no amount. -/
inductive AmountError
  | malformed
  | tooLarge
  deriving DecidableEq, Repr

namespace Amount

/-- The greatest amount. -/
def limit : Nat := Nat.pow 2 64 - 1

/-- The exponent of a suffix for powers of 1000 or 1024. -/
def power? (c : Char) : Option Nat :=
  match c with
  | 'k' | 'K' => some 1
  | 'm' | 'M' => some 2
  | 'G' => some 3
  | 'T' => some 4
  | 'P' => some 5
  | 'E' => some 6
  | 'Z' => some 7
  | 'Y' => some 8
  | 'R' => some 9
  | 'Q' => some 10
  | _ => none

/-- What a suffix multiplies by. -/
def factor? (suffix : List Char) : Option Nat :=
  match suffix with
  | [] => some 1
  | ['b'] => some 512
  | [c] => (power? c).map fun n => Nat.pow 1024 n
  | [c, 'B'] => (power? c).map fun n => Nat.pow 1000 n
  | [c, 'i', 'B'] => (power? c).map fun n => Nat.pow 1024 n
  | _ => none

/-- Read an amount: blanks and a plus sign may stand before the digits. -/
def parse (text : String) : Except AmountError Nat :=
  let cs := text.toList.dropWhile fun c => c = ' ' || (9 ≤ c.toNat && c.toNat ≤ 13)
  let cs := if cs.head? = some '+' then cs.drop 1 else cs
  let digits := cs.takeWhile Char.isDigit
  if digits.isEmpty then .error .malformed
  else match factor? (cs.drop digits.length) with
    | none => .error .malformed
    | some f =>
      let n := decimal digits * f
      if n > limit then .error .tooLarge else .ok n

/-- What a tool says about a text that is no amount. -/
def complaint (what text : String) : AmountError → String
  | .malformed => what ++ ": " ++ Quoted.argument text
  | .tooLarge =>
    what ++ ": " ++ Quoted.argument text ++ ": Value too large for defined data type"

end Amount

end Shell
