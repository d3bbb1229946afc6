import Shell.Script.Reader
import Shell.Text.Number

/-!
# Arithmetic

Expressions over signed words of 64 bits, with the operators of C except those that count up and
down. Names stand for the values of variables. A part whose value does not matter is read but not
evaluated.
-/

namespace Shell

namespace Script

namespace Arithmetic

/-- A unit of an expression. -/
inductive Symbol
  | number (value : Int)
  | name (text : String)
  | sign (text : String)
  /-- A character that belongs to no expression. -/
  | unknown
  deriving DecidableEq, Repr

/-- The signs, each before those that begin it. -/
def signs : List String :=
  ["<<=", ">>=", "<<", ">>", "<=", ">=", "==", "!=", "&&", "||", "+=", "-=", "*=", "/=", "%=", "&=",
   "^=", "|=", "<", ">", "=", "!", "~", "+", "-", "*", "/", "%", "&", "^", "|", "(", ")", "?", ":"]

/-- The sign at the front of a text, and what follows it. -/
def signAt? (cs : List Char) : Option (String × List Char) :=
  signs.findSome? fun s =>
    if s.toList.isPrefixOf cs then some (s, cs.drop s.length) else none

/-- The symbols of an expression. The first argument bounds their number. -/
def symbols : Nat → List Char → List Symbol
  | 0, _ => []
  | _ + 1, [] => []
  | fuel + 1, c :: rest =>
    if c = ' ' || c = '\t' || c = '\n' then symbols fuel rest
    else if c.isDigit then
      match wholeNumberAt? true (c :: rest) with
      | some (value, rest) => .number (clampWord value) :: symbols fuel rest
      | none => .unknown :: symbols fuel rest
    else if isNameStart c then
      let name := (c :: rest).takeWhile isNameChar
      .name (String.ofList name) :: symbols fuel ((c :: rest).drop name.length)
    else match signAt? (c :: rest) with
      | some (s, rest) => .sign s :: symbols fuel rest
      | none => .unknown :: symbols fuel rest

/-- Why an expression has no value. -/
inductive Error
  | malformed (reason : String)
  /-- The value of a variable is no number. -/
  | notNumber (value : String)
  | readOnly (name : String)
  deriving DecidableEq, Repr

/-- The variables that expressions read and change. -/
structure Scope where
  values : List (String × String) := []
  readOnly : List String := []
  /-- The variables that were changed, the last change first. -/
  changes : List (String × String) := []
  rest : List Symbol := []
  deriving DecidableEq, Repr

abbrev Eval := StateT Scope (Except Error)

def fail {α : Type} (e : Error) : Eval α := fun _ => .error e

/-- The value of a text that should be a number. -/
def numberOf (text : String) : Except Error Int :=
  match wholeNumberAt? true text.toList with
  | none => if text.toList.all isBlankOctet then .ok 0 else .error (.notNumber text)
  | some (value, rest) =>
    if fitsWord value && rest.all isBlankOctet then .ok value else .error (.notNumber text)

/-- The value of a variable. -/
def valueOf (name : String) : Eval Int := fun s =>
  let text := ((s.changes.lookup name).or (s.values.lookup name)).getD ""
  (numberOf text).map fun n => (n, s)

/-- Give a variable a value. -/
def assign (name : String) (value : Int) : Eval Int := fun s =>
  if s.readOnly.contains name then .error (.readOnly name)
  else .ok (value, { s with changes := (name, toString value) :: s.changes })

/-- The number that a word of 64 bits keeps. -/
def wrap (n : Int) : Int := Int.bmod n (Nat.pow 2 64)

def ofBool (b : Bool) : Int := if b then 1 else 0

/-- An operation on the bits of two words. -/
def bitwise (f : UInt64 → UInt64 → UInt64) (a b : Int) : Int :=
  wrap (f (UInt64.ofNat (a % Int.pow 2 64).toNat) (UInt64.ofNat (b % Int.pow 2 64).toNat)).toNat

/-- The rank of an operator between two values; those of lower rank bind closer. -/
def rank? (s : String) : Option Nat :=
  [["*", "/", "%"], ["+", "-"], ["<<", ">>"], ["<", "<=", ">", ">="], ["==", "!="], ["&"], ["^"],
   ["|"]].findIdx? (·.contains s)

/-- The value of an operator between two values. -/
def operate (s : String) (a b : Int) : Except Error Int :=
  match s with
  | "*" => .ok (wrap (a * b))
  | "/" => if b = 0 then .error (.malformed "division by zero") else .ok (wrap (Int.tdiv a b))
  | "%" => if b = 0 then .error (.malformed "division by zero") else .ok (wrap (Int.tmod a b))
  | "+" => .ok (wrap (a + b))
  | "-" => .ok (wrap (a - b))
  | "<<" => .ok (wrap (a * Int.pow 2 (b % 64).toNat))
  | ">>" => .ok (Int.fdiv a (Int.pow 2 (b % 64).toNat))
  | "<" => .ok (ofBool (a < b))
  | "<=" => .ok (ofBool (a ≤ b))
  | ">" => .ok (ofBool (b < a))
  | ">=" => .ok (ofBool (b ≤ a))
  | "==" => .ok (ofBool (a = b))
  | "!=" => .ok (ofBool (a ≠ b))
  | "&" => .ok (bitwise (· &&& ·) a b)
  | "^" => .ok (bitwise (· ^^^ ·) a b)
  | _ => .ok (bitwise (· ||| ·) a b)

/-- The next symbol. -/
def next : Eval (Option Symbol) := fun s =>
  .ok (s.rest.head?, { s with rest := s.rest.drop 1 })

/-- The symbol that comes next, without passing it. -/
def peek : Eval (Option Symbol) := fun s => .ok (s.rest.head?, s)

/-- The operator that an assignment applies before it stores the value. -/
def assignment? : Option Symbol → Option (Option String)
  | some (.sign "=") => some none
  | some (.sign s) =>
    if ["<<=", ">>=", "+=", "-=", "*=", "/=", "%=", "&=", "^=", "|="].contains s then
      some (some (String.ofList (s.toList.dropLast)))
    else none
  | _ => none

/-- Pass over a sign that has to come next. -/
def expect (s : String) : Eval Unit := do
  if (← next) ≠ some (.sign s) then fail (.malformed ("expecting '" ++ s ++ "'"))

mutual

/-- An expression, which may be an assignment. Where `dead` holds its value does not matter. -/
def expression (fuel : Nat) (dead : Bool) : Eval Int :=
  match fuel with
  | 0 => pure 0
  | fuel + 1 => do
    match (← get).rest with
    | .name name :: rest =>
      match assignment? rest.head? with
      | none => conditional fuel dead
      | some op =>
        modify fun s => { s with rest := rest.drop 1 }
        let value ← expression fuel dead
        if dead then pure value
        else match op with
          | none => assign name value
          | some op =>
            let old ← valueOf name
            let value ← (operate op old value : Except Error Int)
            assign name value
    | _ => conditional fuel dead
termination_by structural fuel

/-- A choice between two expressions. -/
def conditional (fuel : Nat) (dead : Bool) : Eval Int :=
  match fuel with
  | 0 => pure 0
  | fuel + 1 => do
    let a ← disjunction fuel dead
    if (← peek) ≠ some (.sign "?") then return a
    let _ ← next
    let b ← expression fuel (dead || a = 0)
    expect ":"
    let c ← conditional fuel (dead || a ≠ 0)
    return if a ≠ 0 then b else c
termination_by structural fuel

def disjunction (fuel : Nat) (dead : Bool) : Eval Int :=
  match fuel with
  | 0 => pure 0
  | fuel + 1 => do
    let a ← conjunction fuel dead
    if (← peek) ≠ some (.sign "||") then return a
    let _ ← next
    let b ← disjunction fuel (dead || a ≠ 0)
    return ofBool (a ≠ 0 || b ≠ 0)
termination_by structural fuel

def conjunction (fuel : Nat) (dead : Bool) : Eval Int :=
  match fuel with
  | 0 => pure 0
  | fuel + 1 => do
    let a ← primary fuel dead
    let a ← operation fuel dead 8 a
    if (← peek) ≠ some (.sign "&&") then return a
    let _ ← next
    let b ← conjunction fuel (dead || a = 0)
    return ofBool (a ≠ 0 && b ≠ 0)
termination_by structural fuel

/-- The operators of a rank below `bound` that follow a value. -/
def operation (fuel : Nat) (dead : Bool) (bound : Nat) (a : Int) : Eval Int :=
  match fuel with
  | 0 => pure a
  | fuel + 1 => do
    match ← peek with
    | some (.sign s) =>
      match (rank? s).filter (· < bound) with
      | none => return a
      | some rank =>
        let _ ← next
        let b ← primary fuel dead
        let b ← operation fuel dead rank b
        let a ← if dead then pure b else (operate s a b : Except Error Int)
        operation fuel dead bound a
    | _ => return a
termination_by structural fuel

/-- A value with the signs before it. -/
def primary (fuel : Nat) (dead : Bool) : Eval Int :=
  match fuel with
  | 0 => pure 0
  | fuel + 1 => do
    match ← next with
    | some (.number n) => return n
    | some (.name name) => if dead then return 0 else valueOf name
    | some (.sign "(") =>
      let a ← expression fuel dead
      expect ")"
      return a
    | some (.sign "+") => primary fuel dead
    | some (.sign "-") => return wrap (-(← primary fuel dead))
    | some (.sign "!") => return ofBool ((← primary fuel dead) = 0)
    | some (.sign "~") => return -(← primary fuel dead) - 1
    | _ => fail (.malformed "expecting primary")
termination_by structural fuel

end

/-- The value of an expression and the changes of variables, the first change first. -/
def evaluate (values : List (String × String)) (readOnly : List String) (text : String) :
    Except Error (Int × List (String × String)) :=
  let rest := symbols (text.length + 1) text.toList
  match expression (12 * rest.length + 16) false { values, readOnly, rest } with
  | .error e => .error e
  | .ok (value, s) =>
    if s.rest.isEmpty then .ok (value, s.changes.reverse)
    else .error (.malformed "expecting EOF")

end Arithmetic

end Script

end Shell
