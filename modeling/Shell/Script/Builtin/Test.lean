import Shell.Script.Builtin.Basic

/-!
# Tests

The command `test`: comparisons of texts and numbers, properties of files, and their combination.
-/

namespace Shell

namespace Script

namespace Builtin

namespace Test

/-- What a word means in a test. -/
inductive Role
  | finish
  | operand
  | unary
  | binary
  | negation
  | conjunction
  | disjunction
  | opening
  | closing
  deriving DecidableEq, Repr

/-- The operators before one value. -/
def unaryOperators : List String :=
  ["-r", "-w", "-x", "-e", "-f", "-d", "-c", "-b", "-p", "-u", "-g", "-k", "-s", "-t", "-z", "-n",
   "-h", "-O", "-G", "-L", "-S"]

/-- The operators between two values. -/
def binaryOperators : List String :=
  ["=", "!=", "<", ">", "-eq", "-ne", "-ge", "-gt", "-le", "-lt", "-nt", "-ot", "-ef"]

/-- What a word means by itself. -/
def roleOf (word : String) : Role :=
  if unaryOperators.contains word then .unary
  else if binaryOperators.contains word then .binary
  else match word with
    | "!" => .negation
    | "-a" => .conjunction
    | "-o" => .disjunction
    | "(" => .opening
    | ")" => .closing
    | _ => .operand

/-- What the word at a place means there. An operator that has nothing to work on is a value. -/
def roleAt (words : Array String) (i : Nat) : Role :=
  match words[i]? with
  | none => .finish
  | some word =>
    match roleOf word with
    | .unary =>
      match words[i + 1]?, words[i + 2]? with
      | none, _ => .operand
      | some _, none => .unary
      | some next, some _ => if roleOf next = .binary then .operand else .unary
    | .opening => if (words[i + 1]?).isNone then .operand else .opening
    | role => role

/-- Leave with an error about a word. -/
def wrong {α : Type} (word text : String) : Sh α :=
  Sh.fail (if word = "" then text else word ++ ": " ++ text)

/-- The number that a word stands for. -/
def integer (text : String) : Sh Int :=
  match wholeNumberAt? false text.toList with
  | some (n, rest) =>
    if fitsWord n && rest.all isBlankOctet then pure n else Sh.fail ("Illegal number: " ++ text)
  | none => Sh.fail ("Illegal number: " ++ text)

/-- What is known about a file. -/
def status? (path : String) (followLinks : Bool := true) : Sh (Option FileStatus) := do
  match ← Sh.ask (.inspect path followLinks) with
  | .ok status => pure (some status)
  | .error _ => pure none

/-- A property of a value or of the file with this name. -/
def property (op word : String) : Sh Bool := do
  match op with
  | "-n" => return word ≠ ""
  | "-z" => return word = ""
  | "-t" =>
    let _ ← integer word
    return false
  | "-h" | "-L" =>
    return (← status? word false).any fun s => match s.entry with
      | .link _ => true
      | _ => false
  | _ =>
    return (← status? word).any fun s =>
      match op, s.entry with
      | "-e", _ | "-O", _ | "-G", _ => true
      | "-r", entry => entry.mayRead
      | "-w", entry => entry.mayWrite
      | "-x", entry => entry.mayRun
      | "-f", entry => entry.isFile
      | "-d", .directory => true
      | "-c", .device _ => true
      | "-s", .file _ content => !content.isEmpty
      | "-s", .program _ | "-s", .directory => true
      | "-u", .file mode _ => mode &&& 0o4000 ≠ 0
      | "-g", .file mode _ => mode &&& 0o2000 ≠ 0
      | "-k", .file mode _ => mode &&& 0o1000 ≠ 0
      | _, _ => false

/-- Compare two values. -/
def compare (op first second : String) : Sh Bool := do
  match op with
  | "=" => return first = second
  | "!=" => return first ≠ second
  | "<" => return first < second
  | ">" => return second < first
  | "-ef" =>
    let a := (← status? first).bind FileStatus.location
    let b := (← status? second).bind FileStatus.location
    return a.isSome && a = b
  | "-nt" | "-ot" => return false
  | op =>
    let a ← integer first
    let b ← integer second
    return match op with
      | "-eq" => a = b
      | "-ne" => a ≠ b
      | "-ge" => b ≤ a
      | "-gt" => b < a
      | "-le" => a ≤ b
      | _ => a < b

mutual

/-- Tests of which one has to hold. The place of the last word that was read is given back. -/
def anyOf (words : Array String) (fuel : Nat) (i : Nat) (role : Role) : Sh (Bool × Nat) :=
  match fuel with
  | 0 => pure (false, i)
  | fuel + 1 => do
    let (a, i) ← allOf words fuel i role
    if roleAt words (i + 1) = .disjunction then do
      let (b, i) ← anyOf words fuel (i + 2) (roleAt words (i + 2))
      pure (a || b, i)
    else pure (a, i)
termination_by structural fuel

/-- Tests that all have to hold. -/
def allOf (words : Array String) (fuel : Nat) (i : Nat) (role : Role) : Sh (Bool × Nat) :=
  match fuel with
  | 0 => pure (false, i)
  | fuel + 1 => do
    let (a, i) ← negated words fuel i role
    if roleAt words (i + 1) = .conjunction then do
      let (b, i) ← allOf words fuel (i + 2) (roleAt words (i + 2))
      pure (a && b, i)
    else pure (a, i)
termination_by structural fuel

/-- A test that may be negated. -/
def negated (words : Array String) (fuel : Nat) (i : Nat) (role : Role) : Sh (Bool × Nat) :=
  match fuel with
  | 0 => pure (false, i)
  | fuel + 1 =>
    if role = .negation then do
      let next := roleAt words (i + 1)
      let (a, i) ← negated words fuel (if next = .finish then i else i + 1) next
      pure (!a, i)
    else primary words fuel i role
termination_by structural fuel

/-- A single test. -/
def primary (words : Array String) (fuel : Nat) (i : Nat) (role : Role) : Sh (Bool × Nat) :=
  match fuel with
  | 0 => pure (false, i)
  | fuel + 1 => do
    let word := (words[i]?).getD ""
    match role with
    | .finish => pure (false, i)
    | .opening =>
      let next := roleAt words (i + 1)
      if next = .closing then pure (false, i + 1)
      else do
        let (a, i) ← anyOf words fuel (i + 1) next
        if roleAt words (i + 1) ≠ .closing then wrong "" "closing paren expected"
        else pure (a, i + 1)
    | .unary =>
      match words[i + 1]? with
      | none => wrong word "argument expected"
      | some value => do
        let a ← property word value
        pure (a, i + 1)
    | _ =>
      if roleAt words (i + 1) = .binary then
        let op := (words[i + 1]?).getD ""
        match words[i + 2]? with
        | none => wrong op "argument expected"
        | some second => do
          let a ← compare op word second
          pure (a, i + 2)
      else pure (word ≠ "", i)
termination_by structural fuel

end

/-- A test from its first word on. -/
def whole (words : Array String) (role : Role) : Sh Bool := do
  let (result, i) ← anyOf words (4 * words.size + 8) 0 role
  match words[i]?, words[i + 1]? with
  | some word, some _ => wrong word "unexpected operator"
  | _, _ => pure result

/-- The outcome of a test, and whether it is negated. Of three and four words the number tells how
they are taken. -/
def evaluate (isNegated : Bool) : Nat → List String → Sh Bool
  | 0, _ => pure false
  | fuel + 1, words =>
    let array := words.toArray
    let outcome (words : Array String) (role : Role) : Sh Bool := do
      let result ← whole words role
      pure (result != isNegated)
    match words with
    | [] => pure isNegated
    | [a, b, c] =>
      if roleOf b = .binary then outcome array .operand
      else if a = "(" && c = ")" then outcome #[b] (roleAt #[b] 0)
      else if a = "!" then evaluate true fuel [b, c]
      else outcome array (roleAt array 0)
    | [a, b, c, d] =>
      if a = "(" && d = ")" then outcome #[b, c] (roleAt #[b, c] 0)
      else if a = "!" then evaluate true fuel [b, c, d]
      else outcome array (roleAt array 0)
    | _ => outcome array (roleAt array 0)

end Test

/-- The status of a test. -/
def test (name : String) (args : List String) : Sh Nat := do
  let words ←
    if startsWithText "[" name then
      if args.getLast?.any (startsWithText "]") then pure args.dropLast
      else Sh.fail "missing ]"
    else pure args
  let result ← Test.evaluate false 4 words
  return if result then 0 else 1

end Builtin

end Script

end Shell
