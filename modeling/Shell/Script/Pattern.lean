/-!
# Patterns

Patterns for names and values: `*` stands for any text, `?` for any character and brackets for one
character of a set. A backslash takes the character behind it its meaning.
-/

namespace Shell

namespace Script

namespace Pattern

/-- A member of a set in brackets. -/
inductive Member
  | one (c : Char)
  | range (first last : Char)
  | class (name : String)
  deriving DecidableEq, Repr

/-- The named classes of characters. -/
def inClass (name : String) (c : Char) : Bool :=
  let graph := '!' ≤ c && c ≤ '~'
  match name with
  | "alnum" => c.isAlphanum
  | "alpha" => c.isAlpha
  | "blank" => c = ' ' || c = '\t'
  | "cntrl" => c < ' ' || c = '\x7f'
  | "digit" => c.isDigit
  | "graph" => graph
  | "lower" => c.isLower
  | "print" => graph || c = ' '
  | "punct" => graph && !c.isAlphanum
  | "space" => c = ' ' || ('\t' ≤ c && c ≤ '\r')
  | "upper" => c.isUpper
  | "xdigit" => c.isDigit || ('a' ≤ c && c ≤ 'f') || ('A' ≤ c && c ≤ 'F')
  | _ => false

/-- The names of the classes. -/
def classNames : List String :=
  ["alnum", "alpha", "blank", "cntrl", "digit", "graph", "lower", "print", "punct", "space", "upper",
   "xdigit"]

/-- A class in brackets and colons, of which the first bracket was passed. -/
def class? (pattern : List Char) : Option (String × List Char) :=
  classNames.findSome? fun name =>
    let text := (":" ++ name ++ ":]").toList
    if text.isPrefixOf pattern then some (name, pattern.drop text.length) else none

/-- A character has the order of a signed byte. -/
def order (c : Char) : Int := if c.toNat < 128 then c.toNat else (c.toNat : Int) - 256

def Member.holds (c : Char) : Member → Bool
  | .one d => c = d
  | .range first last => order first ≤ order c && order c ≤ order last
  | .class name => inClass name c

/-- The members of a set up to the closing bracket, and what follows. The first character belongs to
the set whatever it is. -/
def members : Nat → List Char → Option (List Member × List Char)
  | 0, _ => none
  | fuel + 1, pattern =>
    let one (c : Char) (rest : List Char) : Option (Member × List Char) :=
      match rest with
      | '-' :: ']' :: _ => some (.one c, rest)
      | '-' :: '\\' :: d :: rest => some (.range c d, rest)
      | '-' :: d :: rest => some (.range c d, rest)
      | rest => some (.one c, rest)
    let member : Option (Member × List Char) :=
      match pattern with
      | [] => none
      | '[' :: rest =>
        match class? rest with
        | some (name, rest) => some (.class name, rest)
        | none => one '[' rest
      | '\\' :: c :: rest => one c rest
      | c :: rest => one c rest
    match member with
    | none => none
    | some (m, ']' :: rest) => some ([m], rest)
    | some (m, rest) => (members fuel rest).map fun (ms, rest) => (m :: ms, rest)

/-- A set in brackets: whether it stands for the characters outside it, its members and what follows
the closing bracket. -/
def set? (pattern : List Char) : Option (Bool × List Member × List Char) :=
  let (negated, rest) := match pattern with
    | '!' :: rest | '^' :: rest => (true, rest)
    | rest => (false, rest)
  (members (rest.length + 1) rest).map fun (ms, rest) => (negated, ms, rest)

/-- A text and what is left of it when characters are taken off its front. -/
def tails : List Char → List (List Char)
  | [] => [[]]
  | c :: rest => (c :: rest) :: tails rest

/-- The text is what the pattern stands for. The first argument bounds the length of the pattern. -/
def coversFrom : Nat → List Char → List Char → Bool
  | 0, _, text => text.isEmpty
  | _ + 1, [], text => text.isEmpty
  | fuel + 1, '*' :: pattern, text => (tails text).any (coversFrom fuel pattern)
  | fuel + 1, '?' :: pattern, text =>
    match text with
    | [] => false
    | _ :: text => coversFrom fuel pattern text
  | fuel + 1, '[' :: pattern, text =>
    match text with
    | [] => false
    | c :: text =>
      match set? pattern with
      | none => c = '[' && coversFrom fuel pattern text
      | some (negated, ms, rest) =>
        (ms.any (Member.holds c) != negated) && coversFrom fuel rest text
  | fuel + 1, '\\' :: c :: pattern, text =>
    match text with
    | [] => false
    | d :: text => c = d && coversFrom fuel pattern text
  | fuel + 1, c :: pattern, text =>
    match text with
    | [] => false
    | d :: text => c = d && coversFrom fuel pattern text

/-- The text is what the pattern stands for. -/
def covers (pattern text : List Char) : Bool :=
  coversFrom (pattern.length + 1) pattern text

/-- A character of a pattern that stands for others. -/
def isMeta (c : Char) : Bool := c = '*' || c = '?' || c = '['

/-- The text without the backslashes that protect characters. -/
def unescape : List Char → List Char
  | '\\' :: c :: rest => c :: unescape rest
  | c :: rest => c :: unescape rest
  | [] => []

/-! ### Trimming -/

/-- The first of several texts between which zeros stand. -/
def firstText (text : List Char) : List Char := text.takeWhile (· ≠ '\x00')

/-- The longest or shortest beginning of a text that matches is left out. Of several texts between
which zeros stand, a beginning matches if the first text in it does. -/
def trimStart (longest : Bool) (pattern text : List Char) : List Char :=
  let cuts := (List.range (text.length + 1))
  let cuts := if longest then cuts.reverse else cuts
  match cuts.find? fun n => covers pattern (firstText (text.take n)) with
  | some n => text.drop n
  | none => text

/-- The longest or shortest end of a text that matches is left out. Of several texts between which
zeros stand, an end matches if the first text in it does. -/
def trimEnd (longest : Bool) (pattern text : List Char) : List Char :=
  let cuts := (List.range (text.length + 1))
  let cuts := if longest then cuts else cuts.reverse
  match cuts.find? fun n => covers pattern (firstText (text.drop n)) with
  | some n => text.take n
  | none => text

end Pattern

end Script

end Shell
