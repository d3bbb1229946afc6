import Shell.Text.Bytes
import Shell.Text.Grapheme.Table

/-!
# Graphemes

What a reader takes for one character can be several: a letter with marks, a syllable of jamo, a
flag, a family of pictographs. Text is divided into such groups by the rules of Unicode for extended
grapheme clusters, and a backspace takes back one group.
-/

namespace Shell

namespace Grapheme

/-- What the rules of division know about a character. -/
inductive Kind
  | other
  | carriageReturn
  | lineFeed
  | control
  | extend
  | joiner
  | prepend
  | spacing
  | lead
  | vowel
  | trail
  /-- A syllable without a final consonant. -/
  | openSyllable
  | closedSyllable
  | regional
  | picture
  | consonant
  deriving DecidableEq, Repr

/-- A code point is in one of these ranges. -/
def within (ranges : List (Nat × Nat)) (n : Nat) : Bool :=
  ranges.any fun r => r.1 ≤ n && n ≤ r.2

/-- The kind of a character that is not ASCII. -/
def wideKind (n : Nat) : Kind :=
  if 0xAC00 ≤ n && n ≤ 0xD7A3 then
    if (n - 0xAC00) % 28 = 0 then .openSyllable else .closedSyllable
  else if within [(0x1100, 0x115F), (0xA960, 0xA97C)] n then .lead
  else if within [(0x1160, 0x11A7), (0xD7B0, 0xD7C6), (0x16D63, 0x16D63), (0x16D67, 0x16D6A)] n then
    .vowel
  else if within [(0x11A8, 0x11FF), (0xD7CB, 0xD7FB)] n then .trail
  else if 0x1F1E6 ≤ n && n ≤ 0x1F1FF then .regional
  else if n = 0x200D then .joiner
  else if within extenders n then .extend
  else if within spacing n then .spacing
  else if within prepended n then .prepend
  else if within controls n then .control
  else if within consonants n then .consonant
  else if within pictures n then .picture
  else .other

/-- The kind of a character. -/
def kind (c : Char) : Kind :=
  if c = '\r' then .carriageReturn
  else if c = '\n' then .lineFeed
  else if c.toNat < 0x20 || c.toNat = 0x7F then .control
  else if c.toNat < 0x7F then .other
  else wideKind c.toNat

/-- How far a pictograph is tied to the next one. -/
inductive Tie
  | loose
  /-- A pictograph, and marks after it. -/
  | begun
  /-- A joiner after these. -/
  | joined
  deriving DecidableEq, Repr

/-- What the rules have to remember of the characters before a place. -/
structure Before where
  last : Kind
  tie : Tie := .loose
  /-- There is a consonant with marks after it; the flag tells that one of them is a linker. -/
  linked : Option Bool := none
  /-- The last character is half of a flag. -/
  half : Bool := false
  deriving DecidableEq, Repr

/-- What is remembered when a character was added. -/
def Before.add (b : Option Before) (c : Char) : Before :=
  let k := kind c
  let tie := b.elim Tie.loose Before.tie
  let linked := b.bind Before.linked
  { last := k
    tie := match k with
      | .picture => .begun
      | .extend => if tie = .begun then .begun else .loose
      | .joiner => if tie = .begun then .joined else .loose
      | _ => .loose
    linked :=
      if k = .consonant then some false
      else if within linkers c.toNat then linked.map fun _ => true
      else if (k = .extend && c.toNat ≠ 0x200C) || k = .joiner then linked
      else none
    half := k = .regional && !b.any fun b => b.last = .regional && b.half }

/-- Nothing divides a character from those before it. -/
def joins (b : Before) (c : Char) : Bool :=
  let k := kind c
  let stands := fun (k : Kind) => k = .control || k = .carriageReturn || k = .lineFeed
  if b.last = .carriageReturn && k = .lineFeed then true
  else if stands b.last || stands k then false
  else if b.last = .lead && [Kind.lead, .vowel, .openSyllable, .closedSyllable].contains k then true
  else if [Kind.openSyllable, .vowel].contains b.last && [Kind.vowel, .trail].contains k then true
  else if [Kind.closedSyllable, .trail].contains b.last && k = .trail then true
  else if k = .extend || k = .joiner || k = .spacing || b.last = .prepend then true
  else if b.linked = some true && k = .consonant then true
  else if b.tie = .joined && k = .picture then true
  else b.last = .regional && b.half && k = .regional

/-- Divide text into graphemes. The first three arguments are the grapheme being read and those
before it, both in reverse, and what is remembered of the text so far. -/
def divide : List Char → List (List Char) → Option Before → List Char → List (List Char)
  | group, done, _, [] => (if group.isEmpty then done else group.reverse :: done).reverse
  | group, done, before, c :: cs =>
    let after := some (Before.add before c)
    if before.any fun b => joins b c then divide (c :: group) done after cs
    else divide [c] (if group.isEmpty then done else group.reverse :: done) after cs

/-- The graphemes of a text. -/
def ofText (s : String) : List String :=
  (divide [] [] none s.toList).map String.ofList

/-- The character that takes back what was typed before it. -/
def backspace : String := "\x08"

/-- One step of reading typed text: a grapheme is added, or a backspace takes the last one back.
The text so far is kept as bytes, and the sizes of its graphemes as single bytes. -/
def type (state : Bytes × List Nat) (g : String) : Bytes × List Nat :=
  let (text, sizes) := state
  if g = backspace then
    match sizes with
    | [] => state
    | n :: sizes => (text.take (text.length - n), sizes)
  else (text ++ encode g, g.utf8ByteSize % 256 :: sizes)

/-- What is left of typed text when each backspace has taken back the grapheme before it. -/
def applyBackspaces (s : String) : String :=
  if s.toList.contains '\x08' then decodeLossy ((ofText s).foldl type ([], [])).1 else s

end Grapheme

end Shell
