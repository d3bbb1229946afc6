/-!
# Bytes and text

Streams and files hold bytes; lines and names are text. Text is written as UTF-8. Reading is
either strict, and fails on a malformed byte, or lossy, and writes the replacement character
`U+FFFD` for every maximal malformed part.
-/

namespace Shell

/-- A sequence of bytes. -/
abbrev Bytes := List UInt8

/-- The UTF-8 form of a text. -/
def encode (s : String) : Bytes :=
  s.toUTF8.data.toList

/-- The text that `bs` is the UTF-8 form of, if there is one. -/
def decode? (bs : Bytes) : Option String :=
  String.fromUTF8? ⟨bs.toArray⟩

/-- A byte that continues a character: `10xxxxxx`. -/
def isContinuation (b : UInt8) : Bool :=
  0x80 ≤ b && b ≤ 0xBF

/-- How many continuation bytes a leading byte announces; `none` if it cannot lead. -/
def followers? (lead : UInt8) : Option Nat :=
  if lead < 0x80 then some 0
  else if 0xC2 ≤ lead && lead ≤ 0xDF then some 1
  else if 0xE0 ≤ lead && lead ≤ 0xEF then some 2
  else if 0xF0 ≤ lead && lead ≤ 0xF4 then some 3
  else none

/-- A byte that may come right after `lead`. Some leads narrow the range, which rules out overlong
forms, surrogates and code points past `U+10FFFF`. -/
def mayFollow (lead next : UInt8) : Bool :=
  if lead == 0xE0 then 0xA0 ≤ next && next ≤ 0xBF
  else if lead == 0xED then 0x80 ≤ next && next ≤ 0x9F
  else if lead == 0xF0 then 0x90 ≤ next && next ≤ 0xBF
  else if lead == 0xF4 then 0x80 ≤ next && next ≤ 0x8F
  else isContinuation next

/-- The longest run of bytes at the front of `rest` that can belong to the character of `lead`. -/
def continuation (lead : UInt8) (rest : Bytes) : Bytes :=
  match followers? lead, rest with
  | some (n + 1), b :: bs =>
    if mayFollow lead b then b :: (bs.take n).takeWhile isContinuation else []
  | _, _ => []

/-- The code point that a leading byte and its complete continuation stand for. -/
def codePoint (lead : UInt8) (tail : Bytes) : Nat :=
  let first :=
    match tail.length with
    | 0 => lead.toNat
    | 1 => lead.toNat % 0x20
    | 2 => lead.toNat % 0x10
    | _ => lead.toNat % 0x08
  tail.foldl (fun acc b => acc * 0x40 + b.toNat % 0x40) first

/-- One step of `repair`: the character at the front and what is left after it. -/
def repairStep (lead : UInt8) (rest : Bytes) : Char × Bytes :=
  let tail := continuation lead rest
  let c :=
    if followers? lead = some tail.length then Char.ofNat (codePoint lead tail)
    else Char.ofNat 0xFFFD
  (c, rest.drop tail.length)

theorem length_repairStep_le (lead : UInt8) (rest : Bytes) :
    (repairStep lead rest).2.length ≤ rest.length := by
  simp [repairStep]

/-- The characters of `bs`, with `U+FFFD` for every maximal malformed part, after the characters
of `done`, which stand in reverse. -/
def repair (done : List Char) (bs : Bytes) : List Char :=
  match bs with
  | [] => done.reverse
  | lead :: rest => repair ((repairStep lead rest).1 :: done) (repairStep lead rest).2
termination_by bs.length
decreasing_by
  have := length_repairStep_le lead rest
  simp only [List.length_cons]
  omega

/-- Read bytes as text whatever they are: malformed parts are replaced. -/
def decodeLossy (bs : Bytes) : String :=
  match decode? bs with
  | some s => s
  | none => String.ofList (repair [] bs)

end Shell
