import Shell.Text.Bytes

/-!
# Lines

A line ends at a line feed. The last line of a text may lack one; the empty rest after the last
line feed is not a line.
-/

namespace Shell

/-- Cut a list at each line feed, which is dropped. The flag of a piece tells whether a line feed
ended it. The first two lists hold, in reverse, the piece being read and the pieces before it. -/
def cutLinesFrom {α : Type} [DecidableEq α] (feed : α) :
    List α → List (List α × Bool) → List α → List (List α × Bool)
  | line, done, [] => (if line.isEmpty then done else (line.reverse, false) :: done).reverse
  | line, done, c :: cs =>
    if c = feed then cutLinesFrom feed [] ((line.reverse, true) :: done) cs
    else cutLinesFrom feed (c :: line) done cs

/-- Cut a list at each line feed. -/
def cutLines {α : Type} [DecidableEq α] (feed : α) (cs : List α) : List (List α × Bool) :=
  cutLinesFrom feed [] [] cs

/-- A line ended by a line feed also loses one carriage return before it. -/
def stripReturn (line : List Char × Bool) : List Char :=
  if line.2 && line.1.getLast? == some '\r' then line.1.dropLast else line.1

/-- The lines of a text, each without its line end. -/
def textLines (s : String) : List String :=
  (cutLines '\n' s.toList).map fun line => String.ofList (stripReturn line)

/-- The lines of a byte sequence, each with its line feed if it has one. -/
def byteLines (bs : Bytes) : List Bytes :=
  (cutLines (10 : UInt8) bs).map fun line => if line.2 then line.1 ++ [10] else line.1

end Shell
