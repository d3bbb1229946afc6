/-!
# Fields

An expanded word is text of which every part is known to be quoted or not and to be divided into
fields or not. From it come the fields, a plain text or a pattern.
-/

namespace Shell

namespace Script

/-- A character of an expanded word, or a quotation mark that stood there. -/
inductive Cell
  | mark
  /-- A quoted character stands for itself in patterns. -/
  | char (c : Char) (quoted : Bool)
  deriving DecidableEq, Repr

/-- How a part of an expanded word is divided into fields. -/
inductive Division
  | whole
  /-- At separators. -/
  | fields
  /-- At the ends of arguments, which are marked by zeros. -/
  | arguments
  deriving DecidableEq, Repr

structure Segment where
  cells : List Cell
  division : Division := .whole
  deriving DecidableEq, Repr

namespace Segment

/-- The segment of a text. -/
def ofText (text : List Char) (quoted : Bool) (division : Division := .whole) : Segment :=
  { cells := text.map fun c => .char c quoted, division }

end Segment

/-- The characters of some cells. -/
def cellText (cells : List Cell) : List Char :=
  cells.filterMap fun
    | .mark => none
    | .char c _ => some c

/-- The text of an expanded word. -/
def segmentText (segments : List Segment) : List Char :=
  (segments.map fun s => cellText s.cells).flatten

/-- Some cells as a pattern: a backslash stands before quoted characters. -/
def cellPattern (cells : List Cell) : List Char :=
  (cells.map fun
    | .mark => []
    | .char c true => ['\\', c]
    | .char c false => [c]).flatten

/-- An expanded word as a pattern. -/
def segmentPattern (segments : List Segment) : List Char :=
  (segments.map fun s => cellPattern s.cells).flatten

/-! ### Fields -/

namespace Fields

/-- What is known while fields are divided. -/
structure Work where
  done : List (List Cell) := []
  /-- The cells of the field that is being read, in reverse. -/
  field : List Cell := []
  /-- Blanks at a separator are passed over. -/
  inBlanks : Bool := false
  /-- The last part was one of arguments. -/
  arguments : Bool := false
  /-- How many fields there may still be. -/
  left : Option Nat := none
  /-- The length that the last field has without the separators at its end. -/
  cut : Option Nat := none
  deriving DecidableEq, Repr

/-- The standard separators, which are blanks. -/
def blanks : List Char := [' ', '\t', '\n']

/-- The next character of a part that is divided at some separators. -/
def step (separators : List Char) (byArguments afterArguments : Bool) (w : Work) (cell : Cell) :
    Work :=
  match cell with
  | .mark => { w with field := cell :: w.field }
  | .char c _ =>
    let isSeparator := c = '\x00' || separators.contains c
    let isBlank := isSeparator && (c = '\x00' || blanks.contains c)
    let push (w : Work) : Work := { w with field := cell :: w.field }
    if w.left = some 0 then
      -- Only the last field is left; note where separators at its end begin.
      if isBlank then { push w with cut := w.cut.or (some w.field.length) }
      else { push w with cut := if isSeparator && w.inBlanks then w.cut else none
                         inBlanks := false }
    else if w.inBlanks && isBlank then { w with field := [] }
    else if w.inBlanks && isSeparator then { w with field := [], inBlanks := false }
    else if isSeparator then
      let inBlanks := if byArguments || afterArguments then w.inBlanks else isBlank
      if w.field.isEmpty && inBlanks then { w with inBlanks := false }
      else match w.left with
        | some 1 =>
          { push w with left := some 0, cut := some w.field.length, inBlanks }
        | left =>
          { w with done := w.field.reverse :: w.done, field := [], inBlanks,
                   left := left.map (· - 1) }
    else { push w with inBlanks := false }

/-- The next part. -/
def part (separators : List Char) (w : Work) (s : Segment) : Work :=
  match s.division with
  | .whole => { w with field := s.cells.reverse ++ w.field, inBlanks := false }
  | .fields =>
    { s.cells.foldl (step separators false w.arguments) { w with inBlanks := false } with
      arguments := false }
  | .arguments =>
    { s.cells.foldl (step [] true w.arguments) { w with inBlanks := false } with arguments := true }

/-- The fields of an expanded word. With a number, at most so many. A field without a cell, not even
a quotation mark, is none, unless it is the last argument. -/
def divide (separators : Option String) (segments : List Segment) (left : Option Nat := none) :
    List (List Cell) :=
  let separators := (separators.map String.toList).getD blanks
  let w := segments.foldl (part separators) { left }
  let field := match w.cut with
    | some n => w.field.reverse.take n
    | none => w.field.reverse
  (if field.isEmpty && !w.arguments then w.done else field :: w.done).reverse

end Fields

end Script

end Shell
