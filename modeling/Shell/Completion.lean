import Shell.Command.Search

/-!
# Completion of command names

Only the first word of a line is completed. A single match is offered with a blank after it, so
that an argument can follow at once.
-/

namespace Shell

structure Candidate where
  display : String
  replacement : String
  deriving DecidableEq, Repr

namespace Completion

/-- The candidates for these names. -/
def ofNames (names : List String) : List Candidate :=
  names.map fun name =>
    { display := name, replacement := if names.length = 1 then name ++ " " else name }

/-- The text before byte offset `pos`; `none` if the offset is inside a character. An offset past
the end means the whole line. -/
def headAt? (pos : Nat) : List Char → Option (List Char)
  | [] => some []
  | c :: cs =>
    if pos = 0 then some []
    else if pos < c.utf8Size then none
    else (headAt? (pos - c.utf8Size) cs).map (c :: ·)

/-- The byte offset at which the word before `pos` begins, and the candidates for that word;
`none` if `pos` is inside a character. -/
def candidates? (ctx : Context) (fs : FileSystem) (line : String) (pos : Nat) :
    Option (Nat × List Candidate) :=
  (headAt? pos line.toList).map fun head =>
    let word := head.dropWhile isBlank
    if word.any isBlank then (pos, [])
    else
      let start := (String.ofList (head.takeWhile isBlank)).utf8ByteSize
      (start, ofNames (ctx.commandNames fs (String.ofList word)))

end Completion

end Shell
