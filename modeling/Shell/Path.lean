import Shell.Text.Join

/-!
# Paths

A path is written as text with `/` between its segments. Its normal form has no empty segment and
no `.` or `..`: it is a list of names that starts at the root or not. Normal forms are computed
from the text alone, without looking at any file: `..` removes the name before it, and nothing if
there is none.
-/

namespace Shell

/-- A path in normal form. -/
structure Path where
  rooted : Bool
  names : List String
  deriving DecidableEq, Repr

namespace Path

/-- The root directory. -/
def root : Path := ⟨true, []⟩

/-- A path text that starts at the root. -/
def isAbsolute (text : String) : Bool :=
  startsWithText "/" text

/-- The segments of a path text that name something: neither empty nor `.`. -/
def segments (text : String) : List String :=
  (splitText '/' text).filter fun s => s ≠ "" && s ≠ "."

/-- Follow one segment. -/
def descend (p : Path) (segment : String) : Path :=
  if segment = ".." then { p with names := p.names.dropLast }
  else { p with names := p.names ++ [segment] }

/-- The path that `text` means when read at `base`. -/
def resolve (base : Path) (text : String) : Path :=
  (segments text).foldl descend (if isAbsolute text then root else base)

/-- The normal form of a path text on its own. -/
def ofText (text : String) : Path :=
  resolve ⟨false, []⟩ text

/-- The written form of a path. -/
def text (p : Path) : String :=
  (if p.rooted then "/" else "") ++ joinText "/" p.names

/-- The normal form of `target` read at `base`, as text. -/
def normalize (base target : String) : String :=
  ((ofText base).resolve target).text

/-- The written form of entry `name` of the directory `p`. -/
def entryText (p : Path) (name : String) : String :=
  if p.names.isEmpty then p.text ++ name else p.text ++ "/" ++ name

/-- Expand a leading `~`, alone or before `/`, to `home`. An empty or missing `home` leaves the
word as it is. -/
def expandTilde (word : String) (home : Option String) : String :=
  match home with
  | none => word
  | some "" => word
  | some home =>
    match word.toList with
    | ['~'] => home
    | '~' :: '/' :: rest =>
      String.ofList (home.toList.reverse.dropWhile (· == '/')).reverse ++ "/" ++ String.ofList rest
    | _ => word

end Path

end Shell
