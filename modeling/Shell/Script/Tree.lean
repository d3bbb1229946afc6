/-!
# Scripts

The language that the program `sh` reads, as trees: commands of quoted and expanded words with
redirections, pipelines, lists, conditions, loops and functions.
-/

namespace Shell

namespace Script

/-- What is done with the value of a parameter. -/
inductive Modifier
  | plain
  | length
  /-- The word in place of a value that is missing. With `orEmpty` an empty one counts as missing.
  -/
  | fallback (orEmpty : Bool)
  /-- As `fallback`, and the word becomes the value. -/
  | assign (orEmpty : Bool)
  /-- A missing value is an error. -/
  | demand (orEmpty : Bool)
  /-- The word in place of a value that is not missing. -/
  | replace (orEmpty : Bool)
  /-- The value without what the word matches at its end or beginning. -/
  | trim (atEnd longest : Bool)
  /-- Something that means nothing. -/
  | wrong
  deriving DecidableEq, Repr

/-- How a file is opened for a redirection. -/
inductive RedirectKind
  | input
  | output
  /-- Output even where files are not to be overwritten. -/
  | clobber
  | append
  | both
  deriving DecidableEq, Repr

mutual

/-- A part of a word. The flag of a part tells that it stands in double quotes. -/
inductive Part
  | text (chars : List Char) (quoted : Bool)
  /-- Quotes, even if nothing stands between them. -/
  | quotes
  | parameter (name : String) (modifier : Modifier) (word : List Part) (quoted : Bool)
  | output (body : Option Node) (quoted : Bool)
  | arithmetic (expression : List Part) (quoted : Bool)

/-- A change of the streams of a command. -/
inductive Redirect
  | file (stream : Nat) (kind : RedirectKind) (target : List Part)
  /-- Another number for an open stream, or `-` to close it. -/
  | copy (stream : Nat) (target : List Part)
  /-- Text that stands in the script itself, by its number. -/
  | document (stream : Nat) (id : Nat)

/-- A command. -/
inductive Node
  | simple (line : Nat) (assignments words : List (List Part)) (redirects : List Redirect)
  | pipeline (stages : List Node) (background : Bool)
  | redirected (line : Nat) (body : Node) (redirects : List Redirect)
  | subshell (line : Nat) (body : Node) (redirects : List Redirect)
  | background (line : Nat) (body : Node) (redirects : List Redirect)
  | negate (body : Node)
  | both (first second : Node)
  | either (first second : Node)
  | sequence (first second : Node)
  | choice (test body : Node) (otherwise : Option Node)
  /-- Run the body as long as the test succeeds, or, if `negated`, as long as it fails. -/
  | loop (negated : Bool) (test body : Node)
  | each (line : Nat) (name : String) (words : List (List Part)) (body : Node)
  | select (line : Nat) (word : List Part) (cases : List (List (List Part) × Option Node))
  | function (name : String) (line : Nat) (body : Node)

end

abbrev Word := List Part

instance : Inhabited Node := ⟨.simple 0 [] [] []⟩

end Script

end Shell
