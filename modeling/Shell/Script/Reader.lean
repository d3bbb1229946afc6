import Shell.Script.Tree
import Shell.Text.Join

/-!
# Reading scripts

The text of a script on its way through the parser: the characters that are left, the line they
stand on, the texts of aliases that stand before them, and the documents that were announced and not
read yet. A script that is read from a stream may end in the middle of a command; the parser then
asks for more text and begins again.
-/

namespace Shell

namespace Script

/-- The words that begin, divide and end compound commands. -/
def keywords : List String :=
  ["!", "case", "do", "done", "elif", "else", "esac", "fi", "for", "if", "in", "then", "until",
   "while", "\x7b", "\x7d"]

/-- What a redirection sign asks for. -/
inductive RedirectSign
  | file (kind : RedirectKind)
  | copy
  /-- A text that stands in the script, of whose lines the tabs in front may be left out. -/
  | document (strip : Bool)
  deriving DecidableEq, Repr

/-- A unit of the grammar. -/
inductive Token
  | finish
  | newline
  | sign (text : String)
  | keyword (text : String)
  | redirect (stream : Nat) (sign : RedirectSign)
  | word (parts : Word) (quoted : Bool)

/-- A token in a message. -/
def Token.describe : Token → String
  | .finish => "end of file"
  | .newline => "newline"
  | .sign text | .keyword text => "\"" ++ text ++ "\""
  | .redirect _ _ => "redirection"
  | .word _ _ => "word"

def Token.isSign (text : String) : Token → Bool
  | .sign t => t = text
  | _ => false

def Token.isKeyword (text : String) : Token → Bool
  | .keyword t => t = text
  | _ => false

/-- A token that cannot begin a command but ends a list of them. -/
def Token.endsList : Token → Bool
  | .finish => true
  | .sign t => t = ")" || t = ";;"
  | .keyword t => ["do", "done", "elif", "else", "esac", "fi", "then", "\x7d"].contains t
  | _ => false

/-- What is wrong with a script. -/
inductive SyntaxError
  /-- A token where it cannot stand, and the one that should stand there. -/
  | unexpected (token : String) (expected : Option String)
  | loopVariable
  | functionName
  | openQuote
  | openBrace
  | openArithmetic
  | openBackquote
  deriving DecidableEq, Repr

/-- The words for an error. -/
def SyntaxError.message : SyntaxError → String
  | .unexpected token none => token ++ " unexpected"
  | .unexpected token (some other) => token ++ " unexpected (expecting " ++ other ++ ")"
  | .loopVariable => "Bad for loop variable"
  | .functionName => "Bad function name"
  | .openQuote => "Unterminated quoted string"
  | .openBrace => "Missing '\x7d'"
  | .openArithmetic => "Missing '))'"
  | .openBackquote => "EOF in backquote substitution"

/-- Why no command could be read. -/
inductive Fault
  /-- The text ends before the command does. -/
  | more
  | wrong (line : Nat) (error : SyntaxError)
  deriving DecidableEq, Repr

/-- Text beneath that of an alias. -/
structure Beneath where
  /-- The alias whose text stands above. -/
  name : String
  /-- The text of the alias ends with a blank, so that the word behind it may be an alias too. -/
  goesOn : Bool
  chars : List Char
  deriving DecidableEq, Repr

/-- A document that was announced. -/
structure Announced where
  id : Nat
  mark : List Char
  strip : Bool
  /-- Nothing in the document is expanded. -/
  literal : Bool
  deriving DecidableEq, Repr

structure Reader where
  chars : List Char
  beneath : List Beneath := []
  line : Nat := 1
  /-- No text follows behind `chars`. -/
  isFinal : Bool := true
  aliases : List (String × String) := []
  /-- A token that was read too early. -/
  ahead : Option Token := none
  /-- The text of an alias that ends with a blank was left. -/
  leftAlias : Bool := false
  announced : List Announced := []
  documents : Array Word := #[]

/-- A part of the parser. -/
abbrev Parse := StateT Reader (Except Fault)

namespace Reader

/-- Leave the texts of aliases that were read to their end. -/
def settle (r : Reader) : List Beneath → Reader
  | [] => { r with beneath := [] }
  | b :: rest =>
    if r.chars.isEmpty then
      settle { r with chars := b.chars, leftAlias := r.leftAlias || b.goesOn } rest
    else { r with beneath := b :: rest }

/-- The lines that a backslash at their end joins to the next are passed over. -/
def skipJoins : Nat → List Char → Nat × List Char
  | line, '\\' :: '\n' :: rest => skipJoins (line + 1) rest
  | line, chars => (line, chars)

end Reader

namespace Parse

/-- Give up with an error on the line that was reached. -/
def refuse {α : Type} (error : SyntaxError) : Parse α :=
  fun r => .error (.wrong r.line error)

/-- The next character as it stands there. -/
def nextRaw : Parse (Option Char) := fun r =>
  let r := if r.chars.isEmpty then r.settle r.beneath else r
  match r.chars with
  | c :: rest => .ok (some c, { r with chars := rest })
  | [] => if r.isFinal then .ok (none, r) else .error .more

/-- The next character, past the ends of lines that are joined to the next. -/
def next : Parse (Option Char) := fun r =>
  let (line, chars) := Reader.skipJoins r.line r.chars
  match chars with
  | ['\\'] =>
    if r.isFinal || !r.beneath.isEmpty then nextRaw { r with line, chars } else .error .more
  | _ => nextRaw { r with line, chars }

/-- Give a character back. -/
def unread (c : Option Char) : Parse Unit :=
  modify fun r => { r with chars := c.toList ++ r.chars }

/-- Pass over a character if it comes next. -/
def accept (c : Char) : Parse Bool := do
  let d ← next
  if d = some c then pure true
  else
    unread d
    pure false

/-- The end of a line was passed. -/
def countLine : Parse Unit :=
  modify fun r => { r with line := r.line + 1 }

def countIfLine (c : Char) : Parse Unit :=
  if c = '\n' then countLine else pure ()

/-- Read characters as long as they belong to a class. The first argument bounds their number. -/
def takeWhile (p : Char → Bool) : Nat → List Char → Parse (List Char)
  | 0, done => pure done.reverse
  | fuel + 1, done => do
    match ← next with
    | some c =>
      if p c then takeWhile p fuel (c :: done)
      else
        unread (some c)
        pure done.reverse
    | none => pure done.reverse

/-- Give a token back. -/
def pushBack (t : Token) : Parse Unit :=
  modify fun r => { r with ahead := some t }

/-- Refuse a token. -/
def unexpected {α : Type} (t : Token) (expected : Option String := none) : Parse α :=
  refuse (.unexpected t.describe expected)

/-- Refuse a token where a certain sign or keyword should stand. -/
def expecting {α : Type} (t : Token) (expected : String) : Parse α :=
  unexpected t (some ("\"" ++ expected ++ "\""))

end Parse

/-! ### Names -/

def isNameStart (c : Char) : Bool := c.isAlpha || c = '_'

def isNameChar (c : Char) : Bool := c.isAlphanum || c = '_'

/-- A character that names a parameter of the shell by itself. -/
def isSpecial (c : Char) : Bool := c.isDigit || "#?$!-*@".toList.contains c

/-- A text can be the name of a variable. -/
def isName (text : String) : Bool :=
  match text.toList with
  | [] => false
  | c :: rest => isNameStart c && rest.all isNameChar

/-- A character that ends a word outside quotes. -/
def endsWord (c : Char) : Bool := "\n \t<>();&|".toList.contains c

/-! ### Words -/

/-- Add a character to a word under construction, whose parts and their characters stand in
reverse. -/
def pushChar (c : Char) (quoted : Bool) : List Part → List Part
  | .text cs q :: rest =>
    if q = quoted then .text (c :: cs) q :: rest else .text [c] quoted :: .text cs q :: rest
  | parts => .text [c] quoted :: parts

/-- The word that was constructed. -/
def finishWord (parts : List Part) : Word :=
  (parts.map fun
    | .text cs q => .text cs.reverse q
    | part => part).reverse

/-- The text of a word that is nothing but text outside quotes. -/
def plain? : Word → Option String
  | [.text cs false] => some (String.ofList cs)
  | _ => none

/-- The text of a word of which nothing is expanded. -/
def literalText (word : Word) : List Char :=
  (word.map fun
    | .text cs _ => cs
    | _ => []).flatten

/-- A word gives a variable a value. -/
def isAssignment (word : Word) : Bool :=
  match word with
  | .text cs false :: _ =>
    let name := cs.takeWhile isNameChar
    isName (String.ofList name) && cs[name.length]? = some '='
  | _ => false

/-! ### Documents -/

/-- The text behind a line that is exactly the mark, if the text begins with such a line. -/
def afterMark? : List Char → List Char → Option (List Char)
  | [], [] => some []
  | [], '\n' :: rest => some rest
  | [], _ => none
  | _ :: _, [] => none
  | m :: mark, c :: rest => if m = c then afterMark? mark rest else none

/-- The text could become a line that is exactly the mark. -/
def mayBeMark : List Char → List Char → Bool
  | _, [] => true
  | [], _ => false
  | m :: mark, c :: rest => m = c && mayBeMark mark rest

namespace Parse

/-- At the beginning of a line of a document: leave out tabs, and pass over the line if it ends the
document. -/
def atMark (a : Announced) : Parse Bool := fun r =>
  let r := if r.chars.isEmpty then r.settle r.beneath else r
  let chars := if a.strip then r.chars.dropWhile (· = '\t') else r.chars
  if !r.isFinal && r.beneath.isEmpty && mayBeMark a.mark chars then .error .more
  else match afterMark? a.mark chars with
    | some rest => .ok (true, { r with chars := rest, line := r.line + 1 })
    | none => .ok (false, { r with chars })

/-- Read a document of which nothing is expanded. The first argument bounds the number of its
characters. -/
def literalDocument (a : Announced) : Nat → Bool → List Char → Parse Word
  | 0, _, done => pure [.text done.reverse true]
  | fuel + 1, atStart, done => do
    if atStart then
      if ← atMark a then return [.text done.reverse true]
    match ← nextRaw with
    | none => pure [.text done.reverse true]
    | some c =>
      countIfLine c
      literalDocument a fuel (c = '\n') (c :: done)

end Parse

end Script

end Shell
