import Shell.Script.Reader

/-!
# Parsing scripts

Recursive descent over the characters of a script. Words are read together with the commands that
stand in them, so the rules for words and those for commands refer to each other. Every rule is
given a number that bounds the depth and length of what it reads.

`Script.command` reads one complete command, to the end of its line.
-/

namespace Shell

namespace Script

/-- The kind of text in which a `$` or a backquote stands. -/
inductive Setting
  | plain
  /-- Double quotes. -/
  | quotes
  | arithmetic
  /-- A document. -/
  | document
  deriving DecidableEq, Repr

/-- What is in the braces of a setting is read as in quotes. -/
def Setting.isQuoted : Setting → Bool
  | .plain => false
  | _ => true

/-- How a word is looked at. -/
structure Check where
  /-- Newlines before it do not count. -/
  newlines : Bool := false
  keywords : Bool := false
  aliases : Bool := false
  deriving DecidableEq, Repr

/-- At the beginning of a command. -/
def Check.command : Check := { keywords := true, aliases := true }

/-- At the beginning of a command that may stand on another line. -/
def Check.anywhere : Check := { newlines := true, keywords := true, aliases := true }

/-- How far a list of commands goes. -/
inductive Extent
  /-- To the end of the line. -/
  | line
  /-- To a word that ends lists, behind at least one command. -/
  | required
  /-- To a word that ends lists. -/
  | optional
  deriving DecidableEq, Repr

/-- A name and what is done with the parameter, and whether a word follows up to the closing
brace. -/
structure BraceHead where
  name : String
  modifier : Modifier
  hasWord : Bool

/-- A sign behind the name of a parameter that says what to do with it. -/
def modifierOf (orEmpty : Bool) : Char → Option Modifier
  | '-' => some (.fallback orEmpty)
  | '+' => some (.replace orEmpty)
  | '?' => some (.demand orEmpty)
  | '=' => some (.assign orEmpty)
  | _ => none

namespace Parse

/-- How many steps the parser makes at most. -/
def patience : Nat := Nat.pow 2 40

/-- What stands behind the name of a parameter in braces. -/
def modifier (name : String) : Parse BraceHead := do
  match ← next with
  | some ':' =>
    let c ← next
    -- A closing brace right behind the colon closes nothing.
    if c = some '}' then return ⟨name, .fallback false, true⟩
    return ⟨name, (c.bind (modifierOf true)).getD .wrong, true⟩
  | some '}' => return ⟨name, .plain, false⟩
  | some '%' => return ⟨name, .trim true (← accept '%'), true⟩
  | some '#' => return ⟨name, .trim false (← accept '#'), true⟩
  | some c => return ⟨name, (modifierOf false c).getD .wrong, true⟩
  | none => return ⟨name, .wrong, true⟩

/-- The name of a parameter whose length is asked for. Something else before the closing brace makes
it wrong. -/
def lengthOf (name : String) : Parse BraceHead := do
  let c ← next
  unread c
  return ⟨name, if c = some '}' then .length else .wrong, true⟩

/-- What stands in braces up to the word. -/
def braceHead : Parse BraceHead := do
  match ← next with
  | some '}' =>
    unread (some '}')
    return ⟨"", .wrong, true⟩
  | some '#' =>
    let c ← next
    if c.any isNameChar then
      unread c
      let d := c.getD 'a'
      let name ← takeWhile (if d.isDigit then Char.isDigit else isNameChar) patience []
      lengthOf (String.ofList name)
    else
      let d ← next
      unread d
      if c = some '}' || d ≠ some '}' then
        unread c
        modifier "#"
      else if c.any isSpecial then return ⟨String.ofList c.toList, .length, true⟩
      else return ⟨"", .wrong, true⟩
  | some c =>
    if isNameStart c then
      let rest ← takeWhile isNameChar patience []
      modifier (String.ofList (c :: rest))
    else if c.isDigit then
      let rest ← takeWhile Char.isDigit patience []
      modifier (String.ofList (c :: rest))
    else if isSpecial c then modifier (String.ofList [c])
    else
      return ⟨"", .wrong, true⟩
  | none => return ⟨"", .wrong, true⟩

/-- The characters that a backslash takes their meaning in double quotes. -/
def isEscapable (setting : Setting) (inBraces : Bool) (c : Char) : Bool :=
  c = '\\' || c = '`' || c = '$' || (c = '"' && (inBraces || setting ≠ .document)) ||
    (c = '}' && inBraces)

/-- A backslash where most characters keep their meaning was read. -/
def backslash (setting : Setting) (inBraces : Bool) (parts : List Part) : Parse (List Part) := do
  match ← nextRaw with
  | none => return pushChar '\\' true parts
  | some c =>
    countIfLine c
    return if isEscapable setting inBraces c then pushChar c true parts
      else pushChar c true (pushChar '\\' true parts)

/-- The rest of a text in single quotes. -/
def single : Nat → List Part → Parse (List Part)
  | 0, parts => pure parts
  | fuel + 1, parts => do
    match ← nextRaw with
    | none => refuse .openQuote
    | some '\'' => pure (.quotes :: parts)
    | some c =>
      countIfLine c
      single fuel (pushChar c true parts)

/-- The text of a command between backquotes. -/
def backquoted (quoted : Bool) : Nat → List Char → Parse (List Char)
  | 0, done => pure done.reverse
  | fuel + 1, done => do
    match ← next with
    | none => refuse .openBackquote
    | some '`' => pure done.reverse
    | some '\\' =>
      match ← nextRaw with
      | none => refuse .openBackquote
      | some c =>
        countIfLine c
        if c = '\\' || c = '`' || c = '$' || (quoted && c = '"') then
          backquoted quoted fuel (c :: done)
        else backquoted quoted fuel (c :: '\\' :: done)
    | some c =>
      countIfLine c
      backquoted quoted fuel (c :: done)

/-- A redirection sign, behind the number of a stream. -/
def redirect (stream : Option Nat) (c : Char) : Parse Token := do
  if c = '>' then
    let stream := stream.getD 1
    match ← next with
    | some '>' => return .redirect stream (.file .append)
    | some '|' => return .redirect stream (.file .clobber)
    | some '&' => return .redirect stream .copy
    | c =>
      unread c
      return .redirect stream (.file .output)
  else
    let stream := stream.getD 0
    match ← next with
    | some '<' => return .redirect stream (.document (← accept '-'))
    | some '&' => return .redirect stream .copy
    | some '>' => return .redirect stream (.file .both)
    | c =>
      unread c
      return .redirect stream (.file .input)

/-- A single digit or nothing, which a redirection sign may follow. -/
def streamNumber? : List Part → Option (Option Nat)
  | [] => some none
  | [.text [c] false] => if c.isDigit then some (some (c.toNat - '0'.toNat)) else none
  | _ => none

/-- Pass over a comment. -/
def comment : Nat → Parse Unit
  | 0 => pure ()
  | fuel + 1 => do
    match ← nextRaw with
    | none => pure ()
    | some '\n' => unread (some '\n')
    | some _ => comment fuel

/-- Put the text of an alias before what is left. -/
def enterAlias (name text : String) : Parse Unit :=
  modify fun r =>
    let goesOn := text.toList.getLast?.any fun c => c = ' ' || c = '\t'
    { r with chars := text.toList, beneath := ⟨name, goesOn, r.chars⟩ :: r.beneath }

/-- The text of an alias was read to its end, and it ends with a word. -/
def atAliasEnd : Parse Bool := fun r =>
  .ok (r.chars.isEmpty && r.beneath.head?.any (fun b => !b.goesOn), r)

/-- The text of an alias that is not being read. -/
def alias? (name : String) : Parse (Option String) := fun r =>
  .ok (if r.beneath.any (fun b => b.name = name) then none else r.aliases.lookup name, r)

/-- Announce a document and give it a number. -/
def announce (mark : List Char) (strip literal : Bool) : Parse Nat := fun r =>
  let id := r.documents.size
  .ok (id, { r with documents := r.documents.push []
                    announced := r.announced ++ [⟨id, mark, strip, literal⟩] })

def setDocument (id : Nat) (word : Word) : Parse Unit :=
  modify fun r => { r with documents := r.documents.setIfInBounds id word }

/-- The names that no function can have. -/
def specialBuiltins : List String :=
  [".", ":", "break", "continue", "eval", "exec", "exit", "export", "readonly", "return", "set",
   "shift", "times", "trap", "unset"]

/-- The arguments of the shell, which a loop without words goes through. -/
def allArguments : Word := [.quotes, .parameter "@" .plain [] true, .quotes]

/-- A command that is not waited for. -/
def inBackground : Node → Node
  | .pipeline stages _ => .pipeline stages true
  | .redirected line body redirects => .background line body redirects
  | node => .background 0 node []

/-- A command with the redirections that stand behind it. -/
def withRedirects (line : Nat) (node : Node) (redirects : List Redirect) : Node :=
  if redirects.isEmpty then node
  else match node with
    | .subshell line body _ => .subshell line body redirects
    | node => .redirected line node redirects

mutual

/-- The rest of a word outside quotes, and whether something in it is quoted. -/
def word (mark : Bool) : Nat → List Part → Bool → Parse (List Part × Bool)
  | 0, parts, quoted => pure (parts, quoted)
  | fuel + 1, parts, quoted => do
    if ← atAliasEnd then return (parts, quoted)
    match ← next with
    | none => pure (parts, quoted)
    | some '\\' =>
      match ← nextRaw with
      | none => word mark fuel (pushChar '\\' true parts) quoted
      | some c =>
        countIfLine c
        word mark fuel (pushChar c true parts) true
    | some '\'' => word mark fuel (← single fuel (.quotes :: parts)) true
    | some '"' => word mark fuel (← double mark fuel (.quotes :: parts)) true
    | some '$' => word mark fuel (← dollar .plain mark fuel parts) quoted
    | some '`' =>
      if mark then word mark fuel (pushChar '`' false parts) true
      else word mark fuel (← backquote .plain fuel parts) quoted
    | some c =>
      if endsWord c then
        unread (some c)
        pure (parts, quoted)
      else word mark fuel (pushChar c false parts) quoted
termination_by structural fuel => fuel

/-- The rest of a text in double quotes. -/
def double (mark : Bool) : Nat → List Part → Parse (List Part)
  | 0, parts => pure parts
  | fuel + 1, parts => do
    match ← next with
    | none => refuse .openQuote
    | some '"' => pure (.quotes :: parts)
    | some '\\' => double mark fuel (← backslash .quotes false parts)
    | some '$' => double mark fuel (← dollar .quotes mark fuel parts)
    | some '`' =>
      if mark then double mark fuel (pushChar '`' true parts)
      else double mark fuel (← backquote .quotes fuel parts)
    | some c =>
      countIfLine c
      double mark fuel (pushChar c true parts)
termination_by structural fuel => fuel

/-- What a `$` begins, or the sign itself. -/
def dollar (setting : Setting) (mark : Bool) : Nat → List Part → Parse (List Part)
  | 0, parts => pure parts
  | fuel + 1, parts => do
    let c ← next
    if mark then
      unread c
      return pushChar '$' setting.isQuoted parts
    match c with
    | some '(' =>
      if ← accept '(' then
        let expression ← arithmetic fuel 0 []
        return .arithmetic (finishWord expression) setting.isQuoted :: parts
      else
        let body ← substitution fuel
        return .output body setting.isQuoted :: parts
    | some '{' => return (← braces setting fuel) :: parts
    | some c =>
      if isNameStart c then
        let rest ← takeWhile isNameChar patience []
        return .parameter (String.ofList (c :: rest)) .plain [] setting.isQuoted :: parts
      else if isSpecial c then
        return .parameter (String.ofList [c]) .plain [] setting.isQuoted :: parts
      else
        unread (some c)
        return pushChar '$' setting.isQuoted parts
    | none => return pushChar '$' setting.isQuoted parts
termination_by structural fuel => fuel

/-- A parameter in braces. -/
def braces (setting : Setting) : Nat → Parse Part
  | 0 => refuse .openBrace
  | fuel + 1 => do
    let head ← braceHead
    let word ←
      if !head.hasWord then pure []
      else match head.modifier, setting with
        | .trim _ _, _ | _, .plain => braceWord fuel []
        | _, setting => quotedBraceWord setting fuel false []
    return .parameter head.name head.modifier (finishWord word) setting.isQuoted
termination_by structural fuel => fuel

/-- The word of a parameter in braces, outside quotes. -/
def braceWord : Nat → List Part → Parse (List Part)
  | 0, _ => refuse .openBrace
  | fuel + 1, parts => do
    match ← next with
    | none => refuse .openBrace
    | some '}' => pure parts
    | some '\\' =>
      match ← nextRaw with
      | none => braceWord fuel (pushChar '\\' true parts)
      | some c =>
        countIfLine c
        braceWord fuel (pushChar c true parts)
    | some '\'' => braceWord fuel (← single fuel (.quotes :: parts))
    | some '"' => braceWord fuel (← double false fuel (.quotes :: parts))
    | some '$' => braceWord fuel (← dollar .plain false fuel parts)
    | some '`' => braceWord fuel (← backquote .plain fuel parts)
    | some c =>
      countIfLine c
      braceWord fuel (pushChar c false parts)
termination_by structural fuel => fuel

/-- The word of a parameter in braces in double quotes. Between quotes in it a brace closes
nothing. -/
def quotedBraceWord (setting : Setting) : Nat → Bool → List Part → Parse (List Part)
  | 0, _, _ => refuse .openBrace
  | fuel + 1, inner, parts => do
    match ← next with
    | none => refuse (if setting = .document then .openBrace else .openQuote)
    | some '"' =>
      quotedBraceWord setting fuel (!inner)
        (if setting = .document then parts else .quotes :: parts)
    | some '\\' => quotedBraceWord setting fuel inner (← backslash setting true parts)
    | some '$' => quotedBraceWord setting fuel inner (← dollar setting false fuel parts)
    | some '`' => quotedBraceWord setting fuel inner (← backquote setting fuel parts)
    | some c =>
      if c = '}' && !inner then pure parts
      else
        countIfLine c
        quotedBraceWord setting fuel inner (pushChar c true parts)
termination_by structural fuel => fuel

/-- An arithmetic expression up to the two parentheses that close it. -/
def arithmetic : Nat → Nat → List Part → Parse (List Part)
  | 0, _, _ => refuse .openArithmetic
  | fuel + 1, depth, parts => do
    match ← next with
    | none => refuse .openArithmetic
    | some '(' => arithmetic fuel (depth + 1) (pushChar '(' true parts)
    | some ')' =>
      if 0 < depth then arithmetic fuel (depth - 1) (pushChar ')' true parts)
      else if ← accept ')' then pure parts
      else arithmetic fuel depth (pushChar ')' true parts)
    | some '\\' => arithmetic fuel depth (← backslash .arithmetic false parts)
    | some '$' => arithmetic fuel depth (← dollar .arithmetic false fuel parts)
    | some '`' => arithmetic fuel depth (← backquote .arithmetic fuel parts)
    | some c =>
      countIfLine c
      arithmetic fuel depth (pushChar c true parts)
termination_by structural fuel => fuel

/-- The command between `$(` and `)`. -/
def substitution : Nat → Parse (Option Node)
  | 0 => pure none
  | fuel + 1 => do
    let announced := (← get).announced
    modify fun r => { r with announced := [] }
    let body ← list fuel .optional
    let t ← token fuel {}
    if !t.isSign ")" then expecting t ")"
    documents fuel
    modify fun r => { r with announced }
    pure body
termination_by structural fuel => fuel

/-- The command between backquotes. What follows a complete list of commands does not count. -/
def backquote (setting : Setting) : Nat → List Part → Parse (List Part)
  | 0, parts => pure parts
  | fuel + 1, parts => do
    let text ← backquoted setting.isQuoted fuel []
    let outer ← get
    set { outer with chars := text, beneath := [], line := 1, isFinal := true, announced := [] }
    let body ← list fuel .optional
    documents fuel
    modify fun r => { outer with documents := r.documents }
    pure (.output body setting.isQuoted :: parts)
termination_by structural fuel => fuel

/-- Read the documents that were announced. -/
def documents : Nat → Parse Unit
  | 0 => pure ()
  | fuel + 1 => do
    match (← get).announced with
    | [] => pure ()
    | a :: rest =>
      modify fun r => { r with announced := rest }
      let body ←
        if a.literal then literalDocument a fuel true []
        else
          let parts ← document a fuel true []
          pure (finishWord parts)
      setDocument a.id body
      documents fuel
termination_by structural fuel => fuel

/-- The rest of a document in which parameters are expanded. -/
def document (a : Announced) : Nat → Bool → List Part → Parse (List Part)
  | 0, _, parts => pure parts
  | fuel + 1, atStart, parts => do
    if atStart then
      if ← atMark a then return parts
    match ← next with
    | none => pure parts
    | some '\\' => document a fuel false (← backslash .document false parts)
    | some '$' => document a fuel false (← dollar .document false fuel parts)
    | some '`' => document a fuel false (← backquote .document fuel parts)
    | some c =>
      countIfLine c
      document a fuel (c = '\n') (pushChar c true parts)
termination_by structural fuel => fuel

/-- The next token as it stands there. -/
def bareToken : Nat → Parse Token
  | 0 => pure .finish
  | fuel + 1 => do
    match ← next with
    | none => pure .finish
    | some ' ' | some '\t' => bareToken fuel
    | some '#' =>
      comment fuel
      bareToken fuel
    | some '\n' =>
      countLine
      pure .newline
    | some '&' => return .sign (if ← accept '&' then "&&" else "&")
    | some '|' => return .sign (if ← accept '|' then "||" else "|")
    | some ';' => return .sign (if ← accept ';' then ";;" else ";")
    | some '(' => pure (.sign "(")
    | some ')' => pure (.sign ")")
    | some c =>
      unread (some c)
      wordToken false fuel
termination_by structural fuel => fuel

/-- A word, or a redirection sign if only a digit stands before it. -/
def wordToken (mark : Bool) : Nat → Parse Token
  | 0 => pure .finish
  | fuel + 1 => do
    let (parts, quoted) ← word mark fuel [] false
    match if quoted then none else streamNumber? parts with
    | none => pure (.word (finishWord parts) quoted)
    | some stream =>
      match ← next with
      | some '>' => redirect stream '>'
      | some '<' => redirect stream '<'
      | c =>
        unread c
        pure (.word (finishWord parts) quoted)
termination_by structural fuel => fuel

/-- The next token, with the documents read that end with a line before it. -/
def tokenPastLines (check : Check) : Nat → Parse Token
  | 0 => pure .finish
  | fuel + 1 => do
    let ahead := (← get).ahead
    let t ←
      match ahead with
      | some t =>
        modify fun r => { r with ahead := none }
        pure t
      | none => bareToken fuel
    match t with
    | .newline =>
      if check.newlines then
        documents fuel
        tokenPastLines check fuel
      else pure t
    | t => pure t
termination_by structural fuel => fuel

/-- The next token. Words are looked at as `check` says. -/
def token : Nat → Check → Parse Token
  | 0, _ => pure .finish
  | fuel + 1, check => do
    modify fun r => { r with leftAlias := false }
    let t ← tokenPastLines check fuel
    match t with
    | .word parts false =>
      match plain? parts with
      | none => pure t
      | some text =>
        if check.keywords && keywords.contains text then pure (.keyword text)
        else if check.aliases || (← get).leftAlias then
          match ← alias? text with
          | none => pure t
          | some value =>
            if value ≠ "" then enterAlias text value
            token fuel check
        else pure t
    | t => pure t
termination_by structural fuel => fuel

/-- The word behind a redirection sign. -/
def target (stream : Nat) (sign : RedirectSign) : Nat → Parse Redirect
  | 0 => pure (.document stream 0)
  | fuel + 1 => do
    match sign with
    | .document strip =>
      match ← markToken fuel with
      | .word parts quoted =>
        return .document stream (← announce (literalText parts) strip quoted)
      | t => unexpected t
    | .copy =>
      match ← token fuel {} with
      | .word parts _ => return .copy stream parts
      | t => unexpected t
    | .file kind =>
      match ← token fuel {} with
      | .word parts _ => return .file stream kind parts
      | t => unexpected t
termination_by structural fuel => fuel

/-- The word that ends a document. Nothing in it is expanded. -/
def markToken : Nat → Parse Token
  | 0 => pure .finish
  | fuel + 1 => do
    match ← next with
    | some ' ' | some '\t' => markToken fuel
    | c =>
      unread c
      if c.all endsWord || c = some '#' then bareToken fuel else wordToken true fuel
termination_by structural fuel => fuel

/-- Commands on one line or, inside others, on several. -/
def list : Nat → Extent → Parse (Option Node)
  | 0, _ => pure none
  | fuel + 1, extent => listFrom extent fuel none
termination_by structural fuel => fuel

/-- The rest of a list of commands, behind those that were read already. -/
def listFrom (extent : Extent) : Nat → Option Node → Parse (Option Node)
  | 0, done => pure done
  | fuel + 1, done => do
    let check : Check := if extent = .line then .command else .anywhere
    let t ← token fuel check
    match t with
    | .newline =>
      documents fuel
      return done
    | .finish =>
      documents fuel
      pushBack .finish
      return done
    | t =>
      pushBack t
      if t.endsList && (extent = .optional || (extent = .required && done.isSome)) then
        return done
      let node ← andOr fuel
      let t ← token fuel {}
      let node := if t.isSign "&" then inBackground node else node
      let done := match done with
        | none => node
        | some first => .sequence first node
      match t with
      | .newline | .finish =>
        pushBack t
        listFrom extent fuel (some done)
      | .sign "&" | .sign ";" => listFrom extent fuel (some done)
      | t =>
        if extent = .line then unexpected t
        pushBack t
        return some done
termination_by structural fuel => fuel

/-- Pipelines of which each is run if the one before it succeeds, or if it fails. -/
def andOr : Nat → Parse Node
  | 0 => pure default
  | fuel + 1 => do
    let first ← pipeline fuel {}
    andOrFrom fuel first
termination_by structural fuel => fuel

def andOrFrom : Nat → Node → Parse Node
  | 0, first => pure first
  | fuel + 1, first => do
    let t ← token fuel {}
    match t with
    | .sign "&&" =>
      let second ← pipeline fuel .anywhere
      andOrFrom fuel (.both first second)
    | .sign "||" =>
      let second ← pipeline fuel .anywhere
      andOrFrom fuel (.either first second)
    | t =>
      pushBack t
      pure first
termination_by structural fuel => fuel

/-- Commands that are connected by pipes. -/
def pipeline : Nat → Check → Parse Node
  | 0, _ => pure default
  | fuel + 1, check => do
    let t ← token fuel check
    let negated := t.isKeyword "!"
    if !negated then pushBack t
    let first ← compound fuel (if negated then .command else {})
    let stages ← stagesFrom fuel [first]
    let node := match stages with
      | [node] => node
      | stages => .pipeline stages false
    return if negated then .negate node else node
termination_by structural fuel => fuel

/-- The rest of a pipeline. The stages that were read stand in reverse. -/
def stagesFrom : Nat → List Node → Parse (List Node)
  | 0, done => pure done.reverse
  | fuel + 1, done => do
    let t ← token fuel {}
    if t.isSign "|" then
      let stage ← compound fuel .anywhere
      stagesFrom fuel (stage :: done)
    else
      pushBack t
      pure done.reverse
termination_by structural fuel => fuel

/-- A list that has to be followed by a certain keyword. -/
def listUpTo (closing : String) : Nat → Parse Node
  | 0 => pure default
  | fuel + 1 => do
    let body ← list fuel .required
    let t ← token fuel {}
    if !t.isKeyword closing then expecting t closing
    pure (body.getD default)
termination_by structural fuel => fuel

/-- The rest of a choice, behind the word that begins a test. -/
def choice : Nat → Parse Node
  | 0 => pure default
  | fuel + 1 => do
    let test ← listUpTo "then" fuel
    let body ← list fuel .required
    let body := body.getD default
    let t ← token fuel {}
    match t with
    | .keyword "elif" => return .choice test body (some (← choice fuel))
    | .keyword "else" => return .choice test body (some (← listUpTo "fi" fuel))
    | t =>
      if !t.isKeyword "fi" then expecting t "fi"
      return .choice test body none
termination_by structural fuel => fuel

/-- A command that begins with a keyword or a parenthesis, or a simple one. -/
def compound : Nat → Check → Parse Node
  | 0, _ => pure default
  | fuel + 1, check => do
    let line := (← get).line
    let t ← token fuel check
    match t with
    | .keyword "if" => redirected fuel line (← choice fuel)
    | .keyword "while" => redirected fuel line (← loop false fuel)
    | .keyword "until" => redirected fuel line (← loop true fuel)
    | .keyword "for" => redirected fuel line (← each line fuel)
    | .keyword "case" => redirected fuel line (← select line fuel)
    | .keyword "\x7b" => redirected fuel line (← listUpTo "\x7d" fuel)
    | .sign "(" =>
      let body ← list fuel .required
      let t ← token fuel {}
      if !t.isSign ")" then expecting t ")"
      redirected fuel line (.subshell line (body.getD default) [])
    | .word _ _ | .redirect _ _ =>
      pushBack t
      simple (← get).line fuel { aliases := true } [] [] []
    | t => unexpected t
termination_by structural fuel => fuel

/-- A command with the redirections behind it. -/
def redirected : Nat → Nat → Node → Parse Node
  | 0, _, node => pure node
  | fuel + 1, line, node => do
    let redirects ← redirectsFrom fuel []
    return withRedirects line node redirects
termination_by structural fuel => fuel

def redirectsFrom : Nat → List Redirect → Parse (List Redirect)
  | 0, done => pure done.reverse
  | fuel + 1, done => do
    let t ← token fuel .command
    match t with
    | .redirect stream sign =>
      let r ← target stream sign fuel
      redirectsFrom fuel (r :: done)
    | t =>
      pushBack t
      pure done.reverse
termination_by structural fuel => fuel

/-- A loop with a test. -/
def loop (negated : Bool) : Nat → Parse Node
  | 0 => pure default
  | fuel + 1 => do
    let test ← listUpTo "do" fuel
    let body ← listUpTo "done" fuel
    return .loop negated test body
termination_by structural fuel => fuel

/-- A loop through words. -/
def each (line : Nat) : Nat → Parse Node
  | 0 => pure default
  | fuel + 1 => do
    let t ← token fuel {}
    let name := match t with
      | .word parts false => (plain? parts).filter isName
      | _ => none
    match name with
    | none => refuse .loopVariable
    | some name =>
      let t ← token fuel .anywhere
      let words ←
        if t.isKeyword "in" then
          let words ← wordsFrom fuel []
          let t ← token fuel {}
          match t with
          | .newline | .sign ";" => pure words
          | t => unexpected t
        else
          if !t.isSign ";" then pushBack t
          pure [allArguments]
      let t ← token fuel .anywhere
      if !t.isKeyword "do" then expecting t "do"
      let body ← listUpTo "done" fuel
      return .each line name words body
termination_by structural fuel => fuel

/-- Words up to something else, behind those that were read. -/
def wordsFrom : Nat → List Word → Parse (List Word)
  | 0, done => pure done.reverse
  | fuel + 1, done => do
    match ← token fuel {} with
    | .word parts _ => wordsFrom fuel (parts :: done)
    | t =>
      pushBack t
      pure done.reverse
termination_by structural fuel => fuel

/-- A choice by patterns. -/
def select (line : Nat) : Nat → Parse Node
  | 0 => pure default
  | fuel + 1 => do
    match ← token fuel {} with
    | .word parts _ =>
      let t ← token fuel .anywhere
      if !t.isKeyword "in" then expecting t "in"
      return .select line parts (← casesFrom fuel [])
    | t => unexpected t (some "word")
termination_by structural fuel => fuel

/-- The rest of the cases of a choice by patterns. Those that were read stand in reverse. -/
def casesFrom : Nat → List (List Word × Option Node) → Parse (List (List Word × Option Node))
  | 0, done => pure done.reverse
  | fuel + 1, done => do
    let check : Check := { newlines := true, keywords := true }
    let t ← token fuel check
    if t.isKeyword "esac" then return done.reverse
    let t ← if t.isSign "(" then token fuel {} else pure t
    let patterns ← patternsFrom fuel t []
    let body ← list fuel .optional
    let t ← token fuel check
    let done := (patterns, body) :: done
    if t.isKeyword "esac" then return done.reverse
    if !t.isSign ";;" then expecting t ";;"
    casesFrom fuel done
termination_by structural fuel => fuel

/-- The patterns of a case, from a token that was read already up to the closing parenthesis. -/
def patternsFrom : Nat → Token → List Word → Parse (List Word)
  | 0, _, done => pure done.reverse
  | fuel + 1, t, done => do
    let pattern : Word := match t with
      | .word parts _ => parts
      | .keyword text => [.text text.toList false]
      | _ => []
    let t ← token fuel {}
    if t.isSign "|" then patternsFrom fuel (← token fuel {}) (pattern :: done)
    else
      if !t.isSign ")" then expecting t ")"
      return (pattern :: done).reverse
termination_by structural fuel => fuel

/-- The rest of a simple command. Assignments, words and redirections that were read stand in
reverse. -/
def simple (line : Nat) : Nat → Check → List Word → List Word → List Redirect → Parse Node
  | 0, _, _, _, _ => pure default
  | fuel + 1, check, assignments, words, redirects => do
    let t ← token fuel check
    match t with
    | .word parts _ =>
      if check.aliases && isAssignment parts then
        simple line fuel check (parts :: assignments) words redirects
      else simple line fuel {} assignments (parts :: words) redirects
    | .redirect stream sign =>
      let r ← target stream sign fuel
      simple line fuel check assignments words (r :: redirects)
    | t =>
      match t.isSign "(", assignments, words, redirects with
      | true, [], [name], [] => function name fuel
      | _, _, _, _ =>
        pushBack t
        return .simple line assignments.reverse words.reverse redirects.reverse
termination_by structural fuel => fuel

/-- The rest of a function, behind its name and the opening parenthesis. -/
def function (name : Word) : Nat → Parse Node
  | 0 => pure default
  | fuel + 1 => do
    let t ← token fuel {}
    if !t.isSign ")" then expecting t ")"
    match (plain? name).filter fun n => isName n && !specialBuiltins.contains n with
    | none => refuse .functionName
    | some name =>
      let line := (← get).line
      return .function name line (← compound fuel .anywhere)
termination_by structural fuel => fuel

end

end Parse

/-- What is read from a script at a time. -/
inductive Reading
  /-- There is no further command. -/
  | finished
  /-- A command, unless the line is blank. -/
  | command (node : Option Node)

/-- Read a complete command, to the end of its line. -/
def Reader.command (r : Reader) : Except Fault (Reading × Reader) :=
  match Parse.list Parse.patience .line { r with ahead := none, announced := [] } with
  | .error fault => .error fault
  | .ok (none, r) =>
    .ok (match r.ahead with
      | some .finish => .finished
      | _ => .command none, r)
  | .ok (some node, r) => .ok (.command node, r)

end Script

end Shell
