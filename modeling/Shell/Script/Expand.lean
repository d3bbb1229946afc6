import Shell.Script.Arithmetic
import Shell.Script.Field
import Shell.Script.Pattern
import Shell.Script.State

/-!
# Expanding words

The values of parameters, the output of commands and the values of expressions take the place of
what stands for them in a word. The result is divided into fields, and fields that are patterns
become the names of the files that they match.

Commands in words are run by a function that is given to the expansion.
-/

namespace Shell

namespace Script

namespace State

/-- The value of a parameter. Where words are divided into fields, zeros stand between the arguments
of the shell. -/
def parameter? (s : State) (name : String) (quoted fields : Bool) : Option (List Char) :=
  let number (n : Nat) : Option (List Char) := some (toString n).toList
  let joined (separator : List Char) : Option (List Char) :=
    some ((s.args.map String.toList).intersperse separator).flatten
  let list : Option (List Char) :=
    match s.separators with
    | none => joined [' ']
    | some text => joined (if fields && !quoted then ['\x00'] else text.toList.take 1)
  match name with
  | "$" => number s.process
  | "?" => number s.status
  | "#" => number s.args.length
  | "!" => s.background.bind number
  | "-" => some s.optionLetters
  | "@" => if quoted && fields then joined ['\x00'] else list
  | "*" => list
  | "0" => some s.name.toList
  | _ =>
    if name.toList.all Char.isDigit && name ≠ "" then
      let n := decimal name.toList
      if n = 0 then some s.name.toList else (s.args[n - 1]?).map String.toList
    else (s.value? name).map String.toList

/-- The directory of a user, or of the one that the script runs for. -/
def home? (s : State) (user : String) : Option String :=
  match user with
  | "" => s.value? "HOME"
  | "root" => some "/root"
  | _ => none

/-- Text outside quotes whose first character may stand for a directory. `isLast` tells that nothing
follows in the word. -/
def tildeText (s : State) (inAssignment isLast : Bool) (text : List Char) : List Part :=
  match text with
  | '~' :: rest =>
    let user := rest.takeWhile fun c => c ≠ '/' && !(inAssignment && c = ':')
    let rest' := rest.drop user.length
    match if rest'.isEmpty && !isLast then none else s.home? (String.ofList user) with
    | none => [.text text false]
    | some home => [.text home.toList true, .text rest' false]
  | _ => [.text text false]

/-- Text of an assignment: also what follows the sign or a colon may stand for a directory. -/
def assignmentText (s : State) (isLast : Bool) (text : List Char) (seenSign : Bool) :
    Nat → List Part
  | 0 => [.text text false]
  | fuel + 1 =>
    let head := text.takeWhile fun c => c ≠ ':' && (seenSign || c ≠ '=')
    let rest := text.drop head.length
    let head := s.tildeText true (isLast || !rest.isEmpty) head
    match rest with
    | [] => head
    | c :: rest =>
      head ++ .text [c] false :: s.assignmentText isLast rest (seenSign || c = '=') fuel

/-- An assignment with the names of directories in place of what stands for them. The text in front
of the sign stays as it is. -/
def withHomes (s : State) : Word → Word
  | .text cs false :: rest =>
    let name := cs.takeWhile (· ≠ '=')
    .text (cs.take (name.length + 1)) false ::
      s.assignmentText rest.isEmpty (cs.drop (name.length + 1)) true (cs.length + 1) ++ rest
  | word => word

end State

/-- What a word is expanded for. -/
structure Purpose where
  /-- It is divided into fields. -/
  fields : Bool := false
  /-- Also text outside quotes that stands in the word itself is divided. -/
  ownText : Bool := false
  /-- Its first character may stand for a directory. -/
  homes : Bool := false
  deriving DecidableEq, Repr

/-- The segments of a value. -/
def valueSegments (s : State) (name : String) (quoted : Bool) (value : List Char) : List Segment :=
  let division : Division :=
    if !quoted then .fields
    else if name = "@" && !s.args.isEmpty then .arguments
    else .whole
  [.ofText value quoted division]

/-- The segments of text that stands in a word itself. -/
def State.textSegments (s : State) (purpose : Purpose) (isLast : Bool) (text : List Char)
    (quoted : Bool) : List Segment :=
  let division (quoted : Bool) : Division :=
    if purpose.ownText && !quoted then .fields else .whole
  let parts := if purpose.homes && !quoted then s.tildeText false isLast text
    else [.text text quoted]
  parts.filterMap fun
    | .text cs quoted => some (.ofText cs quoted (division quoted))
    | _ => none

namespace Sh

/-- Complain about a parameter without value. -/
def missing {α : Type} (name text : String) : Sh α := fail (name ++ ": " ++ text)

/-- Give a value to a parameter, which has to be a variable. -/
def assignParameter (name value : String) : Sh Unit :=
  if isName name then assign name value else fail (name ++ ": bad variable name")

/-- The value of an expression. -/
def evaluateText (text : String) : Sh Int := do
  let s ← get
  let values := s.vars.filterMap fun (name, v) => v.value.map fun value => (name, value)
  let readOnly := s.vars.filterMap fun (name, v) => if v.readOnly then some name else none
  match Arithmetic.evaluate values readOnly text with
  | .ok (value, changes) =>
    each (fun (name, value) => assign name value) changes
    pure value
  | .error (.malformed reason) =>
    fail ("arithmetic expression: " ++ reason ++ ": \"" ++ text ++ "\"")
  | .error (.notNumber value) => fail ("Illegal number: " ++ value)
  | .error (.readOnly name) => fail (name ++ ": is read only")

/-- Output as it becomes part of a word: without zeros and without the ends of lines at its end. -/
def trimOutput (text : List Char) : List Char :=
  ((text.filter (· ≠ '\x00')).reverse.dropWhile (· = '\n')).reverse

mutual

/-- Expand the parts of a word. `run` gives the output of a command. -/
def expandParts (run : Node → Sh (List Char)) (purpose : Purpose) : List Part → Sh (List Segment)
  | [] => pure []
  | .quotes :: .parameter "@" .plain [] true :: .quotes :: rest => do
    -- Quotes around all arguments leave no trace, so that no argument gives no field.
    let s ← get
    let value := (s.parameter? "@" true purpose.fields).getD []
    let more ← expandParts run { purpose with homes := false } rest
    pure (valueSegments s "@" true value ++ more)
  | part :: rest => do
    let segments ← expandPart run purpose rest.isEmpty part
    let more ← expandParts run { purpose with homes := false } rest
    pure (segments ++ more)

/-- Expand a part of a word. `isLast` tells that nothing follows in the word. -/
def expandPart (run : Node → Sh (List Char)) (purpose : Purpose) (isLast : Bool) :
    Part → Sh (List Segment)
  | .text cs quoted => do
    let s ← get
    pure (s.textSegments purpose isLast cs quoted)
  | .quotes => pure [{ cells := [.mark] }]
  | .output none _ => pure []
  | .output (some body) quoted => do
    let text ← run body
    pure [.ofText (trimOutput text) quoted (if quoted then .whole else .fields)]
  | .arithmetic expression quoted => do
    let text ← expandParts run {} expression
    let value ← evaluateText (String.ofList (segmentText text))
    pure [.ofText (toString value).toList quoted (if quoted then .whole else .fields)]
  | .parameter name modifier word quoted => do
    let s ← get
    let value := s.parameter? name quoted purpose.fields
    let isMissing (orEmpty : Bool) : Bool := value.isNone || (orEmpty && value = some [])
    let plain : List Segment := match value with
      | none => []
      | some value => valueSegments s name quoted value
    let ofWord : Sh (List Segment) :=
      expandParts run { purpose with ownText := !quoted, homes := true } word
    let ofText : Sh (List Char) := do
      let segments ← expandParts run { homes := true } word
      pure (segmentText segments)
    match modifier with
    | .wrong => fail "Bad substitution"
    | .fallback orEmpty => if isMissing orEmpty then ofWord else pure plain
    | .replace orEmpty => if isMissing orEmpty then pure [] else ofWord
    | .assign orEmpty =>
      if isMissing orEmpty then do
        let text ← ofText
        assignParameter name (String.ofList text)
        pure (valueSegments s name quoted text)
      else pure plain
    | .demand orEmpty =>
      if isMissing orEmpty then do
        let text ← ofText
        if word.isEmpty then
          missing name ("parameter not set" ++ if orEmpty then " or null" else "")
        else missing name (String.ofList text)
      else pure plain
    | modifier =>
      if value.isNone && s.options.contains 'u' then missing name "parameter not set"
      else match modifier, value with
        | .length, value =>
          let n := (value.getD []).length
          pure (valueSegments s "#" quoted (toString n).toList)
        | .trim atEnd longest, some value => do
          let pattern ← expandParts run { homes := true } word
          let pattern := segmentPattern pattern
          let value := if atEnd then Pattern.trimEnd longest pattern value
            else Pattern.trimStart longest pattern value
          pure (valueSegments s name quoted value)
        | _, _ => pure plain

end

/-! ### Names of files -/

/-- The parts of a pattern between slashes. A slash cannot be quoted. -/
def patternSteps (pattern : List Char) : List (List Char) :=
  let rec split : List Char → List Char → List (List Char)
    | done, [] => [done.reverse]
    | done, '\\' :: '/' :: rest => done.reverse :: split [] rest
    | done, '\\' :: c :: rest => split (c :: '\\' :: done) rest
    | done, '/' :: rest => done.reverse :: split [] rest
    | done, c :: rest => split (c :: done) rest
  split [] pattern

/-- Behind the opening bracket a set is closed later. -/
def closesSet : List Char → Bool
  | [] => false
  | '\\' :: _ :: rest => rest.head? = some ']' || closesSet rest
  | _ :: rest => rest.head? = some ']' || closesSet rest

/-- A part of a pattern stands for more than one name. -/
def hasMeta : List Char → Bool
  | [] => false
  | '*' :: _ | '?' :: _ => true
  | '[' :: '!' :: rest => closesSet rest || hasMeta rest
  | '[' :: rest => closesSet rest || hasMeta rest
  | '\\' :: _ :: rest => hasMeta rest
  | _ :: rest => hasMeta rest

/-- The files that match a pattern, given the path up to it. `found` tells that something before was
matched. -/
def matchSteps (found : Bool) : String → List (List Char) → Sh (List String)
  | _, [] => pure []
  | path, [step] =>
    if hasMeta step then do
      let names ← candidates path step
      pure (names.map fun name => path ++ name)
    else if found then do
      let path := path ++ String.ofList (Pattern.unescape step)
      match ← ask (.inspect path false) with
      | .ok _ => pure [path]
      | .error _ => pure []
    else pure []
  | path, step :: rest =>
    if hasMeta step then do
      let names ← candidates path step
      let results ← traverse (fun name => matchSteps true (path ++ name ++ "/") rest) names
      pure results.flatten
    else matchSteps found (path ++ String.ofList (Pattern.unescape step) ++ "/") rest
where
  /-- The names in a directory that match. Those with a dot in front only match a dot. -/
  candidates (path : String) (step : List Char) : Sh (List String) := do
    match ← ask (.list (if path = "" then "." else path)) with
    | .error _ => pure []
    | .ok names =>
      let dotted := match step with
        | '\\' :: '.' :: _ | '.' :: _ => true
        | _ => false
      let names := if dotted then "." :: ".." :: names else names
      pure (names.filter fun name =>
        (dotted || name.toList.head? ≠ some '.') && Pattern.covers step name.toList)

/-- The order of texts by their bytes. -/
def textLE (a b : String) : Bool := !decide (b < a)

/-- The names of the files that a field matches, or the field itself if there is none. -/
def matchField (field : List Cell) : Sh (List String) := do
  let text := String.ofList (cellText field)
  if (← hasOption 'f') || !text.toList.any Pattern.isMeta then return [text]
  let found ← matchSteps false "" (patternSteps (cellPattern field))
  if found.isEmpty then return [text]
  return found.mergeSort textLE

/-! ### Words -/

/-- The fields of a word, with the names of files for patterns. -/
def expandFields (run : Node → Sh (List Char)) (word : Word) : Sh (List String) := do
  let segments ← expandParts run { fields := true, homes := true } word
  let fields := Fields.divide (← get).separators segments
  let found ← traverse matchField fields
  pure found.flatten

/-- The text of a word that is not divided. -/
def expandText (run : Node → Sh (List Char)) (word : Word) (inAssignment : Bool := false) :
    Sh String := do
  let s ← get
  let word := if inAssignment then s.withHomes word else word
  let segments ← expandParts run { homes := !inAssignment } word
  pure (String.ofList (segmentText segments))

/-- A word as a pattern. -/
def expandPattern (run : Node → Sh (List Char)) (word : Word) : Sh (List Char) := do
  let segments ← expandParts run { homes := true } word
  pure (segmentPattern segments)

/-- The text of a document. -/
def expandDocument (run : Node → Sh (List Char)) (word : Word) : Sh String := do
  let segments ← expandParts run {} word
  pure (String.ofList (segmentText segments))

end Sh

end Script

end Shell
