import Shell.Program.Print

/-!
# Replacing characters

`tr` replaces, deletes or squeezes bytes. Sets of bytes are written with ranges, classes, repeats
and escapes.
-/

namespace Shell

namespace Program

namespace Replace

/-! ### Sets -/

/-- A part of a set. -/
inductive Item
  | char (b : UInt8)
  | range (lo hi : UInt8)
  | named (name : String)
  | like (b : UInt8)
  /-- A byte so many times, or as often as is needed. -/
  | copies (b : UInt8) (count : Option Nat)
  deriving DecidableEq, Repr

/-- A byte of a set as it is written, and whether it was escaped. -/
abbrev Mark := UInt8 × Bool

/-- The bytes of a written set, with escapes resolved and marked. -/
def marks : Nat → List Mark → List Char → List Mark
  | 0, done, _ => done.reverse
  | _ + 1, done, [] => done.reverse
  | fuel + 1, done, '\\' :: cs =>
    match cs with
    | [] => marks fuel ((92, false) :: done) []
    | c :: rest =>
      if Print.isOctal c then
        let ds := (cs.take 3).takeWhile Print.isOctal
        let ds := if numeral 8 ds > 255 then ds.take 2 else ds
        marks fuel (((numeral 8 ds).toUInt8, true) :: done) (cs.drop ds.length)
      else
        let b := if c = '"' || c = 'e' then c.toNat else (Print.escapeLetter? c).getD c.toNat
        marks fuel ((b.toUInt8, true) :: done) rest
  | fuel + 1, done, c :: cs => marks fuel ((c.toNat.toUInt8, false) :: done) cs

/-- What is said about escapes of a written set that may be meant otherwise. -/
def warnings : Nat → List Char → List String
  | 0, _ => []
  | _ + 1, [] => []
  | fuel + 1, '\\' :: cs =>
    match cs with
    | [] => ["warning: an unescaped backslash at end of string is not portable"]
    | c :: rest =>
      if Print.isOctal c then
        let ds := (cs.take 3).takeWhile Print.isOctal
        if numeral 8 ds > 255 then
          let pair := String.ofList (ds.take 2)
          ("warning: the ambiguous octal escape \\" ++ String.ofList ds ++
            " is being\n\tinterpreted as the 2-byte sequence \\0" ++ pair ++ ", " ++
            String.ofList (ds.drop 2)) :: warnings fuel (cs.drop 2)
        else warnings fuel (cs.drop ds.length)
      else warnings fuel rest
  | fuel + 1, _ :: cs => warnings fuel cs

/-- The bytes of a class. -/
def classBytes? (name : String) : Option Bytes :=
  let all : Bytes := (List.range 256).map Nat.toUInt8
  let char := fun (b : UInt8) => Char.ofNat b.toNat
  let graph := fun (b : UInt8) => 33 ≤ b && b ≤ 126
  match name with
  | "alnum" => some (all.filter fun b => (char b).isAlphanum)
  | "alpha" => some (all.filter fun b => (char b).isAlpha)
  | "blank" => some [9, 32]
  | "cntrl" => some (all.filter fun b => b < 32 || b == 127)
  | "digit" => some (all.filter fun b => (char b).isDigit)
  | "graph" => some (all.filter graph)
  | "lower" => some (all.filter fun b => (char b).isLower)
  | "print" => some (all.filter fun b => graph b || b == 32)
  | "punct" => some (all.filter fun b => graph b && !(char b).isAlphanum)
  | "space" => some [9, 10, 11, 12, 13, 32]
  | "upper" => some (all.filter fun b => (char b).isUpper)
  | "xdigit" => some (all.filter fun b => (Floating.hexDigit? (char b)).isSome)
  | _ => none

/-- The text of some marks, for complaints. -/
def markText (ms : List Mark) : String :=
  octets (ms.map Prod.fst)

/-- The position of two plain characters, one right behind the other. -/
def findPair (a b : UInt8) : List Mark → Nat → Option Nat
  | (x, false) :: (y, false) :: rest, i =>
    if x = a && y = b then some i else findPair a b ((y, false) :: rest) (i + 1)
  | _ :: rest, i => findPair a b rest (i + 1)
  | [], _ => none

/-- What stands in brackets between two signs, like `[:alpha:]`, and what follows. -/
def bracketed? (sign : UInt8) (ms : List Mark) : Option (List Mark × List Mark) :=
  match ms with
  | (91, false) :: (s, false) :: rest =>
    if s = sign then
      (findPair sign 93 rest 0).map fun i => (rest.take i, rest.drop (i + 2))
    else none
  | _ => none

/-- A byte in brackets with a star and perhaps a number, like `[x*4]`: the byte, the text of the
number, and what follows. -/
def repeat? (ms : List Mark) : Option (UInt8 × String × List Mark) :=
  match ms with
  | (91, false) :: (b, _) :: (42, false) :: rest =>
    let digits := rest.takeWhile fun m => m ≠ (93, false)
    match rest.drop digits.length with
    | _ :: after => some (b, markText digits, after)
    | [] => none
  | _ => none

/-- A number of repeats, or a complaint: octal behind a zero, and as many as needed for none. -/
def repeatCount (text : String) : Except String (Option Nat) :=
  let ds := text.toList
  let base := if ds.head? = some '0' then 8 else 10
  if ds.all (isDigitIn base) then
    let n := numeral base ds
    .ok (if n = 0 then none else some n)
  else .error ("invalid repeat count " ++ Quoted.argument text ++ " in [c*n] construct")

/-- The parts of a set, or a complaint. -/
def items : Nat → List Item → List Mark → Except String (List Item)
  | 0, done, _ => .ok done.reverse
  | _ + 1, done, [] => .ok done.reverse
  | fuel + 1, done, m :: ms =>
    match bracketed? 58 (m :: ms), bracketed? 61 (m :: ms), repeat? (m :: ms) with
    | some (name, after), _, _ =>
      if name.isEmpty then .error "missing character class name '[::]'"
      else if (classBytes? (markText name)).isNone then
        .error ("invalid character class " ++ Quoted.argument (markText name))
      else items fuel (.named (markText name) :: done) after
    | none, some ([(b, _)], after), _ => items fuel (.like b :: done) after
    | none, some ([], _), _ => .error "missing equivalence class character '[==]'"
    | none, some (name, _), _ =>
      .error (markText name ++ ": equivalence class operand must be a single character")
    | none, none, some (b, text, after) =>
      match repeatCount text with
      | .ok count => items fuel (.copies b count :: done) after
      | .error complaint => .error complaint
    | none, none, none =>
      match ms with
      | (45, false) :: (hi, _) :: after =>
        if m.1 ≤ hi then items fuel (.range m.1 hi :: done) after
        else
          let text := octets [m.1] ++ "-" ++ octets [hi]
          .error ("range-endpoints of " ++ Quoted.argument text ++
            " are in reverse collating sequence order")
      | _ => items fuel (.char m.1 :: done) ms

/-- The bytes of a part. Repeats without a number are counted `filler` times. -/
def Item.bytes (filler : Nat) : Item → Bytes
  | .char b => [b]
  | .like b => [b]
  | .range lo hi => (List.range (hi.toNat + 1 - lo.toNat)).map fun i => (lo.toNat + i).toUInt8
  | .named name => (classBytes? name).getD []
  | .copies b (some n) => List.replicate n b
  | .copies b none => List.replicate filler b

/-- The bytes of a set. -/
def expand (filler : Nat) (set : List Item) : Bytes :=
  set.flatMap (Item.bytes filler)

def isFiller : Item → Bool
  | .copies _ none => true
  | _ => false

def isNamed : Item → Bool
  | .named _ => true
  | _ => false

/-- A class of letters of one case. -/
def isCase : Item → Bool
  | .named "upper" | .named "lower" => true
  | _ => false

/-- For each byte of a set whether a class of letters begins there. Such a class counts as one. -/
def caseMarks (filler : Nat) (set : List Item) : List Bool :=
  set.flatMap fun i => if isCase i then [true] else (i.bytes filler).map fun _ => false

/-- Every class of letters in the second set has one at its place in the first, up to right behind
the end of that. -/
def casesFit : List Bool → List Bool → Bool
  | a :: as, b :: bs => (!b || a) && casesFit as bs
  | [], b :: _ => !b
  | _, [] => true

/-! ### Options -/

structure Mode where
  complement : Bool := false
  delete : Bool := false
  squeeze : Bool := false
  truncate : Bool := false
  deriving DecidableEq, Repr

def Mode.add (m : Mode) : Char → Mode
  | 'd' => { m with delete := true }
  | 's' => { m with squeeze := true }
  | 't' => { m with truncate := true }
  | _ => { m with complement := true }

def switches : Switches where
  letters := "AcCdst".toList.map fun c => (c, .no)
  names := [
    { name := "complement", letter := 'c' }, { name := "delete", letter := 'd' },
    { name := "squeeze-repeats", letter := 's' }, { name := "truncate-set1", letter := 't' }]
  strict := true

/-- What `tr` does to text: it deletes bytes, maps the others, and squeezes runs. -/
structure Rule where
  deleted : Array Bool
  table : Array UInt8
  squeezed : Array Bool

/-- A set as a table. -/
def members (set : Bytes) : Array Bool :=
  set.foldl (fun t b => t.setIfInBounds b.toNat true) (Array.replicate 256 false)

/-- All bytes that are not in a set. -/
def others (set : Bytes) : Bytes :=
  let t := members set
  ((List.range 256).map Nat.toUInt8).filter fun b => !t.getD b.toNat false

/-- The rule that maps the bytes of one set to those of another, the last one of which is repeated
as often as needed. -/
def mapping (source target : Bytes) : Array UInt8 :=
  let fill := target.getLast?.getD 0
  let target := target ++ List.replicate (source.length - target.length) fill
  (source.zip target).foldl (fun t (a, b) => t.setIfInBounds a.toNat b)
    ((List.range 256).map Nat.toUInt8).toArray

/-- Apply a rule. The last byte written before is remembered for squeezing. -/
def Rule.apply (r : Rule) (last : Option UInt8) (bytes : Bytes) : Bytes × Option UInt8 :=
  let (done, last) := bytes.foldl (fun (acc : Bytes × Option UInt8) b =>
    if r.deleted.getD b.toNat false then acc
    else
      let c := r.table.getD b.toNat b
      if acc.2 = some c && r.squeezed.getD c.toNat false then acc
      else (c :: acc.1, some c)) ([], last)
  (done.reverse, last)

/-- The rule for two sets that map, or a complaint. -/
def mappingRule (m : Mode) (first second : List Item) : Except String Rule :=
  let source := expand 0 first
  let source := if m.complement then others source else source
  let fixed := (expand 0 second).length
  let filler := if second.any isFiller then source.length - fixed else 0
  let target := expand filler second
  let isLike := fun (i : Item) => match i with
    | .like _ => true
    | _ => false
  if second.any isLike then
    .error "[=c=] expressions may not appear in string2 when translating"
  else if second.any fun i => isNamed i && !isCase i then
    .error ("when translating, the only character classes that may appear in\n" ++
      "string2 are 'upper' and 'lower'")
  else if !m.complement && !casesFit (caseMarks 0 first) (caseMarks filler second) then
    .error "misaligned [:upper:] and/or [:lower:] construct"
  else if target.isEmpty && !m.truncate && !source.isEmpty then
    .error "when not truncating set1, string2 must be non-empty"
  else if source.length > target.length && !m.truncate && second.getLast?.any isNamed then
    .error ("when translating with string1 longer than string2,\n" ++
      "the latter string must not end with a character class")
  else if m.complement && first.any isNamed &&
      (target.eraseDups.length > 1 || source.length < target.length ||
        (m.truncate && target.length < source.length)) then
    .error ("when translating with complemented character classes,\n" ++
      "string2 must map all characters in the domain to one")
  else
    let source := if m.truncate then source.take target.length else source
    .ok { deleted := members [], table := mapping source target
          squeezed := members (if m.squeeze then target else []) }

/-- The rule for one or two sets, or a complaint. -/
def rule (m : Mode) (first : List Item) (second : Option (List Item)) : Except String Rule :=
  let identity : Array UInt8 := ((List.range 256).map Nat.toUInt8).toArray
  let source := expand 0 first
  let source := if m.complement then others source else source
  if first.any isFiller then .error "the [c*] repeat construct may not appear in string1"
  else match second with
    | none =>
      .ok { deleted := members (if m.delete then source else []), table := identity
            squeezed := members (if m.squeeze && !m.delete then source else []) }
    | some second =>
      if (second.filter isFiller).length > 1 then
        .error "only one [c*] repeat construct may appear in string2"
      else if m.delete then
        if second.any isFiller then
          .error "the [c*] construct may appear in string2 only when translating"
        else
          .ok { deleted := members source, table := identity
                squeezed := members (expand 0 second) }
      else mappingRule m first second

/-- Apply a rule to standard input. -/
def run (inv : Invocation) (r : Rule) : Nat → Option UInt8 → Task Nat
  | 0, _ => pure 0
  | turns + 1, last => do
    match ← Task.ask (.read 0 Task.blockSize) with
    | .error e => fail inv ("read error: " ++ e.text)
    | .ok [] => pure 0
    | .ok block => do
      let (bytes, last) := r.apply last block
      emit inv bytes
      run inv r turns last

/-- The parts of a set as it is written in an argument. A wrong one ends the tool. -/
def parse (inv : Invocation) (text : String) : Task (List Item) := do
  (warnings (text.length + 1) text.toList).forM (complain inv)
  let ms := marks (text.length + 1) [] text.toList
  match items (ms.length + 1) [] ms with
  | .ok set => pure set
  | .error e => do
    complain inv e
    Task.exit 1

/-- Replace, delete or squeeze by one or two sets. -/
def runSets (inv : Invocation) (m : Mode) (first : String) (second : Option String) :
    Task Nat := do
  let first ← parse inv first
  let second ← second.mapM (parse inv)
  match rule m first second with
  | .error e => fail inv e
  | .ok rule => run inv rule Task.patience none

/-- Complain about operands, with a line that explains. -/
def misfit (inv : Invocation) (complaint explanation : String) : Task Nat := do
  say (inv.name ++ ": " ++ complaint ++ "\n" ++ explanation ++ tryHelp inv)
  pure 1

end Replace

/-- Replace, delete or squeeze bytes. -/
def tr (inv : Invocation) : Task Nat := do
  let r := Replace.switches.read inv.args
  match r.complaint with
  | some text => misuse inv text
  | none =>
    let m := r.options.foldl (fun m o => Replace.Mode.add m o.1) {}
    match r.operands with
    | [] => misuse inv "missing operand"
    | [a] =>
      if m.delete && m.squeeze then
        Replace.misfit inv ("missing operand after " ++ Quoted.argument a)
          "Two strings must be given when both deleting and squeezing repeats.\n"
      else if m.delete || m.squeeze then Replace.runSets inv m a none
      else
        Replace.misfit inv ("missing operand after " ++ Quoted.argument a)
          "Two strings must be given when translating.\n"
    | [a, b] =>
      if m.delete && !m.squeeze then
        Replace.misfit inv ("extra operand " ++ Quoted.argument b)
          "Only one string may be given when deleting without squeezing repeats.\n"
      else Replace.runSets inv m a (some b)
    | _ :: b :: c :: _ =>
      let extra := if m.delete && !m.squeeze then b else c
      misuse inv ("extra operand " ++ Quoted.argument extra)

end Program

end Shell
