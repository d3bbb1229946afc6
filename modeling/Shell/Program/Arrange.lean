import Shell.Process.Collect
import Shell.Program.Tool
import Shell.Text.Floating
import Shell.Text.Lines

/-!
# Sorting lines

`sort` arranges lines by keys: parts of the lines that are compared as text or as numbers. Where all
keys agree the whole lines decide, unless order is to be kept.
-/

namespace Shell

namespace Program

namespace Arrange

/-! ### Comparing -/

/-- How keys are compared that are not compared as texts. -/
inductive Measure
  | number
  | floating
  /-- Numbers with a letter for thousands, millions and so on. -/
  | human
  | month
  | version
  deriving DecidableEq, Repr

/-- The ordering options of a key. -/
structure Manner where
  /-- None for texts. More than one cannot be kept. -/
  measures : List Measure := []
  reverse : Bool := false
  /-- Letters count the same in both cases. -/
  fold : Bool := false
  /-- Only blanks, letters and digits count. -/
  dictionary : Bool := false
  /-- Only what can be printed counts. -/
  printable : Bool := false
  /-- Blanks before the beginning and the end of the key do not count. -/
  skipStart : Bool := false
  skipEnd : Bool := false
  deriving DecidableEq, Repr

def compareBytes : Bytes → Bytes → Ordering
  | [], [] => .eq
  | [], _ :: _ => .lt
  | _ :: _, [] => .gt
  | a :: as, b :: bs => if a < b then .lt else if b < a then .gt else compareBytes as bs

def isBlankByte (b : UInt8) : Bool := b == 32 || b == 9 || b == 10

def isDigitByte (b : UInt8) : Bool := 48 ≤ b && b ≤ 57

/-- The value of decimal digits. -/
def digitsValue (ds : Bytes) : Nat :=
  ds.foldl (fun n b => n * 10 + (b.toNat - 48)) 0

/-- A decimal number: a whole number and how many of its digits are places. -/
structure Number where
  value : Int
  places : Nat
  deriving DecidableEq, Repr

/-- The number at the front of some bytes, and what follows it. Nothing there is zero. -/
def numberAt (bytes : Bytes) : Number × Bytes :=
  let bytes := bytes.dropWhile isBlankByte
  let (negative, bytes) := match bytes with
    | 45 :: rest => (true, rest)
    | _ => (false, bytes)
  let whole := bytes.takeWhile isDigitByte
  let rest := bytes.drop whole.length
  let (fraction, rest) := match rest with
    | 46 :: ds => (ds.takeWhile isDigitByte, ds.dropWhile isDigitByte)
    | _ => ([], rest)
  let n : Int := digitsValue (whole ++ fraction)
  ({ value := if negative then -n else n, places := fraction.length }, rest)

def compareNumbers (a b : Number) : Ordering :=
  compare (a.value * Int.pow 10 b.places) (b.value * Int.pow 10 a.places)

/-- The rank of a letter for thousands, millions and so on. -/
def unitRank (bytes : Bytes) : Nat :=
  match bytes with
  | 107 :: _ | 75 :: _ => 1
  | 77 :: _ => 2
  | 71 :: _ => 3
  | 84 :: _ => 4
  | 80 :: _ => 5
  | 69 :: _ => 6
  | 90 :: _ => 7
  | 89 :: _ => 8
  | 82 :: _ => 9
  | 81 :: _ => 10
  | _ => 0

def compareHuman (a b : Bytes) : Ordering :=
  let (m, after) := numberAt a
  let (n, after') := numberAt b
  let rank := fun (x : Number) (rest : Bytes) =>
    let r : Int := if x.value = 0 then 0 else unitRank rest
    if x.value < 0 then -r else r
  match compare (rank m after) (rank n after') with
  | .eq => compareNumbers m n
  | o => o

/-- The number of a month by the first three letters of its name. -/
def monthRank (bytes : Bytes) : Nat :=
  let word := ((bytes.dropWhile isBlankByte).take 3).map fun b => (Char.ofNat b.toNat).toUpper
  let names := ["JAN", "FEB", "MAR", "APR", "MAY", "JUN", "JUL", "AUG", "SEP", "OCT", "NOV", "DEC"]
  match names.findIdx? fun n => n.toList = word with
  | some i => i + 1
  | none => 0

/-- The order of floating-point texts: no number, then not-a-numbers, then numbers. -/
def compareFloating (a b : Bytes) : Ordering :=
  let read := fun (bytes : Bytes) =>
    (Floating.read? Floating.extended (octets bytes).toList).map Prod.fst
  let rank := fun (x : Option Floating) => match x with
    | none => 0
    | some (.notNumber _) => 1
    | some (.infinite true) => 2
    | some (.finite ..) => 3
    | some (.infinite false) => 4
  match read a, read b with
  | some (.finite s m e), some (.finite t n f) =>
    let low := min e f
    let value := fun (s : Bool) (m : Nat) (e : Int) =>
      let n : Int := m * Int.pow 2 (e - low).toNat
      if s then -n else n
    compare (value s m e) (value t n f)
  | x, y => compare (rank x) (rank y)

/-- The rank of a byte in version order: a tilde comes before the end, letters before signs. -/
def versionRank (b : UInt8) : Nat :=
  let c := Char.ofNat b.toNat
  if c.isDigit then 1
  else if c = '~' then 0
  else if c.isAlpha then b.toNat + 1
  else b.toNat + 257

/-- Version order: runs of digits are compared as numbers, all else by rank. -/
def compareVersions : Nat → Bytes → Bytes → Ordering
  | 0, _, _ => .eq
  | _ + 1, [], [] => .eq
  | fuel + 1, as, bs =>
    let notDigit := fun (b : UInt8) => !isDigitByte b
    let x := as.takeWhile notDigit
    let y := bs.takeWhile notDigit
    let ranks := fun (part rest : Bytes) => part.map versionRank ++ (if rest.isEmpty then [] else [1])
    let rec go : List Nat → List Nat → Ordering
      | [], [] => .eq
      | [], r :: _ => if r = 0 then .gt else .lt
      | r :: _, [] => if r = 0 then .lt else .gt
      | r :: rs, s :: ss => if r < s then .lt else if s < r then .gt else go rs ss
    match go (ranks x (as.drop x.length)) (ranks y (bs.drop y.length)) with
    | .eq =>
      let as := as.drop x.length
      let bs := bs.drop y.length
      let m := as.takeWhile isDigitByte
      let n := bs.takeWhile isDigitByte
      match compare (digitsValue m) (digitsValue n) with
      | .eq => compareVersions fuel (as.drop m.length) (bs.drop n.length)
      | o => o
    | o => o

/-- Nothing but suffixes: dots with a letter or tilde behind them, then letters, digits and tildes.
-/
def isSuffixes : Nat → Bytes → Bool
  | _, [] => true
  | fuel + 1, 46 :: b :: rest =>
    let char (b : UInt8) : Char := Char.ofNat b.toNat
    ((char b).isAlpha || b = 126) &&
      isSuffixes fuel (rest.dropWhile fun b => (char b).isAlphanum || b = 126)
  | _, _ => false

/-- The name of a file without the suffixes at its end. -/
def withoutSuffixes : Bytes → Bytes
  | [] => []
  | b :: rest => b :: go rest
where
  go : Bytes → Bytes
    | [] => []
    | b :: rest => if isSuffixes (rest.length + 1) (b :: rest) then [] else b :: go rest

/-- How far to the front a name of a file stands by its dots. -/
def dotRank (name : Bytes) : Nat :=
  match name with
  | [] => 0
  | [46] => 1
  | [46, 46] => 2
  | 46 :: _ => 3
  | _ => 4

/-- The order of names of files with versions: first by their dots in front, then by version without
suffixes, then by version with them. -/
def compareNames (a b : Bytes) : Ordering :=
  let fuel := a.length + b.length + 1
  (compare (dotRank a) (dotRank b)).then
    ((compareVersions fuel (withoutSuffixes a) (withoutSuffixes b)).then (compareVersions fuel a b))

/-- The bytes of a key that count in a comparison of texts. -/
def Manner.visible (m : Manner) (bytes : Bytes) : Bytes :=
  let bytes := if m.dictionary then
      bytes.filter fun b => isBlankByte b || (Char.ofNat b.toNat).isAlphanum
    else bytes
  let bytes := if m.printable then bytes.filter fun b => 32 ≤ b && b < 127 else bytes
  if m.fold then bytes.map fun b => if 97 ≤ b && b ≤ 122 then b - 32 else b else bytes

/-- Compare two keys. -/
def Manner.compare (m : Manner) (a b : Bytes) : Ordering :=
  let o := match m.measures.head? with
    | none => compareBytes (m.visible a) (m.visible b)
    | some .number => compareNumbers (numberAt a).1 (numberAt b).1
    | some .floating => compareFloating a b
    | some .human => compareHuman a b
    | some .month => Ord.compare (monthRank a) (monthRank b)
    | some .version => compareNames a b
  if m.reverse then o.swap else o

/-! ### Keys -/

/-- A part of a line. Fields and characters count from zero. -/
structure Key where
  field : Nat := 0
  char : Nat := 0
  /-- The field and character where the key ends; no character means the whole field. -/
  ending : Option (Nat × Nat) := none
  manner : Manner := {}
  deriving DecidableEq, Repr

/-- What a line has from its field `n` on. -/
def fromField (separator : Option UInt8) : Nat → Bytes → Bytes
  | 0, line => line
  | n + 1, line =>
    match separator with
    | some s => fromField separator n ((line.dropWhile (· ≠ s)).drop 1)
    | none =>
      fromField separator n ((line.dropWhile isBlankByte).dropWhile fun b => !isBlankByte b)

/-- What a line has behind its first `n` fields; a separator behind the last one stays. -/
def behindFields (separator : Option UInt8) : Nat → Bytes → Bytes
  | 0, line => line
  | n + 1, line =>
    match separator with
    | some s =>
      let rest := line.dropWhile (· ≠ s)
      if n = 0 then rest else behindFields separator n (rest.drop 1)
    | none =>
      behindFields separator n ((line.dropWhile isBlankByte).dropWhile fun b => !isBlankByte b)

/-- The key of a line. -/
def Key.of (k : Key) (separator : Option UInt8) (line : Bytes) : Bytes :=
  let start := fromField separator k.field line
  let start := if k.manner.skipStart then start.dropWhile isBlankByte else start
  let start := start.drop k.char
  let behind := match k.ending with
    | none => []
    | some (field, 0) => behindFields separator (field + 1) line
    | some (field, char) =>
      let rest := fromField separator field line
      let rest := if k.manner.skipEnd then rest.dropWhile isBlankByte else rest
      rest.drop char
  start.take (start.length - behind.length)

/-! ### Options -/

/-- What is done with the lines. -/
structure Order where
  keys : List Key := []
  /-- The options that stand for themselves. -/
  manner : Manner := {}
  separator : Option UInt8 := none
  unique : Bool := false
  stable : Bool := false
  merge : Bool := false
  /-- Only look whether the lines are in order. The letter tells whether to say so. -/
  check : Option Char := none
  output : Option String := none
  ender : UInt8 := 10
  deriving DecidableEq, Repr

/-- The manner with a measure added. -/
def Manner.measured (m : Manner) (measure : Measure) : Manner :=
  if m.measures.contains measure then m else { m with measures := m.measures ++ [measure] }

/-- The manner with an ordering letter, or `none` for another letter. Blanks are skipped at the
start of a key or at its end. -/
def Manner.add? (m : Manner) (start stop : Bool) : Char → Option Manner
  | 'b' => some { m with skipStart := m.skipStart || start, skipEnd := m.skipEnd || stop }
  | 'd' => some { m with dictionary := true, printable := false }
  | 'f' => some { m with fold := true }
  | 'g' => some (m.measured .floating)
  | 'h' => some (m.measured .human)
  | 'i' => some { m with printable := !m.dictionary }
  | 'M' => some (m.measured .month)
  | 'n' => some (m.measured .number)
  | 'r' => some { m with reverse := true }
  | 'V' => some (m.measured .version)
  | _ => none

/-- The letters of options that cannot be kept together, if a manner has such. -/
def Manner.conflict? (m : Manner) : Option String :=
  let filtered := m.dictionary || m.printable
  let others := m.measures.filter (· ≠ .version)
  let letters := [(m.dictionary, 'd'), (m.fold, 'f'), (m.measures.contains .floating, 'g'),
    (m.measures.contains .human, 'h'), (m.printable, 'i'), (m.measures.contains .month, 'M'),
    (m.measures.contains .number, 'n'), (m.measures.contains .version, 'V')]
  if others.length + (if filtered || m.measures.contains .version then 1 else 0) ≤ 1 then none
  else some (String.ofList (letters.filterMap fun l => if l.1 then some l.2 else none))

/-- Ordering letters at the front of a text, and what follows. -/
def lettersAt (m : Manner) (start stop : Bool) : List Char → Manner × List Char
  | [] => (m, [])
  | c :: cs =>
    match m.add? start stop c with
    | some m => lettersAt m start stop cs
    | none => (m, c :: cs)

/-- A number at the front of a text, and what follows. -/
def countAt? (cs : List Char) : Option (Nat × List Char) :=
  let ds := cs.takeWhile Char.isDigit
  if ds.isEmpty then none
  else some (ds.foldl (fun n c => n * 10 + (c.toNat - 48)) 0, cs.drop ds.length)

/-- The complaint about a key. -/
def badKey (reason spec : String) : String :=
  reason ++ ": invalid field specification " ++ Quoted.argument spec

/-- The complaint about a number in a key. -/
def badCount (reason : String) (cs : List Char) : String :=
  reason ++ ": invalid count at start of " ++ Quoted.argument (String.ofList cs)

/-- The end of a key behind a comma. -/
def keyEnd (spec : String) (k : Key) (cs : List Char) : Except String Key :=
  match countAt? cs with
  | none => .error (badCount "invalid number after ','" cs)
  | some (0, _) => .error (badKey "field number is zero" spec)
  | some (field + 1, rest) =>
    let finish := fun (char : Nat) (rest : List Char) =>
      let (manner, rest) := lettersAt k.manner false true rest
      if rest.isEmpty then .ok { k with ending := some (field, char), manner }
      else .error (badKey "stray character in field spec" spec)
    match rest with
    | '.' :: cs =>
      match countAt? cs with
      | none => .error (badCount "invalid number after '.'" cs)
      | some (char, rest) => finish char rest
    | _ => finish 0 rest

/-- Read a key. -/
def parseKey (spec : String) : Except String Key :=
  match countAt? spec.toList with
  | none => .error (badCount "invalid number at field start" spec.toList)
  | some (0, _) => .error (badKey "field number is zero" spec)
  | some (field + 1, rest) =>
    let finish := fun (char : Nat) (rest : List Char) =>
      let (manner, rest) := lettersAt {} true false rest
      let k : Key := { field, char, manner }
      match rest with
      | [] => .ok k
      | ',' :: cs => keyEnd spec k cs
      | _ => .error (badKey "stray character in field spec" spec)
    match rest with
    | '.' :: cs =>
      match countAt? cs with
      | none => .error (badCount "invalid number after '.'" cs)
      | some (0, _) => .error (badKey "character offset is zero" spec)
      | some (char + 1, rest) => finish char rest
    | _ => finish 0 rest

/-- The complaint about options that exclude each other. -/
def conflictText (letters : String) : String := "options '-" ++ letters ++ "' are incompatible"

/-- The order with a separator. -/
def Order.separatedBy (o : Order) (byte : UInt8) : Except (String × Bool) Order :=
  if o.separator.any (· ≠ byte) then .error ("incompatible tabs", false)
  else .ok { o with separator := some byte }

/-- The order that only looks whether lines are in order. -/
def Order.checking (o : Order) (letter : Char) : Except (String × Bool) Order :=
  if o.check.any (· ≠ letter) then .error (conflictText "cC", false)
  else .ok { o with check := some letter }

/-- The words for kinds of order, with the letters that stand for the same. -/
def orderWords : List (List String × Char) :=
  [(["general-numeric"], 'g'), (["human-numeric"], 'h'), (["month"], 'M'), (["numeric"], 'n'),
   (["random"], 'R'), (["version"], 'V')]

/-- The complaint about the size of memory to use, if it is wrong. -/
def sizeComplaint? (text : String) : Option String :=
  match text.toList.dropWhile Char.isDigit with
  | rest =>
    if rest.length = text.length then some ("invalid -S argument " ++ Quoted.argument text)
    else match rest with
      | [] => none
      | [c] =>
        if "%bkKmMgGtTPEZYRQ".toList.contains c then none
        else some ("invalid suffix in -S argument " ++ Quoted.argument text)
      | _ => some ("invalid suffix in -S argument " ++ Quoted.argument text)

/-- The complaint about the number of tasks to use, if it is wrong. -/
def parallelComplaint? (text : String) : Option String :=
  match digits? text.toList with
  | none => some ("invalid --parallel argument " ++ Quoted.argument text)
  | some 0 => some "number in parallel must be nonzero"
  | some _ => none

/-- The order with an option added, or a complaint. The flag tells that it is about a word that an
option takes. -/
def Order.add (o : Order) : Switches.Given → Except (String × Bool) Order
  | ('k', some spec) =>
    match parseKey spec with
    | .error e => .error (e, false)
    | .ok k => .ok { o with keys := o.keys ++ [k] }
  | ('t', some text) =>
    match text.toList with
    | [] => .error ("empty tab", false)
    | [c] => o.separatedBy c.toNat.toUInt8
    | ['\\', '0'] => o.separatedBy 0
    | _ => .error ("multi-character tab " ++ Quoted.argument text, false)
  | ('o', some file) =>
    if o.output.any (· ≠ file) then .error ("multiple output files specified", false)
    else .ok { o with output := some file }
  | ('S', some text) =>
    match sizeComplaint? text with
    | some complaint => .error (complaint, false)
    | none => .ok o
  | ('P', some text) =>
    match parallelComplaint? text with
    | some complaint => .error (complaint, false)
    | none => .ok o
  | ('W', some word) =>
    match choose "--sort" orderWords word with
    | .error complaint => .error (complaint, true)
    | .ok letter => .ok { o with manner := (o.manner.add? true true letter).getD o.manner }
  | ('u', _) => .ok { o with unique := true }
  | ('s', _) => .ok { o with stable := true }
  | ('m', _) => .ok { o with merge := true }
  | ('c', some word) =>
    match choose "--check" [(["quiet", "silent"], 'C'), (["diagnose-first"], 'c')] word with
    | .error complaint => .error (complaint, true)
    | .ok letter => o.checking letter
  | ('c', none) => o.checking 'c'
  | ('C', _) => o.checking 'C'
  | ('z', _) => .ok { o with ender := 0 }
  | (c, _) =>
    match o.manner.add? true true c with
    | some manner => .ok { o with manner }
    | none => .ok o

/-- The order with all these options, up to the first that is wrong. -/
def Order.addAll (o : Order) : List Switches.Given → Except (String × Bool) Order
  | [] => .ok o
  | option :: rest =>
    match o.add option with
    | .error e => .error e
    | .ok o => o.addAll rest

def switches : Switches where
  letters := ("bcCdfghimMnrRsuVz".toList.map fun c => (c, Need.no)) ++
    "koStTy".toList.map fun c => (c, Need.yes)
  names := [
    { name := "ignore-leading-blanks", letter := 'b' },
    { name := "check", need := .maybe, letter := 'c' },
    { name := "compress-program", need := .yes, letter := 'G' },
    { name := "debug", letter := 'D' },
    { name := "dictionary-order", letter := 'd' }, { name := "ignore-case", letter := 'f' },
    { name := "general-numeric-sort", letter := 'g' },
    { name := "human-numeric-sort", letter := 'h' },
    { name := "ignore-nonprinting", letter := 'i' },
    { name := "key", need := .yes, letter := 'k' }, { name := "merge", letter := 'm' },
    { name := "month-sort", letter := 'M' }, { name := "numeric-sort", letter := 'n' },
    { name := "version-sort", letter := 'V' }, { name := "random-sort", letter := 'R' },
    { name := "random-source", need := .yes, letter := 'Q' },
    { name := "sort", need := .yes, letter := 'W' },
    { name := "output", need := .yes, letter := 'o' }, { name := "reverse", letter := 'r' },
    { name := "stable", letter := 's' },
    { name := "batch-size", need := .yes, letter := 'B' },
    { name := "buffer-size", need := .yes, letter := 'S' },
    { name := "field-separator", need := .yes, letter := 't' },
    { name := "temporary-directory", need := .yes, letter := 'T' },
    { name := "parallel", need := .yes, letter := 'P' },
    { name := "unique", letter := 'u' }, { name := "zero-terminated", letter := 'z' }]

/-! ### Arranging -/

/-- The keys that are compared. A key without ordering options takes those of the whole order; an
order with options and no key compares whole lines by them. -/
def Order.effective (o : Order) : List Key :=
  let plain := fun (m : Manner) =>
    { m with skipStart := false, skipEnd := false } = ({} : Manner)
  if o.keys.isEmpty then
    if { o.manner with reverse := false } = ({} : Manner) then [] else [{ manner := o.manner }]
  else o.keys.map fun k =>
    if plain k.manner && !k.manner.skipStart && !k.manner.skipEnd then { k with manner := o.manner }
    else k

/-- Compare two lines. -/
def Order.compare (o : Order) (a b : Bytes) : Ordering :=
  let keys := o.effective
  let byKeys := keys.foldl (fun (r : Ordering) k =>
    r.then (k.manner.compare (k.of o.separator a) (k.of o.separator b))) .eq
  if byKeys ≠ .eq then byKeys
  else if !keys.isEmpty && (o.unique || o.stable) then .eq
  else
    let r := compareBytes a b
    if o.manner.reverse then r.swap else r

/-- Of each run of lines that compare equal the first. -/
def Order.distinct (o : Order) : List Bytes → List Bytes → List Bytes
  | done, [] => done.reverse
  | [], line :: rest => o.distinct [line] rest
  | last :: done, line :: rest =>
    if o.compare last line = .eq then o.distinct (last :: done) rest
    else o.distinct (line :: last :: done) rest

/-- Put two lists together, of which each is taken to be in order. -/
def Order.weave (o : Order) : Nat → List Bytes → List Bytes → List Bytes → List Bytes
  | 0, done, as, bs => done.reverse ++ as ++ bs
  | _ + 1, done, [], bs => done.reverse ++ bs
  | _ + 1, done, as, [] => done.reverse ++ as
  | fuel + 1, done, a :: as, b :: bs =>
    if o.compare a b = .gt then o.weave fuel (b :: done) (a :: as) bs
    else o.weave fuel (a :: done) as (b :: bs)

/-- The lines of several files in order. -/
def Order.arrange (o : Order) (files : List (List Bytes)) : List Bytes :=
  let lines := if o.merge then
      files.foldl (fun all lines => o.weave (all.length + lines.length) [] all lines) []
    else files.flatten.mergeSort fun a b => o.compare a b ≠ .gt
  if o.unique then o.distinct [] lines else lines

/-- The number of the first line that is not in order, and the line. -/
def Order.disorder? (o : Order) : Nat → List Bytes → Option (Nat × Bytes)
  | n, a :: b :: rest =>
    let c := o.compare a b
    if c = .gt || (o.unique && c = .eq) then some (n + 1, b) else o.disorder? (n + 1) (b :: rest)
  | _, _ => none

end Arrange

open Arrange

/-- The first operand that cannot be read, with the reason. -/
def unreadable? : List String → Task (Option (String × Errno))
  | [] => pure none
  | operand :: rest => do
    if operand = "-" then unreadable? rest
    else match ← Task.ask (.inspect operand true) with
      | .error e => pure (some (operand, e))
      | .ok s => if s.entry.mayRead then unreadable? rest else pure (some (operand, .permissionDenied))

/-- The file for the output if it cannot be opened, with the reason. It is made if it is missing. -/
def unwritable? : Option String → Task (Option (String × Errno))
  | none => pure none
  | some file => do
    match ← Task.ask (.openFile file (.write .append)) with
    | .error e => pure (some (file, e))
    | .ok stream => do
      let _ ← Task.ask (.close stream)
      pure none

/-- The lines of each operand, or the operand that failed. -/
def readLines (ender : UInt8) : List String → Task (Except (String × Errno) (List (List Bytes)))
  | [] => pure (.ok [])
  | operand :: rest => do
    let result ← match ← openInput operand with
      | .error e => pure (.error e)
      | .ok stream => Task.readAll stream
    match result with
    | .error e => pure (.error (operand, e))
    | .ok bytes =>
      match ← readLines ender rest with
      | .error e => pure (.error e)
      | .ok files => pure (.ok ((cutLines ender bytes).map Prod.fst :: files))

/-- Write sorted text to where it belongs. -/
def writeSorted (inv : Invocation) (output : Option String) (bytes : Bytes) : Task Nat := do
  let opened : Except Errno String ← match output with
    | none => pure (.ok (Quoted.always "standard output"))
    | some file =>
      match ← Task.ask (.openFile file (.write .truncate)) with
      | .error e => pure (.error e)
      | .ok stream => do
        if stream ≠ 1 then
          let _ ← Task.ask (.copyTo stream 1)
          let _ ← Task.ask (.close stream)
        pure (.ok (Quoted.name file))
  match opened with
  | .error e => fail inv ("open failed: " ++ Quoted.name (output.getD "") ++ ": " ++ e.text) 2
  | .ok name =>
    match ← Task.writeAll 1 bytes with
    | .ok () => pure 0
    | .error e => do
      let what := if bytes.length < Collected.block then "fflush" else "write"
      complain inv (what ++ " failed: " ++ name ++ ": " ++ e.text)
      let reason ← match ← Task.ask (.close 1) with
        | .ok () => pure ""
        | .error e => pure (": " ++ e.text)
      fail inv ("write error" ++ reason) 2

/-- Look whether the lines of a file are in order. -/
def checkOrder (inv : Invocation) (o : Order) (loud : Bool) (operand : String)
    (lines : List Bytes) : Task Nat := do
  match o.disorder? 1 lines with
  | none => pure 0
  | some (n, line) => do
    if loud then
      complain inv (operand ++ ":" ++ toString n ++ ": disorder: " ++ octets line)
    pure 1

/-- Complain about an operand that cannot be read to its end. -/
def sortFailure (inv : Invocation) (operand : String) (e : Errno) : Task Nat :=
  let what := if e = .badDescriptor then "stat" else "read"
  fail inv (what ++ " failed: " ++ Quoted.name operand ++ ": " ++ e.text) 2

/-- Look whether the lines of the only operand are in order. -/
def checkOperands (inv : Invocation) (o : Order) (letter : Char) (operands : List String) :
    Task Nat := do
  match operands, o.output with
  | _ :: second :: _, _ =>
    fail inv ("extra operand " ++ Quoted.argument second ++ " not allowed with -" ++
      String.ofList [letter]) 2
  | _, some _ => fail inv (conflictText (String.ofList [letter, 'o'])) 2
  | _, none =>
    let operand := operands.head?.getD "-"
    match ← openInput operand with
    | .error e => fail inv ("open failed: " ++ Quoted.name operand ++ ": " ++ e.text) 2
    | .ok stream =>
      match ← Task.readAll stream with
      | .error e => sortFailure inv operand e
      | .ok bytes =>
        checkOrder inv o (letter = 'c') operand ((cutLines o.ender bytes).map Prod.fst)

/-- Print the lines of operands in order. All files have to be there before the first is read. -/
def sortOperands (inv : Invocation) (o : Order) (operands : List String) : Task Nat := do
  match ← unreadable? operands with
  | some (operand, e) => fail inv ("cannot read: " ++ Quoted.name operand ++ ": " ++ e.text) 2
  | none =>
    match ← unwritable? o.output with
    | some (file, e) => fail inv ("open failed: " ++ Quoted.name file ++ ": " ++ e.text) 2
    | none =>
      match ← readLines o.ender operands with
      | .error (operand, e) => sortFailure inv operand e
      | .ok files => writeSorted inv o.output ((o.arrange files).map (· ++ [o.ender])).flatten

/-- Print the lines of all operands in order. -/
def sort (inv : Invocation) : Task Nat := do
  let r := switches.read inv.args
  match ({} : Order).addAll r.options with
  | .error (e, true) => misuse inv e
  | .error (e, false) => fail inv e 2
  | .ok o =>
    match r.complaint with
    | some text => misuse inv text 2
    | none =>
      match (o.effective.map Key.manner).findSome? Manner.conflict? with
      | some letters => fail inv (conflictText letters) 2
      | none =>
        match o.check with
        | some letter => checkOperands inv o letter (orStdin r.operands)
        | none => sortOperands inv o (orStdin r.operands)

end Program

end Shell
