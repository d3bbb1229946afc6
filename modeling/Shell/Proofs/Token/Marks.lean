import Mathlib.Data.List.MinMax
import Shell.Proofs.Token.Scan

/-!
# Reading a line in two passes

The first pass says of each character what quoting makes of it: it is removed, it is literal, or it
is active. The second pass cuts the marked line: active characters that stand next to each other
form operators, the longest that fits, from left to right; operators and active blanks end a word;
everything else belongs to a word. A word is there as soon as it has a character or a quote.

The scanner, which does all of this at once, reads every line as the two passes do:
`tokenize_eq_assemble`.
-/

namespace Shell
namespace Token

/-! ### The first pass -/

/-- What quoting makes of a character. -/
inductive Mark
  /-- It is a quote or a backslash that says something about other characters. -/
  | removed
  /-- It belongs to a word, whatever it is. -/
  | literal
  /-- It stands outside quotes and behind no backslash. -/
  | active
  deriving DecidableEq, Repr

/-- A character with its mark. -/
abbrev Marked := Char × Mark

/-- The quotes that are open. -/
inductive Quoting
  | unquoted
  | single
  | double
  deriving DecidableEq, Repr

/-- The marks of characters behind which these quotes are open. -/
def marksFrom : Quoting → List Char → List Marked
  | _, [] => []
  | .unquoted, ['\\'] => [('\\', .literal)]
  | .unquoted, '\\' :: c :: cs => ('\\', .removed) :: (c, .literal) :: marksFrom .unquoted cs
  | .unquoted, '\'' :: cs => ('\'', .removed) :: marksFrom .single cs
  | .unquoted, '"' :: cs => ('"', .removed) :: marksFrom .double cs
  | .unquoted, c :: cs => (c, .active) :: marksFrom .unquoted cs
  | .single, '\'' :: cs => ('\'', .removed) :: marksFrom .unquoted cs
  | .single, c :: cs => (c, .literal) :: marksFrom .single cs
  | .double, '"' :: cs => ('"', .removed) :: marksFrom .unquoted cs
  | .double, '\\' :: '"' :: cs => ('\\', .removed) :: ('"', .literal) :: marksFrom .double cs
  | .double, '\\' :: '\\' :: cs => ('\\', .removed) :: ('\\', .literal) :: marksFrom .double cs
  | .double, c :: cs => (c, .literal) :: marksFrom .double cs

lemma marksFrom_single_cons {c : Char} (hc : c ≠ '\'') (cs : List Char) :
    marksFrom .single (c :: cs) = (c, .literal) :: marksFrom .single cs := by
  rw [marksFrom]
  exact hc

lemma marksFrom_double_cons {c : Char} (hquote : c ≠ '"') (hback : c ≠ '\\') (cs : List Char) :
    marksFrom .double (c :: cs) = (c, .literal) :: marksFrom .double cs := by
  rw [marksFrom]
  · exact hquote
  · intro _ h; exact absurd h hback
  · intro _ h; exact absurd h hback

lemma marksFrom_double_escape {c : Char} (hc : c = '"' ∨ c = '\\') (cs : List Char) :
    marksFrom .double ('\\' :: c :: cs) =
      ('\\', .removed) :: (c, .literal) :: marksFrom .double cs := by
  rcases hc with rfl | rfl <;> rfl

lemma marksFrom_double_backslash {c : Char} (hc : ¬ (c = '"' ∨ c = '\\')) (cs : List Char) :
    marksFrom .double ('\\' :: c :: cs) =
      ('\\', .literal) :: (c, .literal) :: marksFrom .double cs := by
  obtain ⟨hquote, hback⟩ := not_or.mp hc
  rw [marksFrom, marksFrom_double_cons hquote hback]
  · decide
  · intro _ _ h; exact hquote (List.cons.inj h).1
  · intro _ _ h; exact hback (List.cons.inj h).1

lemma marksFrom_unquoted_cons {c : Char} (hback : c ≠ '\\') (hsingle : c ≠ '\'')
    (hdouble : c ≠ '"') (cs : List Char) :
    marksFrom .unquoted (c :: cs) = (c, .active) :: marksFrom .unquoted cs := by
  rw [marksFrom]
  · intro h; exact absurd h hback
  · intro _ _ h; exact absurd h hback
  · exact hsingle
  · exact hdouble

/-- Marking keeps all characters and their order. -/
lemma map_fst_marksFrom (q : Quoting) (cs : List Char) : (marksFrom q cs).map Prod.fst = cs := by
  fun_induction marksFrom q cs with
  | case1 => rfl
  | case2 => rfl
  | case3 c cs ih => simp [ih]
  | case4 cs ih => simp [ih]
  | case5 cs ih => simp [ih]
  | case6 c cs _ _ _ _ ih => simp [ih]
  | case7 cs ih => simp [ih]
  | case8 c cs _ ih => simp [ih]
  | case9 cs ih => simp [ih]
  | case10 cs ih => simp [ih]
  | case11 cs ih => simp [ih]
  | case12 c cs _ _ _ ih => simp [ih]

/-- The marks of a line. -/
def marks (cs : List Char) : List Marked :=
  marksFrom .unquoted cs

/-! ### The second pass -/

structure Operator where
  text : List Char
  token : Token
  deriving DecidableEq, Repr

def operators : List Operator :=
  [⟨['|'], .pipe⟩,
    ⟨['>'], .redirect .stdout .truncate⟩, ⟨['>', '>'], .redirect .stdout .append⟩,
    ⟨['1', '>'], .redirect .stdout .truncate⟩, ⟨['1', '>', '>'], .redirect .stdout .append⟩,
    ⟨['2', '>'], .redirect .stderr .truncate⟩, ⟨['2', '>', '>'], .redirect .stderr .append⟩]

/-- The marked characters that an operator is made of. -/
def Operator.source (o : Operator) : List Marked :=
  o.text.map fun c => (c, .active)

/-- The longest operator with which marked characters begin. -/
def longest? (ms : List Marked) : Option Operator :=
  (operators.filter fun o => o.source <+: ms).argmax fun o => o.text.length

/-- A piece of a line. -/
inductive Lexeme
  | operator (operator : Operator)
  | gap (blank : Marked)
  /-- A character that belongs to a word. -/
  | part (part : Marked)
  deriving DecidableEq, Repr

namespace Lexeme

/-- The marked characters that a piece is made of. -/
def source : Lexeme → List Marked
  | .operator o => o.source
  | .gap m => [m]
  | .part m => [m]

/-- The marked characters that a piece gives to a word. -/
def parts : Lexeme → List Marked
  | .part m => [m]
  | _ => []

end Lexeme

/-- The pieces of a marked line. -/
def lexemes : List Marked → List Lexeme
  | [] => []
  | m :: ms =>
    match longest? (m :: ms) with
    | some o => .operator o :: lexemes (ms.drop (o.text.length - 1))
    | none =>
      if m.2 = .active ∧ isBlank m.1 = true then .gap m :: lexemes ms else .part m :: lexemes ms
termination_by ms => ms.length
decreasing_by all_goals simp only [List.length_cons, List.length_drop]; omega

/-- A character of a word, or a quote. -/
def isOwned (m : Marked) : Bool :=
  m.2 ≠ .removed || m.1 ≠ '\\'

/-- The text of the parts of a word. -/
def partsText (parts : List Marked) : List Char :=
  (parts.filter fun m => m.2 ≠ .removed).map Prod.fst

/-- The word that parts make, if there is one. -/
def wordOf (parts : List Marked) : List Token :=
  if parts.any isOwned then [.word (String.ofList (partsText parts))] else []

/-- The tokens of pieces. `parts` holds the parts of the word before them. -/
def assemble (parts : List Marked) : List Lexeme → List Token
  | [] => wordOf parts
  | .operator o :: rest => wordOf parts ++ o.token :: assemble [] rest
  | .gap _ :: rest => wordOf parts ++ assemble [] rest
  | .part m :: rest => assemble (parts ++ [m]) rest

/-! ### Operators -/

lemma operator_ext : ∀ o ∈ operators, ∀ o' ∈ operators, o.text = o'.text → o = o' := by
  decide

lemma operator_text_ne_nil : ∀ o ∈ operators, o.text ≠ [] := by
  decide

lemma Operator.text_eq_of_source_eq {o o' : Operator} (h : o.source = o'.source) :
    o.text = o'.text :=
  List.map_injective_iff.mpr (Prod.mk_left_injective Mark.active) h

lemma cons_prefix_iff {m : Marked} {l ms : List Marked} :
    m :: l <+: ms ↔ ms.head? = some m ∧ l <+: ms.tail := by
  cases ms <;> simp [List.cons_prefix_cons, eq_comm]

lemma longest?_eq_none {ms : List Marked} (h : ∀ o ∈ operators, ¬ o.source <+: ms) :
    longest? ms = none := by
  rw [longest?, List.argmax_eq_none, List.filter_eq_nil_iff]
  simpa using h

lemma fits_of_longest? {ms : List Marked} {o : Operator} (h : longest? ms = some o) :
    o ∈ operators ∧ o.source <+: ms := by
  simpa using List.argmax_mem h

/-- Of the operators that fit, the longest is taken. There is only one of that length. -/
lemma longest?_eq_some {ms : List Marked} {o : Operator} (ho : o ∈ operators)
    (hfit : o.source <+: ms)
    (hmax : ∀ o' ∈ operators, o'.source <+: ms → o'.text.length ≤ o.text.length) :
    longest? ms = some o := by
  have hmem : o ∈ operators.filter fun o => o.source <+: ms := by simpa using ⟨ho, hfit⟩
  cases hl : longest? ms with
  | none =>
    rw [longest?, List.argmax_eq_none] at hl
    rw [hl] at hmem
    cases hmem
  | some o' =>
    obtain ⟨ho', hfit'⟩ := fits_of_longest? hl
    have hle := List.le_of_mem_argmax hmem hl
    have hlen : o'.source.length = o.source.length := by
      simp only [Operator.source, List.length_map]
      exact le_antisymm (hmax o' ho' hfit') hle
    have hsource : o'.source = o.source :=
      (List.prefix_of_prefix_length_le hfit' hfit hlen.le).eq_of_length hlen
    rw [operator_ext o' ho' o ho (Operator.text_eq_of_source_eq hsource)]

/-- No operator begins with a character that is not active. -/
lemma longest?_of_ne_active {k : Mark} (hk : k ≠ .active) (c : Char) (ms : List Marked) :
    longest? ((c, k) :: ms) = none := by
  apply longest?_eq_none
  simp [operators, Operator.source, List.cons_prefix_cons, Ne.symm hk]

lemma longest?_of_ne {c : Char} (hpipe : c ≠ '|') (hgt : c ≠ '>') (h1 : c ≠ '1') (h2 : c ≠ '2')
    (ms : List Marked) : longest? ((c, .active) :: ms) = none := by
  apply longest?_eq_none
  simp [operators, Operator.source, List.cons_prefix_cons, Ne.symm hpipe, Ne.symm hgt,
    Ne.symm h1, Ne.symm h2]

/-- A digit that no `>` follows begins no operator. -/
lemma longest?_digit (stream : OutputStream) {ms : List Marked}
    (h : ms.head? ≠ some ('>', .active)) :
    longest? ((Scan.streamDigit stream, .active) :: ms) = none := by
  apply longest?_eq_none
  cases stream <;> simp [operators, Operator.source, cons_prefix_iff, Scan.streamDigit, h]

lemma longest?_pipe (ms : List Marked) :
    longest? (('|', .active) :: ms) = some ⟨['|'], .pipe⟩ := by
  apply longest?_eq_some
  · decide
  · simp [Operator.source, List.cons_prefix_cons]
  · simp [operators, Operator.source, List.cons_prefix_cons]

/-- `lead` is what may stand before `>` to name the stream. -/
def Leads (lead : List Char) (stream : OutputStream) : Prop :=
  (lead = [] ∧ stream = .stdout) ∨ lead = [Scan.streamDigit stream]

lemma longest?_truncate {lead : List Char} {stream : OutputStream} (hlead : Leads lead stream)
    {ms : List Marked} (h : ms.head? ≠ some ('>', .active)) :
    longest? (lead.map (fun c => (c, .active)) ++ ('>', .active) :: ms) =
      some ⟨lead ++ ['>'], .redirect stream .truncate⟩ := by
  rcases hlead with ⟨rfl, rfl⟩ | rfl
  · apply longest?_eq_some
    · decide
    · simp [Operator.source, List.cons_prefix_cons]
    · simp [operators, Operator.source, cons_prefix_iff, h]
  · cases stream <;> apply longest?_eq_some
    any_goals decide
    all_goals simp [operators, Operator.source, cons_prefix_iff, Scan.streamDigit, h]

lemma longest?_append {lead : List Char} {stream : OutputStream} (hlead : Leads lead stream)
    (ms : List Marked) :
    longest? (lead.map (fun c => (c, .active)) ++ ('>', .active) :: ('>', .active) :: ms) =
      some ⟨lead ++ ['>', '>'], .redirect stream .append⟩ := by
  rcases hlead with ⟨rfl, rfl⟩ | rfl
  · apply longest?_eq_some
    · decide
    · simp [Operator.source, List.cons_prefix_cons]
    · simp [operators, Operator.source]
  · cases stream <;> apply longest?_eq_some
    any_goals decide
    all_goals simp [operators, Operator.source, Scan.streamDigit]

/-! ### Pieces -/

lemma lexemes_operator {ms rest : List Marked} {o : Operator} (h : longest? ms = some o)
    (hms : ms = o.source ++ rest) : lexemes ms = .operator o :: lexemes rest := by
  obtain ⟨c, text, htext⟩ :=
    List.exists_cons_of_ne_nil (operator_text_ne_nil o (fits_of_longest? h).1)
  have hms' : ms = (c, .active) :: (text.map (fun c => (c, .active)) ++ rest) := by
    simpa [Operator.source, htext] using hms
  rw [hms'] at h
  rw [hms', lexemes, h]
  simp [htext]

lemma lexemes_pipe (ms : List Marked) :
    lexemes (('|', .active) :: ms) = .operator ⟨['|'], .pipe⟩ :: lexemes ms :=
  lexemes_operator (longest?_pipe ms) rfl

lemma lexemes_truncate {lead : List Char} {stream : OutputStream} (hlead : Leads lead stream)
    {ms : List Marked} (h : ms.head? ≠ some ('>', .active)) :
    lexemes (lead.map (fun c => (c, .active)) ++ ('>', .active) :: ms) =
      .operator ⟨lead ++ ['>'], .redirect stream .truncate⟩ :: lexemes ms :=
  lexemes_operator (longest?_truncate hlead h) (by simp [Operator.source])

lemma lexemes_append {lead : List Char} {stream : OutputStream} (hlead : Leads lead stream)
    (ms : List Marked) :
    lexemes (lead.map (fun c => (c, .active)) ++ ('>', .active) :: ('>', .active) :: ms) =
      .operator ⟨lead ++ ['>', '>'], .redirect stream .append⟩ :: lexemes ms :=
  lexemes_operator (longest?_append hlead ms) (by simp [Operator.source])

lemma lexemes_gap {c : Char} (hc : isBlank c = true) (ms : List Marked) :
    lexemes ((c, .active) :: ms) = .gap (c, .active) :: lexemes ms := by
  have hne : ∀ d, isBlank d = false → c ≠ d := fun d hd => ne_of_isBlank hc hd
  have hnone := longest?_of_ne (hne '|' (by decide)) (hne '>' (by decide)) (hne '1' (by decide))
    (hne '2' (by decide)) ms
  rw [lexemes, hnone]
  simp [hc]

lemma lexemes_part {m : Marked} {ms : List Marked} (h : longest? (m :: ms) = none)
    (hm : ¬ (m.2 = .active ∧ isBlank m.1 = true)) :
    lexemes (m :: ms) = .part m :: lexemes ms := by
  rw [lexemes, h]
  simp only [if_neg hm]

/-- A character that is not active belongs to a word. -/
lemma assemble_of_ne_active {k : Mark} (hk : k ≠ .active) (parts : List Marked) (c : Char)
    (ms : List Marked) :
    assemble parts (lexemes ((c, k) :: ms)) = assemble (parts ++ [(c, k)]) (lexemes ms) := by
  have hpart : lexemes ((c, k) :: ms) = .part (c, k) :: lexemes ms :=
    lexemes_part (longest?_of_ne_active hk c ms) fun h => hk h.1
  rw [hpart, assemble]

/-! ### What the scanner holds -/

/-- The word that the scanner holds after these parts. -/
def held (parts : List Marked) : Option (List Char) :=
  if parts.any isOwned then some (partsText parts).reverse else none

@[simp] lemma held_nil : held [] = none := rfl

/-- Parts that make no word have no text. -/
lemma partsText_eq_nil {parts : List Marked} (h : ¬ parts.any isOwned = true) :
    partsText parts = [] := by
  have hremoved : ∀ m ∈ parts, m.2 = .removed := by
    intro m hm
    by_contra hk
    exact h (List.any_eq_true.mpr ⟨m, hm, by simp [isOwned, hk]⟩)
  simpa [partsText] using hremoved

lemma getD_held (parts : List Marked) : (held parts).getD [] = (partsText parts).reverse := by
  by_cases h : parts.any isOwned = true
  · simp [held, h]
  · simp [held, h, partsText_eq_nil h]

lemma held_kept (parts : List Marked) {k : Mark} (hk : k ≠ .removed) (c : Char) :
    held (parts ++ [(c, k)]) = some (c :: (held parts).getD []) := by
  rw [getD_held]
  simp [held, isOwned, partsText, hk]

lemma held_quote (parts : List Marked) {c : Char} (hc : c ≠ '\\') :
    held (parts ++ [(c, .removed)]) = some ((held parts).getD []) := by
  rw [getD_held]
  simp [held, isOwned, partsText, hc]

lemma held_backslash (parts : List Marked) :
    held (parts ++ [('\\', .removed)]) = held parts := by
  have hany : (parts ++ [('\\', Mark.removed)]).any isOwned = parts.any isOwned := by
    simp [List.any_append, isOwned]
  have htext : partsText (parts ++ [('\\', Mark.removed)]) = partsText parts := by
    simp [partsText]
  rw [held, held, hany, htext]

lemma finishWord_held (mode : Mode) (parts : List Marked) (d : List Token) :
    Scan.finishWord ⟨mode, held parts, d⟩ = ⟨mode, none, (wordOf parts).reverse ++ d⟩ := by
  by_cases h : parts.any isOwned = true
  · simp [Scan.finishWord, held, wordOf, h]
  · simp [Scan.finishWord, held, wordOf, h]

/-! ### The scanner reads as the two passes do -/

/-- The mode of the scanner inside these quotes. -/
def Quoting.mode : Quoting → Mode
  | .unquoted => .bare
  | .single => .single
  | .double => .double

/-- Whatever the scanner holds, it reads these characters as the two passes do. Inside quotes it
holds a word, which the opening quote has begun. -/
def Agrees (cs : List Char) : Prop :=
  ∀ q parts d, (q ≠ .unquoted → (held parts).isSome = true) →
    (Scan.run ⟨q.mode, held parts, d⟩ cs).tokens =
      d.reverse ++ assemble parts (lexemes (marksFrom q cs))

lemma agrees_nil : Agrees [] := by
  intro q parts d _
  have hclose : (Scan.run ⟨q.mode, held parts, d⟩ []).tokens =
      (Scan.finishWord ⟨q.mode, held parts, d⟩).done.reverse := by
    cases q <;> rfl
  rw [hclose, finishWord_held]
  simp [marksFrom, lexemes, assemble]

/-- A character that is taken into the word on both sides. -/
lemma Agrees.push {cs : List Char} (h : Agrees cs) (q : Quoting) (parts : List Marked)
    (d : List Token) {k : Mark} (hk : k ≠ .removed) (c : Char) :
    (Scan.run ⟨q.mode, some (c :: (held parts).getD []), d⟩ cs).tokens =
      d.reverse ++ assemble (parts ++ [(c, k)]) (lexemes (marksFrom q cs)) := by
  rw [← held_kept parts hk]
  exact h q (parts ++ [(c, k)]) d fun _ => by rw [held_kept parts hk]; rfl

/-- A quote, which begins a word on both sides. -/
lemma Agrees.quote {cs : List Char} (h : Agrees cs) (q : Quoting) (parts : List Marked)
    (d : List Token) {c : Char} (hc : c ≠ '\\') :
    (Scan.run ⟨q.mode, some ((held parts).getD []), d⟩ cs).tokens =
      d.reverse ++ assemble (parts ++ [(c, .removed)]) (lexemes (marksFrom q cs)) := by
  rw [← held_quote parts hc]
  exact h q (parts ++ [(c, .removed)]) d fun _ => by rw [held_quote parts hc]; rfl

/-- A backslash that makes the next character literal. -/
lemma Agrees.escape {cs : List Char} (h : Agrees cs) (q : Quoting) (parts : List Marked)
    (d : List Token) (c : Char) :
    (Scan.run ⟨q.mode, some (c :: (held parts).getD []), d⟩ cs).tokens =
      d.reverse ++ assemble parts
        (lexemes (('\\', .removed) :: (c, .literal) :: marksFrom q cs)) := by
  rw [assemble_of_ne_active (by decide), assemble_of_ne_active (by decide),
    ← h.push q _ d (show Mark.literal ≠ .removed by decide) c, held_backslash]

/-- Inside single quotes. -/
lemma agrees_single {c : Char} {cs : List Char} (h : Agrees cs) {parts : List Marked}
    (hparts : (held parts).isSome = true) (d : List Token) :
    (Scan.run ⟨.single, held parts, d⟩ (c :: cs)).tokens =
      d.reverse ++ assemble parts (lexemes (marksFrom .single (c :: cs))) := by
  by_cases hc : c = '\''
  · subst hc
    obtain ⟨w, hw⟩ := Option.isSome_iff_exists.mp hparts
    rw [marksFrom, assemble_of_ne_active (by decide),
      ← h.quote .unquoted parts d (by decide), hw]
    rfl
  · rw [marksFrom_single_cons hc, assemble_of_ne_active (by decide),
      ← h.push .single parts d (by decide) c]
    simp [Scan.step, Scan.push, hc, Quoting.mode]

/-- Inside double quotes. A backslash waits for the next character. -/
lemma agrees_double {c : Char} {cs : List Char}
    (ih : ∀ cs', cs'.length < (c :: cs).length → Agrees cs') {parts : List Marked}
    (hparts : (held parts).isSome = true) (d : List Token) :
    (Scan.run ⟨.double, held parts, d⟩ (c :: cs)).tokens =
      d.reverse ++ assemble parts (lexemes (marksFrom .double (c :: cs))) := by
  have hcs : Agrees cs := ih cs (Nat.lt_succ_self _)
  by_cases hquote : c = '"'
  · subst hquote
    obtain ⟨w, hw⟩ := Option.isSome_iff_exists.mp hparts
    rw [marksFrom, assemble_of_ne_active (by decide),
      ← hcs.quote .unquoted parts d (by decide), hw]
    rfl
  by_cases hback : c = '\\'
  · -- nothing is added before the next character is known
    subst hback
    cases cs with
    | nil =>
      rw [show marksFrom .double ['\\'] = ('\\', .literal) :: marksFrom .double [] from rfl,
        assemble_of_ne_active (by decide), ← hcs.push .double parts d (by decide) '\\']
      rfl
    | cons x cs =>
      have hrest : Agrees cs := ih cs (by simp only [List.length_cons]; omega)
      by_cases hx : x = '"' ∨ x = '\\'
      · rw [marksFrom_double_escape hx, ← hrest.escape .double parts d x]
        simp [Scan.step, Scan.push, Scan.enter, hx, Quoting.mode]
      · rw [marksFrom_double_backslash hx, assemble_of_ne_active (by decide),
          assemble_of_ne_active (by decide),
          ← hrest.push .double _ d (by decide) x, held_kept parts (by decide)]
        simp [Scan.step, Scan.push, Scan.enter, hx, Quoting.mode]
  · rw [marksFrom_double_cons hquote hback, assemble_of_ne_active (by decide),
      ← hcs.push .double parts d (by decide) c]
    simp [Scan.step, Scan.push, hquote, hback, Quoting.mode]

/-- The first character is an active `>` only if it is a `>`. -/
lemma head?_marksFrom_unquoted {cs : List Char} (h : cs.head? ≠ some '>') :
    (marksFrom .unquoted cs).head? ≠ some ('>', .active) := by
  intro hmark
  have hhead : (marksFrom .unquoted cs).head?.map Prod.fst = cs.head? := by
    rw [← List.head?_map, map_fst_marksFrom]
  rw [hmark] at hhead
  exact h hhead.symm

/-- After `>`, which may be doubled. The word before it has ended. -/
lemma agrees_arrow {lead : List Char} {stream : OutputStream} (hlead : Leads lead stream)
    {cs : List Char} (ih : ∀ cs', cs'.length ≤ cs.length → Agrees cs') (parts : List Marked)
    (d : List Token) :
    (Scan.run ⟨.arrow stream, none, (wordOf parts).reverse ++ d⟩ cs).tokens =
      d.reverse ++ assemble parts (lexemes
        (lead.map (fun c => (c, .active)) ++ ('>', .active) :: marksFrom .unquoted cs)) := by
  by_cases hcs : cs.head? = some '>'
  · obtain ⟨rest, rfl⟩ : ∃ rest, cs = '>' :: rest := List.head?_eq_some_iff.mp hcs
    have hread := ih rest (Nat.le_succ _) .unquoted []
      (.redirect stream .append :: ((wordOf parts).reverse ++ d)) (by simp)
    rw [marksFrom_unquoted_cons (by decide) (by decide) (by decide),
      lexemes_append hlead, assemble]
    simpa [Scan.step, Scan.operator, Scan.finishWord, Scan.enter, Quoting.mode] using hread
  · have hread := ih cs le_rfl .unquoted []
      (.redirect stream .truncate :: ((wordOf parts).reverse ++ d)) (by simp)
    rw [lexemes_truncate hlead (head?_marksFrom_unquoted hcs), assemble,
      ← Scan.tokens_run_settle _ hcs]
    simpa [Scan.settle, Scan.operator, Scan.finishWord, Scan.enter, Quoting.mode] using hread

/-- After a digit that names a stream if `>` comes next. -/
lemma agrees_digit (stream : OutputStream) {cs : List Char}
    (ih : ∀ cs', cs'.length ≤ cs.length → Agrees cs') (parts : List Marked) (d : List Token) :
    (Scan.run ⟨.digit stream, held parts, d⟩ cs).tokens =
      d.reverse ++ assemble parts
        (lexemes ((Scan.streamDigit stream, .active) :: marksFrom .unquoted cs)) := by
  by_cases hcs : cs.head? = some '>'
  · obtain ⟨rest, rfl⟩ : ∃ rest, cs = '>' :: rest := List.head?_eq_some_iff.mp hcs
    have hread := agrees_arrow (Or.inr rfl : Leads [Scan.streamDigit stream] stream)
      (fun cs' h => ih cs' (Nat.le_succ_of_le h)) parts d
    rw [marksFrom_unquoted_cons (by decide) (by decide) (by decide)]
    simpa [Scan.step, finishWord_held, Scan.enter] using hread
  · have hpart : lexemes ((Scan.streamDigit stream, .active) :: marksFrom .unquoted cs) =
        .part (Scan.streamDigit stream, .active) :: lexemes (marksFrom .unquoted cs) :=
      lexemes_part (longest?_digit stream (head?_marksFrom_unquoted hcs)) (by
        cases stream <;> decide)
    rw [hpart, assemble, ← (ih cs le_rfl).push .unquoted parts d (by decide),
      ← Scan.tokens_run_settle _ hcs]
    rfl

/-- Outside quotes. -/
lemma agrees_unquoted {c : Char} {cs : List Char}
    (ih : ∀ cs', cs'.length < (c :: cs).length → Agrees cs') (parts : List Marked)
    (d : List Token) :
    (Scan.run ⟨.bare, held parts, d⟩ (c :: cs)).tokens =
      d.reverse ++ assemble parts (lexemes (marksFrom .unquoted (c :: cs))) := by
  have hle : ∀ cs', cs'.length ≤ cs.length → Agrees cs' := fun cs' h => ih cs' (Nat.lt_succ_of_le h)
  have hcs : Agrees cs := hle cs le_rfl
  by_cases hback : c = '\\'
  · subst hback
    cases cs with
    | nil =>
      rw [marksFrom, assemble_of_ne_active (by decide)]
      exact hcs.push .unquoted parts d (by decide) '\\'
    | cons x cs =>
      have hrest : Agrees cs := hle cs (Nat.le_succ _)
      rw [marksFrom, ← hrest.escape .unquoted parts d x]
      rfl
  by_cases hsingle : c = '\''
  · subst hsingle
    rw [marksFrom, assemble_of_ne_active (by decide),
      ← hcs.quote .single parts d (by decide)]
    rfl
  by_cases hdouble : c = '"'
  · subst hdouble
    rw [marksFrom, assemble_of_ne_active (by decide),
      ← hcs.quote .double parts d (by decide)]
    rfl
  rw [marksFrom_unquoted_cons hback hsingle hdouble, Scan.run_cons]
  by_cases hpipe : c = '|'
  · subst hpipe
    have hread := hcs .unquoted [] (.pipe :: ((wordOf parts).reverse ++ d)) (by simp)
    rw [lexemes_pipe, assemble]
    simpa [Scan.step, Scan.stepBare, Scan.operator, finishWord_held, Scan.enter, Quoting.mode]
      using hread
  by_cases hgt : c = '>'
  · subst hgt
    have hread := agrees_arrow (Or.inl ⟨rfl, rfl⟩ : Leads [] .stdout) hle parts d
    simpa [Scan.step, Scan.stepBare, finishWord_held, Scan.enter] using hread
  by_cases h1 : c = '1'
  · subst h1
    exact agrees_digit .stdout hle parts d
  by_cases h2 : c = '2'
  · subst h2
    exact agrees_digit .stderr hle parts d
  by_cases hblank : isBlank c = true
  · have hread := hcs .unquoted [] ((wordOf parts).reverse ++ d) (by simp)
    rw [lexemes_gap hblank, assemble, Scan.step, Scan.stepBare_blank _ hblank, finishWord_held]
    simpa [Scan.enter, Quoting.mode] using hread
  · rw [lexemes_part (longest?_of_ne hpipe hgt h1 h2 _) (fun h => hblank h.2), assemble,
      ← hcs.push .unquoted parts d (by decide) c]
    simp [Scan.step, Scan.stepBare, Scan.push, Scan.enter, Quoting.mode, *]

/-- The scanner reads every line as the two passes do. -/
lemma agrees (cs : List Char) : Agrees cs := by
  -- on the length, since a backslash and an operator take several characters at once
  induction hn : cs.length using Nat.strong_induction_on generalizing cs with
  | _ n ih =>
    subst hn
    cases cs with
    | nil => exact agrees_nil
    | cons c cs =>
      have hlt : ∀ cs', cs'.length < (c :: cs).length → Agrees cs' := fun cs' h => ih _ h cs' rfl
      intro q parts d hparts
      cases q with
      | unquoted => exact agrees_unquoted hlt parts d
      | single => exact agrees_single (hlt cs (Nat.lt_succ_self _)) (hparts (by decide)) d
      | double => exact agrees_double hlt (hparts (by decide)) d

/-! ### Nothing is lost -/

/-- Cutting keeps all marked characters and their order. -/
lemma flatMap_source_lexemes (ms : List Marked) : (lexemes ms).flatMap Lexeme.source = ms := by
  fun_induction lexemes ms with
  | case1 => rfl
  | case2 m ms o h ih =>
    obtain ⟨ho, hfit⟩ := fits_of_longest? h
    obtain ⟨c, text, htext⟩ := List.exists_cons_of_ne_nil (operator_text_ne_nil o ho)
    have hdrop : (m :: ms).drop o.source.length = ms.drop (o.text.length - 1) := by
      simp [Operator.source, htext]
    rw [List.flatMap_cons, ih, Lexeme.source, ← hdrop]
    exact (List.prefix_iff_eq_append.mp hfit)
  | case3 m ms _ _ ih => simp [Lexeme.source, ih]
  | case4 m ms _ _ ih => simp [Lexeme.source, ih]

/-- What a piece can be: an operator of the table, an active blank, or a part of a word. -/
def Lexeme.IsProper : Lexeme → Prop
  | .operator o => o ∈ operators
  | .gap m => m.2 = .active ∧ isBlank m.1 = true
  | .part _ => True

lemma isProper_of_mem_lexemes (ms : List Marked) : ∀ l ∈ lexemes ms, l.IsProper := by
  fun_induction lexemes ms with
  | case1 => simp
  | case2 m ms o h ih => exact List.forall_mem_cons.mpr ⟨(fits_of_longest? h).1, ih⟩
  | case3 m ms _ hblank ih => exact List.forall_mem_cons.mpr ⟨hblank, ih⟩
  | case4 m ms _ _ ih => exact List.forall_mem_cons.mpr ⟨trivial, ih⟩

/-- A character that is not active is nothing but a part of a word. -/
lemma Lexeme.IsProper.eq_part {l : Lexeme} (h : l.IsProper) {m : Marked} (hm : m ∈ l.source)
    (hk : m.2 ≠ .active) : l = .part m := by
  cases l with
  | operator o =>
    obtain ⟨c, _, rfl⟩ := List.mem_map.mp hm
    exact absurd rfl hk
  | gap b =>
    rw [List.mem_singleton.mp hm] at hk
    exact absurd h.1 hk
  | part p => rw [List.mem_singleton.mp hm]

/-- The texts of words, one after the other. -/
def wordTexts (ts : List Token) : List Char :=
  (ts.filterMap word?).flatMap String.toList

lemma wordTexts_append (ts us : List Token) :
    wordTexts (ts ++ us) = wordTexts ts ++ wordTexts us := by
  simp [wordTexts]

lemma wordTexts_wordOf (parts : List Marked) : wordTexts (wordOf parts) = partsText parts := by
  by_cases h : parts.any isOwned = true
  · simp [wordTexts, wordOf, word?, h]
  · simp [wordTexts, wordOf, h, partsText_eq_nil h]

lemma word?_operator : ∀ o ∈ operators, o.token.word? = none := by
  decide

/-- Words are made of all the parts, in order. -/
lemma wordTexts_assemble {ls : List Lexeme} (h : ∀ l ∈ ls, l.IsProper) (parts : List Marked) :
    wordTexts (assemble parts ls) = partsText (parts ++ ls.flatMap Lexeme.parts) := by
  induction ls generalizing parts with
  | nil => simp [assemble, wordTexts_wordOf]
  | cons l ls ih =>
    obtain ⟨hl, hls⟩ := List.forall_mem_cons.mp h
    cases l with
    | operator o =>
      have hskip : wordTexts (o.token :: assemble [] ls) = wordTexts (assemble [] ls) := by
        simp [wordTexts, word?_operator o hl]
      rw [assemble, wordTexts_append, wordTexts_wordOf, hskip, ih hls]
      simp [partsText, Lexeme.parts]
    | gap m =>
      rw [assemble, wordTexts_append, wordTexts_wordOf, ih hls]
      simp [partsText, Lexeme.parts]
    | part m => simp [assemble, ih hls, Lexeme.parts]

/-- Reading a line is marking it and cutting it. Marking and cutting keep all characters and their
order, only active characters make operators and end words, and the words hold exactly the parts
that were not removed. -/
theorem tokenize_eq_assemble (line : String) :
    tokenize line = assemble [] (lexemes (marks line.toList)) ∧
      (marks line.toList).map Prod.fst = line.toList ∧
      (lexemes (marks line.toList)).flatMap Lexeme.source = marks line.toList ∧
      (∀ l ∈ lexemes (marks line.toList), ∀ m ∈ l.source, m.2 ≠ .active → l = .part m) ∧
      (words line).flatMap String.toList =
        partsText ((lexemes (marks line.toList)).flatMap Lexeme.parts) := by
  have hproper := isProper_of_mem_lexemes (marks line.toList)
  have hread : tokenize line = assemble [] (lexemes (marks line.toList)) :=
    agrees line.toList .unquoted [] [] (by simp)
  refine ⟨hread, map_fst_marksFrom .unquoted line.toList, flatMap_source_lexemes _, ?_, ?_⟩
  · intro l hl m hm hk
    exact (hproper l hl).eq_part hm hk
  · rw [words, hread]
    exact wordTexts_assemble hproper []

end Token
end Shell
