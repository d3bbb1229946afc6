import Mathlib.Data.List.Chain
import Shell.Proofs.Token.Scan

/-!
# Written forms of tokens

A list of tokens can be written on a line in many ways. A word is cut into fragments, each in
quotes, behind backslashes or bare; a redirection of standard output may name its stream; blanks
stand between neighbours and may stand at both ends. A `Rendering` makes all these choices.

Reading a written line gives the tokens back, whatever was chosen: `Rendering.tokenize_line`.
-/

namespace Shell
namespace Token

/-! ### Fragments of a word -/

/-- A character that stands for itself outside quotes. -/
def isPlain (c : Char) : Bool :=
  !isBlank c && c ≠ '\'' && c ≠ '"' && c ≠ '\\' && c ≠ '|' && c ≠ '>'

/-- How a part of a word is written. -/
inductive Style
  | single
  | double
  /-- A backslash stands before every character. -/
  | escaped
  | bare
  deriving DecidableEq, Repr

namespace Style

/-- This text can be written in this style. -/
def fits : Style → List Char → Bool
  | .single, text => text.all (· ≠ '\'')
  | .double, _ => true
  | .escaped, text => !text.isEmpty
  | .bare, text => !text.isEmpty && text.all isPlain

/-- One character between double quotes. -/
def inDouble (c : Char) : List Char :=
  if c = '"' ∨ c = '\\' then ['\\', c] else [c]

/-- The text as it is written. -/
def write : Style → List Char → List Char
  | .single, text => '\'' :: (text ++ ['\''])
  | .double, text => '"' :: (text.flatMap inDouble ++ ['"'])
  | .escaped, text => text.flatMap fun c => ['\\', c]
  | .bare, text => text

end Style

/-- A part of a word with the style in which it is written. -/
structure Fragment where
  style : Style
  text : List Char
  fits : style.fits text = true := by decide

namespace Fragment

def written (f : Fragment) : List Char :=
  f.style.write f.text

/-- The text of several fragments, one after the other. -/
def textOf (fragments : List Fragment) : List Char :=
  fragments.flatMap text

end Fragment

/-! ### Lines -/

/-- A token with the way it is written. -/
inductive Spelling
  | word (fragments : List Fragment) (nonempty : fragments ≠ [])
  | pipe
  /-- A redirection of standard output, whose stream is named if `named` holds. -/
  | output (mode : WriteMode) (named : Bool)
  | errors (mode : WriteMode)

namespace Spelling

def token : Spelling → Token
  | .word fragments _ => .word (String.ofList (Fragment.textOf fragments))
  | .pipe => .pipe
  | .output mode _ => .redirect .stdout mode
  | .errors mode => .redirect .stderr mode

/-- The arrows of a redirection. -/
def arrows : WriteMode → List Char
  | .truncate => ['>']
  | .append => ['>', '>']

def written : Spelling → List Char
  | .word fragments _ => fragments.flatMap Fragment.written
  | .pipe => ['|']
  | .output mode named => if named then '1' :: arrows mode else arrows mode
  | .errors mode => '2' :: arrows mode

end Spelling

/-- A written token and the blanks after it. -/
structure Item where
  spelling : Spelling
  gap : List Char
  blank : gap.all isBlank = true := by decide

def Item.written (i : Item) : List Char :=
  i.spelling.written ++ i.gap

/-- A way to write a list of tokens on a line. -/
structure Rendering where
  /-- The blanks before the first token. -/
  before : List Char
  items : List Item
  blank : before.all isBlank = true := by decide
  /-- Between neighbours there is a blank. -/
  apart : items.IsChain fun i _ => i.gap ≠ []

namespace Rendering

def tokens (r : Rendering) : List Token :=
  r.items.map fun i => i.spelling.token

def line (r : Rendering) : String :=
  String.ofList (r.before ++ r.items.flatMap Item.written)

end Rendering

namespace Scan

/-! ### Reading fragments -/

/-- Add a character to a word, or begin one with it. -/
def pushTo (w : Option (List Char)) (c : Char) : Option (List Char) :=
  some (c :: w.getD [])

lemma foldl_pushTo_some (text w : List Char) :
    text.foldl pushTo (some w) = some (text.reverse ++ w) := by
  induction text generalizing w with
  | nil => rfl
  | cons c text ih => simp [pushTo, ih]

lemma foldl_pushTo {text : List Char} (h : text ≠ []) (w : Option (List Char)) :
    text.foldl pushTo w = some (text.reverse ++ w.getD []) := by
  cases text with
  | nil => exact absurd rfl h
  | cons c text => simp [pushTo, foldl_pushTo_some]

/-- `P w s` says that `s` holds the word `w`. If reading the written form of one character adds that
character to the word, reading that of a text adds the text. -/
lemma run_flatMap (P : Option (List Char) → Scan → Prop) (write : Char → List Char)
    {text : List Char} (h : ∀ c ∈ text, ∀ w s, P w s → P (pushTo w c) (s.run (write c)))
    {w : Option (List Char)} {s : Scan} (hs : P w s) :
    P (text.foldl pushTo w) (s.run (text.flatMap write)) := by
  induction text generalizing w s with
  | nil => exact hs
  | cons c text ih =>
    rw [List.foldl_cons, List.flatMap_cons, run_append]
    exact ih (fun c' hc' => h c' (List.mem_cons_of_mem c hc')) (h c List.mem_cons_self w s hs)

/-- A text in single quotes is taken as it is. -/
lemma run_single {text : List Char} (h : ∀ c ∈ text, c ≠ '\'') (w : List Char)
    (d : List Token) :
    run ⟨.single, some w, d⟩ (text ++ ['\'']) = ⟨.bare, some (text.reverse ++ w), d⟩ := by
  have hstep : ∀ c ∈ text, ∀ w (s : Scan), s = ⟨.single, w, d⟩ →
      s.run [c] = ⟨.single, pushTo w c, d⟩ := by
    rintro c hc w s rfl
    simp [step, push, pushTo, h c hc]
  have hrun := run_flatMap (fun w s => s = ⟨.single, w, d⟩) (fun c => [c]) hstep
    (w := some w) rfl
  rw [List.flatMap_singleton', foldl_pushTo_some] at hrun
  rw [run_append, hrun]
  rfl

/-- In double quotes the written form of a character stands for the character. -/
lemma run_inDouble (c : Char) (w : Option (List Char)) (d : List Token) :
    run ⟨.double, w, d⟩ (Style.inDouble c) = ⟨.double, pushTo w c, d⟩ := by
  by_cases hc : c = '"' ∨ c = '\\'
  · rcases hc with rfl | rfl <;> rfl
  · obtain ⟨hq, hb⟩ := not_or.mp hc
    simp [Style.inDouble, step, push, pushTo, hq, hb]

lemma run_double (text w : List Char) (d : List Token) :
    run ⟨.double, some w, d⟩ (text.flatMap Style.inDouble ++ ['"']) =
      ⟨.bare, some (text.reverse ++ w), d⟩ := by
  have hstep : ∀ c ∈ text, ∀ w (s : Scan), s = ⟨.double, w, d⟩ →
      s.run (Style.inDouble c) = ⟨.double, pushTo w c, d⟩ := by
    rintro c _ w s rfl
    exact run_inDouble c w d
  have hrun := run_flatMap (fun w s => s = ⟨.double, w, d⟩) Style.inDouble hstep
    (w := some w) rfl
  rw [foldl_pushTo_some] at hrun
  rw [run_append, hrun]
  rfl

/-- A bare character is added to the word, though a digit may wait for what comes next. -/
lemma settle_step_plain {s : Scan} {w : Option (List Char)} {d : List Token}
    (hs : s.settle = ⟨.bare, w, d⟩) {c : Char} (hc : isPlain c = true) :
    (s.step c).settle = ⟨.bare, pushTo w c, d⟩ := by
  simp only [isPlain, Bool.and_eq_true, Bool.not_eq_true', decide_eq_true_eq, ne_eq] at hc
  obtain ⟨⟨⟨⟨⟨hblank, hsingle⟩, hdouble⟩, hback⟩, hpipe⟩, hgt⟩ := hc
  rw [← step_settle s hgt, hs, step]
  by_cases h1 : c = '1'
  · subst h1; rfl
  by_cases h2 : c = '2'
  · subst h2; rfl
  simp [stepBare, hblank, hsingle, hdouble, hback, hpipe, hgt, h1, h2, push, enter, pushTo]

/-- Reading a text in any style that fits adds the text to the word. -/
lemma settle_run_write (style : Style) {text : List Char} (fits : style.fits text = true)
    {s : Scan} {w : Option (List Char)} {d : List Token} (hs : s.settle = ⟨.bare, w, d⟩) :
    (s.run (style.write text)).settle = ⟨.bare, some (text.reverse ++ w.getD []), d⟩ := by
  cases style with
  | single =>
    have htext : ∀ c ∈ text, c ≠ '\'' := by simpa [Style.fits] using fits
    rw [Style.write, ← run_settle s (by decide), hs, run_cons]
    exact congrArg settle (run_single htext (w.getD []) d)
  | double =>
    rw [Style.write, ← run_settle s (by decide), hs, run_cons]
    exact congrArg settle (run_double text (w.getD []) d)
  | escaped =>
    have htext : text ≠ [] := by simpa [Style.fits] using fits
    rw [← foldl_pushTo htext, Style.write]
    -- a digit that waits is settled by the backslash, which is not `>`
    refine run_flatMap (fun w s => s.settle = ⟨.bare, w, d⟩) _ (fun c _ w s hs => ?_) hs
    rw [← run_settle s (by decide), hs]
    rfl
  | bare =>
    obtain ⟨htext, hplain⟩ : text ≠ [] ∧ ∀ c ∈ text, isPlain c = true := by
      simpa [Style.fits] using fits
    rw [← foldl_pushTo htext, Style.write]
    have hrun := run_flatMap (fun w s => s.settle = ⟨.bare, w, d⟩) (fun c => [c])
      (fun c hc w s hs => settle_step_plain hs (hplain c hc)) hs
    rwa [List.flatMap_singleton'] at hrun

/-- Reading fragments one after the other joins their texts. -/
lemma settle_run_fragments {fragments : List Fragment} (h : fragments ≠ [])
    {s : Scan} {w : Option (List Char)} {d : List Token} (hs : s.settle = ⟨.bare, w, d⟩) :
    (s.run (fragments.flatMap Fragment.written)).settle =
      ⟨.bare, some ((Fragment.textOf fragments).reverse ++ w.getD []), d⟩ := by
  induction fragments generalizing s w with
  | nil => exact absurd rfl h
  | cons f fragments ih =>
    have hf := settle_run_write f.style f.fits hs
    rw [List.flatMap_cons, run_append]
    by_cases hrest : fragments = []
    · subst hrest
      simpa [Fragment.textOf, Fragment.written] using hf
    · rw [Fragment.written, ih hrest hf]
      simp [Fragment.textOf]

/-! ### Reading lines -/

/-- Reading a written token from rest reads that token, and nothing is left open. -/
lemma run_spelling (σ : Spelling) (d : List Token) :
    (run ⟨.bare, none, d⟩ σ.written).isSettled = true ∧
      (run ⟨.bare, none, d⟩ σ.written).tokens = d.reverse ++ [σ.token] := by
  cases σ with
  | word fragments nonempty =>
    have hrun := settle_run_fragments nonempty (settle_bare none d)
    refine ⟨isSettled_iff.mpr ⟨_, _, hrun⟩, ?_⟩
    rw [← tokens_settle, Spelling.written, hrun]
    simp [tokens, close, finishWord, Spelling.token]
  | pipe => exact ⟨rfl, List.reverse_cons⟩
  | output mode named => cases mode <;> cases named <;> exact ⟨rfl, List.reverse_cons⟩
  | errors mode => cases mode <;> exact ⟨rfl, List.reverse_cons⟩

lemma isBlank_spaces (n : Nat) : ∀ c ∈ List.replicate n ' ', isBlank c = true := by
  intro c hc
  rw [List.eq_of_mem_replicate hc]
  rfl

/-- Blanks end whatever was being read. -/
lemma run_blanks {s : Scan} (hs : s.isSettled = true) {gap : List Char}
    (hgap : ∀ c ∈ gap, isBlank c = true) (h : gap ≠ []) :
    s.run gap = ⟨.bare, none, s.tokens.reverse⟩ := by
  induction gap generalizing s with
  | nil => exact absurd rfl h
  | cons c gap ih =>
    obtain ⟨hc, hrest⟩ := List.forall_mem_cons.mp hgap
    rw [run_cons, step_blank hs hc]
    by_cases hnil : gap = []
    · rw [hnil, run_nil]
    · rw [ih rfl hrest hnil, tokens_rest, List.reverse_reverse]

/-- Blanks at the end of a line change nothing. -/
lemma tokens_run_blanks {s : Scan} (hs : s.isSettled = true) {gap : List Char}
    (hgap : ∀ c ∈ gap, isBlank c = true) : (s.run gap).tokens = s.tokens := by
  by_cases h : gap = []
  · rw [h, run_nil]
  · rw [run_blanks hs hgap h, tokens_rest, List.reverse_reverse]

/-- Blanks between tokens change nothing. -/
lemma run_blanks_rest (d : List Token) {gap : List Char} (hgap : ∀ c ∈ gap, isBlank c = true) :
    run ⟨.bare, none, d⟩ gap = ⟨.bare, none, d⟩ := by
  by_cases h : gap = []
  · rw [h, run_nil]
  · rw [run_blanks rfl hgap h, tokens_rest, List.reverse_reverse]

/-- Reading written tokens one after the other, each ended by the blanks after it or by the end of
the line. -/
lemma tokens_run_items {items : List Item} (h : items.IsChain fun i _ => i.gap ≠ [])
    (d : List Token) :
    (run ⟨.bare, none, d⟩ (items.flatMap Item.written)).tokens =
      d.reverse ++ items.map fun i => i.spelling.token := by
  induction items generalizing d with
  | nil => simp [tokens_rest]
  | cons i items ih =>
    obtain ⟨hsettled, htokens⟩ := run_spelling i.spelling d
    have hblank : ∀ c ∈ i.gap, isBlank c = true := by simpa using i.blank
    rw [List.flatMap_cons, Item.written, run_append, run_append]
    cases items with
    | nil =>
      rw [List.flatMap_nil, run_nil, tokens_run_blanks hsettled hblank, htokens]
      rfl
    | cons j items =>
      -- the blanks before the next token bring the scanner back to rest
      obtain ⟨hgap, hrest⟩ := List.isChain_cons_cons.mp h
      rw [run_blanks hsettled hblank hgap, ih hrest, htokens]
      simp

end Scan

namespace Rendering

/-- A token written in the plainest way: a word in double quotes, a stream named only if it must
be. -/
def plainSpelling : Token → Spelling
  | .word text => .word [⟨.double, text.toList, rfl⟩] (List.cons_ne_nil _ _)
  | .pipe => .pipe
  | .redirect .stdout mode => .output mode false
  | .redirect .stderr mode => .errors mode

lemma token_plainSpelling (t : Token) : (plainSpelling t).token = t := by
  match t with
  | .word text => simp [plainSpelling, Spelling.token, Fragment.textOf]
  | .pipe => rfl
  | .redirect .stdout mode => rfl
  | .redirect .stderr mode => rfl

def plainItem (t : Token) : Item :=
  { spelling := plainSpelling t, gap := [' '] }

/-- Every list of tokens can be written. -/
lemma exists_tokens_eq (ts : List Token) : ∃ r : Rendering, r.tokens = ts := by
  have hne : ∀ t t' : Token, (plainItem t).gap ≠ [] := fun t _ => List.cons_ne_nil ' ' []
  have happart : (ts.map plainItem).IsChain fun i _ => i.gap ≠ [] :=
    (List.pairwise_map.mpr (List.pairwise_of_forall hne)).isChain
  refine ⟨⟨[], ts.map plainItem, rfl, happart⟩, ?_⟩
  rw [tokens, List.map_map]
  exact (List.map_congr_left fun t _ => token_plainSpelling t).trans (List.map_id ts)

/-- Reading a written line gives the tokens back, in whatever way they were written. -/
theorem tokenize_line (ts : List Token) :
    (∃ r : Rendering, r.tokens = ts) ∧
      ∀ r : Rendering, r.tokens = ts →
        tokenize r.line = ts ∧ words r.line = ts.filterMap Token.word? := by
  refine ⟨exists_tokens_eq ts, ?_⟩
  rintro r rfl
  have hbefore : ∀ c ∈ r.before, isBlank c = true := by simpa using r.blank
  have hread : tokenize r.line = r.tokens := by
    rw [tokenize, line, String.toList_ofList, Scan.run_append, Scan.run_blanks_rest [] hbefore,
      Scan.tokens_run_items r.apart]
    rfl
  exact ⟨hread, by rw [words, hread]⟩

end Rendering

end Token
end Shell
