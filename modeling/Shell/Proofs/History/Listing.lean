import Mathlib.Data.Nat.Digits.Defs
import Mathlib.Tactic.Lemma
import Shell.Builtin.Report

/-!
# Listing the last entries of a history

The builtin `history` with a number as its only argument lists that many of the last entries, or all
if there are fewer, and changes nothing. A number that does not fit a signed word of 64 bits lists
none, however many there are. So a smaller number lists the end of what a larger one lists as long
as both fit (`Builtin.run_history_numeral`).
-/

namespace Shell

/-! ### Numerals -/

/-- A text of decimal digits. -/
structure Numeral where
  text : String
  ne_empty : text ≠ ""
  digits : ∀ c ∈ text.toList, c.isDigit = true

/-- The numbers of the digits of a text, the first one last. -/
def digitNumbers (cs : List Char) : List Nat :=
  (cs.map fun c => c.toNat - '0'.toNat).reverse

namespace Numeral

/-- The number that the digits denote. -/
def value (n : Numeral) : Nat :=
  Nat.ofDigits 10 (digitNumbers n.text.toList)

/-- The number fits a signed word of 64 bits. -/
def Fits (n : Numeral) : Prop :=
  n.value < 2 ^ 63

instance (n : Numeral) : Decidable n.Fits :=
  inferInstanceAs (Decidable (_ < _))

variable (n : Numeral)

lemma toList_ne_nil : n.text.toList ≠ [] := by
  simpa using n.ne_empty

/-- A text with a character that is no digit is another one. -/
lemma text_ne {s : String} {c : Char} (hc : c ∈ s.toList) (hdigit : c.isDigit = false) :
    n.text ≠ s := by
  rintro rfl
  rw [n.digits c hc] at hdigit
  cases hdigit

end Numeral

/-- Digits that are read one after the other behind a number. -/
lemma foldl_digits {cs : List Char} (h : ∀ c ∈ cs, c.isDigit = true) (n : Nat) :
    cs.foldl (fun acc c =>
      match acc with
      | none => none
      | some n => if c.isDigit then some (n * 10 + (c.toNat - 48)) else none) (some n) =
      some (n * 10 ^ cs.length + Nat.ofDigits 10 (digitNumbers cs)) := by
  induction cs generalizing n with
  | nil => simp [digitNumbers]
  | cons c cs ih =>
    obtain ⟨hc, hcs⟩ := List.forall_mem_cons.mp h
    have hvalue : Nat.ofDigits 10 (digitNumbers (c :: cs)) =
        Nat.ofDigits 10 (digitNumbers cs) + 10 ^ cs.length * (c.toNat - 48) := by
      rw [digitNumbers, List.map_cons, Nat.ofDigits_reverse_cons, List.length_map]
      rfl
    rw [List.foldl_cons]
    simp only [hc, if_true]
    rw [ih hcs, hvalue, List.length_cons, Nat.pow_succ]
    congr 1
    ring

lemma digits?_numeral (n : Numeral) : digits? n.text.toList = some n.value := by
  rw [digits?, if_neg (by simpa using n.toList_ne_nil)]
  refine (foldl_digits n.digits 0).trans ?_
  rw [Nat.zero_mul, Nat.zero_add, Numeral.value]

/-- A numeral has no sign, so it is a number unless it is too large. -/
lemma signedWord?_numeral (n : Numeral) :
    signedWord? n.text = if n.Fits then some (n.value : Int) else none := by
  have hvalue := digits?_numeral n
  have hdigits := n.digits
  have hword : signedWord? n.text = (some (n.value : Int)).filter fun k =>
      -9223372036854775808 ≤ k && k ≤ 9223372036854775807 := by
    rw [signedWord?]
    generalize n.text.toList = cs at hvalue hdigits ⊢
    split
    · exact absurd (hdigits '-' List.mem_cons_self) (by decide)
    · exact absurd (hdigits '+' List.mem_cons_self) (by decide)
    · rw [hvalue]
      rfl
  rw [hword, Option.filter_some]
  refine if_congr ?_ rfl rfl
  rw [Numeral.Fits, Bool.and_eq_true, decide_eq_true_eq, decide_eq_true_eq]
  omega

/-! ### Listings -/

namespace History

/-- Entries with their positions, the first of which is `position`. -/
def numbered (position : Nat) : List String → String
  | [] => ""
  | e :: es => formatEntry position e ++ numbered (position + 1) es

/-- The last `count` entries with their positions in the whole history. -/
def lastEntries (h : History) (count : Nat) : String :=
  numbered (h.entries.length - count + 1) (h.entries.drop (h.entries.length - count))

lemma numbered_eq_join (position : Nat) (es : List String) :
    String.join ((es.zipIdx position).map fun (e, p) => formatEntry p e) =
      numbered position es := by
  induction es generalizing position with
  | nil => rfl
  | cons e es ih => rw [List.zipIdx_cons, List.map_cons, String.join_cons, ih, numbered]

lemma drop_zipIdx (es : List String) (first start : Nat) :
    (es.zipIdx first).drop start = (es.drop start).zipIdx (first + start) := by
  induction es generalizing first start with
  | nil => simp
  | cons e es ih =>
    cases start with
    | zero => rfl
    | succ start =>
      rw [List.zipIdx_cons, List.drop_succ_cons, List.drop_succ_cons, ih]
      congr 1
      omega

/-- The listing of a number of entries, or of all if there are fewer. -/
lemma format_some (h : History) (limit : Nat) :
    h.format (some limit) = h.lastEntries (min limit h.entries.length) := by
  have hstart : h.entries.length - min limit h.entries.length = h.entries.length - limit := by
    omega
  rw [format, lastEntries, hstart]
  simp only [drop_zipIdx, numbered_eq_join]
  rw [Nat.add_comm]

lemma numbered_append (position : Nat) (es ds : List String) :
    numbered position (es ++ ds) = numbered position es ++ numbered (position + es.length) ds := by
  induction es generalizing position with
  | nil => simp [numbered]
  | cons e es ih =>
    rw [List.cons_append, numbered, numbered, ih, String.append_assoc, List.length_cons]
    congr 3
    omega

/-- Fewer entries are listed at the end of more. -/
lemma lastEntries_suffix (h : History) {count more : Nat} (hle : count ≤ more) :
    (h.lastEntries count).toList <:+ (h.lastEntries more).toList := by
  have hstart : h.entries.length - more ≤ h.entries.length - count := by omega
  obtain ⟨gap, hgap⟩ := Nat.exists_eq_add_of_le hstart
  have hsplit : h.entries.drop (h.entries.length - more) =
      (h.entries.drop (h.entries.length - more)).take gap ++
        h.entries.drop (h.entries.length - count) := by
    rw [hgap, ← List.drop_drop, List.take_append_drop]
  have hlength : ((h.entries.drop (h.entries.length - more)).take gap).length = gap := by
    rw [List.length_take, List.length_drop]
    omega
  rw [lastEntries, lastEntries, hsplit, numbered_append, hlength, hgap, String.toList_append]
  have hposition : h.entries.length - more + 1 + gap = h.entries.length - more + gap + 1 := by omega
  rw [hposition]
  exact List.suffix_append _ _

lemma numbered_eq_empty_iff {position : Nat} {es : List String} :
    numbered position es = "" ↔ es = [] := by
  cases es with
  | nil => simp [numbered]
  | cons e es => simp [numbered, formatEntry]

lemma lastEntries_eq_empty_iff {h : History} {count : Nat} :
    h.lastEntries count = "" ↔ count = 0 ∨ h.entries.length = 0 := by
  rw [lastEntries, numbered_eq_empty_iff, List.drop_eq_nil_iff]
  omega

lemma lastEntries_zero (h : History) : h.lastEntries 0 = "" :=
  lastEntries_eq_empty_iff.mpr (.inl rfl)

end History

/-! ### The builtin -/

namespace Builtin

/-- A numeral is taken as the number of entries to list. -/
lemma parseHistory_numeral (n : Numeral) :
    parseHistory [n.text] = .ok { positionals := [n.text] } := by
  have hdash : startsWithText "-" n.text = false := by
    have hdigits := n.digits
    rw [startsWithText]
    generalize n.text.toList = cs at hdigits ⊢
    cases cs with
    | nil => rfl
    | cons c cs =>
      have hc : '-' ≠ c := by
        rintro rfl
        exact absurd (hdigits '-' List.mem_cons_self) (by decide)
      simp [List.isPrefixOf, hc]
  have hhelp : n.text ≠ "help" := n.text_ne (c := 'h') (by decide) (by decide)
  have hlong : n.text ≠ "--help" := n.text_ne (c := 'h') (by decide) (by decide)
  simp [parseHistory, hdash, Grammar.parse, Grammar.parseFrom, hhelp, hlong, grammar,
    Grammar.takePositional]

lemma historyLimit_numeral (n : Numeral) :
    historyLimit n.text = if n.Fits then n.value else 0 := by
  rw [historyLimit, signedWord?_numeral]
  by_cases hfits : n.Fits
  · rw [if_pos hfits, if_pos hfits]
    rfl
  · rw [if_neg hfits, if_neg hfits]

/-- What `history` does with a numeral: it lists entries or nothing. -/
lemma run_history_eq (n : Numeral) (ctx : Context) (fs : FileSystem) :
    Builtin.history.run [n.text] ctx fs =
      { stdout := if n.Fits then ctx.history.lastEntries (min n.value ctx.history.entries.length)
          else ""
        context := ctx, files := fs } := by
  have hrun : Builtin.history.run [n.text] ctx fs =
      { stdout := ctx.history.format (some (historyLimit n.text))
        context := ctx, files := fs } := by
    have hreport := FileSystem.disk.report_history ctx fs { positionals := [n.text] }
    rw [run_eq, parseArguments, parseHistory_numeral]
    exact congrArg (fun x : Report × FileSystem => Response.mk x.1 x.2) hreport
  rw [hrun, History.format_some, historyLimit_numeral]
  by_cases hfits : n.Fits
  · rw [if_pos hfits, if_pos hfits]
  · rw [if_neg hfits, if_neg hfits, Nat.zero_min, History.lastEntries_zero]

/-- With a numeral as its only argument `history` lists the last entries, as many as the number says
or all if there are fewer, each with its position, and changes nothing. This holds as long as the
number fits a signed word of 64 bits; a larger one lists nothing, which is right only if there is
nothing to list. A smaller number lists the end of what a larger one lists if both fit. -/
theorem run_history_numeral (n : Numeral) (ctx : Context) (fs : FileSystem) :
    let listed := ctx.history.lastEntries (min n.value ctx.history.entries.length)
    Builtin.history.run [n.text] ctx fs =
      { result := .ok 0, stdout := if n.Fits then listed else "", stderr := ""
        context := ctx, files := fs } ∧
    ((Builtin.history.run [n.text] ctx fs).stdout = listed ↔
      n.Fits ∨ ctx.history.entries = []) ∧
    ∀ m : Numeral, n.value ≤ m.value → m.Fits →
      (Builtin.history.run [n.text] ctx fs).stdout.toList <:+
        (Builtin.history.run [m.text] ctx fs).stdout.toList := by
  intro listed
  refine ⟨run_history_eq n ctx fs, ?_, ?_⟩
  · rw [run_history_eq]
    by_cases hfits : n.Fits
    · simp only [hfits, if_true, listed, true_or]
    · rw [if_neg hfits, eq_comm]
      simp only [listed, History.lastEntries_eq_empty_iff, hfits, false_or]
      rw [Numeral.Fits] at hfits
      rw [← List.length_eq_zero_iff]
      omega
  · intro m hle hfits
    have hfits' : n.Fits := Nat.lt_of_le_of_lt hle hfits
    rw [run_history_eq, run_history_eq]
    simp only [hfits, hfits', if_true]
    exact ctx.history.lastEntries_suffix (by omega)

/-- Two of three entries, asked for with zeros in front of the number. -/
theorem run_history_numeral_zeros :
    let ctx : Context := { workspace := .root, history := { entries := ["ls", "pwd", "cd /"] } }
    let n : Numeral := ⟨"002", by decide, by simp⟩
    let m : Numeral := ⟨"10", by decide, by simp⟩
    n.value = 2 ∧ n.value ≤ m.value ∧ m.Fits ∧
      (Builtin.history.run [n.text] ctx {}).stdout = "    2  pwd\n    3  cd /\n" ∧
      (Builtin.history.run [n.text] ctx {}).stdout.toList <:+
        (Builtin.history.run [m.text] ctx {}).stdout.toList := by
  intro ctx n m
  have hle : n.value ≤ m.value := by decide
  have hfits : m.Fits := by decide
  obtain ⟨hrun, -, hsuffix⟩ := run_history_numeral n ctx {}
  refine ⟨by decide, hle, hfits, ?_, hsuffix m hle hfits⟩
  rw [hrun]
  decide

/-- The least number that does not fit lists nothing of a history with an entry. -/
theorem run_history_numeral_large :
    let ctx : Context := { workspace := .root, history := { entries := ["ls"] } }
    let n : Numeral := ⟨"9223372036854775808", by decide, by simp⟩
    n.value = 9223372036854775808 ∧ (Builtin.history.run [n.text] ctx {}).stdout = "" ∧
      ctx.history.lastEntries (min n.value ctx.history.entries.length) = "    1  ls\n" := by
  decide +kernel

end Builtin

end Shell
