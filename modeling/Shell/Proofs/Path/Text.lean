import Mathlib.Data.String.Basic
import Shell.Proofs.Path.Normal

/-!
# Texts of paths

A normal path that is written and read again is the same path, wherever it is read
(`Path.resolve_text`). Two texts with a slash between them mean what the second one means where the
first one leads (`Path.resolve_resolve`).
-/

namespace Shell

/-! ### Cutting and joining -/

lemma toList_joinText (sep : String) (pieces : List String) :
    (joinText sep pieces).toList = sep.toList.intercalate (pieces.map String.toList) := by
  induction pieces with
  | nil => rfl
  | cons s rest ih =>
    cases rest with
    | nil => simp
    | cons t rest =>
      rw [joinText_cons_cons, String.toList_append, String.toList_append, ih]
      simp [List.intercalate]

lemma joinText_concat (sep : String) {pieces : List String} (hne : pieces ≠ []) (last : String) :
    joinText sep (pieces ++ [last]) = joinText sep pieces ++ sep ++ last := by
  obtain ⟨s, rest, rfl⟩ := List.exists_cons_of_ne_nil hne
  simp [joinText]

/-- Joining pieces that do not have the separator is undone by splitting. -/
lemma splitText_joinText {pieces : List String} (hne : pieces ≠ [])
    (h : ∀ s ∈ pieces, '/' ∉ s.toList) : splitText '/' (joinText "/" pieces) = pieces := by
  have hlists : ∀ l ∈ pieces.map String.toList, '/' ∉ l := by simpa using h
  have hsep : "/".toList = ['/'] := rfl
  rw [splitText, toList_joinText, hsep, List.splitOn_intercalate '/' hlists (by simpa using hne)]
  simp

lemma splitText_append (a b : String) :
    splitText '/' (a ++ "/" ++ b) = splitText '/' a ++ splitText '/' b := by
  have hchars : (a ++ "/" ++ b).toList = a.toList ++ '/' :: b.toList := by simp
  rw [splitText, hchars, List.splitOn_append_cons_self, List.map_append]
  rfl

namespace Path

/-! ### Texts from the root -/

lemma isAbsolute_append {text : String} (hne : text ≠ "") (rest : String) :
    isAbsolute (text ++ rest) = isAbsolute text := by
  obtain ⟨c, cs, hchars⟩ := List.exists_cons_of_ne_nil (mt String.toList_eq_nil_iff.mp hne)
  have hsep : "/".toList = ['/'] := rfl
  rw [isAbsolute, isAbsolute, startsWithText, startsWithText, String.toList_append, hchars, hsep]
  rfl

lemma rooted_foldl_descend (p : Path) (segments : List String) :
    (segments.foldl descend p).rooted = p.rooted := by
  refine List.foldlRecOn (motive := fun q => q.rooted = p.rooted) segments descend rfl
    fun q hq s _ => ?_
  rw [descend]
  split <;> exact hq

lemma rooted_resolve (base : Path) (text : String) :
    (base.resolve text).rooted = (isAbsolute text || base.rooted) := by
  rw [resolve, rooted_foldl_descend]
  cases isAbsolute text <;> rfl

lemma isAbsolute_text {p : Path} (h : p.rooted = true) : isAbsolute p.text = true := by
  rw [text, if_pos h, isAbsolute_append (by decide)]
  rfl

/-! ### Entries of a directory -/

/-- The written form of an entry is that of the path which goes on by its name. -/
lemma entryText_eq (p : Path) (name : String) :
    p.entryText name = ({ p with names := p.names ++ [name] } : Path).text := by
  rw [entryText, text, text]
  by_cases hnames : p.names = []
  · simp [hnames]
  · rw [if_neg (by simpa using hnames), joinText_concat "/" hnames, ← String.append_assoc,
      ← String.append_assoc]

/-- The written form of an entry begins with that of the directory and ends with the name. -/
lemma exists_entryText_eq_append (p : Path) (name : String) :
    ∃ sep, p.entryText name = p.text ++ sep ++ name := by
  rw [entryText]
  split
  · exact ⟨"", by rw [String.append_empty]⟩
  · exact ⟨"/", rfl⟩

lemma isAbsolute_entryText {p : Path} (h : p.rooted = true) (name : String) :
    isAbsolute (p.entryText name) = true := by
  rw [entryText_eq]
  exact isAbsolute_text h

lemma IsNormal.getLast?_entryText_empty {p : Path} (h : p.IsNormal) :
    (p.entryText "").toList.getLast? = some '/' := by
  rw [entryText, text, if_pos h.rooted]
  split
  · rename_i hnames
    rw [List.isEmpty_iff.mp hnames]
    rfl
  · rw [String.append_empty, String.toList_append]
    exact List.getLast?_concat

/-- A text that ends with a name does not ask for a directory. -/
lemma getLast?_text_ne {p : Path} (hne : p.names ≠ [])
    (hnames : ∀ n ∈ p.names, n ≠ "" ∧ '/' ∉ n.toList) : p.text.toList.getLast? ≠ some '/' := by
  obtain ⟨init, last, hconcat⟩ := (List.eq_nil_or_concat p.names).resolve_left hne
  rw [List.concat_eq_append] at hconcat
  obtain ⟨hlast, hslash⟩ := hnames last (by simp [hconcat])
  obtain ⟨sep, hsep⟩ := exists_entryText_eq_append { p with names := init } last
  rw [entryText_eq, ← hconcat] at hsep
  have hlast' : last.toList ≠ [] := by simpa using hlast
  rw [hsep, String.toList_append, List.getLast?_append_of_ne_nil _ hlast']
  exact fun h => hslash (List.mem_of_getLast? h)

/-! ### Reading what is written -/

lemma splitText_text {p : Path} (h : p.rooted = true) :
    splitText '/' p.text = "" :: splitText '/' (joinText "/" p.names) := by
  have htext : p.text = "" ++ "/" ++ joinText "/" p.names := by simp [text, h]
  rw [htext, splitText_append]
  rfl

lemma segments_text {p : Path} (h : p.IsNormal) : segments p.text = p.names := by
  rw [segments, splitText_text h.rooted]
  by_cases hnames : p.names = []
  · rw [hnames]
    rfl
  · rw [splitText_joinText hnames fun n hn => (h.names n hn).no_slash, List.filter_cons,
      if_neg (by simp), List.filter_eq_self]
    intro n hn
    simp [(h.names n hn).ne_empty, (h.names n hn).ne_here]

/-- Names lead further down, one after the other. -/
lemma foldl_descend_names (p : Path) {names : List String} (h : ∀ n ∈ names, IsName n) :
    names.foldl descend p = { p with names := p.names ++ names } := by
  induction names generalizing p with
  | nil => simp
  | cons n names ih =>
    obtain ⟨hn, hnames⟩ := List.forall_mem_cons.mp h
    rw [List.foldl_cons, descend, if_neg hn.ne_parent, ih _ hnames]
    simp

/-- A path from the root is the same wherever it is read. -/
theorem resolve_text (base : Path) {p : Path} (h : p.IsNormal) : base.resolve p.text = p := by
  obtain ⟨rooted, names⟩ := p
  obtain rfl : rooted = true := h.rooted
  rw [resolve, isAbsolute_text h.rooted, if_pos rfl, segments_text h, foldl_descend_names _ h.names]
  simp [root]

/-- At a normal path a text can as well be read at the text of the path. -/
lemma IsNormal.text_resolve {p : Path} (h : p.IsNormal) (target : String) :
    (p.resolve target).text = normalize p.text target := by
  rw [normalize, ofText, resolve_text _ h]

lemma segments_append (a b : String) : segments (a ++ "/" ++ b) = segments a ++ segments b := by
  rw [segments, splitText_append, List.filter_append]
  rfl

/-- Going on from where a text leads is following both texts with a slash between them. -/
theorem resolve_resolve (p : Path) {a b : String} (ha : a ≠ "") (hb : isAbsolute b = false) :
    (p.resolve a).resolve b = p.resolve (a ++ "/" ++ b) := by
  have habsolute : isAbsolute (a ++ "/" ++ b) = isAbsolute a := by
    rw [String.append_assoc, isAbsolute_append ha]
  rw [resolve, hb, if_neg Bool.false_ne_true, resolve, resolve, habsolute, segments_append,
    List.foldl_append]

end Path

end Shell
