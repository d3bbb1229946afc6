import Mathlib.Tactic.Lemma
import Shell.Text.Blank
import Shell.Text.Lines

/-!
# Lines of texts and of bytes

How the lines of a text come together when text is added to its end. After a line feed, or at the
very beginning, what is added makes lines of its own; otherwise its first line goes on with the last
one of the text. Texts are written as UTF-8, where the byte of a line feed stands for nothing else,
so a text and its bytes have the same lines.
-/

namespace Shell

/-! ### Bytes of a text -/

lemma encode_eq_flatMap (s : String) : encode s = s.toList.flatMap String.utf8EncodeChar := by
  rw [encode, String.toUTF8, ← String.ofList_toList (s := s), String.toByteArray_ofList,
    String.toList_ofList, List.utf8Encode]
  simp

lemma encode_empty : encode "" = [] := rfl

lemma encode_append (s t : String) : encode (s ++ t) = encode s ++ encode t := by
  simp [encode]

lemma decode?_encode (s : String) : decode? (encode s) = some s := by
  have hbytes : (⟨(encode s).toArray⟩ : ByteArray) = s.toByteArray := by
    rw [encode, Array.toArray_toList]
    rfl
  rw [decode?, hbytes, String.fromUTF8?, dif_pos s.isValidUTF8]
  rfl

lemma encode_of_decode? {bs : Bytes} {s : String} (h : decode? bs = some s) : encode s = bs := by
  simp only [decode?, String.fromUTF8?, Option.dite_none_right_eq_some, Option.some.injEq] at h
  obtain ⟨-, rfl⟩ := h
  simp [encode, String.fromUTF8]

/-- A byte below 128 stands for the character of its number, alone or not at all. -/
lemma mem_utf8EncodeChar {b : UInt8} (hb : b.toNat < 128) {c : Char} :
    b ∈ String.utf8EncodeChar c ↔ c.toNat = b.toNat := by
  have hc : c.toNat = c.val.toNat := rfl
  simp only [String.utf8EncodeChar, hc]
  split
  · simp [← UInt8.toNat_inj]
    omega
  split
  · simp [← UInt8.toNat_inj]
    omega
  split
  · simp [← UInt8.toNat_inj]
    omega
  · simp [← UInt8.toNat_inj]
    omega

lemma feed_mem_encode {s : String} : (10 : UInt8) ∈ encode s ↔ '\n' ∈ s.toList := by
  simp only [encode_eq_flatMap, List.mem_flatMap, mem_utf8EncodeChar (b := 10) (by decide)]
  constructor
  · rintro ⟨c, hc, hten⟩
    rwa [← Char.toNat_inj.mp (show c.toNat = '\n'.toNat from hten)]
  · exact fun h => ⟨'\n', h, rfl⟩

/-! ### Cutting into lines -/

section Cut

variable {α : Type} [DecidableEq α] {feed : α}

lemma cutLinesFrom_eq_append (line : List α) (done : List (List α × Bool)) (cs : List α) :
    cutLinesFrom feed line done cs = done.reverse ++ cutLinesFrom feed line [] cs := by
  induction cs generalizing line done with
  | nil => by_cases h : line.isEmpty <;> simp [cutLinesFrom, h]
  | cons c cs ih =>
    rw [cutLinesFrom, cutLinesFrom]
    split
    · rw [ih, ih [] [(line.reverse, true)]]
      simp
    · exact ih _ _

lemma cutLinesFrom_of_notMem {line : List α} (h : feed ∉ line) (before rest : List α)
    (done : List (List α × Bool)) :
    cutLinesFrom feed before done (line ++ rest) =
      cutLinesFrom feed (line.reverse ++ before) done rest := by
  induction line generalizing before with
  | nil => rfl
  | cons c line ih =>
    rw [List.mem_cons, not_or] at h
    rw [List.cons_append, cutLinesFrom, if_neg (Ne.symm h.1), ih h.2]
    simp

/-- A last line without a line feed. -/
lemma cutLines_of_notMem {line : List α} (h : feed ∉ line) :
    cutLines feed line = if line = [] then [] else [(line, false)] := by
  have hcut := cutLinesFrom_of_notMem h [] [] []
  rw [List.append_nil, List.append_nil] at hcut
  rw [cutLines, hcut, cutLinesFrom]
  by_cases hline : line = [] <;> simp [hline]

/-- A line and what comes after it. -/
lemma cutLines_line {line : List α} (h : feed ∉ line) (rest : List α) :
    cutLines feed (line ++ feed :: rest) = (line, true) :: cutLines feed rest := by
  rw [cutLines, cutLinesFrom_of_notMem h, cutLinesFrom, if_pos rfl, cutLinesFrom_eq_append]
  simp [cutLines]

/-- A statement about all lists follows line by line. -/
theorem lines_induction (feed : α) {motive : List α → Prop}
    (last : ∀ line, feed ∉ line → motive line)
    (line : ∀ line rest, feed ∉ line → motive rest → motive (line ++ feed :: rest))
    (cs : List α) : motive cs := by
  by_cases h : feed ∈ cs
  · obtain ⟨first, rest, hcs, hfirst⟩ := List.eq_append_cons_of_mem h
    rw [hcs]
    exact line first rest hfirst (lines_induction feed last line rest)
  · exact last cs h
termination_by cs.length
decreasing_by simp [hcs]; omega

/-- Text after this begins a new line. -/
def EndsLine {α : Type} (feed : α) (cs : List α) : Prop :=
  cs = [] ∨ cs.getLast? = some feed

instance (cs : List α) : Decidable (EndsLine feed cs) :=
  inferInstanceAs (Decidable (_ ∨ _))

omit [DecidableEq α] in
lemma endsLine_line {line rest : List α} :
    EndsLine feed (line ++ feed :: rest) ↔ EndsLine feed rest := by
  cases rest with
  | nil => simp [EndsLine]
  | cons c rest => simp [EndsLine, List.getLast?_cons]

omit [DecidableEq α] in
lemma EndsLine.eq_nil {cs : List α} (h : EndsLine feed cs) (hfeed : feed ∉ cs) : cs = [] := by
  rcases h with h | h
  · exact h
  · exact absurd (List.mem_of_getLast? h) hfeed

/-- What is added after the end of a line makes lines of its own. -/
lemma cutLines_append {cs : List α} (h : EndsLine feed cs) (rest : List α) :
    cutLines feed (cs ++ rest) = cutLines feed cs ++ cutLines feed rest := by
  induction cs using lines_induction feed with
  | last cs hcs =>
    -- with no line feed the list ends a line only if it is empty
    rw [h.eq_nil hcs]
    rfl
  | line line cs hline ih =>
    rw [List.append_assoc, List.cons_append, cutLines_line hline, cutLines_line hline,
      ih (endsLine_line.mp h), List.cons_append]

lemma notMem_of_mem_cutLines {cs : List α} {line : List α × Bool} (h : line ∈ cutLines feed cs) :
    feed ∉ line.1 := by
  induction cs using lines_induction feed with
  | last cs hcs =>
    rw [cutLines_of_notMem hcs] at h
    split at h
    · cases h
    · rwa [List.mem_singleton.mp h]
  | line first cs hfirst ih =>
    rw [cutLines_line hfirst, List.mem_cons] at h
    rcases h with rfl | h
    · exact hfirst
    · exact ih h

/-- A list that does not end a line consists of whole lines and a last line without its end. -/
lemma exists_last_line {cs : List α} (h : ¬ EndsLine feed cs) :
    ∃ whole last, cs = whole ++ last ∧ EndsLine feed whole ∧ feed ∉ last ∧ last ≠ [] := by
  induction cs using lines_induction feed with
  | last cs hcs => exact ⟨[], cs, rfl, .inl rfl, hcs, fun hnil => h (.inl hnil)⟩
  | line line cs hline ih =>
    obtain ⟨whole, last, rfl, hwhole, hlast⟩ := ih fun hcs => h (endsLine_line.mpr hcs)
    exact ⟨line ++ feed :: whole, last, by simp, endsLine_line.mpr hwhole, hlast⟩

end Cut

/-! ### Lines of a text -/

lemma stripReturn_of_getLast? {line : List Char} (h : line.getLast? ≠ some '\r') (ended : Bool) :
    stripReturn (line, ended) = line := by
  simp [stripReturn, h]

lemma textLines_append {s : String} (h : EndsLine '\n' s.toList) (t : String) :
    textLines (s ++ t) = textLines s ++ textLines t := by
  simp only [textLines, String.toList_append, cutLines_append h, List.map_append]

/-- A line that no carriage return ends, and what comes after it. -/
lemma textLines_line {e : String} (hfeed : '\n' ∉ e.toList)
    (hreturn : e.toList.getLast? ≠ some '\r') (rest : String) :
    textLines (e ++ "\n" ++ rest) = e :: textLines rest := by
  have hchars : (e ++ "\n" ++ rest).toList = e.toList ++ '\n' :: rest.toList := by
    simp [String.toList_append]
  simp only [textLines, hchars, cutLines_line hfeed, List.map_cons,
    stripReturn_of_getLast? hreturn, String.ofList_toList]

lemma feed_notMem_of_mem_textLines {s e : String} (h : e ∈ textLines s) : '\n' ∉ e.toList := by
  rw [textLines, List.mem_map] at h
  obtain ⟨line, hline, rfl⟩ := h
  rw [String.toList_ofList, stripReturn]
  split
  · exact fun hmem => notMem_of_mem_cutLines hline (List.dropLast_subset _ hmem)
  · exact notMem_of_mem_cutLines hline

/-- A text and its bytes are cut at the same places. -/
lemma cutLines_encode (s : String) :
    cutLines (10 : UInt8) (encode s) =
      (cutLines '\n' s.toList).map fun line => (encode (String.ofList line.1), line.2) := by
  generalize hcs : s.toList = cs
  obtain rfl : s = String.ofList cs := by rw [← hcs, String.ofList_toList]
  clear hcs
  induction cs using lines_induction '\n' with
  | last cs hcs =>
    have hbytes : (10 : UInt8) ∉ encode (String.ofList cs) := by
      rwa [feed_mem_encode, String.toList_ofList]
    rw [cutLines_of_notMem hbytes, cutLines_of_notMem hcs]
    cases cs with
    | nil => simp [encode_eq_flatMap]
    | cons c cs =>
      have hne : encode (String.ofList (c :: cs)) ≠ [] := by
        simp [encode_eq_flatMap]
      rw [if_neg hne, if_neg (List.cons_ne_nil c cs)]
      rfl
  | line line cs hline ih =>
    have hbytes : (10 : UInt8) ∉ encode (String.ofList line) := by
      rwa [feed_mem_encode, String.toList_ofList]
    have hchars : encode (String.ofList (line ++ '\n' :: cs)) =
        encode (String.ofList line) ++ 10 :: encode (String.ofList cs) := by
      simp [encode_eq_flatMap]
      rfl
    rw [hchars, cutLines_line hbytes, cutLines_line hline, ih, List.map_cons]

/-! ### Standing on a line -/

/-- A text stands on a line of its own. A carriage return before the line feed may be the last
character of the text or belong to the end of the line. -/
def HasLine (bs : Bytes) (e : String) : Prop :=
  ∃ line ∈ cutLines (10 : UInt8) bs, line.1 = encode e ∨ line = (encode e ++ [13], true)

lemma HasLine.append_left {bs : Bytes} {e : String} (h : HasLine bs e) (hbs : EndsLine 10 bs)
    (rest : Bytes) : HasLine (bs ++ rest) e := by
  obtain ⟨line, hline, he⟩ := h
  exact ⟨line, by rw [cutLines_append hbs]; exact List.mem_append_left _ hline, he⟩

lemma HasLine.append_right {bs : Bytes} {e : String} (h : HasLine bs e) {before : Bytes}
    (hbefore : EndsLine 10 before) : HasLine (before ++ bs) e := by
  obtain ⟨line, hline, he⟩ := h
  exact ⟨line, by rw [cutLines_append hbefore]; exact List.mem_append_right _ hline, he⟩

/-- The lines that are read from a text stand on lines of its bytes. -/
lemma hasLine_of_mem_textLines {s e : String} (h : e ∈ textLines s) : HasLine (encode s) e := by
  rw [textLines, List.mem_map] at h
  obtain ⟨⟨line, ended⟩, hline, rfl⟩ := h
  have hmem : (encode (String.ofList line), ended) ∈ cutLines (10 : UInt8) (encode s) := by
    rw [cutLines_encode, List.mem_map]
    exact ⟨(line, ended), hline, rfl⟩
  refine ⟨_, hmem, ?_⟩
  rw [stripReturn]
  split
  · rename_i hstrip
    simp only [Bool.and_eq_true, beq_iff_eq] at hstrip
    obtain ⟨rfl, hlast⟩ := hstrip
    obtain ⟨init, rfl⟩ := List.getLast?_eq_some_iff.mp hlast
    right
    rw [List.dropLast_concat, String.ofList_append, encode_append]
    rfl
  · exact .inl rfl

end Shell
