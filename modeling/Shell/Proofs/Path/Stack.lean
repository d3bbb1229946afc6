import Shell.Proofs.Path.Text

/-!
# The stack of names

Which path a text means can be read off its components from left to right with a stack of names: a
name is put on the stack, and `..` takes the last one away if there is one. The written form of the
stack that is left is the normal form of the text. What starts at the root has only names in its
normal form, and is its own normal form wherever it is read.
-/

namespace Shell

lemma joinText_eq_intercalate (sep : String) (pieces : List String) :
    joinText sep pieces = sep.intercalate pieces := by
  rw [← String.toList_inj, toList_joinText, String.toList_intercalate]

namespace Path

/-! ### The stack -/

/-- All components of `target`, after those of `base` unless `target` starts at the root. -/
def componentsAt (base target : String) : List String :=
  if isAbsolute target then splitText '/' target
  else splitText '/' base ++ splitText '/' target

/-- What a component that is neither empty nor `.` does to a stack of names. -/
def stacked (stack : List String) (component : String) : List String :=
  if component = ".." then stack.tail else component :: stack

/-- The names that are left of `target` read at `base`, the last one first. -/
def stackAt (base target : String) : List String :=
  let components := (componentsAt base target).filter fun c => c ≠ "" ∧ c ≠ "."
  components.foldl stacked []

/-- The written form of the stack. A slash stands before it if one of the two texts starts at the
root. -/
def stackText (base target : String) : String :=
  (if isAbsolute base || isAbsolute target then "/" else "") ++
    "/".intercalate (stackAt base target).reverse

lemma names_descend (p : Path) (segment : String) :
    (p.descend segment).names.reverse = stacked p.names.reverse segment := by
  rw [descend, stacked]
  split
  · rw [List.tail_reverse]
  · rw [List.reverse_concat]

lemma names_foldl_descend (p : Path) (segments : List String) :
    (segments.foldl descend p).names.reverse = segments.foldl stacked p.names.reverse := by
  induction segments generalizing p with
  | nil => rfl
  | cons s segments ih => rw [List.foldl_cons, List.foldl_cons, ih, names_descend]

lemma filter_componentsAt (base target : String) :
    ((componentsAt base target).filter fun c => c ≠ "" ∧ c ≠ ".") =
      if isAbsolute target then segments target else segments base ++ segments target := by
  have hkept : (fun c : String => decide (c ≠ "" ∧ c ≠ ".")) =
      fun c => decide (c ≠ "") && decide (c ≠ ".") := by simp
  rw [componentsAt, hkept]
  split
  · rfl
  · rw [List.filter_append]
    rfl

/-- One pass over all components comes to the same as two, over those of `base` and then over those
of `target`. -/
lemma names_resolve_ofText (base target : String) :
    ((ofText base).resolve target).names.reverse = stackAt base target := by
  rw [stackAt, filter_componentsAt, resolve, names_foldl_descend]
  split
  · rfl
  · have hstart : (if isAbsolute base then root else ⟨false, []⟩ : Path).names = [] := by
      split <;> rfl
    rw [ofText, resolve, names_foldl_descend, hstart, List.foldl_append]
    rfl

lemma rooted_resolve_ofText (base target : String) :
    ((ofText base).resolve target).rooted = (isAbsolute base || isAbsolute target) := by
  rw [rooted_resolve, ofText, rooted_resolve, Bool.or_false, Bool.or_comm]

/-! ### Normal forms -/

lemma isNormal_resolve_ofText {base target : String}
    (h : isAbsolute base = true ∨ isAbsolute target = true) :
    ((ofText base).resolve target).IsNormal := by
  refine isNormal_resolve fun htarget => isNormal_resolve fun hbase => ?_
  simp [hbase, htarget] at h

/-- After the first slash of a normal path there are only names. -/
lemma isName_of_mem_splitText_text {p : Path} (h : p.IsNormal) :
    p.text = "/" ∨ ∀ c ∈ (splitText '/' p.text).tail, IsName c := by
  by_cases hnames : p.names = []
  · left
    rw [text, hnames, if_pos h.rooted]
    rfl
  · right
    intro c hc
    rw [splitText_text h.rooted, List.tail_cons,
      splitText_joinText hnames fun n hn => (h.names n hn).no_slash] at hc
    exact h.names c hc

/-- The normal form of a text read at another is the written form of the stack of its names. If one
of the two starts at the root, so does the normal form; it has no component that is empty, `.` or
`..`; and it is the normal form of itself wherever it is read. -/
theorem normalize_eq_stackText (base target : String) :
    normalize base target = stackText base target ∧
      (isAbsolute base = true ∨ isAbsolute target = true →
        isAbsolute (normalize base target) = true ∧
        (normalize base target = "/" ∨
          ∀ c ∈ (splitText '/' (normalize base target)).tail, IsName c) ∧
        ∀ other, normalize other (normalize base target) = normalize base target) := by
  constructor
  · rw [normalize, text, stackText, rooted_resolve_ofText, joinText_eq_intercalate,
      ← names_resolve_ofText, List.reverse_reverse]
  · intro h
    have hnormal := isNormal_resolve_ofText h
    refine ⟨isAbsolute_text hnormal.rooted, isName_of_mem_splitText_text hnormal, fun other => ?_⟩
    rw [normalize, normalize, resolve_text _ hnormal]

/-- More steps up than there are names, and slashes and dots in between. -/
theorem normalize_eq_stackText_up :
    normalize "/usr//lib/." "../.././../tmp/./x//y/../" = "/tmp/x" ∧
      ∀ other, normalize other "/tmp/x" = "/tmp/x" := by
  obtain ⟨htext, hnormal⟩ := normalize_eq_stackText "/usr//lib/." "../.././../tmp/./x//y/../"
  have hvalue : stackText "/usr//lib/." "../.././../tmp/./x//y/../" = "/tmp/x" := by decide
  rw [htext, hvalue] at hnormal
  exact ⟨htext.trans hvalue, (hnormal (.inl (by decide))).2.2⟩

end Path

end Shell
