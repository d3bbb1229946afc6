import Mathlib.Tactic.Lemma
import Shell.Path

/-!
# Normal paths

A path is normal if it starts at the root and every name on it is one segment that leads further:
not empty, not `.`, not `..` and without a slash. What a text means is normal if the text starts at
the root, or else if the path is normal at which it is read.
-/

namespace Shell

namespace Path

/-- A segment that leads to an entry of a directory. -/
structure IsName (segment : String) : Prop where
  ne_empty : segment ≠ ""
  ne_here : segment ≠ "."
  ne_parent : segment ≠ ".."
  no_slash : '/' ∉ segment.toList

instance (segment : String) : Decidable (IsName segment) :=
  decidable_of_iff (segment ≠ "" ∧ segment ≠ "." ∧ segment ≠ ".." ∧ '/' ∉ segment.toList)
    ⟨fun ⟨h₁, h₂, h₃, h₄⟩ => ⟨h₁, h₂, h₃, h₄⟩,
      fun h => ⟨h.ne_empty, h.ne_here, h.ne_parent, h.no_slash⟩⟩

/-- A path from the root by names. -/
structure IsNormal (p : Path) : Prop where
  rooted : p.rooted = true
  names : ∀ n ∈ p.names, IsName n

instance (p : Path) : Decidable p.IsNormal :=
  decidable_of_iff (p.rooted = true ∧ ∀ n ∈ p.names, IsName n)
    ⟨fun ⟨hrooted, hnames⟩ => ⟨hrooted, hnames⟩, fun h => ⟨h.rooted, h.names⟩⟩

/-! ### Segments -/

/-- By induction over the text: the first piece grows only by what is not the separator. -/
lemma sep_notMem_of_mem_splitOn {sep : Char} {cs piece : List Char} (h : piece ∈ cs.splitOn sep) :
    sep ∉ piece := by
  induction cs generalizing piece with
  | nil =>
    obtain rfl : piece = [] := by simpa using h
    simp
  | cons c cs ih =>
    obtain ⟨first, rest, hsplit⟩ := List.exists_cons_of_ne_nil (List.splitOn_ne_nil sep cs)
    rw [hsplit] at ih
    rw [List.splitOn_cons_eq_if_modifyHead, hsplit] at h
    split at h
    · rcases List.mem_cons.mp h with rfl | h
      · simp
      · exact ih h
    · rename_i hc
      rcases List.mem_cons.mp h with rfl | h
      · have hfirst : sep ∉ first := ih List.mem_cons_self
        have hne : sep ≠ c := fun h => hc (by simp [h])
        simp [hne, hfirst]
      · exact ih (List.mem_cons_of_mem _ h)

/-- A segment of a text goes up or leads to an entry. -/
lemma parent_or_isName_of_mem_segments {text s : String} (h : s ∈ segments text) :
    s = ".." ∨ IsName s := by
  obtain ⟨hpiece, hkept⟩ := List.mem_filter.mp h
  obtain ⟨piece, hmem, rfl⟩ := List.mem_map.mp hpiece
  have hslash := sep_notMem_of_mem_splitOn hmem
  by_cases hparent : String.ofList piece = ".."
  · exact .inl hparent
  · right
    simp only [ne_eq, Bool.and_eq_true, decide_eq_true_eq] at hkept
    exact ⟨hkept.1, hkept.2, hparent, by rwa [String.toList_ofList]⟩

/-! ### Resolution -/

lemma isNormal_root : root.IsNormal :=
  ⟨rfl, by simp [root]⟩

lemma IsNormal.descend {p : Path} (hp : p.IsNormal) {s : String} (hs : s = ".." ∨ IsName s) :
    (p.descend s).IsNormal := by
  rw [Path.descend]
  split
  · exact ⟨hp.rooted, fun n hn => hp.names n (List.dropLast_subset _ hn)⟩
  · rename_i hparent
    refine ⟨hp.rooted, fun n hn => ?_⟩
    rcases List.mem_append.mp hn with hn | hn
    · exact hp.names n hn
    · rw [List.mem_singleton.mp hn]
      exact hs.resolve_left hparent

/-- What a text means is normal if that is so of the path at which it starts. -/
theorem isNormal_resolve {base : Path} {text : String}
    (h : isAbsolute text = false → base.IsNormal) : (base.resolve text).IsNormal := by
  have hstart : IsNormal (if isAbsolute text then root else base) := by
    split
    · exact isNormal_root
    · rename_i htext
      exact h (by simpa using htext)
  refine List.foldlRecOn (segments text) descend hstart fun p hp s hs => ?_
  exact hp.descend (parent_or_isName_of_mem_segments hs)

end Path

end Shell
