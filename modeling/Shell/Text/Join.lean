/-!
# Cutting and joining text

Splitting text at a separator character and joining pieces with one, on `String` but through lists
of characters, where the two operations are plain recursions.
-/

namespace Shell

/-- The pieces of `s` between occurrences of `sep`; there is always at least one. -/
def splitText (sep : Char) (s : String) : List String :=
  (s.toList.splitOn sep).map String.ofList

/-- The pieces in order, with `sep` between neighbours. -/
def joinText (sep : String) : List String → String
  | [] => ""
  | s :: rest => rest.foldl (fun text t => text ++ sep ++ t) s

@[simp] theorem joinText_nil (sep : String) : joinText sep [] = "" := rfl

@[simp] theorem joinText_singleton (sep s : String) : joinText sep [s] = s := rfl

theorem joinText_cons_cons (sep s t : String) (rest : List String) :
    joinText sep (s :: t :: rest) = s ++ sep ++ joinText sep (t :: rest) := by
  have shift : ∀ (rest : List String) (a b : String),
      rest.foldl (fun text t => text ++ sep ++ t) (a ++ b) =
        a ++ rest.foldl (fun text t => text ++ sep ++ t) b := by
    intro rest
    induction rest with
    | nil => intro a b; rfl
    | cons x rest ih =>
      intro a b
      rw [List.foldl_cons, List.foldl_cons, String.append_assoc, String.append_assoc]
      rw [ih a (b ++ (sep ++ x)), String.append_assoc]
  exact shift rest (s ++ sep) t

/-- `s` begins with the text `head`. -/
def startsWithText (head s : String) : Bool :=
  head.toList.isPrefixOf s.toList

/-- `s` contains the character `c`. -/
def containsChar (c : Char) (s : String) : Bool :=
  s.toList.contains c

/-- `text` padded with blanks on the left to at least `width` characters. -/
def padLeft (width : Nat) (text : String) : String :=
  String.ofList (List.replicate (width - text.length) ' ') ++ text

end Shell
