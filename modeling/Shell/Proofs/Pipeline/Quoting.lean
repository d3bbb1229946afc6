import Shell.Proofs.Pipeline.Grammar
import Shell.Proofs.Token.Rendering

/-!
# Lines of quoted words

A command whose name and arguments all stand in quotes is read as one stage. Quotes keep blanks and
operators in a word, but not a tilde at its front: an argument that stands for the home directory,
or for something in it, is expanded whether or not it was quoted. `Pipeline.parse_quoted` says which
arguments are read as they are.
-/

namespace Shell

/-! ### Expansion of a tilde -/

namespace Path

/-- The word is replaced if the home directory is `home`. Only a home directory that is itself
written with a tilde leaves a word as it is which begins with one. -/
def Expands (home : Option String) (word : String) : Prop :=
  ∃ h, home = some h ∧ h ≠ "" ∧
    (word = "~" ∧ h ≠ "~" ∨
      (∃ rest, word.toList = '~' :: '/' :: rest) ∧ ∀ n, h.toList ≠ '~' :: List.replicate n '/')

/-- The slashes at the end of a text are removed, and a tilde is left. -/
lemma reverse_dropWhile_slash_eq_iff (cs : List Char) :
    (cs.reverse.dropWhile (· == '/')).reverse = ['~'] ↔
      ∃ n, cs = '~' :: List.replicate n '/' := by
  constructor
  · intro h
    have hcut := List.takeWhile_append_dropWhile (p := (· == '/')) (l := cs.reverse)
    have hslashes : cs.reverse.takeWhile (· == '/') =
        List.replicate (cs.reverse.takeWhile (· == '/')).length '/' := by
      refine List.eq_replicate_iff.mpr ⟨rfl, fun c hc => ?_⟩
      simpa using List.mem_takeWhile_imp hc
    refine ⟨(cs.reverse.takeWhile (· == '/')).length, ?_⟩
    rw [← List.reverse_reverse cs, ← hcut, List.reverse_append, h, hslashes]
    simp
  · rintro ⟨n, rfl⟩
    simp

/-- A word that leads into the home directory is kept only by a home directory that is a tilde. -/
lemma expanded_eq_iff (home : String) {word : String} {rest : List Char}
    (hword : word.toList = '~' :: '/' :: rest) :
    String.ofList (home.toList.reverse.dropWhile (· == '/')).reverse ++ "/" ++ String.ofList rest =
      word ↔ ∃ n, home.toList = '~' :: List.replicate n '/' := by
  rw [← reverse_dropWhile_slash_eq_iff, ← String.toList_inj, hword, String.append_assoc]
  simp only [String.toList_append, String.toList_ofList]
  change _ ++ '/' :: rest = ['~'] ++ '/' :: rest ↔ _
  exact List.append_left_inj _

lemma expandTilde_eq_self_iff (word : String) (home : Option String) :
    expandTilde word home = word ↔ ¬ Expands home word := by
  unfold expandTilde
  split
  · simp [Expands]
  · simp [Expands]
  rename_i h hne
  have hh : h ≠ "" := by simpa using hne
  split
  · rename_i hword
    obtain rfl : word = "~" := String.toList_inj.mp hword
    simp [Expands, hh]
  · rename_i rest hword
    have htilde : word ≠ "~" := by
      rintro rfl
      cases hword
    rw [expanded_eq_iff h hword]
    simp [Expands, hh, htilde, hword]
  · rename_i hone hbelow
    refine ⟨fun _ => ?_, fun _ => rfl⟩
    rintro ⟨h', -, -, ⟨rfl, -⟩ | ⟨⟨rest, hword⟩, -⟩⟩
    · exact hone rfl
    · exact hbelow rest hword

end Path

namespace Token

/-! ### Words in quotes -/

/-- A text with the quotes in which it is written. -/
inductive Quoted
  | single (text : String) (free : '\'' ∉ text.toList)
  | double (text : String)

namespace Quoted

def text : Quoted → String
  | .single text _ => text
  | .double text => text

lemma fits_single {text : List Char} (h : '\'' ∉ text) : Style.single.fits text = true := by
  have hall : ∀ c ∈ text, c ≠ '\'' := by
    rintro c hc rfl
    exact h hc
  simpa [Style.fits] using hall

lemma fits_double (text : List Char) : Style.double.fits text = true := rfl

/-- The one part of the word that is written. -/
def fragment : Quoted → Fragment
  | .single text free => ⟨.single, text.toList, fits_single free⟩
  | .double text => ⟨.double, text.toList, fits_double text.toList⟩

def written (q : Quoted) : List Char :=
  q.fragment.written

/-- A command line of quoted words. Before each argument there is a space, and there may be more. -/
def line (name : Quoted) (args : List (Nat × Quoted)) : String :=
  String.ofList (name.written ++
    args.flatMap fun (more, arg) => List.replicate (more + 1) ' ' ++ arg.written)

@[simp] lemma text_fragment (q : Quoted) : q.fragment.text = q.text.toList := by
  cases q <;> rfl

/-- Reading a quoted word from rest reads its text, and nothing is left open. -/
lemma run_written (q : Quoted) (d : List Token) :
    (Scan.run ⟨.bare, none, d⟩ q.written).isSettled = true ∧
      (Scan.run ⟨.bare, none, d⟩ q.written).tokens = d.reverse ++ [.word q.text] := by
  have hrun := Scan.run_spelling (.word [q.fragment] (List.cons_ne_nil _ _)) d
  simpa [Spelling.written, Spelling.token, Fragment.textOf, written] using hrun

lemma tokens_run_args {s : Scan} (hs : s.isSettled = true) (args : List (Nat × Quoted)) :
    (s.run (args.flatMap fun (more, arg) =>
      List.replicate (more + 1) ' ' ++ arg.written)).tokens =
      s.tokens ++ args.map fun arg => .word arg.2.text := by
  induction args generalizing s with
  | nil => simp
  | cons arg args ih =>
    obtain ⟨more, arg⟩ := arg
    obtain ⟨hsettled, htokens⟩ := arg.run_written s.tokens.reverse
    rw [List.flatMap_cons, Scan.run_append, Scan.run_append,
      Scan.run_blanks hs (Scan.isBlank_spaces (more + 1)) (by simp), ih hsettled, htokens]
    simp

lemma tokenize_quoted (name : Quoted) (args : List (Nat × Quoted)) :
    tokenize (line name args) = (name.text :: args.map fun arg => arg.2.text).map .word := by
  obtain ⟨hsettled, htokens⟩ := name.run_written []
  have hargs := tokens_run_args hsettled args
  rw [htokens, ← Scan.run_append] at hargs
  rw [tokenize, line, String.toList_ofList]
  simpa [Function.comp_def] using hargs

end Quoted
end Token

namespace Pipeline

open Token (Quoted)

lemma segments_words (ws : List String) : segments (ws.map .word) = [ws.map .word] := by
  induction ws with
  | nil => exact segments_nil
  | cons w ws ih => rw [List.map_cons, segments_word, ih, List.modifyHead_cons]

lemma ending_words (ws : List String) : ending (ws.map .word) = .ok none := by
  induction ws with
  | nil => rfl
  | cons w ws ih => rw [List.map_cons, ending_word, ih]

lemma split_words (ws : List String) : split (ws.map .word) = .ok ([ws], none) := by
  have hwords : wordsOf (ws.map .word) = ws := by
    simp [wordsOf, List.filterMap_map, Function.comp_def, Token.word?]
  rw [split_eq, ending_words, segments_words]
  simp [Except.map, hwords]

/-- A line of words alone is one stage. -/
lemma parse_words {ctx : Context} {fs : FileSystem} {line : String} {ws : List String}
    (h : tokenize line = ws.map .word) :
    parse ctx fs line = .ok { stages := [stageOf ctx fs ws] } := by
  rw [parse, h, split_words]
  rfl

/-- A line of quoted words is one command. Its arguments are the texts in quotes, except that those
which begin with a tilde are expanded. -/
theorem parse_quoted (ctx : Context) (fs : FileSystem) (name : Quoted)
    (args : List (Nat × Quoted)) :
    let texts := args.map fun arg => arg.2.text
    ∃ stage, parse ctx fs (Quoted.line name args) = .ok { stages := [stage] } ∧
      stage.name = some name.text ∧
      stage.args = texts.map (fun word => Path.expandTilde word ctx.home) ∧
      (stage.args = texts ↔ ∀ word ∈ texts, ¬ Path.Expands ctx.home word) := by
  intro texts
  refine ⟨_, parse_words (Quoted.tokenize_quoted name args), rfl, rfl, ?_⟩
  simp only [← Path.expandTilde_eq_self_iff]
  conv_lhs => rw [← List.map_id texts]
  exact List.map_inj_left

/-- Single quotes around a tilde do not keep it. -/
theorem parse_quoted_tilde :
    let ctx : Context := { workspace := .root, vars := [("HOME", "/home")] }
    let line := Quoted.line (.single "echo" (by decide)) [(0, .single "~" (by decide))]
    line = "'echo' '~'" ∧
      ∃ stage, parse ctx { entries := [] } line = .ok { stages := [stage] } ∧
        stage.args = ["/home"] ∧ stage.args ≠ ["~"] := by
  intro ctx line
  refine ⟨rfl, _, parse_words (Quoted.tokenize_quoted _ _), rfl, ?_⟩
  decide

end Pipeline
end Shell
