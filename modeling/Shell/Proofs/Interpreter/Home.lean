import Shell.Proofs.Command.Arguments
import Shell.Proofs.Execute.Redirection
import Shell.Proofs.Interpreter.Workspace
import Shell.Proofs.Pipeline.Quoting

/-!
# The way home

A tilde in an argument is expanded when the line is read, and `cd` expands its target once more. The
second time changes nothing, unless the home directory is itself written with a tilde at its front:
what the first expansion leaves does not begin with one, however many slashes were cut off. So `cd`
goes where a single expansion of the word leads (`Interpreter.evaluate_cd`).
-/

namespace Shell

/-! ### Expanding twice -/

namespace Path

lemma startsWithText_tilde_iff (text : String) :
    startsWithText "~" text = true ↔ text.toList.head? = some '~' := by
  have htilde : "~".toList = ['~'] := rfl
  rw [startsWithText, htilde]
  cases text.toList with
  | nil => simp
  | cons c cs => simp [@eq_comm _ '~']

/-- Before the rest is added, the slashes at the end of a text are cut off. What is kept of it is
nothing, and then a slash comes to the front, or begins as the text does. -/
lemma startsWithText_trimmed {text : String} (h : startsWithText "~" text = false)
    (rest : String) :
    startsWithText "~"
      (String.ofList (text.toList.reverse.dropWhile (· == '/')).reverse ++ "/" ++ rest) = false := by
  have hfront : (text.toList.reverse.dropWhile (· == '/')).reverse <+: text.toList := by
    rw [← List.reverse_suffix, List.reverse_reverse]
    exact List.dropWhile_suffix _
  obtain ⟨slashes, hslashes⟩ := hfront
  rw [Bool.eq_false_iff, ne_eq, startsWithText_tilde_iff] at h ⊢
  rw [String.append_assoc, String.toList_append, String.toList_ofList]
  generalize (text.toList.reverse.dropWhile (· == '/')).reverse = kept at hslashes ⊢
  cases kept with
  | nil => simp
  | cons c cs =>
    rw [← hslashes] at h
    exact h

variable {home : Option String}

/-- Only a word that begins with a tilde is replaced. -/
lemma expandTilde_of_startsWithText {word : String} (h : startsWithText "~" word = false) :
    expandTilde word home = word := by
  rw [expandTilde_eq_self_iff]
  rintro ⟨-, -, -, ⟨rfl, -⟩ | ⟨⟨rest, hword⟩, -⟩⟩
  · revert h
    decide
  · have hstarts : startsWithText "~" word = true := by
      rw [startsWithText_tilde_iff, hword, List.head?_cons]
    rw [hstarts] at h
    cases h

lemma expandTilde_ne_empty {word : String} (h : word ≠ "") : expandTilde word home ≠ "" := by
  unfold expandTilde
  split
  · exact h
  · exact h
  · rename_i hne
    split
    · simpa using hne
    · simp
    · exact h

section

variable (hhome : ∀ d ∈ home, startsWithText "~" d = false)
include hhome

/-- A word is kept, or what takes its place does not begin with a tilde. -/
lemma expandTilde_eq_self_or (word : String) :
    expandTilde word home = word ∨ startsWithText "~" (expandTilde word home) = false := by
  unfold expandTilde
  split
  · exact .inl rfl
  · exact .inl rfl
  · rename_i d _
    split
    · exact .inr (hhome d rfl)
    · exact .inr (startsWithText_trimmed (hhome d rfl) _)
    · exact .inl rfl

lemma expandTilde_expandTilde (word : String) :
    expandTilde (expandTilde word home) home = expandTilde word home := by
  rcases expandTilde_eq_self_or hhome word with hkept | hreplaced
  · rw [hkept, hkept]
  · exact expandTilde_of_startsWithText hreplaced

end

/-- Under a home directory that is itself to be expanded, a second expansion leads further. -/
example : expandTilde (expandTilde "~" (some "~/a")) (some "~/a") ≠
    expandTilde "~" (some "~/a") := by decide

end Path

/-! ### The target of `cd` -/

namespace Builtin

/-- The arguments of `cd` give it `target` to go to, and do not ask for its usage. -/
def TakesTarget (args : List String) (target : String) : Prop :=
  ∃ a, Builtin.cd.parseArguments args = .ok a ∧ a.help = false ∧ a.positionals = [target]

/-- Behind `--` everything is a target. -/
lemma takesTarget_marked (target : String) : TakesTarget ["--", target] target :=
  ⟨{ positionals := [target], ended := true }, rfl, rfl, rfl⟩

/-- How `cd` reads an argument that stands alone. -/
lemma parseArguments_cd_alone (arg : String) :
    Builtin.cd.parseArguments [arg] =
      if arg = "--help" ∨ arg = "help" then .ok { help := true }
      else if startsWithText "-" arg = true then
        if arg = "--" then .ok { ended := true } else .error (.unrecognized arg)
      else .ok { positionals := [arg] } := by
  change (grammar .cd).parseFrom {} [arg] = _
  rw [Grammar.parseFrom.eq_def]
  simp [Grammar.parseFrom, Grammar.flag?, Grammar.takePositional, grammar]

lemma takesTarget_alone_iff (target : String) :
    TakesTarget [target] target ↔ startsWithText "-" target = false ∧ target ≠ "help" := by
  rw [TakesTarget, parseArguments_cd_alone]
  split_ifs with hasks hdash
  · have hoption : startsWithText "-" "--help" = true := by decide
    rcases hasks with rfl | rfl <;> simp [hoption]
  · simp [hdash]
  · simp [hdash]
  · obtain ⟨-, hhelp⟩ := not_or.mp hasks
    simp [hdash, hhelp]

lemma report_of_takesTarget {σ : Type} (d : Disk σ) {args : List String} {target : String}
    (h : TakesTarget args target) (ctx : Context) (s : σ) :
    Builtin.cd.report d args ctx s = d.report (fun desk => desk.cd (some target) ctx) s := by
  obtain ⟨a, hparse, hhelp, htarget⟩ := h
  rw [report_eq, hparse]
  simp [hhelp, htarget, Desk.act]

lemma cdTarget?_some (word : String) (home : Option String) :
    cdTarget? (some word) home =
      if word = "" then home.filter (· ≠ "") else some (Path.expandTilde word home) := by
  by_cases hword : word = ""
  · subst hword
    rfl
  · simp [cdTarget?, Option.filter, hword]

/-- An argument that was expanded already has the target of the word that was written. -/
lemma cdTarget?_expandTilde {home : Option String}
    (hhome : ∀ d ∈ home, startsWithText "~" d = false) (word : String) :
    cdTarget? (some (Path.expandTilde word home)) home = cdTarget? (some word) home := by
  by_cases hword : word = ""
  · rw [hword, Path.expandTilde_of_startsWithText (by decide)]
  · rw [cdTarget?_some, cdTarget?_some, if_neg (Path.expandTilde_ne_empty hword), if_neg hword,
      Path.expandTilde_expandTilde hhome]

end Builtin

/-! ### Lines of `cd` -/

lemma Session.report_builtin (s : Session) (name reason : String) :
    s.report (.builtin name reason) = s.printed "" (name ++ ": " ++ reason ++ "\n") := by
  simp [report, Error.reportsToStdout, Error.message, writeErr, SharedOutput.write, printed,
    encode_empty]

namespace Interpreter

open Token (Quoted)

/-- The session after a line that sends it to `target`. It goes there if there is a directory, and
otherwise says that there is none. Without a target it says that no home directory is known. -/
def sentTo (line : String) (target : Option String) (sh : Interpreter) : Interpreter :=
  let context := sh.context.record line
  match target with
  | none =>
    let session := sh.machine.session.printed "" "cd: HOME not set\n"
    { context, machine := { sh.machine with session }, lastStatus := 1 }
  | some target =>
    let path := context.resolvePath target
    if sh.machine.files.isDirectory path.text then
      { context := { context with workspace := path }, machine := sh.machine, lastStatus := 0 }
    else
      let session :=
        sh.machine.session.printed ("cd: " ++ target ++ ": No such file or directory\n") ""
      { context, machine := { sh.machine with session }, lastStatus := 1 }

variable (programs : Programs)

/-- A line that is one builtin. -/
lemma runLine_builtin {line : String} {b : Builtin} {args : List String}
    (h : tokenize line = (b.name :: args).map .word) (ctx : Context) (m : Machine) :
    let reported :=
      b.report Machine.disk (args.map fun word => Path.expandTilde word ctx.home) ctx m
    let r := reported.1
    let left := reported.2
    runLine programs line ctx m =
      ((b.outcome r.result, r.context),
        { left with session := left.session.printed r.stdout r.stderr }) := by
  have hrunner : (Pipeline.stageOf ctx m.files (b.name :: args)).runner = .ok (.builtin b) := by
    simp [Pipeline.stageOf, Context.resolve, Command.runner]
  rw [runLine_of_parse programs line (Pipeline.parse_words h),
    Machine.execute_builtin programs hrunner, Machine.perform_session]
  rfl

/-- A line that hands `cd` an argument sends the session to the target that `cd` makes of it. -/
lemma evaluate_cdTarget {line target : String} {words : List String} {sh : Interpreter}
    (h : tokenize line = ("cd" :: words).map .word)
    (htakes : Builtin.TakesTarget
      (words.map fun word => Path.expandTilde word sh.context.home) target) :
    (sh.evaluate programs line).2 =
      sh.sentTo line (Builtin.cdTarget? (some target) sh.context.home) := by
  have hhome : (sh.context.record line).home = sh.context.home :=
    EchoLine.home_record sh.context line
  have hrun := runLine_builtin programs (b := .cd) h (sh.context.record line) sh.machine
  rw [hhome, Builtin.report_of_takesTarget Machine.disk htakes, Disk.report_cd, hhome] at hrun
  rw [evaluate, hrun]
  unfold sentTo
  cases Builtin.cdTarget? (some target) sh.context.home with
  | none =>
    simp [Builtin.outcome, Failure.isBrokenPipe, Failure.cause?, Failure.message,
      Session.printed_empty, Session.report_builtin, Error.status, Builtin.name]
  | some goal =>
    have hfiles : Machine.disk.files sh.machine = sh.machine.files := rfl
    dsimp only
    rw [hfiles]
    obtain ⟨hdirectory, hset⟩ | ⟨hdirectory, hset⟩ :=
      (sh.context.record line).setWorkspace_cases sh.machine.files goal
    · simp [hdirectory, hset, Builtin.outcome, Session.printed_empty]
    · simp [hdirectory, hset, Builtin.outcome]

/-- A session that is sent to a directory gets there. -/
lemma workspace_sentTo {sh : Interpreter} {target : String} {path : Path} (line : String)
    (hpath : sh.context.resolvePath target = path)
    (hdirectory : sh.machine.files.isDirectory path.text = true) :
    (sh.sentTo line (some target)).context.workspace = path := by
  subst hpath
  have hrecord : (sh.context.record line).resolvePath target = sh.context.resolvePath target := by
    simp only [Context.record, Context.resolvePath]
  simp [sentTo, hrecord, hdirectory]

/-- Let the home directory be unknown, or not begin with a tilde. Then expanding a word twice is
expanding it once. The target that `cd` makes of an expanded word is the single expansion of the
word, and home if the word is empty. A line that hands `cd` the expansion of a word, in whatever
quotes it is written, sends the session to this target. Behind `--` every word is handed over, and
every word can be written there; a word alone is handed over unless what it expands to is taken for
an option or for a question about the usage. -/
theorem evaluate_cd {home : Option String} (hhome : ∀ d ∈ home, startsWithText "~" d = false) :
    let once := fun word => Path.expandTilde word home
    let target := fun word => if word = "" then home.filter (· ≠ "") else some (once word)
    (∀ word, once (once word) = once word) ∧
    (∀ word, Builtin.cdTarget? (some (once word)) home = target word) ∧
    (∀ (sh : Interpreter) (line : String) (words : List String) (word : String),
      sh.context.home = home → tokenize line = ("cd" :: words).map .word →
      Builtin.TakesTarget (words.map once) (once word) →
      (sh.evaluate programs line).2 = sh.sentTo line (target word)) ∧
    ∀ word, (∃ line, tokenize line = ["cd", "--", word].map .word) ∧
      Builtin.TakesTarget (["--", word].map once) (once word) ∧
      (Builtin.TakesTarget ([word].map once) (once word) ↔
        startsWithText "-" (once word) = false ∧ once word ≠ "help") := by
  intro once target
  have htarget (word : String) : Builtin.cdTarget? (some (once word)) home = target word := by
    rw [Builtin.cdTarget?_expandTilde hhome, Builtin.cdTarget?_some]
  refine ⟨Path.expandTilde_expandTilde hhome, htarget, ?_, fun word => ⟨?_, ?_, ?_⟩⟩
  · rintro sh line words word rfl hline htakes
    rw [evaluate_cdTarget programs hline htakes, htarget]
  · exact ⟨_, Quoted.tokenize_quoted (.double "cd") [(0, .double "--"), (0, .double word)]⟩
  · have hmark : once "--" = "--" := Path.expandTilde_of_startsWithText (by decide)
    rw [List.map_cons, hmark]
    exact Builtin.takesTarget_marked (once word)
  · exact Builtin.takesTarget_alone_iff (once word)

/-- A home directory that ends with slashes, and does not begin at the root but with a dash. -/
theorem evaluate_cd_slashes :
    let sh : Interpreter :=
      { context := { workspace := .root, vars := [("HOME", "-h//")] }
        machine := { files := { entries := [(["-h"], .directory), (["-h", "x"], .directory)] } } }
    let programs : Programs := fun _ _ => .exit 0
    (∀ d ∈ sh.context.home, startsWithText "~" d = false) ∧
      (sh.evaluate programs "cd -- '~/x'").2.context.workspace = ⟨true, ["-h", "x"]⟩ ∧
      (sh.evaluate programs "cd ''").2.context.workspace = ⟨true, ["-h"]⟩ := by
  intro sh programs
  have hhome : ∀ d ∈ sh.context.home, startsWithText "~" d = false := by decide
  obtain ⟨-, -, hgo, htakes⟩ := evaluate_cd programs hhome
  refine ⟨hhome, ?_, ?_⟩
  · have hdirectory : sh.machine.files.isDirectory "/-h/x" = true := by
      have hstat : sh.machine.files.stat? [] "/-h/x" = some (["-h", "x"], .directory) := by
        refine FileSystem.stat?_eq_some_iff.mpr ⟨⟨by decide, by decide, by decide⟩, ?_⟩
        exact .enter (by decide) (by simp) rfl (.enter (by decide) (by simp) rfl (.arrive _ _))
      simp [FileSystem.isDirectory, hstat]
    have hsent : (sh.evaluate programs "cd -- '~/x'").2 =
        sh.sentTo "cd -- '~/x'" (some "-h/x") :=
      hgo sh _ ["--", "~/x"] "~/x" rfl (by decide) (htakes "~/x").2.1
    rw [hsent]
    exact workspace_sentTo _ (by decide) hdirectory
  · have hdirectory : sh.machine.files.isDirectory "/-h" = true := by
      have hstat : sh.machine.files.stat? [] "/-h" = some (["-h"], .directory) := by
        refine FileSystem.stat?_eq_some_iff.mpr ⟨⟨by decide, by decide, by decide⟩, ?_⟩
        exact .enter (by decide) (by simp) rfl (.arrive _ _)
      simp [FileSystem.isDirectory, hstat]
    have hsent : (sh.evaluate programs "cd ''").2 = sh.sentTo "cd ''" (some "-h//") :=
      hgo sh _ [""] "" rfl (by decide) ((htakes "").2.2.mpr (by decide))
    rw [hsent]
    exact workspace_sentTo _ (by decide) hdirectory

end Interpreter

end Shell
