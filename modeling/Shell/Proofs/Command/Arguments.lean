import Shell.Builtin.Report
import Shell.Proofs.FileSystem.Regular

/-!
# Arguments that reach a command

The arguments of `type`, `exit` and `cd` are read as options first. Those that do not begin with a
dash are no options. All of them reach the command, unless the first one is the word `help`: then
the command prints how it is used and does nothing (`Builtin.run_undashed`). Behind another argument
`help` is an argument like any other.
-/

namespace Shell

namespace Grammar

/-! ### Reading arguments without dashes -/

variable {g : Grammar} {a : Arguments}

lemma parseFrom_help (h : a.ended = false) (args : List String) :
    g.parseFrom a ("help" :: args) = g.parseFrom { a with help := true } args := by
  rw [parseFrom.eq_def]
  simp [h]

lemma parseFrom_undashed {a' : Arguments} {arg : String} (hdash : startsWithText "-" arg = false)
    (hhelp : arg ≠ "help") (htake : g.takePositional a arg = .ok a') (args : List String) :
    g.parseFrom a (arg :: args) = g.parseFrom a' args := by
  have hlong : arg ≠ "--help" := by
    rintro rfl
    revert hdash
    decide
  rw [parseFrom.eq_def]
  simp [hdash, hhelp, hlong, htake]

section

variable {name : String} (hg : g.positional = .greedy name)
include hg

/-- Behind the options every argument is taken as it is. -/
lemma parseFrom_ended (h : a.ended = true) (args : List String) :
    g.parseFrom a args = .ok { a with positionals := a.positionals ++ args } := by
  induction args generalizing a with
  | nil => simp [parseFrom]
  | cons arg args ih =>
    have hstep : g.parseFrom a (arg :: args) =
        g.parseFrom { a with positionals := a.positionals ++ [arg], ended := true } args := by
      rw [parseFrom.eq_def]
      simp [h, takePositional, hg]
    rw [hstep, ih rfl]
    simp [h]

/-- By induction over the arguments: the words `help` at their front are left out, and the first
other argument ends the options. -/
lemma parseFrom_greedy {args : List String} (hdash : ∀ arg ∈ args, startsWithText "-" arg = false)
    (h : a.ended = false) :
    g.parseFrom a args = .ok { a with
      positionals := a.positionals ++ args.dropWhile (· == "help")
      ended := !(args.dropWhile (· == "help")).isEmpty
      help := a.help || args.head? == some "help" } := by
  induction args generalizing a with
  | nil =>
    rw [parseFrom]
    cases a
    simp_all
  | cons arg args ih =>
    obtain ⟨harg, hargs⟩ := List.forall_mem_cons.mp hdash
    by_cases hhelp : arg = "help"
    · subst hhelp
      rw [parseFrom_help h, ih (a := { a with help := true }) hargs h]
      simp
    · have htake : g.takePositional a arg =
          .ok { a with positionals := a.positionals ++ [arg], ended := true } := by
        simp [takePositional, hg]
      rw [parseFrom_undashed harg hhelp htake, parseFrom_ended hg rfl]
      simp [hhelp]

end

/-- A single argument. -/
lemma parse_optional {name help : String} (hg : g.positional = .optional name help) {arg : String}
    (hdash : startsWithText "-" arg = false) (hhelp : arg ≠ "help") :
    g.parse [arg] = .ok { positionals := [arg] } := by
  have htake : g.takePositional {} arg = .ok { positionals := [arg] } := by
    simp [takePositional, hg]
  rw [parse, parseFrom_undashed hdash hhelp htake, parseFrom]

end Grammar

namespace Builtin

/-- How the builtin is used is printed, and nothing is done. -/
def showUsage (b : Builtin) (ctx : Context) (fs : FileSystem) : Response :=
  { stdout := b.grammar.usage, context := ctx, files := fs }

/-! ### Names -/

section

variable {args : List String} (hdash : ∀ arg ∈ args, startsWithText "-" arg = false)
  (ctx : Context) (fs : FileSystem)
include hdash

/-- A builtin that takes any number of arguments. -/
lemma run_greedy {b : Builtin} {name : String} (hb : b.grammar.positional = .greedy name)
    (hparse : b.parseArguments = b.grammar.parse) :
    b.run args ctx fs =
      if args.head? = some "help" then b.showUsage ctx fs
      else fs.respond fun desk =>
        desk.act b { positionals := args, ended := !args.isEmpty } ctx := by
  rw [run_eq, hparse, Grammar.parse, Grammar.parseFrom_greedy hb hdash rfl]
  by_cases hhelp : args.head? = some "help"
  · simp [hhelp, showUsage]
  · have hall : args.dropWhile (· == "help") = args := by
      cases args with
      | nil => rfl
      | cons arg args => simp_all
    have hasks : (args.head? == some "help") = false := by simpa using hhelp
    simp [hhelp, hall, hasks]

end

/-- `cd` with a target. -/
lemma respond_cd {d : String} (hd : d ≠ "") (ctx : Context) (fs : FileSystem) :
    let target := Path.expandTilde d ctx.home
    fs.respond (fun desk => desk.cd (some d) ctx) =
      if fs.isDirectory (ctx.resolvePath target).text then
        { context := { ctx with workspace := ctx.resolvePath target }, files := fs }
      else
        { result := .ok 1
          stdout := "cd: " ++ target ++ ": No such file or directory\n"
          context := ctx, files := fs } := by
  intro target
  have htarget : cdTarget? (some d) ctx.home = some target := by
    simp [cdTarget?, Option.filter, hd, target]
  have hfiles : FileSystem.disk.files fs = fs := rfl
  simp only [FileSystem.respond, Disk.report_cd, htarget, hfiles]
  by_cases hdirectory : fs.isDirectory (ctx.resolvePath target).text = true
  · simp [Context.setWorkspace, hdirectory]
  · simp [Context.setWorkspace, hdirectory]

/-- No argument of `type`, `exit` and `cd` begins with a dash. If the first one is not `help` then
`type` prints one line for each argument in their order, `exit` ends a live session, whatever the
arguments are, and `cd` goes to the directory that its argument means, or prints that there is none.
If the first argument is `help` then the usage is all that is printed, and nothing is done. -/
theorem run_undashed {args : List String} (hdash : ∀ arg ∈ args, startsWithText "-" arg = false)
    (ctx : Context) (fs : FileSystem) :
    (args.head? ≠ some "help" →
      Builtin.type.run args ctx fs =
        { result := .ok (if ∃ name ∈ args, describe ctx fs name = .notFound then 1 else 0)
          stdout := String.join (args.map fun name => (describe ctx fs name).line name)
          context := ctx, files := fs } ∧
      Builtin.exit.run args ctx fs = runExit ctx fs ∧
      (ctx.detached = false → (Builtin.exit.run args ctx fs).context.exiting = true) ∧
      ∀ d, args = [d] → d ≠ "" →
        let target := Path.expandTilde d ctx.home
        Builtin.cd.run args ctx fs =
          if fs.isDirectory (ctx.resolvePath target).text then
            { context := { ctx with workspace := ctx.resolvePath target }, files := fs }
          else
            { result := .ok 1
              stdout := "cd: " ++ target ++ ": No such file or directory\n"
              context := ctx, files := fs }) ∧
    (args.head? = some "help" →
      Builtin.type.run args ctx fs = Builtin.type.showUsage ctx fs ∧
      Builtin.exit.run args ctx fs = Builtin.exit.showUsage ctx fs ∧
      (args = ["help"] → Builtin.cd.run args ctx fs = Builtin.cd.showUsage ctx fs)) := by
  have htype := run_greedy hdash ctx fs (b := .type) rfl rfl
  have hexit := run_greedy hdash ctx fs (b := .exit) rfl rfl
  constructor
  · intro hhelp
    rw [htype, hexit, if_neg hhelp, if_neg hhelp]
    refine ⟨?_, rfl, ?_, ?_⟩
    · simp only [Desk.act]
      rw [← runType, runType_eq]
      simp
    · intro hlive
      simp only [Desk.act]
      rw [← runExit, runExit_eq]
      simp [Context.requestExit, hlive, bind_apply, pure_apply]
    · rintro d rfl hd target
      have hparse := Grammar.parse_optional (g := grammar .cd) rfl (hdash d List.mem_cons_self)
        (by simpa using hhelp)
      rw [run_eq, show cd.parseArguments = cd.grammar.parse from rfl, hparse]
      exact respond_cd hd ctx fs
  · intro hhelp
    rw [htype, hexit, if_pos hhelp, if_pos hhelp]
    refine ⟨rfl, rfl, ?_⟩
    rintro rfl
    rfl

/-- The root directory with a directory `help` in it. -/
def helpOnly : FileSystem :=
  { entries := [(["help"], .directory)] }

lemma isDirectory_helpOnly : helpOnly.isDirectory "/help" = true := by
  have hstat : helpOnly.stat? [] "/help" = some (["help"], .directory) := by
    refine FileSystem.stat?_eq_some_iff.mpr ⟨by decide, ?_⟩
    exact .enter (by decide) (by simp) rfl (.arrive _ _)
  simp [FileSystem.isDirectory, hstat]

/-- Behind another argument `help` is the name of a command, or of nothing; `cd help/` goes to the
directory. -/
theorem run_undashed_names :
    let ctx : Context := { workspace := .root }
    (Builtin.type.run ["cd", "help"] ctx helpOnly).stdout =
      "cd is a shell builtin\nhelp: not found\n" ∧
    (Builtin.exit.run ["0", "help"] ctx helpOnly).context.exiting = true ∧
    (Builtin.cd.run ["help/"] ctx helpOnly).context.workspace = ⟨true, ["help"]⟩ ∧
    Builtin.type.run ["help", "cd"] ctx helpOnly = Builtin.type.showUsage ctx helpOnly := by
  intro ctx
  have hnames : ∀ arg ∈ ["cd", "help"], startsWithText "-" arg = false := by decide
  have hcodes : ∀ arg ∈ ["0", "help"], startsWithText "-" arg = false := by decide
  have hslash : ∀ arg ∈ ["help/"], startsWithText "-" arg = false := by decide
  have hreversed : ∀ arg ∈ ["help", "cd"], startsWithText "-" arg = false := by decide
  obtain ⟨htype, -⟩ := (run_undashed hnames ctx helpOnly).1 (by decide)
  obtain ⟨-, -, hexit, -⟩ := (run_undashed hcodes ctx helpOnly).1 (by decide)
  obtain ⟨-, -, -, hcd⟩ := (run_undashed hslash ctx helpOnly).1 (by decide)
  obtain ⟨husage, -⟩ := (run_undashed hreversed ctx helpOnly).2 (by decide)
  refine ⟨?_, hexit rfl, ?_, husage⟩
  · rw [htype]
    rfl
  · have hpath : ctx.resolvePath (Path.expandTilde "help/" ctx.home) = ⟨true, ["help"]⟩ := by
      decide
    have hdirectory : helpOnly.isDirectory (Path.text ⟨true, ["help"]⟩) = true :=
      isDirectory_helpOnly
    have hrun := hcd "help/" rfl (by decide)
    simp only [hpath, hdirectory, if_true] at hrun
    rw [hrun]

/-- With `help` as the first argument nothing is done: the session goes on, no line is printed for
the name, and the directory of this name is not entered. -/
theorem run_undashed_help :
    let ctx : Context := { workspace := .root }
    (∀ arg ∈ ["help"], startsWithText "-" arg = false) ∧ ctx.detached = false ∧
    (Builtin.exit.run ["help"] ctx helpOnly).context.exiting = false ∧
    (Builtin.type.run ["help"] ctx helpOnly).stdout ≠
      (describe ctx helpOnly "help").line "help" ∧
    helpOnly.isDirectory (ctx.resolvePath (Path.expandTilde "help" ctx.home)).text = true ∧
    (Builtin.cd.run ["help"] ctx helpOnly).context.workspace = .root := by
  intro ctx
  have hpath : (ctx.resolvePath (Path.expandTilde "help" ctx.home)).text = "/help" := by decide
  refine ⟨by decide, rfl, rfl, by decide, ?_, rfl⟩
  rw [hpath]
  exact isDirectory_helpOnly

end Builtin

end Shell
