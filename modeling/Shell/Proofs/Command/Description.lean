import Mathlib.Data.String.Basic
import Shell.Program.Image
import Shell.Proofs.Command.Names
import Shell.Proofs.Command.Search
import Shell.Proofs.Execute.Refusal

/-!
# What is said of a command and what is run

The builtin `type` looks a name up on its own, apart from the lookup of a command that is to be run.
Both lookups agree: the line that is printed for a name tells what carries out the command of that
name, and that there is none exactly if executing the command fails for this reason.

The lines can be told apart because a program is always given by a path from the root.
-/

namespace Shell

/-! ### Starting a program -/

/-- Spawning a command starts the program at `path`: a file there may be run, a process is started
if it can be made ready, and it goes on as what the operating system makes of that file. -/
structure Machine.Starts (m : Machine) (c : Command) (path : String) : Prop where
  program : c.program = some path
  executable : m.files.isExecutable path = true
  starts : ∀ programs streams ctx ready,
    m.prepare path c (ctx.vars.set "PWD" c.workspace) = .ok ready →
    ∃ id m', m.spawn programs c streams ctx = (.ok id, m')
  started : ∀ programs streams ctx id m', m.spawn programs c streams ctx = (.ok id, m') →
    ∃ p ∈ m'.processes, p.id = id ∧ ∃ image,
      Image.ofPath m.files p.here (toOctets path) (toOctets c.displayName) (c.args.map toOctets) =
        .ok image ∧
      p.todo = programs image.program
        { name := image.name, args := image.args
          vars := environment (ctx.vars.set "PWD" c.workspace) }

/-- The slash at the beginning of a path is one of its octets. -/
lemma slash_mem_toOctets {path : String} (h : Path.isAbsolute path = true) :
    containsChar '/' (toOctets path) = true := by
  rw [Path.isAbsolute, startsWithText, List.isPrefixOf_iff_prefix] at h
  have hslash : '/' ∈ path.toList := h.subset (by simp)
  have hbyte : (47 : UInt8) ∈ encode path := by
    rw [encode_eq_flatMap, List.mem_flatMap]
    exact ⟨'/', hslash, by decide⟩
  rw [containsChar, toOctets, octets, String.toList_ofList, List.contains_iff_mem, List.mem_map]
  exact ⟨47, hbyte, by decide⟩

/-- A path from the root is started as it is: the operating system looks for it nowhere else. -/
lemma Machine.starts_of_isAbsolute {m : Machine} {c : Command} {path : String}
    (hprogram : c.program = some path) (habsolute : Path.isAbsolute path = true)
    (hexec : m.files.isExecutable path = true) : m.Starts c path := by
  refine ⟨hprogram, hexec, fun programs streams ctx ready hready =>
    ⟨_, _, spawn_of_prepare programs hprogram hready streams⟩, ?_⟩
  intro programs streams ctx id m' hspawn
  rw [spawn, hprogram] at hspawn
  dsimp only at hspawn
  split at hspawn
  · cases hspawn
  rename_i image here hprepare
  simp only [prepare, Image.find, slash_mem_toOctets habsolute, Bool.or_true, if_true] at hprepare
  split at hprepare
  · cases hprepare
  split at hprepare
  · cases hprepare
  split at hprepare
  · cases hprepare
  rename_i image' hfind
  split at hprepare
  · cases hprepare
  cases hprepare
  cases hspawn
  exact ⟨_, List.mem_append_right _ List.mem_cons_self, rfl, image, hfind, rfl⟩

/-- A command alone is not known exactly if it cannot be run. -/
lemma Machine.execute_eq_commandNotFound_iff (programs : Programs) (ctx : Context) (m : Machine)
    (name : String) (args : List String) (other : String) :
    (execute programs { stages := [{ ctx.resolve m.files name with args }] } ctx m).1.1 =
        .error (.commandNotFound other) ↔
      other = name ∧ (ctx.resolve m.files name).runnable = false := by
  have hnoop : Pipeline.isNoop { stages := [{ ctx.resolve m.files name with args }] } = false := rfl
  rw [execute_eq_executeBy, executeBy, hnoop, if_neg Bool.false_ne_true]
  cases hrun : (ctx.resolve m.files name).runnable with
  | false =>
    have hname : (ctx.resolve m.files name).name = some name := rfl
    simp [hrun, Command.displayName, hname, @eq_comm _ name]
  | true =>
    have hfound : ∀ c ∈ [{ ctx.resolve m.files name with args }], Command.Found c := by
      simpa using Context.found_resolve args hrun
    have hlate := Host.runStages_failsWith (host_raises programs) hfound (by simpa using hrun)
      .sessionOut .sessionErr ctx m (.commandNotFound other)
    simpa [hrun, Error.IsLate, Error.announcement?] using hlate

/-! ### Descriptions -/

namespace Builtin

/-- A description is right for a command. -/
inductive Description.Fits (c : Command) (name : String) : Description → Prop
  | builtin {b : Builtin} (hrunner : c.runner = .ok (.builtin b)) (hname : b.name = name) :
    Fits c name .builtin
  | program {path : String} (hrunner : c.runner = .ok .external) (hprogram : c.program = some path) :
    Fits c name (.program path)
  | notFound (hrunner : c.runner = .error (.commandNotFound name)) (hrun : c.runnable = false) :
    Fits c name .notFound

/-- The two lookups of a name agree. -/
lemma describe_fits (ctx : Context) (fs : FileSystem) (name : String) (args : List String) :
    (describe ctx fs name).Fits { ctx.resolve fs name with args } name := by
  rw [describe, isNamed_eq]
  cases hb : ofName? name with
  | some b =>
    refine .builtin (b := b) ?_ (name_of_ofName? hb)
    simp [Command.runner, Context.resolve, hb]
  | none =>
    cases hfind : ctx.findExecutable fs name with
    | some path =>
      refine .program ?_ hfind
      simp [Command.runner, Context.resolve, hb, hfind]
    | none =>
      refine .notFound ?_ ?_
      · simp [Command.runner, Command.displayName, Context.resolve, hb, hfind]
      · simp [Context.resolve, hb, hfind]

section

variable {c : Command} {name : String} {d : Description} (h : d.Fits c name)
include h

lemma Description.Fits.eq_builtin_iff :
    d = .builtin ↔ ∃ b, c.runner = .ok (.builtin b) ∧ b.name = name := by
  cases h with
  | builtin hrunner hname => exact iff_of_true rfl ⟨_, hrunner, hname⟩
  | program hrunner _ => simp [hrunner]
  | notFound hrunner _ => simp [hrunner]

lemma Description.Fits.eq_program_iff {path : String} :
    d = .program path ↔ c.runner = .ok .external ∧ c.program = some path := by
  cases h with
  | builtin hrunner _ => simp [hrunner]
  | program hrunner hprogram => simp [hrunner, hprogram]
  | notFound hrunner _ => simp [hrunner]

lemma Description.Fits.eq_notFound_iff : d = .notFound ↔ c.runnable = false := by
  cases h with
  | builtin hrunner _ =>
    refine iff_of_false (by simp) fun hrun => ?_
    simp [Command.runner, hrun] at hrunner
  | program hrunner _ =>
    refine iff_of_false (by simp) fun hrun => ?_
    simp [Command.runner, hrun] at hrunner
  | notFound _ hrun => exact iff_of_true rfl hrun

end

/-- A program at this path cannot be told apart from a builtin. -/
def builtinPhrase : String := "a shell builtin"

lemma describe_ne_builtinPhrase {ctx : Context} {fs : FileSystem} {name : String}
    (h : ctx.workspace.rooted = true) : describe ctx fs name ≠ .program builtinPhrase := by
  intro heq
  have hfits := describe_fits ctx fs name []
  rw [heq] at hfits
  cases hfits with
  | program _ hprogram =>
    obtain ⟨habsolute, -⟩ := Context.isAbsolute_of_findExecutable h hprogram
    revert habsolute
    decide

/-- What the line of a name says after the name. -/
def Description.phrase : Description → String
  | .builtin => " is " ++ (builtinPhrase ++ "\n")
  | .program path => " is " ++ (path ++ "\n")
  | .notFound => ": not found\n"

lemma Description.line_eq (name : String) (d : Description) : d.line name = name ++ d.phrase := by
  cases d with
  | builtin => rfl
  | program path => simp [line, phrase, String.append_assoc]
  | notFound => rfl

/-- The line of a name tells how the name would be taken. -/
lemma Description.line_inj (name : String) {d : Description} (hd : d ≠ .program builtinPhrase)
    (d' : Description) (hd' : d' ≠ .program builtinPhrase) :
    d.line name = d'.line name ↔ d = d' := by
  have hnot : ∀ rest : String, " is " ++ rest ≠ ": not found\n" := by
    intro rest h
    simpa using congrArg String.toList h
  rw [line_eq, line_eq, String.append_right_inj]
  cases d <;> cases d' <;> simp_all [phrase, eq_comm]

/-- For every name the line that `type` prints says what carries out the command of that name. It
says that nothing does exactly if executing the command fails because the name is not known. For
several names the lines are printed one after the other, and the status is one exactly if one of
them says that its name was not found. The directory of the session is given by a path from the
root, as it is in every session. -/
theorem runType_agrees (programs : Programs) (ctx : Context) (m : Machine)
    (h : ctx.workspace.rooted = true) :
    let line := fun name => (runType [name] ctx m.files).stdout
    (∀ name args,
      let c : Command := { ctx.resolve m.files name with args }
      (line name = name ++ " is a shell builtin\n" ↔
        ∃ b, c.runner = .ok (.builtin b) ∧ b.name = name) ∧
      (∀ path, path ≠ "a shell builtin" → (line name = name ++ " is " ++ path ++ "\n" ↔
        c.runner = .ok .external ∧ m.Starts c path)) ∧
      ∀ other, (Machine.execute programs { stages := [c] } ctx m).1.1 =
          .error (.commandNotFound other) ↔
        other = name ∧ line name = name ++ ": not found\n") ∧
    ∀ names, (runType names ctx m.files).stdout = String.join (names.map line) ∧
      (runType names ctx m.files).result =
        .ok (if ∃ name ∈ names, line name = name ++ ": not found\n" then 1 else 0) := by
  intro line
  have hline : ∀ name, line name = (describe ctx m.files name).line name := by
    intro name
    simp [line, runType_eq]
  have hne : ∀ name, describe ctx m.files name ≠ .program builtinPhrase :=
    fun name => describe_ne_builtinPhrase h
  have hnot : ∀ name,
      line name = name ++ ": not found\n" ↔ describe ctx m.files name = .notFound := by
    intro name
    rw [hline]
    exact Description.line_inj name (hne name) .notFound (by simp)
  refine ⟨fun name args => ⟨?_, ?_, ?_⟩, fun names => ⟨?_, ?_⟩⟩
  · have hiff : line name = name ++ " is a shell builtin\n" ↔
        describe ctx m.files name = .builtin := by
      rw [hline]
      exact Description.line_inj name (hne name) .builtin (by simp)
    rw [hiff]
    exact (describe_fits ctx m.files name args).eq_builtin_iff
  · intro path hpath
    have hiff : line name = name ++ " is " ++ path ++ "\n" ↔
        describe ctx m.files name = .program path := by
      rw [hline]
      refine Description.line_inj name (hne name) (.program path) ?_
      simpa [builtinPhrase] using hpath
    rw [hiff, (describe_fits ctx m.files name args).eq_program_iff]
    refine and_congr_right fun _ => ⟨fun hprogram => ?_, Machine.Starts.program⟩
    obtain ⟨habsolute, hexec⟩ := Context.isAbsolute_of_findExecutable h hprogram
    exact Machine.starts_of_isAbsolute hprogram habsolute hexec
  · intro other
    rw [hnot, (describe_fits ctx m.files name args).eq_notFound_iff]
    exact Machine.execute_eq_commandNotFound_iff programs ctx m name args other
  · simp [runType_eq, funext hline]
  · simp [runType_eq, hnot]

/-! ### A program that is found and started -/

/-- A machine with one program, and the context of a session that finds it. -/
def withCat : Machine :=
  { files := { entries := [(["bin"], .directory), (["bin", "cat"], .program "cat")] } }

def catContext : Context := { workspace := .root, vars := [("PATH", "/bin")] }

/-- The command `cat -n`, as it is resolved there. -/
def catCommand : Command := { catContext.resolve withCat.files "cat" with args := ["-n"] }

lemma locate_cat :
    withCat.files.locate .target [] "/bin/cat" =
      .ok (.present ["bin", "cat"] (.program "cat")) := by
  refine FileSystem.locate_eq_ok_iff.mpr ⟨by decide, ?_⟩
  refine .enter ⟨by decide, by decide, by decide, by decide⟩ (by simp) rfl ?_
  exact .found ⟨by decide, by decide, by decide, by decide⟩ rfl (by simp) (by simp)

lemma findExecutable_cat : catContext.findExecutable withCat.files "cat" = some "/bin/cat" := by
  have hdirs : catContext.searchDirectories = [⟨true, ["bin"]⟩] := rfl
  have hexec : withCat.files.isExecutable "/bin/cat" = true := by
    rw [FileSystem.isExecutable, FileSystem.stat?, locate_cat]
    rfl
  have hpath : Path.entryText ⟨true, ["bin"]⟩ "cat" = "/bin/cat" := rfl
  rw [Context.findExecutable, if_neg (by decide), if_neg (by decide), if_neg (by decide), hdirs]
  simp [hpath, hexec]

/-- The program can be made ready, in the root and with the variables sorted by their names. -/
lemma prepare_cat :
    withCat.prepare "/bin/cat" catCommand (catContext.vars.set "PWD" catCommand.workspace) =
      .ok ({ program := "cat", name := "cat", args := [toOctets "-n"] }, []) := by
  have hvars : catContext.vars.set "PWD" catCommand.workspace =
      [("PATH", "/bin"), ("PWD", "/")] := by decide
  have hplace : withCat.workplace catCommand.workspace = .ok [] := by
    have hroot : withCat.files.locate .target [] "/" = .ok (.present [] .directory) :=
      FileSystem.locate_eq_ok_iff.mpr ⟨by decide, .arrive _ _⟩
    have hworkspace : catCommand.workspace = "/" := rfl
    have hbase : withCat.base = [] := rfl
    simp [Machine.workplace, hworkspace, hbase, hroot]
  have hshort : Image.isTooLong (["cat", "-n"].map toOctets ++
      Machine.environment [("PATH", "/bin"), ("PWD", "/")]) = false := by
    rw [Machine.environment, List.mergeSort_of_pairwise (by decide)]
    decide
  rw [hvars]
  exact Machine.prepare_program (by decide) hplace (by decide) (by decide) locate_cat hshort

/-- A program, which is found and started, a builtin, and the empty name, which is that of no
command. -/
theorem runType_agrees_names :
    let m := withCat
    let ctx := catContext
    let c := fun name => ({ ctx.resolve m.files name with args := ["-n"] } : Command)
    let programs : Programs := fun _ _ => .exit 0
    ctx.workspace.rooted = true ∧ m.Starts (c "cat") "/bin/cat" ∧
    (∃ id m', m.spawn programs (c "cat") ⟨.session, .sessionOut, .sessionErr⟩ ctx =
      (.ok id, m')) ∧
    (∃ b, (c "echo").runner = .ok (.builtin b) ∧ b.name = "echo") ∧
    (Machine.execute programs { stages := [c ""] } ctx m).1.1 = .error (.commandNotFound "") := by
  intro m ctx c programs
  have hline : (runType ["cat"] ctx m.files).stdout = "cat" ++ " is " ++ "/bin/cat" ++ "\n" := by
    have hname : ofName? "cat" = none := rfl
    have hfind : ctx.findExecutable m.files "cat" = some "/bin/cat" := findExecutable_cat
    simp [runType_eq, describe, hname, hfind, Description.line]
  have hagrees := (runType_agrees programs ctx m rfl).1
  have hstarts : m.Starts (c "cat") "/bin/cat" :=
    ((hagrees "cat" ["-n"]).2.1 "/bin/cat" (by decide)).mp hline |>.2
  refine ⟨rfl, hstarts, hstarts.starts programs _ ctx _ prepare_cat, ?_, ?_⟩
  · refine (hagrees "echo" ["-n"]).1.mp ?_
    have hname : (ofName? "echo").isSome = true := rfl
    simp [runType_eq, describe, hname, Description.line]
  · refine ((hagrees "" ["-n"]).2.2 "").mpr ⟨rfl, ?_⟩
    have hname : ofName? "" = none := rfl
    simp [runType_eq, describe, hname, Context.findExecutable, Description.line]

end Builtin

end Shell
