import Shell.Builtin

/-!
# What a builtin prints

A builtin is carried out at a desk where every text is taken down. Its report has all that it would
print, in one text for each stream, with the result and the context that it leaves. Nothing that a
builtin does to files comes after a text, so a report says what happens at any other desk: first all
that is done, then what is printed.
-/

namespace Shell

/-- Of two things, for standard output and for the error stream, the one for this stream. -/
def OutputStream.pick {α : Type} (out err : α) : OutputStream → α
  | .stdout => out
  | .stderr => err

/-- A state, and what was printed so far. -/
structure Noted (σ : Type) where
  state : σ
  stdout : String := ""
  stderr : String := ""

namespace Noted

variable {σ : Type}

def part : Part (Noted σ) σ where
  get := state
  set n s := { n with state := s }
  set_get _ := rfl
  get_set _ _ := rfl
  set_set _ _ _ := rfl

/-- Take down a text. -/
def add (n : Noted σ) : OutputStream → String → Noted σ
  | .stdout, text => { n with stdout := n.stdout ++ text }
  | .stderr, text => { n with stderr := n.stderr ++ text }

end Noted

/-- What a builtin did and wants printed. -/
structure Report where
  result : Except Failure Nat := .ok 0
  stdout : String := ""
  stderr : String := ""
  context : Context

namespace Disk

variable {σ : Type} (d : Disk σ)

/-- The desk on which what is printed is taken down. -/
def noting : Desk (Noted σ) where
  toDisk := d.within Noted.part
  print stream text := fun n => (.ok (), n.add stream text)

/-- What somebody reports who does some work at a desk. -/
def report (work : Desk (Noted σ) → StateM (Noted σ) (Except Failure Nat × Context)) :
    StateM σ Report := fun s =>
  let ((result, context), n) := work d.noting { state := s }
  ({ result, stdout := n.stdout, stderr := n.stderr, context }, n.state)

end Disk

/-! ### What is reported -/

namespace Disk

variable {σ : Type} (d : Disk σ) (ctx : Context) (s : σ)

theorem report_conclude (stream : OutputStream) (text : String) (status : Nat) :
    d.report (fun desk => desk.conclude stream text status ctx) s =
      ({ result := .ok status, stdout := stream.pick text "", stderr := stream.pick "" text
         context := ctx }, s) := by
  cases stream <;> simp [Disk.report, Desk.conclude, Disk.noting, Noted.add, OutputStream.pick,
    bind_apply, pure_apply]

theorem report_exit : d.report (fun desk => desk.exit ctx) s =
    ({ context := (ctx.requestExit d s).1 }, (ctx.requestExit d s).2) := by
  have hexit : d.noting.exit ctx =
      Noted.part.lift (ctx.requestExit d) >>= fun ctx => pure (.ok 0, ctx) := by
    rw [Desk.exit, Disk.noting, Context.requestExit_within]
  simp only [Disk.report, hexit]
  rfl

/-- By induction over the names: every text is taken down behind the others. -/
theorem type_noting {found : String → Builtin.Description} (names : List String) (status : Nat)
    (n : Noted σ) (hfound : Builtin.describe ctx (d.files n.state) = found) :
    d.noting.type ctx status names n =
      ((.ok (if names.any fun name => found name = .notFound then 1 else status), ctx),
        n.add .stdout (String.join (names.map fun name => (found name).line name))) := by
  induction names generalizing status n with
  | nil => simp [Desk.type, Noted.add, pure_apply]
  | cons name names ih =>
    have hstep : d.noting.type ctx status (name :: names) n =
        d.noting.type ctx (if found name = .notFound then 1 else status) names
          (n.add .stdout ((found name).line name)) := by
      rw [← hfound]
      rfl
    have hafter : Builtin.describe ctx
        (d.files (n.add .stdout ((found name).line name)).state) = found := hfound
    rw [hstep, ih _ _ hafter]
    by_cases hname : found name = .notFound <;>
      simp [hname, Noted.add, String.join_cons, String.append_assoc]

theorem report_type (names : List String) :
    let found := Builtin.describe ctx (d.files s)
    d.report (fun desk => desk.type ctx 0 names) s =
      ({ result := .ok (if names.any fun name => found name = .notFound then 1 else 0)
         stdout := String.join (names.map fun name => (found name).line name)
         context := ctx }, s) := by
  intro found
  rw [report, d.type_noting ctx names 0 { state := s } rfl]
  simp [Noted.add, found]

theorem report_cd (target : Option String) : d.report (fun desk => desk.cd target ctx) s =
    match Builtin.cdTarget? target ctx.home with
    | none => ({ result := .error (.reason "HOME not set"), context := ctx }, s)
    | some target =>
      match ctx.setWorkspace (d.files s) target with
      | .ok context => ({ context }, s)
      | .error _ =>
        ({ result := .ok 1, stdout := "cd: " ++ target ++ ": No such file or directory\n"
           context := ctx }, s) := by
  simp only [Disk.report, Desk.cd]
  cases Builtin.cdTarget? target ctx.home with
  | none => rfl
  | some target =>
    have hfiles : d.noting.files { state := s } = d.files s := rfl
    simp only [get_bind_apply, hfiles]
    cases ctx.setWorkspace (d.files s) target with
    | ok context => rfl
    | error e =>
      exact d.report_conclude ctx s .stdout
        ("cd: " ++ target ++ ": No such file or directory\n") 1

theorem operations_within {τ : Type} (p : Part τ σ) :
    (d.within p).operations =
      d.operations.map fun x => (x.1, fun h path => p.lift (x.2 h path)) := by
  simp only [Disk.operations, List.map_cons, List.map_nil, ← History.readFile_within,
    ← History.writeFile_within, ← History.appendFile_within]

/-- By induction over the operations. -/
theorem historyFiles_lift {τ : Type} (p : Part τ σ) (a : Arguments)
    (operations : List (String × (History → String → StateM σ (Except IoError Unit × History)))) :
    Desk.historyFiles a ctx (operations.map fun x => (x.1, fun h path => p.lift (x.2 h path))) =
      p.lift (Desk.historyFiles a ctx operations) := by
  induction operations generalizing ctx with
  | nil => rw [List.map_nil, Desk.historyFiles, Desk.historyFiles, Part.lift_pure]
  | cons x operations ih =>
    rw [List.map_cons, Desk.historyFiles, Desk.historyFiles]
    split
    · exact ih ctx
    · rw [Part.lift_bind]
      congr 1
      funext r
      obtain ⟨_ | _, history⟩ := r
      · rw [Part.lift_pure]
      · exact ih _

theorem report_history (a : Arguments) : d.report (fun desk => desk.history a ctx) s =
    if a.values.isEmpty then
      ({ stdout := ctx.history.format (a.positionals.head?.map Builtin.historyLimit)
         context := ctx }, s)
    else
      let ((result, context), s) := Desk.historyFiles a ctx d.operations s
      ({ result := result.map fun _ => 0, context }, s) := by
  split
  · rename_i hempty
    simp only [Desk.history, hempty, if_true]
    exact d.report_conclude ctx s .stdout _ 0
  · rename_i hvalues
    have hfiles : Desk.historyFiles a ctx d.noting.operations =
        Noted.part.lift (Desk.historyFiles a ctx d.operations) := by
      rw [← historyFiles_lift, ← operations_within]
      rfl
    simp only [Disk.report, Desk.history, hvalues, hfiles]
    simp only [Bool.false_eq_true, if_false, bind, StateT.bind, Part.lift_apply, Noted.part]
    rcases Desk.historyFiles a ctx d.operations s with ⟨⟨_ | _, _⟩, _⟩ <;> rfl

end Disk


namespace Builtin

section

variable {σ : Type} (b : Builtin) (d : Disk σ) (args : List String) (ctx : Context) (s : σ)

/-- The report of a builtin. -/
def report : StateM σ Report :=
  d.report fun desk => desk.execute b args ctx

theorem report_eq : b.report d args ctx s =
    match b.parseArguments args with
    | .error e => ({ result := .ok 1, stderr := e.message, context := ctx }, s)
    | .ok a =>
      if a.help then ({ stdout := b.grammar.usage, context := ctx }, s)
      else d.report (fun desk => desk.act b a ctx) s := by
  rw [report]
  cases hargs : b.parseArguments args with
  | error e =>
    simp only [Desk.execute, hargs]
    exact d.report_conclude ctx s .stderr e.message 1
  | ok a =>
    simp only [Desk.execute, hargs]
    split
    · exact d.report_conclude ctx s .stdout b.grammar.usage 0
    · rfl

end

end Builtin

/-! ### Files alone -/

/-- A report, and the files that are left. -/
structure Response extends Report where
  files : FileSystem

/-- Do some work on the files alone. -/
def FileSystem.respond (fs : FileSystem)
    (work : Desk (Noted FileSystem) → StateM (Noted FileSystem) (Except Failure Nat × Context)) :
    Response :=
  let (report, files) := FileSystem.disk.report work fs
  { report with files }

namespace Builtin

/-- Carry out a builtin on the files alone. -/
def run (b : Builtin) (args : List String) (ctx : Context) (fs : FileSystem) : Response :=
  fs.respond fun desk => desk.execute b args ctx

/-- Say of each name how it would be taken. -/
def runType (names : List String) (ctx : Context) (fs : FileSystem) : Response :=
  fs.respond fun desk => desk.type ctx 0 names

/-- Ask the session to end. -/
def runExit (ctx : Context) (fs : FileSystem) : Response :=
  fs.respond fun desk => desk.exit ctx

variable (ctx : Context) (fs : FileSystem)

theorem run_eq (b : Builtin) (args : List String) : b.run args ctx fs =
    match b.parseArguments args with
    | .error e => { result := .ok 1, stderr := e.message, context := ctx, files := fs }
    | .ok a =>
      if a.help then { stdout := b.grammar.usage, context := ctx, files := fs }
      else fs.respond fun desk => desk.act b a ctx := by
  have hreport := b.report_eq FileSystem.disk args ctx fs
  rw [report] at hreport
  simp only [run, FileSystem.respond, hreport]
  cases b.parseArguments args with
  | error e => rfl
  | ok a =>
    by_cases hhelp : a.help <;> simp only [hhelp] <;> rfl

theorem runType_eq (names : List String) :
    let found := describe ctx fs
    runType names ctx fs =
      { result := .ok (if names.any fun name => found name = .notFound then 1 else 0)
        stdout := String.join (names.map fun name => (found name).line name)
        context := ctx, files := fs } := by
  simp only [runType, FileSystem.respond, Disk.report_type]
  rfl

theorem runExit_eq : runExit ctx fs =
    { context := (ctx.requestExit FileSystem.disk fs).1
      files := (ctx.requestExit FileSystem.disk fs).2 } := by
  simp only [runExit, FileSystem.respond, Disk.report_exit]


end Builtin

end Shell
