import Shell.Proofs.Builtin.Desk
import Shell.Proofs.FileSystem.Elsewhere
import Shell.Proofs.History.Flushed

/-!
# Files that builtins open

Of the builtins only `history` and `exit` open files, for operations on the history that are carried
out up to the first that fails. A builtin that does not open the file at a location does the same in
two states of a disk whose files agree except there, and does not change this file. Only the text of
a failure can differ, where the path of a file leads through the location.
-/

namespace Shell

variable {σ : Type} {l : Location} {e e' : Option Entry}

namespace History

/-- The path at which an operation opens a file, and what for. No file is opened to append
nothing. -/
def Operation.opened? (h : History) : Operation → Option (String × Access)
  | .record _ => none
  | .read path => some (path, .read)
  | .write path => some (path, .write .truncate)
  | .append path => if h.pending.isEmpty then none else some (path, .write .append)
  | .flush => if h.pending.isEmpty then none else h.file.map fun path => (path, .write .append)

section

variable (d : Disk σ)

/-- One operation on a history whose files are on a disk. -/
def Operation.act (h : History) : Operation → StateM σ (Except IoError Unit × History)
  | .record line => pure (.ok (), h.record line)
  | .read path => h.readFile d path
  | .write path => h.writeFile d path
  | .append path => h.appendFile d path
  | .flush => h.flushFile d

/-- Operations one after the other, each with the name of its file, up to the first that fails. -/
def attempt : List (String × Operation) → History →
    StateM σ (Except (String × IoError) Unit × History)
  | [], h => pure (.ok (), h)
  | (name, op) :: ops, h => do
    let (result, h) ← op.act d h
    match result with
    | .error cause => pure (.error (name, cause), h)
    | .ok () => attempt ops h

/-- Wherever one of the operations that are carried out opens a file, `P` holds of the path. -/
def Opens (P : σ → String → Access → Prop) : List (String × Operation) → History → σ → Prop
  | [], _, _ => True
  | (_, op) :: ops, h, s =>
    (∀ path access, op.opened? h = some (path, access) → P s path access) ∧
      ∀ h' s', op.act d h s = ((.ok (), h'), s') → Opens P ops h' s'

/-- None of the operations that are carried out opens the file at `l`. -/
def Avoids (l : Location) : List (String × Operation) → History → σ → Prop :=
  Opens d fun s path _ => (d.files s).place? path ≠ some l

end

end History

/-- What the disk preserves an operation preserves. -/
lemma Disk.Preserves.act {d : Disk σ} {P : σ → Prop} (hd : d.Preserves P) (op : History.Operation)
    (h : History) {s : σ} (hs : P s) : P (op.act d h s).2 := by
  cases op with
  | record line => exact hs
  | read path => exact hd.readFile h path hs
  | write path => exact hd.writeFile h path hs
  | append path => exact hd.appendFile h path hs
  | flush => exact hd.flushFile h hs

/-- By induction over the operations. -/
lemma History.attempt_preserves {d : Disk σ} {P : σ → Prop}
    {ops : List (String × History.Operation)}
    (hops : ∀ x ∈ ops, ∀ h s, P s → P (x.2.act d h s).2) (h : History) {s : σ} (hs : P s) :
    P (History.attempt d ops h s).2 := by
  induction ops generalizing h s with
  | nil => exact hs
  | cons x ops ih =>
    obtain ⟨name, op⟩ := x
    obtain ⟨hfirst, hrest⟩ := List.forall_mem_cons.mp hops
    have hact := hfirst h s hs
    rw [History.attempt, bind_apply]
    obtain ⟨_ | _, h'⟩ := (op.act d h s).1
    · exact hact
    · exact ih hrest h' hact

/-! ### Two states of a disk -/

/-- The files of states that are related by `R` agree except at `l`. What is read and saved at
another path is alike, and the states are still related afterwards. -/
structure Disk.Mirrors (d : Disk σ) (l : Location) (e e' : Option Entry) (R : σ → σ → Prop) :
    Prop where
  files : ∀ s s', R s s' → (d.files s).AgreeExcept l e e' (d.files s')
  read : ∀ path s s', R s s' → (d.files s).place? path ≠ some l →
    Alike e (d.read path s).1 (d.read path s').1 ∧ R (d.read path s).2 (d.read path s').2
  save : ∀ path mode bytes s s', R s s' → (d.files s).place? path ≠ some l →
    Alike e (d.save path mode bytes s).1 (d.save path mode bytes s').1 ∧
      R (d.save path mode bytes s).2 (d.save path mode bytes s').2

namespace History

/-- The same was done to a history in two states, or failed in both. -/
def Mirrored (e : Option Entry) (R : σ → σ → Prop)
    (x x' : (Except IoError Unit × History) × σ) : Prop :=
  Alike e x.1.1 x'.1.1 ∧ x'.1.2 = x.1.2 ∧ R x.2 x'.2

variable {d : Disk σ} {R : σ → σ → Prop} (hd : d.Mirrors l e e' R) {s s' : σ} (hs : R s s')
  (h : History) {path : String}
include hd hs

lemma readFile_mirrors (hne : (d.files s).place? path ≠ some l) :
    Mirrored e R (h.readFile d path s) (h.readFile d path s') := by
  obtain ⟨halike, hafter⟩ := hd.read path s s' hs hne
  simp only [readFile, bind_apply]
  generalize d.read path s = x, d.read path s' = x' at halike hafter
  obtain ⟨r, t⟩ := x
  obtain ⟨r', t'⟩ := x'
  cases halike with
  | same => cases r <;> exact ⟨.same _, rfl, hafter⟩
  | through hnone => exact ⟨.through hnone, rfl, hafter⟩

lemma writeFile_mirrors (hne : (d.files s).place? path ≠ some l) :
    Mirrored e R (h.writeFile d path s) (h.writeFile d path s') := by
  obtain ⟨halike, hafter⟩ :=
    hd.save path .truncate (encode (fileText h.entries)) s s' hs hne
  simp only [writeFile, bind_apply]
  generalize d.save path .truncate (encode (fileText h.entries)) s = x,
    d.save path .truncate (encode (fileText h.entries)) s' = x' at halike hafter
  obtain ⟨r, t⟩ := x
  obtain ⟨r', t'⟩ := x'
  cases halike with
  | same => cases r <;> exact ⟨.same _, rfl, hafter⟩
  | through hnone => exact ⟨.through hnone, rfl, hafter⟩

lemma appendFile_mirrors (hne : h.pending.isEmpty = false → (d.files s).place? path ≠ some l) :
    Mirrored e R (h.appendFile d path s) (h.appendFile d path s') := by
  have hpending : ({ h with file := some path } : History).pending = h.pending := rfl
  simp only [appendFile, hpending]
  cases hempty : h.pending.isEmpty with
  | true => exact ⟨.same _, rfl, hs⟩
  | false =>
    obtain ⟨halike, hafter⟩ :=
      hd.save path .append (encode (fileText h.pending)) s s' hs (hne hempty)
    simp only [Bool.false_eq_true, if_false, bind_apply]
    generalize d.save path .append (encode (fileText h.pending)) s = x,
      d.save path .append (encode (fileText h.pending)) s' = x' at halike hafter
    obtain ⟨r, t⟩ := x
    obtain ⟨r', t'⟩ := x'
    cases halike with
    | same => cases r <;> exact ⟨.same _, rfl, hafter⟩
    | through hnone => exact ⟨.through hnone, rfl, hafter⟩

/-- One operation that does not open the file at `l`. -/
lemma Operation.act_mirrors (op : Operation) (havoids : ∀ path access,
      op.opened? h = some (path, access) → (d.files s).place? path ≠ some l) :
    Mirrored e R (op.act d h s) (op.act d h s') := by
  cases op with
  | record line => exact ⟨.same _, rfl, hs⟩
  | read path => exact readFile_mirrors hd hs h (havoids path _ rfl)
  | write path => exact writeFile_mirrors hd hs h (havoids path _ rfl)
  | append path =>
    refine appendFile_mirrors hd hs h fun hempty => havoids path (.write .append) ?_
    simp [opened?, hempty]
  | flush =>
    simp only [act, flushFile]
    cases hfile : h.file with
    | none => exact ⟨.same _, rfl, hs⟩
    | some path =>
      refine appendFile_mirrors hd hs h fun hempty => havoids path (.write .append) ?_
      simp [opened?, hempty, hfile]

/-- By induction over the operations: up to the first failure they do the same, and both runs have
it at the same operation. -/
lemma attempt_mirrors {ops : List (String × Operation)} (havoids : Avoids d l ops h s) :
    ((attempt d ops h s').1.1 = (attempt d ops h s).1.1 ∨
      e = none ∧ ∃ name, (attempt d ops h s).1.1 = .error (name, .os .noEntry) ∧
        (attempt d ops h s').1.1 = .error (name, .os .notDirectory)) ∧
    (attempt d ops h s').1.2 = (attempt d ops h s).1.2 ∧
    R (attempt d ops h s).2 (attempt d ops h s').2 := by
  induction ops generalizing h s s' with
  | nil => exact ⟨.inl rfl, rfl, hs⟩
  | cons x ops ih =>
    obtain ⟨name, op⟩ := x
    obtain ⟨hhead, hrest⟩ := havoids
    obtain ⟨hresult, hhistory, hafter⟩ := op.act_mirrors hd hs h hhead
    simp only [attempt, bind_apply]
    generalize hstep : op.act d h s = x, op.act d h s' = x' at hresult hhistory hafter ⊢
    obtain ⟨⟨r, history⟩, t⟩ := x
    obtain ⟨⟨r', history'⟩, t'⟩ := x'
    cases hhistory
    cases hresult with
    | through hnone => exact ⟨.inr ⟨hnone, name, rfl, rfl⟩, rfl, hafter⟩
    | same =>
      cases r with
      | error cause => exact ⟨.inl rfl, rfl, hafter⟩
      | ok => exact ih hafter history (hrest _ _ hstep)

end History

/-! ### The operations of a builtin -/

namespace Builtin

open History (Operation)

/-- The operation for the file that the option `long` gives, if there is one. -/
def operationFor? (a : Arguments) (ctx : Context) (x : String × (String → Operation)) :
    Option (String × Operation) :=
  (a.value? x.1).map fun file => (file, x.2 (ctx.resolvePath file).text)

/-- The operations that the arguments of `history` ask for. -/
def historyOperations (a : Arguments) (ctx : Context) : List (String × Operation) :=
  [("read", .read), ("write", .write), ("append", .append)].filterMap (operationFor? a ctx)

/-- The operations on the history that a builtin carries out. -/
def operations (b : Builtin) (args : List String) (ctx : Context) : List (String × Operation) :=
  match b.parseArguments args with
  | .error _ => []
  | .ok a =>
    if a.help then []
    else match b with
      | .exit => if ctx.detached then [] else [("", .flush)]
      | .history => historyOperations a ctx
      | _ => []

end Builtin

open History (Operation)

/-- By induction over the options: the operations are carried out up to the first that fails. -/
lemma Desk.historyFiles_eq_attempt (d : Disk σ) (a : Arguments)
    (options : List (String × (String → Operation))) (ctx : Context) (s : σ) :
    Desk.historyFiles a ctx (options.map fun x => (x.1, fun h path => (x.2 path).act d h)) s =
      let ((result, history), s) :=
        History.attempt d (options.filterMap (Builtin.operationFor? a ctx)) ctx.history s
      ((result.mapError fun x => .file x.1 x.2, { ctx with history }), s) := by
  induction options generalizing ctx s with
  | nil => rfl
  | cons x options ih =>
    rw [List.map_cons, Desk.historyFiles]
    cases hvalue : a.value? x.1 with
    | none =>
      rw [List.filterMap_cons_none (by simp [Builtin.operationFor?, hvalue])]
      exact ih ctx s
    | some file =>
      have hop : Builtin.operationFor? a ctx x = some (file, x.2 (ctx.resolvePath file).text) := by
        simp [Builtin.operationFor?, hvalue]
      rw [List.filterMap_cons_some hop]
      simp only [History.attempt, bind_apply]
      rcases (x.2 (ctx.resolvePath file).text).act d ctx.history s with ⟨⟨_ | _, history⟩, t⟩
      · rfl
      · exact ih { ctx with history } t

/-- What a builtin does to the files are its operations. -/
lemma Builtin.report_state (b : Builtin) (d : Disk σ) (args : List String) (ctx : Context) (s : σ) :
    (b.report d args ctx s).2 =
      (History.attempt d (b.operations args ctx) ctx.history s).2 := by
  rw [report_eq]
  simp only [operations]
  cases hargs : b.parseArguments args with
  | error cause => rfl
  | ok a =>
    dsimp only
    split
    · rfl
    rename_i hhelp
    cases b with
    | echo | pwd =>
      simp only [Desk.act, Disk.report_conclude]
      rfl
    | type =>
      simp only [Desk.act, Disk.report_type]
      rfl
    | cd =>
      simp only [Desk.act, Disk.report_cd]
      repeat' split
      all_goals rfl
    | exit =>
      simp only [Desk.act, Disk.report_exit, Context.requestExit]
      split
      · rfl
      · simp only [History.attempt, bind_apply, History.Operation.act]
        rcases ctx.history.flushFile d s with ⟨⟨_ | _, _⟩, _⟩ <;> rfl
    | history =>
      have hfiles := Desk.historyFiles_eq_attempt d a
        [("read", .read), ("write", .write), ("append", .append)] ctx s
      simp only [Desk.act, Disk.report_history]
      split
      · rename_i hempty
        have hvalue : ∀ long, a.value? long = none := by
          simp [Arguments.value?, List.isEmpty_iff.mp hempty]
        simp only [historyOperations, List.filterMap, operationFor?, hvalue]
        rfl
      · simp only [historyOperations]
        exact congrArg Prod.snd hfiles

/-! ### The same builtin in two states -/

/-- What is reported of a builtin in two states of a disk. -/
structure Report.Alike (b : Builtin) (e : Option Entry) (R : σ → σ → Prop) (x x' : Report × σ) :
    Prop where
  stdout : x'.1.stdout = x.1.stdout
  stderr : x'.1.stderr = x.1.stderr
  context : x'.1.context = x.1.context
  after : R x.2 x'.2
  /-- The results are the same, or `history` failed at a file whose path leads through `l`. -/
  result : x'.1.result = x.1.result ∨ b = .history ∧ e = none ∧ ∃ file,
    x.1.result = .error (.file file (.os .noEntry)) ∧
      x'.1.result = .error (.file file (.os .notDirectory))

lemma FileSystem.AgreeExcept.findExecutable {fs fs' : FileSystem}
    (h : fs.AgreeExcept l e e' fs') (hrewritten : Entry.Rewritten e e') (ctx : Context) :
    ctx.findExecutable fs' = ctx.findExecutable fs := by
  funext name
  simp only [Context.findExecutable, h.isExecutable hrewritten]

namespace Disk.Mirrors

variable {d : Disk σ} {R : σ → σ → Prop} (hd : d.Mirrors l e e' R)
  (hrewritten : Entry.Rewritten e e') {s s' : σ} (hs : R s s') {ctx : Context}
include hd hs

lemma report_exit (havoids : ctx.detached = false →
      History.Avoids d l [("", .flush)] ctx.history s) :
    Report.Alike .exit e R (d.report (fun desk => desk.exit ctx) s)
      (d.report (fun desk => desk.exit ctx) s') := by
  rw [Disk.report_exit, Disk.report_exit]
  unfold Context.requestExit
  cases hdetached : ctx.detached with
  | true => exact ⟨rfl, rfl, rfl, hs, .inl rfl⟩
  | false =>
    obtain ⟨-, hhistory, hafter⟩ :=
      Operation.act_mirrors hd hs ctx.history .flush (havoids hdetached).1
    have hcontext := congrArg
      (fun history => { ctx with history, exiting := true, detached := false }) hhistory
    exact ⟨rfl, rfl, hcontext, hafter, .inl rfl⟩

lemma report_history {a : Arguments}
    (havoids : History.Avoids d l (Builtin.historyOperations a ctx) ctx.history s) :
    Report.Alike .history e R (d.report (fun desk => desk.history a ctx) s)
      (d.report (fun desk => desk.history a ctx) s') := by
  obtain ⟨hresult, hhistory, hafter⟩ := History.attempt_mirrors hd hs ctx.history havoids
  rw [Disk.report_history, Disk.report_history]
  split
  · exact ⟨rfl, rfl, rfl, hs, .inl rfl⟩
  have hfiles : ∀ s, Desk.historyFiles a ctx d.operations s = _ := fun s =>
    Desk.historyFiles_eq_attempt d a [("read", .read), ("write", .write), ("append", .append)] ctx s
  rw [hfiles s, hfiles s']
  simp only [Builtin.historyOperations] at hresult hhistory hafter
  generalize History.attempt d _ ctx.history s = x, History.attempt d _ ctx.history s' = x'
    at hresult hhistory hafter
  obtain ⟨⟨r, history⟩, t⟩ := x
  obtain ⟨⟨r', history'⟩, t'⟩ := x'
  cases hhistory
  rcases hresult with hsame | ⟨hnone, name, hfirst, hsecond⟩
  · cases hsame
    exact ⟨rfl, rfl, rfl, hafter, .inl rfl⟩
  · cases hfirst
    cases hsecond
    exact ⟨rfl, rfl, rfl, hafter, .inr ⟨rfl, hnone, name, rfl, rfl⟩⟩

include hrewritten

lemma report_type (names : List String) :
    Report.Alike .type e R (d.report (fun desk => desk.type ctx 0 names) s)
      (d.report (fun desk => desk.type ctx 0 names) s') := by
  have hdescribe : Builtin.describe ctx (d.files s') = Builtin.describe ctx (d.files s) := by
    funext name
    simp only [Builtin.describe, (hd.files s s' hs).findExecutable hrewritten]
  simp only [Disk.report_type, hdescribe]
  exact ⟨rfl, rfl, rfl, hs, .inl rfl⟩

lemma report_cd (target : Option String) :
    Report.Alike .cd e R (d.report (fun desk => desk.cd target ctx) s)
      (d.report (fun desk => desk.cd target ctx) s') := by
  rw [Disk.report_cd, Disk.report_cd]
  cases Builtin.cdTarget? target ctx.home with
  | none => exact ⟨rfl, rfl, rfl, hs, .inl rfl⟩
  | some target =>
    simp only [Context.setWorkspace, (hd.files s s' hs).isDirectory hrewritten]
    split <;> exact ⟨rfl, rfl, rfl, hs, .inl rfl⟩

/-- A builtin that does not open the file at `l` prints the same whatever this file holds, and has
the same result and context, unless `history` fails at a path that leads through `l`. -/
theorem report (b : Builtin) (args : List String)
    (havoids : History.Avoids d l (b.operations args ctx) ctx.history s) :
    Report.Alike b e R (b.report d args ctx s) (b.report d args ctx s') := by
  rw [Builtin.report_eq, Builtin.report_eq]
  simp only [Builtin.operations] at havoids
  cases hargs : b.parseArguments args with
  | error cause => exact ⟨rfl, rfl, rfl, hs, .inl rfl⟩
  | ok a =>
    rw [hargs] at havoids
    dsimp only at havoids ⊢
    split
    · exact ⟨rfl, rfl, rfl, hs, .inl rfl⟩
    · rename_i hhelp
      rw [if_neg hhelp] at havoids
      cases b with
      | echo | pwd =>
        simp only [Desk.act, Disk.report_conclude]
        exact ⟨rfl, rfl, rfl, hs, .inl rfl⟩
      | exit =>
        refine report_exit hd hs fun hdetached => ?_
        simpa [hdetached] using havoids
      | type => exact report_type hd hrewritten hs a.positionals
      | cd => exact report_cd hd hrewritten hs a.positionals.head?
      | history => exact report_history hd hs havoids

end Disk.Mirrors

end Shell
