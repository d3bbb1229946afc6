import Shell.Proofs.Interpreter.Actions
import Shell.Proofs.Path.Text

/-!
# Going from directory to directory

Going to one directory and from there on to another comes to the same as going to the second one at
once, by the path that joins the two (`Interpreter.goTo_goTo`). Only the texts of the paths decide
this, not what stands in the directories on the way.
-/

namespace Shell

namespace Context

variable (ctx : Context) (fs : FileSystem)

/-- An attempt to go to another directory succeeds if there is a directory, and changes nothing but
the working directory then. -/
lemma setWorkspace_cases (target : String) :
    (fs.isDirectory (ctx.resolvePath target).text = true ∧
      ctx.setWorkspace fs target = .ok { ctx with workspace := ctx.resolvePath target }) ∨
    (fs.isDirectory (ctx.resolvePath target).text = false ∧
      ctx.setWorkspace fs target = .error .absent) := by
  cases hdirectory : fs.isDirectory (ctx.resolvePath target).text with
  | true => exact .inl ⟨rfl, by simp [setWorkspace, hdirectory]⟩
  | false => exact .inr ⟨rfl, by simp [setWorkspace, hdirectory]⟩

variable {ctx fs}

lemma workspace_of_setWorkspace {ctx' : Context} {target : String}
    (h : ctx.setWorkspace fs target = .ok ctx') :
    fs.isDirectory ctx'.workspace.text = true ∧
      ctx' = { ctx with workspace := ctx.resolvePath target } := by
  obtain ⟨hdirectory, hset⟩ | ⟨-, hset⟩ := ctx.setWorkspace_cases fs target
  · rw [hset] at h
    cases h
    exact ⟨hdirectory, rfl⟩
  · rw [hset] at h
    cases h

/-- The path of the first attempt is the start of the second. -/
lemma setWorkspace_append {ctx' : Context} {a b : String} (ha : a ≠ "")
    (hb : Path.isAbsolute b = false) (h : ctx.setWorkspace fs a = .ok ctx') :
    ctx'.setWorkspace fs b = ctx.setWorkspace fs (a ++ "/" ++ b) := by
  obtain ⟨-, rfl⟩ := workspace_of_setWorkspace h
  have hpath : resolvePath { ctx with workspace := ctx.resolvePath a } b =
      ctx.resolvePath (a ++ "/" ++ b) :=
    ctx.workspace.resolve_resolve ha hb
  simp only [setWorkspace, hpath]

end Context

namespace Interpreter

lemma goTo_of_ok {sh : Interpreter} {target : String} {ctx : Context}
    (h : sh.context.setWorkspace sh.machine.files target = .ok ctx) :
    sh.goTo target = { sh with context := ctx } := by
  rw [goTo, h]
  rfl

lemma goTo_of_error {sh : Interpreter} {target : String} {e : IoError}
    (h : sh.context.setWorkspace sh.machine.files target = .error e) : sh.goTo target = sh := by
  rw [goTo, h]
  rfl

/-- An attempt that succeeds takes the session to the directory at the normal form of the target.
One that fails does so because there is no directory, and the session stays as it is. After a first
attempt that succeeds, a second one to a target that does not start at the root has the result of a
single attempt to both with a slash between them, and goes to the same place. -/
theorem goTo_goTo (sh : Interpreter) (h : sh.context.workspace.IsNormal) :
    let attempt := fun (sh : Interpreter) target =>
      sh.context.setWorkspace sh.machine.files target
    let path := Path.normalize sh.context.workspace.text
    (∀ target ctx, attempt sh target = .ok ctx →
      sh.machine.files.isDirectory (path target) = true ∧ ctx.workspace.text = path target ∧
      sh.goTo target = { sh with context := ctx }) ∧
    (∀ target e, attempt sh target = .error e →
      sh.machine.files.isDirectory (path target) = false ∧ e = .absent ∧ sh.goTo target = sh) ∧
    ∀ a b ctx, a ≠ "" → Path.isAbsolute b = false → attempt sh a = .ok ctx →
      attempt (sh.goTo a) b = attempt sh (a ++ "/" ++ b) ∧
      ∀ ctx', attempt (sh.goTo a) b = .ok ctx' → (sh.goTo a).goTo b = sh.goTo (a ++ "/" ++ b) := by
  intro attempt path
  have hpath : ∀ target, (sh.context.resolvePath target).text = path target := h.text_resolve
  refine ⟨?_, ?_, ?_⟩
  · intro target ctx hattempt
    obtain ⟨hdirectory, rfl⟩ := Context.workspace_of_setWorkspace hattempt
    exact ⟨hpath target ▸ hdirectory, hpath target, goTo_of_ok hattempt⟩
  · intro target e hattempt
    obtain ⟨-, hset⟩ | ⟨hnot, hset⟩ := sh.context.setWorkspace_cases sh.machine.files target
    · cases hset.symm.trans hattempt
    · cases hset.symm.trans hattempt
      exact ⟨hpath target ▸ hnot, rfl, goTo_of_error hattempt⟩
  · intro a b ctx ha hb hattempt
    have hgone := goTo_of_ok hattempt
    have hsame : attempt (sh.goTo a) b = attempt sh (a ++ "/" ++ b) := by
      simp only [attempt, hgone]
      exact Context.setWorkspace_append ha hb hattempt
    refine ⟨hsame, fun ctx' hagain => ?_⟩
    rw [goTo_of_ok hagain, goTo_of_ok (hsame.symm.trans hagain), hgone]

/-- A session that goes up and down again, past a directory that is not there. -/
theorem goTo_goTo_up :
    let sh : Interpreter :=
      { context := { workspace := ⟨true, ["usr"]⟩ }
        machine := { files := { entries := [(["tmp"], .directory), (["tmp", "x"], .directory)] } } }
    sh.context.workspace.IsNormal ∧
      ((sh.goTo "../none/../tmp").goTo "..//tmp/x/.").context.workspace = ⟨true, ["tmp", "x"]⟩ ∧
      (sh.goTo "../none/../tmp").goTo "..//tmp/x/." =
        sh.goTo ("../none/../tmp" ++ "/" ++ "..//tmp/x/.") := by
  intro sh
  have hnormal : sh.context.workspace.IsNormal := by decide
  have htmp : sh.machine.files.isDirectory "/tmp" = true := by
    have hstat : sh.machine.files.stat? [] "/tmp" = some (["tmp"], .directory) := by
      refine FileSystem.stat?_eq_some_iff.mpr ⟨by decide, ?_⟩
      exact .enter (by decide) (by simp) rfl (.arrive _ _)
    simp [FileSystem.isDirectory, hstat]
  have hx : sh.machine.files.isDirectory "/tmp/x" = true := by
    have hstat : sh.machine.files.stat? [] "/tmp/x" = some (["tmp", "x"], .directory) := by
      refine FileSystem.stat?_eq_some_iff.mpr ⟨by decide, ?_⟩
      exact .enter (by decide) (by simp) rfl (.enter (by decide) (by simp) rfl (.arrive _ _))
    simp [FileSystem.isDirectory, hstat]
  have hfirst : sh.context.setWorkspace sh.machine.files "../none/../tmp" =
      .ok { workspace := ⟨true, ["tmp"]⟩ } := if_pos htmp
  obtain ⟨hok, -, hjoin⟩ := goTo_goTo sh hnormal
  have hgone := (hok _ _ hfirst).2.2
  have hagain : (sh.goTo "../none/../tmp").context.setWorkspace
      (sh.goTo "../none/../tmp").machine.files "..//tmp/x/." =
        .ok { workspace := ⟨true, ["tmp", "x"]⟩ } := by
    rw [hgone]
    exact if_pos hx
  refine ⟨hnormal, ?_, (hjoin _ _ _ (by decide) (by decide) hfirst).2 _ hagain⟩
  rw [goTo_of_ok hagain]

end Interpreter

end Shell
