import Shell.History

/-!
# The context of a session

What commands share: the working directory, the variables handed to programs, the history, and
whether the session is to end. The working directory is a path of the shell alone; programs are
started in it. A builtin that runs inside a pipeline works on a detached copy, whose changes are
lost and which cannot end the session.
-/

namespace Shell

/-- The values of variables by name. -/
abbrev Variables := List (String × String)

namespace Variables

/-- The value of a variable. -/
def get? (vars : Variables) (key : String) : Option String :=
  vars.lookup key

/-- Give a variable a value. -/
def set (key value : String) : Variables → Variables
  | [] => [(key, value)]
  | (k, v) :: rest => if k = key then (key, value) :: rest else (k, v) :: set key value rest

/-- A text of the form `name=value` taken apart. An equals sign at the very front belongs to the
name. -/
def entry? (text : String) : Option (String × String) :=
  match text.toList with
  | [] => none
  | c :: cs =>
    let name := cs.takeWhile (· ≠ '=')
    match cs.drop name.length with
    | [] => none
    | _ :: value => some (String.ofList (c :: name), String.ofList value)

/-- The variables as a program finds them that was started with them: all are handed over in the
order of their names as texts of the form `name=value`, and of several values the last one counts.
-/
def received (vars : Variables) : Variables :=
  ((vars.mergeSort fun a b => decide (a.1 ≤ b.1)).filterMap fun (k, v) => entry? (k ++ "=" ++ v))
    |>.foldl (fun vars (k, v) => vars.set k v) []

end Variables

structure Context where
  workspace : Path
  vars : Variables := []
  history : History := {}
  exiting : Bool := false
  detached : Bool := false
  deriving DecidableEq, Repr

namespace Context

/-- The context of a new session. Its working directory is read at `base`, the directory of the
shell's own process. -/
def start (base workspace : String) (vars : Variables) : Context :=
  { workspace := (Path.ofText base).resolve workspace, vars }

/-- The path that `text` means in the working directory. -/
def resolvePath (ctx : Context) (text : String) : Path :=
  ctx.workspace.resolve text

def var (ctx : Context) (key : String) : Option String :=
  ctx.vars.get? key

def setVar (ctx : Context) (key value : String) : Context :=
  { ctx with vars := ctx.vars.set key value }

/-- The home directory, as the variables give it. -/
def home (ctx : Context) : Option String :=
  ctx.var "HOME"

/-- Go to another directory, which has to be there. -/
def setWorkspace (ctx : Context) (fs : FileSystem) (target : String) : Except IoError Context :=
  let candidate := ctx.resolvePath target
  if fs.isDirectory candidate.text then .ok { ctx with workspace := candidate } else .error .absent

/-- The copy that a builtin inside a pipeline works on. -/
def detach (ctx : Context) : Context :=
  { ctx with detached := true }

/-- Add a line to the history. -/
def record (ctx : Context) (line : String) : Context :=
  { ctx with history := ctx.history.record line }

section

variable {σ : Type} (d : Disk σ)

/-- Ask the session to end after the current line. Pending history is written first; if that fails
the session ends all the same. A detached context ignores the request. -/
def requestExit (ctx : Context) : StateM σ Context := do
  if ctx.detached then pure ctx
  else
    let (_, history) ← ctx.history.flushFile d
    pure { ctx with history, exiting := true }

theorem requestExit_within {τ : Type} (p : Part τ σ) (ctx : Context) :
    ctx.requestExit (d.within p) = p.lift (ctx.requestExit d) := by
  unfold requestExit
  split
  · rw [Part.lift_pure]
  · simp only [History.flushFile_within, Part.lift_bind, Part.lift_pure]

/-- Read the history file of the last session. A file that cannot be read is remembered all the
same. -/
def loadHistory (file : String) (ctx : Context) : StateM σ Context := do
  let (_, history) ← ctx.history.loadFile d (ctx.resolvePath file).text
  pure { ctx with history }

end

end Context

end Shell
