import Shell.Process.Task
import Shell.Script.Parser
import Shell.Signal
import Shell.Text.Number
import Shell.Text.Octets

/-!
# The state of a script

What a running script knows: its variables, functions, arguments and options, the commands it
started, and how far it leaves the commands it is in. What a script does is a `Sh` computation: it
is told what comes after it, also after an error, and says what the process does.
-/

namespace Shell

namespace Script

structure Variable where
  /-- Without a value the variable is not set, but it may have properties. -/
  value : Option String := none
  exported : Bool := false
  readOnly : Bool := false
  deriving DecidableEq, Repr

/-- A command that the script is about to leave, and how. -/
inductive Skip
  | breakLoops (count : Nat)
  /-- Leave loops but the last, and go on with that. -/
  | continueLoop (count : Nat)
  | leaveFunction
  deriving DecidableEq, Repr

/-- Processes that were started together. -/
structure Job where
  /-- Their numbers and, for those that ended, how. -/
  processes : List (Nat × Option Ending)
  /-- The place in which it is kept. Its number is one more. -/
  slot : Nat := 0
  /-- It was waited for, so that another may take its place when it is done. -/
  waited : Bool := false
  deriving DecidableEq, Repr

namespace Job

def isDone (j : Job) : Bool := j.processes.all fun p => p.2.isSome

/-- The status of the last process. -/
def status (j : Job) : Nat :=
  match j.processes.getLast? with
  | some (_, some ending) => ending.status
  | _ => 0

/-- Note how a process ended. -/
def note (j : Job) (id : Nat) (ending : Ending) : Job :=
  { j with processes := j.processes.map fun p => if p.1 = id then (id, some ending) else p }

/-- The number of the last process, by which the job is known. -/
def id? (j : Job) : Option Nat := j.processes.getLast?.map Prod.fst

/-- Nobody asks for it any more. -/
def isSpent (j : Job) : Bool := j.isDone && j.waited

end Job

/-- Streams that are put back behind a command: for each number the number under which the stream
was kept, if it was open. -/
abbrev Kept := List (Nat × Option Nat)

structure State where
  /-- The name that messages begin with. -/
  name : String
  args : List String := []
  vars : List (String × Variable) := []
  functions : List (String × Node) := []
  aliases : List (String × String) := []
  documents : Array Word := #[]
  /-- The letters of the options that are set. -/
  options : List Char := []
  status : Nat := 0
  /-- The status of the last command whose output became part of a word. -/
  outputStatus : Nat := 0
  /-- The process that was started last without waiting for it. -/
  background : Option Nat := none
  /-- The jobs that are not waited for or were not yet forgotten, the latest first. -/
  jobs : List Job := []
  /-- What is done on signals, and, under zero, at the end. An empty text ignores the signal. -/
  traps : List (Nat × String) := []
  /-- Signals that came and for which nothing was done yet. -/
  pending : List Nat := []
  skip : Option Skip := none
  line : Nat := 0
  /-- The command whose messages bear its name. -/
  command : Option String := none
  loops : Nat := 0
  /-- How many functions are being run. -/
  functionDepth : Nat := 0
  /-- The variables to put back behind each function or command. -/
  locals : List (List (String × Option Variable)) := []
  kept : List Kept := []
  process : Nat := 0
  /-- It is a copy of the process that began the script. -/
  isCopy : Bool := false
  /-- The directory as it was named. -/
  here : String := "/"
  /-- Which argument `getopts` reads next. -/
  optionIndex : Nat := 1
  /-- How many characters of the argument before that it has read. -/
  optionOffset : Option Nat := none
  /-- The programs that were found, by name. -/
  found : List (String × String) := []
  inTrace : Bool := false

/-- The options with their letters, if they have one, in the order in which they are listed. -/
def optionNames : List (String × Option Char) :=
  [("errexit", some 'e'), ("noglob", some 'f'), ("ignoreeof", some 'I'), ("interactive", some 'i'),
   ("monitor", some 'm'), ("noexec", some 'n'), ("stdin", some 's'), ("xtrace", some 'x'),
   ("verbose", some 'v'), ("vi", some 'V'), ("emacs", some 'E'), ("noclobber", some 'C'),
   ("allexport", some 'a'), ("notify", some 'b'), ("nounset", some 'u'),
   ("privileged", some 'p'), ("nolog", none), ("debug", none)]

/-- The letters of the options that are set, in the reverse order. -/
def State.optionLetters (s : State) : List Char :=
  (optionNames.filterMap fun o => o.2.filter s.options.contains).reverse

/-- What ends a command, the commands around it and, mostly, the script. -/
inductive Jump
  | exit
  /-- An error that was reported. -/
  | error
  deriving DecidableEq, Repr

/-- What a script does, with a value of type `α` at its end. -/
def Sh (α : Type) : Type := State → (Except Jump α → State → Proc) → Proc

namespace Sh

instance : Monad Sh where
  pure a := fun s k => k (.ok a) s
  bind x f := fun s k => x s fun
    | .ok a, s => f a s k
    | .error j, s => k (.error j) s

def get : Sh State := fun s k => k (.ok s) s

def modify (f : State → State) : Sh Unit := fun s k => k (.ok ()) (f s)

def jump {α : Type} (j : Jump) : Sh α := fun s k => k (.error j) s

/-- Do something and say whether it jumped. -/
def attempt {α : Type} (x : Sh α) : Sh (Except Jump α) := fun s k => x s fun r s => k (.ok r) s

/-- Go on as something ended. -/
def resume {α : Type} : Except Jump α → Sh α
  | .ok a => pure a
  | .error j => jump j

/-- Make a request of the machine. -/
def ask (r : Request) : Sh r.Answer := fun s k => .call r fun a => k (.ok a) s

def lift {α : Type} (t : Task α) : Sh α := fun s k => t fun a => k (.ok a) s

/-- Start a copy of the process that does `child`. -/
def fork (child : State → Proc) : Sh Nat := fun s k => .fork (child s) fun id => k (.ok id) s

/-- Do something for each element of a list. -/
def each {α : Type} (f : α → Sh Unit) : List α → Sh Unit
  | [] => pure ()
  | a :: rest => do
    f a
    each f rest

/-- The results for the elements of a list. -/
def traverse {α β : Type} (f : α → Sh β) : List α → Sh (List β)
  | [] => pure []
  | a :: rest => do
    let b ← f a
    let bs ← traverse f rest
    pure (b :: bs)

/-! ### Messages -/

/-- Write on a stream; whether all was taken. -/
def write (stream : Nat) (text : String) : Sh Bool := do
  match ← lift (Task.writeAll stream (octetBytes text)) with
  | .ok () => pure true
  | .error _ => pure false

/-- Report something, behind the name of the script and the line. -/
def warn (text : String) : Sh Unit := do
  let s ← get
  let command := match s.command with
    | some c => c ++ ": "
    | none => ""
  let _ ← write 2 (s.name ++ ": " ++ toString s.line ++ ": " ++ command ++ text ++ "\n")

/-- Report an error and leave. -/
def fail {α : Type} (text : String) (status : Nat := 2) : Sh α := do
  warn text
  modify fun s => { s with status }
  jump .error

/-! ### Options -/

def hasOption (letter : Char) : Sh Bool := do
  return (← get).options.contains letter

end Sh

namespace State

/-! ### Variables -/

def lookup? (s : State) (name : String) : Option Variable := s.vars.lookup name

/-- The value of a variable that is set. -/
def value? (s : State) (name : String) : Option String :=
  (s.lookup? name).bind Variable.value

def putVariable (s : State) (name : String) (v : Variable) : State :=
  let known := s.vars.any fun e => e.1 = name
  { s with vars := if known then s.vars.map fun e => if e.1 = name then (name, v) else e
      else s.vars ++ [(name, v)] }

/-- Forget a variable altogether. -/
def removeVariable (s : State) (name : String) : State :=
  { s with vars := s.vars.filter fun e => e.1 ≠ name }

/-- The variables for programs, each written `name=value`. -/
def environment (s : State) : List String :=
  s.vars.filterMap fun (name, v) =>
    if v.exported then v.value.map fun value => name ++ "=" ++ value else none

/-- What separates fields. -/
def separators (s : State) : Option String := s.value? "IFS"

/-- The directories in which commands are looked for. -/
def path (s : State) : String := (s.value? "PATH").getD ""

def hasTraps (s : State) : Bool := !s.traps.isEmpty

/-! ### Jobs -/

/-- The first place for another job. What is kept there is spent and forgotten. -/
def claimSlot (s : State) : Nat × State :=
  let isTaken (n : Nat) : Bool := s.jobs.any fun j => j.slot = n && !j.isSpent
  let slot := ((List.range (s.jobs.length + 1)).find? fun n => !isTaken n).getD s.jobs.length
  (slot, { s with jobs := s.jobs.filter fun j => j.slot ≠ slot })

/-- Change the jobs. -/
def changeJobs (s : State) (change : Job → Job) : State :=
  { s with jobs := s.jobs.map change }

end State

namespace Sh

/-- Give a variable a value, unless it is read-only. -/
def assign (name value : String) (exported : Bool := false) : Sh Unit := do
  let s ← get
  let old := (s.lookup? name).getD {}
  if old.readOnly then fail (name ++ ": is read only")
  let exported := exported || old.exported || s.options.contains 'a'
  let found := if name = "PATH" then [] else s.found
  if name = "OPTIND" then
    match digits? value.toList with
    | none => fail ("Illegal number: " ++ value)
    | some n => modify fun s => { s with optionIndex := max n 1, optionOffset := none }
  modify fun s => { s.putVariable name { old with value := some value, exported } with found }

/-- Give a variable a property. It need not have a value. -/
def mark (name : String) (change : Variable → Variable) : Sh Unit :=
  modify fun s => s.putVariable name (change ((s.lookup? name).getD {}))

/-- Take the value of a variable away. -/
def unsetVariable (name : String) : Sh Unit := do
  match (← get).lookup? name with
  | none => pure ()
  | some v =>
    if v.readOnly then fail (name ++ ": is read only")
    modify fun s => s.removeVariable name

/-! ### Local variables -/

/-- Keep a variable as it is, to be put back. -/
def keepVariable (name : String) : Sh Unit :=
  modify fun s =>
    match s.locals with
    | [] => s
    | frame :: rest =>
      if frame.any fun e => e.1 = name then s
      else { s with locals := ((name, s.lookup? name) :: frame) :: rest }

/-- Put back what was kept since there were `depth` frames. -/
def restoreVariables (depth : Nat) : Sh Unit :=
  modify fun s =>
    let frames := s.locals.take (s.locals.length - depth)
    let s := frames.foldl (fun s frame => frame.foldl (fun s (name, v) =>
      match v with
      | some v => s.putVariable name v
      | none => s.removeVariable name) s) s
    { s with locals := s.locals.drop (s.locals.length - depth) }

end Sh

end Script

end Shell
