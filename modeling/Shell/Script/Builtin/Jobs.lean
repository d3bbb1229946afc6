import Shell.Script.Builtin.Basic

/-!
# Processes of a script

Waiting for processes, sending signals, and what a script does on signals.
-/

namespace Shell

namespace Script

namespace Sh

/-! ### Waiting -/

/-- Take over the signals that came. -/
def takeSignals : Sh Unit := do
  let numbers ← ask .arrived
  modify fun s => { s with pending := s.pending ++ numbers }

/-- Tell how a process of the job that is waited for was ended by a signal. -/
def tellEnding : Ending → Sh Unit
  | .exited _ => pure ()
  | .killed signal =>
    if signal = 2 || signal = 13 then pure ()
    else do
      let _ ← write 2 (Signal.description signal ++ "\n")

/-- Wait until all processes of a job ended. Other processes that end meanwhile are noted. -/
def waitFor (interruptible : Bool) : Nat → Job → Sh (Job × Bool)
  | 0, job => pure (job, true)
  | turns + 1, job => do
    if job.isDone then pure (job, true)
    else match ← ask (.wait none true) with
      | .error _ => pure (job, true)
      | .ok none => do
        takeSignals
        if interruptible then pure (job, false) else waitFor interruptible turns job
      | .ok (some (id, ending)) =>
        if job.processes.any fun p => p.1 = id then do
          tellEnding ending
          waitFor interruptible turns (job.note id ending)
        else do
          modify fun s => s.changeJobs fun j => j.note id ending
          waitFor interruptible turns job

/-- The status of processes that were just started, when they ended. -/
def awaitProcesses (ids : List Nat) : Sh Nat := do
  modify fun s => s.claimSlot.2
  let (job, _) ← waitFor false Parse.patience { processes := ids.map fun id => (id, none) }
  pure job.status

end Sh

namespace Builtin

/-- Wait until all processes ended that were started. -/
def waitAll : Nat → Sh Nat
  | 0 => pure 0
  | turns + 1 => do
    let s ← Sh.get
    let allDone := s.jobs.all Job.isDone
    Sh.modify fun s => s.changeJobs fun j => { j with waited := j.waited || j.isDone }
    if allDone then return 0
    match ← Sh.ask (.wait none true) with
    | .error _ => return 0
    | .ok none =>
      Sh.takeSignals
      return 128 + ((← Sh.get).pending.head?.getD 0)
    | .ok (some (id, ending)) =>
      Sh.modify fun s => s.changeJobs fun j => j.note id ending
      waitAll turns

/-- The job that a word with a percent sign in front stands for, or the latest. `starts` tells that
the job has to be one that can be put in front or behind, which none is. -/
def jobOf (starts : Bool) (word : Option String) : Sh Job := do
  let jobs := (← Sh.get).jobs
  let name := (word.map String.toList).getD ['%']
  let shown := word.getD "(null)"
  let (job, failure) : Option Job × String :=
    match name with
    | ['%'] | ['%', '+'] | ['%', '%'] => (jobs.head?, "No current job")
    | ['%', '-'] => (jobs[1]?, "No previous job")
    | '%' :: digits =>
      ((digits? digits).bind fun n => jobs.find? fun j => j.slot + 1 = n, "No such job: " ++ shown)
    | _ => (none, "No such job: " ++ shown)
  match job with
  | none => Sh.fail failure
  | some job =>
    if starts then Sh.fail ("job " ++ shown ++ " not created under job control")
    return job

/-- Wait for a job that is given by the number of a process or by its own. -/
def waitOne (arg : String) : Sh Nat := do
  let job : Option Job ←
    if startsWithText "%" arg then some <$> jobOf false (some arg)
    else do
      let id ← natural arg
      pure ((← Sh.get).jobs.find? fun j => j.id? = some id)
  match job with
  | none => return 127
  | some job =>
    let (job, done) ← Sh.waitFor true Parse.patience job
    Sh.modify fun s => s.changeJobs fun j =>
      if j.slot = job.slot then { job with waited := done } else j
    if !done then return 128 + ((← Sh.get).pending.head?.getD 0)
    return job.status

/-- Wait for processes. -/
def wait (args : List String) : Sh Nat := do
  let a ← arguments [] args
  if a.operands.isEmpty then waitAll Parse.patience else waitEach 0 a.operands
where
  waitEach (status : Nat) : List String → Sh Nat
    | [] => pure status
    | arg :: rest => do
      let status ← waitOne arg
      waitEach status rest

/-- Note which processes ended. -/
def noteEndings : Nat → Sh Unit
  | 0 => pure ()
  | turns + 1 => do
    match ← Sh.ask (.wait none false) with
    | .ok (some (id, ending)) =>
      Sh.modify fun s => s.changeJobs fun j => j.note id ending
      noteEndings turns
    | _ => pure ()

/-- The words for how a process ended. -/
def endingText : Ending → String
  | .exited 0 => "Done"
  | .exited code => "Done(" ++ toString code ++ ")"
  | .killed signal => Signal.description signal

/-- The words for how far a job is. -/
def progressText (j : Job) : String :=
  match j.isDone, j.processes.getLast? with
  | true, some (_, some ending) => endingText ending
  | _, _ => "Running"

/-- The width of what stands in front of the text of a command. -/
def progressWidth : Nat := 33

/-- A text with blanks behind it up to a width, but one at least. -/
def padded (text : String) : String :=
  text ++ String.ofList (List.replicate (max 1 (progressWidth - text.length)) ' ')

/-- What is told about a job. The texts of its commands are not kept. -/
def jobListing (withIds : Bool) (mark : Char) (j : Job) : String :=
  let head := "[" ++ toString (j.slot + 1) ++ "] " ++ String.ofList [mark] ++ " "
  let indent := String.ofList (List.replicate head.length ' ')
  match j.processes with
  | [] => ""
  | (id, _) :: others =>
    if withIds then
      padded (head ++ toString id ++ " " ++ progressText j) ++
        String.join (others.map fun p => " |\n" ++ padded (indent ++ toString p.1 ++ " ")) ++ "\n"
    else padded (head ++ progressText j) ++ String.join (others.map fun _ => " | ") ++ "\n"

/-- Tell the jobs, and forget those that are done. -/
def jobs (args : List String) : Sh Nat := do
  let a ← arguments [('l', false), ('p', false)] args
  let all ← if a.operands.isEmpty then do
      noteEndings Parse.patience
      pure (← Sh.get).jobs
    else a.operands.mapM fun arg => jobOf false (some arg)
  let slots := (← Sh.get).jobs.map Job.slot
  let mark (j : Job) : Char :=
    if slots[0]? = some j.slot then '+' else if slots[1]? = some j.slot then '-' else ' '
  let ids := a.has 'p'
  let told := all.map fun j =>
    if ids then ((j.processes.head?.map fun p => toString p.1 ++ "\n").getD "")
    else jobListing (a.has 'l') (mark j) j
  if !ids then
    let gone := (all.filter Job.isDone).map Job.slot
    Sh.modify fun s => { s with jobs := s.jobs.filter fun j => !gone.contains j.slot }
  print (String.join told)

/-- Put a job in front or behind. No job was started so that this could be done. -/
def resumeJob (args : List String) : Sh Nat := do
  let a ← arguments [] args
  let _ ← jobOf true a.operands.head?
  return 0

/-! ### Signals -/

/-- The number of a signal that is given by number or name. -/
def signalNumber? (text : String) : Option Nat :=
  match digits? text.toList with
  | some n => if n ≤ Signal.last then some n else none
  | none => if text = "EXIT" then some 0 else Signal.number? text

/-- How `kill` is used. -/
def killUsage : String :=
  "Usage: kill [-s sigspec | -signum | -sigspec] [pid | job]... or\nkill -l [exitstatus]"

/-- The names of the signals, one on a line. -/
def signalListing : String :=
  String.join ((List.range (Signal.last + 1)).filterMap fun n =>
    if n = 0 then some "0\n" else (Signal.name? n).map (· ++ "\n"))

/-- The process that an argument of `kill` means. A job or a group of processes is none, as every
process is in the same group. -/
def signalTarget (arg : String) : Sh (Option Nat) := do
  match arg.toList with
  | '%' :: _ => do
    let _ ← jobOf false (some arg)
    return none
  | '-' :: digits => do
    let _ ← natural (String.ofList digits)
    return none
  | _ => do
    let id ← natural arg
    return some id

/-- Send a signal to processes. -/
def killEach (signal status : Nat) : List String → Sh Nat
  | [] => pure status
  | arg :: rest => do
    let answer ← match ← signalTarget arg with
      | some id => Sh.ask (.signal id signal)
      | none => pure (.error .noProcess)
    match answer with
    | .ok () => killEach signal status rest
    | .error e => do
      Sh.warn (e.text ++ "\n")
      killEach signal 1 rest

/-- Tell signals, or the one that a status stands for. -/
def tellSignal (args : List String) : Sh Nat := do
  match args with
  | [] => print signalListing
  | arg :: _ =>
    let n ← natural arg
    let n := if 128 < n then n - 128 else n
    if 0 < n && n ≤ Signal.last then print ((Signal.name? n).getD "" ++ "\n")
    else Sh.fail ("invalid signal number or exit status: " ++ arg)

/-- Send a signal, or tell signals. -/
def kill (args : List String) : Sh Nat := do
  let send (signal : Nat) (operands : List String) : Sh Nat :=
    if operands.isEmpty then Sh.fail killUsage else killEach signal 0 operands
  match args with
  | [] => Sh.fail killUsage
  | first :: rest =>
    match first.toList with
    | '-' :: c :: cs =>
      let name := String.ofList (c :: cs)
      match signalNumber? name with
      | some n => send n (if rest.head? = some "--" then rest.drop 1 else rest)
      | none =>
        let a ← arguments [('l', false), ('s', true)] args
        match a.options.find? fun o => o.1 = 's' with
        | some (_, value) =>
          match signalNumber? (value.getD "") with
          | some n => send n a.operands
          | none => Sh.fail ("invalid signal number or name: " ++ value.getD "")
        | none => if a.has 'l' then tellSignal a.operands else send 15 a.operands
    | _ => send 15 args

/-! ### Traps -/

/-- What to do on a signal, or to do what is done anyway. -/
def setTrap (signal : Nat) (action : Option String) : Sh Unit := do
  let others := (← Sh.get).traps.filter fun t => t.1 ≠ signal
  Sh.modify fun s => { s with traps := match action with
    | some text => (signal, text) :: others
    | none => others }
  if signal ≠ 0 then
    Sh.ask (.handle signal (match action with
      | none => .standard
      | some "" => .ignored
      | some _ => .caught))

/-- The actions as commands. -/
def trapListing (s : State) : String :=
  String.join ((List.range (Signal.last + 1)).filterMap fun n =>
    (s.traps.lookup n).map fun text =>
      let name := if n = 0 then "EXIT" else (Signal.name? n).getD (toString n)
      "trap -- " ++ quoted text ++ " " ++ name ++ "\n")

/-- Say what to do on signals, or tell it. -/
def trap (args : List String) : Sh Nat := do
  let a ← arguments [] args
  match a.operands with
  | [] => print (trapListing (← Sh.get))
  | first :: rest =>
    let (action, signals) : Option String × List String :=
      if rest.isEmpty || (digits? first.toList).any (· ≤ Signal.last) then (none, first :: rest)
      else (if first = "-" then none else some first, rest)
    trapEach action signals
where
  trapEach (action : Option String) : List String → Sh Nat
    | [] => pure 0
    | name :: rest => do
      match signalNumber? name with
      | none => do
        let _ ← Sh.write 2 ("trap: " ++ name ++ ": bad trap\n")
        return 1
      | some n => do
        setTrap n action
        trapEach action rest

/-- The time that was used, which is none. -/
def times : Sh Nat :=
  print "0m0.000000s 0m0.000000s\n0m0.000000s 0m0.000000s\n"

end Builtin

end Script

end Shell
