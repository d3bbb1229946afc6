import Shell.Script.Builtin.Jobs
import Shell.Script.Builtin.Names
import Shell.Script.Builtin.Place
import Shell.Script.Builtin.Print
import Shell.Script.Builtin.Test
import Shell.Script.Builtin.Variables
import Shell.Script.Redirect

/-!
# Running scripts

What commands do. A command ends with a status; the process may end with it, and a failure may end
the script if nothing looks at the status. Programs run in processes of their own, and so do the
commands of a pipeline, commands in parentheses and commands that are not waited for.

Every rule is given a number that bounds the depth and length of what it does.
-/

namespace Shell

namespace Script

/-- How a command is run. -/
structure Manner where
  /-- The process ends with the command. -/
  exits : Bool := false
  /-- Something looks at the status, so a failure does not end the script. -/
  tested : Bool := false
  deriving DecidableEq, Repr

/-- The commands whose failure ends a script that is to end then. -/
def isChecked : Node → Bool
  | .simple _ _ _ _ | .subshell _ _ _ | .background _ _ _ | .pipeline _ _ => true
  | _ => false

/-- How a loop goes on. -/
inductive LoopStep
  | goOn
  | again
  | leave
  | leaveFunction
  deriving DecidableEq, Repr

/-- What is known about a command when its first words are expanded. -/
structure Lead where
  /-- The fields so far; the first names the command. -/
  fields : List String := []
  /-- The words that are not expanded yet. -/
  rest : List Word := []
  /-- The command may be a function. -/
  functions : Bool := true
  /-- The directories to look in, if not those of the variable. -/
  path : Option String := none
  /-- The name is that of a command of the shell whose errors end the script. -/
  special : Bool := false

/-- How many functions may be run inside each other. -/
def functionLimit : Nat := 10000

/-- The directories in which programs are found by default. -/
def standardPath : String := "/usr/local/sbin:/usr/local/bin:/usr/sbin:/usr/bin:/sbin:/bin"

/-- How much of a file is looked at to see that it is a text. -/
def textHeadSize : Nat := 128

/-- A byte that no first line of a script has. -/
def isBinaryByte (b : UInt8) : Bool :=
  b < 9 || (16 ≤ b && b < 27) || (28 ≤ b && b < 32) || b == 127

namespace Sh

/-! ### Processes -/

/-- What a copy of the script forgets: the processes it did not start, and what to do on signals
unless they are ignored. -/
def enterCopy : Sh Unit := do
  each (fun (n, text) => if n ≠ 0 && text ≠ "" then ask (.handle n .standard) else pure ())
    (← get).traps
  modify fun s =>
    { s with isCopy := true, jobs := [], pending := []
             traps := s.traps.filter fun t => t.1 ≠ 0 && t.2 = "" }

/-- What a copy does first that is not waited for: it reads nothing and is not interrupted. -/
def enterBackground (reads : Bool) : Sh Unit := do
  ask (.handle 2 .ignored)
  ask (.handle 3 .ignored)
  if !reads then
    let _ ← ask (.close 0)
    let _ ← ask (.openFile "/dev/null" .read)

/-- Note processes that are not waited for. -/
def noteJob (ids : List Nat) : Sh Unit :=
  modify fun s =>
    let (slot, s) := s.claimSlot
    { s with background := ids.getLast?
             jobs := { processes := ids.map fun id => (id, none), slot } :: s.jobs }

/-- Move a stream to a number. -/
def moveStream (source target : Nat) : Sh Unit := do
  if source ≠ target then
    let _ ← ask (.copyTo source target)
    let _ ← ask (.close source)

/-! ### Programs -/

/-- A file that is no program is a script if its first line is text. -/
def isText (path : String) : Sh Bool := do
  match ← ask (.openFile path .read) with
  | .error _ => return false
  | .ok stream =>
    let head ← ask (.read stream textHeadSize)
    let _ ← ask (.close stream)
    return match head with
      | .ok bytes => !(bytes.takeWhile (· != 10)).any isBinaryByte
      | .error _ => false

/-- Go on as the program in a file, or as the shell with a script. -/
def execFile (path : String) (args vars : List String) : Sh Errno := do
  let e ← ask (.exec path args vars)
  if e = .badExecutable then
    if ← isText path then return ← ask (.exec "/bin/sh" ("/bin/sh" :: path :: args.tail) vars)
  return e

/-- Go on as the program in the first of some files that can be run. -/
def execFirst (args vars : List String) : Errno → List String → Sh Errno
  | reason, [] => pure reason
  | reason, path :: rest => do
    let e ← execFile path args vars
    execFirst args vars (if e = .noEntry || e = .notDirectory then reason else e) rest

/-- Go on as a program. From `first` on the directories are tried in which it may be. -/
def exec {α : Type} (args : List String) (path : String) (first : Option String := none) :
    Sh α := do
  let name := args.head?.getD ""
  let vars := (← get).environment
  let e ←
    if containsChar '/' name then execFile name args vars
    else
      let paths := pathsFor path name
      let paths := match first with
        | some p => paths.dropWhile (· ≠ p)
        | none => paths
      execFirst args vars .noEntry paths
  warn (name ++ ": " ++ reasonText "not found" e)
  let missing := [Errno.noEntry, .notDirectory, .linkLoop, .nameTooLong].contains e
  modify fun s => { s with status := if missing then 127 else 126 }
  jump .exit

/-! ### Control -/

/-- What a loop does after its body. -/
def loopStep : Sh LoopStep := do
  let leaveWith (skip : Option Skip) : Sh Unit := modify fun s => { s with skip }
  match (← get).skip with
  | none => pure .goOn
  | some .leaveFunction => pure .leaveFunction
  | some (.breakLoops n) => do
    leaveWith (if n ≤ 1 then none else some (.breakLoops (n - 1)))
    pure .leave
  | some (.continueLoop n) =>
    if n ≤ 1 then do
      leaveWith none
      pure .again
    else do
      leaveWith (some (.continueLoop (n - 1)))
      pure .leave

def isSkipping : Sh Bool := do
  return (← get).skip.isSome

/-- Leave loops. -/
def leaveLoops (continues : Bool) (args : List String) : Sh Nat := do
  let n ← match args with
    | [] => pure 1
    | arg :: _ => do
      let n ← Builtin.natural arg
      if n = 0 then fail ("Illegal number: " ++ arg)
      pure n
  let n := min n (← get).loops
  if 0 < n then
    modify fun s =>
      { s with skip := some (if continues then .continueLoop n else .breakLoops n) }
  return 0

/-- The status that an argument asks for, or the last one. -/
def statusArgument (args : List String) : Sh Nat := do
  match args with
  | [] => return (← get).status
  | arg :: _ => Builtin.natural arg

/-- Leave a function or a file. -/
def leaveFunction (args : List String) : Sh Nat := do
  let status ← statusArgument args
  modify fun s => { s with skip := some .leaveFunction }
  return status

/-- End the script. -/
def leaveScript (args : List String) : Sh Nat := do
  let status ← statusArgument args
  modify fun s => { s with status := status % 256 }
  jump .exit

/-- The text that shows a command before it is run. -/
def traceLine (mark : String) (words : List String) : String :=
  mark ++ joinText " " words ++ "\n"

/-- The commands of the shell that run no other commands. -/
def plainBuiltin (name : String) (args : List String) : Sh Nat :=
  match name with
  | ":" | "true" => pure 0
  | "false" => pure 1
  | "break" => leaveLoops false args
  | "continue" => leaveLoops true args
  | "return" => leaveFunction args
  | "exit" => leaveScript args
  | "export" => Builtin.exportNames args
  | "readonly" => Builtin.protectNames args
  | "set" => Builtin.set args
  | "shift" => Builtin.shift args
  | "times" => Builtin.times
  | "trap" => Builtin.trap args
  | "unset" => Builtin.unset args
  | "[" | "test" => Builtin.test name args
  | "alias" => Builtin.aliasNames args
  | "cd" | "chdir" => Builtin.cd args
  | "echo" => Builtin.echo args
  | "getopts" => Builtin.getopts args
  | "hash" => Builtin.hash args
  | "jobs" => Builtin.jobs args
  | "fg" | "bg" => Builtin.resumeJob args
  | "kill" => Builtin.kill args
  | "local" => Builtin.localNames args
  | "printf" => Builtin.printf args
  | "pwd" => Builtin.pwd args
  | "read" => Builtin.read args
  | "type" => Builtin.typeNames args
  | "ulimit" => Builtin.ulimit args
  | "umask" => Builtin.umask args
  | "unalias" => Builtin.unalias args
  | "wait" => Builtin.wait args
  | _ => pure 0

/-- Tell what a command name stands for. Without options nothing is told. -/
def describeCommand (args : List String) : Sh Nat := do
  let a ← Builtin.arguments [('p', false), ('v', false), ('V', false)] args
  match a.operands with
  | [] => return 0
  | name :: _ =>
    if a.has 'v' || a.has 'V' then
      let (text, code) ← Builtin.describe (a.has 'V') name
      let written ← Builtin.print text
      return code ||| written
    return 0

/-- Go on as another program, if one is named. -/
def replaceProgram (args : List String) : Sh Nat := do
  let a ← Builtin.arguments [] args
  if a.operands.isEmpty then return 0
  exec a.operands (← get).path

/-- Find the program of a stage before the stage is started, if its name is plain. -/
def findAhead : Node → Sh Unit
  | .simple _ _ ([.text name false] :: _) _ => do
    if isName (String.ofList name) then
      let _ ← find (String.ofList name)
  | _ => pure ()

/-! ### Words of a command -/

/-- Expand words until there is a field. -/
def firstFields (run : Node → Sh (List Char)) : List Word → Sh (List String × List Word)
  | [] => pure ([], [])
  | word :: rest => do
    let fields ← expandFields run word
    if fields.isEmpty then firstFields run rest else pure (fields, rest)

/-- Have a field behind the first `count` ones. -/
def fillFields (run : Node → Sh (List Char)) (lead : Lead) (count : Nat) : Sh Lead := do
  if count < lead.fields.length then pure lead
  else do
    let (fields, rest) ← firstFields run lead.rest
    pure { lead with fields := lead.fields ++ fields, rest }

/-- Pass over the options of `command`. There is none if something else is asked for than to run a
command; the number counts the fields that were passed. -/
def commandOptions (run : Node → Sh (List Char)) : Nat → Lead → Nat → Sh (Lead × Option Nat)
  | 0, lead, _ => pure (lead, none)
  | fuel + 1, lead, count => do
    let lead ← fillFields run lead count
    match lead.fields[count]? with
    | none => pure (lead, none)
    | some field =>
      match field.toList with
      | ['-', '-'] => do
        let lead ← fillFields run lead (count + 1)
        pure (lead, if (lead.fields[count + 1]?).isSome then some (count + 1) else none)
      | '-' :: c :: cs =>
        if (c :: cs).all (· = 'p') then
          commandOptions run fuel { lead with path := some standardPath } (count + 1)
        else pure (lead, none)
      | _ => pure (lead, some count)

/-- Find out which command the first fields name, past `command` and its options. -/
def resolveLead (run : Node → Sh (List Char)) : Nat → Bool → Lead → Sh Lead
  | 0, _, lead => pure lead
  | fuel + 1, isFirst, lead => do
    match lead.fields with
    | [] => pure lead
    | name :: _ =>
      let isFunction := lead.functions && ((← get).functions.lookup name).isSome
      if isFunction || !isBuiltin name then pure lead
      else
        let lead := if isFirst then { lead with special := isSpecialBuiltin name } else lead
        if name ≠ "command" then pure lead
        else do
          let (filled, passed) ← commandOptions run Parse.patience lead 1
          match passed with
          | none => pure { filled with path := lead.path }
          | some count =>
            resolveLead run fuel false
              { filled with fields := filled.fields.drop count, functions := false }

/-- The commands of the shell whose arguments may be assignments. -/
def takesAssignments (name : String) : Bool :=
  ["alias", "export", "readonly", "local"].contains name

/-- All fields of a command. -/
def allFields (run : Node → Sh (List Char)) (lead : Lead) (assigning : Bool) :
    Sh (List String) := do
  let more ← traverse (fun word =>
    if assigning && isAssignment word then do
      let text ← expandText run word true
      pure [text]
    else expandFields run word) lead.rest
  pure (lead.fields ++ more.flatten)

/-- Make the assignments before a command, and give them as they are shown. -/
def assignments (run : Node → Sh (List Char)) (isLocal exported : Bool) (words : List Word) :
    Sh (List String) :=
  traverse (fun word => do
    let text ← expandText run word true
    let (name, value) := Builtin.nameAndValue text
    if isLocal then keepVariable name
    assign name (value.getD "") (isLocal || exported)
    pure text) words

/-- Undo what a command changed for itself. -/
def undo (streams vars : Nat) (forget : Bool) : Sh Unit := do
  restoreStreams streams forget
  restoreVariables vars

/-- Run a loop. -/
def inLoop (body : Sh Nat) : Sh Nat := do
  modify fun s => { s with loops := s.loops + 1 }
  let status ← body
  modify fun s => { s with loops := s.loops - 1 }
  return status

/-! ### Texts of scripts -/

/-- Show the text that was read, if that is asked for. -/
def showText (stream : Option Nat) (reader next : Reader) : Sh Unit := do
  if stream.isSome && (← get).options.contains 'v' then
    let text := reader.chars.take (reader.chars.length - next.chars.length)
    let _ ← write 2 (String.ofList text)

/-- The first of some paths that leads to a file. -/
def firstReadable : List String → Sh (Option String)
  | [] => pure none
  | path :: rest => do
    match ← ask (.inspect path true) with
    | .ok { entry := .file _ _, .. } | .ok { entry := .program _, .. } => pure (some path)
    | _ => firstReadable rest

/-- Open a script where programs do not see it. -/
def openScript (path : String) : Sh Nat := do
  match ← ask (.openFile path .read) with
  | .error e => fail ("cannot open " ++ path ++ ": " ++ reasonText "No such file" e)
  | .ok stream =>
    if 10 ≤ stream then return stream
    match ← ask (.copyAbove stream 10) with
    | .ok place =>
      let _ ← ask (.close stream)
      return place
    | .error _ => return stream

mutual

/-- Run a command to its end. -/
def evaluate (fuel : Nat) (manner : Manner) (node : Node) : Sh Nat :=
  match fuel with
  | 0 => pure 0
  | fuel + 1 => do
    if !(← hasOption 'n') then
      runTraps fuel
      let status ← perform fuel manner node
      modify fun s => { s with status }
      runTraps fuel
      if isChecked node && status ≠ 0 && !manner.tested then
        if ← hasOption 'e' then jump .exit
    if manner.exits then jump .exit
    return (← get).status
termination_by structural fuel

/-- What a command does. -/
def perform (fuel : Nat) (manner : Manner) (node : Node) : Sh Nat :=
  match fuel with
  | 0 => pure 0
  | fuel + 1 =>
    let inner : Manner := { tested := manner.tested }
    match node with
    | .simple line assigned words redirects =>
      simple fuel manner line assigned words redirects
    | .negate body => do
      let status ← evaluate fuel { tested := true } body
      if ← isSkipping then return status
      return if status = 0 then 1 else 0
    | .both first second => do
      let status ← evaluate fuel { tested := true } first
      if status ≠ 0 then return status
      if ← isSkipping then return status
      evaluate fuel manner second
    | .either first second => do
      let status ← evaluate fuel { tested := true } first
      if status = 0 then return status
      if ← isSkipping then return status
      evaluate fuel manner second
    | .sequence first second => do
      let status ← evaluate fuel inner first
      if ← isSkipping then return status
      evaluate fuel manner second
    | .choice test body otherwise => do
      let status ← evaluate fuel { tested := true } test
      if ← isSkipping then return status
      if status = 0 then evaluate fuel manner body
      else match otherwise with
        | some node => evaluate fuel manner node
        | none => return 0
    | .loop negated test body => inLoop (conditionLoop fuel inner negated test body 0)
    | .each line name words body => do
      modify fun s => { s with line }
      let fields ← traverse (expandFields (output fuel)) words
      inLoop (fieldLoop fuel inner name body fields.flatten 0)
    | .select line word cases => do
      modify fun s => { s with line }
      let text ← expandText (output fuel) word
      selectCase fuel manner text.toList cases
    | .function name _ body => do
      modify fun s => { s with functions := (name, body) :: s.functions.filter fun f => f.1 ≠ name }
      return 0
    | .redirected line body redirects => do
      modify fun s => { s with line }
      let changes ← expandRedirects (output fuel) redirects
      let streams := (← get).kept.length
      modify fun s => { s with kept := [] :: s.kept }
      let status ← match ← attempt (redirect (output fuel) true changes) with
        | .ok () => evaluate fuel inner body
        | .error .error => pure 2
        | .error .exit => jump .exit
      restoreStreams streams
      return status
    | .subshell line body redirects => do
      modify fun s => { s with line }
      let changes ← expandRedirects (output fuel) redirects
      let act : Sh Unit := do
        redirect (output fuel) false changes
        let _ ← evaluate fuel { manner with exits := true } body
      if manner.exits && !(← get).hasTraps then do
        act
        return 0
      let id ← fork (inCopy fuel act)
      awaitProcesses [id]
    | .background line body redirects => do
      modify fun s => if line = 0 then s else { s with line }
      let changes ← expandRedirects (output fuel) redirects
      let id ← fork (inCopy fuel do
        enterBackground false
        redirect (output fuel) false changes
        let _ ← evaluate fuel { exits := true } body)
      noteJob [id]
      return 0
    | .pipeline stages background => do
      each findAhead stages
      let ids ← stagesFrom fuel manner background none stages []
      if background then
        noteJob ids
        return 0
      awaitProcesses ids
termination_by structural fuel

/-- Start the stages of a pipeline. `source` is the stream from which the next one reads. -/
def stagesFrom (fuel : Nat) (manner : Manner) (background : Bool) (source : Option Nat)
    (stages : List Node) (started : List Nat) : Sh (List Nat) :=
  match fuel with
  | 0 => pure started
  | fuel + 1 =>
    match stages with
    | [] => pure started
    | stage :: rest => do
      let pipe ← if rest.isEmpty then pure none else do
        let ends ← ask .pipe
        pure (some ends)
      let id ← fork (inCopy fuel do
        if background then enterBackground (!started.isEmpty)
        match pipe with
        | some (next, _) =>
          let _ ← ask (.close next)
        | none => pure ()
        match source with
        | some source => moveStream source 0
        | none => pure ()
        match pipe with
        | some (_, target) => moveStream target 1
        | none => pure ()
        let _ ← evaluate fuel { manner with exits := true } stage)
      match source with
      | some source =>
        let _ ← ask (.close source)
      | none => pure ()
      match pipe with
      | some (_, target) =>
        let _ ← ask (.close target)
      | none => pure ()
      stagesFrom fuel manner background (pipe.map Prod.fst) rest (started ++ [id])
termination_by structural fuel

/-- A loop that goes on as long as its test succeeds, or fails. -/
def conditionLoop (fuel : Nat) (manner : Manner) (negated : Bool) (test body : Node)
    (last : Nat) : Sh Nat :=
  match fuel with
  | 0 => pure last
  | fuel + 1 => do
    let status ← evaluate fuel { tested := true } test
    match ← loopStep with
    | .leaveFunction => return status
    | .leave => return last
    | .again => conditionLoop fuel manner negated test body last
    | .goOn =>
      if (status = 0) = negated then return last
      let status ← evaluate fuel manner body
      match ← loopStep with
      | .leaveFunction | .leave => return status
      | .again | .goOn => conditionLoop fuel manner negated test body status
termination_by structural fuel

/-- A loop through fields. -/
def fieldLoop (fuel : Nat) (manner : Manner) (name : String) (body : Node) (fields : List String)
    (last : Nat) : Sh Nat :=
  match fuel with
  | 0 => pure last
  | fuel + 1 =>
    match fields with
    | [] => pure last
    | field :: rest => do
      assign name field
      let status ← evaluate fuel manner body
      match ← loopStep with
      | .leaveFunction | .leave => return status
      | .again | .goOn => fieldLoop fuel manner name body rest status
termination_by structural fuel

/-- The first case with a pattern for a text. -/
def selectCase (fuel : Nat) (manner : Manner) (text : List Char)
    (cases : List (List Word × Option Node)) : Sh Nat :=
  match fuel with
  | 0 => pure 0
  | fuel + 1 =>
    match cases with
    | [] => pure 0
    | (patterns, body) :: rest => do
      if ← anyPattern fuel text patterns then
        match body with
        | some body => evaluate fuel manner body
        | none => return 0
      else selectCase fuel manner text rest
termination_by structural fuel

/-- One of some patterns stands for a text. -/
def anyPattern (fuel : Nat) (text : List Char) (patterns : List Word) : Sh Bool :=
  match fuel with
  | 0 => pure false
  | fuel + 1 =>
    match patterns with
    | [] => pure false
    | pattern :: rest => do
      let pattern ← expandPattern (output fuel) pattern
      if Pattern.covers pattern text then return true
      anyPattern fuel text rest
termination_by structural fuel

/-- A copy of the process that does something and ends. -/
def inCopy (fuel : Nat) (body : Sh Unit) (s : State) : Proc :=
  match fuel with
  | 0 => .exit 0
  | fuel + 1 =>
    (do
      enterCopy
      let _ ← attempt body
      runExitTrap fuel : Sh Unit) s fun _ s => .exit s.status
termination_by structural fuel

/-- Do what is to be done at the end. -/
def runExitTrap (fuel : Nat) : Sh Unit :=
  match fuel with
  | 0 => pure ()
  | fuel + 1 => do
    let s ← get
    match s.traps.lookup 0 with
    | none => pure ()
    | some action => do
      modify fun s => { s with traps := s.traps.filter fun t => t.1 ≠ 0, skip := none }
      match ← attempt (runText fuel action) with
      | .ok _ => modify fun t => { t with status := s.status }
      | .error _ => pure ()
termination_by structural fuel

/-- Do what is to be done on the signals that came. -/
def runTraps (fuel : Nat) : Sh Unit :=
  match fuel with
  | 0 => pure ()
  | fuel + 1 => do
    let s ← get
    if s.traps.any fun t => t.1 ≠ 0 && t.2 ≠ "" then
      takeSignals
      runPending fuel
termination_by structural fuel

/-- Do what is to be done on the signals that wait for it. -/
def runPending (fuel : Nat) : Sh Unit :=
  match fuel with
  | 0 => pure ()
  | fuel + 1 => do
    let s ← get
    match s.pending with
    | [] => pure ()
    | n :: rest =>
      if s.skip.isSome then pure ()
      else do
        modify fun s => { s with pending := rest }
        match s.traps.lookup n with
        | none => pure ()
        | some action => do
          let _ ← runText fuel action
          if (← get).skip ≠ some .leaveFunction then modify fun t => { t with status := s.status }
        runPending fuel
termination_by structural fuel

/-- The output of a command. -/
def output (fuel : Nat) (body : Node) : Sh (List Char) :=
  match fuel with
  | 0 => pure []
  | fuel + 1 => do
    let (source, target) ← ask .pipe
    let id ← fork (inCopy fuel do
      let _ ← ask (.close source)
      moveStream target 1
      let _ ← evaluate fuel { exits := true } body)
    let _ ← ask (.close target)
    let result ← lift (Task.readAll source)
    let _ ← ask (.close source)
    let status ← awaitProcesses [id]
    modify fun s => { s with outputStatus := status }
    return match result with
      | .ok bytes => (octets bytes).toList
      | .error _ => []
termination_by structural fuel

/-- A simple command: assignments, words and redirections. -/
def simple (fuel : Nat) (manner : Manner) (line : Nat) (assigned words : List Word)
    (redirects : List Redirect) : Sh Nat :=
  match fuel with
  | 0 => pure 0
  | fuel + 1 => do
    ask (.pause 0)
    modify fun s => { s with line, outputStatus := 0 }
    let run := output fuel
    let (first, rest) ← firstFields run words
    let lead ← resolveLead run Parse.patience true { fields := first, rest }
    let name := lead.fields.head?.getD ""
    let isFunction := lead.functions && ((← get).functions.lookup name).isSome
    let isBuiltin := !lead.fields.isEmpty && !isFunction && isBuiltin name
    let isExec := isBuiltin && name = "exec"
    let fields ← allFields run lead (isBuiltin && takesAssignments name)
    let isLocal := !fields.isEmpty && !(isBuiltin && lead.special)
    let vars := (← get).locals.length
    if isLocal then modify fun s => { s with locals := [] :: s.locals }
    let changes ← expandRedirects run redirects
    let streams := (← get).kept.length
    modify fun s => { s with kept := [] :: s.kept }
    match ← attempt (redirect run true changes) with
    | .error .exit => jump .exit
    | .error .error =>
      modify fun s => { s with status := 2 }
      if lead.special then jump .error
      undo streams vars isExec
      return 2
    | .ok () =>
      let shown ← assignments run isLocal (isExec && 1 < fields.length) assigned
      trace fuel (shown ++ first ++ fields.drop first.length)
      let status ←
        if fields.isEmpty then do
          pure (← get).outputStatus
        else if isBuiltin then runBuiltin fuel manner lead.special fields
        else if isFunction then runFunction fuel manner fields
        else runProgram fuel manner lead fields
      undo streams vars isExec
      return status
termination_by structural fuel

/-- Show a command before it is run, if that is asked for. -/
def trace (fuel : Nat) (words : List String) : Sh Unit :=
  match fuel with
  | 0 => pure ()
  | fuel + 1 => do
    let s ← get
    if s.options.contains 'x' && !s.inTrace && !words.isEmpty then
      modify fun s => { s with inTrace := true }
      let mark ← expandMark fuel ((s.value? "PS4").getD "")
      modify fun s => { s with inTrace := false }
      -- The errors of the command may be redirected already; its trace is not.
      let stream := (s.kept.head?.bind fun frame => (frame.lookup 2).bind id).getD 2
      let _ ← write stream (traceLine mark words)
termination_by structural fuel

/-- Expand the text that stands before commands that are shown. -/
def expandMark (fuel : Nat) (text : String) : Sh String :=
  match fuel with
  | 0 => pure text
  | fuel + 1 => do
    match Parse.document ⟨0, [], false, false⟩ Parse.patience false [] { chars := text.toList } with
    | .error _ => pure text
    | .ok (parts, _) => expandDocument (output fuel) (finishWord parts)
termination_by structural fuel

/-- Run a command of the shell itself. Errors of most commands are no more than failures. -/
def runBuiltin (fuel : Nat) (manner : Manner) (special : Bool) (fields : List String) : Sh Nat :=
  match fuel with
  | 0 => pure 0
  | fuel + 1 => do
    let name := fields.head?.getD ""
    let args := fields.drop 1
    let s ← get
    modify fun s => { s with command := some name }
    let act : Sh Nat := match name with
      | "eval" =>
        if args.isEmpty then pure 0 else runText fuel (joinText " " args) manner.tested
      | "." => runFile fuel args
      | "exec" => replaceProgram args
      | "command" => describeCommand args
      | name => plainBuiltin name args
    let result ← attempt act
    modify fun t => { t with command := s.command }
    match result with
    | .ok status => return status
    | .error .exit => jump .exit
    | .error .error =>
      if special then jump .error
      modify fun t => { t with loops := s.loops, functionDepth := s.functionDepth, args :=
        if t.functionDepth = s.functionDepth then t.args else s.args }
      return (← get).status
termination_by structural fuel

/-- Run a function. -/
def runFunction (fuel : Nat) (manner : Manner) (fields : List String) : Sh Nat :=
  match fuel with
  | 0 => pure 0
  | fuel + 1 => do
    let s ← get
    match s.functions.lookup (fields.head?.getD "") with
    | none => return 0
    | some body =>
      if functionLimit ≤ s.functionDepth then
        let (id, _) ← ask .identity
        let _ ← ask (.signal id 11)
      modify fun s =>
        { s with args := fields.drop 1, functionDepth := s.functionDepth + 1, loops := 0
                 optionIndex := 1, optionOffset := none }
      let result ← attempt (evaluate fuel { tested := manner.tested } body)
      modify fun t =>
        { t with args := s.args, functionDepth := s.functionDepth, loops := s.loops
                 optionIndex := s.optionIndex, optionOffset := s.optionOffset
                 skip := if t.skip = some .leaveFunction then none else t.skip }
      let _ ← resume result
      return (← get).status
termination_by structural fuel

/-- Run a program, in a process of its own unless this one ends anyway. -/
def runProgram (fuel : Nat) (manner : Manner) (lead : Lead) (fields : List String) : Sh Nat :=
  match fuel with
  | 0 => pure 0
  | fuel + 1 => do
    let name := fields.head?.getD ""
    match ← find name lead.functions lead.path with
    | .program path =>
      let act : Sh Unit := do
        exec fields (lead.path.getD (← get).path) (some path)
      if manner.exits && !(← get).hasTraps then
        act
        return 0
      let id ← fork (inCopy fuel act)
      awaitProcesses [id]
    | .unknown e =>
      warn (name ++ ": " ++ reasonText "not found" e)
      return 127
    | _ => return 0
termination_by structural fuel

/-- Run the commands in a text. -/
def runText (fuel : Nat) (text : String) (tested : Bool := false) : Sh Nat :=
  match fuel with
  | 0 => pure 0
  | fuel + 1 => commandsFrom fuel { tested } none { chars := text.toList } 0
termination_by structural fuel

/-- Run the commands that are left of a text or, if a stream is given, come from it. -/
def commandsFrom (fuel : Nat) (manner : Manner) (stream : Option Nat) (reader : Reader)
    (last : Nat) : Sh Nat :=
  match fuel with
  | 0 => pure last
  | fuel + 1 => do
    let s ← get
    match { reader with aliases := s.aliases, documents := s.documents }.command with
    | .error .more =>
      match ← ask (.read (stream.getD 0) 8192) with
      | .ok (b :: bytes) =>
        let chars := (octets (b :: bytes)).toList.filter (· ≠ '\x00')
        commandsFrom fuel manner stream { reader with chars := reader.chars ++ chars } last
      | _ => commandsFrom fuel manner stream { reader with isFinal := true } last
    | .error (.wrong line error) =>
      modify fun s => { s with line }
      fail ("Syntax error: " ++ error.message)
    | .ok (.finished, next) =>
      showText stream reader next
      return last
    | .ok (.command node, next) =>
      showText stream reader next
      modify fun s => { s with documents := next.documents }
      match node with
      | none => commandsFrom fuel manner stream next last
      | some node =>
        let status ← evaluate fuel manner node
        if ← isSkipping then return status
        commandsFrom fuel manner stream next status
termination_by structural fuel

/-- Run the commands in a file. -/
def runFile (fuel : Nat) (args : List String) : Sh Nat :=
  match fuel with
  | 0 => pure 0
  | fuel + 1 => do
    let a ← Builtin.arguments [] args
    match a.operands with
    | [] => return 0
    | name :: _ =>
      let path ← if containsChar '/' name then pure name else do
        match ← firstReadable (pathsFor (← get).path name) with
        | some path => pure path
        | none => fail (name ++ ": not found")
      let stream ← openScript path
      let status ← commandsFrom fuel {} (some stream) { chars := [], isFinal := false } 0
      let _ ← ask (.close stream)
      modify fun s => { s with skip := if s.skip = some .leaveFunction then none else s.skip }
      return status
termination_by structural fuel

end

end Sh

end Script

end Shell
