import Shell.Process.Task
import Shell.Program.Switch
import Shell.Text.Quoted

/-!
# Tools

What the installed text tools have in common: they read the files named by their operands, or
standard input where there is none, complain about a file they cannot read and go on, and give up
when their output is not taken.
-/

namespace Shell

namespace Program

/-- Write text on the error stream. -/
def say (text : String) : Task Unit := do
  let _ ← Task.writeAll 2 (octetBytes text)

/-- Print a message of a tool about itself. -/
def complain (inv : Invocation) (text : String) : Task Unit :=
  say (inv.name ++ ": " ++ text ++ "\n")

/-- End with a complaint. -/
def fail (inv : Invocation) (text : String) (code : Nat := 1) : Task Nat := do
  complain inv text
  pure code

/-- The hint that follows a complaint about arguments. -/
def tryHelp (inv : Invocation) : String :=
  "Try '" ++ inv.name ++ " --help' for more information.\n"

/-- What a word means that may be cut short. `groups` has the words with each meaning; the complaint
about another word names the option that takes it. -/
def choose {α : Type} [DecidableEq α] (option : String) (groups : List (List String × α))
    (word : String) : Except String α :=
  let known := groups.flatMap fun g => g.1.map fun w => (w, g.2)
  let exact := (known.filter fun k => k.1 = word).map Prod.snd
  let cut := (known.filter fun k => startsWithText word k.1).map Prod.snd
  let refuse (what : String) : Except String α :=
    .error (what ++ " argument " ++ Quoted.argument word ++ " for " ++ Quoted.always option ++
      "\nValid arguments are:" ++ String.join (groups.map fun g =>
        "\n  - " ++ joinText ", " (g.1.map fun w => "'" ++ w ++ "'")))
  match exact, cut with
  | a :: _, _ => .ok a
  | [], [] => refuse "invalid"
  | [], a :: others => if others.all (· = a) then .ok a else refuse "ambiguous"

/-- End with a complaint about the arguments. -/
def misuse (inv : Invocation) (text : String) (code : Nat := 1) : Task Nat := do
  say (inv.name ++ ": " ++ text ++ "\n" ++ tryHelp inv)
  pure code

/-- Write to standard output. If it is not taken the tool ends. -/
def emit (inv : Invocation) (bytes : Bytes) : Task Unit := do
  match ← Task.writeAll 1 bytes with
  | .ok () => pure ()
  | .error e => do
    complain inv ("write error: " ++ e.text)
    Task.exit 1

/-- Do something for each of several things, and end with the greatest code. -/
def eachCode {α : Type} (act : α → Task Nat) : List α → Task Nat
  | [] => pure 0
  | a :: rest => do
    let code ← act a
    let more ← eachCode act rest
    pure (max code more)

/-- Open a file to read it, or take standard input for `-`. -/
def openInput (operand : String) : Task (Except Errno Nat) :=
  if operand = "-" then pure (.ok 0) else Task.ask (.openFile operand .read)

/-- Close what `openInput` opened. -/
def closeInput (operand : String) (stream : Nat) : Task Unit := do
  if operand ≠ "-" then
    let _ ← Task.ask (.close stream)

/-- What a tool does at its end that has read standard input: it closes it, and complains under a
name if it was closed before. -/
def closeStdin (inv : Invocation) (operands : List String) (name : String) (code : Nat) :
    Task Nat := do
  if !operands.contains "-" then pure code
  else match ← Task.ask (.close 0) with
    | .ok () => pure code
    | .error e => fail inv (name ++ ": " ++ e.text)

/-- Operands, or standard input if there is none. -/
def orStdin (operands : List String) : List String :=
  if operands.isEmpty then ["-"] else operands

end Program

end Shell
