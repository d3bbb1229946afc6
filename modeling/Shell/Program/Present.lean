import Shell.Program.Tool

/-!
# Who is here

The tool that lists who is logged in. Nobody ever is: the machine keeps no record of logins, and a
file that is named instead of that record holds none.
-/

namespace Shell

namespace Program

def whoSwitches : Switches where
  letters := "abdlmpqrstuwHT".toList.map fun c => (c, .no)
  names := [
    { name := "all", letter := 'a' }, { name := "boot", letter := 'b' },
    { name := "count", letter := 'q' }, { name := "dead", letter := 'd' },
    { name := "heading", letter := 'H' }, { name := "login", letter := 'l' },
    { name := "lookup", letter := 'L' }, { name := "message", letter := 'T' },
    { name := "mesg", letter := 'T' }, { name := "process", letter := 'p' },
    { name := "runlevel", letter := 'r' }, { name := "short", letter := 's' },
    { name := "time", letter := 't' }, { name := "users", letter := 'u' },
    { name := "writable", letter := 'T' }]

/-- The heading of a list that has no lines. -/
def whoHeading : String := "NAME     LINE         TIME         COMMENT\n"

/-- What is printed for these options when nobody is logged in. -/
def whoText (letters : List Char) : String :=
  if letters.contains 'q' then "\n# users=0\n"
  else if letters.contains 'H' then whoHeading
  else ""

/-- List who is logged in. -/
def who (inv : Invocation) : Task Nat := do
  let given := whoSwitches.read inv.args
  match given.complaint, given.operands with
  | some text, _ => misuse inv text
  | none, _ :: _ :: extra :: _ => misuse inv ("extra operand " ++ Quoted.argument extra)
  | none, _ => do
    emit inv (octetBytes (whoText (given.options.map Prod.fst)))
    pure 0

end Program

end Shell
