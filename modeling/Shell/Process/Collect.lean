import Shell.Process.Task
import Shell.Text.Octets

/-!
# Collected output

Most tools do not write piece by piece what they print. It is collected until there is a block of
it, until there is something to say on the error stream or to wait for, or until the tool ends.
-/

namespace Shell

/-- Output that was printed and not written yet. -/
structure Collected where
  /-- The pieces, the last one first. -/
  pieces : List Bytes := []
  size : Nat := 0
  /-- Some output was lost, and the tool did not notice. -/
  failed : Bool := false
  deriving DecidableEq, Repr

namespace Collected

/-- Output is written in multiples of this size before the end. -/
def block : Nat := 4096

def bytes (c : Collected) : Bytes := c.pieces.reverse.flatten

def add (c : Collected) (piece : Bytes) : Collected :=
  { c with pieces := piece :: c.pieces, size := c.size + piece.length }

@[simp] theorem bytes_add (c : Collected) (piece : Bytes) :
    (c.add piece).bytes = c.bytes ++ piece := by
  simp [bytes, add]

end Collected

/-- How a tool deals with output that cannot be written. -/
structure Care where
  /-- The name that its messages begin with. -/
  name : String
  /-- It looks at every write, so that it knows when one fails. -/
  watchful : Bool := true
  /-- The status with which it ends when it notices at its end that output was lost. -/
  code : Nat := 1
  deriving DecidableEq, Repr

namespace Care

/-- Say that output was lost, and end. -/
def giveUp (care : Care) (reason : String) : Proc :=
  (Task.writeAll 2 (octetBytes (care.name ++ ": write error" ++ reason ++ "\n"))).followedBy
    fun _ => .exit care.code

/-- The end of a tool after all its output was written or lost. Why output was lost before is known
only if standard output was closed all the time. -/
def finish (care : Care) (code : Nat) (failed : Bool) : Proc :=
  if !failed then .exit code
  else .call (.close 1) fun
    | .ok () => care.giveUp ""
    | .error e => care.giveUp (": " ++ e.text)

end Care

/-- The process with its output collected. -/
def Proc.collecting (care : Care) : Proc → Collected → Proc
  | .exit code, c => (Task.writeAll 1 c.bytes).followedBy fun
    | .ok () => care.finish code c.failed
    | .error e => care.giveUp (": " ++ e.text)
  | .fork child next, c => .fork child fun id => (next id).collecting care c
  | .call (.write 1 piece) next, c =>
    let c := c.add piece
    if c.size < Collected.block then (next (.ok piece.length)).collecting care c
    else
      let whole := c.size / Collected.block * Collected.block
      (Task.writeAll 1 (c.bytes.take whole)).followedBy fun
        | .ok () =>
          let rest := c.bytes.drop whole
          (next (.ok piece.length)).collecting care
            { pieces := [rest], size := rest.length, failed := c.failed }
        | .error e =>
          if care.watchful then (next (.error e)).collecting care { failed := c.failed }
          else (next (.ok piece.length)).collecting care { failed := true }
  | .call (.write 2 piece) next, c => (Task.writeAll 1 c.bytes).followedBy fun result =>
    .call (.write 2 piece) fun a =>
      (next a).collecting care { failed := c.failed || !result.isOk }
  | .call (.pause micros) next, c => (Task.writeAll 1 c.bytes).followedBy fun result =>
    .call (.pause micros) fun a =>
      (next a).collecting care { failed := c.failed || !result.isOk }
  | .call request next, c => .call request fun a => (next a).collecting care c

/-- The process that does a task with its output collected. -/
def Task.toCollecting (t : Task Nat) (care : Care) : Proc :=
  t.toProc.collecting care {}

end Shell
