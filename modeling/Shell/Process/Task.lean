import Shell.Process

/-!
# Tasks

A part of what a process does, with a result: a task is told what comes after it and says what the
process does. Tasks make a monad, so that programs are written as a sequence of requests.
-/

namespace Shell

/-- A part of what a process does, which ends with a value of type `α`. -/
def Task (α : Type) : Type := (α → Proc) → Proc

namespace Task

instance : Monad Task where
  pure a := fun k => k a
  bind t f := fun k => t fun a => f a k

/-- Make a request. -/
def ask (r : Request) : Task r.Answer :=
  fun k => .call r k

/-- End the process. -/
def exit {α : Type} (code : Nat) : Task α :=
  fun _ => .exit code

/-- Start a copy of the process that does `child`. -/
def fork (child : Proc) : Task Nat :=
  fun k => .fork child k

/-- The process that does a task and goes on by its result. -/
def followedBy {α : Type} (t : Task α) (next : α → Proc) : Proc :=
  t next

/-- The process that does a task and ends with its result. -/
def toProc (t : Task Nat) : Proc :=
  t .exit

/-- How often a loop of a program is gone through at most. -/
def patience : Nat := Nat.pow 2 40

/-- Write all these bytes to a stream. -/
def writeAll (stream : Nat) (bytes : Bytes) (turns : Nat := patience) : Task (Except Errno Unit) :=
  match turns with
  | 0 => pure (.ok ())
  | turns + 1 =>
    if bytes.isEmpty then pure (.ok ())
    else do
      match ← ask (.write stream bytes) with
      | .error e => pure (.error e)
      | .ok count => writeAll stream (bytes.drop count) turns

/-- How many bytes programs read at a time. -/
def blockSize : Nat := 65536

/-- Read a stream to its end. The blocks read so far stand in reverse in `done`. -/
def readAll (stream : Nat) (done : List Bytes := []) (turns : Nat := patience) :
    Task (Except Errno Bytes) :=
  match turns with
  | 0 => pure (.ok done.reverse.flatten)
  | turns + 1 => do
    match ← ask (.read stream blockSize) with
    | .error e => pure (.error e)
    | .ok [] => pure (.ok done.reverse.flatten)
    | .ok block => readAll stream (block :: done) turns

end Task

end Shell
