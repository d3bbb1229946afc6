import Shell.FileSystem.Access

/-!
# Processes

What a process is going to do is a tree: it ends, it starts a copy of itself that goes on in a way
of its own, or it makes a request of the machine and goes on by the answer. Nothing in the tree acts
by itself; the machine answers the requests one by one, and that is all that processes can do to
each other and to the files.

Texts in requests are texts of octets.
-/

namespace Shell

/-- How a process ends. -/
inductive Ending
  | exited (code : Nat)
  | killed (signal : Nat)
  deriving DecidableEq, Repr

/-- The status that the shell gives a process's end. -/
def Ending.status : Ending → Nat
  | .exited code => code % 256
  | .killed signal => 128 + signal

/-- What a process does with a signal that it gets. -/
inductive Disposition
  /-- Whatever the signal does to a process that takes no care of it. -/
  | standard
  | ignored
  /-- It is kept until the process asks for it. -/
  | caught
  deriving DecidableEq, Repr

/-- What can be told about a file or stream without reading it. -/
structure FileStatus where
  entry : Entry
  /-- Where it is, unless it is a stream. -/
  location : Option Location := none
  /-- How far it was read or written by those who share it. -/
  offset : Nat := 0
  deriving DecidableEq, Repr

/-- What a process can ask of the machine. Streams are known by the numbers under which they are
open in the process. -/
inductive Request
  /-- Let some time pass, in microseconds. -/
  | pause (micros : Nat)
  | read (stream max : Nat)
  | write (stream : Nat) (bytes : Bytes)
  | openFile (path : String) (access : Access)
  | close (stream : Nat)
  /-- Open `source` under the number `target` as well, closing what was open there. -/
  | copyTo (source target : Nat)
  /-- Open `source` as well under the least free number that is not below `least`, hidden from
  programs that take the place of this one. -/
  | copyAbove (source least : Nat)
  /-- Make a pipe: the numbers of its two ends. -/
  | pipe
  /-- Go back in a file by some bytes. -/
  | rewind (stream back : Nat)
  | statusOf (stream : Nat)
  | inspect (path : String) (followLinks : Bool)
  | list (path : String)
  | enter (path : String)
  | directory
  /-- The numbers of the process and of the one that started it. -/
  | identity
  /-- The end of this child, or of any. Without `patient` the answer comes at once. -/
  | wait (child : Option Nat) (patient : Bool)
  | signal (process number : Nat)
  | handle (number : Nat) (disposition : Disposition)
  /-- The caught signals that came since the last time. -/
  | arrived
  /-- Set the permissions that new files do not get. The answer is the old setting. -/
  | mask (bits : Nat)
  /-- Go on as another program. Only a failure has an answer. -/
  | exec (path : String) (args vars : List String)
  deriving DecidableEq, Repr

/-- What the machine answers. -/
abbrev Request.Answer : Request → Type
  | .pause _ => Unit
  | .read _ _ => Except Errno Bytes
  | .write _ _ => Except Errno Nat
  | .openFile _ _ => Except Errno Nat
  | .close _ => Except Errno Unit
  | .copyTo _ _ => Except Errno Unit
  | .copyAbove _ _ => Except Errno Nat
  | .pipe => Nat × Nat
  | .rewind _ _ => Except Errno Unit
  | .statusOf _ => Except Errno FileStatus
  | .inspect _ _ => Except Errno FileStatus
  | .list _ => Except Errno (List String)
  | .enter _ => Except Errno Unit
  | .directory => String
  | .identity => Nat × Nat
  | .wait _ _ => Except Errno (Option (Nat × Ending))
  | .signal _ _ => Except Errno Unit
  | .handle _ _ => Unit
  | .arrived => List Nat
  | .mask _ => Nat
  | .exec _ _ _ => Errno

/-- What a process is going to do. -/
inductive Proc
  | exit (code : Nat)
  /-- Start a copy that does `child`; the process itself goes on with the number of the copy. -/
  | fork (child : Proc) (next : Nat → Proc)
  | call (request : Request) (next : request.Answer → Proc)

/-- What a program is started with. -/
structure Invocation where
  /-- The name under which it was called. -/
  name : String
  args : List String := []
  /-- The variables, each written `name=value`. -/
  vars : List String := []

/-- What each installed program does. -/
abbrev Programs := String → Invocation → Proc

end Shell
