import Shell.CommandLine
import Shell.Program.Standard

/-!
# The shell as a program

The shell on a fresh machine whose files are in memory. Standard input is read as a whole; what the
session prints on its two streams is passed on at the end.
-/

namespace Shell

namespace Main

/-- The working directory on a fresh machine, which is also the home directory. -/
def home : String := "/home"

/-- The variables on a fresh machine. -/
def vars : Variables := [("HOME", home), ("PATH", "/usr/bin:/bin")]

/-- A fresh machine with this standard input. -/
def machine (input : Bytes) : Machine :=
  Machine.enter
    { files := FileSystem.initial.makeDirectory home
      session := { kind := .inherited, stdin := ⟨input⟩ } } home

/-- Run the shell on a fresh machine: its status, and what it printed. -/
def run (args : List String) (input : Bytes) : Nat × Bytes × Bytes :=
  let (code, m) := CommandLine.run Programs.standard args vars (machine input)
  (code, m.session.stdout.bytes, m.session.stderr.bytes)

end Main

end Shell

/-- Everything that can be read from a stream, after the bytes of `done`. -/
partial def readAll (stream : IO.FS.Stream) (done : ByteArray) : IO ByteArray := do
  let block ← stream.read 65536
  if block.isEmpty then return done
  readAll stream (done ++ block)

def main (args : List String) : IO UInt32 := do
  let input ← readAll (← IO.getStdin) ByteArray.empty
  let (code, out, err) := Shell.Main.run args input.data.toList
  (← IO.getStdout).write ⟨out.toArray⟩
  (← IO.getStderr).write ⟨err.toArray⟩
  return code.toUInt32
