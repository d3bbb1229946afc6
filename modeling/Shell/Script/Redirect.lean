import Shell.Script.Expand
import Shell.Script.Search

/-!
# Redirections

A redirection changes what is open under a number. Where it holds for one command only, what was
open before is kept under a high number that programs do not see, and put back behind the command.
-/

namespace Shell

namespace Script

/-- A redirection whose words are expanded. -/
inductive Change
  | file (stream : Nat) (kind : RedirectKind) (path : String)
  /-- Another number for an open stream; without a source the stream is closed. -/
  | copy (stream : Nat) (source : Option Nat)
  | document (stream : Nat) (id : Nat)
  deriving DecidableEq, Repr

namespace Sh

/-- The stream that a word names for copying. -/
def streamNamed (text : String) : Sh (Option Nat) :=
  match text.toList with
  | ['-'] => pure none
  | [c] => if c.isDigit then pure (some (c.toNat - '0'.toNat)) else wrong
  | _ => wrong
where
  wrong : Sh (Option Nat) := fail "Syntax error: Bad fd number"

/-- Expand the words of redirections. -/
def expandRedirects (run : Node → Sh (List Char)) (redirects : List Redirect) :
    Sh (List Change) :=
  traverse (fun
    | .file stream kind target => do
      let path ← expandText run target
      pure (.file stream kind path)
    | .copy stream target => do
      let text ← expandText run target
      pure (.copy stream (← streamNamed text))
    | .document stream id => pure (.document stream id)) redirects

/-- Open a file for a redirection. -/
def openTarget (kind : RedirectKind) (path : String) : Sh Nat := do
  let attemptOpen (access : Access) (verb missing : String) : Sh Nat := do
    match ← ask (.openFile path access) with
    | .ok stream => pure stream
    | .error e => fail ("cannot " ++ verb ++ " " ++ path ++ ": " ++ reasonText missing e)
  let create (access : Access) : Sh Nat := attemptOpen access "create" "Directory nonexistent"
  match kind with
  | .input => attemptOpen .read "open" "No such file"
  | .both => create .update
  | .append => create (.write .append)
  | .clobber => create (.write .truncate)
  | .output =>
    if !(← hasOption 'C') then create (.write .truncate)
    else match ← ask (.inspect path true) with
      | .error _ => create .fresh
      | .ok { entry := .file _ _, .. } | .ok { entry := .program _, .. } =>
        fail ("cannot create " ++ path ++ ": " ++ Errno.fileExists.text)
      | .ok _ => attemptOpen (.write .append) "open" "No such file"

/-- The most bytes of a document that are written before anybody reads it. -/
def documentLimit : Nat := 4096

/-- Open a document: its text comes out of a pipe. A long one is written by another process. -/
def openDocument (run : Node → Sh (List Char)) (id : Nat) : Sh Nat := do
  let word := ((← get).documents[id]?).getD []
  let text ← expandDocument run word
  let (source, target) ← ask .pipe
  if text.length ≤ documentLimit then
    let _ ← write target text
  else
    let writer : Task Nat := do
      let _ ← Task.ask (.close source)
      let _ ← Task.writeAll target (octetBytes text)
      pure 0
    let _ ← fork fun _ => writer.toProc
  let _ ← ask (.close target)
  pure source

/-- Keep what is open under a number, unless it was kept already for this command, and close it
there. `isNew` tells that nothing was open there before. -/
def keepStream (stream : Nat) (isNew : Bool) : Sh Unit := do
  match (← get).kept with
  | [] => pure ()
  | frame :: rest =>
    if frame.any fun e => e.1 = stream then pure ()
    else do
      let place ←
        if isNew then pure none
        else match ← ask (.copyAbove stream 10) with
          | .ok place => do
            let _ ← ask (.close stream)
            pure (some place)
          | .error _ => pure none
      modify fun s => { s with kept := ((stream, place) :: frame) :: rest }

/-- Make one change. -/
def redirectOne (run : Node → Sh (List Char)) (keeps : Bool) (change : Change) : Sh Unit := do
  let keep (stream : Nat) (isNew : Bool) : Sh Unit :=
    if keeps then keepStream stream isNew else pure ()
  let place (stream opened : Nat) : Sh Unit := do
    keep stream (opened = stream)
    if opened ≠ stream then
      let _ ← ask (.copyTo opened stream)
      let _ ← ask (.close opened)
  match change with
  | .file stream kind path => do
    let opened ← openTarget kind path
    place stream opened
  | .document stream id => do
    let opened ← openDocument run id
    place stream opened
  | .copy stream none => do
    keep stream false
    let _ ← ask (.close stream)
  | .copy stream (some source) =>
    if source = stream then pure ()
    else do
      keep stream false
      match ← ask (.copyTo source stream) with
      | .ok () => pure ()
      | .error e => fail (toString source ++ ": " ++ e.text)

/-- Make some changes. With `keeps`, what was open is kept to be put back. -/
def redirect (run : Node → Sh (List Char)) (keeps : Bool) (changes : List Change) : Sh Unit :=
  each (redirectOne run keeps) changes

/-- Put back a stream. -/
def restoreStream (entry : Nat × Option Nat) : Sh Unit := do
  match entry with
  | (stream, none) =>
    let _ ← ask (.close stream)
  | (stream, some place) =>
    let _ ← ask (.copyTo place stream)
    let _ ← ask (.close place)

/-- Forget what was kept, and keep the changes. -/
def dropStream (entry : Nat × Option Nat) : Sh Unit := do
  match entry with
  | (_, none) => pure ()
  | (_, some place) =>
    let _ ← ask (.close place)

/-- Put back what was kept since there were `depth` commands with redirections, or forget it. -/
def restoreStreams (depth : Nat) (forget : Bool := false) : Sh Unit := do
  let s ← get
  let frames := s.kept.take (s.kept.length - depth)
  modify fun s => { s with kept := s.kept.drop (s.kept.length - depth) }
  each (fun frame => each (if forget then dropStream else restoreStream) frame) frames

end Sh

end Script

end Shell
