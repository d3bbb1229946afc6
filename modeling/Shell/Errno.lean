import Shell.Errno.Texts
import Shell.Text.Bytes

/-!
# Failures of the operating system

Numbered failures with their fixed texts, and the few failures of an input or output operation that
have no number.
-/

namespace Shell

/-- A failure that the operating system reports by number. -/
inductive Errno
  | noEntry
  | noProcess
  | argumentsTooLong
  | badExecutable
  | badDescriptor
  | noChild
  | permissionDenied
  | fileExists
  | notDirectory
  | isDirectory
  | invalid
  | tooManyOpenFiles
  | noSpace
  | illegalSeek
  | brokenPipe
  | nameTooLong
  | linkLoop
  | other (number : Int)
  deriving DecidableEq, Repr

namespace Errno

def number : Errno → Int
  | .noEntry => 2
  | .noProcess => 3
  | .argumentsTooLong => 7
  | .badExecutable => 8
  | .badDescriptor => 9
  | .noChild => 10
  | .permissionDenied => 13
  | .fileExists => 17
  | .notDirectory => 20
  | .isDirectory => 21
  | .invalid => 22
  | .tooManyOpenFiles => 24
  | .noSpace => 28
  | .illegalSeek => 29
  | .brokenPipe => 32
  | .nameTooLong => 36
  | .linkLoop => 40
  | .other n => n

def text : Errno → String
  | .noEntry => "No such file or directory"
  | .noProcess => "No such process"
  | .argumentsTooLong => "Argument list too long"
  | .badExecutable => "Exec format error"
  | .badDescriptor => "Bad file descriptor"
  | .noChild => "No child processes"
  | .permissionDenied => "Permission denied"
  | .fileExists => "File exists"
  | .notDirectory => "Not a directory"
  | .isDirectory => "Is a directory"
  | .invalid => "Invalid argument"
  | .tooManyOpenFiles => "Too many open files"
  | .noSpace => "No space left on device"
  | .illegalSeek => "Illegal seek"
  | .brokenPipe => "Broken pipe"
  | .nameTooLong => "File name too long"
  | .linkLoop => "Too many levels of symbolic links"
  | .other n => otherText n

/-- The failures that have a name here. -/
def named : List Errno :=
  [.noEntry, .noProcess, .argumentsTooLong, .badExecutable, .badDescriptor, .noChild,
    .permissionDenied, .fileExists, .notDirectory, .isDirectory, .invalid, .tooManyOpenFiles,
    .noSpace, .illegalSeek, .brokenPipe, .nameTooLong, .linkLoop]

/-- The failure with this number. -/
def ofNumber (n : Int) : Errno :=
  (named.find? fun e => e.number = n).getD (.other n)

end Errno

/-- Why an input or output operation failed. -/
inductive IoError
  | os (errno : Errno)
  /-- A directory was asked for and is not there. -/
  | absent
  /-- Bytes that should be text are not. -/
  | notText
  /-- A path with a NUL character. -/
  | nulInPath
  /-- An argument or variable with a NUL character. -/
  | nulInArgument
  | custom (text : String)
  deriving DecidableEq, Repr

namespace IoError

/-- There is no memory left for what is read. -/
def outOfMemory : IoError := .custom "out of memory"

/-- The text of a failure, without the number of the operating system. -/
def text : IoError → String
  | .os e => e.text
  | .absent => "entity not found"
  | .notText => "stream did not contain valid UTF-8"
  | .nulInPath => "file name contained an unexpected NUL byte"
  | .nulInArgument => "nul byte found in provided data"
  | .custom t => t

/-- The text of a failure, with the number of the operating system if it has one. -/
def message : IoError → String
  | .os e => e.text ++ " (os error " ++ toString e.number ++ ")"
  | e => e.text

end IoError

end Shell
