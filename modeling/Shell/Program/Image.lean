import Shell.FileSystem.Access
import Shell.Text.Octets

/-!
# Program files

How the operating system makes a program file ready to run. An installed program runs as it is. A
script names its interpreter on its first line, and the interpreter is run with the path of the
script before the arguments. A program without a slash in its name can be looked for along a list
of directories.

Names, arguments and variables are texts of octets.
-/

namespace Shell

/-- A program file made ready: the installed program that runs it, the name it is called by and its
arguments. -/
structure Image where
  program : String
  name : String
  args : List String
  deriving DecidableEq, Repr

namespace Image

/-- How many files may be opened until an installed program is found. -/
def depthLimit : Nat := 6

/-- How much of a file is looked at to find its interpreter. -/
def headSize : Nat := 256

def isGap (b : UInt8) : Bool := b == 32 || b == 9

/-- A byte that ends the name of an interpreter. -/
def endsName (b : UInt8) : Bool := isGap b || b == 0

/-- The line that names the interpreter, without what marks it: up to a line feed, or, without one,
as much as was looked at, if the name of the interpreter is complete. -/
def interpreterLine? (head : Bytes) : Option Bytes :=
  let rest := head.drop 2
  let line := rest.takeWhile fun b => b != 10 && b != 0
  if rest[line.length]? == some 10 then some line
  else
    let name := rest.dropWhile isGap
    if name.any endsName then some (rest.take (headSize - 3)) else none

/-- The interpreter that a script names, and the one argument that may follow. Zeros stand behind
the end of a short file. -/
def interpreter? (content : Bytes) : Option (Bytes × Option Bytes) :=
  match content with
  | 35 :: 33 :: _ =>
    let known := content.take headSize
    let head := known ++ List.replicate (headSize - known.length) 0
    match interpreterLine? head with
    | none => none
    | some line =>
      let line := ((line.reverse.dropWhile isGap).reverse).dropWhile isGap
      if line.isEmpty then none
      else
        let name := line.takeWhile fun b => !endsName b
        let rest := line.drop name.length
        let arg := (rest.dropWhile isGap).takeWhile (· != 0)
        some (name, if rest.head? == some 0 || arg.isEmpty then none else some arg)
  | _ => none

/-- Make the program file at a path ready, from the directory `here`. -/
def load (fs : FileSystem) (here : Location) (name : String) (args : List String) :
    Nat → String → Except IoError Image
  | 0, _ => .error (.os .linkLoop)
  | depth + 1, path =>
    if path = "" then .error (.os .permissionDenied)
    else match fs.locate .target here (ofOctets path) with
      | .error e => .error e
      | .ok (.vacant _ _) => .error (.os .noEntry)
      | .ok (.present _ (.program program)) => .ok { program, name, args }
      | .ok (.present _ (.file mode content)) =>
        if !(Entry.file mode content).mayRun then .error (.os .permissionDenied)
        else match interpreter? content with
          | none => .error (.os .badExecutable)
          | some (interpreter, arg) =>
            load fs here (octets interpreter) ((arg.map octets).toList ++ path :: args) depth
              (octets interpreter)
      | .ok (.present _ _) => .error (.os .permissionDenied)

/-- Make the program file at a path ready to be called by `name`. -/
def ofPath (fs : FileSystem) (here : Location) (path name : String) (args : List String) :
    Except IoError Image :=
  if path = "" then .error (.os .noEntry) else load fs here name args depthLimit path

/-- The directories in which a program is looked for when nothing else is said. -/
def standardPath : String := "/bin:/usr/bin"

/-- The value of a variable among texts of the form `name=value`. -/
def setting? (vars : List String) (name : String) : Option String :=
  (vars.find? (startsWithText (name ++ "="))).map fun v =>
    String.ofList (v.toList.drop (name.length + 1))

/-- The failures after which the search for a program goes on. -/
def isMissing (e : IoError) : Bool :=
  e = .os .noEntry || e = .os .notDirectory

/-- Try the files at these paths one after the other. A file that may not be run is passed over, but
makes the search fail for that reason if nothing better is found. A file that is no program is given
to the shell as a script. -/
def firstOf (fs : FileSystem) (here : Location) (name : String) (args : List String) :
    IoError → List String → Except IoError Image
  | reason, [] => .error reason
  | reason, path :: rest =>
    match ofPath fs here path name args with
    | .ok image => .ok image
    | .error e =>
      if e = .os .badExecutable then ofPath fs here "/bin/sh" name (path :: args)
      else if e = .os .permissionDenied then firstOf fs here name args e rest
      else if isMissing e then
        firstOf fs here name args (if reason = .os .permissionDenied then reason else e) rest
      else .error e

/-- Look for a program along the directories of the variable `PATH`; an empty one is `here`. -/
def search (fs : FileSystem) (here : Location) (vars : List String) (file name : String)
    (args : List String) : Except IoError Image :=
  let dirs := splitText ':' ((setting? vars "PATH").getD standardPath)
  if file.length > FileSystem.nameLimit then .error (.os .nameTooLong)
  else firstOf fs here name args (.os .noEntry)
    (dirs.map fun dir => if dir = "" then file else dir ++ "/" ++ file)

/-- Make a program ready: a name with a slash is a path, any other is looked for. -/
def find (fs : FileSystem) (here : Location) (vars : List String) (file name : String)
    (args : List String) : Except IoError Image :=
  if file = "" || containsChar '/' file then ofPath fs here file name args
  else search fs here vars file name args

/-- A path with a slash that leads to an installed program. -/
theorem find_program {fs : FileSystem} {here place : Location} {file path program : String}
    (hslash : containsChar '/' file = true) (hpath : ofOctets file = path)
    (hlocate : fs.locate .target here path = .ok (.present place (.program program)))
    (vars : List String) (name : String) (args : List String) :
    find fs here vars file name args = .ok { program, name, args } := by
  have hne : file ≠ "" := by
    rintro rfl
    cases hslash
  rw [find, hslash, Bool.or_true, if_pos rfl, ofPath, if_neg hne, depthLimit, load, if_neg hne,
    hpath, hlocate]

/-- The most bytes that one text handed to a program may have, with the byte that ends it. -/
def textLimit : Nat := 131072

/-- The most bytes that all these texts may have together. -/
def textsLimit : Nat := 2097152

/-- Arguments and variables are more than can be handed to a program. -/
def isTooLong (texts : List String) : Bool :=
  texts.any (fun t => t.length + 1 > textLimit) ||
    texts.foldl (fun n t => n + t.length + 9) 0 > textsLimit

end Image

end Shell
