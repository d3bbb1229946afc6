import Shell.FileSystem.Basic
import Shell.Path

/-!
# Following a path

The operating system follows a path segment by segment from a starting directory, through symbolic
links, and gives up after forty of them. The result is the entry at the end of the path, or the
place in an existing directory where an entry of that name could be made.
-/

namespace Shell

namespace FileSystem

/-- Where a path leads. -/
inductive Target
  | present (location : Location) (entry : Entry)
  | vacant (directory : Location) (name : String)
  deriving DecidableEq, Repr

/-- The most bytes that a name may have. -/
def nameLimit : Nat := 255

/-- The most bytes that a path may have. -/
def pathLimit : Nat := 4095

/-- The most symbolic links that are followed for one path. -/
def linkLimit : Nat := 40

/-- What a path is followed for. -/
inductive Lookup
  /-- What stands at the end of it, even if that is a link. -/
  | itself
  /-- What stands at the end of it and of the links there. -/
  | target
  /-- As `target`, or the place for a new file. -/
  | place
  deriving DecidableEq, Repr

/-- The segments of a path text as the operating system follows them. A slash at the end asks for
a directory and shows as an empty segment. -/
def steps (text : String) : List String :=
  let names := (splitText '/' text).filter fun s => s ≠ ""
  if !names.isEmpty && text.toList.getLast? == some '/' then names ++ [""] else names

/-- Follow `todo` from the directory `here`, through at most `links` symbolic links. No file can be
made where a directory is asked for. -/
def walk (fs : FileSystem) (lookup : Lookup) (links : Nat) (here : Location)
    (todo : List String) : Except Errno Target :=
  match todo with
  | [] => .ok (.present here .directory)
  | name :: rest =>
    if name = "" || name = "." then walk fs lookup links here rest
    else if name = ".." then walk fs lookup links here.dropLast rest
    else if lookup = .place && rest = [""] then .error .isDirectory
    else if name.utf8ByteSize > nameLimit then .error .nameTooLong
    else match fs.get? (here ++ [name]) with
      | none => if rest.isEmpty then .ok (.vacant here name) else .error .noEntry
      | some .directory => walk fs lookup links (here ++ [name]) rest
      | some (.link target) =>
        if rest.isEmpty && lookup = .itself then .ok (.present (here ++ [name]) (.link target))
        else match links with
          | 0 => .error .linkLoop
          | links + 1 =>
            if target = "" then .error .noEntry
            else walk fs lookup links (if Path.isAbsolute target then [] else here)
              (steps target ++ rest)
      | some e => if rest.isEmpty then .ok (.present (here ++ [name]) e) else .error .notDirectory
termination_by (links, todo.length)

/-- Follow the path `text` from the directory `here`. -/
def locate (fs : FileSystem) (lookup : Lookup) (here : Location) (text : String) :
    Except IoError Target :=
  if containsChar '\x00' text then .error .nulInPath
  else if text = "" then .error (.os .noEntry)
  else if text.utf8ByteSize > pathLimit then .error (.os .nameTooLong)
  else match walk fs lookup linkLimit (if Path.isAbsolute text then [] else here) (steps text) with
    | .ok t => .ok t
    | .error e => .error (.os e)

/-- The entry that the path `text` leads to from the directory `here`. -/
def stat? (fs : FileSystem) (here : Location) (text : String) : Option (Location × Entry) :=
  match fs.locate .target here text with
  | .ok (.present l e) => some (l, e)
  | _ => none

/-- The path leads to a directory. -/
def isDirectory (fs : FileSystem) (text : String) : Bool :=
  match fs.stat? [] text with
  | some (_, .directory) => true
  | _ => false

/-- The path leads to a regular file with one of the execute bits set. -/
def isExecutable (fs : FileSystem) (text : String) : Bool :=
  match fs.stat? [] text with
  | some (_, e) => e.isExecutable
  | none => false

/-- The names in the directory that the path leads to; none if it leads to something else. -/
def list (fs : FileSystem) (text : String) : List String :=
  match fs.stat? [] text with
  | some (l, .directory) => fs.children l
  | _ => []

end FileSystem

end Shell
