import Shell.FileSystem.Access

/-!
# Making and listing trees

Entries made by path, together with the directories above them, and the listing of all that stands
below a directory.
-/

namespace Shell

namespace FileSystem

/-- Make each of the named directories that is missing, one in the other, starting below `above`.
What is in the way and leads to no directory ends the making. -/
def makeDirectories (fs : FileSystem) (above : Location) : List String → FileSystem
  | [] => fs
  | name :: rest =>
    match fs.walk .target linkLimit above [name] with
    | .ok (.present l .directory) => fs.makeDirectories l rest
    | .ok (.vacant d n) => (fs.insert (d ++ [n]) .directory).makeDirectories (d ++ [n]) rest
    | _ => fs

/-- Make a directory and those above it. -/
def makeDirectory (fs : FileSystem) (text : String) : FileSystem :=
  fs.makeDirectories [] (Path.ofText text).names

/-- Make entry `e` at a path, and the directories above it. Nothing takes the place of a
directory. -/
def make (fs : FileSystem) (text : String) (e : Entry) : FileSystem :=
  let fs := fs.makeDirectories [] (Path.ofText text).names.dropLast
  match fs.locate .place [] text with
  | .ok (.present _ .directory) => fs
  | .ok (.present l _) => fs.insert l e
  | .ok (.vacant d name) => fs.insert (d ++ [name]) e
  | .error _ => fs

/-- Remove what stands at a path and all below it. -/
def remove (fs : FileSystem) (text : String) : FileSystem :=
  match fs.locate .itself [] text with
  | .ok (.present l _) => fs.erase l
  | _ => fs

/-- Everything below the directory `top`, with paths relative to it, sorted by path. -/
def tree (fs : FileSystem) (top : Location) : List (String × Entry) :=
  let below := fs.entries.filterMap fun e =>
    if top.isPrefixOf e.1 && e.1.length > top.length then
      some (joinText "/" (e.1.drop top.length), e.2)
    else none
  below.mergeSort fun a b => decide (a.1 ≤ b.1)

end FileSystem

end Shell
