import Shell.Errno
import Shell.Text.Join

/-!
# The file system

A finite map from locations to entries. A location is the list of names that leads from the root
to an entry without passing a symbolic link; the root itself is always a directory.
-/

namespace Shell

/-- The names on the way from the root. -/
abbrev Location := List String

/-- Devices that can be opened like files. -/
inductive Device
  /-- Takes everything and gives nothing. -/
  | null
  /-- Takes nothing: every write that is not empty fails. It gives zeros. -/
  | full
  /-- Takes everything and gives zeros. -/
  | zero
  /-- The stream that is open under this number in the process that opens it. The files know of no
  such stream: whoever opens the device reads and writes the stream in their place. -/
  | descriptor (number : Nat)
  deriving DecidableEq, Repr

/-- What stands at a location. -/
inductive Entry
  | file (mode : Nat) (content : Bytes)
  /-- An installed program, by name. It counts as a regular file that everyone may run. -/
  | program (name : String)
  | directory
  | link (target : String)
  | device (device : Device)
  deriving DecidableEq, Repr

namespace Entry

/-- A regular file with one of the execute bits set. -/
def isExecutable : Entry → Bool
  | .file mode _ => mode &&& 0o111 != 0
  | .program _ => true
  | _ => false

/-- A regular file. -/
def isFile : Entry → Bool
  | .file _ _ | .program _ => true
  | _ => false

/-- The permission bits. -/
def mode : Entry → Nat
  | .file mode _ => mode
  | .program _ => 0o755
  | .directory => 0o755
  | .link _ => 0o777
  | .device _ => 0o666

/-- The owner may read it. -/
def mayRead (e : Entry) : Bool := e.mode &&& 0o400 != 0

/-- The owner may write it. -/
def mayWrite (e : Entry) : Bool := e.mode &&& 0o200 != 0

/-- The owner may run it, or, if it is a directory, go through it. -/
def mayRun (e : Entry) : Bool := e.mode &&& 0o100 != 0

end Entry

structure FileSystem where
  entries : List (Location × Entry) := []
  deriving DecidableEq, Repr

namespace FileSystem

/-- The entry at a location. -/
def get? (fs : FileSystem) (place : Location) : Option Entry :=
  if place = [] then some .directory else fs.entries.lookup place

/-- Put an entry in the first place that the location has in the list, or at its end. -/
def put (place : Location) (e : Entry) : List (Location × Entry) → List (Location × Entry)
  | [] => [(place, e)]
  | (l, d) :: rest => if l = place then (place, e) :: rest else (l, d) :: put place e rest

/-- The file system with entry `e` at a location. -/
def insert (fs : FileSystem) (place : Location) (e : Entry) : FileSystem :=
  ⟨put place e fs.entries⟩

/-- The file system without the entry at a location and all below it. -/
def erase (fs : FileSystem) (place : Location) : FileSystem :=
  ⟨fs.entries.filter fun e => !place.isPrefixOf e.1⟩

/-- The names in the directory at a location. -/
def children (fs : FileSystem) (place : Location) : List String :=
  fs.entries.filterMap fun e => if e.1.dropLast = place then e.1.getLast? else none

theorem lookup_put (place l : Location) (e : Entry) (es : List (Location × Entry)) :
    (put place e es).lookup l = if l = place then some e else es.lookup l := by
  induction es with
  | nil =>
    by_cases h : l = place
    · simp [put, h]
    · simp [put, List.lookup_cons, beq_false_of_ne h, h]
  | cons x rest ih =>
    obtain ⟨k, d⟩ := x
    by_cases hk : k = place <;> by_cases hl : l = k
    · simp [put, hk, hl]
    · simp [put, List.lookup_cons, ← hk, beq_false_of_ne hl, hl]
    · simp [put, hk, hl]
    · simp [put, List.lookup_cons, hk, beq_false_of_ne hl, ih]

theorem put_put (place : Location) (e e' : Entry) (es : List (Location × Entry)) :
    put place e' (put place e es) = put place e' es := by
  induction es with
  | nil => simp [put]
  | cons x rest ih =>
    obtain ⟨k, d⟩ := x
    by_cases hk : k = place <;> simp [put, hk, ih]

@[simp] theorem insert_insert (fs : FileSystem) (place : Location) (e e' : Entry) :
    (fs.insert place e).insert place e' = fs.insert place e' := by
  simp [insert, put_put]

@[simp] theorem get?_root (fs : FileSystem) : fs.get? [] = some .directory := rfl

@[simp] theorem get?_insert_self (fs : FileSystem) (place : Location) (e : Entry)
    (h : place ≠ []) : (fs.insert place e).get? place = some e := by
  simp [get?, insert, h, lookup_put]

@[simp] theorem get?_insert_of_ne (fs : FileSystem) {place l : Location} (e : Entry)
    (h : l ≠ place) : (fs.insert place e).get? l = fs.get? l := by
  simp [get?, insert, h, lookup_put]

end FileSystem

end Shell
