import StoreTrial.Disk.Path
import StoreTrial.Lookup

/-! # File trees

A tree of directories and files, as the entries at its places, and the walk that
takes a path to a place.
-/

namespace StoreTrial

/-- A place in the tree: the names that lead to it, the innermost first. -/
abbrev Place := List String

/-- What a place holds. -/
inductive Entry where
  | directory
  | file (content : Bytes)
  deriving DecidableEq

/-- A file tree. The root is a directory and has no entry of its own. -/
structure Disk where
  entries : List (Place × Entry)
  deriving DecidableEq

namespace Disk

/-- The tree in which nothing but the root exists. -/
def empty : Disk := ⟨[]⟩

/-- What a place holds, if anything. -/
def entryAt (disk : Disk) : Place → Option Entry
  | [] => some .directory
  | place => disk.entries.lookup place

/-- The tree without the entry at a place. -/
def erase (disk : Disk) (place : Place) : Disk :=
  ⟨disk.entries.filter fun item => item.1 != place⟩

/-- The tree with an entry at a place instead of any other. -/
def set (disk : Disk) (place : Place) (entry : Entry) : Disk :=
  ⟨(place, entry) :: (disk.erase place).entries⟩

/-- After an entry is set its place holds it, and every other place what it held
before. -/
theorem entryAt_set (disk : Disk) {place : Place} (inner : place ≠ []) (entry : Entry)
    (sought : Place) :
    (disk.set place entry).entryAt sought =
      if sought = place then some entry else disk.entryAt sought := by
  cases sought with
  | nil => simp [entryAt, Ne.symm inner]
  | cons name rest =>
      simp only [entryAt, set, erase, Lookup.lookup_entry_cons, Lookup.lookup_filter_ne]
      split <;> rfl

/-- After an erasure the place holds nothing, and every other place what it held
before. -/
theorem entryAt_erase (disk : Disk) {place : Place} (inner : place ≠ []) (sought : Place) :
    (disk.erase place).entryAt sought = if sought = place then none else disk.entryAt sought := by
  cases sought with
  | nil => simp [entryAt, Ne.symm inner]
  | cons name rest => simp only [entryAt, erase, Lookup.lookup_filter_ne]

/-- Names of more bytes than this are refused. -/
def nameLimit : Nat := 255

/-- The place that one piece of a path leads to from a directory, whether or not
anything is there. -/
def childPlace (place : Place) (piece : String) : Except DiskFault Place :=
  if piece == "." then .ok place
  else if piece == ".." then .ok place.tail
  else if nameLimit < piece.utf8ByteSize then .error .nameTooLong
  else .ok (piece :: place)

/-- Accepts a place that holds a directory. -/
def requireDirectory (disk : Disk) (place : Place) : Except DiskFault Unit :=
  match disk.entryAt place with
  | none => .error .noEntry
  | some (.file _) => .error .notDirectory
  | some .directory => .ok ()

/-- The place that the pieces of a path lead to. Each piece starts from a
directory, and the last may lead to nothing. -/
def walk (disk : Disk) : Place → List String → Except DiskFault Place
  | place, [] => .ok place
  | place, piece :: rest => do
      disk.requireDirectory place
      let next ← childPlace place piece
      disk.walk next rest

/-- The place a path names, whether or not anything is there. -/
def spot (disk : Disk) (path : Path) : Except DiskFault Place :=
  match path.fault with
  | some fault => .error fault
  | none => if path.isEmpty then .error .noEntry else disk.walk [] path.pieces

/-- The place a path names and what is there. A separator at the end asks for a
directory. -/
def find (disk : Disk) (path : Path) : Except DiskFault (Place × Entry) := do
  let place ← disk.spot path
  match disk.entryAt place with
  | none => .error .noEntry
  | some (.file content) =>
      if path.trailing then .error .notDirectory else .ok (place, .file content)
  | some .directory => .ok (place, .directory)

/-- Whether a path leads to anything. -/
def exists? (disk : Disk) (path : Path) : Bool :=
  match disk.find path with
  | .ok _ => true
  | .error _ => false

/-- Whether a path leads to a directory. -/
def isDirectory (disk : Disk) (path : Path) : Bool :=
  match disk.find path with
  | .ok (_, .directory) => true
  | _ => false

end Disk

end StoreTrial
