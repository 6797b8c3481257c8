import StoreTrial.Failure.Basic

/-! # Paths

Texts that name places in a file tree. Two paths are the same when their
components are: separators may repeat, and a dot counts only at the front of a
path that does not start at the root.
-/

namespace StoreTrial

/-- The texts between the separators. The first one continues a text read so far,
which is held in reverse. -/
def Path.cut : (piece rest : List Char) → List (List Char)
  | piece, [] => [piece.reverse]
  | piece, c :: rest =>
      if c == '/' then piece.reverse :: Path.cut [] rest else Path.cut (c :: piece) rest

/-- A path taken apart: whether it starts at the root, its non-empty pieces in
order, whether a separator ends it, and why no system call can take it. -/
structure Path where
  rooted : Bool
  pieces : List String
  trailing : Bool
  fault : Option DiskFault
  deriving DecidableEq

namespace Path

/-- Paths of this many bytes or more are refused. -/
def lengthLimit : Nat := 4096

/-- Why a text cannot be handed to the system as a path. -/
def faultOf (text : String) : Option DiskFault :=
  if text.toList.any fun c => c.toNat == 0 then some .nulInPath
  else if lengthLimit ≤ text.utf8ByteSize then some .nameTooLong
  else none

/-- Takes a path apart. -/
def ofText (text : String) : Path where
  rooted := text.toList.head? == some '/'
  pieces := ((cut [] text.toList).map String.ofList).filter fun piece => piece != ""
  trailing := text.toList.getLast? == some '/'
  fault := faultOf text

/-- The pieces that tell paths apart: a dot is dropped, except at the front of a
path that does not start at the root. -/
def components (path : Path) : List String :=
  match path.pieces with
  | [] => []
  | first :: rest =>
      let others := rest.filter fun piece => piece != "."
      if first == "." && path.rooted then others else first :: others

/-- Whether two texts are the same path. -/
def same (left right : String) : Bool :=
  let left := ofText left
  let right := ofText right
  left.rooted == right.rooted && left.components == right.components

/-- The path of the given components. -/
def ofComponents (rooted : Bool) (components : List String) : Path where
  rooted := rooted
  pieces := components
  trailing := false
  fault := faultOf ((if rooted then "/" else "") ++ "/".intercalate components)

/-- The paths that lead to a path, the nearest first, ending with no component. -/
def parents (path : Path) : List Path :=
  let components := path.components
  (List.range components.length).reverse.map fun length =>
    ofComponents path.rooted (components.take length)

/-- The path of the directory that holds a path. -/
def parent? (path : Path) : Option Path := path.parents.head?

/-- The name of a path in its directory. -/
def fileName? (path : Path) : Option String :=
  match path.components.getLast? with
  | some "." | some ".." => none
  | name => name

/-- The path of a name in a directory. -/
def child (directory : Path) (name : String) : Path :=
  ofComponents directory.rooted (directory.components ++ [name])

/-- Whether the path has no component and does not start at the root. -/
def isEmpty (path : Path) : Bool := !path.rooted && path.pieces.isEmpty

/-- The text of a path continued by a name. A name that starts at the root stands
for itself. -/
def join (base name : String) : String :=
  if name.toList.head? == some '/' || base == "" then name
  else if base.toList.getLast? == some '/' then base ++ name
  else base ++ "/" ++ name

end Path

end StoreTrial
