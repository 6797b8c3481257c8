import StoreTrial.Disk.Basic

/-! # Actions on file trees

Making and removing directories, and writing, reading, renaming and removing
files. An action that is refused says why; only the removal of a tree may have
done a part of its work by then.
-/

namespace StoreTrial.Disk

/-- Makes one directory in an existing one. -/
def makeDirectory (disk : Disk) (path : Path) : Except DiskFault Disk := do
  let place ← disk.spot path
  match disk.entryAt place with
  | some _ => .error .exists
  | none => .ok (disk.set place .directory)

/-- Makes the first of a chain of directories, each path followed by its parents.
A parent is made when its absence is what stands in the way. -/
def makeChain (disk : Disk) : List Path → Except DiskFault Unit × Disk
  | [] => (.error .noEntry, disk)
  | path :: parents =>
      if path.isEmpty then (.ok (), disk)
      else
        match disk.makeDirectory path with
        | .ok made => (.ok (), made)
        | .error .noEntry =>
            match disk.makeChain parents with
            | (.error fault, left) => (.error fault, left)
            | (.ok (), left) =>
                match left.makeDirectory path with
                | .ok made => (.ok (), made)
                | .error fault =>
                    (if left.isDirectory path then .ok () else .error fault, left)
        | .error fault => (if disk.isDirectory path then .ok () else .error fault, disk)

/-- Makes a directory and the missing ones above it. -/
def makeDirectories (disk : Disk) (path : Path) : Except DiskFault Unit × Disk :=
  disk.makeChain (path :: path.parents)

/-- The content of a file. -/
def readFile (disk : Disk) (path : Path) : Except DiskFault Bytes := do
  match ← disk.find path with
  | (_, .directory) => .error .isDirectory
  | (_, .file content) => .ok content

/-- Makes a file with a content, or gives an existing file that content. -/
def writeFile (disk : Disk) (path : Path) (content : Bytes) : Except DiskFault Disk := do
  let place ← disk.spot path
  match disk.entryAt place with
  | some .directory => .error .isDirectory
  | some (.file _) =>
      if path.trailing then .error .notDirectory else .ok (disk.set place (.file content))
  | none => if path.trailing then .error .isDirectory else .ok (disk.set place (.file content))

/-- Makes an empty file where there is none. -/
def touchFile (disk : Disk) (path : Path) : Except DiskFault Disk := do
  let place ← disk.spot path
  match disk.entryAt place with
  | some .directory => .error .isDirectory
  | some (.file _) => if path.trailing then .error .notDirectory else .ok disk
  | none => if path.trailing then .error .isDirectory else .ok (disk.set place (.file []))

/-- Moves a file to another path in one step; a file already there is replaced. -/
def renameFile (disk : Disk) (source target : Path) : Except DiskFault Disk := do
  match ← disk.find source with
  | (_, .directory) => .error .isDirectory
  | (place, .file content) =>
      let destination ← disk.spot target
      match disk.entryAt destination with
      | some .directory => .error .isDirectory
      | _ => .ok ((disk.erase place).set destination (.file content))

/-- Removes a file. -/
def removeFile (disk : Disk) (path : Path) : Except DiskFault Disk := do
  match ← disk.find path with
  | (_, .directory) => .error .isDirectory
  | (place, .file _) => .ok (disk.erase place)

/-- The tree without what is below a place, and without the place itself when it
is not to stay. -/
def clear (disk : Disk) (place : Place) (stays : Bool) : Disk :=
  ⟨disk.entries.filter fun item =>
    !(place.isSuffixOf item.1) || (stays && item.1 == place)⟩

/-- Removes an empty directory by a path. A path that ends in a dot names a
directory that cannot be removed under that name. A path that leads nowhere, because
it went through what was removed before, asks for nothing more. -/
def removeEmptied (disk : Disk) (path : Path) : Except DiskFault Unit × Disk :=
  match disk.find path with
  | .error .noEntry => (.ok (), disk)
  | .error fault => (.error fault, disk)
  | .ok (place, _) =>
      if path.pieces.getLast? = some "." then (.error .invalid, disk)
      else (.ok (), disk.clear place false)

/-- Removes a directory and all below it: first what is below, then the directory
itself. -/
def removeTree (disk : Disk) (path : Path) : Except DiskFault Unit × Disk :=
  match disk.find path with
  | .error fault => (.error fault, disk)
  | .ok (_, .file _) => (.error .notDirectory, disk)
  | .ok (place, .directory) => (disk.clear place true).removeEmptied path

/-- The paths below a place, relative to it; a separator ends the path of a
directory. -/
def listing (disk : Disk) (place : Place) : List String :=
  disk.entries.filterMap fun (inner, entry) =>
    if place.isSuffixOf inner && inner != place then
      let names := (inner.take (inner.length - place.length)).reverse
      some ("/".intercalate names ++ if entry = .directory then "/" else "")
    else none

end StoreTrial.Disk
