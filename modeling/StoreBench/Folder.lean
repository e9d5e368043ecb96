import StoreBench.Failure

/-!
Contract: files by path, as seen from one folder.

A path leads through folders to a file.  Besides the folder itself there are those around it and,
counted from the root, the standard ones.

Owns:
- `Folder`, the files that are there;
- `target`, what a path leads to, whatever the files;
- the reading and writing of a file by its path.

Does not own: the making of folders; there are no others.
-/

namespace StoreBench

/-- A folder that a path passes through. -/
inductive Place
  /-- The folder itself for 0, and else the one so many levels around it. -/
  | around (levels : Nat)
  /-- The folder that names lead to from the root. -/
  | rooted (names : List String)
  deriving DecidableEq, Repr

namespace Place

/-- The folder around a folder; around the root is the root. -/
def parent : Place → Place
  | .around levels => .around (levels + 1)
  | .rooted names => .rooted names.dropLast

/-- The folders in the root. -/
def standard : List String :=
  ["bin", "boot", "dev", "etc", "home", "lib", "media", "mnt", "opt", "proc", "root", "run",
    "sbin", "srv", "sys", "tmp", "usr", "var"]

/-- The folder of a name inside a folder. -/
def child? (place : Place) (name : String) : Option Place :=
  if place = .rooted [] ∧ name ∈ standard then some (.rooted [name]) else none

end Place

/-- Where a file is or would be. -/
structure Spot where
  place : Place
  name : String
  deriving DecidableEq, Repr

/-- A file that is there from the start, with nothing in it whatever is written to it. -/
def Spot.nullDevice : Spot := ⟨.rooted ["dev"], "null"⟩

/-- A folder with what is around it: the spots of the files with their bytes. -/
structure Folder where
  files : List (Spot × List UInt8)
  deriving DecidableEq, Repr, Inhabited

namespace Folder

def empty : Folder := ⟨[]⟩

/-- What a path leads to. -/
inductive Target
  | folder
  /-- The spot of a file; `closed` tells whether a slash follows its name. -/
  | file (spot : Spot) (closed : Bool)
  /-- A place inside the entry at a spot, which would have to be a folder. -/
  | inside (spot : Spot)
  deriving DecidableEq, Repr

/-- Follows the parts of a path from a folder.  Only the last may be the name of a file. -/
def follow (place : Place) : List String → Target
  | [] => .folder
  | part :: rest =>
    if part = "" ∨ part = "." then follow place rest
    else if part = ".." then follow place.parent rest
    else
      match place.child? part with
      | some inner => follow inner rest
      | none =>
        if rest.all (· == "") then .file ⟨place, part⟩ (!rest.isEmpty) else .inside ⟨place, part⟩

/-- What a path that is not empty leads to.  One that starts with a slash starts at the root. -/
def target (path : String) : Target :=
  let parts := path.splitOn "/"
  follow (if parts.head? == some "" then .rooted [] else .around 0) parts

def file? (folder : Folder) (spot : Spot) : Option (List UInt8) :=
  match folder.files.find? (·.1 == spot) with
  | some (_, bytes) => some bytes
  | none => if spot = .nullDevice then some [] else none

/-- The fault of a path by itself: a character that ends names, no character at all, or too many
bytes, one more of which marks the end. -/
def pathFault? (path : String) : Option FileFault :=
  if path.toList.contains '\x00' then some .nulInName
  else if path.isEmpty then some .notFound
  else if 4096 < path.utf8ByteSize + 1 then some .nameTooLong
  else none

/-- Names have at most 255 bytes. -/
def isTooLong (name : String) : Bool := 255 < name.utf8ByteSize

/-- Why there is no file of a name. -/
def missing (name : String) : FileFault := if isTooLong name then .nameTooLong else .notFound

/-- Why there is no folder at a spot. -/
def notFolder (folder : Folder) (spot : Spot) : FileFault :=
  if (folder.file? spot).isSome then .notDirectory else missing spot.name

/-- The bytes of the file that a path leads to. -/
def read (folder : Folder) (path : String) : Except FileFault (List UInt8) :=
  match pathFault? path with
  | some fault => .error fault
  | none =>
    match target path with
    | .folder => .error .isDirectory
    | .inside spot => .error (folder.notFolder spot)
    | .file spot closed =>
      match folder.file? spot with
      | some bytes => if closed then .error .notDirectory else .ok bytes
      | none => .error (missing spot.name)

/-- The folder after bytes were written to the file that a path leads to; a file that is not there
comes to be. -/
def write (folder : Folder) (path : String) (bytes : List UInt8) : Except FileFault Folder :=
  match pathFault? path with
  | some fault => .error fault
  | none =>
    match target path with
    | .folder => .error .isDirectory
    | .inside spot => .error (folder.notFolder spot)
    | .file spot closed =>
      if closed then .error .isDirectory
      else if isTooLong spot.name then .error .nameTooLong
      else if spot = .nullDevice then .ok folder
      else .ok ⟨(spot, bytes) :: folder.files.filter (·.1 != spot)⟩

/-- A file that keeps what is written to it is read as it was last written. -/
theorem read_of_write {folder later : Folder} {path : String} {bytes : List UInt8}
    (keeps : target path ≠ .file .nullDevice false)
    (written : folder.write path bytes = .ok later) : later.read path = .ok bytes := by
  unfold write at written
  unfold read
  cases faulted : pathFault? path with
  | some fault => simp [faulted] at written
  | none =>
    cases goal : target path with
    | folder => simp [faulted, goal] at written
    | inside spot => simp [faulted, goal] at written
    | file spot closed =>
      simp only [faulted, goal] at written
      split at written
      · contradiction
      · next isOpen =>
        split at written
        · contradiction
        · split at written
          · next discards => simp_all
          · cases written
            simp [file?, isOpen]

end Folder

end StoreBench
