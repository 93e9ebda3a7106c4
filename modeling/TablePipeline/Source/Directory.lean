import TablePipeline.Source.Load
import TablePipeline.Source.Path

/-!
# Directories

A directory given by its files, for runs that do not touch a disk.  A path is followed from part to
part: a name leads to a file or to a directory that holds one, two points lead back.  What lies
above the directory, or at an absolute path, is not known; it can be opened and holds no files.

## Main definitions

* `Directory` — files by the parts of their paths
* `Place` — where a path leads
* `Directory.opening` — what comes of opening a path
-/

namespace TablePipeline

/-- The files of a directory and of those inside it, by the parts of their paths. -/
structure Directory where
  files : List (List (List Char) × List UInt8)

/-- Where a path leads. -/
inductive Place
  /-- A directory above the known one. -/
  | outside
  /-- A directory, by the parts that lead to it, the last one first. -/
  | directory (back : List (List Char))
  | file (bytes : List UInt8)
  | nowhere

namespace Directory

/-- The directory with files at the given paths. -/
def ofFiles (files : List (String × List UInt8)) : Directory :=
  ⟨files.map fun (path, bytes) => (pathParts path.toList, bytes)⟩

/-- The file or directory at the given parts. -/
def find (d : Directory) (parts : List (List Char)) : Place :=
  match d.files.find? (·.1 == parts) with
  | some (_, bytes) => .file bytes
  | none =>
    if d.files.any fun file => parts.isPrefixOf file.1 then .directory parts.reverse else .nowhere

/-- Where one more part of a path leads. -/
def step (d : Directory) (place : Place) (part : List Char) : Place :=
  match place with
  | .outside => if part = parentPart then .outside else .nowhere
  | .directory back =>
    if part = parentPart then
      match back with
      | [] => .outside
      | _ :: back => .directory back
    else d.find (part :: back).reverse
  | .file _ => .nowhere
  | .nowhere => .nowhere

/-- Whether a path can only be that of a directory: it ends in a slash or in a single point. -/
def wantsDirectory (path : List Char) : Bool :=
  match (splitSlashes path).getLast? with
  | some part => part == [] || part == ['.']
  | none => true

/-- What comes of opening a path. -/
def opening (d : Directory) (path : String) : Opening :=
  let path := path.toList
  let start := if path.head? = some '/' then Place.outside else .directory []
  match (pathParts path).foldl d.step start with
  | .file bytes => if wantsDirectory path then .missing else .contents bytes
  | .nowhere => .missing
  | _ => if path.isEmpty then .missing else .unreadable

end Directory

end TablePipeline
