/-!
# Paths

A path is a text whose parts are separated by slashes.  Empty parts and parts that are a single
point stand for nothing; two points stand for the parent.

## Main definitions

* `pathParts` — the parts that stand for something
* `fileName?` — the last part, if it is a name
* `pathExtension?` — what follows the last point of the file name
-/

namespace TablePipeline

/-- The parts between slashes. -/
def splitSlashes : List Char → List (List Char)
  | [] => [[]]
  | c :: rest =>
    if c = '/' then [] :: splitSlashes rest
    else
      match splitSlashes rest with
      | [] => [[c]]
      | part :: parts => (c :: part) :: parts

/-- The parts of a path that stand for something. -/
def pathParts (path : List Char) : List (List Char) :=
  (splitSlashes path).filter fun part => part ≠ [] ∧ part ≠ ['.']

/-- The part that stands for the parent. -/
def parentPart : List Char := ['.', '.']

/-- The last part of a path, if it is a name. -/
def fileName? (path : List Char) : Option (List Char) :=
  (pathParts path).getLast?.filter (· ≠ parentPart)

/-- What follows the last point of a name; a point at its very beginning does not count. -/
def nameExtension? (name : List Char) : Option (List Char) :=
  let ext := name.reverse.takeWhile (· ≠ '.')
  if ext.length + 1 < name.length then some ext.reverse else none

/-- The extension of the file name of a path. -/
def pathExtension? (path : List Char) : Option (List Char) :=
  (fileName? path).bind nameExtension?

end TablePipeline
