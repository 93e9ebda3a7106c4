import TablePipeline.Source.Format
import TablePipeline.Table

/-!
# Errors of sources

Why no table could be read from a source.

## Main definitions

* `LoadError`, `LoadError.message` — the causes and their texts
-/

namespace TablePipeline

/-- Why no table could be read from a source. -/
inductive LoadError
  /-- There is no such file. -/
  | cannotOpen (path : String)
  /-- The bytes cannot be read, or are no text. -/
  | cannotRead
  | badCsv
  | badJson
  /-- A line of a file with one object on each line. -/
  | badJsonLine (line : Nat)
  | badFormat (e : FormatError)
  /-- The format is known, but not read by this library. -/
  | disabled (format : Format)
  /-- The format cannot be read from front to back. -/
  | notSequential (format : Format)
  | schema (e : SchemaError)
  deriving DecidableEq

/-- The text of a load error. -/
def LoadError.message : LoadError → String
  | cannotOpen path => "cannot open " ++ path
  | cannotRead => "read error"
  | badCsv => "CSV error"
  | badJson => "cannot parse JSON (expected an array of objects)"
  | badJsonLine line => "invalid JSON on line " ++ countText line
  | badFormat e => e.message
  | disabled format => format.name ++ " support is not enabled in this build"
  | notSequential format => format.name ++ " cannot be read from standard input"
  | schema e => e.message

end TablePipeline
