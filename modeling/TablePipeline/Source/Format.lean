import TablePipeline.Source.Path
import TablePipeline.Text.Case
import TablePipeline.Text.Quoted

/-!
# Formats of sources

The format of a source is named, or told by the extension of its path.  Names are compared without
regard to ASCII case, extensions without regard to case at all.

## Main definitions

* `Format`, `Format.name` — the formats
* `Format.ofWord?` — the format that a word in small letters stands for
* `Format.ofName`, `Format.ofPath` — the format of a name and of a path
-/

namespace TablePipeline

/-- The formats of sources. -/
inductive Format
  | csv
  | json
  | jsonLines
  | avro
  | parquet
  deriving DecidableEq

/-- The name of a format. -/
def Format.name : Format → String
  | csv => "csv"
  | json => "json"
  | jsonLines => "jsonl"
  | avro => "avro"
  | parquet => "parquet"

/-- Why no format could be told. -/
inductive FormatError
  | unsupported (word : String)
  | missingExtension (path : String)
  deriving DecidableEq

/-- The text of a format error. -/
def FormatError.message : FormatError → String
  | unsupported word =>
    "unsupported file format " ++ quoted word ++ " (supported: csv, json, jsonl, avro, parquet)"
  | missingExtension path => path ++ " has no file extension; use --format"

namespace Format

/-- The format that a word in small letters stands for. -/
def ofWord? : String → Option Format
  | "csv" => some .csv
  | "json" => some .json
  | "jsonl" => some .jsonLines
  | "ndjson" => some .jsonLines
  | "avro" => some .avro
  | "parquet" => some .parquet
  | _ => none

/-- The format of a given name. -/
def ofName (s : String) : Except FormatError Format :=
  match ofWord? (String.ofList (asciiLower s.toList)) with
  | some f => .ok f
  | none => .error (.unsupported s)

/-- The format that the extension of a path tells. -/
def ofPath (path : String) : Except FormatError Format :=
  match pathExtension? path.toList with
  | none => .error (.missingExtension path)
  | some ext =>
    let word := String.ofList (lowerCase ext)
    match ofWord? word with
    | some f => .ok f
    | none => .error (.unsupported ("." ++ word))

/-- A format is found under its own name. -/
theorem ofWord?_name (f : Format) : ofWord? f.name = some f := by
  cases f <;> rfl

end Format

end TablePipeline
