import TablePipeline.Source.Csv
import TablePipeline.Source.Records

/-!
# Loading sources

The table of a source is read from its bytes, by its format.  Where the bytes come from a file, the
file may be missing, or it may be there and not give any bytes, as a directory does; both are told
apart from what the bytes hold.

## Main definitions

* `loadBytes` — the table of bytes in a format
* `Opening` — what comes of opening a file
* `chooseFormat`, `loadFile` — the format and the table of a file
-/

namespace TablePipeline

/-- The table of bytes in a format.  Parquet needs access to any place of a file. -/
def loadBytes (format : Format) (bytes : List UInt8) : Except LoadError Table :=
  match format with
  | .csv => readCsv bytes
  | .json => readJson bytes
  | .jsonLines => readJsonLines bytes
  | .avro => .error (.disabled .avro)
  | .parquet => .error (.notSequential .parquet)

/-- What comes of opening a file. -/
inductive Opening
  | missing
  /-- It was opened, but gives no bytes. -/
  | unreadable
  | contents (bytes : List UInt8)

/-- The error of a format when the bytes cannot be read. -/
def Format.readFault : Format → LoadError
  | .csv => .badCsv
  | .json => .badJson
  | .jsonLines => .cannotRead
  | .avro => .disabled .avro
  | .parquet => .disabled .parquet

/-- The format of a file: the given one, or else that of its extension. -/
def chooseFormat (format : Option Format) (path : String) : Except LoadError Format :=
  match format with
  | some f => .ok f
  | none => (Format.ofPath path).mapError .badFormat

/-- The table of a file.  The format is chosen before the file is opened. -/
def loadFile (openFile : String → Opening) (format : Option Format) (path : String) :
    Except LoadError Table := do
  let format ← chooseFormat format path
  match openFile path with
  | .missing => .error (.cannotOpen path)
  | .unreadable => .error format.readFault
  | .contents bytes =>
    if format = .parquet then .error (.disabled .parquet) else loadBytes format bytes

end TablePipeline
