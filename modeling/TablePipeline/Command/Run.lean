import TablePipeline.Pipeline.Run
import TablePipeline.Query.Parser
import TablePipeline.Report.Rendering
import TablePipeline.Source.Load

/-!
# The command

A run parses a query, loads its source, runs its operations and renders the result.  When only the
syntax is to be checked it stops behind the first step.  The source `-` is the standard input, which
has no name that could tell its format.

## Main definitions

* `Request` — what is asked for
* `CommandError`, `CommandError.message` — why there is no answer
* `Input`, `Request.input` — what a run needs to read
* `Request.run` — the outcome of a run, given what it reads
-/

namespace TablePipeline

/-- What is asked for. -/
structure Request where
  query : String
  /-- The format of the source, where it is not the one of its extension. -/
  format : Option Format
  /-- Whether only the syntax is to be checked. -/
  checkOnly : Bool
  rendering : Rendering

/-- What a run comes to. -/
inductive RunOutcome
  | syntaxValid
  | rendered (text : String)
  /-- The program is ended on the way, with a message. -/
  | brokenOff (message : String)
  deriving DecidableEq

/-- Why a run comes to nothing. -/
inductive CommandError
  | parse (e : ParseError)
  | load (e : LoadError)
  | stage (e : StageError)
  /-- The standard input was named without its format. -/
  | inputFormat
  /-- The standard input is a terminal. -/
  | interactiveInput
  deriving DecidableEq

/-- The text of the error of a run. -/
def CommandError.message : CommandError → String
  | parse e => "parse error: " ++ e.message
  | load e => "load error: " ++ e.message
  | stage e => "error: " ++ e.message
  | inputFormat => "load error: reading from standard input requires --format"
  | interactiveInput =>
    "load error: standard input is a terminal; pipe data in or name a file"

/-- The source that stands for the standard input. -/
def inputSource : String := "-"

/-- The table of a source, the standard input being given as its bytes and files by what comes of
opening them. -/
def loadSource (input : List UInt8) (openFile : String → Opening) (format : Option Format)
    (source : String) : Except CommandError Table :=
  if source = inputSource then
    match format with
    | none => .error .inputFormat
    | some f => (loadBytes f input).mapError .load
  else (loadFile openFile format source).mapError .load

namespace Request

/-- The table that a run is to render, if it is to render one. -/
def result (r : Request) (method : SortMethod) (input : List UInt8)
    (openFile : String → Opening) : Except CommandError (Option Table) := do
  let q ← (Query.parse r.query).mapError .parse
  if r.checkOnly then pure none
  else
    let source ← loadSource input openFile r.format q.source
    let result ← (q.run method source).mapError .stage
    pure (some result)

/-- The outcome of a run. -/
def run (r : Request) (method : SortMethod) (input : List UInt8) (openFile : String → Opening) :
    Except CommandError RunOutcome :=
  match r.result method input openFile with
  | .error (.stage .sortGivenUp) => .ok (.brokenOff StageError.sortGivenUp.message)
  | .error e => .error e
  | .ok none => .ok .syntaxValid
  | .ok (some t) =>
    match t.render? r.rendering with
    | some text => .ok (.rendered text)
    | none => .ok (.brokenOff "Formatting argument out of range")

/-- What a run needs to read. -/
inductive Input
  | nothing
  | standard
  | file (path : String)
  deriving DecidableEq

/-- What the run of a request needs to read, so that nothing else is opened. -/
def input (r : Request) : Input :=
  match Query.parse r.query with
  | .error _ => .nothing
  | .ok q =>
    if r.checkOnly then .nothing
    else if q.source = inputSource then (if r.format.isSome then .standard else .nothing)
    else
      match chooseFormat r.format q.source with
      | .error _ => .nothing
      | .ok _ => .file q.source

end Request

end TablePipeline
