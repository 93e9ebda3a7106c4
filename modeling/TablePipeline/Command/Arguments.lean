import TablePipeline.Command.Run

/-!
# Arguments

The request that the words of a command line make.  There is one query; options may stand before or
behind it.

## Main definitions

* `ArgumentError`, `ArgumentError.message` — why the words make no request
* `Request.ofArguments` — the request of a command line
-/

namespace TablePipeline

/-- Why the words of a command line make no request. -/
inductive ArgumentError
  | missingQuery
  | secondQuery (word : String)
  | unknownOption (word : String)
  | missingFormat (option : String)
  | badFormat (e : FormatError)
  deriving DecidableEq

/-- The text of an argument error. -/
def ArgumentError.message : ArgumentError → String
  | missingQuery => "error: a query is required"
  | secondQuery word => "error: unexpected argument " ++ quoted word
  | unknownOption word => "error: unknown option " ++ quoted word
  | missingFormat option => "error: a format is required after " ++ option
  | badFormat e => (CommandError.load (.badFormat e)).message

/-- What the words read so far ask for. -/
structure Arguments where
  query : Option String
  format : Option Format
  json : Bool
  pretty : Bool
  checkOnly : Bool

namespace Arguments

/-- What is asked for before any word is read. -/
def start : Arguments := ⟨none, none, false, false, false⟩

/-- Takes the name of a format. -/
def withFormat (a : Arguments) (name : String) : Except ArgumentError Arguments :=
  ((Format.ofName name).mapError .badFormat).map fun f => { a with format := some f }

/-- Takes a word that is no option. -/
def withQuery (a : Arguments) (word : String) : Except ArgumentError Arguments :=
  match a.query with
  | none => .ok { a with query := some word }
  | some _ => .error (.secondQuery word)

/-- Whether the word asks for more to be told about the run: `-v`, `-vv` and so on. -/
def isVerbosity (word : String) : Bool :=
  match word.toList with
  | '-' :: letters => !letters.isEmpty && letters.all (· == 'v')
  | _ => false

/-- Takes words one after the other; behind `--` no word is an option. -/
def read (a : Arguments) : List String → Except ArgumentError Arguments
  | [] => .ok a
  | "--" :: words => words.foldlM withQuery a
  | "--json" :: rest => read { a with json := true } rest
  | "--pretty" :: rest => read { a with pretty := true } rest
  | "--check" :: rest => read { a with checkOnly := true } rest
  | "--verbose" :: rest => read a rest
  | [word] =>
    if word = "-f" ∨ word = "--format" then .error (.missingFormat word)
    else if isVerbosity word then .ok a
    else if word.startsWith "-" ∧ word ≠ inputSource then .error (.unknownOption word)
    else a.withQuery word
  | word :: next :: rest =>
    if word = "-f" ∨ word = "--format" then do
      let a ← a.withFormat next
      read a rest
    else if isVerbosity word then read a (next :: rest)
    else if word.startsWith "-" ∧ word ≠ inputSource then .error (.unknownOption word)
    else do
      let a ← a.withQuery word
      read a (next :: rest)

/-- How the result is to be shown. -/
def rendering (a : Arguments) : Rendering :=
  if a.pretty then .prettyJson else if a.json then .json else .aligned

end Arguments

/-- The request of a command line. -/
def Request.ofArguments (words : List String) : Except ArgumentError Request := do
  let a ← Arguments.start.read words
  match a.query with
  | none => .error .missingQuery
  | some query => pure ⟨query, a.format, a.checkOnly, a.rendering⟩

end TablePipeline
