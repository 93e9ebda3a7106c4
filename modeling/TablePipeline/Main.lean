import TablePipeline.Command.Arguments

/-!
# The command line

Reads what a request needs and prints what its run comes to.  Errors go to the error stream, and the
exit code tells whether there was one.

## Main definitions

* `obtain` — performs the reading that a request needs
* `main` — the program
-/

namespace TablePipeline

/-- The bytes of a file, if it can be opened and read. -/
def openPath (path : String) : IO Opening := do
  match ← (IO.FS.Handle.mk path .read).toBaseIO with
  | .error _ => pure .missing
  | .ok handle =>
    match ← handle.readBinToEnd.toBaseIO with
    | .error _ => pure .unreadable
    | .ok bytes => pure (.contents bytes.toList)

/-- The bytes of a stream up to its end. -/
partial def readStream (stream : IO.FS.Stream) (before : ByteArray) : IO ByteArray := do
  let bytes ← stream.read 65536
  if bytes.isEmpty then pure before else readStream stream (before ++ bytes)

/-- Runs a request with the inputs it needs. -/
def answer (r : Request) : IO (Except CommandError RunOutcome) := do
  match r.input with
  | .nothing => pure (r.run .standard [] fun _ => .missing)
  | .file path =>
    let opening ← openPath path
    pure (r.run .standard [] fun _ => opening)
  | .standard =>
    let stream ← IO.getStdin
    if ← stream.isTty then pure (.error .interactiveInput)
    else
      let bytes ← readStream stream ByteArray.empty
      pure (r.run .standard bytes.toList fun _ => .missing)

/-- Prints a text, and ends its last line. -/
def printText (text : String) : IO Unit :=
  if text.isEmpty ∨ text.endsWith "\n" then IO.print text else IO.println text

end TablePipeline

open TablePipeline in
/-- The program: one request, its answer on the standard output. -/
def main (words : List String) : IO UInt32 := do
  match Request.ofArguments words with
  | .error e =>
    IO.eprintln e.message
    pure 2
  | .ok r =>
    match ← answer r with
    | .error e =>
      IO.eprintln e.message
      pure 1
    | .ok .syntaxValid =>
      IO.println "Syntax is valid"
      pure 0
    | .ok (.rendered text) =>
      printText text
      pure 0
    | .ok (.brokenOff message) =>
      IO.eprintln message
      pure 101
