import TablePipeline.Number.Real
import TablePipeline.Text.Blank
import TablePipeline.Text.Case
import TablePipeline.Value

/-!
# Cells from bare text

Formats without types give every cell as text.  White space at the ends does not count; an empty
text and the word `null` are null, a number is an integer or else a double, `true` and `false` are
truth values and all else is a string.  The words are read in any ASCII letter case.

## Main definitions

* `inferValue` — the value of a bare text
-/

namespace TablePipeline

/-- The value of a bare text without white space at its ends. -/
def inferTrimmed (cs : List Char) : Value :=
  let word := String.ofList (asciiLower cs)
  if cs.isEmpty ∨ word = "null" then .null
  else
    match readInteger? cs with
    | some n => .integer n
    | none =>
      match readFloat? cs with
      | some x => .float x
      | none =>
        if word = "true" then .boolean true
        else if word = "false" then .boolean false
        else .string (String.ofList cs)

/-- The value of a bare text. -/
def inferValue (s : String) : Value :=
  inferTrimmed (trimBlanks s.toList)

end TablePipeline
