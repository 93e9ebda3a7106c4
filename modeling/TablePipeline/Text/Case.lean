import TablePipeline.Text.CaseTables

/-!
# Capital and small letters

The full case mappings of a text.  A character may become several (`ß` becomes `SS`), and the one
mapping that looks at its surroundings is that of the capital sigma, which becomes a final sigma
where it ends a word.

## Main definitions

* `upperCase`, `lowerCase` — a text in capital or in small letters
* `asciiLower` — a text with only its ASCII capitals made small
-/

namespace TablePipeline

/-- The image of a character under the first entry that maps it, or the character itself. -/
def mapCase (runs : List CaseRun) (expansions : List (Nat × List Nat)) (c : Char) : List Char :=
  match expansions.find? (·.1 == c.toNat) with
  | some (_, codes) => codes.map Char.ofNat
  | none =>
    match runs.findSome? (·.map? c.toNat) with
    | some code => [Char.ofNat code]
    | none => [c]

/-- The text in capital letters. -/
def upperCase (cs : List Char) : List Char :=
  cs.flatMap (mapCase upperRuns upperExpansions)

/-- Whether, beyond characters that case ignores, the text goes on with a cased one. -/
def meetsCased (cs : List Char) : Bool :=
  match cs.dropWhile caseIgnorableRanges.contains with
  | [] => false
  | c :: _ => casedRanges.contains c

/-- The small letters of a text that follows the characters `before`, nearest first.  A capital
sigma ends a word when a cased character comes before it and none after it. -/
def lowerCaseAfter (before : List Char) : List Char → List Char
  | [] => []
  | c :: rest =>
    let image :=
      if c = 'Σ' then (if meetsCased before && !meetsCased rest then ['ς'] else ['σ'])
      else mapCase lowerRuns lowerExpansions c
    image ++ lowerCaseAfter (c :: before) rest

/-- The text in small letters. -/
def lowerCase (cs : List Char) : List Char :=
  lowerCaseAfter [] cs

/-- The text with its ASCII capitals made small and all else kept. -/
def asciiLower (cs : List Char) : List Char :=
  cs.map Char.toLower

end TablePipeline
