import TablePipeline.Pattern.CharSet
import TablePipeline.Pattern.Scripts
import TablePipeline.Pattern.PropertyTables
import TablePipeline.Text.CaseTables
import TablePipeline.Text.Printable

/-!
# Named sets of characters

A pattern can name a general category, a script or another property of characters.  Names are
compared without regard to case, spaces, hyphens and underscores, and may begin with `is`.

## Main definitions

* `plainName` — a name as names are compared
* `categoryNamed?`, `scriptNamed?`, `propertyNamed?` — the sets by name
* `setNamed?`, `setWithValue?` — the set that a name, or a name with a value, stands for
-/

namespace TablePipeline

open CharSet (ranges union unions difference complement)

/-- A name in small letters, without spaces, hyphens and underscores and without a leading `is`. -/
def plainName (name : List Char) : String :=
  let strip (cs : List Char) : List Char :=
    (cs.filter fun c => c.toNat < 128 && c != ' ' && c != '-' && c != '_').map Char.toLower
  match name with
  | i :: s :: rest =>
    if i.toLower = 'i' ∧ s.toLower = 's' then
      let rest := strip rest
      if rest = ['c'] then "isc" else String.ofList rest
    else String.ofList (strip name)
  | _ => String.ofList (strip name)

/-- Letters of all kinds. -/
def letterSet : CharSet :=
  unions
    (([categoryLu, categoryLl, categoryLt, categoryLm, categoryLo] : List CodeRanges).map ranges)

/-- The general categories and their groups, with their names. -/
def categoryNames : List (List String × List CodeRanges) := [
  (["lu", "uppercaseletter"], [categoryLu]),
  (["ll", "lowercaseletter"], [categoryLl]),
  (["lt", "titlecaseletter"], [categoryLt]),
  (["lm", "modifierletter"], [categoryLm]),
  (["lo", "otherletter"], [categoryLo]),
  (["mn", "nonspacingmark"], [categoryMn]),
  (["mc", "spacingmark"], [categoryMc]),
  (["me", "enclosingmark"], [categoryMe]),
  (["nd", "decimalnumber", "digit"], [categoryNd]),
  (["nl", "letternumber"], [categoryNl]),
  (["no", "othernumber"], [categoryNo]),
  (["pc", "connectorpunctuation"], [categoryPc]),
  (["pd", "dashpunctuation"], [categoryPd]),
  (["ps", "openpunctuation"], [categoryPs]),
  (["pe", "closepunctuation"], [categoryPe]),
  (["pi", "initialpunctuation"], [categoryPi]),
  (["pf", "finalpunctuation"], [categoryPf]),
  (["po", "otherpunctuation"], [categoryPo]),
  (["sm", "mathsymbol"], [categorySm]),
  (["sc", "currencysymbol"], [categorySc]),
  (["sk", "modifiersymbol"], [categorySk]),
  (["so", "othersymbol"], [categorySo]),
  (["zs", "spaceseparator"], [categoryZs]),
  (["zl", "lineseparator"], [categoryZl]),
  (["zp", "paragraphseparator"], [categoryZp]),
  (["cc", "control", "cntrl"], [categoryCc]),
  (["cf", "format"], [categoryCf]),
  (["cs", "surrogate"], []),
  (["co", "privateuse"], [categoryCo]),
  (["cn", "unassigned"], [categoryCn]),
  (["l", "letter"], [categoryLu, categoryLl, categoryLt, categoryLm, categoryLo]),
  (["lc", "casedletter"], [categoryLu, categoryLl, categoryLt]),
  (["m", "mark", "combiningmark"], [categoryMn, categoryMc, categoryMe]),
  (["n", "number"], [categoryNd, categoryNl, categoryNo]),
  (["p", "punctuation", "punct"], [categoryPc, categoryPd, categoryPs, categoryPe, categoryPi,
    categoryPf, categoryPo]),
  (["s", "symbol"], [categorySm, categorySc, categorySk, categorySo]),
  (["z", "separator"], [categoryZs, categoryZl, categoryZp]),
  (["c", "other"], [categoryCc, categoryCf, categoryCo, categoryCn]),
  (["any"], [[(0, 0x10FFFF)]]),
  (["ascii"], [[(0, 0x7F)]])]

/-- The set of a general category. -/
def categoryNamed? (name : String) : Option CharSet :=
  if name = "assigned" then some (complement (ranges categoryCn))
  else (categoryNames.find? (·.1.contains name)).map fun entry => unions (entry.2.map ranges)

/-- The script of that name. -/
def scriptNamed? (name : String) : Option Script :=
  scripts.find? (·.names.contains name)

/-- The characters of a script. -/
def Script.set (s : Script) : CharSet :=
  .ranges s.ranges

/-- The characters that a script uses, those that it shares with other scripts included. -/
def Script.extendedSet (s : Script) : CharSet :=
  .union (.difference (.ranges s.ranges) (.ranges s.ceded)) (.ranges s.shared)

/-- The characters with which an identifier begins. -/
def idStart : CharSet :=
  difference (unions [letterSet, ranges categoryNl, ranges otherIdStart]) (ranges notIdStart)

/-- The characters with which an identifier continues. -/
def idContinue : CharSet :=
  unions [idStart, ranges categoryMn, ranges categoryMc, ranges categoryNd, ranges categoryPc,
    ranges otherIdContinue]

/-- Properties that are put together from tables, with their names. -/
def composedProperties : List (List String × CharSet) := [
  (["alpha", "alphabetic"], ranges alphabeticRanges),
  (["wspace", "whitespace", "space"], ranges blankRanges),
  (["cased"], ranges casedRanges),
  (["ci", "caseignorable"], ranges caseIgnorableRanges),
  (["grext", "graphemeextend"], ranges extendRanges),
  (["grbase", "graphemebase"],
    complement (unions [ranges categoryCc, ranges categoryCf, ranges categoryCo,
      ranges categoryCn, ranges categoryZl, ranges categoryZp, ranges extendRanges])),
  (["upper", "uppercase"], union (ranges categoryLu) (ranges otherUppercase)),
  (["lower", "lowercase"], union (ranges categoryLl) (ranges otherLowercase)),
  (["ids", "idstart"], idStart),
  (["idc", "idcontinue"], idContinue),
  (["xids", "xidstart"], difference idStart (ranges notXidStart)),
  (["xidc", "xidcontinue"], difference idContinue (ranges notXidContinue))]

/-- The set of a property that is neither a category nor a script. -/
def propertyNamed? (name : String) : Option CharSet :=
  match plainProperties.find? (·.1.contains name) with
  | some (_, rs) => some (ranges rs)
  | none => (composedProperties.find? (·.1.contains name)).map (·.2)

/-- The set that a single name stands for: a property, a category or a script. -/
def setNamed? (name : List Char) : Option CharSet :=
  let plain := plainName name
  (propertyNamed? plain)
    |>.or (categoryNamed? plain)
    |>.or ((scriptNamed? plain).map Script.set)

/-- The set that a property with a value stands for. -/
def setWithValue? (name value : List Char) : Option CharSet :=
  let value := plainName value
  match plainName name with
  | "gc" | "generalcategory" => categoryNamed? value
  | "sc" | "script" => (scriptNamed? value).map Script.set
  | "scx" | "scriptextensions" => (scriptNamed? value).map Script.extendedSet
  | _ => none

end TablePipeline
