import TablePipeline.Value.Text

/-!
# Orders on values

Numbers are compared by value, two integers exactly and any other two numbers as doubles; values
that are not both numbers are compared by their texts, code point by code point.  A sort puts nulls
last in both directions.

## Main definitions

* `compareFloats` — doubles, where a comparison with NaN counts as equal
* `compareTexts` — texts by code points
* `compareNumbers` — two numbers
* `Value.compare`, `Value.sortCompare` — the order of non-null values, and that of a sort
-/

namespace TablePipeline

/-- The order of two doubles; NaN counts as equal to everything. -/
def compareFloats (x y : Float) : Ordering :=
  if x < y then .lt else if y < x then .gt else .eq

/-- The order of two texts by their code points. -/
def compareTexts (s t : String) : Ordering :=
  compare s.toList t.toList

namespace Value

/-- The order of two numbers: exact for two integers, by double otherwise.  Values that are no
numbers count as equal. -/
def compareNumbers : Value → Value → Ordering
  | integer m, integer n => Ord.compare m n
  | a, b =>
    match a.toFloat?, b.toFloat? with
    | some x, some y => compareFloats x y
    | _, _ => .eq

/-- The order of two non-null values: by number when both are numbers, by text otherwise. -/
def compare : Value → Value → Ordering
  | integer m, integer n => Ord.compare m n
  | a, b =>
    match a.toFloat?, b.toFloat? with
    | some x, some y => compareFloats x y
    | _, _ => compareTexts a.text b.text

/-- The order of a sort: nulls are last in both directions. -/
def sortCompare (descending : Bool) (a b : Value) : Ordering :=
  match a.isNull, b.isNull with
  | true, true => .eq
  | true, false => .gt
  | false, true => .lt
  | false, false => if descending then (compare a b).swap else compare a b

end Value

end TablePipeline
