/-
# Bounds from validation rules

A `validate` tag holds rules such as `min=1` or `lt=10`.  On numbers they bound
the value; on strings and lists they bound the length.  Lengths are inclusive on
both sides and fit into 64 bits: a strict rule is turned into the neighbouring
inclusive one, and `gt` with the greatest length has no effect.
-/

import ApiDoc.Document.Schema
import ApiDoc.Tag.Basic

namespace ApiDoc

open ApiDoc.Text

/-- The rules of a tag in order: its name and its options, where each has the
form `key=value`, without the blanks around key and value. -/
def Tag.rules (t : Tag) : List (String × String) :=
  (t.name :: t.options).filterMap fun rule =>
    (cutString '=' rule).map fun parts => (trimmed parts.1, trimmed parts.2)

/-- Apply a rule to the bounds on a number.  A rule whose value is not a number
has no effect, and neither has an unknown one. -/
def NumericBounds.apply (b : NumericBounds) (rule : String × String) : NumericBounds :=
  match Number.read? rule.2.toList with
  | none => b
  | some n =>
    match rule.1 with
    | "min" | "gte" => { b with minimum := some n }
    | "gt" => { b with minimum := some n, exclusiveMinimum := some true }
    | "max" | "lte" => { b with maximum := some n }
    | "lt" => { b with maximum := some n, exclusiveMaximum := some true }
    | _ => b

/-- Apply a rule to the bounds on a length.  A rule whose value is not a length
has no effect, and neither has an unknown one. -/
def SizeBounds.apply (b : SizeBounds) (rule : String × String) : SizeBounds :=
  match Decimal.nat64? rule.2.toList with
  | none => b
  | some n =>
    match rule.1 with
    | "min" | "gte" => { b with least := some n }
    | "gt" => if n + 1 < Decimal.nat64Limit then { b with least := some (n + 1) } else b
    | "max" | "lte" => { b with most := some n }
    | "lt" => { b with most := some (n - 1) }
    | "len" => { b with least := some n, most := some n }
    | _ => b

/-- Apply the rules of a tag to the bounds that suit the kind of a schema:
numbers are bounded by value, strings and arrays by length, and other kinds not
at all. -/
def Schema.constrain (s : Schema) (t : Tag) : Schema :=
  match s.kind with
  | some "integer" | some "number" =>
    { s with bounds := t.rules.foldl NumericBounds.apply s.bounds }
  | some "string" => { s with length := t.rules.foldl SizeBounds.apply s.length }
  | some "array" => { s with count := t.rules.foldl SizeBounds.apply s.count }
  | _ => s

end ApiDoc
