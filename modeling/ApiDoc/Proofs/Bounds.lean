/-
# What validation rules say, and the bounds they leave

A rule limits values on one side, with or without its bound; a rule for an exact length
limits them on both.  The bounds of a schema come from these limits one after another, and
on each side the last one counts.

For lengths that is all: a strict limit becomes the inclusive bound next to it, so the last
limit says the same as its bound.  For numbers a strict limit sets a mark beside the bound,
and no later limit takes that mark away.  So a later limit that includes its bound is
written as one that does not, and where that bound satisfies all rules the document refuses
a value that the rules allow.
-/

import ApiDoc.Generate.Bounds
import ApiDoc.Proofs.FirstOccurrence
import Mathlib

namespace ApiDoc

/-! ## Limits -/

/-- The two sides on which values can be limited. -/
inductive Side where
  | lower
  | upper
  deriving DecidableEq

namespace Side

/-- Whether a value stands on the allowed side of a bound. -/
def Allows {α : Type} [LE α] [LT α] (side : Side) (strict : Bool) (bound value : α) : Prop :=
  match side, strict with
  | lower, false => bound ≤ value
  | lower, true => bound < value
  | upper, false => value ≤ bound
  | upper, true => value < bound

/-- A strict bound allows all that an inclusive one allows but the bound itself. -/
theorem allows_true_iff {α : Type} [PartialOrder α] {side : Side} {bound value : α} :
    side.Allows true bound value ↔ side.Allows false bound value ∧ bound ≠ value := by
  cases side with
  | lower => exact lt_iff_le_and_ne
  | upper => exact lt_iff_le_and_ne.trans (and_congr_right fun _ => ne_comm)

/-- Integers compare as rational numbers do. -/
theorem allows_intCast_iff {side : Side} {strict : Bool} {bound value : Int} :
    side.Allows strict (bound : ℚ) (value : ℚ) ↔ side.Allows strict bound value := by
  cases side <;> cases strict <;> simp only [Allows, Int.cast_le, Int.cast_lt]

end Side

/-- A limit on one side.  A strict one excludes its bound. -/
structure Limit (α : Type) where
  side : Side
  strict : Bool
  bound : α
  deriving DecidableEq

namespace Limit

variable {α : Type} {limits : List (Limit α)} {l : Limit α} {side : Side} {key : String} {bound : α}

/-- Whether a value satisfies a limit. -/
def Holds [LE α] [LT α] (l : Limit α) (value : α) : Prop :=
  l.side.Allows l.strict l.bound value

/-- The limits that a rule stands for, by its key. -/
def ofRule (key : String) (bound : α) : List (Limit α) :=
  match key with
  | "min" | "gte" => [⟨.lower, false, bound⟩]
  | "gt" => [⟨.lower, true, bound⟩]
  | "max" | "lte" => [⟨.upper, false, bound⟩]
  | "lt" => [⟨.upper, true, bound⟩]
  | "len" => [⟨.lower, false, bound⟩, ⟨.upper, false, bound⟩]
  | _ => []

/-- The limits of a rule have its value as their bound, and only `gt` excludes a bound from
below. -/
theorem eq_of_mem_ofRule (listed : l ∈ ofRule key bound) :
    l.bound = bound ∧ (l.side = .lower → l.strict = true → key = "gt") := by
  unfold ofRule at listed
  split at listed
  case h_7 => rcases List.mem_pair.mp listed with rfl | rfl <;> simp
  case h_8 => cases listed
  all_goals
    obtain rfl := List.mem_singleton.mp listed
    simp

/-- The last limit on a side. -/
def lastOn (limits : List (Limit α)) (side : Side) : Option (Limit α) :=
  (limits.filter fun l => l.side == side).getLast?

theorem mem_of_lastOn (last : lastOn limits side = some l) : l ∈ limits ∧ l.side = side := by
  obtain ⟨listed, there⟩ := List.mem_filter.mp (List.mem_of_getLast? last)
  exact ⟨listed, beq_iff_eq.mp there⟩

end Limit

/-! ## Lengths -/

theorem Decimal.lt_of_nat64? {s : List Char} {n : Nat} (read : nat64? s = some n) :
    n < nat64Limit := by
  simpa using (Option.filter_eq_some_iff.mp read).2

namespace Limit

/-- The limits of a rule on a length: none if its value is not a number of 64 bits, and none
if every number above the value is too great for one. -/
def onLength (rule : String × String) : List (Limit Nat) :=
  match Decimal.nat64? rule.2.toList with
  | none => []
  | some n => if rule.1 = "gt" ∧ n + 1 = Decimal.nat64Limit then [] else ofRule rule.1 n

/-- The inclusive bound that says the same as a limit; no length is below 0. -/
def inclusive (l : Limit Nat) : Nat :=
  match l.side, l.strict with
  | .lower, true => l.bound + 1
  | .upper, true => l.bound - 1
  | _, false => l.bound

theorem allows_inclusive {l : Limit Nat} {n : Nat} (holds : l.Holds n) :
    l.side.Allows false l.inclusive n := by
  obtain ⟨side, strict, bound⟩ := l
  cases side <;> cases strict <;> simp only [Holds, Side.Allows, inclusive] at holds ⊢ <;> omega

/-- The inclusive bound of a limit on a length is a number of 64 bits. -/
theorem inclusive_lt_of_mem {rule : String × String} {l : Limit Nat} (listed : l ∈ onLength rule) :
    l.inclusive < Decimal.nat64Limit := by
  rw [onLength] at listed
  cases read : Decimal.nat64? rule.2.toList with
  | none =>
      rw [read] at listed
      cases listed
  | some n =>
      have small := Decimal.lt_of_nat64? read
      simp only [read] at listed
      by_cases overflows : rule.1 = "gt" ∧ n + 1 = Decimal.nat64Limit
      · rw [if_pos overflows] at listed
        cases listed
      · rw [if_neg overflows] at listed
        obtain ⟨same, strict⟩ := eq_of_mem_ofRule listed
        obtain ⟨side, isStrict, bound⟩ := l
        obtain rfl : bound = n := same
        cases side <;> cases isStrict <;> simp only [inclusive]
        case lower.true =>
          have room := not_and.mp overflows (strict rfl rfl)
          omega
        all_goals omega

end Limit

namespace SizeBounds

/-- The bound on a side. -/
def bound (b : SizeBounds) : Side → Option Nat
  | .lower => b.least
  | .upper => b.most

/-- Whether the bounds allow a length. -/
def Admits (b : SizeBounds) (n : Nat) : Prop :=
  ∀ side m, b.bound side = some m → side.Allows false m n

/-- Whether the bounds are numbers of 64 bits. -/
def Fits (b : SizeBounds) : Prop :=
  ∀ side m, b.bound side = some m → m < Decimal.nat64Limit

/-- The bounds that say the same as the last limit on each side. -/
def ofLimits (limits : List (Limit Nat)) : SizeBounds where
  least := (Limit.lastOn limits .lower).map Limit.inclusive
  most := (Limit.lastOn limits .upper).map Limit.inclusive

/-- Replace the bound on the side of a limit. -/
def impose (b : SizeBounds) (l : Limit Nat) : SizeBounds :=
  match l.side with
  | .lower => { b with least := some l.inclusive }
  | .upper => { b with most := some l.inclusive }

variable {b c : SizeBounds} {limits : List (Limit Nat)} {rules : List (String × String)}

theorem ext_bound (same : ∀ side, b.bound side = c.bound side) : b = c := by
  obtain ⟨least, most⟩ := b
  obtain ⟨least', most'⟩ := c
  exact congrArg₂ SizeBounds.mk (same .lower) (same .upper)

theorem bound_ofLimits (limits : List (Limit Nat)) (side : Side) :
    (ofLimits limits).bound side = (Limit.lastOn limits side).map Limit.inclusive := by
  cases side <;> rfl

theorem bound_impose (b : SizeBounds) (l : Limit Nat) (side : Side) :
    (b.impose l).bound side = if l.side == side then some l.inclusive else b.bound side := by
  rw [impose]
  cases l.side <;> cases side <;> rfl

/-- A rule replaces the bounds on the sides that it limits. -/
theorem apply_eq (b : SizeBounds) (rule : String × String) :
    b.apply rule = (Limit.onLength rule).foldl impose b := by
  obtain ⟨key, value⟩ := rule
  unfold apply Limit.onLength
  cases read : Decimal.nat64? value.toList with
  | none => rfl
  | some n =>
      have small := Decimal.lt_of_nat64? read
      dsimp only
      by_cases overflows : key = "gt" ∧ n + 1 = Decimal.nat64Limit
      · rw [if_pos overflows]
        obtain ⟨rfl, reached⟩ := overflows
        exact if_neg (by omega)
      · rw [if_neg overflows]
        split
        case h_3 =>
          have room := not_and.mp overflows rfl
          exact if_pos (by omega)
        case h_8 =>
          rw [Limit.ofRule]
          · rfl
          all_goals assumption
        all_goals rfl

/-- A run of rules leaves the bounds of the last limit on each side. -/
theorem foldl_apply (rules : List (String × String)) :
    rules.foldl apply {} = ofLimits (rules.flatMap Limit.onLength) := by
  have step : apply = fun b rule => (Limit.onLength rule).foldl impose b :=
    funext fun b => funext fun rule => apply_eq b rule
  rw [step, ← List.foldl_flatMap]
  refine ext_bound fun side => ?_
  -- On one side each limit writes the bound anew, so the last one there is what remains.
  rw [bound_ofLimits, lookup_foldl_of_lastWrite impose (fun b => b.bound side)
    (fun l => l.side == side) Limit.inclusive fun l _ b => bound_impose b l side]
  cases side <;> exact Option.or_none

/-- Bounds that say the same as limits allow what satisfies the limits. -/
theorem admits_ofLimits {n : Nat} (holds : ∀ l ∈ limits, l.Holds n) : (ofLimits limits).Admits n := by
  intro side m isBound
  rw [bound_ofLimits] at isBound
  obtain ⟨l, last, rfl⟩ := Option.map_eq_some_iff.mp isBound
  obtain ⟨listed, rfl⟩ := Limit.mem_of_lastOn last
  exact Limit.allows_inclusive (holds l listed)

/-- However many rules have been applied, no bound exceeds 64 bits. -/
theorem fits_foldl_apply (rules : List (String × String)) : (rules.foldl apply {}).Fits := by
  intro side m isBound
  rw [foldl_apply, bound_ofLimits] at isBound
  obtain ⟨l, last, rfl⟩ := Option.map_eq_some_iff.mp isBound
  obtain ⟨rule, -, listed⟩ := List.mem_flatMap.mp (Limit.mem_of_lastOn last).1
  exact Limit.inclusive_lt_of_mem listed

end SizeBounds

/-- The limits of all rules of a tag on a length. -/
def Tag.lengthLimits (t : Tag) : List (Limit Nat) :=
  t.rules.flatMap Limit.onLength

/-- The rules of a tag bound the length of a text or the number of elements of a list, and
change nothing else.  On each side the bound says the same as the last limit, it never
exceeds 64 bits on the way there, and every length that satisfies the rules stays allowed. -/
theorem Schema.constrain_sizes (s : Schema) (t : Tag) :
    (s.kind = some "string" → s.length = {} →
        s.constrain t = { s with length := .ofLimits t.lengthLimits }) ∧
      (s.kind = some "array" → s.count = {} →
        s.constrain t = { s with count := .ofLimits t.lengthLimits }) ∧
      (∀ earlier, earlier <+: t.rules → (earlier.foldl SizeBounds.apply {}).Fits) ∧
      ∀ n, (∀ l ∈ t.lengthLimits, l.Holds n) → (SizeBounds.ofLimits t.lengthLimits).Admits n := by
  have run : t.rules.foldl SizeBounds.apply {} = .ofLimits t.lengthLimits :=
    SizeBounds.foldl_apply t.rules
  refine ⟨?_, ?_, fun earlier _ => SizeBounds.fits_foldl_apply earlier,
    fun n => SizeBounds.admits_ofLimits⟩
  · intro isString unbounded
    rw [← run, ← unbounded]
    simp only [constrain, isString]
  · intro isArray unbounded
    rw [← run, ← unbounded]
    simp only [constrain, isArray]

/-- A `validate` tag with the given rules. -/
def Tag.validating (first : String) (others : List String) : Tag :=
  { key := validateKey, name := first, options := others }

/-- A text with a rule that no length can satisfy, one that has no effect since its value is
the greatest length, and two that count. -/
theorem Schema.constrain_sizes_text :
    ((Schema.primitive "string" none).constrain
        (.validating "min=2" ["gt=18446744073709551615", "lt=0", "len=x", "lte=7"])).length =
      { least := some 2, most := some 7 } ∧
    ∀ n, (∀ l ∈ (Tag.validating "min=2" ["gt=18446744073709551615", "lt=0", "len=x", "lte=7"]).lengthLimits,
      l.Holds n) → ({ least := some 2, most := some 7 } : SizeBounds).Admits n := by
  have limits : SizeBounds.ofLimits (Tag.validating "min=2"
      ["gt=18446744073709551615", "lt=0", "len=x", "lte=7"]).lengthLimits =
      { least := some 2, most := some 7 } := by decide +kernel
  obtain ⟨text, -, -, admits⟩ := constrain_sizes (.primitive "string" none) (.validating "min=2"
      ["gt=18446744073709551615", "lt=0", "len=x", "lte=7"])
  rw [limits] at text admits
  rw [text rfl rfl]
  exact ⟨rfl, admits⟩

/-! ## Values -/

/-- The rational number that a number of double precision stands for. -/
def Binary64.value (x : Binary64) : ℚ :=
  (if x.negative then -1 else 1) * x.significand * 2 ^ x.exponent

/-- The rational number that a number of a document stands for. -/
def Number.value : Number → ℚ
  | int n => n
  | real x => x.value

/-- The limits of a rule on a value, where values are integers of 64 bits. -/
def Limit.onValue (rule : String × String) : List (Limit Int) :=
  match Decimal.int64? rule.2.toList with
  | none => []
  | some n => if rule.1 = "len" then [] else ofRule rule.1 n

/-- A limit whose bound is written as excluded although the limit includes it: it is the last
one on its side, and another one there is strict. -/
def Limit.IsNarrowed (limits : List (Limit Int)) (l : Limit Int) : Prop :=
  lastOn limits l.side = some l ∧ l.strict = false ∧
    ∃ other ∈ limits, other.side = l.side ∧ other.strict = true

namespace NumericBounds

/-- The bound on a side. -/
def bound (b : NumericBounds) : Side → Option Number
  | .lower => b.minimum
  | .upper => b.maximum

/-- The mark beside the bound on a side, which makes the bound strict. -/
def exclusive (b : NumericBounds) : Side → Option Bool
  | .lower => b.exclusiveMinimum
  | .upper => b.exclusiveMaximum

/-- Whether the bounds allow a value. -/
def Admits (b : NumericBounds) (value : ℚ) : Prop :=
  ∀ side n, b.bound side = some n → side.Allows (b.exclusive side == some true) n.value value

/-- Replace the bound on the side of a limit, and set the mark there if it is strict. -/
def impose (b : NumericBounds) (l : Limit Int) : NumericBounds :=
  match l.side with
  | .lower => { b with
      minimum := some (.int l.bound)
      exclusiveMinimum := if l.strict then some true else b.exclusiveMinimum }
  | .upper => { b with
      maximum := some (.int l.bound)
      exclusiveMaximum := if l.strict then some true else b.exclusiveMaximum }

variable {limits : List (Limit Int)} {rules : List (String × String)} {side : Side}

theorem bound_impose (b : NumericBounds) (l : Limit Int) (side : Side) :
    (b.impose l).bound side =
      if l.side == side then some (.int l.bound) else b.bound side := by
  rw [impose]
  cases l.side <;> cases side <;> rfl

theorem exclusive_impose (b : NumericBounds) (l : Limit Int) (side : Side) :
    (b.impose l).exclusive side =
      if l.side == side && l.strict then some true else b.exclusive side := by
  rw [impose]
  cases l.side <;> cases side <;> rfl

/-- A rule whose value is an integer replaces the bound on the side that it limits. -/
theorem apply_eq (b : NumericBounds) {rule : String × String}
    (whole : (Decimal.int64? rule.2.toList).isSome) :
    b.apply rule = (Limit.onValue rule).foldl impose b := by
  obtain ⟨key, value⟩ := rule
  obtain ⟨n, read⟩ := Option.isSome_iff_exists.mp whole
  replace read : Decimal.int64? value.toList = some n := read
  -- A text is read as an integer before it is read as any other number.
  have number : Number.read? value.toList = some (.int n) := by
    rw [Number.read?, read]
  unfold apply Limit.onValue
  dsimp only
  rw [number, read]
  dsimp only
  by_cases isLength : key = "len"
  · subst isLength
    rfl
  · rw [if_neg isLength]
    split
    case h_7 =>
      rw [Limit.ofRule]
      · rfl
      all_goals assumption
    all_goals rfl

/-- A run of rules imposes their limits one after another. -/
theorem foldl_apply (whole : ∀ rule ∈ rules, (Decimal.int64? rule.2.toList).isSome) :
    rules.foldl apply {} = (rules.flatMap Limit.onValue).foldl impose {} := by
  rw [List.foldl_flatMap]
  exact List.foldl_ext _ _ _ fun b rule listed => apply_eq b (whole rule listed)

/-- The bound on a side is that of the last limit there. -/
theorem bound_foldl_impose (limits : List (Limit Int)) (side : Side) :
    (limits.foldl impose {}).bound side =
      (Limit.lastOn limits side).map fun l => .int l.bound := by
  rw [lookup_foldl_of_lastWrite impose (fun b => b.bound side) (fun l => l.side == side)
    (fun l => .int l.bound) fun l _ b => bound_impose b l side]
  cases side <;> exact Option.or_none

/-- The bound on a side is marked as strict when any limit there is. -/
theorem exclusive_foldl_impose (limits : List (Limit Int)) (side : Side) :
    (limits.foldl impose {}).exclusive side = some true ↔
      ∃ l ∈ limits, l.side = side ∧ l.strict = true := by
  have fresh : ({} : NumericBounds).exclusive side = none := by
    cases side <;> rfl
  -- The mark is only ever written, never taken away: any strict limit decides it.
  rw [lookup_foldl_of_lastWrite impose (fun b => b.exclusive side)
    (fun l => l.side == side && l.strict) (fun _ => true)
    fun l _ b => exclusive_impose b l side, fresh, Option.or_none]
  cases last : (limits.filter fun l => l.side == side && l.strict).getLast? with
  | none => simpa using last
  | some l => simpa using ⟨l, by simpa using List.mem_of_getLast? last⟩

/-- A value that satisfies all limits is refused exactly when it is the bound of a narrowed
one. -/
theorem admits_foldl_impose_iff {value : Int} (holds : ∀ l ∈ limits, l.Holds value) :
    (limits.foldl impose {}).Admits value ↔
      ∀ l, Limit.IsNarrowed limits l → l.bound ≠ value := by
  apply Iff.intro
  · rintro admits l ⟨last, -, marked⟩
    have isBound : (limits.foldl impose {}).bound l.side = some (.int l.bound) := by
      rw [bound_foldl_impose, last, Option.map_some]
    have allows := admits l.side _ isBound
    rw [(exclusive_foldl_impose limits l.side).mpr marked] at allows
    exact (Side.allows_true_iff.mp (Side.allows_intCast_iff.mp allows)).2
  · intro apart side n isBound
    rw [bound_foldl_impose] at isBound
    obtain ⟨l, last, rfl⟩ := Option.map_eq_some_iff.mp isBound
    obtain ⟨listed, rfl⟩ := Limit.mem_of_lastOn last
    have within : l.side.Allows l.strict l.bound value := holds l listed
    refine Side.allows_intCast_iff.mpr ?_
    by_cases marked : (limits.foldl impose {}).exclusive l.side = some true
    · rw [marked]
      cases strict : l.strict with
      | true => rwa [strict] at within
      | false =>
          rw [strict] at within
          have narrowed : Limit.IsNarrowed limits l :=
            ⟨last, strict, (exclusive_foldl_impose limits l.side).mp marked⟩
          exact Side.allows_true_iff.mpr ⟨within, apart l narrowed⟩
    · rw [beq_eq_false_iff_ne.mpr marked]
      have loose : l.strict = false := by
        by_contra strict
        rw [Bool.not_eq_false] at strict
        exact marked ((exclusive_foldl_impose limits l.side).mpr ⟨l, listed, rfl, strict⟩)
      rwa [loose] at within

end NumericBounds

/-- The limits of all rules of a tag on a value. -/
def Tag.valueLimits (t : Tag) : List (Limit Int) :=
  t.rules.flatMap Limit.onValue

namespace Schema

variable {s : Schema} {t : Tag}

/-- The bounds of a number are those of the last limit on each side, and they are strict
where any limit is.  So of the values that satisfy all rules the document refuses those that
are the bound of a narrowed limit, and it refuses none exactly when every such bound breaks
another rule. -/
theorem constrain_admits_iff (isNumber : s.kind = some "integer" ∨ s.kind = some "number")
    (unbounded : s.bounds = {}) (whole : ∀ rule ∈ t.rules, (Decimal.int64? rule.2.toList).isSome) :
    (∀ side, (s.constrain t).bounds.bound side =
        (Limit.lastOn t.valueLimits side).map fun l => .int l.bound) ∧
      (∀ side, (s.constrain t).bounds.exclusive side = some true ↔
        ∃ l ∈ t.valueLimits, l.side = side ∧ l.strict = true) ∧
      (∀ value : Int, (∀ l ∈ t.valueLimits, l.Holds value) →
        ((s.constrain t).bounds.Admits value ↔
          ∀ l, Limit.IsNarrowed t.valueLimits l → l.bound ≠ value)) ∧
      ((∀ value : Int, (∀ l ∈ t.valueLimits, l.Holds value) →
          (s.constrain t).bounds.Admits value) ↔
        ∀ l, Limit.IsNarrowed t.valueLimits l →
          ∃ other ∈ t.valueLimits, ¬ other.Holds l.bound) := by
  have run : (s.constrain t).bounds = t.valueLimits.foldl NumericBounds.impose {} := by
    rw [Tag.valueLimits, ← NumericBounds.foldl_apply whole, ← unbounded]
    rcases isNumber with kind | kind <;> simp only [constrain, kind]
  have refused : ∀ value : Int, (∀ l ∈ t.valueLimits, l.Holds value) →
      ((s.constrain t).bounds.Admits value ↔
        ∀ l, Limit.IsNarrowed t.valueLimits l → l.bound ≠ value) := by
    intro value holds
    rw [run]
    exact NumericBounds.admits_foldl_impose_iff holds
  refine ⟨fun side => ?_, fun side => ?_, refused, ?_⟩
  · rw [run, NumericBounds.bound_foldl_impose]
  · rw [run, NumericBounds.exclusive_foldl_impose]
  · apply Iff.intro
    · intro admits l narrowed
      by_contra none
      push Not at none
      exact (refused l.bound none).mp (admits l.bound none) l narrowed rfl
    · intro breaks value holds
      rw [refused value holds]
      rintro l narrowed rfl
      obtain ⟨other, listed, fails⟩ := breaks l narrowed
      exact fails (holds other listed)

/-- On either side a strict limit stands before one that includes its bound.  Both bounds
break the strict limit there, so every value that satisfies the rules is allowed. -/
theorem constrain_admits_between :
    (Tag.validating "gt=5" ["min=5", "lt=9", "max=12"]).valueLimits =
        [⟨.lower, true, 5⟩, ⟨.lower, false, 5⟩, ⟨.upper, true, 9⟩, ⟨.upper, false, 12⟩] ∧
      ∀ value : Int,
        (∀ l ∈ (Tag.validating "gt=5" ["min=5", "lt=9", "max=12"]).valueLimits, l.Holds value) →
        ((Schema.primitive "integer" (some "int64")).constrain
          (.validating "gt=5" ["min=5", "lt=9", "max=12"])).bounds.Admits value := by
  have limits : (Tag.validating "gt=5" ["min=5", "lt=9", "max=12"]).valueLimits =
      [⟨.lower, true, 5⟩, ⟨.lower, false, 5⟩, ⟨.upper, true, 9⟩, ⟨.upper, false, 12⟩] := by
    decide +kernel
  have whole : ∀ rule ∈ (Tag.validating "gt=5" ["min=5", "lt=9", "max=12"]).rules,
      (Decimal.int64? rule.2.toList).isSome := by decide +kernel
  obtain ⟨-, -, -, admits⟩ :=
    constrain_admits_iff (s := .primitive "integer" (some "int64")) (Or.inl rfl) rfl whole
  refine ⟨limits, admits.mpr fun l narrowed => ?_⟩
  rw [limits] at narrowed ⊢
  obtain ⟨last, loose, -⟩ := narrowed
  have listed := (Limit.mem_of_lastOn last).1
  simp only [List.mem_cons, List.not_mem_nil, or_false] at listed
  rcases listed with rfl | rfl | rfl | rfl
  · cases loose
  · exact ⟨⟨.lower, true, 5⟩, by simp, lt_irrefl (5 : Int)⟩
  · cases loose
  · exact ⟨⟨.upper, true, 9⟩, by simp, by simp [Limit.Holds, Side.Allows]⟩

/-- The value 5 satisfies both rules, and the document refuses it: the strict limit leaves its
mark beside the bound of the other one. -/
theorem constrain_refuses_bound :
    (∀ rule ∈ (Tag.validating "gt=3" ["min=5"]).rules, (Decimal.int64? rule.2.toList).isSome) ∧
      (∀ l ∈ (Tag.validating "gt=3" ["min=5"]).valueLimits, l.Holds 5) ∧
      ¬ ((Schema.primitive "integer" (some "int64")).constrain
        (.validating "gt=3" ["min=5"])).bounds.Admits 5 := by
  have limits : (Tag.validating "gt=3" ["min=5"]).valueLimits =
      [⟨.lower, true, 3⟩, ⟨.lower, false, 5⟩] := by decide +kernel
  have bounds : ((Schema.primitive "integer" (some "int64")).constrain
      (.validating "gt=3" ["min=5"])).bounds =
      { minimum := some (.int 5), exclusiveMinimum := some true } := by decide +kernel
  refine ⟨by decide +kernel, ?_, ?_⟩
  · rw [limits]
    simp [Limit.Holds, Side.Allows]
  · rw [bounds]
    intro admits
    have above : (5 : ℚ) < 5 := admits .lower (.int 5) rfl
    exact lt_irrefl _ above

end Schema

end ApiDoc
