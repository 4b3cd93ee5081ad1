/-
# Trimmed texts and texts between separators

Readers trim what they find and cut it at separators.  Both leave a text alone that
has nothing to lose: one without blanks at its ends, and one without separators.
What trimming returns is such a text, and blanks that are put around a text make no
difference to it.
-/

import ApiDoc.Text.Blank
import ApiDoc.Text.Pieces
import Mathlib.Data.List.DropRight

namespace ApiDoc.Text

/-! ## Trimming -/

/-- A text without blanks at its ends. -/
structure IsTrimmed (s : List Char) : Prop where
  front : ∀ c, s.head? = some c → isBlank c = false
  back : ∀ c, s.getLast? = some c → isBlank c = false

/-- A text made of blanks. -/
def IsBlankText (s : List Char) : Prop :=
  ∀ c ∈ s, isBlank c

instance (s : List Char) : Decidable (IsBlankText s) :=
  List.decidableBAll _ s

variable {s before after : List Char}

/-- Trimming the end is trimming the start of the text read backwards. -/
theorem dropEndWhile_eq_rdropWhile {α : Type _} (p : α → Bool) (s : List α) :
    dropEndWhile p s = s.rdropWhile p := by
  induction s with
  | nil => rfl
  | cons c rest ih =>
      rw [dropEndWhile, ih, List.rdropWhile, List.rdropWhile, List.reverse_cons,
        List.dropWhile_append]
      cases kept : rest.reverse.dropWhile p with
      | nil => cases stays : p c <;> simp [stays]
      | cons d more => cases whole : (d :: more).reverse <;> simp_all

/-- A text whose last character stays keeps all of its characters. -/
theorem dropEndWhile_eq_self {α : Type _} {p : α → Bool} {s : List α}
    (stays : ∀ c, s.getLast? = some c → p c = false) : dropEndWhile p s = s := by
  rw [dropEndWhile_eq_rdropWhile, List.rdropWhile_eq_self_iff]
  intro nonempty
  simp [stays _ (List.getLast?_eq_some_getLast nonempty)]

/-- Trimming leaves a text without blanks at its ends as it is. -/
theorem IsTrimmed.trimStart_eq (trimmed : IsTrimmed s) : trimStart s = s := by
  cases s with
  | nil => rfl
  | cons c rest => exact List.dropWhile_cons_of_neg (by simp [trimmed.front c rfl])

theorem IsTrimmed.trim_eq (trimmed : IsTrimmed s) : trim s = s := by
  rw [trim, trimmed.trimStart_eq, trimEnd]
  exact dropEndWhile_eq_self trimmed.back

/-- A text without blanks has none at its ends. -/
theorem IsTrimmed.of_solid (solid : ∀ c ∈ s, isBlank c = false) : IsTrimmed s :=
  ⟨fun c isFirst => solid c (List.mem_of_mem_head? isFirst),
    fun c isLast => solid c (List.mem_of_getLast? isLast)⟩

theorem eq_false_of_head?_dropWhile {α : Type _} {p : α → Bool} {s : List α} {c : α}
    (isFirst : (s.dropWhile p).head? = some c) : p c = false := by
  have stays := List.head?_dropWhile_not p s
  simpa only [isFirst] using stays

/-- What is trimmed has no blanks at its ends. -/
theorem isTrimmed_trim (s : List Char) : IsTrimmed (trim s) := by
  have shortened : trim s = (trimStart s).rdropWhile isBlank :=
    dropEndWhile_eq_rdropWhile isBlank (trimStart s)
  apply IsTrimmed.mk
  case front =>
    intro c isFirst
    have kept : trim s <+: trimStart s := shortened ▸ List.rdropWhile_prefix isBlank _
    obtain ⟨rest, whole⟩ := kept
    have first : (trimStart s).head? = some c := by
      rw [← whole, List.head?_append, isFirst, Option.some_or]
    exact eq_false_of_head?_dropWhile first
  case back =>
    intro c isLast
    rw [shortened, List.rdropWhile, List.getLast?_reverse] at isLast
    exact eq_false_of_head?_dropWhile isLast

/-- The texts without blanks at their ends are those that trimming leaves alone. -/
theorem isTrimmed_iff : IsTrimmed s ↔ trim s = s :=
  ⟨IsTrimmed.trim_eq, fun same => same ▸ isTrimmed_trim s⟩

instance (s : List Char) : Decidable (IsTrimmed s) :=
  decidable_of_iff _ isTrimmed_iff.symm

/-- Trimming only takes characters away. -/
theorem trim_subset (s : List Char) : trim s ⊆ s := by
  rw [trim, trimEnd, dropEndWhile_eq_rdropWhile]
  exact fun c kept => (List.dropWhile_suffix isBlank).subset
    ((List.rdropWhile_prefix isBlank _).subset kept)

/-- Blanks in front make no difference to a text that is trimmed. -/
theorem trimStart_append_of_blank (blank : IsBlankText before) (s : List Char) :
    trimStart (before ++ s) = trimStart s :=
  List.dropWhile_append_of_pos blank

theorem trimStart_eq_nil_of_blank (blank : IsBlankText s) : trimStart s = [] := by
  rw [trimStart, List.dropWhile_eq_nil_iff]
  exact blank

theorem trimEnd_append_of_blank (s : List Char) (blank : IsBlankText after) :
    trimEnd (s ++ after) = trimEnd s := by
  have blankReversed : ∀ c ∈ after.reverse, isBlank c = true :=
    fun c inAfter => blank c (List.mem_reverse.mp inAfter)
  rw [trimEnd, trimEnd, dropEndWhile_eq_rdropWhile, dropEndWhile_eq_rdropWhile, List.rdropWhile,
    List.reverse_append, List.dropWhile_append_of_pos blankReversed, List.rdropWhile]

/-- Trimming takes away exactly the blanks around a text that has none at its ends. -/
theorem trim_append_of_blank (blankBefore : IsBlankText before) (trimmed : IsTrimmed s)
    (blankAfter : IsBlankText after) : trim (before ++ s ++ after) = s := by
  rw [List.append_assoc, trim, trimStart_append_of_blank blankBefore]
  cases s with
  | nil =>
      rw [List.nil_append, trimStart_eq_nil_of_blank blankAfter]
      rfl
  | cons c rest =>
      have stays : trimStart (c :: rest ++ after) = c :: rest ++ after :=
        List.dropWhile_cons_of_neg (by simp [trimmed.front c rfl])
      rw [stays, trimEnd_append_of_blank _ blankAfter, trimEnd]
      exact dropEndWhile_eq_self trimmed.back

/-! ## Gaps -/

/-- A run of blanks between two parts of a text; it may be empty. -/
abbrev Gap := { s : List Char // IsBlankText s }

/-- A text is what trimming leaves of it, between two gaps. -/
theorem exists_gaps_trim (s : List Char) :
    ∃ before after : Gap, s = before.1 ++ trim s ++ after.1 := by
  have blankBefore : IsBlankText (s.takeWhile isBlank) := fun _ => List.mem_takeWhile_imp
  have blankAfter : IsBlankText ((trimStart s).rtakeWhile isBlank) :=
    fun _ => List.mem_rtakeWhile_imp
  refine ⟨⟨_, blankBefore⟩, ⟨_, blankAfter⟩, ?_⟩
  rw [trim, trimEnd, dropEndWhile_eq_rdropWhile, List.append_assoc,
    List.rdropWhile_append_rtakeWhile, trimStart, List.takeWhile_append_dropWhile]

theorem exists_gap_trimStart (s : List Char) : ∃ gap : Gap, s = gap.1 ++ trimStart s :=
  ⟨⟨s.takeWhile isBlank, fun _ => List.mem_takeWhile_imp⟩,
    List.takeWhile_append_dropWhile.symm⟩

/-- Trimming takes away a gap in front of a text that has no blanks at its ends. -/
theorem IsTrimmed.trimStart_gap_append (trimmed : IsTrimmed s) (gap : Gap) :
    trimStart (gap.1 ++ s) = s := by
  rw [trimStart_append_of_blank gap.2, trimmed.trimStart_eq]

/-- Text that does not start with a blank stays behind whatever has no blanks at its ends. -/
theorem IsTrimmed.trimStart_append (trimmed : IsTrimmed s) (nonempty : s ≠ []) (rest : List Char) :
    trimStart (s ++ rest) = s ++ rest := by
  obtain ⟨c, more, rfl⟩ := List.exists_cons_of_ne_nil nonempty
  exact List.dropWhile_cons_of_neg (by simp [trimmed.front c rfl])

/-- A gap ends where a text begins that does not start with a blank. -/
theorem gap_append_inj {t : List Char} (first : trimStart s = s) (second : trimStart t = t)
    {gap other : Gap} (same : gap.1 ++ s = other.1 ++ t) : gap = other ∧ s = t := by
  have rest : s = t := by
    rw [← first, ← trimStart_append_of_blank gap.2, same, trimStart_append_of_blank other.2, second]
  subst rest
  exact ⟨Subtype.ext (List.append_cancel_right same), rfl⟩

/-- The gaps around a text without blanks at its ends are where the blanks are. -/
theorem IsTrimmed.gaps_inj {t : List Char} (first : IsTrimmed s) (second : IsTrimmed t)
    (nonempty : s ≠ []) {before after before' after' : Gap}
    (same : before.1 ++ s ++ after.1 = before'.1 ++ t ++ after'.1) :
    before = before' ∧ s = t ∧ after = after' := by
  have inside : s = t := by
    rw [← trim_append_of_blank before.2 first after.2, same,
      trim_append_of_blank before'.2 second after'.2]
  subst inside
  rw [List.append_assoc, List.append_assoc] at same
  obtain ⟨sameBefore, rest⟩ := gap_append_inj (first.trimStart_append nonempty _)
    (first.trimStart_append nonempty _) same
  exact ⟨sameBefore, rfl, Subtype.ext (List.append_cancel_left rest)⟩

/-- A text has no blanks at its ends if it starts with another character and ends like one
that has none. -/
theorem IsTrimmed.of_suffix {c : Char} {rest : List Char} (trimmed : IsTrimmed s)
    (nonempty : s ≠ []) (solid : isBlank c = false) (suffix : s <:+ c :: rest) :
    IsTrimmed (c :: rest) := by
  obtain ⟨start, whole⟩ := suffix
  apply IsTrimmed.mk
  case front =>
    rintro _ ⟨⟩
    exact solid
  case back =>
    rw [← whole, List.getLast?_append_of_ne_nil start nonempty]
    exact trimmed.back

/-- What ends a text without blanks at its ends has none behind it. -/
theorem IsTrimmed.trimStart_of_suffix {rest : List Char} (trimmed : IsTrimmed s)
    (suffix : rest <:+ s) : IsTrimmed (trimStart rest) := by
  obtain ⟨start, whole⟩ := (List.dropWhile_suffix isBlank).trans suffix
  refine IsTrimmed.mk (fun c isFirst => eq_false_of_head?_dropWhile isFirst) fun c isLast => ?_
  refine trimmed.back c ?_
  rw [← whole, List.getLast?_append, show (rest.dropWhile isBlank).getLast? = some c from isLast,
    Option.some_or]

/-! ## Pieces -/

/-- A text without separators ends at the first separator behind it. -/
theorem cut_append_cons {sep : Char} (absent : sep ∉ s) (rest : List Char) :
    cut sep (s ++ sep :: rest) = some (s, rest) := by
  induction s with
  | nil => rw [List.nil_append, cut, if_pos rfl]
  | cons c more ih =>
      rw [List.mem_cons, not_or] at absent
      rw [List.cons_append, cut, if_neg (Ne.symm absent.1), ih absent.2]
      rfl

/-- A separator in front of a text ends an empty piece. -/
theorem splitOn_cons_self (sep : Char) (rest : List Char) :
    (sep :: rest).splitOn sep = [] :: rest.splitOn sep :=
  List.splitOn_append_cons_self_of_not_mem List.not_mem_nil rest

/-- A text without separators in front of another belongs to its first piece. -/
theorem splitOn_append_of_not_mem {sep : Char} (absent : sep ∉ s) {rest first : List Char}
    {others : List (List Char)} (split : rest.splitOn sep = first :: others) :
    (s ++ rest).splitOn sep = (s ++ first) :: others := by
  induction s with
  | nil => exact split
  | cons c more ih =>
      rw [List.mem_cons, not_or] at absent
      have apart : ¬ (c == sep) = true := by simpa using Ne.symm absent.1
      rw [List.cons_append, List.splitOn_cons_eq_if_modifyHead, if_neg apart, ih absent.2,
        List.modifyHead_cons, List.cons_append]

/-- The first piece goes up to the first separator. -/
theorem exists_splitOn_eq (sep : Char) (s : List Char) :
    ∃ others, s.splitOn sep = s.takeWhile (· != sep) :: others ∧
      (s.dropWhile (· != sep)).splitOn sep = [] :: others := by
  have absent : sep ∉ s.takeWhile (· != sep) := by
    intro inFirst
    have apart := List.mem_takeWhile_imp inFirst
    simp at apart
  have whole : s.takeWhile (· != sep) ++ s.dropWhile (· != sep) = s :=
    List.takeWhile_append_dropWhile
  obtain ⟨others, behind⟩ : ∃ others, (s.dropWhile (· != sep)).splitOn sep = [] :: others := by
    cases left : s.dropWhile (· != sep) with
    | nil => exact ⟨[], List.splitOn_nil sep⟩
    | cons c rest =>
        -- What is left starts with the separator.
        have stops := List.head?_dropWhile_not (· != sep) s
        obtain rfl : c = sep := by simpa [left] using stops
        exact ⟨rest.splitOn c, splitOn_cons_self c rest⟩
  have front := splitOn_append_of_not_mem absent behind
  rw [whole, List.append_nil] at front
  exact ⟨others, front, behind⟩

/-- Texts without separators are the pieces of the text that puts a separator in front of
each but the first. -/
theorem splitOn_append_flatMap {sep : Char} {first : List Char} {others : List (List Char)}
    (absent : ∀ part ∈ first :: others, sep ∉ part) :
    (first ++ others.flatMap fun part => sep :: part).splitOn sep = first :: others := by
  induction others generalizing first with
  | nil =>
      rw [List.flatMap_nil, List.append_nil]
      exact List.splitOn_eq_singleton (absent first List.mem_cons_self)
  | cons part rest ih =>
      obtain ⟨inFirst, inOthers⟩ := List.forall_mem_cons.mp absent
      rw [List.flatMap_cons, List.cons_append,
        List.splitOn_append_cons_self_of_not_mem inFirst, ih inOthers]

/-- No piece holds a separator. -/
theorem not_mem_of_mem_splitOn {sep : Char} {piece : List Char} (isPiece : piece ∈ s.splitOn sep) :
    sep ∉ piece := by
  induction s generalizing piece with
  | nil =>
      obtain rfl : piece = [] := by simpa using isPiece
      exact List.not_mem_nil
  | cons c rest ih =>
      rw [List.splitOn_cons_eq_if_modifyHead] at isPiece
      split at isPiece
      · rcases List.mem_cons.mp isPiece with rfl | inRest
        · exact List.not_mem_nil
        · exact ih inRest
      next apart =>
        obtain ⟨first, others, split⟩ := List.exists_cons_of_ne_nil (List.splitOn_ne_nil sep rest)
        rw [split, List.modifyHead_cons] at isPiece
        rw [split] at ih
        rcases List.mem_cons.mp isPiece with rfl | inOthers
        · rw [List.mem_cons, not_or]
          exact ⟨fun same => apart (by simp [same]), ih List.mem_cons_self⟩
        · exact ih (List.mem_cons_of_mem _ inOthers)

/-- There is one piece more than there are separators. -/
theorem length_splitOn (sep : Char) (s : List Char) :
    (s.splitOn sep).length = s.count sep + 1 := by
  induction s with
  | nil => rfl
  | cons c rest ih =>
      rw [List.splitOn_cons_eq_if_modifyHead, List.count_cons]
      split
      · rw [List.length_cons, ih]
      · rw [List.length_modifyHead, ih, Nat.add_zero]

end ApiDoc.Text
