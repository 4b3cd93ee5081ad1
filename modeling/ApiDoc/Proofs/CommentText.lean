/-
# What is left of a comment

Taking something out of a text may bring its ends together and make a new occurrence of it.
With markers this does not happen.  A text is a row of runs of slashes, possibly empty, with the
other characters between them; a run keeps one slash or none, and the other characters keep the
runs apart.  So no marker is left after one pass, trimming makes none, and a second pass finds
nothing to do.  Every text that a document takes from a comment has gone through such a pass.
-/

import ApiDoc.Proofs.TextParts
import ApiDoc.Spec.Basic
import Mathlib.Data.List.Infix

namespace ApiDoc.Text

variable {s t : List Char}

/-! ## Markers -/

/-- A text has two slashes in a row. -/
def HoldsMarker (s : List Char) : Prop :=
  ['/', '/'] <:+: s

theorem HoldsMarker.of_infix (inside : s <:+: t) (holds : HoldsMarker s) : HoldsMarker t :=
  holds.trans inside

theorem not_holdsMarker_nil : ¬ HoldsMarker [] := by
  simp [HoldsMarker]

/-- A marker starts in front of a text or further behind. -/
theorem holdsMarker_cons_iff {c : Char} :
    HoldsMarker (c :: s) ↔ (c = '/' ∧ s.head? = some '/') ∨ HoldsMarker s := by
  rw [HoldsMarker, List.infix_cons_iff, HoldsMarker]
  cases s with
  | nil => simp
  | cons d rest => simp [List.cons_prefix_cons, eq_comm]

/-- Of the characters other than a slash none is lost. -/
theorem eraseMarkers_cons {c : Char} (other : c ≠ '/') (s : List Char) :
    eraseMarkers (c :: s) = c :: eraseMarkers s := by
  cases s with
  | nil => rfl
  | cons d rest => rw [eraseMarkers, if_neg fun both => other both.1]

/-- One pass leaves no marker. -/
theorem not_holdsMarker_eraseMarkers (s : List Char) : ¬ HoldsMarker (eraseMarkers s) := by
  fun_induction eraseMarkers s with
  | case1 => exact not_holdsMarker_nil
  | case2 c => simp [holdsMarker_cons_iff, not_holdsMarker_nil]
  | case3 c d rest both ih => exact ih
  | case4 c d rest apart ih =>
      rw [holdsMarker_cons_iff]
      rintro (⟨isSlash, next⟩ | later)
      · -- The next character stays in front of what is left, and it is no slash.
        have other : d ≠ '/' := fun same => apart ⟨isSlash, same⟩
        rw [eraseMarkers_cons other] at next
        exact other (Option.some.inj next)
      · exact ih later

/-- A pass changes nothing where there is no marker. -/
theorem eraseMarkers_eq_self (free : ¬ HoldsMarker s) : eraseMarkers s = s := by
  fun_induction eraseMarkers s with
  | case1 | case2 => rfl
  | case3 c d rest both =>
      obtain ⟨rfl, rfl⟩ := both
      exact absurd (List.prefix_append ['/', '/'] rest).isInfix free
  | case4 c d rest _ ih =>
      have restFree : ¬ HoldsMarker (d :: rest) :=
        fun holds => free (holds.of_infix (List.suffix_cons c _).isInfix)
      rw [ih restFree]

/-! ## Runs of slashes -/

/-- The runs of slashes in a text, one in front and one behind each other character.  A run may
be empty. -/
structure SlashRuns where
  front : Nat
  others : List ({ c : Char // c ≠ '/' } × Nat)

namespace SlashRuns

/-- The text that has these runs. -/
def text (runs : SlashRuns) : List Char :=
  List.replicate runs.front '/' ++
    runs.others.flatMap fun other => other.1.1 :: List.replicate other.2 '/'

/-- A slash for each run of odd length, and none for the others. -/
def parity (runs : SlashRuns) : SlashRuns where
  front := runs.front % 2
  others := runs.others.map fun other => (other.1, other.2 % 2)

theorem text_cons (n : Nat) (c : { c : Char // c ≠ '/' }) (k : Nat)
    (others : List ({ c : Char // c ≠ '/' } × Nat)) :
    text ⟨n, (c, k) :: others⟩ = List.replicate n '/' ++ c.1 :: text ⟨k, others⟩ :=
  rfl

theorem text_succ (n : Nat) (others : List ({ c : Char // c ≠ '/' } × Nat)) :
    text ⟨n + 1, others⟩ = '/' :: text ⟨n, others⟩ :=
  rfl

/-- The runs of a text, found from behind: a slash makes the run in front longer, and any other
character starts a new one. -/
def ofText : List Char → SlashRuns
  | [] => ⟨0, []⟩
  | c :: rest =>
    if isSlash : c = '/' then ⟨(ofText rest).front + 1, (ofText rest).others⟩
    else ⟨0, (⟨c, isSlash⟩, (ofText rest).front) :: (ofText rest).others⟩

theorem text_ofText (s : List Char) : (ofText s).text = s := by
  induction s with
  | nil => rfl
  | cons c rest ih =>
      rw [ofText]
      split
      next isSlash => rw [text_succ, ih, isSlash]
      next other => rw [text_cons, ih, List.replicate_zero, List.nil_append]

theorem ofText_text (runs : SlashRuns) : ofText runs.text = runs := by
  obtain ⟨n, others⟩ := runs
  induction others generalizing n with
  | nil =>
      induction n with
      | zero => rfl
      | succ n ih => rw [text_succ, ofText, dif_pos rfl, ih]
  | cons other rest ihRest =>
      obtain ⟨c, k⟩ := other
      induction n with
      | zero =>
          rw [text_cons, List.replicate_zero, List.nil_append, ofText, dif_neg c.2, ihRest k]
      | succ n ih => rw [text_succ, ofText, dif_pos rfl, ih]

/-- A run in front of a text keeps a slash exactly when its length is odd. -/
theorem eraseMarkers_replicate_append (n : Nat) (behind : s.head? ≠ some '/') :
    eraseMarkers (List.replicate n '/' ++ s) =
      List.replicate (n % 2) '/' ++ eraseMarkers s := by
  induction n using Nat.twoStepInduction with
  | zero => rfl
  | one =>
      cases s with
      | nil => rfl
      | cons c rest =>
          have other : ¬ ('/' = '/' ∧ c = '/') := fun both => behind (by rw [both.2]; rfl)
          exact if_neg other
  | more n ih _ =>
      rw [Nat.add_mod_right, ← ih]
      exact if_pos ⟨rfl, rfl⟩

/-- A pass leaves of each run one slash or none, and everything else where it is. -/
theorem eraseMarkers_text (runs : SlashRuns) : eraseMarkers runs.text = runs.parity.text := by
  obtain ⟨n, others⟩ := runs
  induction others generalizing n with
  | nil =>
      show eraseMarkers (List.replicate n '/' ++ []) = List.replicate (n % 2) '/' ++ []
      exact eraseMarkers_replicate_append n nofun
  | cons other rest ih =>
      obtain ⟨c, k⟩ := other
      have behind : (c.1 :: text ⟨k, rest⟩).head? ≠ some '/' := fun same =>
        c.2 (Option.some.inj same)
      rw [text_cons, eraseMarkers_replicate_append n behind, eraseMarkers_cons c.2, ih k]
      rfl

example : eraseMarkers "///a////b".toList = "/ab".toList := by decide

end SlashRuns

/-! ## Texts of comments -/

/-- A text as readers of a document see it: nothing is left that a pass over a comment would
take away. -/
structure IsCommentText (text : String) : Prop where
  noMarker : ¬ HoldsMarker text.toList
  trimmed : IsTrimmed text.toList
  stable : withoutMarkers text = text

theorem toList_withoutMarkers (text : String) :
    (withoutMarkers text).toList = trim (eraseMarkers text.toList) :=
  String.toList_ofList

/-- A text without markers and without blanks at its ends stays as it is. -/
theorem isCommentText_of_trimmed {text : String} (noMarker : ¬ HoldsMarker text.toList)
    (trimmed : IsTrimmed text.toList) : IsCommentText text := by
  refine ⟨noMarker, trimmed, ?_⟩
  rw [withoutMarkers, eraseMarkers_eq_self noMarker, trimmed.trim_eq, String.ofList_toList]

theorem isCommentText_withoutMarkers (text : String) : IsCommentText (withoutMarkers text) := by
  apply isCommentText_of_trimmed
  case trimmed =>
    rw [toList_withoutMarkers]
    exact isTrimmed_trim _
  case noMarker =>
    obtain ⟨before, after, whole⟩ := exists_gaps_trim (eraseMarkers text.toList)
    intro holds
    rw [toList_withoutMarkers] at holds
    exact not_holdsMarker_eraseMarkers text.toList (holds.of_infix ⟨_, _, whole.symm⟩)

/-- What a pass leaves is the text with one slash for each run of odd length, except for blanks
at its ends. -/
theorem exists_runs_withoutMarkers (text : String) :
    ∃! runs : SlashRuns, runs.text = text.toList ∧
      ∃ before after : Gap,
        runs.parity.text = before.1 ++ (withoutMarkers text).toList ++ after.1 := by
  refine ⟨.ofText text.toList, ⟨SlashRuns.text_ofText _, ?_⟩, fun runs same => ?_⟩
  · rw [← SlashRuns.eraseMarkers_text, SlashRuns.text_ofText, toList_withoutMarkers]
    exact exists_gaps_trim _
  · rw [← same.1, SlashRuns.ofText_text]

/-! ## Texts of a description -/

theorem eq_of_nonempty? {s text : String} (kept : nonempty? s = some text) :
    s = text ∧ text ≠ "" := by
  rw [nonempty?] at kept
  split at kept
  next => cases kept
  next nonempty =>
    obtain rfl := Option.some.inj kept
    exact ⟨rfl, nonempty⟩

/-- One pass over a comment is enough.  It leaves of each run of slashes one slash or none and
loses nothing else but blanks at the ends, and what is left has no marker, no blank at an end and
nothing that a second pass would change.  So it is with every text that is taken from the comments
of structs, members and routes; those that may be missing are not empty when they are there. -/
theorem commentTexts_inNormalForm :
    (∀ text, IsCommentText (withoutMarkers text) ∧
      ∃! runs : SlashRuns, runs.text = text.toList ∧
        ∃ before after : Gap,
          runs.parity.text = before.1 ++ (withoutMarkers text).toList ++ after.1) ∧
    (∀ s : StructType, IsCommentText s.docText) ∧
    (∀ m : Member, ∀ text ∈ m.commentText?, IsCommentText text ∧ text ≠ "") ∧
    ∀ r : Route, ∀ text ∈ r.firstDocLine?, IsCommentText text ∧ text ≠ "" := by
  have ofNonempty : ∀ {raw text : String}, nonempty? (withoutMarkers raw) = some text →
      IsCommentText text ∧ text ≠ "" := by
    intro raw text kept
    obtain ⟨rfl, nonempty⟩ := eq_of_nonempty? kept
    exact ⟨isCommentText_withoutMarkers raw, nonempty⟩
  refine ⟨fun text => ⟨isCommentText_withoutMarkers text, exists_runs_withoutMarkers text⟩,
    fun s => isCommentText_withoutMarkers _, ?_, ?_⟩
  · intro m text found
    replace found : m.commentText? = some text := found
    rw [Member.commentText?] at found
    split at found
    · exact ofNonempty found
    · exact ofNonempty found
  · intro r text found
    obtain ⟨line, -, kept⟩ := List.exists_of_findSome?_eq_some found
    exact ofNonempty kept

end ApiDoc.Text
