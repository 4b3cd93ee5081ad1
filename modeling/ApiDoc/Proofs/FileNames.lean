/-
# Parts of file names

A name is taken apart at its slashes, and of the parts that say nothing none is left.  So the
directory that a file is in has the parts of the file's name but the last, wherever the slashes
and dots of the name stand.  The extension is what stands behind the last dot of the last part.
-/

import ApiDoc.Command.FileName
import ApiDoc.Proofs.TextParts

namespace ApiDoc.FileName

open ApiDoc.Text

/-- A part of a name that says something. -/
structure IsPart (part : String) : Prop where
  nonempty : part ≠ ""
  notDot : part ≠ "."
  noSlash : '/' ∉ part.toList

variable {name directory part : String} {names : List String}

theorem isPart_of_mem_parts (listed : part ∈ parts name) : IsPart part := by
  rw [parts, List.mem_filter, pieceStrings, List.mem_map] at listed
  obtain ⟨⟨piece, isPiece, rfl⟩, telling⟩ := listed
  rw [Bool.and_eq_true, bne_iff_ne, bne_iff_ne] at telling
  refine ⟨telling.1, telling.2, ?_⟩
  rw [String.toList_ofList]
  exact not_mem_of_mem_splitOn isPiece

/-- Parts between slashes are the parts of the name that they make. -/
theorem parts_join (arePart : ∀ part ∈ names, IsPart part) :
    parts ("/".intercalate names) = names := by
  cases names with
  | nil => rfl
  | cons first others =>
      have kept : ∀ part ∈ first :: others, (part != "" && part != ".") = true := by
        intro part listed
        simp [(arePart part listed).nonempty, (arePart part listed).notDot]
      have pieced : pieceStrings '/' ("/".intercalate (first :: others)) = first :: others := by
        have noSlash : ∀ piece ∈ (first :: others).map String.toList, '/' ∉ piece := by
          rw [List.forall_mem_map]
          exact fun part listed => (arePart part listed).noSlash
        rw [pieceStrings, String.toList_intercalate, show "/".toList = ['/'] from rfl,
          List.splitOn_intercalate '/' noSlash (by simp), List.map_map]
        exact (List.map_congr_left fun part _ => String.ofList_toList).trans (List.map_id _)
      rw [parts, pieced, List.filter_eq_self.mpr kept]

/-- A slash in front makes a name absolute and adds no part. -/
theorem parts_slash_append (name : String) : parts ("/" ++ name) = parts name := by
  rw [parts, pieceStrings, String.toList_append, show "/".toList = ['/'] from rfl,
    List.singleton_append, splitOn_cons_self]
  rfl

theorem isAbsolute_slash_append (name : String) : isAbsolute ("/" ++ name) = true := by
  rw [isAbsolute, String.toList_append]
  rfl

/-- Parts between slashes make no absolute name. -/
theorem isAbsolute_join (arePart : ∀ part ∈ names, IsPart part) :
    isAbsolute ("/".intercalate names) = false := by
  cases names with
  | nil => rfl
  | cons first others =>
      obtain ⟨c, more, whole⟩ := List.exists_cons_of_ne_nil
        (mt String.toList_eq_nil_iff.mp (arePart first List.mem_cons_self).nonempty)
      have noSlash : '/' ≠ c := fun same =>
        (arePart first List.mem_cons_self).noSlash (by rw [whole, same]; exact List.mem_cons_self)
      have front : ("/".intercalate (first :: others)).toList.head? = some c := by
        cases others with
        | nil => rw [String.intercalate_singleton, whole, List.head?_cons]
        | cons second rest =>
            rw [String.intercalate_cons_cons, String.toList_append, String.toList_append, whole]
            rfl
      rw [isAbsolute, front, beq_eq_false_iff_ne]
      exact fun same => noSlash (Option.some.inj same).symm

/-- The directory that a file is in has the same start as the file's name, and its parts but the
last. -/
theorem parts_of_parent? (above : parent? name = some directory) :
    isAbsolute directory = isAbsolute name ∧ parts directory = (parts name).dropLast := by
  have arePart : ∀ part ∈ (parts name).dropLast, IsPart part :=
    fun part listed => isPart_of_mem_parts (List.dropLast_subset _ listed)
  rw [parent?] at above
  split at above
  next absolute =>
    obtain rfl := Option.some.inj above
    rw [absolute, isAbsolute_slash_append, parts_slash_append, parts_join arePart]
    exact ⟨rfl, rfl⟩
  next relative =>
    rw [Bool.not_eq_true] at relative
    split at above
    next =>
      obtain rfl := Option.some.inj above
      rw [relative, isAbsolute_join arePart, parts_join arePart]
      exact ⟨rfl, rfl⟩
    next =>
      split at above
      next alone =>
        obtain rfl := Option.some.inj above
        have single : (parts name).length = 1 := by
          simp only [Bool.and_eq_true, decide_eq_true_iff] at alone
          exact alone.1.1
        refine ⟨relative.symm, ?_⟩
        rw [show parts "." = [] by decide, List.dropLast_eq_take, single]
        rfl
      next => cases above

/-- A name without a directory has one part at most. -/
theorem dropLast_parts_of_parent?_eq_none (above : parent? name = none) :
    (parts name).dropLast = [] := by
  have arePart : ∀ part ∈ (parts name).dropLast, IsPart part :=
    fun part listed => isPart_of_mem_parts (List.dropLast_subset _ listed)
  rw [parent?] at above
  split at above
  next => cases above
  next =>
    split at above
    next => cases above
    next empty =>
      have nothing : "/".intercalate (parts name).dropLast = "" := by simpa using empty
      rw [← parts_join arePart, nothing]
      rfl

/-! ## Extensions -/

/-- What stands behind the last dot has no dot itself, and there is something in front of it. -/
theorem afterLastDot_eq_some_iff {s ending : List Char} (noDot : '.' ∉ ending) :
    afterLastDot s = some ending ↔ ∃ stem, s = stem ++ '.' :: ending ∧ stem ≠ [] := by
  rw [afterLastDot]
  apply Iff.intro
  · intro found
    split at found
    next behind front isCut =>
      split at found
      next => cases found
      next nonempty =>
        obtain rfl := Option.some.inj found
        refine ⟨front.reverse, ?_, by simpa using nonempty⟩
        rw [← List.reverse_reverse s, eq_append_of_cut isCut]
        simp
    next => cases found
  · rintro ⟨stem, rfl, nonempty⟩
    have isCut : cut '.' (stem ++ '.' :: ending).reverse = some (ending.reverse, stem.reverse) := by
      rw [List.reverse_append, List.reverse_cons, List.append_assoc, List.singleton_append,
        cut_append_cons (mt List.mem_reverse.mp noDot)]
    simp only [isCut, List.isEmpty_reverse, List.isEmpty_iff, if_neg nonempty, List.reverse_reverse]

theorem extension?_eq_some_iff {ending : String} (noDot : '.' ∉ ending.toList)
    (nonempty : ending ≠ "") :
    extension? name = some ending ↔
      ∃ stem, (parts name).getLast? = some (stem ++ "." ++ ending) ∧ stem ≠ "" := by
  have written : ∀ last : String, ((afterLastDot last.toList).map String.ofList = some ending ↔
      ∃ stem, last = stem ++ "." ++ ending ∧ stem ≠ "") := by
    intro last
    rw [Option.map_eq_some_iff]
    apply Iff.intro
    · rintro ⟨behind, found, rfl⟩
      rw [String.toList_ofList] at noDot
      obtain ⟨stem, whole, front⟩ := (afterLastDot_eq_some_iff noDot).mp found
      refine ⟨String.ofList stem, ?_, by simpa using front⟩
      rw [← String.toList_inj, whole]
      simp
    · rintro ⟨stem, rfl, front⟩
      refine ⟨ending.toList, (afterLastDot_eq_some_iff noDot).mpr ⟨stem.toList, ?_, ?_⟩,
        String.ofList_toList⟩
      · simp
      · exact mt String.toList_eq_nil_iff.mp front
  rw [extension?]
  cases (parts name).getLast? with
  | none => simp
  | some last =>
      simp only [Option.some.injEq]
      by_cases twoDots : last = ".."
      · -- Two dots are one part with an empty ending.
        rw [if_pos twoDots, twoDots, ← written]
        have empty : (afterLastDot "..".toList).map String.ofList = some "" := by decide
        rw [empty, Option.some.injEq]
        exact iff_of_false nofun nonempty.symm
      · rw [if_neg twoDots, written]

/-- An extension is `yaml` or `yml`, in small or capital letters. -/
def IsYamlEnding (ending : String) : Prop :=
  ending.toList.map Char.toLower = "yaml".toList ∨ ending.toList.map Char.toLower = "yml".toList

/-- The last part of a name ends in a dot and `yaml` or `yml`, and something stands in front of
the dot. -/
def IsYaml (name : String) : Prop :=
  ∃ stem ending, (parts name).getLast? = some (stem ++ "." ++ ending) ∧ stem ≠ "" ∧
    IsYamlEnding ending

/-- There is no dot in `yaml` and `yml`, whatever the letters are. -/
theorem IsYamlEnding.noDot {ending : String} (isYaml : IsYamlEnding ending) :
    '.' ∉ ending.toList := by
  intro dot
  have stays : '.' ∈ ending.toList.map Char.toLower := List.mem_map.mpr ⟨'.', dot, rfl⟩
  rcases isYaml with small | small
  · rw [small] at stays
    exact absurd stays (by decide)
  · rw [small] at stays
    exact absurd stays (by decide)

theorem IsYamlEnding.nonempty {ending : String} (isYaml : IsYamlEnding ending) : ending ≠ "" := by
  rintro rfl
  revert isYaml
  simp [IsYamlEnding]

theorem format_eq_yaml_iff_extension :
    format name = .yaml ↔ ∃ ending, extension? name = some ending ∧ IsYamlEnding ending := by
  rw [format]
  cases extension? name with
  | none => simp
  | some ending =>
      have small : ∀ word : String, String.ofList (ending.toList.map Char.toLower) = word ↔
          ending.toList.map Char.toLower = word.toList := by
        intro word
        rw [← String.toList_inj, String.toList_ofList]
      simp only [Option.map_some, Option.some.injEq, exists_eq_left', IsYamlEnding, ← small]
      split <;> simp_all

/-- A file is written as YAML exactly if its name says so. -/
theorem format_eq_yaml_iff : format name = .yaml ↔ IsYaml name := by
  rw [format_eq_yaml_iff_extension]
  apply Iff.intro
  · rintro ⟨ending, found, isYaml⟩
    obtain ⟨stem, last, front⟩ := (extension?_eq_some_iff isYaml.noDot isYaml.nonempty).mp found
    exact ⟨stem, ending, last, front, isYaml⟩
  · rintro ⟨stem, ending, last, front, isYaml⟩
    exact ⟨ending, (extension?_eq_some_iff isYaml.noDot isYaml.nonempty).mpr ⟨stem, last, front⟩,
      isYaml⟩

end ApiDoc.FileName
