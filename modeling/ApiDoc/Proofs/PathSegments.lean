/-
# The segments of a path

A path falls into segments at its slashes, and a document shows it segment by segment: a
segment behind a slash that names a placeholder is put in braces, and every other one
stays as it is.  What stands in braces names no placeholder any more, so a path of a
document is shown as it is, and has no placeholders left.
-/

import ApiDoc.Generate.PathText
import ApiDoc.Proofs.TextParts

namespace ApiDoc

open ApiDoc.Text

/-! ## Segments -/

/-- The texts between the slashes of a path, in order. -/
def pathSegments (path : String) : List (List Char) :=
  path.toList.splitOn '/'

/-- The placeholder that a segment names: what stands behind its colon, if anything
does. -/
def placeholderName? : List Char → Option (List Char)
  | ':' :: c :: rest => some (c :: rest)
  | _ => none

/-- A name in braces. -/
def inBraces (name : List Char) : List Char :=
  '\x7b' :: (name ++ ['\x7d'])

/-- What stands between the braces of a segment that is in braces. -/
def bracedName? : List Char → Option (List Char)
  | '\x7b' :: rest => if rest.getLast? = some '\x7d' then some rest.dropLast else none
  | _ => none

/-- A segment behind a slash as a document shows it. -/
def documentSegment (segment : List Char) : List Char :=
  match placeholderName? segment with
  | some name => inBraces name
  | none => segment

/-- The segments of a path as a document shows them.  No slash stands in front of the
first one, so it is no placeholder. -/
def documentSegments : List (List Char) → List (List Char)
  | [] => []
  | first :: others => first :: others.map documentSegment

variable {segment name : List Char}

theorem placeholderName?_eq_some_iff :
    placeholderName? segment = some name ↔ segment = ':' :: name ∧ name ≠ [] := by
  rw [placeholderName?.eq_def]
  split
  · next c rest =>
      rw [Option.some.injEq, List.cons.injEq]
      constructor
      · rintro rfl
        exact ⟨⟨rfl, rfl⟩, List.cons_ne_nil _ _⟩
      · rintro ⟨⟨-, rfl⟩, -⟩
        rfl
  · next other =>
      refine iff_of_false (by simp) ?_
      rintro ⟨rfl, nonempty⟩
      obtain ⟨c, rest, rfl⟩ := List.exists_cons_of_ne_nil nonempty
      exact other c rest rfl

theorem bracedName?_eq_some_iff : bracedName? segment = some name ↔ segment = inBraces name := by
  rw [bracedName?.eq_def, inBraces]
  split
  · next rest =>
      rw [List.cons.injEq]
      constructor
      · intro named
        split at named
        · next closed =>
            obtain rfl := Option.some.inj named
            exact ⟨rfl, (List.dropLast_append_getLast? _ closed).symm⟩
        · cases named
      · rintro ⟨-, rfl⟩
        simp
  · next other =>
      refine iff_of_false (by simp) ?_
      rintro rfl
      exact other _ rfl

/-- What a document shows names no placeholder. -/
@[simp] theorem placeholderName?_documentSegment (segment : List Char) :
    placeholderName? (documentSegment segment) = none := by
  rw [documentSegment]
  split
  · rfl
  · assumption

@[simp] theorem documentSegment_documentSegment (segment : List Char) :
    documentSegment (documentSegment segment) = documentSegment segment := by
  rw [documentSegment, placeholderName?_documentSegment]

/-- The braces of a document are those of its placeholders, where there were none
before. -/
theorem bracedName?_documentSegment (unbraced : bracedName? segment = none) :
    bracedName? (documentSegment segment) = placeholderName? segment := by
  rw [documentSegment]
  split
  · next name named => rw [named, bracedName?_eq_some_iff]
  · next unnamed => rw [unnamed, unbraced]

/-- Only a segment without characters is shown without any. -/
theorem eq_nil_of_documentSegment (empty : documentSegment segment = []) : segment = [] := by
  rw [documentSegment] at empty
  split at empty
  · cases empty
  · exact empty

/-- Braces bring no slash into a segment. -/
theorem not_mem_documentSegment (whole : '/' ∉ segment) : '/' ∉ documentSegment segment := by
  rw [documentSegment]
  split
  · next name named =>
      obtain ⟨rfl, -⟩ := placeholderName?_eq_some_iff.mp named
      rw [List.mem_cons, not_or] at whole
      simp [inBraces, whole.2]
  · exact whole

/-! ## Reading a path segment by segment -/

namespace PathPart

/-- The parts that a segment and the slash in front of it are read as. -/
def ofSegment (segment : List Char) : List PathPart :=
  match placeholderName? segment with
  | some name => [placeholder name]
  | none => char '/' :: segment.map char

theorem flatMap_text_map_char (s : List Char) : (s.map char).flatMap text = s := by
  rw [List.flatMap_map]
  exact List.flatMap_singleton' s

theorem flatMap_text_ofSegment (segment : List Char) :
    (ofSegment segment).flatMap text = '/' :: documentSegment segment := by
  rw [ofSegment, documentSegment]
  split
  · simp [text, inBraces]
  · rw [List.flatMap_cons, flatMap_text_map_char]
    rfl

theorem filterMap_token?_map_char (s : List Char) : (s.map char).filterMap token? = [] := by
  rw [List.filterMap_eq_nil_iff, List.forall_mem_map]
  exact fun _ _ => rfl

theorem filterMap_token?_ofSegment (segment : List Char) :
    (ofSegment segment).filterMap token? = (placeholderName? segment).toList := by
  rw [ofSegment]
  split
  · next name named => rw [named]; rfl
  · next unnamed =>
      rw [unnamed]
      exact filterMap_token?_map_char segment

/-- A path is read segment by segment. -/
theorem read_eq {s first : List Char} {others : List (List Char)}
    (split : s.splitOn '/' = first :: others) :
    read s = first.map char ++ others.flatMap ofSegment := by
  fun_induction read s generalizing first others with
  | case1 =>
      obtain ⟨rfl, rfl⟩ := List.cons.inj split
      rfl
  | case2 rest token unnamed =>
      rename_i ih
      -- The colon is all there is of the segment, so the segment is no placeholder.
      obtain ⟨more, whole, -⟩ := exists_splitOn_eq '/' rest
      have alone : rest.takeWhile (· != '/') = [] := List.isEmpty_iff.mp unnamed
      rw [alone] at whole
      have colon : (':' :: rest).splitOn '/' = [':'] :: more :=
        splitOn_append_of_not_mem (s := [':']) (by decide) whole
      rw [splitOn_cons_self, colon] at split
      obtain ⟨rfl, rfl⟩ := List.cons.inj split
      rw [ih colon]
      rfl
  | case3 rest token named =>
      rename_i ih
      obtain ⟨more, whole, behind⟩ := exists_splitOn_eq '/' rest
      have colon : (':' :: rest).splitOn '/' = (':' :: rest.takeWhile (· != '/')) :: more :=
        splitOn_append_of_not_mem (s := [':']) (by decide) whole
      have placeholder := placeholderName?_eq_some_iff.mpr
        ⟨rfl, fun empty => named (List.isEmpty_iff.mpr empty)⟩
      rw [splitOn_cons_self, colon] at split
      obtain ⟨rfl, rfl⟩ := List.cons.inj split
      rw [ih behind, List.flatMap_cons, ofSegment, placeholder]
      rfl
  | case4 c rest plain ih =>
      obtain ⟨more, whole, -⟩ := exists_splitOn_eq '/' rest
      rw [ih whole]
      by_cases slash : c = '/'
      · subst slash
        have unnamed : placeholderName? (rest.takeWhile (· != '/')) = none := by
          rw [Option.eq_none_iff_forall_ne_some]
          intro name named
          obtain ⟨colon, -⟩ := placeholderName?_eq_some_iff.mp named
          refine plain (name ++ rest.dropWhile (· != '/')) rfl ?_
          rw [← List.cons_append, ← colon, List.takeWhile_append_dropWhile]
        rw [splitOn_cons_self, whole] at split
        obtain ⟨rfl, rfl⟩ := List.cons.inj split
        rw [List.flatMap_cons, ofSegment, unnamed]
        rfl
      · have longer : (c :: rest).splitOn '/' = (c :: rest.takeWhile (· != '/')) :: more :=
          splitOn_append_of_not_mem (s := [c]) (by simpa using Ne.symm slash) whole
        rw [longer] at split
        obtain ⟨rfl, rfl⟩ := List.cons.inj split
        rfl

end PathPart

/-! ## The path of a document -/

variable {path : String} {first : List Char} {others : List (List Char)}

/-- A document shows a path segment by segment. -/
theorem toList_documentPath (split : pathSegments path = first :: others) :
    (documentPath path).toList = first ++ others.flatMap fun segment =>
      '/' :: documentSegment segment := by
  rw [documentPath, String.toList_ofList, PathPart.read_eq split, List.flatMap_append,
    PathPart.flatMap_text_map_char, List.flatMap_assoc]
  simp only [PathPart.flatMap_text_ofSegment]

/-- The segments of a path in a document are those of the route, each as a document shows
it. -/
theorem pathSegments_documentPath (path : String) :
    pathSegments (documentPath path) = documentSegments (pathSegments path) := by
  obtain ⟨others, split, -⟩ := exists_splitOn_eq '/' path.toList
  have whole : ∀ segment ∈ pathSegments path, '/' ∉ segment :=
    fun segment isPiece => not_mem_of_mem_splitOn isPiece
  rw [pathSegments, toList_documentPath split, ← List.flatMap_map, pathSegments, split,
    documentSegments]
  rw [pathSegments, split, List.forall_mem_cons] at whole
  apply splitOn_append_flatMap
  rw [List.forall_mem_cons, List.forall_mem_map]
  exact ⟨whole.1, fun segment listed => not_mem_documentSegment (whole.2 segment listed)⟩

/-- The placeholders of a path are those of its segments behind a slash. -/
theorem pathTokens_eq (path : String) :
    pathTokens path = ((pathSegments path).tail.filterMap placeholderName?).map String.ofList := by
  obtain ⟨others, split, -⟩ := exists_splitOn_eq '/' path.toList
  rw [pathTokens, PathPart.read_eq split, List.filterMap_append,
    PathPart.filterMap_token?_map_char, List.nil_append, List.filterMap_flatMap, pathSegments,
    split, List.tail_cons]
  simp only [PathPart.filterMap_token?_ofSegment]
  rw [List.filterMap_eq_flatMap_toList]

/-- A path of a document is shown as it is. -/
theorem documentPath_documentPath (path : String) :
    documentPath (documentPath path) = documentPath path := by
  obtain ⟨others, split, -⟩ := exists_splitOn_eq '/' path.toList
  have again := pathSegments_documentPath path
  rw [show pathSegments path = path.toList.takeWhile (· != '/') :: others from split,
    documentSegments] at again
  rw [← String.toList_inj, toList_documentPath again, toList_documentPath split,
    List.flatMap_map]
  simp only [documentSegment_documentSegment]

/-- No placeholder is left in a path of a document. -/
theorem pathTokens_documentPath (path : String) : pathTokens (documentPath path) = [] := by
  rw [pathTokens_eq, pathSegments_documentPath]
  cases pathSegments path with
  | nil => rfl
  | cons first others => simp [documentSegments]

end ApiDoc
