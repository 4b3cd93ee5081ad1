/-
# Rewriting the placeholders of a path

A placeholder is a match of a pattern: a slash, a colon, and then as many characters as
possible up to the next slash, of which there must be one.  Matches are searched from the left,
each behind the one before it; in the document every match shows its name in braces, and
everything between two matches stays.  This module supplies the search as a relation and ties it
to the segments of a path.

A match takes up the slash in front of its name and no other, so what is left behind it starts
with the slash of the next segment, and no match hides another.
-/

import ApiDoc.Proofs.PathSegments

namespace ApiDoc

open ApiDoc.Text

/-! ## Searching for placeholders -/

/-- The pattern matches between two parts of a text. -/
structure IsMatch (s before token after : List Char) : Prop where
  whole : s = before ++ '/' :: ':' :: (token ++ after)
  nonempty : token ≠ []
  noSlash : '/' ∉ token

/-- The match that a search finds: none starts further to the left, and none that starts at the
same place is longer. -/
structure IsFirstMatch (s before token after : List Char) : Prop
    extends IsMatch s before token after where
  leftmost : ∀ {before' token' after'}, IsMatch s before' token' after' →
    before.length ≤ before'.length
  longest : ∀ {token' after'}, IsMatch s before token' after' → token'.length ≤ token.length

/-- Searching a text from the left and putting what each match names in braces gives another
text, and the names in order. -/
inductive Rewrites : List Char → List Char → List (List Char) → Prop
  | done {s : List Char} (unmatched : ∀ before token after, ¬ IsMatch s before token after) :
      Rewrites s s []
  | next {s before token after rewritten : List Char} {tokens : List (List Char)}
      (first : IsFirstMatch s before token after) (others : Rewrites after rewritten tokens) :
      Rewrites s (before ++ '/' :: (inBraces token ++ rewritten)) (token :: tokens)

variable {s before token after before' token' after' : List Char} {c : Char}

/-- A search finds at most one match. -/
theorem IsFirstMatch.unique (first : IsFirstMatch s before token after)
    (second : IsFirstMatch s before' token' after') :
    before = before' ∧ token = token' ∧ after = after' := by
  have same := first.whole.symm.trans second.whole
  have place : before.length = before'.length :=
    Nat.le_antisymm (first.leftmost second.toIsMatch) (second.leftmost first.toIsMatch)
  obtain ⟨rfl, rest⟩ := List.append_inj same place
  have length : token.length = token'.length :=
    Nat.le_antisymm (second.longest first.toIsMatch) (first.longest second.toIsMatch)
  obtain ⟨rfl, rfl⟩ := List.append_inj (List.cons.inj (List.cons.inj rest).2).2 length
  exact ⟨rfl, rfl, rfl⟩

/-- Searching a text has one result. -/
theorem Rewrites.unique {rewritten rewritten' : List Char} {tokens tokens' : List (List Char)}
    (first : Rewrites s rewritten tokens) (second : Rewrites s rewritten' tokens') :
    rewritten = rewritten' ∧ tokens = tokens' := by
  induction first generalizing rewritten' tokens' with
  | done unmatched =>
      cases second with
      | done => exact ⟨rfl, rfl⟩
      | next found => exact absurd found.toIsMatch (unmatched _ _ _)
  | next found _ ih =>
      cases second with
      | done unmatched => exact absurd found.toIsMatch (unmatched _ _ _)
      | next found' others' =>
          obtain ⟨rfl, rfl, rfl⟩ := found.unique found'
          obtain ⟨rfl, rfl⟩ := ih others'
          exact ⟨rfl, rfl⟩

/-! ## Reading a path is searching it -/

theorem IsMatch.cons (found : IsMatch s before token after) :
    IsMatch (c :: s) (c :: before) token after :=
  ⟨congrArg (c :: ·) found.whole, found.nonempty, found.noSlash⟩

/-- A match that does not start in front is a match of the rest. -/
theorem IsMatch.tail (found : IsMatch (c :: s) before token after)
    (elsewhere : ∀ token after, ¬ IsMatch (c :: s) [] token after) :
    ∃ rest, before = c :: rest ∧ IsMatch s rest token after := by
  cases before with
  | nil => exact absurd found (elsewhere _ _)
  | cons d rest =>
      obtain ⟨rfl, whole⟩ := List.cons.inj found.whole
      exact ⟨rest, rfl, whole, found.nonempty, found.noSlash⟩

/-- A character where no match starts stays as it is. -/
theorem Rewrites.cons {rewritten : List Char} {tokens : List (List Char)}
    (elsewhere : ∀ token after, ¬ IsMatch (c :: s) [] token after)
    (others : Rewrites s rewritten tokens) : Rewrites (c :: s) (c :: rewritten) tokens := by
  cases others with
  | done unmatched =>
      refine .done fun before token after found => ?_
      obtain ⟨rest, -, inRest⟩ := found.tail elsewhere
      exact unmatched _ _ _ inRest
  | @next _ before token after rewritten tokens first others =>
      have pushed : IsFirstMatch (c :: s) (c :: before) token after := by
        refine ⟨first.toIsMatch.cons, ?_, ?_⟩
        · intro before' token' after' found
          obtain ⟨rest, rfl, inRest⟩ := found.tail elsewhere
          exact Nat.succ_le_succ (first.leftmost inRest)
        · intro token' after' found
          obtain ⟨rest, same, inRest⟩ := found.tail elsewhere
          obtain rfl := (List.cons.inj same).2
          exact first.longest inRest
      exact .next pushed others

/-- In front of a text, behind a slash and a colon, the match takes all up to the next slash. -/
theorem isFirstMatch_nil (named : s.takeWhile (· != '/') ≠ []) :
    IsFirstMatch ('/' :: ':' :: s) [] (s.takeWhile (· != '/')) (s.dropWhile (· != '/')) := by
  refine ⟨⟨?_, named, ?_⟩, fun _ => Nat.zero_le _, ?_⟩
  · rw [List.takeWhile_append_dropWhile]
    rfl
  · intro slash
    simpa using List.mem_takeWhile_imp slash
  · intro token' after' found
    obtain rfl := (List.cons.inj (List.cons.inj found.whole).2).2
    have solid : ∀ d ∈ token', (d != '/') = true := fun d listed =>
      bne_iff_ne.mpr fun slash => found.noSlash (slash ▸ listed)
    rw [List.takeWhile_append_of_pos solid, List.length_append]
    exact Nat.le_add_right _ _

namespace PathPart

/-- Reading a path finds the placeholders that a search finds. -/
theorem rewrites_read (s : List Char) :
    Rewrites s ((read s).flatMap text) ((read s).filterMap token?) := by
  fun_induction read s with
  | case1 => exact .done fun before token after found => by simpa using found.whole
  | case2 rest token unnamed ih =>
      -- Behind the colon stands a slash or nothing, so there is no name to match.
      refine ih.cons fun token' after found => ?_
      have behind : rest = token' ++ after := (List.cons.inj (List.cons.inj found.whole).2).2
      obtain ⟨d, others, rfl⟩ := List.exists_cons_of_ne_nil found.nonempty
      have solid : d ≠ '/' := fun slash => found.noSlash (slash ▸ List.mem_cons_self)
      have none : rest.takeWhile (· != '/') = [] := List.isEmpty_iff.mp unnamed
      simp [behind, solid] at none
  | case3 rest token named ih =>
      have first := isFirstMatch_nil fun empty => named (List.isEmpty_iff.mpr empty)
      exact .next first ih
  | case4 c rest plain ih =>
      refine ih.cons fun token after found => ?_
      obtain ⟨slash, colon⟩ := List.cons.inj found.whole
      exact plain _ slash colon

end PathPart

/-! ## What a document makes of a path -/

theorem length_documentSegments (segments : List (List Char)) :
    (documentSegments segments).length = segments.length := by
  cases segments with
  | nil => rfl
  | cons first others => simp [documentSegments]

/-- The document of a path, and its placeholders, are what a search finds; and they come segment
by segment.  So no slash is gained or lost, and a second search finds nothing. -/
theorem documentPath_segmentwise (path : String) :
    (∀ rewritten tokens, Rewrites path.toList rewritten tokens ↔
        rewritten = (documentPath path).toList ∧ tokens = (pathTokens path).map String.toList) ∧
      (documentPath path).toList = ['/'].intercalate (documentSegments (pathSegments path)) ∧
      pathTokens path
        = ((pathSegments path).tail.filterMap placeholderName?).map String.ofList ∧
      (documentPath path).toList.count '/' = path.toList.count '/' ∧
      documentPath (documentPath path) = documentPath path ∧
      pathTokens (documentPath path) = [] := by
  have found : Rewrites path.toList (documentPath path).toList
      ((pathTokens path).map String.toList) := by
    rw [documentPath, pathTokens, String.toList_ofList, List.map_map]
    simpa [Function.comp_def] using PathPart.rewrites_read path.toList
  have joined : (documentPath path).toList
      = ['/'].intercalate (documentSegments (pathSegments path)) := by
    rw [← pathSegments_documentPath, pathSegments, List.intercalate_splitOn]
  have slashes : (documentPath path).toList.count '/' = path.toList.count '/' := by
    have same : (pathSegments (documentPath path)).length = (pathSegments path).length := by
      rw [pathSegments_documentPath, length_documentSegments]
    rw [pathSegments, pathSegments, length_splitOn, length_splitOn] at same
    exact Nat.succ.inj same
  refine ⟨fun rewritten tokens => ⟨fun other => other.unique found, ?_⟩, joined,
    pathTokens_eq path, slashes, documentPath_documentPath path, pathTokens_documentPath path⟩
  rintro ⟨rfl, rfl⟩
  exact found

-- A lone colon and the segment in front of the first slash stay; only one colon is taken off.
example : documentPath ":a/:/::tag/:id" = ":a/:/\x7b:tag\x7d/\x7bid\x7d" ∧
    pathTokens ":a/:/::tag/:id" = [":tag", "id"] := by cbv

end ApiDoc
