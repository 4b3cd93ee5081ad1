/-
# The grammar of tag lists

A tag list is written as groups with blanks between them.  A group is a key, a colon and a
quoted value, and a backslash in the value stands in front of a character that is taken as it
is.  The reader accepts exactly the texts that are made of such groups without a repeated key,
and gives one tag for each group, in order.

The reader takes a key as far as it goes and a value up to the first mark without a backslash,
so the parts of a group are found where the grammar has them.  What stands between two groups
is not empty: a group starts with a character that is no blank, and the reader wants a blank
right behind the one before it.
-/

import ApiDoc.Proofs.TextParts
import ApiDoc.Proofs.Traversal
import ApiDoc.Spec.TaggedMember
import ApiDoc.Tag.Reader
import Mathlib.Data.List.Nodup

namespace ApiDoc

open ApiDoc.Text

/-! ## Groups -/

/-- A part of a quoted value: a character that stands for itself, or any character behind a
backslash. -/
inductive TagItem where
  | plain (c : Char) (ordinary : c ≠ '\\' ∧ c ≠ '"')
  | escaped (c : Char)

namespace TagItem

def text : TagItem → List Char
  | plain c _ => [c]
  | escaped c => ['\\', c]

/-- The character that an item stands for. -/
def char : TagItem → Char
  | plain c _ => c
  | escaped c => c

end TagItem

/-- A group of a tag list. -/
structure TagGroup where
  key : List Char
  nonempty : key ≠ []
  characters : ∀ c ∈ key, c ≠ ':' ∧ c ≠ '"' ∧ isBlank c = false
  items : List TagItem

namespace TagGroup

def text (g : TagGroup) : List Char :=
  g.key ++ ':' :: '"' :: (g.items.flatMap TagItem.text ++ ['"'])

/-- The value of a group: what its items stand for. -/
def value (g : TagGroup) : List Char :=
  g.items.map TagItem.char

/-- A tag has the key of a group, and its name and options are the trimmed pieces of the
value between commas: the first one the name, and of the others those that are not empty. -/
structure Shows (g : TagGroup) (t : Tag) : Prop where
  key : t.key = String.ofList g.key
  parts : ∃ first others, g.value.splitOn ',' = first :: others ∧
    t.name = String.ofList (trim first) ∧
    t.options = ((others.map trim).filter (· ≠ [])).map String.ofList

end TagGroup

/-- The groups of a list one after another, with blanks between every two. -/
inductive SpellsGroups : List TagGroup → List Char → Prop
  | none : SpellsGroups [] []
  | one (g : TagGroup) : SpellsGroups [g] g.text
  | more (g : TagGroup) {next : TagGroup} {others : List TagGroup} {gap : Gap} {rest : List Char}
      (apart : gap.1 ≠ []) (spelled : SpellsGroups (next :: others) rest) :
      SpellsGroups (g :: next :: others) (g.text ++ (gap.1 ++ rest))

/-- A text is made of groups: blanks may stand around them, and no key occurs twice. -/
structure IsMadeOf (body : List Char) (groups : List TagGroup) : Prop where
  spelled : ∃ (before after : Gap) (s : List Char),
    SpellsGroups groups s ∧ body = before.1 ++ (s ++ after.1)
  distinct : (groups.map TagGroup.key).Nodup

/-- The inside of a text: what stands between one pair of enclosing backticks if both are
there, and the whole text if not. -/
def IsInside (body s : List Char) : Prop :=
  s = '`' :: (body ++ ['`']) ∨ (∀ inner, s ≠ '`' :: (inner ++ ['`'])) ∧ body = s

namespace Tag

variable {s after value key : List Char} {g : TagGroup} {t : Tag} {tags : List Tag}
  {groups : List TagGroup} {offset : List Char → Nat}

/-! ## Reading a value -/

/-- A value is read up to the mark that closes its items. -/
theorem readQuoted_items (items : List TagItem) (after : List Char) :
    readQuoted (items.flatMap TagItem.text ++ '"' :: after) =
      some (items.map TagItem.char, after) := by
  induction items with
  | nil => rfl
  | cons item rest ih =>
      rw [List.flatMap_cons, List.append_assoc, List.map_cons]
      cases item with
      | plain c ordinary =>
          rw [TagItem.text, List.singleton_append, readQuoted, ih]
          · rfl
          · exact fun same _ => ordinary.1 same
          · exact fun _ _ same _ => ordinary.1 same
          · exact ordinary.2
      | escaped c =>
          rw [TagItem.text, List.cons_append, List.singleton_append, readQuoted, ih]
          rfl

theorem readQuoted_eq_some_iff :
    readQuoted s = some (value, after) ↔ ∃ items : List TagItem,
      s = items.flatMap TagItem.text ++ '"' :: after ∧ items.map TagItem.char = value := by
  constructor
  · intro read
    fun_induction readQuoted s generalizing value with
    | case1 => cases read
    | case2 => cases read
    | case3 c rest ih =>
        obtain ⟨⟨inner, left⟩, innerRead, result⟩ := Option.map_eq_some_iff.mp read
        obtain ⟨rfl, rfl⟩ := Prod.mk.inj result
        obtain ⟨items, rfl, rfl⟩ := ih innerRead
        exact ⟨.escaped c :: items, rfl, rfl⟩
    | case4 rest =>
        obtain ⟨rfl, rfl⟩ := Prod.mk.inj (Option.some.inj read)
        exact ⟨[], rfl, rfl⟩
    | case5 c rest noEnd noEscape noMark ih =>
        obtain ⟨⟨inner, left⟩, innerRead, result⟩ := Option.map_eq_some_iff.mp read
        obtain ⟨rfl, rfl⟩ := Prod.mk.inj result
        obtain ⟨items, rfl, rfl⟩ := ih innerRead
        -- A backslash would be the last character or stand in front of another one.
        have noBackslash : c ≠ '\\' := by
          intro same
          cases rest : items.flatMap TagItem.text ++ '"' :: left with
          | nil => exact noEnd same rest
          | cons next more => exact noEscape next more same rest
        exact ⟨.plain c ⟨noBackslash, noMark⟩ :: items, rfl, rfl⟩
  · rintro ⟨items, rfl, rfl⟩
    exact readQuoted_items items after

/-! ## Reading a group -/

theorem isKeyChar_iff {c : Char} :
    isKeyChar c = true ↔ c ≠ ':' ∧ c ≠ '"' ∧ isBlank c = false := by
  simp [isKeyChar, and_assoc]

theorem shows_iff : g.Shows t ↔ t = ofValue g.key g.value := by
  obtain ⟨first, others, split⟩ := List.exists_cons_of_ne_nil (List.splitOn_ne_nil ',' g.value)
  have options : (others.map trim).filter (· ≠ []) =
      (others.map trim).filter fun p => !p.isEmpty :=
    List.filter_congr fun p _ => by cases p <;> rfl
  constructor
  · rintro ⟨sameKey, first', others', split', sameName, sameOptions⟩
    obtain ⟨rfl, rfl⟩ := List.cons.inj (split.symm.trans split')
    rw [options] at sameOptions
    rw [ofValue, split, ← sameKey]
    cases t
    simp_all
  · rintro rfl
    refine ⟨rfl, first, others, split, ?_, ?_⟩
    · rw [ofValue, split]
      rfl
    · rw [options, ofValue, split]
      rfl

/-- What is read at the start of a text is a group behind which a blank stands, if
anything. -/
theorem readGroup_eq_ok_iff :
    readGroup offset s = .ok (t, after) ↔
      ∃ g : TagGroup, s = g.text ++ after ∧ startsBlank after ∧ g.Shows t := by
  constructor
  · intro read
    unfold readGroup at read
    dsimp only at read
    split at read
    · cases read
    · cases read
    · next rest atColon =>
        split at read
        · cases read
        next nonempty =>
        split at read
        · next quoted =>
            split at read
            · cases read
            · next value left inside =>
                split at read
                · next apart =>
                    obtain ⟨rfl, rfl⟩ := Prod.mk.inj (Except.ok.inj read)
                    obtain ⟨items, rfl, rfl⟩ := readQuoted_eq_some_iff.mp inside
                    have whole := List.takeWhile_append_dropWhile (p := isKeyChar) (l := s)
                    rw [atColon] at whole
                    let g : TagGroup := ⟨s.takeWhile isKeyChar, by simpa using nonempty,
                      fun c inKey => isKeyChar_iff.mp (List.mem_takeWhile_imp inKey), items⟩
                    have text : s = g.text ++ left := whole.symm.trans (by simp [g, TagGroup.text])
                    exact ⟨g, text, apart, shows_iff.mpr rfl⟩
                · cases read
        · cases read
    · cases read
  · rintro ⟨g, rfl, apart, shows⟩
    have keyChars : ∀ c ∈ g.key, isKeyChar c = true :=
      fun c inKey => isKeyChar_iff.mpr (g.characters c inKey)
    have colon : isKeyChar ':' = false := by decide
    have text : g.text ++ after =
        g.key ++ ':' :: '"' :: (g.items.flatMap TagItem.text ++ '"' :: after) := by
      simp [TagGroup.text]
    have key : (g.text ++ after).takeWhile isKeyChar = g.key := by
      rw [text, List.takeWhile_append_of_pos keyChars,
        List.takeWhile_cons_of_neg (by simp [colon]), List.append_nil]
    have rest : (g.text ++ after).dropWhile isKeyChar =
        ':' :: '"' :: (g.items.flatMap TagItem.text ++ '"' :: after) := by
      rw [text, List.dropWhile_append_of_pos keyChars,
        List.dropWhile_cons_of_neg (by simp [colon])]
    have nonempty : g.key.isEmpty = false := by simpa using g.nonempty
    rw [shows_iff.mp shows]
    simp only [readGroup, key, rest, nonempty, readQuoted_items, apart, if_true,
      Bool.false_eq_true, if_false, TagGroup.value]

/-! ## Reading groups -/

/-- A group starts with its key, which has no blanks. -/
theorem startsBlank_group_append (g : TagGroup) (rest : List Char) :
    startsBlank (g.text ++ rest) = false := by
  obtain ⟨c, more, key⟩ := List.exists_cons_of_ne_nil g.nonempty
  have solid : isBlank c = false := (g.characters c (by simp [key])).2.2
  rw [TagGroup.text, key]
  exact solid

theorem trimStart_of_startsBlank_eq_false (solid : startsBlank s = false) : trimStart s = s := by
  cases s with
  | nil => rfl
  | cons c rest => exact List.dropWhile_cons_of_neg (by simpa [startsBlank] using solid)

theorem startsBlank_of_isBlankText {s : List Char} (blank : IsBlankText s) : startsBlank s := by
  cases s with
  | nil => rfl
  | cons c rest => exact blank c List.mem_cons_self

theorem startsBlank_append {gap rest : List Char} (nonempty : gap ≠ []) (blank : IsBlankText gap) :
    startsBlank (gap ++ rest) := by
  cases gap with
  | nil => exact absurd rfl nonempty
  | cons c more => exact blank c List.mem_cons_self

theorem readGroups_of_blank {earlier : List Tag} {s : List Char} (blank : IsBlankText s) :
    readGroups offset earlier s = .ok earlier := by
  rw [readGroups.eq_def]
  split
  · rfl
  next start =>
    rw [trimStart_eq_nil_of_blank blank] at start
    cases start

/-- One step of the reader: blanks, then a group whose key is new. -/
theorem readGroups_group {earlier : List Tag} {before : List Char} (blank : IsBlankText before)
    (apart : startsBlank after) (shows : g.Shows t) (fresh : t.key ∉ earlier.map Tag.key) :
    readGroups offset earlier (before ++ (g.text ++ after)) =
      readGroups offset (earlier ++ [t]) after := by
  have trimmed : trimStart (before ++ (g.text ++ after)) = g.text ++ after := by
    rw [trimStart_append_of_blank blank,
      trimStart_of_startsBlank_eq_false (startsBlank_group_append g after)]
  have group : readGroup offset (g.text ++ after) = .ok (t, after) :=
    readGroup_eq_ok_iff.mpr ⟨g, rfl, apart, shows⟩
  have new : ¬ earlier.any (·.key == t.key) = true := by
    simpa [List.mem_map] using fresh
  rw [readGroups.eq_def]
  split
  next start =>
    rw [trimmed] at start
    simp [TagGroup.text] at start
  next c more start =>
    rw [← start, trimmed, group]
    simp only
    rw [if_neg new]

/-- Groups are read one after another, whatever tags were read before them, as long as no
key occurs twice. -/
theorem readGroups_of_spellsGroups (spelled : SpellsGroups groups s) {earlier : List Tag}
    (shows : List.Forall₂ TagGroup.Shows groups tags)
    (distinct : ((earlier ++ tags).map Tag.key).Nodup) (before after : Gap) :
    readGroups offset earlier (before.1 ++ (s ++ after.1)) = .ok (earlier ++ tags) := by
  -- What is read goes over to the tags read earlier, and a gap to the blanks in front.
  have fresh : ∀ {earlier others : List Tag} {t : Tag},
      ((earlier ++ t :: others).map Tag.key).Nodup → t.key ∉ earlier.map Tag.key := by
    intro earlier others t distinct present
    rw [List.map_append, List.nodup_append] at distinct
    exact distinct.2.2 t.key present t.key (by simp) rfl
  induction spelled generalizing earlier before tags with
  | none =>
      cases shows
      rw [List.append_nil]
      refine readGroups_of_blank fun c inText => ?_
      rw [List.nil_append] at inText
      exact (List.mem_append.mp inText).elim (before.2 c) (after.2 c)
  | one g =>
      obtain ⟨t, others, isTag, noOthers, rfl⟩ := List.forall₂_cons_left_iff.mp shows
      cases noOthers
      rw [readGroups_group before.2 (startsBlank_of_isBlankText after.2) isTag (fresh distinct),
        readGroups_of_blank after.2]
  | @more g next others gap rest apart _ ih =>
      obtain ⟨t, others, isTag, isTags, rfl⟩ := List.forall₂_cons_left_iff.mp shows
      have longer : ((earlier ++ [t] ++ others).map Tag.key).Nodup := by simpa using distinct
      rw [List.append_assoc, List.append_assoc, readGroups_group before.2
        (startsBlank_append apart gap.2) isTag (fresh distinct), ih isTags longer gap,
        List.append_assoc, List.singleton_append]

/-- A group in front of others is one group more, since the blank that is wanted behind it
belongs to a gap. -/
theorem exists_spellsGroups_cons (g : TagGroup) (spelled : SpellsGroups groups s)
    {before after : Gap} (apart : startsBlank (before.1 ++ (s ++ after.1))) :
    ∃ (s' : List Char) (after' : Gap), SpellsGroups (g :: groups) s' ∧
      g.text ++ (before.1 ++ (s ++ after.1)) = s' ++ after'.1 := by
  cases groups with
  | nil =>
      cases spelled
      refine ⟨g.text, ⟨before.1 ++ after.1, ?_⟩, .one g, rfl⟩
      exact fun c inGap => (List.mem_append.mp inGap).elim (before.2 c) (after.2 c)
  | cons next others =>
      have start : ∃ rest, s = next.text ++ rest := by
        cases spelled with
        | one => exact ⟨[], (List.append_nil _).symm⟩
        | more => exact ⟨_, rfl⟩
      have nonempty : before.1 ≠ [] := by
        obtain ⟨rest, rfl⟩ := start
        intro empty
        rw [empty, List.nil_append, List.append_assoc, startsBlank_group_append] at apart
        cases apart
      exact ⟨_, after, .more g nonempty spelled, by simp⟩

/-- Whatever is read is made of groups, one for each tag that comes out. -/
theorem exists_groups_of_readGroups {earlier result : List Tag}
    (run : readGroups offset earlier s = .ok result) (distinct : (earlier.map Tag.key).Nodup) :
    ∃ groups tags, (∃ (before after : Gap) (s' : List Char),
        SpellsGroups groups s' ∧ s = before.1 ++ (s' ++ after.1)) ∧
      List.Forall₂ TagGroup.Shows groups tags ∧ result = earlier ++ tags ∧
      (result.map Tag.key).Nodup := by
  fun_induction readGroups offset earlier s with
  | case1 earlier s start =>
      obtain rfl := Except.ok.inj run
      obtain ⟨gap, whole⟩ := exists_gap_trimStart s
      rw [start] at whole
      have noBlank : IsBlankText [] := nofun
      exact ⟨[], [], ⟨gap, ⟨[], noBlank⟩, [], .none, whole⟩, .nil, (List.append_nil _).symm,
        distinct⟩
  | case2 => cases run
  | case3 => cases run
  | case4 earlier s c more start t after group fresh ih =>
      have new : t.key ∉ earlier.map Tag.key := by simpa [List.mem_map] using fresh
      have longer : ((earlier ++ [t]).map Tag.key).Nodup := by
        rw [List.map_append, List.map_singleton, ← List.concat_eq_append]
        exact distinct.concat new
      obtain ⟨groups, tags, ⟨before, last, s', spelled, rfl⟩, shows, rfl, all⟩ := ih run longer
      obtain ⟨g, text, apart, isTag⟩ := readGroup_eq_ok_iff.mp group
      obtain ⟨longText, end', longSpelled, same⟩ := exists_spellsGroups_cons g spelled apart
      obtain ⟨gap, whole⟩ := exists_gap_trimStart s
      rw [start, text, same] at whole
      exact ⟨g :: groups, t :: tags, ⟨gap, end', longText, longSpelled, whole⟩,
        .cons isTag shows, List.append_assoc .., all⟩

/-! ## Backticks -/

theorem withoutBackticks_inBackticks (inner : List Char) :
    withoutBackticks ('`' :: (inner ++ ['`'])) = inner := by
  simp [withoutBackticks]

/-- The inside of a text is what the reader reads, and there is no other. -/
theorem isInside_iff {body : List Char} : IsInside body s ↔ body = withoutBackticks s := by
  constructor
  · rintro (rfl | ⟨open', rfl⟩)
    · exact (withoutBackticks_inBackticks body).symm
    · rw [withoutBackticks.eq_def]
      split
      next inner =>
        split
        next closed => exact absurd (by rw [List.dropLast_append_getLast? _ closed]) (open' _)
        · rfl
      · rfl
  · rintro rfl
    rw [withoutBackticks.eq_def]
    split
    next inner =>
      split
      next closed => exact .inl (by rw [List.dropLast_append_getLast? _ closed])
      next open' =>
        refine .inr ⟨fun inside same => ?_, rfl⟩
        obtain rfl := (List.cons.inj same).2
        exact open' List.getLast?_concat
    next noBacktick => exact .inr ⟨fun inside same => noBacktick _ same, rfl⟩

/-! ## The reader and the grammar -/

/-- Reading a text is reading the groups of its inside. -/
theorem readAll_eq {raw : String} {body : List Char}
    (inside : withoutBackticks (trim raw.toList) = body) :
    readAll raw = readGroups (fun rest => byteSize body - byteSize rest) [] body := by
  rw [readAll, inside]

theorem keys_of_shows (shows : List.Forall₂ TagGroup.Shows groups tags) :
    tags.map Tag.key = (groups.map TagGroup.key).map String.ofList := by
  induction shows with
  | nil => rfl
  | cons isTag _ ih => rw [List.map_cons, ih, isTag.key, List.map_cons, List.map_cons]

/-- Tags have different keys exactly when their groups do. -/
theorem nodup_keys_iff_of_shows (shows : List.Forall₂ TagGroup.Shows groups tags) :
    (tags.map Tag.key).Nodup ↔ (groups.map TagGroup.key).Nodup := by
  rw [keys_of_shows shows]
  exact List.nodup_map_iff fun _ _ => String.ofList_injective

/-- Every list of groups has its tags. -/
theorem exists_tags_of_groups (groups : List TagGroup) :
    ∃ tags, List.Forall₂ TagGroup.Shows groups tags := by
  refine ⟨groups.map fun g => ofValue g.key g.value, ?_⟩
  rw [List.forall₂_map_right_iff]
  exact List.forall₂_same.mpr fun g _ => shows_iff.mpr rfl

theorem readAll_eq_ok_iff {raw : String} :
    readAll raw = .ok tags ↔ ∃ groups, IsMadeOf (withoutBackticks (trim raw.toList)) groups ∧
      List.Forall₂ TagGroup.Shows groups tags := by
  rw [readAll_eq rfl]
  constructor
  · intro run
    obtain ⟨groups, tags, spelled, shows, rfl, distinct⟩ :=
      exists_groups_of_readGroups run List.nodup_nil
    exact ⟨groups, ⟨spelled, (nodup_keys_iff_of_shows shows).mp distinct⟩, shows⟩
  · rintro ⟨groups, ⟨⟨before, after, s, spelled, body⟩, distinct⟩, shows⟩
    have fromNothing : (([] ++ tags).map Tag.key).Nodup :=
      (nodup_keys_iff_of_shows shows).mpr distinct
    rw [body]
    exact readGroups_of_spellsGroups spelled shows fromNothing before after

/-- The tags of a text are those of the groups that its inside is made of, in order.  A text
whose inside is not made of groups is malformed. -/
theorem readFor_follows_grammar (owner raw : String) :
    ∃ body, (∀ other, IsInside other (trim raw.toList) ↔ other = body) ∧
      ((∃ tags, readFor owner raw = .ok tags) ↔ ∃ groups, IsMadeOf body groups) ∧
      (∀ tags groups, readFor owner raw = .ok tags → IsMadeOf body groups →
        List.Forall₂ TagGroup.Shows groups tags) ∧
      ((∀ groups, ¬ IsMadeOf body groups) →
        ∃ fault : TagFault, readFor owner raw = .error (.malformedTag owner fault.reason)) := by
  have owned : ∀ tags, readFor owner raw = .ok tags ↔ readAll raw = .ok tags := by
    intro tags
    rw [readFor]
    cases readAll raw <;> simp
  have complete : ∀ groups, IsMadeOf (withoutBackticks (trim raw.toList)) groups →
      ∃ tags, List.Forall₂ TagGroup.Shows groups tags ∧ readFor owner raw = .ok tags := by
    intro groups made
    obtain ⟨tags, shows⟩ := exists_tags_of_groups groups
    exact ⟨tags, shows, (owned tags).mpr (readAll_eq_ok_iff.mpr ⟨groups, made, shows⟩)⟩
  refine ⟨withoutBackticks (trim raw.toList), fun other => isInside_iff, ⟨?_, ?_⟩, ?_, ?_⟩
  · rintro ⟨tags, run⟩
    obtain ⟨groups, made, -⟩ := readAll_eq_ok_iff.mp ((owned tags).mp run)
    exact ⟨groups, made⟩
  · rintro ⟨groups, made⟩
    obtain ⟨tags, -, run⟩ := complete groups made
    exact ⟨tags, run⟩
  · intro tags groups run made
    obtain ⟨tags', shows, run'⟩ := complete groups made
    obtain rfl : tags' = tags := Except.ok.inj (run'.symm.trans run)
    exact shows
  · intro unmade
    rw [readFor]
    cases run : readAll raw with
    | ok tags =>
        obtain ⟨groups, made, -⟩ := readAll_eq_ok_iff.mp run
        exact absurd made (unmade groups)
    | error fault => exact ⟨fault, rfl⟩

end Tag

end ApiDoc
