/-
# Tag lists and their texts

A list of tags can be written in many ways: any blanks may stand between the groups and
around the whole, with or without backticks.  Whichever way it is written, reading gives
the list back.  This holds of exactly the lists that reading produces: those whose keys
end where they seem to end and whose names and options survive trimming and cutting at
commas.
-/

import ApiDoc.Proofs.TagGrammar

namespace ApiDoc

open ApiDoc.Text

namespace Tag

/-! ## Writing tags -/

/-- A character between the quotation marks of a group. -/
def escapedChar (c : Char) : List Char :=
  if c = '\\' ∨ c = '"' then ['\\', c] else [c]

/-- What stands between the quotation marks of a group, before escaping: the name and the
options, set apart by commas. -/
def value (t : Tag) : String :=
  ",".intercalate (t.name :: t.options)

/-- The group of a tag. -/
def text (t : Tag) : String :=
  t.key ++ ":\"" ++ String.ofList (t.value.toList.flatMap escapedChar) ++ "\""

/-- The groups of a list of tags, set apart by blanks. -/
inductive WritesGroups : List Tag → String → Prop
  | none : WritesGroups [] ""
  | one (t : Tag) : WritesGroups [t] t.text
  | more {t next : Tag} {others : List Tag} {gap rest : String} (apart : gap ≠ "")
      (blank : IsBlankText gap.toList) (written : WritesGroups (next :: others) rest) :
      WritesGroups (t :: next :: others) (t.text ++ gap ++ rest)

/-- A text with blanks around it. -/
def Pads (s padded : String) : Prop :=
  ∃ before after : String, IsBlankText before.toList ∧ IsBlankText after.toList ∧
    padded = before ++ s ++ after

/-- The ways to write a list of tags: the groups alone or between backticks, with blanks
around them. -/
inductive Writes (tags : List Tag) : String → Prop
  | bare {groups raw : String} (written : WritesGroups tags groups) (around : Pads groups raw) :
      Writes tags raw
  | inBackticks {groups inner raw : String} (written : WritesGroups tags groups)
      (inside : Pads groups inner) (around : Pads ("`" ++ inner ++ "`") raw) : Writes tags raw

/-- One way to write a list of tags: a single blank sets groups apart. -/
def listText (tags : List Tag) : String :=
  " ".intercalate (tags.map text)

/-! ## The tags that can be written -/

/-- A key that ends at its colon. -/
structure IsKey (key : String) : Prop where
  nonempty : key ≠ ""
  characters : ∀ c ∈ key.toList, c ≠ ':' ∧ c ≠ '"' ∧ isBlank c = false

/-- A text that survives between commas. -/
@[mk_iff]
structure IsPart (part : String) : Prop where
  noComma : ',' ∉ part.toList
  trimmed : IsTrimmed part.toList

/-- A tag whose group stands for no other tag. -/
@[mk_iff]
structure IsWellFormed (t : Tag) : Prop where
  key : IsKey t.key
  name : IsPart t.name
  options : ∀ o ∈ t.options, o ≠ "" ∧ IsPart o

/-- Tags that can stand in one list. -/
@[mk_iff]
structure AreWellFormed (tags : List Tag) : Prop where
  distinct : (tags.map Tag.key).Nodup
  each : ∀ t ∈ tags, t.IsWellFormed

theorem isKey_iff {key : String} : IsKey key ↔ key ≠ "" ∧ key.toList.all isKeyChar = true := by
  simp only [List.all_eq_true, isKeyChar_iff]
  exact ⟨fun isKey => ⟨isKey.nonempty, isKey.characters⟩, fun each => ⟨each.1, each.2⟩⟩

instance (key : String) : Decidable (IsKey key) :=
  decidable_of_iff _ isKey_iff.symm

instance (part : String) : Decidable (IsPart part) :=
  decidable_of_iff _ (isPart_iff part).symm

instance (t : Tag) : Decidable t.IsWellFormed :=
  decidable_of_iff _ (isWellFormed_iff t).symm

instance (tags : List Tag) : Decidable (AreWellFormed tags) :=
  decidable_of_iff _ (areWellFormed_iff tags).symm

/-! ## The group of a tag -/

variable {t : Tag} {tags : List Tag} {groups : List TagGroup} {s : List Char}

/-- Cutting the value of a tag at its commas gives the name and the options. -/
theorem ofValue_value (wellFormed : t.IsWellFormed) : ofValue t.key.toList t.value.toList = t := by
  have isPart : ∀ part ∈ t.name :: t.options, IsPart part :=
    List.forall_mem_cons.mpr ⟨wellFormed.name, fun o listed => (wellFormed.options o listed).2⟩
  have parts : t.value.toList.splitOn ',' = (t.name :: t.options).map String.toList := by
    rw [value, String.toList_intercalate]
    refine List.splitOn_intercalate ',' ?_ (by simp)
    rw [List.forall_mem_map]
    exact fun part listed => (isPart part listed).noComma
  have trimmed : ((t.name :: t.options).map String.toList).map trim =
      (t.name :: t.options).map String.toList := by
    rw [List.map_map]
    exact List.map_congr_left fun part listed => (isPart part listed).trimmed.trim_eq
  have options : (t.options.map String.toList).filter (fun p => !p.isEmpty) =
      t.options.map String.toList := by
    rw [List.filter_eq_self, List.forall_mem_map]
    intro o listed
    simpa using (wellFormed.options o listed).1
  rw [ofValue, parts, trimmed]
  simp [options, Function.comp_def]

/-- A character of a value as the grammar has it: behind a backslash where that is needed. -/
def item (c : Char) : TagItem :=
  if ordinary : c ≠ '\\' ∧ c ≠ '"' then .plain c ordinary else .escaped c

theorem char_item (c : Char) : (item c).char = c := by
  rw [item]
  split <;> rfl

theorem text_item (c : Char) : (item c).text = escapedChar c := by
  by_cases ordinary : c ≠ '\\' ∧ c ≠ '"'
  · rw [item, dif_pos ordinary, escapedChar, if_neg (not_or.mpr ordinary)]
    rfl
  · have special : c = '\\' ∨ c = '"' := by rwa [← not_or, not_not] at ordinary
    rw [item, dif_neg ordinary, escapedChar, if_pos special]
    rfl

/-- The group that a tag is written as. -/
def IsWellFormed.group (wellFormed : t.IsWellFormed) : TagGroup where
  key := t.key.toList
  nonempty := mt String.toList_eq_nil_iff.mp wellFormed.key.nonempty
  characters := wellFormed.key.characters
  items := t.value.toList.map item

theorem IsWellFormed.text_group (wellFormed : t.IsWellFormed) :
    wellFormed.group.text = t.text.toList := by
  simp [TagGroup.text, group, Tag.text, List.flatMap_map, text_item]

theorem IsWellFormed.shows_group (wellFormed : t.IsWellFormed) : wellFormed.group.Shows t := by
  have value : wellFormed.group.value = t.value.toList := by
    simp [TagGroup.value, group, Function.comp_def, char_item]
  rw [shows_iff, value]
  exact (ofValue_value wellFormed).symm

/-! ## Reading a list back -/

/-- Tags are written as their groups are spelled. -/
theorem exists_spellsGroups_of_writesGroups {text : String} (written : WritesGroups tags text)
    (wellFormed : ∀ t ∈ tags, t.IsWellFormed) :
    ∃ groups, SpellsGroups groups text.toList ∧ List.Forall₂ TagGroup.Shows groups tags := by
  induction written with
  | none => exact ⟨[], .none, .nil⟩
  | one t =>
      have first : t.IsWellFormed := wellFormed t List.mem_cons_self
      rw [← first.text_group]
      exact ⟨[first.group], .one first.group, .cons first.shows_group .nil⟩
  | @more t next others gap rest apart blank _ ih =>
      have first : t.IsWellFormed := wellFormed t List.mem_cons_self
      obtain ⟨groups, spelled, shows⟩ := ih (List.forall_mem_cons.mp wellFormed).2
      obtain ⟨g, more, -, -, rfl⟩ := List.forall₂_cons_right_iff.mp shows
      let between : Gap := ⟨gap.toList, blank⟩
      have long : SpellsGroups (first.group :: g :: more)
          (first.group.text ++ (between.1 ++ rest.toList)) :=
        .more first.group (mt String.toList_eq_nil_iff.mp apart) spelled
      refine ⟨first.group :: g :: more, ?_, .cons first.shows_group shows⟩
      rwa [String.toList_append, String.toList_append, List.append_assoc, ← first.text_group]

/-- Groups end with a quotation mark. -/
theorem getLast?_of_spellsGroups (spelled : SpellsGroups groups s) (nonempty : groups ≠ []) :
    s.getLast? = some '"' := by
  have ofText : ∀ g : TagGroup, g.text.getLast? = some '"' := by
    intro g
    rw [TagGroup.text, ← List.cons_append, ← List.cons_append, ← List.append_assoc]
    exact List.getLast?_concat
  induction spelled with
  | none => exact absurd rfl nonempty
  | one g => exact ofText g
  | more g _ _ ih =>
      rw [List.getLast?_append, List.getLast?_append, ih (List.cons_ne_nil _ _), Option.some_or,
        Option.some_or]

/-- Groups start with a key and end with a quotation mark, so they have no blanks at
their ends and are not between backticks. -/
theorem ends_of_spellsGroups (spelled : SpellsGroups groups s) :
    IsTrimmed s ∧ s.getLast? ≠ some '`' := by
  have starts : startsBlank s = false ∨ s = [] := by
    cases spelled with
    | none => exact Or.inr rfl
    | one g => exact Or.inl (List.append_nil g.text ▸ startsBlank_group_append g [])
    | more g => exact Or.inl (startsBlank_group_append g _)
  have closes : ∀ c, s.getLast? = some c → c = '"' := by
    intro c isLast
    cases groups with
    | nil =>
        cases spelled
        cases isLast
    | cons g others =>
        rw [getLast?_of_spellsGroups spelled (List.cons_ne_nil _ _)] at isLast
        exact (Option.some.inj isLast).symm
  refine ⟨IsTrimmed.mk ?_ ?_, ?_⟩
  · intro c isFirst
    rcases starts with solid | rfl
    · rw [← trimStart_of_startsBlank_eq_false solid] at isFirst
      exact eq_false_of_head?_dropWhile isFirst
    · cases isFirst
  · intro c isLast
    rw [closes c isLast]
    decide
  · intro isLast
    exact absurd (closes '`' isLast) (by decide)

theorem withoutBackticks_eq_self (other : s.getLast? ≠ some '`') : withoutBackticks s = s := by
  rw [withoutBackticks.eq_def]
  split
  next inner =>
    split
    next isLast =>
      rw [List.getLast?_cons, isLast] at other
      exact absurd rfl other
    · rfl
  · rfl

/-- However tags are written, their groups stand inside, with blanks around them. -/
theorem exists_spelled_of_writes {raw : String} (wellFormed : ∀ t ∈ tags, t.IsWellFormed)
    (written : Writes tags raw) :
    ∃ groups, List.Forall₂ TagGroup.Shows groups tags ∧ ∃ (before after : Gap) (s : List Char),
      SpellsGroups groups s ∧
        withoutBackticks (trim raw.toList) = before.1 ++ (s ++ after.1) := by
  cases written with
  | @bare text raw written around =>
      obtain ⟨before, after, blankBefore, blankAfter, rfl⟩ := around
      obtain ⟨groups, spelled, shows⟩ := exists_spellsGroups_of_writesGroups written wellFormed
      obtain ⟨trimmed, noBacktick⟩ := ends_of_spellsGroups spelled
      have noBlank : IsBlankText [] := nofun
      refine ⟨groups, shows, ⟨[], noBlank⟩, ⟨[], noBlank⟩, text.toList, spelled, ?_⟩
      rw [String.toList_append, String.toList_append,
        trim_append_of_blank blankBefore trimmed blankAfter, withoutBackticks_eq_self noBacktick,
        List.append_nil, List.nil_append]
  | @inBackticks text inner raw written padded around =>
      obtain ⟨before, after, blankBefore, blankAfter, rfl⟩ := around
      obtain ⟨left, right, blankLeft, blankRight, rfl⟩ := padded
      obtain ⟨groups, spelled, shows⟩ := exists_spellsGroups_of_writesGroups written wellFormed
      have shape : ("`" ++ (left ++ text ++ right) ++ "`").toList =
          '`' :: ((left.toList ++ (text.toList ++ right.toList)) ++ ['`']) := by
        simp
      have trimmed : IsTrimmed ("`" ++ (left ++ text ++ right) ++ "`").toList := by
        rw [shape]
        apply IsTrimmed.mk
        · rintro c ⟨⟩
          decide
        · rw [← List.cons_append, List.getLast?_concat]
          rintro c ⟨⟩
          decide
      refine ⟨groups, shows, ⟨left.toList, blankLeft⟩, ⟨right.toList, blankRight⟩, text.toList,
        spelled, ?_⟩
      rw [String.toList_append, String.toList_append,
        trim_append_of_blank blankBefore trimmed blankAfter, shape, withoutBackticks_inBackticks]

/-- A list of tags is read back from whatever it is written as. -/
theorem readAll_of_writes {raw : String} (wellFormed : AreWellFormed tags)
    (written : Writes tags raw) : readAll raw = .ok tags := by
  obtain ⟨groups, shows, spelled⟩ := exists_spelled_of_writes wellFormed.each written
  have distinct := (nodup_keys_iff_of_shows shows).mp wellFormed.distinct
  exact readAll_eq_ok_iff.mpr ⟨groups, ⟨spelled, distinct⟩, shows⟩

/-! ## What reading produces -/

/-- What is trimmed between commas is a part. -/
theorem isPart_of_mem_splitOn {piece s : List Char} (isPiece : piece ∈ s.splitOn ',') :
    IsPart (String.ofList (trim piece)) := by
  apply IsPart.mk
  case noComma =>
    rw [String.toList_ofList]
    exact fun comma => not_mem_of_mem_splitOn isPiece (trim_subset piece comma)
  case trimmed =>
    rw [String.toList_ofList]
    exact isTrimmed_trim piece

theorem isWellFormed_ofValue {key value : List Char} (nonempty : key ≠ [])
    (characters : ∀ c ∈ key, isKeyChar c = true) : (ofValue key value).IsWellFormed := by
  have isPart : ∀ part ∈ (value.splitOn ',').map trim, IsPart (String.ofList part) := by
    rw [List.forall_mem_map]
    exact fun piece isPiece => isPart_of_mem_splitOn isPiece
  apply IsWellFormed.mk
  case key =>
    rw [isKey_iff, ofValue, String.toList_ofList, List.all_eq_true]
    exact ⟨by simpa using nonempty, characters⟩
  case name =>
    rw [ofValue]
    cases parts : (value.splitOn ',').map trim with
    | nil => exact absurd (List.map_eq_nil_iff.mp parts) (List.splitOn_ne_nil ',' value)
    | cons first others => exact isPart first (parts ▸ List.mem_cons_self)
  case options =>
    rw [ofValue, List.forall_mem_map]
    intro part listed
    obtain ⟨inTail, nonempty⟩ := List.mem_filter.mp listed
    exact ⟨by simpa using nonempty, isPart part (List.mem_of_mem_tail inTail)⟩

/-- Whatever is read, the tags that come out can stand in one list. -/
theorem areWellFormed_of_readAll {raw : String} (run : readAll raw = .ok tags) :
    AreWellFormed tags := by
  obtain ⟨groups, made, shows⟩ := readAll_eq_ok_iff.mp run
  refine ⟨(nodup_keys_iff_of_shows shows).mpr made.distinct, fun t listed => ?_⟩
  obtain ⟨g, -, isTag⟩ := exists_left_of_forall₂ shows listed
  rw [shows_iff.mp isTag]
  exact isWellFormed_ofValue g.nonempty fun c inKey => isKeyChar_iff.mpr (g.characters c inKey)

theorem areWellFormed_of_tagged {m : Member} {tagged : TaggedMember}
    (read : m.tagged = .ok tagged) : AreWellFormed tagged.tags := by
  obtain ⟨tags, run, rfl⟩ := map_eq_ok_iff.mp read
  rw [readFor] at run
  split at run
  · next readTags =>
      rw [← Except.ok.inj run]
      exact areWellFormed_of_readAll readTags
  · cases run

/-! ## Lists and texts belong together -/

theorem writesGroups_listText (tags : List Tag) : WritesGroups tags (listText tags) := by
  induction tags with
  | nil => exact WritesGroups.none
  | cons t others ih =>
      cases others with
      | nil =>
          rw [listText, List.map_singleton, String.intercalate_singleton]
          exact WritesGroups.one t
      | cons next more =>
          rw [listText, List.map_cons, List.map_cons, String.intercalate_cons_cons]
          exact WritesGroups.more (by decide) (by decide) ih

theorem writes_listText (tags : List Tag) : Writes tags (listText tags) := by
  refine Writes.bare (writesGroups_listText tags) ⟨"", "", by decide, by decide, ?_⟩
  rw [String.empty_append, String.append_empty]

/-- Tag lists and their texts belong together: however a well-formed list is written, it is
read back, and whatever is read from any text is well formed.  So the list that has been
read can be written, and reading what is written gives it once more. -/
theorem readAll_writes_roundTrip :
    (∀ tags raw, AreWellFormed tags → Writes tags raw → readAll raw = .ok tags) ∧
      (∀ raw tags, readAll raw = .ok tags → AreWellFormed tags) ∧
      ∀ raw tags, readAll raw = .ok tags →
        Writes tags (listText tags) ∧ ∀ other, Writes tags other → readAll other = readAll raw := by
  refine ⟨fun tags raw => readAll_of_writes, fun raw tags => areWellFormed_of_readAll, ?_⟩
  intro raw tags run
  refine ⟨writes_listText tags, fun other written => ?_⟩
  rw [readAll_of_writes (areWellFormed_of_readAll run) written, run]

/-- A tag whose name needs escapes. -/
def marked : Tag :=
  { key := "json", name := "a\\\"b", options := ["x=1"] }

/-- A tag without a name. -/
def unnamed : Tag :=
  { key := "form", name := "", options := [] }

/-- The two tags are read back from between backticks, with blanks of several kinds. -/
theorem marked_unnamed_readAll :
    AreWellFormed [marked, unnamed] ∧
      Writes [marked, unnamed] "\n`json:\"a\\\\\\\"b,x=1\" \tform:\"\" `  " ∧
      readAll "\n`json:\"a\\\\\\\"b,x=1\" \tform:\"\" `  " = .ok [marked, unnamed] := by
  have wellFormed : AreWellFormed [marked, unnamed] := by decide
  have gap : IsBlankText " \t".toList := by decide
  have groups : WritesGroups [marked, unnamed] (marked.text ++ " \t" ++ unnamed.text) :=
    WritesGroups.more (by decide) gap (WritesGroups.one unnamed)
  have written : Writes [marked, unnamed] "\n`json:\"a\\\\\\\"b,x=1\" \tform:\"\" `  " :=
    Writes.inBackticks groups ⟨"", " ", by decide, by decide, rfl⟩
      ⟨"\n", "  ", by decide, by decide, by decide⟩
  exact ⟨wellFormed, written, readAll_writes_roundTrip.1 _ _ wellFormed written⟩

end Tag

end ApiDoc
