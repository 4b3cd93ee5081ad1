/-
# The grammar of type expressions

A type expression is derived by a grammar: a pointer, a list, a list with a declared length, a
map, one of the two spellings of the type of any value, or a name, with blanks allowed between
the parts.  A derivation keeps its blanks and lengths, so it determines its text.  The reader
accepts exactly the texts that have a derivation, and no text has two.

The reader looks for the bracket behind a length without counting and for the one behind a key
by counting.  Both find the bracket of the derivation: a length holds no brackets, and the text
of a key closes those that it opens.
-/

import ApiDoc.Proofs.Traversal
import ApiDoc.Proofs.TypeParts
import ApiDoc.Spec.Decode
import ApiDoc.Json.Source

namespace ApiDoc

open ApiDoc.Text

namespace TypeExpr

/-! ## Derivations -/

/-- A declared length: one or more decimal digits. -/
abbrev Length := { s : List Char // s ≠ [] ∧ ∀ c ∈ s, c.isDigit }

/-- A name other than the one that stands for any value. -/
abbrev Name := { name : String // IsName name ∧ name ≠ "any" }

instance (name : String) : Decidable (StartsUpper name) :=
  decidable_of_iff (name.toList.head?.any isUppercase = true) (Option.any_eq_true _ _)

/-- The type that a name stands for: a struct if it has no dot and a capital in front, and a
scalar otherwise. -/
def ofName (name : String) : TypeExpr :=
  if '.' ∉ name.toList ∧ StartsUpper name then reference name else scalar name

/-- The derivations of type expressions. -/
inductive Derivation where
  | pointer (gap : Gap) (target : Derivation)
  | list (gap : Gap) (element : Derivation)
  | listOfLength (before : Gap) (length : Length) (after gap : Gap) (element : Derivation)
  | map (before : Gap) (key : Derivation) (after gap : Gap) (value : Derivation)
  | any
  | interface (before inside : Gap)
  | named (name : Name)

namespace Derivation

/-- The text that is derived. -/
def text : Derivation → List Char
  | pointer gap target => '*' :: (gap.1 ++ target.text)
  | list gap element => '[' :: ']' :: (gap.1 ++ element.text)
  | listOfLength before length after gap element =>
      '[' :: (before.1 ++ length.1 ++ after.1 ++ ']' :: (gap.1 ++ element.text))
  | map before key after gap value =>
      'm' :: 'a' :: 'p' :: '[' ::
        (before.1 ++ key.text ++ after.1 ++ ']' :: (gap.1 ++ value.text))
  | any => ['a', 'n', 'y']
  | interface before inside =>
      ['i', 'n', 't', 'e', 'r', 'f', 'a', 'c', 'e'] ++
        (before.1 ++ '\x7b' :: (inside.1 ++ ['\x7d']))
  | named name => name.1.toList

/-- The type that a derivation is of.  Lengths are forgotten. -/
def type : Derivation → TypeExpr
  | pointer _ target => .pointer target.type
  | list _ element => .array element.type
  | listOfLength _ _ _ _ element => .array element.type
  | map _ key _ _ value => .map key.type value.type
  | any => .dynamic
  | interface _ _ => .dynamic
  | named name => ofName name.1

end Derivation

/-! ## The text of a derivation -/

variable {d e : Derivation}

theorem Name.toList_ne_nil (name : Name) : name.1.toList ≠ [] :=
  mt String.toList_eq_nil_iff.mp name.2.1.nonempty

theorem Derivation.text_ne_nil (d : Derivation) : d.text ≠ [] := by
  cases d with
  | named name => exact name.toList_ne_nil
  | _ => exact List.cons_ne_nil _ _

theorem isTrimmed_braces (inside : Gap) : IsTrimmed ('\x7b' :: (inside.1 ++ ['\x7d'])) := by
  have closing : IsTrimmed ['\x7d'] := by decide
  exact closing.of_suffix (List.cons_ne_nil _ _) (by decide) ⟨'\x7b' :: inside.1, rfl⟩

/-- A text that is derived has no blanks at its ends. -/
theorem Derivation.isTrimmed_text (d : Derivation) : IsTrimmed d.text := by
  induction d with
  | pointer gap target ih =>
      exact ih.of_suffix target.text_ne_nil (by decide) ⟨'*' :: gap.1, rfl⟩
  | list gap element ih =>
      exact ih.of_suffix element.text_ne_nil (by decide) ⟨'[' :: ']' :: gap.1, rfl⟩
  | listOfLength before length after gap element ih =>
      refine ih.of_suffix element.text_ne_nil (by decide)
        ⟨'[' :: (before.1 ++ length.1 ++ after.1 ++ ']' :: gap.1), ?_⟩
      simp
  | map before key after gap value ihKey ihValue =>
      refine ihValue.of_suffix value.text_ne_nil (by decide)
        ⟨'m' :: 'a' :: 'p' :: '[' :: (before.1 ++ key.text ++ after.1 ++ ']' :: gap.1), ?_⟩
      simp
  | any => decide
  | interface before inside =>
      exact (isTrimmed_braces inside).of_suffix (List.cons_ne_nil _ _) (by decide)
        ⟨['i', 'n', 't', 'e', 'r', 'f', 'a', 'c', 'e'] ++ before.1, by simp⟩
  | named name =>
      exact IsTrimmed.of_solid fun c inName =>
        isBlank_eq_false_of_isNameChar (name.2.1.all_isNameChar c inName)

/-! ## Brackets -/

theorem ne_brackets {p : Char → Bool} (noOpening : p '[' = false) (noClosing : p ']' = false)
    {c : Char} (holds : p c) : c ≠ '[' ∧ c ≠ ']' := by
  constructor
  · rintro rfl
    rw [noOpening] at holds
    cases holds
  · rintro rfl
    rw [noClosing] at holds
    cases holds

theorem isBalanced_gap (gap : Gap) : IsBalanced gap.1 :=
  IsBalanced.of_noBrackets fun c inGap => ne_brackets (by decide) (by decide) (gap.2 c inGap)

/-- No bracket stands between the brackets of a length. -/
theorem forall_ne_brackets_length (before after : Gap) (length : Length) :
    ∀ c ∈ before.1 ++ length.1 ++ after.1, c ≠ '[' ∧ c ≠ ']' := by
  simp only [List.forall_mem_append]
  exact ⟨⟨fun c inGap => ne_brackets (by decide) (by decide) (before.2 c inGap),
    fun c isDigit => ne_brackets (by decide) (by decide) (length.2.2 c isDigit)⟩,
    fun c inGap => ne_brackets (by decide) (by decide) (after.2 c inGap)⟩

/-- A text that is derived closes the brackets that it opens. -/
theorem Derivation.isBalanced_text (d : Derivation) : IsBalanced d.text := by
  induction d with
  | pointer gap target ih =>
      exact ((isBalanced_gap gap).append ih).cons (by decide) (by decide)
  | list gap element ih =>
      exact IsBalanced.nil.bracket.append ((isBalanced_gap gap).append ih)
  | listOfLength before length after gap element ih =>
      have inside := IsBalanced.of_noBrackets (forall_ne_brackets_length before after length)
      have whole := inside.bracket.append ((isBalanced_gap gap).append ih)
      rwa [List.cons_append, List.append_assoc _ [']']] at whole
  | map before key after gap value ihKey ihValue =>
      have inside := ((isBalanced_gap before).append ihKey).append (isBalanced_gap after)
      have whole := inside.bracket.append ((isBalanced_gap gap).append ihValue)
      rw [List.cons_append, List.append_assoc _ [']']] at whole
      exact ((whole.cons (by decide) (by decide)).cons (by decide) (by decide)).cons
        (by decide) (by decide)
  | any => exact IsBalanced.of_noBrackets (by simp [Derivation.text])
  | interface before inside =>
      have word : IsBalanced ['i', 'n', 't', 'e', 'r', 'f', 'a', 'c', 'e'] :=
        IsBalanced.of_noBrackets (by simp)
      have braces : IsBalanced ('\x7b' :: (inside.1 ++ ['\x7d'])) :=
        ((isBalanced_gap inside).append (IsBalanced.of_noBrackets (by simp))).cons
          (by decide) (by decide)
      exact word.append ((isBalanced_gap before).append braces)
  | named name =>
      exact IsBalanced.of_noBrackets fun c inName =>
        ne_brackets (by decide) (by decide) (name.2.1.all_isNameChar c inName)

/-! ## What is derived is read -/

theorem isBlank_eq_false_of_isDigit {c : Char} (digit : c.isDigit) : isBlank c = false := by
  simp only [Char.isDigit, Bool.and_eq_true, decide_eq_true_iff, UInt32.le_iff_toNat_le] at digit
  have low : 48 ≤ c.toNat := digit.1
  have high : c.toNat ≤ 57 := digit.2
  by_contra blank
  rw [Bool.not_eq_false] at blank
  have code := mem_blankCodes_of_isBlank blank
  simp only [blankCodes, List.mem_cons, List.not_mem_nil, or_false] at code
  omega

theorem isLength_iff {s : List Char} : isLength s = true ↔ s ≠ [] ∧ ∀ c ∈ s, c.isDigit := by
  simp [isLength]

/-- The blanks around a length are all that trimming takes away. -/
theorem Length.trim_eq (length : Length) (before after : Gap) :
    trim (before.1 ++ length.1 ++ after.1) = length.1 := by
  have solid : ∀ c ∈ length.1, isBlank c = false :=
    fun c inLength => isBlank_eq_false_of_isDigit (length.2.2 c inLength)
  exact trim_append_of_blank before.2 (IsTrimmed.of_solid solid) after.2

/-- A list with a length does not begin like one without. -/
theorem Length.ne_closing_cons (length : Length) (before after : Gap) (rest more : List Char) :
    before.1 ++ length.1 ++ after.1 ++ ']' :: rest ≠ ']' :: more := by
  intro same
  have plain := forall_ne_brackets_length before after length
  cases inside : before.1 ++ length.1 ++ after.1 with
  | nil => exact length.2.1 (List.append_eq_nil_iff.mp (List.append_eq_nil_iff.mp inside).1).2
  | cons c others =>
      rw [inside, List.cons_append, List.cons.injEq] at same
      exact (plain c (by rw [inside]; exact List.mem_cons_self)).2 same.1

theorem readTrimmed_pointer (gap : Gap) (d : Derivation) :
    readTrimmed ('*' :: (gap.1 ++ d.text)) = (readTrimmed d.text).map .pointer := by
  rw [readTrimmed, d.isTrimmed_text.trimStart_gap_append]

theorem readTrimmed_list (gap : Gap) (d : Derivation) :
    readTrimmed ('[' :: ']' :: (gap.1 ++ d.text)) = (readTrimmed d.text).map .array := by
  rw [readTrimmed, d.isTrimmed_text.trimStart_gap_append]

/-- The first closing bracket is the one behind the length. -/
theorem readTrimmed_listOfLength (before after gap : Gap) (length : Length) (d : Derivation) :
    readTrimmed ('[' :: (before.1 ++ length.1 ++ after.1 ++ ']' :: (gap.1 ++ d.text))) =
      (readTrimmed d.text).map .array := by
  have absent : ']' ∉ before.1 ++ length.1 ++ after.1 := fun closing =>
    (forall_ne_brackets_length before after length _ closing).2 rfl
  have found := cut_append_cons absent (gap.1 ++ d.text)
  have isLength : isLength (trim (before.1 ++ length.1 ++ after.1)) := by
    rw [length.trim_eq, isLength_iff]
    exact length.2
  rw [readTrimmed.eq_4 _ (length.ne_closing_cons before after _)]
  split
  · next missing =>
      rw [found] at missing
      cases missing
  · next inside element split =>
      obtain ⟨rfl, rfl⟩ := Prod.mk.inj (Option.some.inj (found.symm.trans split))
      rw [if_pos isLength, d.isTrimmed_text.trimStart_gap_append]

/-- The closing bracket at the right depth is the one behind the key. -/
theorem readTrimmed_map (before after gap : Gap) (key value : Derivation) :
    readTrimmed ('m' :: 'a' :: 'p' :: '[' ::
        (before.1 ++ key.text ++ after.1 ++ ']' :: (gap.1 ++ value.text))) = do
      let k ← readTrimmed key.text
      let v ← readTrimmed value.text
      return .map k v := by
  have balanced :=
    ((isBalanced_gap before).append key.isBalanced_text).append (isBalanced_gap after)
  have found := balanced.splitClosing_eq (gap.1 ++ value.text)
  rw [readTrimmed]
  split
  · next missing =>
      rw [found] at missing
      cases missing
  · next keyText valueText split =>
      obtain ⟨rfl, rfl⟩ := Prod.mk.inj (Option.some.inj (found.symm.trans split))
      rw [trim_append_of_blank before.2 key.isTrimmed_text after.2,
        value.isTrimmed_text.trimStart_gap_append]

/-- A name is read as the type that it stands for. -/
theorem readName_of_name (name : Name) : readName name.1.toList = .ok (ofName name.1) := by
  rw [readName_of_isName name.2.1 name.2.2, ofName]
  simp only [looksLikeStruct_iff]
  split <;> rfl

theorem isEmptyInterface_interface (before inside : Gap) :
    isEmptyInterface (Derivation.interface before inside).text = true := by
  have noBlanks : ∀ gap : Gap, gap.1.filter (!isBlank ·) = [] := fun gap => by
    simpa [List.filter_eq_nil_iff, IsBlankText] using gap.2
  have braces : (before.1 ++ '\x7b' :: (inside.1 ++ ['\x7d'])).filter (!isBlank ·) =
      ['\x7b', '\x7d'] := by
    rw [List.filter_append, List.filter_cons_of_pos (by decide), List.filter_append, noBlanks,
      noBlanks]
    rfl
  rw [isEmptyInterface, Bool.and_eq_true, beq_iff_eq]
  exact ⟨rfl, braces⟩

/-- The reader finds the type of every derivation in its text. -/
theorem readTrimmed_derivation (d : Derivation) : readTrimmed d.text = .ok d.type := by
  induction d with
  | pointer gap target ih =>
      rw [Derivation.text, readTrimmed_pointer, ih]
      rfl
  | list gap element ih =>
      rw [Derivation.text, readTrimmed_list, ih]
      rfl
  | listOfLength before length after gap element ih =>
      rw [Derivation.text, readTrimmed_listOfLength, ih]
      rfl
  | map before key after gap value ihKey ihValue =>
      rw [Derivation.text, readTrimmed_map, ihKey, ihValue]
      rfl
  | any => exact readTrimmed_eq_readName (by decide) (by decide) (by decide) (by decide)
  | interface before inside =>
      have read : readTrimmed (Derivation.interface before inside).text =
          readName (Derivation.interface before inside).text := by
        apply readTrimmed_eq_readName <;> simp [Derivation.text]
      have braces := isEmptyInterface_interface before inside
      rw [read, readName, if_pos (Or.inr braces)]
      rfl
  | named name =>
      rw [Derivation.text, readTrimmed_of_isName name.2.1, readName_of_name]
      rfl

/-! ## What is read is derived -/

/-- A text that spells the type of any value with braces is derived. -/
theorem exists_interface {s : List Char} (trimmed : IsTrimmed s) (spells : isEmptyInterface s) :
    ∃ before inside, (Derivation.interface before inside).text = s := by
  rw [isEmptyInterface, Bool.and_eq_true, List.isPrefixOf_iff_prefix, beq_iff_eq] at spells
  obtain ⟨⟨rest, rfl⟩, braces⟩ := spells
  rw [show "interface".length = "interface".toList.length from rfl, List.drop_left] at braces
  -- The filter finds the two braces and leaves only blanks before, between and behind them.
  obtain ⟨before, behind, rfl, blankBefore, -, braces⟩ := List.filter_eq_cons_iff.mp braces
  obtain ⟨inside, after, rfl, blankInside, -, braces⟩ := List.filter_eq_cons_iff.mp braces
  have blankAfter := List.filter_eq_nil_iff.mp braces
  simp only [Bool.not_eq_true', Bool.not_eq_false] at blankBefore blankInside blankAfter
  have noneAfter : after = [] := by
    by_contra nonempty
    have solid : isBlank (after.getLast nonempty) = false := by
      refine trimmed.back _ ?_
      simp [List.getLast?_append, List.getLast?_cons, List.getLast?_eq_some_getLast nonempty]
    rw [blankAfter _ (List.getLast_mem nonempty)] at solid
    cases solid
  subst noneAfter
  exact ⟨⟨before, blankBefore⟩, ⟨inside, blankInside⟩, rfl⟩

theorem exists_derivation_of_readName {s : List Char} {t : TypeExpr} (trimmed : IsTrimmed s)
    (nonempty : s ≠ []) (run : readName s = .ok t) : ∃ d : Derivation, d.text = s ∧ d.type = t := by
  have read := run
  rw [readName] at read
  split at read
  next isAny =>
    obtain rfl := Except.ok.inj read
    rcases isAny with rfl | spells
    · exact ⟨.any, rfl, rfl⟩
    · obtain ⟨before, inside, derived⟩ := exists_interface trimmed spells
      exact ⟨.interface before inside, derived, rfl⟩
  next notAny =>
  split at read
  · cases read
  next characters =>
  split at read
  · cases read
  next ends =>
  have back : (String.ofList s).toList = s := String.toList_ofList
  have isName : IsName (String.ofList s) :=
    isName_ofList nonempty (by simpa using characters) ends
  have other : String.ofList s ≠ "any" := fun same => notAny (Or.inl (by rw [← same, back]))
  rw [← back, readName_of_name ⟨_, isName, other⟩] at run
  exact ⟨.named ⟨_, isName, other⟩, back, Except.ok.inj run⟩

/-- Whatever is read has a derivation of the type that comes out. -/
theorem exists_derivation_of_readTrimmed {s : List Char} {t : TypeExpr} (trimmed : IsTrimmed s)
    (run : readTrimmed s = .ok t) : ∃ d : Derivation, d.text = s ∧ d.type = t := by
  -- The induction follows the reader: every part that it reads is trimmed again.
  fun_induction readTrimmed s generalizing t with
  | case1 => cases run
  | case2 rest ih =>
      obtain ⟨target, inner, rfl⟩ := map_eq_ok_iff.mp run
      obtain ⟨gap, split⟩ := exists_gap_trimStart rest
      obtain ⟨d, derived, rfl⟩ := ih (trimmed.trimStart_of_suffix ⟨['*'], rfl⟩) inner
      exact ⟨.pointer gap d, by rw [Derivation.text, derived, ← split], rfl⟩
  | case3 rest ih =>
      obtain ⟨element, inner, rfl⟩ := map_eq_ok_iff.mp run
      obtain ⟨gap, split⟩ := exists_gap_trimStart rest
      obtain ⟨d, derived, rfl⟩ := ih (trimmed.trimStart_of_suffix ⟨['[', ']'], rfl⟩) inner
      exact ⟨.list gap d, by rw [Derivation.text, derived, ← split], rfl⟩
  | case4 => cases run
  | case5 rest _ length elementText found isLength ih =>
      obtain ⟨element, inner, rfl⟩ := map_eq_ok_iff.mp run
      obtain rfl := eq_append_of_cut found
      obtain ⟨gap, split⟩ := exists_gap_trimStart elementText
      obtain ⟨before, after, whole⟩ := exists_gaps_trim length
      obtain ⟨d, derived, rfl⟩ := ih
        (trimmed.trimStart_of_suffix ⟨'[' :: (length ++ [']']), by simp⟩) inner
      refine ⟨.listOfLength before ⟨trim length, isLength_iff.mp isLength⟩ after gap d, ?_, rfl⟩
      rw [Derivation.text, derived, ← split, ← whole]
  | case6 => cases run
  | case7 => cases run
  | case8 rest keyText valueText found ihKey ihValue =>
      obtain ⟨key, keyRun, run⟩ := bind_eq_ok_iff.mp run
      obtain ⟨value, valueRun, result⟩ := bind_eq_ok_iff.mp run
      obtain rfl := Except.ok.inj result
      obtain rfl := eq_append_of_splitClosing found
      obtain ⟨gap, split⟩ := exists_gap_trimStart valueText
      obtain ⟨before, after, whole⟩ := exists_gaps_trim keyText
      obtain ⟨k, keyDerived, rfl⟩ := ihKey (isTrimmed_trim keyText) keyRun
      obtain ⟨v, valueDerived, rfl⟩ := ihValue
        (trimmed.trimStart_of_suffix ⟨'m' :: 'a' :: 'p' :: '[' :: (keyText ++ [']']), by simp⟩)
        valueRun
      refine ⟨.map before k after gap v, ?_, rfl⟩
      rw [Derivation.text, keyDerived, valueDerived, ← split, ← whole]
  | case9 name nonempty => exact exists_derivation_of_readName trimmed nonempty run

/-! ## No text has two derivations -/

/-- What a derivation starts with: the rule that is applied last. -/
inductive Rule where
  | pointer
  | list
  | listOfLength
  | map
  | any
  | interface
  | named
  deriving DecidableEq

namespace Derivation

/-- The rule that a derivation applies last. -/
def rule : Derivation → Rule
  | pointer .. => .pointer
  | list .. => .list
  | listOfLength .. => .listOfLength
  | map .. => .map
  | any => .any
  | interface .. => .interface
  | named _ => .named

end Derivation

/-- The rule that a text must come from. -/
def Rule.of : List Char → Rule
  | '*' :: _ => pointer
  | '[' :: ']' :: _ => list
  | '[' :: _ => listOfLength
  | 'm' :: 'a' :: 'p' :: '[' :: _ => map
  | s => if s = ['a', 'n', 'y'] then any else if '\x7b' ∈ s then interface else named

theorem Name.not_mem {c : Char} (name : Name) (special : isNameChar c = false) :
    c ∉ name.1.toList := by
  intro inName
  rw [name.2.1.all_isNameChar c inName] at special
  cases special

/-- The text of a derivation tells its last rule. -/
theorem Rule.of_text (d : Derivation) : Rule.of d.text = d.rule := by
  cases d with
  | pointer => rfl
  | list => rfl
  | listOfLength before length after gap element =>
      rw [Derivation.text, Rule.of]
      · rfl
      · exact length.ne_closing_cons before after _
  | map => rfl
  | any => rfl
  | interface => simp [Derivation.text, Rule.of, Derivation.rule]
  | named name =>
      have noStar : '*' ∉ name.1.toList := name.not_mem (by decide)
      have noBracket : '[' ∉ name.1.toList := name.not_mem (by decide)
      have noBrace : '\x7b' ∉ name.1.toList := name.not_mem (by decide)
      have other : name.1.toList ≠ ['a', 'n', 'y'] := fun same =>
        name.2.2 (String.toList_inj.mp same)
      rw [Derivation.text, Rule.of.eq_def]
      split
      · next start => simp [start] at noStar
      · next start => simp [start] at noBracket
      · next start => simp [start] at noBracket
      · next start => simp [start] at noBracket
      · rw [if_neg other, if_neg noBrace]
        rfl

theorem Derivation.rule_eq_of_text_eq {d e : Derivation} (same : d.text = e.text) :
    d.rule = e.rule := by
  rw [← Rule.of_text, same, Rule.of_text]

/-- The text around a length tells where the length stands. -/
theorem Length.gaps_inj {length length' : Length} {before after before' after' : Gap}
    {rest rest' : List Char}
    (same : before.1 ++ length.1 ++ after.1 ++ ']' :: rest =
      before'.1 ++ length'.1 ++ after'.1 ++ ']' :: rest') :
    before = before' ∧ length = length' ∧ after = after' ∧ rest = rest' := by
  have absent : ∀ (length : Length) (before after : Gap),
      ']' ∉ before.1 ++ length.1 ++ after.1 := fun length before after closing =>
    (forall_ne_brackets_length before after length _ closing).2 rfl
  have trimmed : ∀ length : Length, IsTrimmed length.1 := fun length =>
    IsTrimmed.of_solid fun c inLength => isBlank_eq_false_of_isDigit (length.2.2 c inLength)
  have found := cut_append_cons (absent length before after) rest
  rw [same, cut_append_cons (absent length' before' after')] at found
  obtain ⟨inside, rfl⟩ := Prod.mk.inj (Option.some.inj found)
  obtain ⟨sameBefore, sameLength, sameAfter⟩ :=
    (trimmed length).gaps_inj (trimmed length') length.2.1 inside.symm
  exact ⟨sameBefore, Subtype.ext sameLength, sameAfter, rfl⟩

/-- A text has at most one derivation. -/
theorem Derivation.text_injective : Function.Injective Derivation.text := by
  -- Both derivations apply the same rule last, and each of their parts has the same text.
  intro d
  induction d with
  | pointer gap target ih =>
      intro e same
      cases e with
      | pointer gap' target' =>
          obtain ⟨rfl, inner⟩ := gap_append_inj target.isTrimmed_text.trimStart_eq
            target'.isTrimmed_text.trimStart_eq (List.cons.inj same).2
          rw [ih inner]
      | _ => cases rule_eq_of_text_eq same
  | list gap element ih =>
      intro e same
      cases e with
      | list gap' element' =>
          obtain ⟨rfl, inner⟩ := gap_append_inj element.isTrimmed_text.trimStart_eq
            element'.isTrimmed_text.trimStart_eq (List.cons.inj (List.cons.inj same).2).2
          rw [ih inner]
      | _ => cases rule_eq_of_text_eq same
  | listOfLength before length after gap element ih =>
      intro e same
      cases e with
      | listOfLength before' length' after' gap' element' =>
          obtain ⟨rfl, rfl, rfl, behind⟩ := Length.gaps_inj (List.cons.inj same).2
          obtain ⟨rfl, inner⟩ := gap_append_inj element.isTrimmed_text.trimStart_eq
            element'.isTrimmed_text.trimStart_eq behind
          rw [ih inner]
      | _ => cases rule_eq_of_text_eq same
  | map before key after gap value ihKey ihValue =>
      intro e same
      cases e with
      | map before' key' after' gap' value' =>
          have balanced : ∀ (key : Derivation) (before after : Gap),
              IsBalanced (before.1 ++ key.text ++ after.1) := fun key before after =>
            ((isBalanced_gap before).append key.isBalanced_text).append (isBalanced_gap after)
          have rest := (List.cons.inj (List.cons.inj (List.cons.inj (List.cons.inj same).2).2).2).2
          have found := (balanced key before after).splitClosing_eq (gap.1 ++ value.text)
          rw [rest, (balanced key' before' after').splitClosing_eq] at found
          obtain ⟨inside, behind⟩ := Prod.mk.inj (Option.some.inj found)
          obtain ⟨rfl, keyText, rfl⟩ := key.isTrimmed_text.gaps_inj key'.isTrimmed_text
            key.text_ne_nil inside.symm
          obtain ⟨rfl, valueText⟩ := gap_append_inj value.isTrimmed_text.trimStart_eq
            value'.isTrimmed_text.trimStart_eq behind.symm
          rw [ihKey keyText, ihValue valueText]
      | _ => cases rule_eq_of_text_eq same
  | any =>
      intro e same
      cases e with
      | any => rfl
      | _ => cases rule_eq_of_text_eq same
  | interface before inside =>
      intro e same
      cases e with
      | interface before' inside' =>
          obtain ⟨rfl, braces⟩ := gap_append_inj (isTrimmed_braces inside).trimStart_eq
            (isTrimmed_braces inside').trimStart_eq (List.append_cancel_left same)
          rw [Subtype.ext (List.append_cancel_right (List.cons.inj braces).2)]
      | _ => cases rule_eq_of_text_eq same
  | named name =>
      intro e same
      cases e with
      | named name' => rw [Subtype.ext (String.toList_inj.mp same)]
      | _ => cases rule_eq_of_text_eq same

/-! ## The reader and the grammar -/

/-- Blanks around a text aside, reading it gives the type of its derivation, of which there is
no second one.  A text without a derivation is malformed, and the error shows it as it is. -/
theorem read_follows_grammar (s : String) :
    (∀ t, read s = .ok t ↔ ∃ d : Derivation, d.text = trim s.toList ∧ d.type = t) ∧
      (∀ d e : Derivation, d.text = trim s.toList → e.text = trim s.toList → d = e) ∧
      ((∀ d : Derivation, d.text ≠ trim s.toList) → ∃ fault, read s = .error fault ∧
        ∀ (ν : Type) [Source ν] (v : ν), Source.text v = .ok s →
          TypeExpr.decode v = .error (.malformedType s fault.reason)) := by
  have derived : ∀ t, read s = .ok t → ∃ d : Derivation, d.text = trim s.toList ∧ d.type = t :=
    fun t run => exists_derivation_of_readTrimmed (isTrimmed_trim s.toList) run
  refine ⟨fun t => ⟨derived t, ?_⟩, ?_, ?_⟩
  · rintro ⟨d, spells, rfl⟩
    rw [read, ← spells, readTrimmed_derivation]
  · exact fun d e first second => Derivation.text_injective (first.trans second.symm)
  · intro underived
    cases run : read s with
    | ok t =>
        obtain ⟨d, spells, -⟩ := derived t run
        exact absurd spells (underived d)
    | error fault =>
        refine ⟨fault, rfl, fun ν _ v isText => ?_⟩
        simp only [TypeExpr.decode, isText, run]

/-- The name of a struct. -/
def item : Name :=
  ⟨String.ofList ['I', 't', 'e', 'm'], isName_ofList (by decide) (by decide) (by decide), by decide⟩

/-- A map whose key holds brackets of its own, with blanks wherever they are allowed. -/
def spacedMap : Derivation :=
  .map ⟨[' '], by decide⟩
    (.listOfLength ⟨['\t'], by decide⟩ ⟨['1', '2'], by simp [Char.isDigit]⟩ ⟨[' '], by decide⟩
      ⟨[], by decide⟩
      (.map ⟨[], by decide⟩ .any ⟨[' '], by decide⟩ ⟨[], by decide⟩ (.named item)))
    ⟨['\n'], by decide⟩ ⟨[' '], by decide⟩
    (.list ⟨[' '], by decide⟩ (.pointer ⟨[' '], by decide⟩
      (.interface ⟨[' ', ' '], by decide⟩ ⟨['\t'], by decide⟩)))

/-- The text of the map is read as its type.  With a blank between the brackets of a list
without a length there is no derivation, and the error shows the text with its blanks. -/
theorem spacedMap_read :
    spacedMap.text =
        trim "  map[ [\t12 ]map[any ]Item\n] [] * interface  \x7b\t\x7d ".toList ∧
      read "  map[ [\t12 ]map[any ]Item\n] [] * interface  \x7b\t\x7d " =
        .ok (.map (.array (.map .dynamic (.reference "Item"))) (.array (.pointer .dynamic))) ∧
      (∀ d : Derivation, d.text ≠ trim " [ ]Item".toList) ∧
      TypeExpr.decode (Json.string " [ ]Item") =
        .error (.malformedType " [ ]Item" "invalid array length ''") := by
  have spells : spacedMap.text =
      trim "  map[ [\t12 ]map[any ]Item\n] [] * interface  \x7b\t\x7d ".toList := by decide
  have refused : read " [ ]Item" = .error (.invalidLength "") := by cbv
  have underived : ∀ d : Derivation, d.text ≠ trim " [ ]Item".toList := by
    intro d same
    rw [read, ← same, readTrimmed_derivation] at refused
    cases refused
  refine ⟨spells, ((read_follows_grammar _).1 _).mpr ⟨spacedMap, spells, by decide⟩, underived, ?_⟩
  obtain ⟨fault, run, decoded⟩ := (read_follows_grammar " [ ]Item").2.2 underived
  obtain rfl : TypeFault.invalidLength "" = fault := Except.error.inj (refused.symm.trans run)
  exact decoded Json (.string " [ ]Item") rfl

end TypeExpr

end ApiDoc
