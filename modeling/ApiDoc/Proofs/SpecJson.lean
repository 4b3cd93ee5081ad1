/-
# Descriptions are read back

A description is written with all its fields under their names and each type as its text.
Not every value of the model is read back from what is written for it: the name of a scalar
could be `Item[]`, and a table could hold a name twice.  But whatever is read, from values of
any kind, is read back.  Fields that were given by position or left out then stand under
their names, and a type that was spelled in another way stands there as its own text.
-/

import ApiDoc.Proofs.ReadBack
import ApiDoc.Proofs.TypeText
import ApiDoc.Spec.Decode
import ApiDoc.Spec.Encode
import Mathlib.Tactic.Simproc.ExistsAndEq

namespace ApiDoc

open Source Text

variable {ν : Type} [Source ν]

/-! ## Parts of records -/

theorem TypeExpr.decode_eq_ok_iff {v : ν} {t : TypeExpr} :
    TypeExpr.decode v = .ok t ↔ ∃ s, Source.text v = .ok s ∧ TypeExpr.read s = .ok t := by
  rw [TypeExpr.decode]
  cases Source.text v with
  | error cause => simp
  | ok s => cases run : TypeExpr.read s <;> simp [run]

/-- A type that was read is read back from its own text. -/
theorem TypeExpr.readsBack {v : ν} {t : TypeExpr} (read : TypeExpr.decode v = .ok t) :
    TypeExpr.decode (Json.string t.text) = .ok t := by
  obtain ⟨s, -, run⟩ := TypeExpr.decode_eq_ok_iff.mp read
  have wellFormed : t.IsWellFormed := TypeExpr.isWellFormed_of_readTrimmed run
  exact TypeExpr.decode_eq_ok_iff.mpr ⟨t.text, rfl, TypeExpr.read_text wellFormed⟩

theorem Source.optionalText_optionalText (value : Option String) :
    optionalText (Json.optionalText value) = .ok value := by
  cases value <;> rfl

namespace Fields

variable {α : Type} {shape : Shape} {fields : Fields ν} {index : Nat}

/-- A list in a field is read back when everything is that can be one of its elements. -/
theorem readsBack_list {write : α → Json} {decode : ν → Except DecodeError α}
    {decodeJson : Json → Except DecodeError α}
    (back : ∀ v a, decode v = .ok a → decodeJson (write a) = .ok a) {l : List α}
    (read : fields.field shape index (some []) (list decode) = .value l) :
    list decodeJson (Json.array (l.map write)) = .ok l := by
  apply list_array
  refine of_field (P := fun l => ∀ a ∈ l, decodeJson (write a) = .ok a) read ?_ ?_
  · rintro l ⟨⟩ a ⟨⟩
  · exact fun v l elements => of_list back elements

/-- A table in a field is read back. -/
theorem readsBack_textTable {t : Table String}
    (read : fields.field shape index (some .empty) textTable = .value t) :
    textTable (Json.table .string t) = .ok t := by
  apply textTable_table
  refine of_field (P := fun t => t.keys.Nodup) read ?_ ?_
  · rintro t ⟨⟩
    exact List.nodup_nil
  · exact fun v t => nodup_keys_of_textTable

end Fields

/-! ## Records

For each record there are two steps.  It is read exactly when each of its fields is; and since
all its fields are written, it is read back as soon as its parts are. -/

open Reading (ofResult_eq_value_iff)

theorem Member.decode_eq_ok_iff {v : ν} {m : Member} :
    Member.decode v = .ok m ↔ ∃ fields : Fields ν,
      Source.fields Member.shape.expected v = .ok fields ∧
      fields.wellFormed Member.shape = .value () ∧
      fields.field Member.shape 0 none text = .value m.name ∧
      fields.field Member.shape 1 none TypeExpr.decode = .value m.type ∧
      fields.field Member.shape 2 (some "") text = .value m.tag ∧
      fields.field Member.shape 3 (some "") text = .value m.comment ∧
      fields.field Member.shape 4 (some []) (list text) = .value m.docs ∧
      fields.field Member.shape 5 (some false) flag = .value m.isInline := by
  cases m
  simp only [Member.decode, Shape.decode_eq_ok_iff, Reading.exists_apply_iff,
    Reading.value.injEq, exists_eq_left', Member.mk.injEq]
  -- The flag is not to be split into its two values.
  simp [-Bool.exists_bool]

theorem Member.readsBack {v : ν} {m : Member} (read : Member.decode v = .ok m) :
    Member.decode m.toJson = .ok m := by
  obtain ⟨fields, -, -, -, type, -⟩ := Member.decode_eq_ok_iff.mp read
  have typeBack : TypeExpr.decode (Json.string m.type.text) = .ok m.type :=
    Fields.of_field (P := fun t => TypeExpr.decode (Json.string t.text) = .ok t) type (by simp)
      fun v t => TypeExpr.readsBack
  have docsBack := list_strings m.docs
  exact Member.decode_eq_ok_iff.mpr ⟨_, rfl, rfl, rfl, ofResult_eq_value_iff.mpr typeBack, rfl, rfl,
    ofResult_eq_value_iff.mpr docsBack, rfl⟩

theorem StructType.decode_eq_ok_iff {v : ν} {s : StructType} :
    StructType.decode v = .ok s ↔ ∃ fields : Fields ν,
      Source.fields StructType.shape.expected v = .ok fields ∧
      fields.wellFormed StructType.shape = .value () ∧
      fields.field StructType.shape 0 none text = .value s.name ∧
      fields.field StructType.shape 1 (some []) (list Member.decode) = .value s.members ∧
      fields.field StructType.shape 2 (some []) (list text) = .value s.docs := by
  cases s
  simp only [StructType.decode, Shape.decode_eq_ok_iff, Reading.exists_apply_iff,
    Reading.value.injEq, exists_eq_left', StructType.mk.injEq]
  simp

theorem StructType.readsBack {v : ν} {s : StructType} (read : StructType.decode v = .ok s) :
    StructType.decode s.toJson = .ok s := by
  obtain ⟨fields, -, -, -, members, -⟩ := StructType.decode_eq_ok_iff.mp read
  have membersBack := Fields.readsBack_list (fun _ _ => Member.readsBack) members
  have docsBack := list_strings s.docs
  exact StructType.decode_eq_ok_iff.mpr ⟨_, rfl, rfl, rfl, ofResult_eq_value_iff.mpr membersBack,
    ofResult_eq_value_iff.mpr docsBack⟩

theorem Route.decode_eq_ok_iff {v : ν} {r : Route} :
    Route.decode v = .ok r ↔ ∃ fields : Fields ν,
      Source.fields Route.shape.expected v = .ok fields ∧
      fields.wellFormed Route.shape = .value () ∧
      fields.field Route.shape 0 none text = .value r.method ∧
      fields.field Route.shape 1 none text = .value r.path ∧
      fields.field Route.shape 2 none text = .value r.handler ∧
      fields.field Route.shape 3 (some none) optionalText = .value r.requestType ∧
      fields.field Route.shape 4 (some none) optionalText = .value r.responseType ∧
      fields.field Route.shape 5 (some .empty) textTable = .value r.docProperties ∧
      fields.field Route.shape 6 (some []) (list text) = .value r.docs := by
  cases r
  simp only [Route.decode, Shape.decode_eq_ok_iff, Reading.exists_apply_iff,
    Reading.value.injEq, exists_eq_left', Route.mk.injEq]
  simp

theorem Route.readsBack {v : ν} {r : Route} (read : Route.decode v = .ok r) :
    Route.decode r.toJson = .ok r := by
  obtain ⟨fields, -, -, -, -, -, -, -, docProperties, -⟩ := Route.decode_eq_ok_iff.mp read
  have requestBack := optionalText_optionalText r.requestType
  have responseBack := optionalText_optionalText r.responseType
  have docPropertiesBack := Fields.readsBack_textTable docProperties
  have docsBack := list_strings r.docs
  exact Route.decode_eq_ok_iff.mpr ⟨_, rfl, rfl, rfl, rfl, rfl, ofResult_eq_value_iff.mpr requestBack,
    ofResult_eq_value_iff.mpr responseBack, ofResult_eq_value_iff.mpr docPropertiesBack,
    ofResult_eq_value_iff.mpr docsBack⟩

theorem Group.decode_eq_ok_iff {v : ν} {g : Group} :
    Group.decode v = .ok g ↔ ∃ fields : Fields ν,
      Source.fields Group.shape.expected v = .ok fields ∧
      fields.wellFormed Group.shape = .value () ∧
      fields.field Group.shape 0 (some .empty) textTable = .value g.annotation ∧
      fields.field Group.shape 1 (some []) (list Route.decode) = .value g.routes := by
  cases g
  simp only [Group.decode, Shape.decode_eq_ok_iff, Reading.exists_apply_iff,
    Reading.value.injEq, exists_eq_left', Group.mk.injEq]
  simp

theorem Group.readsBack {v : ν} {g : Group} (read : Group.decode v = .ok g) :
    Group.decode g.toJson = .ok g := by
  obtain ⟨fields, -, -, annotation, routes⟩ := Group.decode_eq_ok_iff.mp read
  have annotationBack := Fields.readsBack_textTable annotation
  have routesBack := Fields.readsBack_list (fun _ _ => Route.readsBack) routes
  exact Group.decode_eq_ok_iff.mpr ⟨_, rfl, rfl, ofResult_eq_value_iff.mpr annotationBack,
    ofResult_eq_value_iff.mpr routesBack⟩

theorem Service.decode_eq_ok_iff {v : ν} {s : Service} :
    Service.decode v = .ok s ↔ ∃ fields : Fields ν,
      Source.fields Service.shape.expected v = .ok fields ∧
      fields.wellFormed Service.shape = .value () ∧
      fields.field Service.shape 0 none text = .value s.name ∧
      fields.field Service.shape 1 (some []) (list Group.decode) = .value s.groups := by
  cases s
  simp only [Service.decode, Shape.decode_eq_ok_iff, Reading.exists_apply_iff,
    Reading.value.injEq, exists_eq_left', Service.mk.injEq]
  simp

theorem Service.readsBack {v : ν} {s : Service} (read : Service.decode v = .ok s) :
    Service.decode s.toJson = .ok s := by
  obtain ⟨fields, -, -, -, groups⟩ := Service.decode_eq_ok_iff.mp read
  have groupsBack := Fields.readsBack_list (fun _ _ => Group.readsBack) groups
  exact Service.decode_eq_ok_iff.mpr ⟨_, rfl, rfl, rfl, ofResult_eq_value_iff.mpr groupsBack⟩

theorem Spec.decode_eq_ok_iff {v : ν} {spec : Spec} :
    Spec.decode v = .ok spec ↔ ∃ fields : Fields ν,
      Source.fields Spec.shape.expected v = .ok fields ∧
      fields.wellFormed Spec.shape = .value () ∧
      fields.field Spec.shape 0 (some .empty) textTable = .value spec.info ∧
      fields.field Spec.shape 1 none Service.decode = .value spec.service ∧
      fields.field Spec.shape 2 (some []) (list StructType.decode) = .value spec.types := by
  cases spec
  simp only [Spec.decode, Shape.decode_eq_ok_iff, Reading.exists_apply_iff,
    Reading.value.injEq, exists_eq_left', Spec.mk.injEq]
  simp

/-- Whatever a description was read from, it is read back from the value that is written for
it. -/
theorem Spec.decode_toJson_of_decode {v : ν} {spec : Spec} (read : Spec.decode v = .ok spec) :
    Spec.decode spec.toJson = .ok spec := by
  obtain ⟨fields, -, -, info, service, types⟩ := Spec.decode_eq_ok_iff.mp read
  have infoBack := Fields.readsBack_textTable info
  have serviceBack : Service.decode spec.service.toJson = .ok spec.service :=
    Fields.of_field (P := fun s => Service.decode s.toJson = .ok s) service (by simp)
      fun v s => Service.readsBack
  have typesBack := Fields.readsBack_list (fun _ _ => StructType.readsBack) types
  exact Spec.decode_eq_ok_iff.mpr ⟨_, rfl, rfl, ofResult_eq_value_iff.mpr infoBack,
    ofResult_eq_value_iff.mpr serviceBack, ofResult_eq_value_iff.mpr typesBack⟩

/-- A member whose fields are given in another order, with blanks around the parts of its type. -/
def amountsJson : Json :=
  .object [("type", .string " [ 3 ] * Price "), ("name", .string "Amounts")]

def amounts : Member where
  name := "Amounts"
  type := .array (.pointer (.reference "Price"))

/-- A description whose service and struct are given by position, with most fields left out. -/
def shopJson : Json :=
  .object [
    ("info", .object [("title", .string "Shop"), ("version", .string "2")]),
    ("service", .array [.string "shop", .array [.object [("routes", .array [
      .array [.string "get", .string "/prices", .string "listPrices", .null,
        .string "Prices"]])]]]),
    ("types", .array [.array [.string "Prices", .array [amountsJson]]])]

def shop : Spec where
  info := ⟨[("title", "Shop"), ("version", "2")]⟩
  service := { name := "shop"
               groups := [{ routes := [{ method := "get", path := "/prices"
                                         handler := "listPrices"
                                         responseType := some "Prices" }] }] }
  types := [{ name := "Prices", members := [amounts] }]

theorem decode_amountsJson : Member.decode amountsJson = .ok amounts := by
  have type : TypeExpr.read " [ 3 ] * Price " = .ok amounts.type := by
    simp [TypeExpr.read, TypeExpr.readTrimmed, trim, trimStart, trimEnd, dropEndWhile, isBlank,
      isBlankCode, cut]
    rfl
  exact Member.decode_eq_ok_iff.mpr ⟨_, rfl, rfl, rfl,
    ofResult_eq_value_iff.mpr (TypeExpr.decode_eq_ok_iff.mpr ⟨_, rfl, type⟩), rfl, rfl, rfl, rfl⟩

theorem decode_shopJson : Spec.decode shopJson = .ok shop := by
  have members : list Member.decode (Json.array [amountsJson]) = .ok [amounts] :=
    decodeEach_cons decode_amountsJson rfl
  have prices : StructType.decode (Json.array [.string "Prices", .array [amountsJson]]) =
      .ok { name := "Prices", members := [amounts] } :=
    StructType.decode_eq_ok_iff.mpr ⟨_, rfl, rfl, rfl, ofResult_eq_value_iff.mpr members, rfl⟩
  have types : list StructType.decode (Json.array [.array [.string "Prices",
      .array [amountsJson]]]) = .ok shop.types := decodeEach_cons prices rfl
  exact Spec.decode_eq_ok_iff.mpr ⟨_, rfl, rfl, rfl, rfl, ofResult_eq_value_iff.mpr types⟩

theorem shop_readsBack : Spec.decode shopJson = .ok shop ∧ Spec.decode shop.toJson = .ok shop :=
  ⟨decode_shopJson, Spec.decode_toJson_of_decode decode_shopJson⟩

end ApiDoc
