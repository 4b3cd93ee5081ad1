/-
# Reading records

A record is given by names or by position.  Its fields are read independently of
each other, and of several that do not fit the one that comes first in the input
is reported; a field that is absent counts as coming after all that are there.
A reading therefore keeps, in place of a value, the earliest fault and its
place.
-/

import ApiDoc.Decode.Source

namespace ApiDoc

/-- A value, or the earliest fault with its place in the input. -/
inductive Reading (α : Type) where
  | value (a : α)
  | fault (place : Nat) (cause : DecodeError)
  deriving DecidableEq, Repr

namespace Reading

variable {α β : Type}

/-- Apply a function that is read to an argument that is read.  Of two faults
the earlier one is kept, the function's own in a tie. -/
def apply (f : Reading (α → β)) (x : Reading α) : Reading β :=
  match f, x with
  | value g, value a => value (g a)
  | value _, fault place cause => fault place cause
  | fault place cause, value _ => fault place cause
  | fault place cause, fault place' cause' =>
    if place' < place then fault place' cause' else fault place cause

/-- The reading of one value at a place. -/
def ofResult (place : Nat) (result : Except DecodeError α) : Reading α :=
  match result with
  | .ok a => value a
  | .error cause => fault place cause

/-- Forget the place. -/
def outcome : Reading α → Except DecodeError α
  | value a => .ok a
  | fault _ cause => .error cause

end Reading

/-- What a record of the model looks like from outside: the name of its type and
the names of its fields in order. -/
structure Shape where
  name : String
  /-- The names of the fields in order of declaration. -/
  keys : List String

namespace Shape

/-- The record type in words. -/
def expected (shape : Shape) : String :=
  "struct " ++ shape.name

/-- The record type with its number of fields in words. -/
def expectedLength (shape : Shape) : String :=
  "struct " ++ shape.name ++ " with " ++ toString shape.keys.length ++
    (if shape.keys.length = 1 then " element" else " elements")

end Shape

namespace Fields

variable {ν α : Type}

/-- The first entry with a name, and its place, counted from `start`. -/
def find? (key : String) (start : Nat) : List (String × ν) → Option (Nat × ν)
  | [] => none
  | (name, v) :: rest => if name = key then some (start, v) else find? key (start + 1) rest

/-- Read the field at an index of the declaration.  An absent field takes its
default; without one it is a fault. -/
def field (shape : Shape) (fields : Fields ν) (index : Nat) (default? : Option α)
    (decode : ν → Except DecodeError α) : Reading α :=
  match fields with
  | named entries =>
    let key := shape.keys.getD index ""
    match find? key 0 entries, default? with
    | some (place, v), _ => .ofResult place (decode v)
    | none, some a => .value a
    | none, none => .fault entries.length (.missingField key)
  | inOrder values =>
    match values[index]?, default? with
    | some v, _ => .ofResult index (decode v)
    | none, some a => .value a
    | none, none => .fault index (.invalidLength index shape.expectedLength)

/-- The second entry for a field of the record, and its place, counted from
`start`; `seen` are the names met before. -/
def repeated? (shape : Shape) (seen : List String) (start : Nat) :
    List (String × ν) → Option (Nat × String)
  | [] => none
  | (name, _) :: rest =>
    if shape.keys.contains name && seen.contains name then some (start, name)
    else repeated? shape (name :: seen) (start + 1) rest

/-- Read what the fields as a whole must satisfy: no field is given twice, and
there are no more values than fields. -/
def wellFormed (shape : Shape) (fields : Fields ν) : Reading Unit :=
  match fields with
  | named entries =>
    match repeated? shape [] 0 entries with
    | some (place, name) => .fault place (.duplicateField name)
    | none => .value ()
  | inOrder values =>
    if shape.keys.length < values.length then
      .fault values.length (.invalidLength values.length "fewer elements in array")
    else .value ()

end Fields

/-- Read a record of a given shape, where `build` reads its fields. -/
def Shape.decode {ν α : Type} [Source ν] (shape : Shape) (v : ν)
    (build : Fields ν → Reading α) : Except DecodeError α :=
  match Source.fields shape.expected v with
  | .error e => .error e
  | .ok fields =>
    let both := ((Reading.value fun (a : α) (_ : Unit) => a).apply (build fields)).apply
      (fields.wellFormed shape)
    both.outcome

end ApiDoc
