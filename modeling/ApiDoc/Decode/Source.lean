/-
# Values that descriptions are read from

Descriptions come as JSON values, as JSON text and as YAML text.  The three agree
on how a description is put together and differ in what counts as a text, a
truth value or an absent value, and in whether the fields of a record may be given
by position.  `Source` is what the reading of descriptions needs of each.
-/

import ApiDoc.Decode.Error
import ApiDoc.Table

namespace ApiDoc

/-- The fields of a record as they are given: by name, or by position in a fixed
order. -/
inductive Fields (ν : Type) where
  /-- Names with values, in the order of the input. -/
  | named (entries : List (String × ν))
  | inOrder (values : List ν)

/-- A kind of value from which descriptions are read. -/
class Source (ν : Type) where
  text : ν → Except DecodeError String
  flag : ν → Except DecodeError Bool
  /-- Whether a value stands for an absent one. -/
  isAbsent : ν → Except DecodeError Bool
  /-- The elements of a sequence; the text says what is expected. -/
  elements : (expected : String) → ν → Except DecodeError (List ν)
  entries : ν → Except DecodeError (List (String × ν))
  /-- The fields of a record of the given type. -/
  fields : (expected : String) → ν → Except DecodeError (Fields ν)

namespace Source

variable {ν α : Type} [Source ν]

/-- Decode each element of a list in order, up to the first that does not
fit. -/
def decodeEach (decode : ν → Except DecodeError α) : List ν → Except DecodeError (List α)
  | [] => .ok []
  | v :: rest =>
    match decode v with
    | .error e => .error e
    | .ok a => (decodeEach decode rest).map (a :: ·)

/-- A sequence of values of one type. -/
def list (decode : ν → Except DecodeError α) (v : ν) : Except DecodeError (List α) :=
  match elements "a sequence" v with
  | .error e => .error e
  | .ok values => decodeEach decode values

/-- Enter decoded values into a table in order, up to the first that does not
fit. -/
def decodeTable (decode : ν → Except DecodeError α) (t : Table α) :
    List (String × ν) → Except DecodeError (Table α)
  | [] => .ok t
  | (name, v) :: rest =>
    match decode v with
    | .error e => .error e
    | .ok a => decodeTable decode (t.insert name a) rest

/-- A mapping from names to texts.  A name that is given twice keeps its place
and takes the later text. -/
def textTable (v : ν) : Except DecodeError (Table String) :=
  match entries v with
  | .error e => .error e
  | .ok given => decodeTable text .empty given

/-- A text that may be absent. -/
def optionalText (v : ν) : Except DecodeError (Option String) :=
  match isAbsent v with
  | .error e => .error e
  | .ok true => .ok none
  | .ok false => (text v).map some

end Source

end ApiDoc
