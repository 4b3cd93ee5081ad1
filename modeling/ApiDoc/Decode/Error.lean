/-
# Errors of decoding

A value that does not fit the model is refused with the first thing that does
not fit.  This module lists the causes and gives each its wording.
-/

import ApiDoc.Error
import ApiDoc.Number.Basic
import ApiDoc.Text.Quoted

namespace ApiDoc

/-- What stands where something else is expected. -/
inductive Unexpected where
  | null
  | bool (value : Bool)
  | number (value : Number)
  | string (value : String)
  | sequence
  | mapping
  deriving DecidableEq, Repr

/-- The unexpected value in words. -/
def Unexpected.text : Unexpected → String
  | null => "null"
  | bool value => "boolean \x60" ++ (if value then "true" else "false") ++ "\x60"
  | number (.int n) => "integer \x60" ++ toString n ++ "\x60"
  | number (.real x) => "floating point \x60" ++ (Number.real x).text .json ++ "\x60"
  | string value => "string " ++ Text.quoted value
  | sequence => "sequence"
  | mapping => "map"

/-- Why a value does not fit the model. -/
inductive DecodeError where
  | invalidType (found : Unexpected) (expected : String)
  /-- A sequence has the wrong number of elements. -/
  | invalidLength (length : Nat) (expected : String)
  /-- A field that has no default is absent. -/
  | missingField (name : String)
  | duplicateField (name : String)
  | malformedType (input : String) (fault : String)
  /-- A token is well formed and denotes no value. -/
  | noValue
  deriving DecidableEq, Repr

/-- The error in words. -/
def DecodeError.message : DecodeError → String
  | invalidType found expected => "invalid type: " ++ found.text ++ ", expected " ++ expected
  | invalidLength length expected =>
    "invalid length " ++ toString length ++ ", expected " ++ expected
  | missingField name => "missing field \x60" ++ name ++ "\x60"
  | duplicateField name => "duplicate field \x60" ++ name ++ "\x60"
  | malformedType input fault => (Error.malformedType input fault).message
  | noValue => "a token denotes no value"

end ApiDoc
