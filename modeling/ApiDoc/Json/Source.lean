/-
# Descriptions from JSON values

A JSON string is a text, `null` is an absent value, and a record may be an
object or an array.
-/

import ApiDoc.Decode.Source
import ApiDoc.Json.Basic

namespace ApiDoc.Json

/-- A value as it is shown where another is expected. -/
def unexpected : Json → Unexpected
  | null => .null
  | bool value => .bool value
  | number value => .number value
  | string value => .string value
  | array _ => .sequence
  | object _ => .mapping

instance : Source Json where
  text
    | string value => .ok value
    | v => .error (.invalidType v.unexpected "a string")
  flag
    | bool value => .ok value
    | v => .error (.invalidType v.unexpected "a boolean")
  isAbsent
    | null => .ok true
    | _ => .ok false
  elements expected
    | array items => .ok items
    | v => .error (.invalidType v.unexpected expected)
  entries
    | object members => .ok members
    | v => .error (.invalidType v.unexpected "a map")
  fields expected
    | object members => .ok (.named members)
    | array items => .ok (.inOrder items)
    | v => .error (.invalidType v.unexpected expected)

end ApiDoc.Json
