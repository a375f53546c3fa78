import Worksheet.Json.Basic
import Worksheet.Json.Number

namespace Worksheet
namespace Json

/-!
Records in JSON.  A record is an object, or an array of its fields in order.
Fields of an object that a record does not know are passed over, but one that
it knows may not be repeated.  Every reader gives nothing for a value of the
wrong form.
-/

/-- The fields of a record with the given names, each if it is there. -/
def record? (names : List String) : Json → Option (List (Option Json))
  | .object fields =>
    if fields.any (·.1.isNone) then none
    else names.mapM fun name =>
      match fields.filter (·.1 = some name) with
      | [] => some none
      | [(_, value)] => some (some value)
      | _ => none
  | .array items =>
    if items.length ≤ names.length then
      some (items.map some ++ List.replicate (names.length - items.length) none)
    else none
  | _ => none

/-- A field that may be missing or null. -/
def optional? (read? : Json → Option α) : Option Json → Option (Option α)
  | none => some none
  | some .null => some none
  | some value => (read? value).map some

/-- A field that has a value when it is missing. -/
def defaulted? (default : α) (read? : Json → Option α) : Option Json → Option α
  | none => some default
  | some value => read? value

/-- A text. -/
def string? : Json → Option String
  | .string text => text
  | _ => none

/-- A truth value. -/
def bool? : Json → Option Bool
  | .bool value => some value
  | _ => none

/-- A double. -/
def float? : Json → Option Float
  | .number literal => toFloat? literal
  | _ => none

/-- A natural number below 2^64. -/
def uint64? : Json → Option UInt64
  | .number literal => toUInt64? literal
  | _ => none

/-- One of several words, by itself or as the key of a null. -/
def word? (ofName? : String → Option α) : Json → Option α
  | .string (some name) => ofName? name
  | .object [(some name, .null)] => ofName? name
  | _ => none

/-- The entries of an object whose values are read alike. -/
def entries? (read? : Json → Option α) : Json → Option (List (String × α))
  | .object fields => fields.mapM fun (key, value) => do return (← key, ← read? value)
  | _ => none

/-- A field that is written if it has a value. -/
def present (name : String) (write : α → Json) : Option α → List (String × Json)
  | some value => [(name, write value)]
  | none => []

end Json
end Worksheet
