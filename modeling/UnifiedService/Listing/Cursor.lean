import UnifiedService.Library.Buffer
import UnifiedService.Library.Double
import UnifiedService.Library.IsoDate
import UnifiedService.Library.Json
import UnifiedService.Library.JsonText

/-! The keyset cursor: the sort key and the id of a row, as a text that means nothing to who
holds it. -/

set_option autoImplicit false

namespace UnifiedService.Listing

open UnifiedService.Library

/-- An id as the driver hands it over: past the safe integers it throws. -/
structure SafeId where
  value : Nat
  safe : value ≤ 9007199254740991
  deriving DecidableEq, Repr

def SafeId.first : SafeId := ⟨1, by decide⟩

/-- The key is null where the row is sorted last. -/
structure KeysetCursor where
  key : Option JsDate
  id : SafeId
  deriving DecidableEq, Repr

/-- What a text that is no base64, or no full date, is taken for. -/
structure Runtime where
  base64 : String → List Nat
  date : List Nat → Option JsDate

/-- `JSON.stringify({ t, i })`. -/
def cursorText (key : Option JsDate) (id : SafeId) : String :=
  "\x7b\"t\":" ++
    (match key with
      | some date => Json.quote date.toISOString
      | none => "null") ++
    ",\"i\":" ++ toString id.value ++ "\x7d"

def encodeKeysetCursor (key : Option JsDate) (id : SafeId) : String :=
  Buffer.toBase64url (Buffer.ofUtf8 (cursorText key id))

inductive Thrown where
  | syntaxError
  | typeError
  deriving DecidableEq, Repr

/-- A number that is a safe integer and not negative. A number past the range of a double is
no safe integer either way. -/
def safeInteger : JsonText.Value → Option SafeId
  | .number mantissa exponent =>
      let number := Double.nearest (mantissa * 10 ^ exponent)
      if safe : number.den = 1 ∧ 0 ≤ number.num ∧ number.num ≤ 9007199254740991 then
        some ⟨number.num.toNat, by omega⟩
      else none
  | .null | .bool _ | .text _ | .list _ | .record _ => none

def cursorOf (runtime : Runtime) (parsed : JsonText.Value) : Option KeysetCursor :=
  match (parsed.field "i").bind safeInteger with
  | none => none
  | some id =>
      match parsed.field "t" with
      | none | some .null => some ⟨none, id⟩
      | some (.text units) => (JsDate.ofUnits runtime.date units).map fun date => ⟨some date, id⟩
      | some (.bool _) | some (.number _ _) | some (.list _) | some (.record _) => none

/-- The `try` block. There is no field of null. -/
def readCursor (runtime : Runtime) (cursor : String) : Except Thrown (Option KeysetCursor) :=
  match JsonText.parse (Buffer.toUtf8 (Buffer.ofBase64url runtime.base64 cursor)) with
  | .error _ => .error .syntaxError
  | .ok .null => .error .typeError
  | .ok parsed => .ok (cursorOf runtime parsed)

def decodeKeysetCursor (runtime : Runtime) : Option String → Option KeysetCursor
  | none => none
  | some cursor =>
      if cursor = "" then none
      else
        match readCursor runtime cursor with
        | .ok decoded => decoded
        | .error _ => none

end UnifiedService.Listing
