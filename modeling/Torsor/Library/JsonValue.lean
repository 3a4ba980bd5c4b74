import Mathlib.Data.List.Basic

/-! # JSON values

The values a JSON text denotes, as a JavaScript program sees them: a string is a sequence of
UTF-16 code units. What a number is stays open.
-/

namespace Torsor.Library

abbrev JsString : Type := List UInt16

instance JsString.lawfulBEq : LawfulBEq JsString := inferInstance

/-- The code units of a string. -/
def units (s : String) : JsString :=
  s.toList.flatMap fun c =>
    if c.toNat < 0x10000 then [UInt16.ofNat c.toNat]
    else
      [UInt16.ofNat (0xD800 + (c.toNat - 0x10000) / 1024),
        UInt16.ofNat (0xDC00 + (c.toNat - 0x10000) % 1024)]

inductive JsonValue (ν : Type) where
  | null
  | bool (value : Bool)
  | number (value : ν)
  | string (value : JsString)
  | array (items : List (JsonValue ν))
  | object (fields : List (JsString × JsonValue ν))

namespace JsonValue

variable {ν : Type}

/-- The value of an own property, `none` for `undefined`. -/
def field (value : JsonValue ν) (key : String) : Option (JsonValue ν) :=
  match value with
  | .object fields => fields.lookup (units key)
  | _ => none

/-- The string that a value is. -/
def text : JsonValue ν → Option JsString
  | .string value => some value
  | _ => none

/-- No object has two fields with one key. -/
inductive DistinctKeys : JsonValue ν → Prop where
  | null : DistinctKeys .null
  | bool (value : Bool) : DistinctKeys (.bool value)
  | number (value : ν) : DistinctKeys (.number value)
  | string (value : JsString) : DistinctKeys (.string value)
  | array {items : List (JsonValue ν)} (hitems : ∀ item ∈ items, DistinctKeys item) :
      DistinctKeys (.array items)
  | object {fields : List (JsString × JsonValue ν)} (hkeys : (fields.map Prod.fst).Nodup)
      (hfields : ∀ key value, (key, value) ∈ fields → DistinctKeys value) :
      DistinctKeys (.object fields)

/-- Induction over all that a value contains. -/
theorem nested_induction {P : JsonValue ν → Prop} (hnull : P .null) (hbool : ∀ b, P (.bool b))
    (hnumber : ∀ n, P (.number n)) (hstring : ∀ s, P (.string s))
    (harray : ∀ items, (∀ item ∈ items, P item) → P (.array items))
    (hobject : ∀ fields, (∀ key value, (key, value) ∈ fields → P value) → P (.object fields)) :
    ∀ value, P value
  | .null => hnull
  | .bool b => hbool b
  | .number n => hnumber n
  | .string s => hstring s
  | .array items => harray items fun item _ =>
      nested_induction hnull hbool hnumber hstring harray hobject item
  | .object fields => hobject fields fun _ value _ =>
      nested_induction hnull hbool hnumber hstring harray hobject value
  termination_by value => sizeOf value
  decreasing_by
    · have := List.sizeOf_lt_of_mem ‹item ∈ items›
      simp only [JsonValue.array.sizeOf_spec]
      omega
    · rename_i hmem
      have := List.sizeOf_lt_of_mem hmem
      simp only [JsonValue.object.sizeOf_spec, Prod.mk.sizeOf_spec] at this ⊢
      omega

end JsonValue

end Torsor.Library
