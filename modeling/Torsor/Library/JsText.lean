import Torsor.Library.JsonQuote
import Torsor.Library.JsonValue

/-! # Texts of a JavaScript program

The code units of a text determine it. Fields of objects are found by such texts, and
`JSON.stringify` quotes them.
-/

namespace Torsor.Library

/-! ## Code units -/

def unitsOf (c : Char) : JsString :=
  if c.toNat < 0x10000 then [UInt16.ofNat c.toNat]
  else
    [UInt16.ofNat (0xD800 + (c.toNat - 0x10000) / 1024),
      UInt16.ofNat (0xDC00 + (c.toNat - 0x10000) % 1024)]

theorem ofNat_inj {n m : Nat} (hn : n < 0x10000) (hm : m < 0x10000)
    (h : UInt16.ofNat n = UInt16.ofNat m) : n = m := by
  have hnat := congrArg UInt16.toNat h
  rwa [UInt16.toNat_ofNat_of_lt' hn, UInt16.toNat_ofNat_of_lt' hm] at hnat

theorem char_bounds (c : Char) : c.toNat < 0xD800 ∨ 0xDFFF < c.toNat ∧ c.toNat < 0x110000 :=
  c.valid

theorem unitsOf_prefixCode : PrefixCode unitsOf := by
  intro a b r r' h
  have ha := char_bounds a
  have hb := char_bounds b
  unfold unitsOf at h
  split_ifs at h with hsmall hsmall' hsmall'
  · simp only [List.cons_append, List.nil_append, List.cons.injEq] at h
    exact ⟨Char.toNat_inj.mp (ofNat_inj hsmall hsmall' h.1), h.2⟩
  · simp only [List.cons_append, List.nil_append, List.cons.injEq] at h
    have heq := ofNat_inj hsmall (by omega) h.1
    omega
  · simp only [List.cons_append, List.nil_append, List.cons.injEq] at h
    have heq := ofNat_inj (by omega) hsmall' h.1
    omega
  · simp only [List.cons_append, List.nil_append, List.cons.injEq] at h
    have hhigh := ofNat_inj (by omega) (by omega) h.1
    have hlow := ofNat_inj (by omega) (by omega) h.2.1
    exact ⟨Char.toNat_inj.mp (by omega), h.2.2⟩

theorem units_injective : units.Injective := by
  intro s t h
  have hne : ∀ c, unitsOf c ≠ [] := by
    intro c
    unfold unitsOf
    split <;> simp
  exact String.toList_injective (unitsOf_prefixCode.flatMap_injective hne h)

@[simp] theorem units_eq {s t : String} : units s = units t ↔ s = t := units_injective.eq_iff

/-! ## Fields -/

namespace JsonValue

variable {ν : Type}

@[simp] theorem field_object (fields : List (JsString × JsonValue ν)) (key : String) :
    (JsonValue.object fields).field key = fields.lookup (units key) := rfl

@[simp] theorem lookup_units (s t : String) (value : JsonValue ν)
    (rest : List (JsString × JsonValue ν)) :
    List.lookup (units s) ((units t, value) :: rest) =
      if s = t then some value else List.lookup (units s) rest := by
  by_cases h : s = t
  · simp [h]
  · have hne : (units s == units t) = false := by simp [h]
    simp [List.lookup_cons, h, hne]

end JsonValue

/-! ## Quoting -/

namespace JsonQuote

def isHigh (u : UInt16) : Bool := 0xD800 ≤ u ∧ u ≤ 0xDBFF

def isLow (u : UInt16) : Bool := 0xDC00 ≤ u ∧ u ≤ 0xDFFF

/-- A surrogate that stands alone is written as an escape. -/
def escapeUnit (u : UInt16) : JsString :=
  if u < 128 then units (String.ofList (escape (Char.ofNat u.toNat)))
  else if isHigh u || isLow u then
    units (String.ofList ('\\' :: 'u' :: Nat.toDigits 16 u.toNat))
  else [u]

def escapeUnits : JsString → JsString
  | [] => []
  | [u] => escapeUnit u
  | u :: v :: rest =>
      if isHigh u && isLow v then u :: v :: escapeUnits rest
      else escapeUnit u ++ escapeUnits (v :: rest)

/-- `JSON.stringify` of a string. -/
def quoteUnits (s : JsString) : JsString := units "\"" ++ escapeUnits s ++ units "\""

end JsonQuote

end Torsor.Library
