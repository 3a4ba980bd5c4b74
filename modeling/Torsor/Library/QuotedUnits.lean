import Torsor.Library.JsText
import Mathlib.Tactic.IntervalCases

/-! # Quoted texts of code units

A quoted text can be read back unit by unit, whatever follows it. It has no surrogate that stands
alone, so that it has a form in UTF-8, which determines it.
-/

namespace Torsor.Library.JsonQuote

/-! ## Reading back -/

def hexUnit (u : UInt16) : Nat := if u < 58 then u.toNat - 48 else u.toNat - 87

def unescaped (u : UInt16) : UInt16 :=
  if u = 98 then 8 else if u = 102 then 12 else if u = 110 then 10
  else if u = 114 then 13 else if u = 116 then 9 else u

/-- The first unit of what an escaped text denotes, and the rest of that text. -/
def readUnit : JsString → Option (UInt16 × JsString)
  | 92 :: 117 :: a :: b :: c :: d :: rest =>
      some (UInt16.ofNat (4096 * hexUnit a + 256 * hexUnit b + 16 * hexUnit c + hexUnit d), rest)
  | 92 :: u :: rest => some (unescaped u, rest)
  | u :: rest => some (u, rest)
  | [] => none

theorem readUnit_plain {u : UInt16} (h : u ≠ 92) (rest : JsString) :
    readUnit (u :: rest) = some (u, rest) := by
  unfold readUnit
  split <;> simp_all

theorem readUnit_ascii {n : Nat} (h : n < 128) (rest : JsString) :
    readUnit (units (String.ofList (escape (Char.ofNat n))) ++ rest) =
      some (UInt16.ofNat n, rest) := by
  interval_cases n <;> rfl

theorem units_ofList (cs : List Char) : units (String.ofList cs) = cs.flatMap unitsOf := by
  rw [units, String.toList_ofList]
  rfl

theorem hexUnit_digit {d : Nat} (h : d < 16) :
    unitsOf (Nat.digitChar d) = [UInt16.ofNat (Nat.digitChar d).toNat] ∧
      hexUnit (UInt16.ofNat (Nat.digitChar d).toNat) = d := by
  interval_cases d <;> exact ⟨rfl, rfl⟩

theorem toDigits_four {n : Nat} (hlow : 0x1000 ≤ n) (hhigh : n < 0x10000) :
    Nat.toDigits 16 n = [Nat.digitChar (n / 4096), Nat.digitChar (n / 256 % 16),
      Nat.digitChar (n / 16 % 16), Nat.digitChar (n % 16)] := by
  have hone : n / 16 / 16 = n / 256 := by omega
  have htwo : n / 256 / 16 = n / 4096 := by omega
  rw [Nat.toDigits_of_base_le (by decide) (by omega),
    Nat.toDigits_of_base_le (by decide) (show 16 ≤ n / 16 by omega), hone,
    Nat.toDigits_of_base_le (by decide) (show 16 ≤ n / 256 by omega), htwo,
    Nat.toDigits_of_lt_base (by omega)]
  rfl

theorem readUnit_hex {n : Nat} (hlow : 0x1000 ≤ n) (hhigh : n < 0x10000) (rest : JsString) :
    readUnit (units (String.ofList ('\\' :: 'u' :: Nat.toDigits 16 n)) ++ rest) =
      some (UInt16.ofNat n, rest) := by
  obtain ⟨ha, ha'⟩ := hexUnit_digit (show n / 4096 < 16 by omega)
  obtain ⟨hb, hb'⟩ := hexUnit_digit (show n / 256 % 16 < 16 by omega)
  obtain ⟨hc, hc'⟩ := hexUnit_digit (show n / 16 % 16 < 16 by omega)
  obtain ⟨hd, hd'⟩ := hexUnit_digit (show n % 16 < 16 by omega)
  have hbegin : unitsOf '\\' = [92] ∧ unitsOf 'u' = [117] := ⟨rfl, rfl⟩
  rw [units_ofList, toDigits_four hlow hhigh]
  simp only [List.flatMap_cons, List.flatMap_nil, hbegin, ha, hb, hc, hd, List.cons_append,
    List.nil_append]
  rw [readUnit, ha', hb', hc', hd']
  congr 2
  congr 1
  omega

/-- A form of one unit: it reads back as the unit, and does not begin with a quotation mark. -/
structure Writes (u : UInt16) (form : JsString) : Prop where
  reads : ∀ rest, readUnit (form ++ rest) = some (u, rest)
  head : ∃ v rest, form = v :: rest ∧ v ≠ 34

theorem writes_self {u : UInt16} (h : 128 ≤ u.toNat) : Writes u [u] := by
  have hne : ∀ v : UInt16, v.toNat < 128 → u ≠ v := by
    rintro v hv rfl
    omega
  exact ⟨readUnit_plain (hne 92 (by decide)), u, [], rfl, hne 34 (by decide)⟩

theorem isHigh_iff {u : UInt16} : isHigh u = true ↔ 0xD800 ≤ u.toNat ∧ u.toNat ≤ 0xDBFF := by
  simp [isHigh, UInt16.le_iff_toNat_le]

theorem isLow_iff {u : UInt16} : isLow u = true ↔ 0xDC00 ≤ u.toNat ∧ u.toNat ≤ 0xDFFF := by
  simp [isLow, UInt16.le_iff_toNat_le]

theorem head_ascii {n : Nat} (h : n < 128) :
    ∃ v rest, units (String.ofList (escape (Char.ofNat n))) = v :: rest ∧ v ≠ 34 := by
  interval_cases n <;> exact ⟨_, _, rfl, by decide⟩

theorem escapeUnit_writes (u : UInt16) : Writes u (escapeUnit u) := by
  have hu : UInt16.ofNat u.toNat = u := UInt16.ofNat_toNat
  have hbound : u.toNat < 0x10000 := u.toNat_lt
  unfold escapeUnit
  split_ifs with hascii hsurrogate
  · have hlt : u.toNat < 128 := UInt16.lt_iff_toNat_lt.mp hascii
    refine ⟨fun rest => ?_, head_ascii hlt⟩
    rw [readUnit_ascii hlt, hu]
  · rw [Bool.or_eq_true, isHigh_iff, isLow_iff] at hsurrogate
    refine ⟨fun rest => ?_, 92, _, by rw [units_ofList]; rfl, by decide⟩
    rw [readUnit_hex (by omega) hbound, hu]
  · exact writes_self (Nat.le_of_not_lt fun h => hascii (UInt16.lt_iff_toNat_lt.mpr h))

/-- A text written unit by unit. -/
inductive Written : JsString → JsString → Prop where
  | nil : Written [] []
  | cons {u : UInt16} {form s text : JsString} (h : Writes u form) (hrest : Written s text) :
      Written (u :: s) (form ++ text)

theorem escapeUnits_written (s : JsString) : Written s (escapeUnits s) := by
  fun_induction escapeUnits s with
  | case1 => exact .nil
  | case2 u =>
      have hone := Written.cons (escapeUnit_writes u) .nil
      rwa [List.append_nil] at hone
  | case3 u v rest hpair ih =>
      rw [Bool.and_eq_true, isHigh_iff, isLow_iff] at hpair
      have hu : Writes u [u] := writes_self (by omega)
      have hv : Writes v [v] := writes_self (by omega)
      exact .cons hu (.cons hv ih)
  | case4 u v rest hpair ih => exact .cons (escapeUnit_writes u) ih

theorem Writes.not_closed {u : UInt16} {form : JsString} (h : Writes u form) (text r : JsString) :
    form ++ text ≠ 34 :: r := by
  obtain ⟨v, rest, rfl, hne⟩ := h.head
  intro heq
  rw [List.cons_append, List.cons.injEq] at heq
  exact hne heq.1

theorem Written.unique {s s' text text' r r' : JsString} (h : Written s text)
    (h' : Written s' text') (heq : text ++ 34 :: r = text' ++ 34 :: r') : s = s' ∧ r = r' := by
  induction h generalizing s' text' with
  | nil =>
      cases h' with
      | nil => exact ⟨rfl, List.tail_eq_of_cons_eq heq⟩
      | cons hform hrest =>
          rw [List.nil_append, List.append_assoc] at heq
          exact absurd heq.symm (hform.not_closed _ _)
  | @cons u form s text hform hrest ih =>
      cases h' with
      | nil =>
          rw [List.nil_append, List.append_assoc] at heq
          exact absurd heq (hform.not_closed _ _)
      | cons hform' hrest' =>
          have hread := hform.reads (text ++ 34 :: r)
          rw [← List.append_assoc, heq, List.append_assoc, hform'.reads, Option.some.injEq,
            Prod.mk.injEq] at hread
          obtain ⟨rfl, htext⟩ := hread
          obtain ⟨rfl, rfl⟩ := ih hrest' htext.symm
          exact ⟨rfl, rfl⟩

theorem quoteUnits_prefixCode : PrefixCode quoteUnits := by
  intro s t r r' heq
  have hmark : units "\"" = [34] := rfl
  simp only [quoteUnits, hmark, List.append_assoc, List.cons_append, List.nil_append,
    List.cons.injEq, true_and] at heq
  exact (escapeUnits_written s).unique (escapeUnits_written t) heq

/-! ## Code points -/

/-- A text without a surrogate that stands alone. -/
def Formed (s : JsString) : Prop := ∃ cs : List Char, cs.flatMap unitsOf = s

theorem Formed.append {s t : JsString} (h : Formed s) (h' : Formed t) : Formed (s ++ t) := by
  obtain ⟨cs, rfl⟩ := h
  obtain ⟨ds, rfl⟩ := h'
  exact ⟨cs ++ ds, List.flatMap_append⟩

theorem formed_units (s : String) : Formed (units s) := ⟨s.toList, rfl⟩

theorem toNat_ofNat_of_valid {n : Nat} (h : n.isValidChar) : (Char.ofNat n).toNat = n := by
  unfold Char.ofNat
  rw [dif_pos h]
  rfl

theorem formed_unit {u : UInt16} (hhigh : isHigh u = false) (hlow : isLow u = false) :
    Formed [u] := by
  have hbound : u.toNat < 0x10000 := u.toNat_lt
  have hhigh' : ¬ (0xD800 ≤ u.toNat ∧ u.toNat ≤ 0xDBFF) := by
    rw [← isHigh_iff, hhigh]
    exact Bool.false_ne_true
  have hlow' : ¬ (0xDC00 ≤ u.toNat ∧ u.toNat ≤ 0xDFFF) := by
    rw [← isLow_iff, hlow]
    exact Bool.false_ne_true
  have hchar : (Char.ofNat u.toNat).toNat = u.toNat := by
    apply toNat_ofNat_of_valid
    unfold Nat.isValidChar
    omega
  refine ⟨[Char.ofNat u.toNat], ?_⟩
  rw [List.flatMap_cons, List.flatMap_nil, List.append_nil, unitsOf, hchar, if_pos hbound,
    UInt16.ofNat_toNat]

/-- The character a pair of surrogates stands for. -/
def pairChar (u v : UInt16) : Char :=
  Char.ofNat (0x10000 + (u.toNat - 0xD800) * 1024 + (v.toNat - 0xDC00))

theorem unitsOf_pairChar {u v : UInt16} (hhigh : isHigh u = true) (hlow : isLow v = true) :
    unitsOf (pairChar u v) = [u, v] := by
  rw [isHigh_iff] at hhigh
  rw [isLow_iff] at hlow
  have hchar : (pairChar u v).toNat =
      0x10000 + (u.toNat - 0xD800) * 1024 + (v.toNat - 0xDC00) := by
    apply toNat_ofNat_of_valid
    unfold Nat.isValidChar
    omega
  have hu : 0xD800 + ((pairChar u v).toNat - 0x10000) / 1024 = u.toNat := by omega
  have hv : 0xDC00 + ((pairChar u v).toNat - 0x10000) % 1024 = v.toNat := by omega
  rw [unitsOf, if_neg (by omega), hu, hv, UInt16.ofNat_toNat, UInt16.ofNat_toNat]

theorem escapeUnit_formed (u : UInt16) : Formed (escapeUnit u) := by
  unfold escapeUnit
  split_ifs with hascii hsurrogate
  · exact formed_units _
  · exact formed_units _
  · rw [Bool.not_eq_true, Bool.or_eq_false_iff] at hsurrogate
    exact formed_unit hsurrogate.1 hsurrogate.2

theorem escapeUnits_formed (s : JsString) : Formed (escapeUnits s) := by
  fun_induction escapeUnits s with
  | case1 => exact ⟨[], rfl⟩
  | case2 u => exact escapeUnit_formed u
  | case3 u v rest hpair ih =>
      rw [Bool.and_eq_true] at hpair
      have hformed : Formed [u, v] :=
        ⟨[pairChar u v], by simp [unitsOf_pairChar hpair.1 hpair.2]⟩
      exact hformed.append ih
  | case4 u v rest hpair ih => exact (escapeUnit_formed u).append ih

theorem quoteUnits_formed (s : JsString) : Formed (quoteUnits s) :=
  ((formed_units _).append (escapeUnits_formed s)).append (formed_units _)

/-- The characters that are encoded of a text: a surrogate that stands alone is replaced. -/
def codePoints : JsString → List Char
  | [] => []
  | [u] => [if isHigh u || isLow u then Char.ofNat 0xFFFD else Char.ofNat u.toNat]
  | u :: v :: rest =>
      if isHigh u && isLow v then pairChar u v :: codePoints rest
      else (if isHigh u || isLow u then Char.ofNat 0xFFFD else Char.ofNat u.toNat) ::
        codePoints (v :: rest)

def utf8 (s : JsString) : List UInt8 := (codePoints s).flatMap String.utf8EncodeChar

theorem codePoints_unitsOf (c : Char) (s : JsString) :
    codePoints (unitsOf c ++ s) = c :: codePoints s := by
  have hc := char_bounds c
  unfold unitsOf
  split_ifs with hsmall
  · have hunit : (UInt16.ofNat c.toNat).toNat = c.toNat := UInt16.toNat_ofNat_of_lt' hsmall
    have hhigh : isHigh (UInt16.ofNat c.toNat) = false := by
      rw [← Bool.not_eq_true, isHigh_iff]
      omega
    have hlow : isLow (UInt16.ofNat c.toNat) = false := by
      rw [← Bool.not_eq_true, isLow_iff]
      omega
    cases s with
    | nil => simp [codePoints, hhigh, hlow, hunit]
    | cons v rest => simp [codePoints, hhigh, hlow, hunit]
  · have hfirst : (UInt16.ofNat (0xD800 + (c.toNat - 0x10000) / 1024)).toNat =
        0xD800 + (c.toNat - 0x10000) / 1024 := UInt16.toNat_ofNat_of_lt' (show _ < 0x10000 by omega)
    have hsecond : (UInt16.ofNat (0xDC00 + (c.toNat - 0x10000) % 1024)).toNat =
        0xDC00 + (c.toNat - 0x10000) % 1024 := UInt16.toNat_ofNat_of_lt' (show _ < 0x10000 by omega)
    have hhigh : isHigh (UInt16.ofNat (0xD800 + (c.toNat - 0x10000) / 1024)) = true := by
      rw [isHigh_iff]
      omega
    have hlow : isLow (UInt16.ofNat (0xDC00 + (c.toNat - 0x10000) % 1024)) = true := by
      rw [isLow_iff]
      omega
    have hvalue : 0x10000 + (c.toNat - 0x10000) / 1024 * 1024 + (c.toNat - 0x10000) % 1024 =
        c.toNat := by omega
    simp only [List.cons_append, List.nil_append, codePoints, hhigh, hlow, Bool.and_self, if_true,
      pairChar, hfirst, hsecond, Nat.add_sub_cancel_left, hvalue, Char.ofNat_toNat]

theorem codePoints_flatMap (cs : List Char) : codePoints (cs.flatMap unitsOf) = cs := by
  induction cs with
  | nil => rfl
  | cons c cs ih => rw [List.flatMap_cons, codePoints_unitsOf, ih]

theorem utf8EncodeChar_injective :
    Function.Injective fun cs : List Char => cs.flatMap String.utf8EncodeChar := by
  intro cs ds h
  have hencode : cs.utf8Encode = ds.utf8Encode := congrArg List.toByteArray h
  rw [← String.toByteArray_ofList, ← String.toByteArray_ofList] at hencode
  exact String.ofList_injective (String.toByteArray_inj.mp hencode)

theorem utf8_inj {s t : JsString} (hs : Formed s) (ht : Formed t) : utf8 s = utf8 t ↔ s = t := by
  refine ⟨fun h => ?_, fun h => h ▸ rfl⟩
  obtain ⟨cs, rfl⟩ := hs
  obtain ⟨ds, rfl⟩ := ht
  have hchars := utf8EncodeChar_injective h
  rw [codePoints_flatMap, codePoints_flatMap] at hchars
  rw [hchars]

end Torsor.Library.JsonQuote
