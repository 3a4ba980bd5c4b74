import Torsor.Library.Binary64
import Torsor.Library.QuotedUnits
import Torsor.Library.Table

/-! # The payload hash of a command

A command is hashed as a canonical JSON text: its objects list their keys in order. The text, and
with it the hash, determines the command up to the order in which it lists its keys.
-/

namespace Torsor.Kernel
open Torsor.Library Torsor.Library.JsonQuote Torsor.Library.Binary64

/-! ## The encoding -/

/-- The order of `sort`, by code units. -/
def unitsLe : JsString → JsString → Bool
  | [], _ => true
  | _ :: _, [] => false
  | u :: s, v :: t => u < v || (u = v && unitsLe s t)

def recordEntry (record : List (JsString × JsString)) (key : JsString) : JsString :=
  quoteUnits key ++ units ":" ++ (record.lookup key).getD []

mutual

def canonicalJson : JsonValue FiniteDouble → JsString
  | .null => units "null"
  | .bool true => units "true"
  | .bool false => units "false"
  | .number value => units (String.ofList (text value))
  | .string value => quoteUnits value
  | .array items => units "[" ++ joined (units ",") (canonicalItems items) ++ units "]"
  | .object fields =>
      let record := canonicalFields fields
      let keys := (record.map Prod.fst).mergeSort unitsLe
      units "\x7b" ++ joined (units ",") (keys.map (recordEntry record)) ++ units "\x7d"

def canonicalItems : List (JsonValue FiniteDouble) → List JsString
  | [] => []
  | item :: rest => canonicalJson item :: canonicalItems rest

def canonicalFields : List (JsString × JsonValue FiniteDouble) → List (JsString × JsString)
  | [] => []
  | field :: rest => canonicalField field :: canonicalFields rest

def canonicalField : JsString × JsonValue FiniteDouble → JsString × JsString
  | (key, value) => (key, canonicalJson value)

end

/-- The SHA-256 digest of the text in UTF-8. -/
def hashPayload (sha256 : List UInt8 → String) (command : JsonValue FiniteDouble) : String :=
  sha256 (utf8 (canonicalJson command))

/-! ## Equal values -/

/-- Equal up to the order of keys and the sign of zero. -/
inductive SameJson : JsonValue FiniteDouble → JsonValue FiniteDouble → Prop where
  | null : SameJson .null .null
  | bool (value : Bool) : SameJson (.bool value) (.bool value)
  | number {x y : FiniteDouble} (h : x.Same y) : SameJson (.number x) (.number y)
  | string (value : JsString) : SameJson (.string value) (.string value)
  | array {items items' : List (JsonValue FiniteDouble)} (hlength : items.length = items'.length)
      (hitems : ∀ item item', (item, item') ∈ items.zip items' → SameJson item item') :
      SameJson (.array items) (.array items')
  | object {fields fields' : List (JsString × JsonValue FiniteDouble)}
      (hkeys : (fields.map Prod.fst).Perm (fields'.map Prod.fst))
      (hfields : ∀ key value value', (key, value) ∈ fields → (key, value') ∈ fields' →
        SameJson value value') : SameJson (.object fields) (.object fields')

variable {items items' : List (JsonValue FiniteDouble)}
  {fields fields' : List (JsString × JsonValue FiniteDouble)} {r r' : JsString}

/-! ## The parts of a text -/

theorem canonicalItems_eq (items : List (JsonValue FiniteDouble)) :
    canonicalItems items = items.map canonicalJson := by
  induction items with
  | nil => rfl
  | cons item rest ih => rw [canonicalItems, ih, List.map_cons]

theorem canonicalFields_eq (fields : List (JsString × JsonValue FiniteDouble)) :
    canonicalFields fields = fields.map fun field => (field.1, canonicalJson field.2) := by
  induction fields with
  | nil => rfl
  | cons field rest ih => rw [canonicalFields, ih, List.map_cons, canonicalField]

def sortedKeys (fields : List (JsString × JsonValue FiniteDouble)) : List JsString :=
  (fields.map Prod.fst).mergeSort unitsLe

theorem canonicalJson_object (fields : List (JsString × JsonValue FiniteDouble)) :
    canonicalJson (.object fields) = units "\x7b" ++ joined (units ",")
      ((sortedKeys fields).map (recordEntry (canonicalFields fields))) ++ units "\x7d" := by
  rw [canonicalJson, canonicalFields_eq, List.map_map]
  rfl

/-! ## The order of keys -/

theorem unitsLe_cons {u v : UInt16} {s t : JsString} :
    unitsLe (u :: s) (v :: t) = true ↔ u.toNat < v.toNat ∨ u = v ∧ unitsLe s t = true := by
  simp [unitsLe, UInt16.lt_iff_toNat_lt]

theorem unitsLe_total (s t : JsString) : (unitsLe s t || unitsLe t s) = true := by
  rw [Bool.or_eq_true]
  induction s generalizing t with
  | nil => exact .inl rfl
  | cons u s ih =>
      cases t with
      | nil => exact .inr rfl
      | cons v t =>
          rw [unitsLe_cons, unitsLe_cons]
          obtain hlt | heq | hlt := Nat.lt_trichotomy u.toNat v.toNat
          · exact .inl (.inl hlt)
          · obtain rfl := UInt16.toNat_inj.mp heq
            obtain hle | hle := ih t
            · exact .inl (.inr ⟨rfl, hle⟩)
            · exact .inr (.inr ⟨rfl, hle⟩)
          · exact .inr (.inl hlt)

theorem unitsLe_antisymm {s t : JsString} (h : unitsLe s t = true) (h' : unitsLe t s = true) :
    s = t := by
  induction s generalizing t with
  | nil =>
      cases t with
      | nil => rfl
      | cons v t => cases h'
  | cons u s ih =>
      cases t with
      | nil => cases h
      | cons v t =>
          rw [unitsLe_cons] at h h'
          obtain hlt | ⟨rfl, hle⟩ := h
          · obtain hlt' | ⟨rfl, _⟩ := h'
            · omega
            · omega
          · obtain hlt' | ⟨_, hle'⟩ := h'
            · omega
            · rw [ih hle hle']

theorem unitsLe_trans {s t v : JsString} (h : unitsLe s t = true) (h' : unitsLe t v = true) :
    unitsLe s v = true := by
  induction s generalizing t v with
  | nil => rfl
  | cons a s ih =>
      cases t with
      | nil => cases h
      | cons b t =>
          cases v with
          | nil => cases h'
          | cons c v =>
              rw [unitsLe_cons] at h h' ⊢
              obtain hlt | ⟨rfl, hle⟩ := h
              · obtain hlt' | ⟨rfl, _⟩ := h'
                · exact .inl (hlt.trans hlt')
                · exact .inl hlt
              · obtain hlt' | ⟨rfl, hle'⟩ := h'
                · exact .inl hlt'
                · exact .inr ⟨rfl, ih hle hle'⟩

theorem sortedKeys_perm (fields : List (JsString × JsonValue FiniteDouble)) :
    (sortedKeys fields).Perm (fields.map Prod.fst) := List.mergeSort_perm _ _

/-- Sorting forgets the order. -/
theorem sortedKeys_congr (h : (fields.map Prod.fst).Perm (fields'.map Prod.fst)) :
    sortedKeys fields = sortedKeys fields' := by
  have hsorted : ∀ l : List JsString, (l.mergeSort unitsLe).Pairwise fun s t => unitsLe s t :=
    List.pairwise_mergeSort (fun _ _ _ => unitsLe_trans) unitsLe_total
  have hperm := ((sortedKeys_perm fields).trans h).trans (sortedKeys_perm fields').symm
  exact List.Perm.eq_of_pairwise (fun _ _ _ _ => unitsLe_antisymm) (hsorted _) (hsorted _) hperm

theorem exists_field {key : JsString} (hkey : key ∈ fields.map Prod.fst) :
    ∃ value, (key, value) ∈ fields ∧
      (canonicalFields fields).lookup key = some (canonicalJson value) := by
  rw [canonicalFields_eq]
  induction fields with
  | nil => cases hkey
  | cons field rest ih =>
      obtain ⟨first, value⟩ := field
      by_cases heq : key = first
      · subst heq
        exact ⟨value, List.mem_cons_self, by simp⟩
      · obtain ⟨found, hmem, hlookup⟩ := ih (by simpa [heq] using hkey)
        refine ⟨found, List.mem_cons_of_mem _ hmem, ?_⟩
        have hne : (key == first) = false := by simpa using heq
        rw [List.map_cons, List.lookup_cons, hne]
        exact hlookup

/-- Equal values have one text. -/
theorem SameJson.text_eq {a b : JsonValue FiniteDouble} (h : SameJson a b) :
    canonicalJson a = canonicalJson b := by
  induction h with
  | null => rfl
  | bool value => rfl
  | number h => rw [canonicalJson, canonicalJson, (text_eq_text _ _).mpr h]
  | string value => rfl
  | @array items items' hlength _ ih =>
      have hmap : items.map canonicalJson = items'.map canonicalJson := by
        rw [← List.forall₂_eq_eq_eq, List.forall₂_map_left_iff, List.forall₂_map_right_iff,
          List.forall₂_iff_zip]
        exact ⟨hlength, fun {item item'} hmem => ih item item' hmem⟩
      rw [canonicalJson, canonicalJson, canonicalItems_eq, canonicalItems_eq, hmap]
  | @object fields fields' hkeys _ ih =>
      have hentry : (sortedKeys fields').map (recordEntry (canonicalFields fields)) =
          (sortedKeys fields').map (recordEntry (canonicalFields fields')) := by
        apply List.map_congr_left
        intro key hkey
        have hmem := (sortedKeys_perm fields').mem_iff.mp hkey
        obtain ⟨value, hvalue, hlookup⟩ := exists_field (hkeys.mem_iff.mpr hmem)
        obtain ⟨value', hvalue', hlookup'⟩ := exists_field hmem
        rw [recordEntry, recordEntry, hlookup, hlookup', ih key value value' hvalue hvalue']
      rw [canonicalJson_object, canonicalJson_object, sortedKeys_congr hkeys, hentry]

/-! ## Reading the text -/

def isDelimiter (u : UInt16) : Prop := u = 44 ∨ u = 93 ∨ u = 125

instance (u : UInt16) : Decidable (isDelimiter u) := by
  unfold isDelimiter
  infer_instance

/-- What a text is of, by its first unit. -/
inductive Kind where
  | null | true | false | number | string | array | object
deriving DecidableEq

def kindOf (u : UInt16) : Kind :=
  if u = 110 then .null else if u = 116 then .true else if u = 102 then .false
  else if u = 34 then .string else if u = 91 then .array else if u = 123 then .object else .number

def kind : JsonValue FiniteDouble → Kind
  | .null => .null
  | .bool true => .true
  | .bool false => .false
  | .number _ => .number
  | .string _ => .string
  | .array _ => .array
  | .object _ => .object

theorem numeric_unit {c : Char} (h : isNumeric c = true) :
    ∃ u, unitsOf c = [u] ∧ kindOf u = .number ∧ ¬ isDelimiter u := by
  have hbound : c.toNat < 128 := by
    simp only [isNumeric, Char.isDigit, Bool.or_eq_true, Bool.and_eq_true, decide_eq_true_eq] at h
    obtain (((h | rfl) | rfl) | rfl) | rfl := h
    · have hle := UInt32.le_iff_toNat_le.mp h.2
      exact Nat.lt_of_le_of_lt hle (by decide)
    all_goals decide
  have hascii : ∀ n < 128, isNumeric (Char.ofNat n) = true →
      ∃ u, unitsOf (Char.ofNat n) = [u] ∧ kindOf u = .number ∧ ¬ isDelimiter u := by
    intro n hn hnumeric
    refine ⟨UInt16.ofNat n, ?_⟩
    revert n
    decide
  have hchar := hascii c.toNat hbound
  rw [Char.ofNat_toNat] at hchar
  exact hchar h

theorem numeric_units {cs : List Char} (h : Numeric cs) :
    ∀ u ∈ units (String.ofList cs), ¬ isDelimiter u := by
  intro u hu
  rw [units_ofList, List.mem_flatMap] at hu
  obtain ⟨c, hc, hu⟩ := hu
  obtain ⟨v, hv, _, hfree⟩ := numeric_unit (h c hc)
  rw [hv, List.mem_singleton] at hu
  rwa [hu]

/-- The first unit shows what the value is, and is no delimiter. -/
theorem canonicalJson_head (value : JsonValue FiniteDouble) :
    ∃ u rest, canonicalJson value = u :: rest ∧ kindOf u = kind value ∧ ¬ isDelimiter u := by
  cases value with
  | null => exact ⟨_, _, rfl, rfl, by decide⟩
  | bool b =>
      cases b with
      | true => exact ⟨_, _, rfl, rfl, by decide⟩
      | false => exact ⟨_, _, rfl, rfl, by decide⟩
  | number x =>
      obtain ⟨c, rest, htext, hc⟩ := text_head x
      obtain ⟨u, hu, hkind, hfree⟩ := numeric_unit hc
      refine ⟨u, rest.flatMap unitsOf, ?_, hkind, hfree⟩
      rw [canonicalJson, units_ofList, htext, List.flatMap_cons, hu]
      rfl
  | string s => exact ⟨_, _, rfl, rfl, by decide⟩
  | array items =>
      rw [canonicalJson]
      exact ⟨_, _, rfl, rfl, by decide⟩
  | object fields =>
      rw [canonicalJson]
      exact ⟨_, _, rfl, rfl, by decide⟩

theorem kind_eq {a b : JsonValue FiniteDouble}
    (h : canonicalJson a ++ r = canonicalJson b ++ r') : kind a = kind b := by
  obtain ⟨u, rest, hu, hkind, _⟩ := canonicalJson_head a
  obtain ⟨v, rest', hv, hkind', _⟩ := canonicalJson_head b
  rw [hu, hv, List.cons_append, List.cons_append, List.cons.injEq] at h
  rw [← hkind, ← hkind', h.1]

/-- Nothing but a delimiter comes next. -/
def Stops (r : JsString) : Prop := ∀ u ∈ r.head?, isDelimiter u

/-- The value can be told from its text, up to the next delimiter. -/
def Read (a : JsonValue FiniteDouble) : Prop :=
  ∀ b r r', a.DistinctKeys → b.DistinctKeys → Stops r → Stops r' →
    canonicalJson a ++ r = canonicalJson b ++ r' → SameJson a b ∧ r = r'

theorem not_closes {close : UInt16} (hclose : isDelimiter close) (a : JsonValue FiniteDouble)
    (w r : JsString) : canonicalJson a ++ w ≠ close :: r := by
  obtain ⟨u, rest, hu, _, hfree⟩ := canonicalJson_head a
  intro heq
  rw [hu, List.cons_append, List.cons.injEq] at heq
  exact hfree (heq.1 ▸ hclose)

theorem read_number (x : FiniteDouble) : Read (.number x) := by
  intro b r r' _ _ hr hr' heq
  have hkind := kind_eq heq
  cases b with
  | number y =>
      rw [canonicalJson, canonicalJson] at heq
      obtain ⟨htext, hrest⟩ := append_eq_of_stops (numeric_units (text_numeric x))
        (numeric_units (text_numeric y)) hr hr' heq
      have hlist := congrArg String.toList (units_injective htext)
      rw [String.toList_ofList, String.toList_ofList] at hlist
      exact ⟨.number ((text_eq_text x y).mp hlist), hrest⟩
  | bool b => cases b <;> cases hkind
  | _ => cases hkind

theorem read_array (ih : ∀ item ∈ items, Read item) : Read (.array items) := by
  intro b r r' ha hb hr hr' heq
  have hkind := kind_eq heq
  cases b with
  | array items' =>
      rw [canonicalJson, canonicalJson, canonicalItems_eq, canonicalItems_eq] at heq
      simp only [List.append_assoc, List.append_cancel_left_eq] at heq
      cases ha with | array hitems =>
      cases hb with | array hitems' =>
      have hseparates : Separates isDelimiter 93 canonicalJson canonicalJson SameJson items
          items' :=
        ⟨fun x hx y hy r r' hr hr' => ih x hx y r r' (hitems x hx) (hitems' y hy) hr hr',
          fun x _ => not_closes (by decide) x, fun y _ => not_closes (by decide) y⟩
      obtain ⟨hsame, hrest⟩ := joined_unique (by decide) (by decide) (by decide) hseparates heq
      rw [List.forall₂_iff_zip] at hsame
      exact ⟨.array hsame.1 fun _ _ hmem => hsame.2 hmem, hrest⟩
  | bool b => cases b <;> cases hkind
  | _ => cases hkind

theorem recordEntry_not_closes (record : List (JsString × JsString)) (key w r : JsString) :
    recordEntry record key ++ w ≠ 125 :: r := by
  intro heq
  cases heq

/-- Equal keys, with equal values. -/
def SameField (fields fields' : List (JsString × JsonValue FiniteDouble)) (key key' : JsString) :
    Prop :=
  key = key' ∧ ∀ value value', (key, value) ∈ fields → (key', value') ∈ fields' →
    SameJson value value'

theorem value_unique (hkeys : (fields.map Prod.fst).Nodup) {key : JsString}
    {value value' : JsonValue FiniteDouble} (h : (key, value) ∈ fields)
    (h' : (key, value') ∈ fields) : value = value' :=
  congrArg Prod.snd (List.inj_on_of_nodup_map hkeys h h' rfl)

theorem read_entry (ih : ∀ key value, (key, value) ∈ fields → Read value)
    (ha : (JsonValue.object fields).DistinctKeys) (hb : (JsonValue.object fields').DistinctKeys)
    {key key' : JsString} (hkey : key ∈ sortedKeys fields) (hkey' : key' ∈ sortedKeys fields')
    (hr : Stops r) (hr' : Stops r')
    (heq : recordEntry (canonicalFields fields) key ++ r =
      recordEntry (canonicalFields fields') key' ++ r') :
    SameField fields fields' key key' ∧ r = r' := by
  cases ha with | object hnodup hfields =>
  cases hb with | object hnodup' hfields' =>
  obtain ⟨value, hvalue, hlookup⟩ := exists_field ((sortedKeys_perm fields).mem_iff.mp hkey)
  obtain ⟨value', hvalue', hlookup'⟩ := exists_field ((sortedKeys_perm fields').mem_iff.mp hkey')
  rw [recordEntry, recordEntry, hlookup, hlookup'] at heq
  simp only [List.append_assoc, Option.getD_some] at heq
  obtain ⟨rfl, hrest⟩ := quoteUnits_prefixCode heq
  rw [List.append_cancel_left_eq] at hrest
  obtain ⟨hsame, hr⟩ := ih key value hvalue value' r r' (hfields key value hvalue)
    (hfields' key value' hvalue') hr hr' hrest
  refine ⟨⟨rfl, fun v v' hv hv' => ?_⟩, hr⟩
  rwa [value_unique hnodup hv hvalue, value_unique hnodup' hv' hvalue']

theorem read_object (ih : ∀ key value, (key, value) ∈ fields → Read value) :
    Read (.object fields) := by
  intro b r r' ha hb hr hr' heq
  have hkind := kind_eq heq
  cases b with
  | object fields' =>
      rw [canonicalJson_object, canonicalJson_object] at heq
      simp only [List.append_assoc, List.append_cancel_left_eq] at heq
      have hseparates : Separates isDelimiter 125 (recordEntry (canonicalFields fields))
          (recordEntry (canonicalFields fields')) (SameField fields fields') (sortedKeys fields)
          (sortedKeys fields') :=
        ⟨fun key hkey key' hkey' r r' hr hr' => read_entry ih ha hb hkey hkey' hr hr',
          fun key _ => recordEntry_not_closes _ key, fun key _ => recordEntry_not_closes _ key⟩
      obtain ⟨hsame, hrest⟩ := joined_unique (by decide) (by decide) (by decide) hseparates heq
      refine ⟨.object ?_ ?_, hrest⟩
      · have hkeys : sortedKeys fields = sortedKeys fields' :=
          List.forall₂_eq_eq_eq ▸ hsame.imp fun _ _ h => h.1
        exact (sortedKeys_perm fields).symm.trans (hkeys ▸ sortedKeys_perm fields')
      · intro key value value' hvalue hvalue'
        have hkey : key ∈ sortedKeys fields :=
          (sortedKeys_perm fields).mem_iff.mpr (List.mem_map_of_mem hvalue)
        obtain ⟨key', _, rfl, hfield⟩ := forall₂_mem_left hsame hkey
        exact hfield value value' hvalue hvalue'
  | bool b => cases b <;> cases hkind
  | _ => cases hkind

theorem canonicalJson_read (a : JsonValue FiniteDouble) : Read a := by
  induction a using JsonValue.nested_induction with
  | hnull =>
      intro b r r' _ _ _ _ heq
      have hkind := kind_eq heq
      cases b with
      | null => exact ⟨.null, List.append_cancel_left heq⟩
      | bool b => cases b <;> cases hkind
      | _ => cases hkind
  | hbool value =>
      intro b r r' _ _ _ _ heq
      have hkind := kind_eq heq
      cases b with
      | bool b =>
          cases value <;> cases b
          · exact ⟨.bool false, List.append_cancel_left heq⟩
          · cases hkind
          · cases hkind
          · exact ⟨.bool true, List.append_cancel_left heq⟩
      | _ => cases value <;> cases hkind
  | hnumber x => exact read_number x
  | hstring value =>
      intro b r r' _ _ _ _ heq
      have hkind := kind_eq heq
      cases b with
      | string value' =>
          rw [canonicalJson, canonicalJson] at heq
          obtain ⟨rfl, hrest⟩ := quoteUnits_prefixCode heq
          exact ⟨.string value, hrest⟩
      | bool b => cases b <;> cases hkind
      | _ => cases hkind
  | harray items ih => exact read_array ih
  | hobject fields ih => exact read_object ih

/-! ## The bytes that are hashed -/

theorem joined_formed {texts : List JsString} (h : ∀ s ∈ texts, Formed s) :
    Formed (joined (units ",") texts) := by
  have hnil : Formed [] := ⟨[], rfl⟩
  cases texts with
  | nil => exact hnil
  | cons first rest =>
      refine (h first List.mem_cons_self).append ?_
      have hrest : ∀ s ∈ rest, Formed s := fun s hs => h s (List.mem_cons_of_mem _ hs)
      clear h
      induction rest with
      | nil => exact hnil
      | cons s rest ih =>
          have htail := ih fun t ht => hrest t (List.mem_cons_of_mem _ ht)
          exact ((formed_units _).append (hrest s List.mem_cons_self)).append htail

theorem canonicalJson_formed (value : JsonValue FiniteDouble) : Formed (canonicalJson value) := by
  induction value using JsonValue.nested_induction with
  | hnull => exact formed_units _
  | hbool b =>
      cases b with
      | true => exact formed_units _
      | false => exact formed_units _
  | hnumber x => exact formed_units _
  | hstring s => exact quoteUnits_formed s
  | harray items ih =>
      rw [canonicalJson, canonicalItems_eq]
      refine ((formed_units _).append (joined_formed ?_)).append (formed_units _)
      intro s hs
      obtain ⟨item, hitem, rfl⟩ := List.mem_map.mp hs
      exact ih item hitem
  | hobject fields ih =>
      rw [canonicalJson_object]
      refine ((formed_units _).append (joined_formed ?_)).append (formed_units _)
      intro s hs
      obtain ⟨key, hkey, rfl⟩ := List.mem_map.mp hs
      obtain ⟨value, hvalue, hlookup⟩ := exists_field ((sortedKeys_perm fields).mem_iff.mp hkey)
      rw [recordEntry, hlookup]
      exact ((quoteUnits_formed key).append (formed_units _)).append (ih key value hvalue)

/-! ## The canonical encoding -/

/-- A finite JSON value. -/
abbrev FiniteJson : Type := { value : JsonValue FiniteDouble // value.DistinctKeys }

/-- The two inputs do not have one digest, unless they are equal. -/
def NoCollision (sha256 : List UInt8 → String) (x y : List UInt8) : Prop :=
  sha256 x = sha256 y → x = y

structure Canonical (sha256 : List UInt8 → String) (a b : FiniteJson) : Prop where
  /-- Values have one text exactly when they are equal up to the order of keys. -/
  encoding : canonicalJson a.1 = canonicalJson b.1 ↔ SameJson a.1 b.1
  /-- Unless their digests collide, so it is with their hashes. -/
  hash : NoCollision sha256 (utf8 (canonicalJson a.1)) (utf8 (canonicalJson b.1)) →
    (hashPayload sha256 a.1 = hashPayload sha256 b.1 ↔ SameJson a.1 b.1)

/-- The canonical text of a command, and its hash, stand for the command and for no other. -/
theorem canonicalJson_canonical (sha256 : List UInt8 → String) (a b : FiniteJson) :
    Canonical sha256 a b := by
  have hencoding : canonicalJson a.1 = canonicalJson b.1 ↔ SameJson a.1 b.1 := by
    refine ⟨fun heq => ?_, fun h => h.text_eq⟩
    have hstops : Stops [] := by rintro _ ⟨⟩
    exact (canonicalJson_read a.1 b.1 [] [] a.2 b.2 hstops hstops (by rw [heq])).1
  refine ⟨hencoding, fun hcollision => ?_⟩
  rw [← hencoding, ← utf8_inj (canonicalJson_formed a.1) (canonicalJson_formed b.1)]
  exact ⟨hcollision, fun h => congrArg sha256 h⟩

end Torsor.Kernel
