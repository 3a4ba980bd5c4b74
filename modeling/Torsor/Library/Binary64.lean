import Mathlib.Data.List.DropRight
import Mathlib.Order.Monotone.Basic
import Mathlib.Tactic.Ring

/-! # Finite doubles and their decimal texts

A finite double is a sign and the bits below it. The bits count the magnitudes in their order, so
the double next to another one has the next bits. A decimal denotes the double nearest to it, and
a double is written with as few digits as denote it.
-/

namespace Torsor.Library.Binary64

structure FiniteDouble where
  negative : Bool
  bits : Nat
  finite : bits < 2047 * 2 ^ 52
deriving DecidableEq

/-! ## Magnitudes -/

/-- The finest doubles are whole multiples of 2 to the power of minus this number. -/
def scale : Nat := 1074

/-- What bits stand for, in units of 2 ^ -scale. -/
def magnitude (bits : Nat) : Nat :=
  if bits < 2 ^ 52 then bits else (2 ^ 52 + bits % 2 ^ 52) * 2 ^ (bits / 2 ^ 52 - 1)

/-- The same in units of 10 ^ -scale. -/
def exact (bits : Nat) : Nat := magnitude bits * 5 ^ scale

theorem magnitude_strictMono : StrictMono magnitude := by
  apply strictMono_nat_of_lt_succ
  intro bits
  unfold magnitude
  generalize hbase : 2 ^ 52 = base
  have hpos : 0 < base := by
    rw [← hbase]
    exact Nat.two_pow_pos 52
  by_cases hnext : bits + 1 < base
  · rw [if_pos (by omega), if_pos hnext]
    omega
  rw [if_neg hnext]
  by_cases hsmall : bits < base
  · have hbits : bits + 1 = base := by omega
    rw [if_pos hsmall, hbits, Nat.mod_self, Nat.div_self hpos]
    omega
  rw [if_neg hsmall]
  have hquotient : 0 < bits / base := Nat.div_pos (by omega) hpos
  by_cases hcarry : bits % base + 1 < base
  · -- the exponent stays
    have hdiv : (bits + 1) / base = bits / base := by
      rw [Nat.succ_div_of_not_dvd]
      rw [Nat.dvd_iff_mod_eq_zero, Nat.add_mod]
      by_cases hone : base = 1
      · omega
      · rw [Nat.mod_eq_of_lt (show 1 < base by omega), Nat.mod_eq_of_lt hcarry]
        omega
    have hmod : (bits + 1) % base = bits % base + 1 := by
      have hbits := Nat.div_add_mod bits base
      have hbits' := Nat.div_add_mod (bits + 1) base
      rw [hdiv] at hbits'
      omega
    rw [hdiv, hmod]
    exact Nat.mul_lt_mul_of_pos_right (by omega) (Nat.two_pow_pos _)
  · -- the significand starts over at the next exponent
    have hmod : bits % base = base - 1 := by
      have := Nat.mod_lt bits hpos
      omega
    have hdvd : base ∣ bits + 1 := by
      have hbits := Nat.div_add_mod bits base
      exact ⟨bits / base + 1, by rw [Nat.mul_add]; omega⟩
    rw [Nat.succ_div_of_dvd hdvd, Nat.dvd_iff_mod_eq_zero.mp hdvd, hmod]
    obtain ⟨q, hq⟩ : ∃ q, bits / base = q + 1 := ⟨bits / base - 1, by omega⟩
    rw [hq, Nat.add_sub_cancel, Nat.add_sub_cancel, Nat.pow_succ, Nat.add_zero,
      Nat.mul_comm (2 ^ q), ← Nat.mul_assoc]
    exact Nat.mul_lt_mul_of_pos_right (by omega) (Nat.two_pow_pos _)

theorem exact_strictMono : StrictMono exact := by
  intro a b hab
  exact Nat.mul_lt_mul_of_pos_right (magnitude_strictMono hab) (Nat.pow_pos (by decide))

/-! ## Reading a decimal -/

/-- A decimal, in units of 10 ^ -scale, denotes the double nearest to it; halfway between two of
them it denotes the one whose significand is even. -/
def Denotes (decimal bits : Nat) : Prop :=
  let below := exact (bits - 1) + exact bits
  let above := exact bits + exact (bits + 1)
  if bits % 2 = 0 then below ≤ 2 * decimal ∧ 2 * decimal ≤ above
  else below < 2 * decimal ∧ 2 * decimal < above

instance (decimal bits : Nat) : Decidable (Denotes decimal bits) := by
  unfold Denotes
  infer_instance

variable {decimal a b bits : Nat}

theorem Denotes.bounds (h : Denotes decimal bits) :
    exact (bits - 1) + exact bits ≤ 2 * decimal ∧
      2 * decimal ≤ exact bits + exact (bits + 1) := by
  unfold Denotes at h
  split at h
  · exact h
  · exact ⟨h.1.le, h.2.le⟩

theorem Denotes.strict (h : Denotes decimal bits) (hodd : bits % 2 = 1) :
    exact (bits - 1) + exact bits < 2 * decimal ∧
      2 * decimal < exact bits + exact (bits + 1) := by
  unfold Denotes at h
  rwa [if_neg (by omega)] at h

theorem Denotes.not_lt (ha : Denotes decimal a) (hb : Denotes decimal b) : ¬ a < b := by
  intro hlt
  have hnext : exact (a + 1) ≤ exact b := exact_strictMono.monotone hlt
  have hprevious : exact a ≤ exact (b - 1) := exact_strictMono.monotone (by omega)
  have habove := ha.bounds.2
  have hbelow := hb.bounds.1
  by_cases hsucc : a + 1 = b
  · -- one of two neighbours is odd
    by_cases hodd : a % 2 = 1
    · have := (ha.strict hodd).2
      omega
    · have := (hb.strict (by omega)).1
      omega
  · have : exact (a + 1) < exact b := exact_strictMono (by omega)
    omega

theorem Denotes.unique (ha : Denotes decimal a) (hb : Denotes decimal b) : a = b := by
  have := ha.not_lt hb
  have := hb.not_lt ha
  omega

/-- No double is nearer to a decimal than the one it denotes. -/
theorem Denotes.nearest (h : Denotes decimal bits) (other : Nat) :
    ((decimal : Int) - exact bits).natAbs ≤ ((decimal : Int) - exact other).natAbs := by
  obtain ⟨hbelow, habove⟩ := h.bounds
  obtain hlt | rfl | hlt := Nat.lt_trichotomy other bits
  · have hprevious : exact other ≤ exact (bits - 1) := exact_strictMono.monotone (by omega)
    have hless : exact other < exact bits := exact_strictMono hlt
    omega
  · exact le_rfl
  · have hnext : exact (bits + 1) ≤ exact other := exact_strictMono.monotone hlt
    have hless : exact bits < exact other := exact_strictMono hlt
    omega

theorem denotes_exact (bits : Nat) : Denotes (exact bits) bits := by
  have hnext : exact bits < exact (bits + 1) := exact_strictMono (by omega)
  have hprevious : exact (bits - 1) ≤ exact bits := exact_strictMono.monotone (by omega)
  unfold Denotes
  split_ifs with heven
  · omega
  · have : exact (bits - 1) < exact bits := exact_strictMono (by omega)
    omega

theorem Denotes.pos (h : Denotes decimal bits) (hbits : 0 < bits) : 0 < decimal := by
  have hless : exact (bits - 1) < exact bits := exact_strictMono (by omega)
  have hbelow := h.bounds.1
  omega

/-! ## The shortest decimal -/

/-- Of the decimals with `count` significant digits that denote the double, the one nearest to it;
of two equally near ones the one whose last digit is even. -/
def shortened (bits count : Nat) : Option Nat :=
  let x := exact bits
  let unit := 10 ^ ((Nat.toDigits 10 x).length - count)
  let low := x / unit * unit
  let high := low + unit
  if Denotes low bits ∧ (¬ Denotes high bits ∨ x - low < high - x ∨
      x - low = high - x ∧ x / unit % 2 = 0) then some low
  else if Denotes high bits then some high
  else none

def shortest (bits : Nat) : Nat :=
  ((List.range' 1 (Nat.toDigits 10 (exact bits)).length).findSome? (shortened bits)).getD
    (exact bits)

theorem shortened_denotes {count : Nat} (h : shortened bits count = some decimal) :
    Denotes decimal bits := by
  unfold shortened at h
  simp only at h
  split at h
  · obtain rfl := Option.some.inj h
    exact And.left ‹_›
  · split at h
    · obtain rfl := Option.some.inj h
      assumption
    · cases h

theorem shortest_denotes (bits : Nat) : Denotes (shortest bits) bits := by
  unfold shortest
  cases hfound : (List.range' 1 _).findSome? (shortened bits) with
  | none => exact denotes_exact bits
  | some decimal =>
      obtain ⟨count, _, hcount⟩ := List.exists_of_findSome?_eq_some hfound
      exact shortened_denotes hcount

theorem shortest_injective : shortest.Injective := by
  intro a b h
  have hdenotes := shortest_denotes a
  rw [h] at hdenotes
  exact hdenotes.unique (shortest_denotes b)

/-! ## Writing -/

def exponentText (exponent : Int) : List Char :=
  'e' :: (if exponent < 0 then '-' else '+') :: Nat.toDigits 10 exponent.natAbs

/-- Digits with the point after the first `point` of them, as a program writes them. -/
def layout (digits : List Char) (point : Int) : List Char :=
  if digits.length ≤ point ∧ point ≤ 21 then
    digits ++ List.replicate (point.toNat - digits.length) '0'
  else if 0 < point ∧ point ≤ 21 then
    digits.take point.toNat ++ '.' :: digits.drop point.toNat
  else if -6 < point ∧ point ≤ 0 then
    '0' :: '.' :: (List.replicate (-point).toNat '0' ++ digits)
  else if digits.length = 1 then digits ++ exponentText (point - 1)
  else digits.take 1 ++ '.' :: digits.drop 1 ++ exponentText (point - 1)

def positiveText (bits : Nat) : List Char :=
  let digits := Nat.toDigits 10 (shortest bits)
  layout (digits.rdropWhile (· = '0')) (digits.length - scale)

/-- `Number::toString` -/
def text (x : FiniteDouble) : List Char :=
  if x.bits = 0 then ['0']
  else if x.negative then '-' :: positiveText x.bits
  else positiveText x.bits

example : String.ofList (text ⟨false, 0x3FB999999999999A, by decide⟩) = "0.1" := by
  decide +kernel

example : String.ofList (text ⟨true, 0x444B1AE4D6E2EF50, by decide⟩) = "-1e+21" := by
  decide +kernel

/-! ## Reading back -/

def readExponent : List Char → Int
  | 'e' :: '-' :: digits => -(Nat.ofDigitChars 10 digits 0 : Int)
  | 'e' :: '+' :: digits => Nat.ofDigitChars 10 digits 0
  | _ => 0

/-- The decimal a text stands for, in units of 10 ^ -scale. -/
def readText (cs : List Char) : Nat :=
  let significand := cs.takeWhile (· ≠ 'e')
  let whole := significand.takeWhile (· ≠ '.')
  let fraction := (significand.dropWhile (· ≠ '.')).drop 1
  let exponent := readExponent (cs.dropWhile (· ≠ 'e'))
  Nat.ofDigitChars 10 (whole ++ fraction) 0 * 10 ^ (exponent + scale - fraction.length).toNat

theorem readExponent_nil : readExponent [] = 0 := rfl

def Digits (cs : List Char) : Prop := ∀ c ∈ cs, c.isDigit = true

variable {cs ds whole fraction tail : List Char} {point : Int}

theorem Digits.append (h : Digits cs) (h' : Digits ds) : Digits (cs ++ ds) := by
  intro c hc
  obtain hc | hc := List.mem_append.mp hc
  · exact h c hc
  · exact h' c hc

theorem digits_zeros (n : Nat) : Digits (List.replicate n '0') := by
  intro c hc
  rw [List.eq_of_mem_replicate hc]
  decide

theorem digits_toDigits (n : Nat) : Digits (Nat.toDigits 10 n) := fun _ hc =>
  Nat.isDigit_of_mem_toDigits (by decide) (by decide) hc

theorem Digits.take (h : Digits cs) (n : Nat) : Digits (cs.take n) :=
  fun c hc => h c (List.mem_of_mem_take hc)

theorem Digits.drop (h : Digits cs) (n : Nat) : Digits (cs.drop n) :=
  fun c hc => h c (List.mem_of_mem_drop hc)

theorem Digits.ne (h : Digits cs) (stop : Char) (hstop : stop.isDigit = false) :
    ∀ c ∈ cs, decide (c ≠ stop) = true := by
  intro c hc
  rw [decide_eq_true_eq]
  rintro rfl
  rw [h c hc] at hstop
  cases hstop

/-- The part after the significand, if there is one. -/
def IsTail (tail : List Char) : Prop := tail = [] ∨ ∃ rest, tail = 'e' :: rest

theorem IsTail.takeWhile (h : IsTail tail) : tail.takeWhile (· ≠ 'e') = [] := by
  obtain rfl | ⟨rest, rfl⟩ := h
  · rfl
  · simp

theorem IsTail.dropWhile (h : IsTail tail) : tail.dropWhile (· ≠ 'e') = tail := by
  obtain rfl | ⟨rest, rfl⟩ := h
  · rfl
  · simp

theorem exponentText_isTail (exponent : Int) : IsTail (exponentText exponent) := .inr ⟨_, rfl⟩

theorem readText_whole (hwhole : Digits whole) (htail : IsTail tail) :
    readText (whole ++ tail) =
      Nat.ofDigitChars 10 whole 0 * 10 ^ (readExponent tail + scale).toNat := by
  have he := hwhole.ne 'e' (by decide)
  have hpoint := hwhole.ne '.' (by decide)
  have hdrop : whole.dropWhile (· ≠ '.') = [] := List.dropWhile_eq_nil_iff.mpr hpoint
  have htake : whole.takeWhile (· ≠ '.') = whole := List.takeWhile_eq_self_iff.mpr hpoint
  unfold readText
  simp only
  rw [List.takeWhile_append_of_pos he, List.dropWhile_append_of_pos he, htail.takeWhile,
    htail.dropWhile, List.append_nil, hdrop, htake]
  simp

theorem readText_pointed (hwhole : Digits whole) (hfraction : Digits fraction)
    (htail : IsTail tail) :
    readText (whole ++ '.' :: fraction ++ tail) = Nat.ofDigitChars 10 (whole ++ fraction) 0 *
      10 ^ (readExponent tail + scale - fraction.length).toNat := by
  have he : ∀ c ∈ whole ++ '.' :: fraction, decide (c ≠ 'e') = true := by
    intro c hc
    obtain hc | hc := List.mem_append.mp hc
    · exact hwhole.ne 'e' (by decide) c hc
    · obtain rfl | hc := List.mem_cons.mp hc
      · decide
      · exact hfraction.ne 'e' (by decide) c hc
  have hpoint := hwhole.ne '.' (by decide)
  unfold readText
  simp only
  rw [List.takeWhile_append_of_pos he, List.dropWhile_append_of_pos he, htail.takeWhile,
    htail.dropWhile, List.append_nil, List.takeWhile_append_of_pos hpoint,
    List.dropWhile_append_of_pos hpoint]
  simp

theorem readExponent_text (exponent : Int) : readExponent (exponentText exponent) = exponent := by
  unfold exponentText
  split_ifs with hneg
  · rw [readExponent, Nat.ofDigitChars_ten_toDigits]
    omega
  · rw [readExponent, Nat.ofDigitChars_ten_toDigits]
    omega

/-- What is written of digits and their point reads as the decimal they stand for. -/
theorem readText_layout (hdigits : Digits ds) (hne : ds ≠ []) (hpoint : ds.length ≤ point + scale) :
    readText (layout ds point) =
      Nat.ofDigitChars 10 ds 0 * 10 ^ (point + scale - ds.length).toNat := by
  have hlength := List.length_pos_iff.mpr hne
  have hnil : IsTail [] := .inl rfl
  unfold layout
  split_ifs with hwhole hpointed hsmall hone
  · have hread := readText_whole (hdigits.append (digits_zeros (point.toNat - ds.length))) hnil
    rw [List.append_nil] at hread
    have hexponent : (point + scale - ds.length).toNat = point.toNat - ds.length + scale := by omega
    rw [hread, Nat.ofDigitChars_append, Nat.ofDigitChars_replicate_zero, hexponent, Nat.pow_add]
    rw [readExponent_nil, Int.zero_add, Int.toNat_natCast]
    ring
  · have hread := readText_pointed (hdigits.take point.toNat) (hdigits.drop point.toNat) hnil
    rw [List.append_nil, List.take_append_drop] at hread
    rw [hread, List.length_drop, readExponent_nil]
    congr 2
    omega
  · have hread := readText_pointed (digits_zeros 1)
      ((digits_zeros (-point).toNat).append hdigits) hnil
    rw [List.append_nil] at hread
    refine hread.trans ?_
    rw [← List.append_assoc, Nat.ofDigitChars_append, ← List.replicate_add,
      Nat.ofDigitChars_replicate_zero, List.length_append, List.length_replicate,
      readExponent_nil, Nat.mul_zero]
    congr 2
    omega
  · rw [readText_whole hdigits (exponentText_isTail _), readExponent_text]
    congr 2
    omega
  · rw [readText_pointed (hdigits.take 1) (hdigits.drop 1) (exponentText_isTail _),
      readExponent_text, List.take_append_drop, List.length_drop]
    congr 2
    omega

/-- Zeros at the end only say where the point is. -/
theorem digits_stripped (cs : List Char) :
    ∃ n, cs = cs.rdropWhile (· = '0') ++ List.replicate n '0' := by
  refine ⟨(cs.rtakeWhile (· = '0')).length, ?_⟩
  have hzeros : cs.rtakeWhile (· = '0') =
      List.replicate (cs.rtakeWhile (· = '0')).length '0' := by
    rw [List.eq_replicate_iff]
    refine ⟨rfl, fun c hc => ?_⟩
    simpa using List.mem_rtakeWhile_imp hc
  rw [← hzeros, List.rdropWhile_append_rtakeWhile]

theorem positiveText_eq (hpos : 0 < bits) :
    ∃ (stripped : List Char) (n : Nat), positiveText bits =
        layout stripped ((stripped.length + n : Nat) - scale) ∧
      Digits stripped ∧ stripped ≠ [] ∧
        Nat.ofDigitChars 10 stripped 0 * 10 ^ n = shortest bits := by
  have hvalue : Nat.ofDigitChars 10 (Nat.toDigits 10 (shortest bits)) 0 = shortest bits :=
    Nat.ofDigitChars_ten_toDigits
  have hdigits := digits_toDigits (shortest bits)
  unfold positiveText
  simp only
  generalize Nat.toDigits 10 (shortest bits) = digits at hvalue hdigits
  obtain ⟨n, hn⟩ := digits_stripped digits
  generalize digits.rdropWhile (· = '0') = stripped at hn
  subst hn
  have hread : Nat.ofDigitChars 10 stripped 0 * 10 ^ n = shortest bits := by
    rw [← hvalue, Nat.ofDigitChars_append, Nat.ofDigitChars_replicate_zero, Nat.mul_comm]
  refine ⟨stripped, n, ?_, fun c hc => hdigits c (List.mem_append_left _ hc), ?_, hread⟩
  · rw [List.length_append, List.length_replicate]
  · rintro rfl
    have hshortest := (shortest_denotes bits).pos hpos
    rw [← hread] at hshortest
    simp at hshortest

theorem readText_positiveText (hpos : 0 < bits) :
    readText (positiveText bits) = shortest bits := by
  obtain ⟨stripped, n, htext, hdigits, hne, hread⟩ := positiveText_eq hpos
  rw [htext, readText_layout hdigits hne (by omega), ← hread]
  congr 2
  omega

/-! ## The text determines the number -/

/-- Equal numbers: zero has no sign. -/
def FiniteDouble.Same (x y : FiniteDouble) : Prop :=
  x.bits = y.bits ∧ (x.bits = 0 ∨ x.negative = y.negative)

theorem positiveText_inj (ha : 0 < a) (hb : 0 < b) (h : positiveText a = positiveText b) :
    a = b := by
  have hread := readText_positiveText ha
  rw [h, readText_positiveText hb] at hread
  exact (shortest_injective hread).symm

theorem layout_head (hdigits : Digits ds) (hne : ds ≠ []) :
    ∃ d rest, layout ds point = d :: rest ∧ d.isDigit = true := by
  cases ds with
  | nil => exact absurd rfl hne
  | cons d ds =>
      have hd : d.isDigit = true := hdigits d (List.mem_cons_self ..)
      unfold layout
      split_ifs with hwhole hpointed hsmall
      · exact ⟨d, _, rfl, hd⟩
      · obtain ⟨n, hn⟩ : ∃ n, point.toNat = n + 1 := ⟨point.toNat - 1, by omega⟩
        rw [hn]
        exact ⟨d, _, rfl, hd⟩
      · exact ⟨'0', _, rfl, by decide⟩
      all_goals exact ⟨d, _, rfl, hd⟩

theorem positiveText_head (hpos : 0 < bits) :
    ∃ d rest, positiveText bits = d :: rest ∧ d.isDigit = true := by
  obtain ⟨stripped, n, htext, hdigits, hne, _⟩ := positiveText_eq hpos
  rw [htext]
  exact layout_head hdigits hne

theorem positiveText_ne (hpos : 0 < bits) (rest : List Char) :
    positiveText bits ≠ '-' :: rest ∧ positiveText bits ≠ ['0'] := by
  constructor
  · intro heq
    obtain ⟨d, _, hhead, hd⟩ := positiveText_head hpos
    rw [heq, List.cons.injEq] at hhead
    rw [← hhead.1] at hd
    exact absurd hd (by decide)
  · intro heq
    have hread := readText_positiveText hpos
    have hzero : readText ['0'] = 0 := by simp [readText, Nat.ofDigitChars_cons]
    rw [heq, hzero] at hread
    have hshortest := (shortest_denotes bits).pos hpos
    omega

theorem text_ne_zero {x : FiniteDouble} (hpos : 0 < x.bits) : text x ≠ ['0'] := by
  have hne := (positiveText_ne hpos []).2
  unfold text
  rw [if_neg (by omega)]
  split
  · simp
  · exact hne

theorem text_eq_text (x y : FiniteDouble) : text x = text y ↔ x.Same y := by
  unfold FiniteDouble.Same
  by_cases hx : x.bits = 0
  · by_cases hy : y.bits = 0
    · simp [text, hx, hy]
    · have hne := text_ne_zero (x := y) (by omega)
      have hzero : text x = ['0'] := if_pos hx
      rw [hzero, hx]
      exact ⟨fun h => absurd h.symm hne, fun h => absurd h.1.symm hy⟩
  · by_cases hy : y.bits = 0
    · have hne := text_ne_zero (x := x) (by omega)
      have hzero : text y = ['0'] := if_pos hy
      rw [hzero, hy]
      exact ⟨fun h => absurd h hne, fun h => absurd h.1 hx⟩
    · have hpos : 0 < x.bits := by omega
      have hpos' : 0 < y.bits := by omega
      have hsame : positiveText x.bits = positiveText y.bits ↔ x.bits = y.bits :=
        ⟨positiveText_inj hpos hpos', fun h => by rw [h]⟩
      have hsign := fun rest => (positiveText_ne hpos rest).1
      have hsign' := fun rest => (positiveText_ne hpos' rest).1
      rw [text, text, if_neg hx, if_neg hy]
      cases x.negative <;> cases y.negative
      · simp [hsame]
      · simp [hx, hsign]
      · simp only [if_true, hx, false_or]
        simpa using (hsign' _).symm
      · simp [hsame]

/-! ## The characters of a number -/

def isNumeric (c : Char) : Bool := c.isDigit || c = '.' || c = 'e' || c = '+' || c = '-'

def Numeric (cs : List Char) : Prop := ∀ c ∈ cs, isNumeric c = true

theorem Digits.numeric (h : Digits cs) : Numeric cs := by
  intro c hc
  simp [isNumeric, h c hc]

theorem Numeric.append (h : Numeric cs) (h' : Numeric ds) : Numeric (cs ++ ds) := by
  intro c hc
  obtain hc | hc := List.mem_append.mp hc
  · exact h c hc
  · exact h' c hc

theorem Numeric.cons {c : Char} (hc : isNumeric c = true) (h : Numeric cs) :
    Numeric (c :: cs) := by
  intro d hd
  obtain rfl | hd := List.mem_cons.mp hd
  · exact hc
  · exact h d hd

theorem exponentText_numeric (exponent : Int) : Numeric (exponentText exponent) := by
  have hdigits := (digits_toDigits exponent.natAbs).numeric
  unfold exponentText
  split_ifs
  · exact (hdigits.cons (by decide)).cons (by decide)
  · exact (hdigits.cons (by decide)).cons (by decide)

theorem layout_numeric (hdigits : Digits ds) : Numeric (layout ds point) := by
  unfold layout
  split_ifs
  · exact (hdigits.append (digits_zeros _)).numeric
  · exact (hdigits.take _).numeric.append ((hdigits.drop _).numeric.cons (by decide))
  · exact (((digits_zeros _).append hdigits).numeric.cons (by decide)).cons (by decide)
  · exact hdigits.numeric.append (exponentText_numeric _)
  · exact ((hdigits.take 1).numeric.append ((hdigits.drop 1).numeric.cons (by decide))).append
      (exponentText_numeric _)

theorem text_numeric (x : FiniteDouble) : Numeric (text x) := by
  unfold text
  split_ifs with hzero hnegative
  · exact (digits_zeros 1).numeric
  · have hpos : 0 < x.bits := by omega
    obtain ⟨stripped, n, htext, hdigits, _⟩ := positiveText_eq hpos
    rw [htext]
    exact (layout_numeric hdigits).cons (by decide)
  · have hpos : 0 < x.bits := by omega
    obtain ⟨stripped, n, htext, hdigits, _⟩ := positiveText_eq hpos
    rw [htext]
    exact layout_numeric hdigits

theorem text_head (x : FiniteDouble) :
    ∃ c rest, text x = c :: rest ∧ isNumeric c = true := by
  have hnumeric := text_numeric x
  cases htext : text x with
  | nil =>
      unfold text at htext
      split_ifs at htext
      have hpos : 0 < x.bits := by omega
      obtain ⟨d, rest, hhead, _⟩ := positiveText_head hpos
      rw [hhead] at htext
      cases htext
  | cons c rest =>
      rw [htext] at hnumeric
      exact ⟨c, rest, rfl, hnumeric c (List.mem_cons_self ..)⟩


end Torsor.Library.Binary64
