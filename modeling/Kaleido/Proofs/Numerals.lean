import Kaleido.Number.Shortest
import Kaleido.Proofs.Lexemes

/-!
# Numbers and their texts

The text of a number is a numeral, and reading the numeral gives the number. A decimal fraction
reads back because its digits are those of its mantissa, and the fraction chosen for a number
because the search takes none that does not; where the search ends, all the digits of the number
are left, and a ratio that needs no rounding is not rounded.
-/
namespace Kaleido

namespace Decimal

theorem tenTo_pos (n : Nat) : 0 < tenTo n := Nat.pow_pos (by decide)

theorem isDigit_digits {n : Nat} : ∀ c ∈ digits n, c.isDigit :=
  fun _ => Nat.isDigit_of_mem_toDigits (by decide) (by decide)

theorem isEmpty_digits (n : Nat) : (digits n).isEmpty = false := by
  simp [digits, Nat.toDigits_ne_nil]

theorem isDigit_paddedDigits {width n : Nat} : ∀ c ∈ paddedDigits width n, c.isDigit := by
  intro c member
  rcases List.mem_append.mp member with filler | digit
  · rw [List.eq_of_mem_replicate filler]
    decide
  · exact isDigit_digits c digit

theorem digitsValue_digits (n : Nat) : digitsValue (digits n) = n := Nat.ofDigitChars_ten_toDigits

/-- Digits after others stand for so many units, and the others for so many powers of ten. -/
theorem digitsValue_append (left right : List Char) :
    digitsValue (left ++ right) = tenTo right.length * digitsValue left + digitsValue right := by
  have appended : digitsValue (left ++ right) = Nat.ofDigitChars 10 right (digitsValue left) :=
    Nat.ofDigitChars_append 0
  rw [appended, Nat.ofDigitChars_eq_ofDigitChars_zero]
  rfl

theorem digitsValue_paddedDigits (width n : Nat) : digitsValue (paddedDigits width n) = n := by
  have zeros : digitsValue (List.replicate (width - (digits n).length) '0') =
      tenTo (width - (digits n).length) * 0 := Nat.ofDigitChars_replicate_zero
  rw [paddedDigits, digitsValue_append, zeros, digitsValue_digits, Nat.mul_zero, Nat.mul_zero,
    Nat.zero_add]

theorem length_paddedDigits {width n : Nat} (pos : 0 < width) (fits : n < tenTo width) :
    (paddedDigits width n).length = width := by
  have short : (digits n).length ≤ width := (Nat.length_toDigits_le_iff (by decide) pos).mpr fits
  simp only [paddedDigits, List.length_append, List.length_replicate]
  omega

/-- A decimal fraction is read from its text. -/
theorem ofText?_text (d : Decimal) : ofText? d.text = some d := by
  obtain ⟨mantissa, scale⟩ := d
  unfold ofText? text
  by_cases whole : scale = 0
  · subst whole
    have same : mantissa / tenTo 0 = mantissa := Nat.div_one mantissa
    simp only [if_true, List.append_nil, same, List.takeWhile_eq_self_iff.mpr isDigit_digits,
      List.dropWhile_eq_nil_iff.mpr isDigit_digits, isEmpty_digits, digitsValue_digits,
      Bool.false_eq_true, if_false]
  · have fits : mantissa % tenTo scale < tenTo scale := Nat.mod_lt _ (tenTo_pos scale)
    have size := length_paddedDigits (Nat.pos_of_ne_zero whole) fits
    have value := digitsValue_append (digits (mantissa / tenTo scale))
      (paddedDigits scale (mantissa % tenTo scale))
    rw [size, digitsValue_digits, digitsValue_paddedDigits, Nat.div_add_mod] at value
    have point : ('.'.isDigit) = false := rfl
    have all : (paddedDigits scale (mantissa % tenTo scale)).all Char.isDigit :=
      List.all_eq_true.mpr isDigit_paddedDigits
    simp only [whole, if_false, List.takeWhile_append_of_pos isDigit_digits,
      List.dropWhile_append_of_pos isDigit_digits, List.takeWhile_cons, List.dropWhile_cons, point,
      Bool.false_eq_true, List.append_nil, all, isEmpty_digits, false_and, not_false_eq_true,
      and_self, if_true, value, size]

theorem isNumeral_text (d : Decimal) : IsNumeral d.text := by
  refine ⟨digits (d.mantissa / tenTo d.scale), isDigit_digits, ?_⟩
  unfold text
  by_cases whole : d.scale = 0
  · rw [if_pos whole, List.append_nil]
    exact .inl ⟨rfl, Nat.toDigits_ne_nil⟩
  · rw [if_neg whole]
    exact .inr ⟨_, rfl, isDigit_paddedDigits⟩

/-- The text of a decimal fraction has no characters but digits and points. -/
theorem isDigit_or_point_of_mem_text {d : Decimal} : ∀ c ∈ d.text, c.isDigit ∨ c = '.' := by
  obtain ⟨whole, digits, ⟨same, -⟩ | ⟨fraction, same, more⟩⟩ := d.isNumeral_text
  · rw [same]
    exact fun c member => .inl (digits c member)
  · rw [same]
    intro c member
    rcases List.mem_append.mp member with before | after
    · exact .inl (digits c before)
    · rcases List.mem_cons.mp after with point | after
      · exact .inr point
      · exact .inl (more c after)

theorem text_ne_nil (d : Decimal) : d.text ≠ [] :=
  List.append_ne_nil_of_left_ne_nil Nat.toDigits_ne_nil _

theorem text_injective : Function.Injective text := by
  intro d other same
  have read := ofText?_text d
  rw [same, ofText?_text] at read
  exact (Option.some.inj read).symm

/-- A numeral is a decimal fraction unless it is a point alone. -/
theorem eq_point_of_ofText? {text : List Char} (numeral : IsNumeral text)
    (none : ofText? text = none) : text = ['.'] := by
  obtain ⟨whole, digits, ⟨rfl, some⟩ | ⟨fraction, rfl, more⟩⟩ := numeral
  · simp [ofText?, List.takeWhile_eq_self_iff.mpr digits, List.dropWhile_eq_nil_iff.mpr digits,
      some] at none
  · have point : ('.'.isDigit) = false := rfl
    have all : fraction.all Char.isDigit := List.all_eq_true.mpr more
    simp only [ofText?, List.takeWhile_append_of_pos digits, List.dropWhile_append_of_pos digits,
      List.takeWhile_cons, List.dropWhile_cons, point, Bool.false_eq_true, if_false,
      List.append_nil, all, true_and, List.isEmpty_iff] at none
    split at none
    · cases none
    · next empty =>
      obtain ⟨rfl, rfl⟩ := not_not.mp empty
      rfl

end Decimal

namespace Binary64

/-! ## Ratios that need no rounding -/

theorem roundHalfEven_mul (q : Nat) {d : Nat} (pos : 0 < d) : roundHalfEven (q * d) d = q := by
  unfold roundHalfEven
  simp only [Nat.mul_mod_left, Nat.mul_div_cancel q pos]
  rw [if_pos (.inl (by omega))]

/-- A power of ten is a whole number of parts of the power of two with the same exponent. -/
theorem shiftLeft_dvd_tenTo (n : Nat) : 1 <<< n ∣ Decimal.tenTo n := by
  have factors : Decimal.tenTo n = 2 ^ n * 5 ^ n := Nat.mul_pow 2 5 n
  rw [Nat.shiftLeft_eq, Nat.one_mul, factors]
  exact Nat.dvd_mul_right ..

/-- A ratio that is a whole number of units, with at most fifty-three significant bits, is the
number of so many units. -/
theorem ofRatio_units {units mantissa scale : Nat} (whole : unitsInOne ∣ scale) (pos : 0 < scale)
    (bits : units = mantissa <<< (Nat.log2 units - 52)) :
    ofRatio (units * scale / unitsInOne) scale =
      ⟨UInt64.ofNat (min ((Nat.log2 units - 52) * fractionCount + mantissa) infinityBits)⟩ := by
  have scaled : units * scale / unitsInOne * unitsInOne = units * scale :=
    Nat.div_mul_cancel (Nat.dvd_mul_left_of_dvd whole units)
  have divided : units * scale / scale = units := Nat.mul_div_cancel units pos
  have shifted : units * scale = mantissa * (scale <<< (Nat.log2 units - 52)) := by
    rw [Nat.shiftLeft_eq, ← Nat.mul_assoc, Nat.mul_right_comm, ← Nat.shiftLeft_eq, ← bits]
  have positive : 0 < scale <<< (Nat.log2 units - 52) := by
    rw [Nat.shiftLeft_eq]
    exact Nat.mul_pos pos (Nat.two_pow_pos _)
  unfold ofRatio
  simp only [scaled, divided]
  rw [shifted, roundHalfEven_mul mantissa positive]

/-! ## Finite numbers -/

/-- A number without its sign, by its exponent and its fraction. -/
theorem magnitude_eq (x : Binary64) :
    x.magnitude = ⟨UInt64.ofNat (x.exponent * fractionCount + x.fraction)⟩ := by
  have parts : x.bits.toNat % signWeight = x.exponent * fractionCount + x.fraction := by
    simp only [exponent, fraction, signWeight, fractionCount, exponentCount, Nat.reduceShiftLeft]
    omega
  rw [magnitude, parts]

theorem exponent_lt {x : Binary64} (finite : x.isFinite) : x.exponent < 2047 := by
  have other : x.exponent ≠ 2047 := of_decide_eq_true finite
  have bound : x.exponent < exponentCount := Nat.mod_lt _ (by decide)
  simp only [exponentCount, Nat.reduceShiftLeft] at bound
  omega

/-- The size of a number with the least exponent has no more bits than the fraction, and the size of
any other number one more, shifted by its exponent. -/
theorem units_cases (x : Binary64) :
    (x.exponent = 0 ∧ x.units = x.fraction ∧ Nat.log2 x.units - 52 = 0) ∨
    (x.exponent ≠ 0 ∧ x.units = (fractionCount + x.fraction) <<< (x.exponent - 1) ∧
      Nat.log2 x.units - 52 = x.exponent - 1) := by
  have bound : x.fraction < 2 ^ 52 := Nat.mod_lt _ (by decide)
  by_cases least : x.exponent = 0
  · have size : x.units = x.fraction := by rw [units, if_pos least]
    refine .inl ⟨least, size, ?_⟩
    by_cases zero : x.units = 0
    · rw [zero]
      rfl
    · have short := (Nat.log2_lt zero).mpr (size ▸ bound)
      omega
  · have size : x.units = (fractionCount + x.fraction) <<< (x.exponent - 1) := by
      rw [units, if_neg least]
    have low : 2 ^ 52 * 2 ^ (x.exponent - 1) ≤ x.units := by
      rw [size, Nat.shiftLeft_eq]
      exact Nat.mul_le_mul_right _ (Nat.le_add_right ..)
    have high : x.units < 2 ^ 53 * 2 ^ (x.exponent - 1) := by
      rw [size, Nat.shiftLeft_eq]
      refine Nat.mul_lt_mul_of_pos_right ?_ (Nat.two_pow_pos _)
      simp only [fractionCount, Nat.reduceShiftLeft]
      omega
    rw [← Nat.pow_add] at low high
    have positive : x.units ≠ 0 := Nat.ne_of_gt (Nat.lt_of_lt_of_le (Nat.two_pow_pos _) low)
    have log : Nat.log2 x.units = 52 + (x.exponent - 1) :=
      (Nat.log2_eq_iff positive).mpr ⟨low, by rwa [Nat.add_right_comm]⟩
    exact .inr ⟨least, size, by omega⟩

/-- All the digits of a finite number read back as the number without its sign. -/
theorem ofDecimal_exact {x : Binary64} (finite : x.isFinite) : ofDecimal x.exact = x.magnitude := by
  have bound := exponent_lt finite
  have small : x.fraction < fractionCount := Nat.mod_lt _ (by decide)
  have whole : unitsInOne ∣ Decimal.tenTo 1074 := shiftLeft_dvd_tenTo 1074
  have pos := Decimal.tenTo_pos 1074
  rw [magnitude_eq]
  unfold ofDecimal exact
  rcases units_cases x with ⟨least, size, shift⟩ | ⟨other, size, shift⟩
  · rw [ofRatio_units whole pos (by rw [shift, size, Nat.shiftLeft_zero]), shift, least]
    congr 2
    simp only [fractionCount, infinityBits, Nat.reduceShiftLeft] at small ⊢
    omega
  · rw [ofRatio_units whole pos (by rw [shift]; exact size), shift]
    congr 2
    simp only [fractionCount, infinityBits, Nat.reduceShiftLeft] at small ⊢
    omega

/-- A number reads back from every decimal fraction that the search can end with. -/
theorem ofDecimal_of_onGrid? {x : Binary64} {step scale : Nat} {d : Decimal}
    (found : x.onGrid? step scale = some d) : ofDecimal d = x.magnitude := by
  unfold onGrid? at found
  simp only at found
  split at found
  · next both =>
    split at found
    · exact Option.some.inj found ▸ both.1
    · exact Option.some.inj found ▸ both.2
  · split at found
    · next below => exact Option.some.inj found ▸ below
    · split at found
      · next above => exact Option.some.inj found ▸ above
      · cases found

theorem ofDecimal_shortest {x : Binary64} (finite : x.isFinite) :
    ofDecimal x.shortest = x.magnitude := by
  unfold shortest
  cases search : x.grids.findSome? fun grid => x.onGrid? grid.1 grid.2 with
  | none => exact ofDecimal_exact finite
  | some d =>
    obtain ⟨grid, -, found⟩ := List.exists_of_findSome?_eq_some search
    exact ofDecimal_of_onGrid? found

/-! ## Texts -/

theorem toList_text {x : Binary64} (finite : x.isFinite) (nonneg : x.isNegative = false) :
    x.text.toList = x.shortest.text := by
  have number : x.isNaN = false := by
    have bound := exponent_lt finite
    simp [isNaN, Nat.ne_of_lt bound]
  simp [text, number, nonneg, finite]

/-- A number that has no sign reads back from its text. -/
theorem ofText?_text {x : Binary64} (finite : x.isFinite) (nonneg : x.isNegative = false) :
    ofText? x.text = some x := by
  have unsigned : x.magnitude = x := by
    have bound : x.bits.toNat < signWeight := by simpa [isNegative] using nonneg
    rw [magnitude, Nat.mod_eq_of_lt bound, UInt64.ofNat_toNat]
  rw [ofText?, toList_text finite nonneg, Decimal.ofText?_text]
  exact congrArg some ((ofDecimal_shortest finite).trans unsigned)

/-- The text of a number that has no sign is a numeral. -/
theorem spells_text {x : Binary64} (finite : x.isFinite) (nonneg : x.isNegative = false) :
    Kind.number.Spells x.text.toList := by
  rw [toList_text finite nonneg]
  exact Decimal.isNumeral_text _

/-! ## Finite numbers of either sign -/

/-- The sign of a number in its text. -/
def signText (x : Binary64) : List Char := if x.isNegative then ['-'] else []

theorem toList_text_of_finite {x : Binary64} (finite : x.isFinite) :
    x.text.toList = x.signText ++ x.shortest.text := by
  have number : x.isNaN = false := by
    have bound := exponent_lt finite
    simp [isNaN, Nat.ne_of_lt bound]
  cases sign : x.isNegative <;> simp [text, signText, number, finite, sign]

/-- A number is its magnitude with its sign. -/
theorem eq_of_magnitude {x y : Binary64} (sign : x.isNegative = y.isNegative)
    (size : x.magnitude = y.magnitude) : x = y := by
  have bits : x.bits.toNat % signWeight = y.bits.toNat % signWeight := by
    have same := congrArg (fun number : Binary64 => number.bits.toNat) size
    simp only [magnitude, UInt64.toNat_ofNat', signWeight, Nat.reduceShiftLeft] at same ⊢
    omega
  have signs : signWeight ≤ x.bits.toNat ↔ signWeight ≤ y.bits.toNat := by
    simpa only [isNegative, decide_eq_decide] using sign
  have equal : x.bits.toNat = y.bits.toNat := by
    have bound := x.bits.toNat_lt
    have bound' := y.bits.toNat_lt
    simp only [signWeight, Nat.reduceShiftLeft] at bits signs
    omega
  obtain ⟨bits⟩ := x
  obtain ⟨others⟩ := y
  exact congrArg Binary64.mk (UInt64.toNat_inj.mp equal)

/-- Finite numbers with the same text are the same. -/
theorem eq_of_text_eq {x y : Binary64} (finite : x.isFinite) (other : y.isFinite)
    (same : x.text = y.text) : x = y := by
  have texts : x.signText ++ x.shortest.text = y.signText ++ y.shortest.text := by
    rw [← toList_text_of_finite finite, ← toList_text_of_finite other, same]
  -- The text of a decimal fraction does not begin with the mark of a sign.
  have unsigned : ∀ (d : Decimal) (rest : List Char), d.text ≠ '-' :: rest := by
    intro d rest begins
    rcases Decimal.isDigit_or_point_of_mem_text '-' (begins ▸ List.mem_cons_self ..) with
      digit | point
    · exact absurd digit (by decide)
    · exact absurd point (by decide)
  obtain ⟨sign, fraction⟩ : x.isNegative = y.isNegative ∧ x.shortest.text = y.shortest.text := by
    unfold signText at texts
    cases minus : x.isNegative <;> cases plus : y.isNegative <;>
      simp only [minus, plus, Bool.false_eq_true, if_true, if_false, List.nil_append,
        List.cons_append, List.cons.injEq, true_and] at texts ⊢
    · exact texts
    · exact absurd texts (unsigned _ _)
    · exact absurd texts.symm (unsigned _ _)
    · exact texts
  refine eq_of_magnitude sign ?_
  rw [← ofDecimal_shortest finite, ← ofDecimal_shortest other, Decimal.text_injective fraction]

/-! ## Numbers of numerals -/

theorem toNat_bits_ofRatio_le (numerator denominator : Nat) :
    (ofRatio numerator denominator).bits.toNat ≤ infinityBits := by
  unfold ofRatio
  simp only [UInt64.toNat_ofNat']
  exact (Nat.mod_le _ _).trans (Nat.min_le_right _ _)

/-- A ratio is rounded to a number that has no sign and is not undefined. -/
theorem unsigned_ofRatio (numerator denominator : Nat) :
    (ofRatio numerator denominator).isNaN = false ∧
      (ofRatio numerator denominator).isNegative = false := by
  have bound := toNat_bits_ofRatio_le numerator denominator
  generalize ofRatio numerator denominator = x at bound
  simp only [infinityBits] at bound
  constructor
  · have infinite : x.exponent = 2047 → x.fraction = 0 := by
      simp only [exponent, fraction, fractionCount, exponentCount, Nat.reduceShiftLeft]
      omega
    simpa [isNaN] using infinite
  · refine decide_eq_false ?_
    simp only [signWeight, Nat.reduceShiftLeft]
    omega

/-- The number that a numeral gives, if it gives one, has no sign and is not undefined. -/
theorem unsigned_of_numeral {text : String} {x : Binary64} (numeral : IsNumeral text.toList)
    (read : ofText? text = some x) : x.isNaN = false ∧ x.isNegative = false := by
  unfold ofText? at read
  split at read
  · obtain rfl := Option.some.inj read
    exact unsigned_ofRatio ..
  · next none =>
    rw [Decimal.eq_point_of_ofText? numeral none] at read
    cases read

end Binary64

end Kaleido
