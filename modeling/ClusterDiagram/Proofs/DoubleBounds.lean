import ClusterDiagram.Proofs.DoubleValues

/-!
# Doubles below powers of two

Rounding at most doubles a positive number, so that sums, differences and halves of doubles stay
below powers of two, and so do their integer parts. This holds of all finite doubles, whether the
results are rounded or not.
-/

namespace ClusterDiagram
namespace Double

open Float.Model Float.Model.UnpackedFloat

/-! ## Rounding -/

theorem signed_le (sign : Sign) (mantissa : ℕ) (exponent : ℤ) :
    signed sign mantissa exponent ≤ mantissa * 2 ^ exponent :=
  (le_abs_self _).trans_eq (abs_signed sign mantissa exponent)

theorem target_le {mantissa power : ℕ} {exponent : ℤ} (positive : mantissa ≠ 0)
    (bound : (mantissa : ℚ) * 2 ^ exponent ≤ 2 ^ power) : target mantissa exponent ≤ power := by
  have below : (2 : ℚ) ^ ((mantissa.log2 : ℤ) + exponent) ≤ 2 ^ (power : ℤ) := by
    calc (2 : ℚ) ^ ((mantissa.log2 : ℤ) + exponent)
        = ((2 ^ mantissa.log2 : ℕ) : ℚ) * 2 ^ exponent := by
          rw [zpow_add₀ two_ne_zero, zpow_natCast, Nat.cast_pow, Nat.cast_ofNat]
      _ ≤ mantissa * 2 ^ exponent := by
          gcongr
          exact Nat.log2_self_le positive
      _ ≤ 2 ^ (power : ℤ) := by rwa [zpow_natCast]
  have log_le := (zpow_le_zpow_iff_right₀ one_lt_two).mp below
  simp only [target]
  omega

/-- Rounding at most doubles a bound. -/
theorem value_roundWithAccuracy_le (sign : Sign) {mantissa power : ℕ} {exponent : ℤ}
    (accuracy : Accuracy) (small : exponent ≤ target mantissa exponent)
    (low : target mantissa exponent ≤ power)
    (bound : (mantissa : ℚ) * 2 ^ exponent ≤ 2 ^ power) :
    value (roundWithAccuracy Format.binary64 sign mantissa exponent accuracy) ≤
      2 ^ (power + 1) := by
  obtain ⟨places, places_eq⟩ : ∃ places : ℕ,
    places = (target mantissa exponent - exponent).toNat := ⟨_, rfl⟩
  have target_eq : target mantissa exponent = exponent + places := by omega
  have rounded_le : roundOff mantissa accuracy places ≤ mantissa / 2 ^ places + 1 := by
    rcases roundOff_cases mantissa accuracy places with same | up <;> omega
  have quotient_le : ((mantissa / 2 ^ places : ℕ) : ℚ) * 2 ^ places ≤ mantissa := by
    exact_mod_cast Nat.div_mul_le_self mantissa (2 ^ places)
  have scale : (0 : ℚ) < 2 ^ exponent := zpow_pos two_pos exponent
  rw [roundWithAccuracy_eq sign accuracy small, value_settle, ← places_eq]
  calc signed sign (roundOff mantissa accuracy places) (target mantissa exponent)
      ≤ roundOff mantissa accuracy places * 2 ^ target mantissa exponent := signed_le _ _ _
    _ ≤ ((mantissa / 2 ^ places : ℕ) + 1) * 2 ^ target mantissa exponent := by
        gcongr
        exact_mod_cast rounded_le
    _ = ((mantissa / 2 ^ places : ℕ) : ℚ) * 2 ^ places * 2 ^ exponent +
          2 ^ target mantissa exponent := by
        rw [add_mul, one_mul, target_eq, zpow_add₀ two_ne_zero, zpow_natCast]
        ring
    _ ≤ mantissa * 2 ^ exponent + 2 ^ (power : ℤ) := by
        gcongr
        exact one_le_two
    _ ≤ 2 ^ (power + 1) := by
        rw [zpow_natCast, pow_succ]
        linarith

/-- A number is rounded with enough places to spare. -/
theorem exists_round_eq (sign : Sign) {mantissa : ℕ} (positive : mantissa ≠ 0) (exponent : ℤ) :
    ∃ shifted least, UnpackedFloat.round Format.binary64 sign mantissa exponent =
        roundWithAccuracy Format.binary64 sign shifted least .exact ∧
      least ≤ target shifted least ∧ target shifted least = target mantissa exponent ∧
      (shifted : ℚ) * 2 ^ least = mantissa * 2 ^ exponent := by
  obtain ⟨places, places_eq⟩ : ∃ places : ℕ,
    places = (exponent - target mantissa exponent).toNat := ⟨_, rfl⟩
  have same := target_shift positive exponent places
  refine ⟨mantissa <<< places, exponent - places, ?_, ?_, same, ?_⟩
  · rw [UnpackedFloat.round, decreaseExponent, targetExponent_eq, places_eq]
  · rw [same]
    omega
  · rw [← abs_signed .positive, signed_shiftLeft, abs_signed]

theorem value_round_le (sign : Sign) {mantissa power : ℕ} {exponent : ℤ} (positive : mantissa ≠ 0)
    (bound : (mantissa : ℚ) * 2 ^ exponent ≤ 2 ^ power) :
    value (UnpackedFloat.round Format.binary64 sign mantissa exponent) ≤ 2 ^ (power + 1) := by
  obtain ⟨shifted, least, round_eq, small, same, value_eq⟩ :=
    exists_round_eq sign positive exponent
  rw [round_eq]
  exact value_roundWithAccuracy_le sign .exact small (same ▸ target_le positive bound)
    (value_eq ▸ bound)

theorem signed_positive (mantissa : ℕ) (exponent : ℤ) :
    signed .positive mantissa exponent = mantissa * 2 ^ exponent := by
  rw [signed, Sign.apply, Int.cast_natCast]

theorem signed_negative (mantissa : ℕ) (exponent : ℤ) : signed .negative mantissa exponent ≤ 0 := by
  rw [signed, Sign.apply, Int.cast_neg, Int.cast_natCast, neg_mul, neg_nonpos]
  positivity

theorem value_round_negative {mantissa : ℕ} (positive : mantissa ≠ 0) (exponent : ℤ) :
    value (UnpackedFloat.round Format.binary64 .negative mantissa exponent) ≤ 0 := by
  obtain ⟨shifted, least, round_eq, small, -⟩ := exists_round_eq .negative positive exponent
  rw [round_eq, roundWithAccuracy_eq _ _ small, value_settle]
  exact signed_negative _ _

theorem value_normalize_le {mantissa exponent : ℤ} {power : ℕ} (zeroSign : Sign)
    (bound : mantissa * (2 : ℚ) ^ exponent ≤ 2 ^ power) :
    value (UnpackedFloat.normalize Format.binary64 mantissa exponent zeroSign) ≤
      2 ^ (power + 1) := by
  have limit_pos : (0 : ℚ) < 2 ^ (power + 1) := by positivity
  rw [UnpackedFloat.normalize]
  split
  · rename_i below
    have negative : mantissa < 0 := by simpa [compare_lt_iff_lt] using below
    exact (value_round_negative (by omega) exponent).trans limit_pos.le
  · exact limit_pos.le
  · rename_i above
    have positive : 0 < mantissa := by simpa [compare_gt_iff_gt] using above
    apply value_round_le .positive (by omega)
    have toNat_eq : ((mantissa.toNat : ℕ) : ℚ) = mantissa := by
      exact_mod_cast Int.toNat_of_nonneg positive.le
    rwa [toNat_eq]

/-! ## Operations -/

section Operations

variable {first second : UnpackedFloat} {power : ℕ}

theorem value_add_le (canonical : Canonical first) (canonical' : Canonical second)
    (bound : value first + value second ≤ 2 ^ power) :
    value (UnpackedFloat.add Format.binary64 first second) ≤ 2 ^ (power + 1) := by
  rcases exists_add_eq canonical canonical' with ⟨-, exact⟩ | ⟨mantissa, exponent, sum_eq, value_eq⟩
  · have limit_nonneg : (0 : ℚ) ≤ 2 ^ power := by positivity
    rw [exact, pow_succ]
    linarith
  · rw [sum_eq]
    exact value_normalize_le .positive (value_eq ▸ bound)

theorem value_sub_le (canonical : Canonical first) (canonical' : Canonical second)
    (bound : value first - value second ≤ 2 ^ power) :
    value (UnpackedFloat.sub Format.binary64 first second) ≤ 2 ^ (power + 1) := by
  have canonical_neg : Canonical second.neg := by
    cases second <;> exact canonical'
  rw [sub_eq_add]
  apply value_add_le canonical canonical_neg
  rwa [value_neg, ← sub_eq_add_neg]

/-- What half of a number is rounded from is no greater than the number. -/
theorem halvedMantissa_le {mantissa : ℕ} {exponent : ℤ} (positive : 0 < mantissa)
    (short : mantissa < 2 ^ 53) (lowest : -1074 ≤ exponent) :
    (halvedMantissa mantissa exponent : ℚ) * 2 ^ halvedExponent mantissa exponent ≤
      mantissa * 2 ^ exponent := by
  have log_lt : mantissa.log2 < 53 := (Nat.log2_lt positive.ne').mpr short
  have least_eq : halvedExponent mantissa exponent =
      max ((mantissa.log2 : ℤ) + exponent - 54) (-1074) := rfl
  obtain ⟨places, places_eq⟩ : ∃ places : ℕ,
    (places : ℤ) = exponent + 51 - halvedExponent mantissa exponent :=
      ⟨(exponent + 51 - halvedExponent mantissa exponent).toNat, by omega⟩
  have quotient_le : (halvedMantissa mantissa exponent : ℚ) * 2 ^ 52 ≤ mantissa * 2 ^ places := by
    rw [halvedMantissa, ← places_eq, Int.toNat_natCast, Nat.shiftLeft_eq]
    exact_mod_cast Nat.div_mul_le_self (mantissa * 2 ^ places) (2 ^ 52)
  have exponent_eq : exponent = halvedExponent mantissa exponent + places - 51 := by omega
  have scale : (0 : ℚ) < 2 ^ halvedExponent mantissa exponent := zpow_pos two_pos _
  calc (halvedMantissa mantissa exponent : ℚ) * 2 ^ halvedExponent mantissa exponent
      = halvedMantissa mantissa exponent * 2 ^ 52 *
          2 ^ halvedExponent mantissa exponent / 2 ^ 52 := by ring
    _ ≤ mantissa * 2 ^ places * 2 ^ halvedExponent mantissa exponent / 2 ^ 52 := by gcongr
    _ ≤ mantissa * 2 ^ places * 2 ^ halvedExponent mantissa exponent / 2 ^ 51 := by
        gcongr <;> norm_num
    _ = mantissa * 2 ^ exponent := by
        conv_rhs => rw [exponent_eq]
        rw [zpow_sub₀ two_ne_zero, zpow_add₀ two_ne_zero, zpow_natCast]
        norm_num
        ring

theorem value_half_le (canonical : Canonical first) (bound : value first ≤ 2 ^ power) :
    value (UnpackedFloat.div Format.binary64 first two) ≤ 2 ^ (power + 1) := by
  have limit_nonneg : (0 : ℚ) ≤ 2 ^ (power + 1) := by positivity
  cases first with
  | notANumber => cases canonical
  | infinity sign => cases canonical
  | zero sign => exact limit_nonneg
  | finite sign mantissa exponent positive =>
      obtain ⟨short, lowest, highest, normal⟩ := canonical
      obtain ⟨small, -⟩ := target_halved_le positive short highest normal
      obtain ⟨accuracy, divided⟩ := div_two_eq sign positive short lowest
      rw [divided]
      cases sign with
      | negative =>
          rw [roundWithAccuracy_eq _ _ small, value_settle]
          exact (signed_negative _ _).trans limit_nonneg
      | positive =>
          rw [value_positive] at bound
          have halved_le := (halvedMantissa_le positive short lowest).trans bound
          refine value_roundWithAccuracy_le _ accuracy small ?_ halved_le
          by_cases zero : halvedMantissa mantissa exponent = 0
          · have whole_low := target_le positive.ne' bound
            have least_eq : halvedExponent mantissa exponent =
              max ((mantissa.log2 : ℤ) + exponent - 54) (-1074) := rfl
            rw [zero]
            simp only [target, Nat.log2_zero] at whole_low ⊢
            omega
          · exact target_le zero halved_le

end Operations

/-! ## What the bits say -/

theorem unpackSign_toNat (bits : BitVec 64) :
    (@unpackSign Format.binary64 bits).toNat = bits.toNat / 2 ^ 63 := by
  rw [unpackSign, BitVec.toNat_cast, BitVec.extractLsb_toNat, Nat.shiftRight_eq_div_pow]
  change bits.toNat / 2 ^ 63 % 2 = _
  exact Nat.mod_eq_of_lt (by omega)

/-- The parts of a double that is not negative are those of its value. -/
theorem value_of_ofFloat {x : Float} {significand : ℕ} {exponent : ℤ}
    (parts : DoubleValue.ofFloat x = .finite false significand exponent) :
    value (stored x) = significand * 2 ^ exponent := by
  obtain ⟨bits, bits_eq⟩ : ∃ bits : BitVec 64, bits = x.toModel.toBits.toBitVec := ⟨_, rfl⟩
  have stored_eq : stored x = UnpackedFloat.unpack Format.binary64 bits := bits_eq ▸ rfl
  have toNat_eq : x.toBits.toNat = bits.toNat := bits_eq ▸ rfl
  have exponent_iff (field : BitVec 11) : @unpackExponent Format.binary64 bits = field ↔
      bits.toNat / 2 ^ 52 % 2 ^ 11 = field.toNat := by
    rw [← unpackExponent_toNat]
    exact BitVec.toNat_inj.symm
  rw [ofFloat_eq, toNat_eq] at parts
  dsimp only at parts
  have not_last : bits.toNat / 2 ^ 52 % 2 ^ 11 ≠ 2047 := by
    intro last
    rw [if_pos last] at parts
    split at parts <;> cases parts
  have sign_eq : Sign.ofBitVec (@unpackSign Format.binary64 bits) = .positive := by
    have not_negative : (bits.toNat / 2 ^ 63 == 1) = false := by
      rw [if_neg not_last] at parts
      split at parts <;> exact (DoubleValue.finite.inj parts).1
    rw [Sign.ofBitVec, if_pos]
    apply BitVec.eq_of_toNat_eq
    have bit := unpackSign_toNat bits
    have below := bits.isLt
    rw [beq_eq_false_iff_ne] at not_negative
    rw [bit]
    change _ = 0
    omega
  rw [stored_eq, unpack_eq]
  dsimp only
  rw [if_neg ((exponent_iff (-1#11)).not.mpr not_last), sign_eq]
  rw [if_neg not_last] at parts
  split at parts
  · rename_i first
    obtain ⟨-, rfl, rfl⟩ := DoubleValue.finite.inj parts
    rw [if_pos ((exponent_iff 0#11).mpr first), value_ofParts, unpackMantissa_toNat,
      signed_positive]
  · rename_i not_first
    obtain ⟨-, rfl, rfl⟩ := DoubleValue.finite.inj parts
    rw [if_neg ((exponent_iff 0#11).not.mpr not_first), value_ofParts, unpackMantissa_toNat,
      unpackExponent_toNat, signed_positive, Nat.add_comm (2 ^ 52)]

theorem magnitude_eq (significand : ℕ) (exponent : ℤ) :
    (DoubleValue.magnitude significand exponent).2 ≠ 0 ∧
      ((DoubleValue.magnitude significand exponent).1 : ℚ) /
        (DoubleValue.magnitude significand exponent).2 = significand * 2 ^ exponent := by
  rw [DoubleValue.magnitude]
  split
  · rename_i nonneg
    obtain ⟨places, rfl⟩ := Int.eq_ofNat_of_zero_le nonneg
    refine ⟨one_ne_zero, ?_⟩
    rw [Int.toNat_natCast, zpow_natCast, Nat.cast_one, div_one, Nat.pow_eq]
    push_cast
    rfl
  · rename_i negative
    obtain ⟨places, places_eq⟩ : ∃ places : ℕ, (places : ℤ) = -exponent :=
      ⟨(-exponent).toNat, by omega⟩
    have exponent_eq : exponent = -(places : ℤ) := by omega
    refine ⟨(Nat.two_pow_pos _).ne', ?_⟩
    rw [exponent_eq, neg_neg, Int.toNat_natCast, zpow_neg, zpow_natCast, Nat.pow_eq]
    push_cast
    rfl

/-! ## Whole parts -/

/-- The integer part of a negative quotient is not positive. -/
theorem fdiv_neg_le (numerator denominator : ℕ) : Int.fdiv (-(numerator : ℤ)) denominator ≤ 0 := by
  rw [Int.fdiv_eq_ediv_of_nonneg _ (Int.natCast_nonneg denominator)]
  rcases Nat.eq_zero_or_pos denominator with rfl | positive
  · exact (Int.ediv_zero _).le
  · exact Int.ediv_nonpos_of_nonpos_of_neg (Int.neg_nonpos_of_nonneg (Int.natCast_nonneg _))
      (Int.natCast_pos.mpr positive)

/-- The width of a slot as a double. -/
theorem ofFloat_cellSize : DoubleValue.ofFloat
    (Placement.cellSize (Placement.emptyWidth : Float) (Placement.emptyHeight : Float)).1 =
      .finite false 5277655813324800 (-44) := by
  decide

theorem magnitude_cellSize : DoubleValue.magnitude 5277655813324800 (-44) =
    (5277655813324800, 17592186044416) := by
  decide

section Wholes

variable {x : Float} {bound : ℕ} (within : value (stored x) ≤ bound)

include within

theorem quotient_le {significand : ℕ} {exponent : ℤ}
    (parts : DoubleValue.ofFloat x = .finite false significand exponent) :
    (DoubleValue.magnitude significand exponent).1 /
      (DoubleValue.magnitude significand exponent).2 ≤ bound := by
  rw [value_of_ofFloat parts, ← (magnitude_eq significand exponent).2] at within
  exact_mod_cast Nat.cast_div_le.trans within

/-- The integer part of a double keeps below a bound of the double. -/
theorem floor_le {whole : ℤ} (done : Scalar.floor x = .ok whole) : whole ≤ bound := by
  have floor_eq : Scalar.floor x = Binary.floor x := rfl
  rw [floor_eq, Binary.floor] at done
  split at done
  · cases done
  · cases done
  · rename_i negative significand exponent parts
    obtain rfl := Except.ok.inj done
    cases negative with
    | true => exact (Int.neg_nonpos_of_nonneg (Int.natCast_nonneg _)).trans (Int.natCast_nonneg _)
    | false => exact Int.ofNat_le.mpr (quotient_le within parts)

/-- So does the integer part of a quotient of a double by the extent of a slot. -/
theorem columns_le {columns : ℤ} (done : Scalar.floorQuotient x
    (Placement.cellSize (Placement.emptyWidth : Float) (Placement.emptyHeight : Float)).1 =
      .ok columns) : columns ≤ bound := by
  have quotient_eq (y : Float) : Scalar.floorQuotient x y = Binary.floorQuotient x y := rfl
  rw [quotient_eq, Binary.floorQuotient, ofFloat_cellSize] at done
  split at done
  · rename_i negative significand exponent negative' significand' exponent' parts parts'
    obtain ⟨rfl, rfl, rfl⟩ := DoubleValue.finite.inj parts'
    simp only [magnitude_cellSize] at done
    rw [if_neg (by decide), ← Nat.cast_mul, ← Nat.cast_mul] at done
    obtain rfl := Except.ok.inj done
    cases negative with
    | true =>
        rw [if_neg (by decide)]
        exact (fdiv_neg_le _ _).trans (Int.natCast_nonneg bound)
    | false =>
        have quotient := quotient_le within parts
        generalize DoubleValue.magnitude significand exponent = parts at quotient ⊢
        rw [if_pos (by decide), ← Int.ofNat_fdiv, Nat.cast_le]
        calc parts.1 * 17592186044416 / (5277655813324800 * parts.2)
            ≤ 5277655813324800 * parts.1 / (5277655813324800 * parts.2) := by
              apply Nat.div_le_div_right
              omega
          _ = parts.1 / parts.2 := Nat.mul_div_mul_left _ _ (by decide)
          _ ≤ bound := quotient
  · rename_i parts'
    cases parts'
  · cases done

end Wholes

end Double
end ClusterDiagram
