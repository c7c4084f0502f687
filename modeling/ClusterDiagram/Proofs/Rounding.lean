import Mathlib

/-!
# Rounding to doubles

A positive number `mantissa * 2 ^ exponent` is rounded to at most 53 places, and the result is
stored as it is unless it reaches the threshold of overflow.
-/

namespace ClusterDiagram
namespace Double

open Float.Model Float.Model.UnpackedFloat

/-! ## Shifting and rounding -/

theorem repeat_shiftRightOne (em : ExtendedMantissa) (places : Nat) :
    (em >>> places).mantissa = em.mantissa / 2 ^ places := by
  induction places with
  | zero => exact (Nat.div_one _).symm
  | succ places induction =>
      have step : (em >>> (places + 1)).mantissa = (em >>> places).mantissa / 2 := rfl
      rw [step, induction, Nat.div_div_eq_div_mul, Nat.pow_succ]

theorem roundBit_shiftRight (em : ExtendedMantissa) (places : Nat) :
    (em >>> (places + 1)).roundBit = ((em.mantissa / 2 ^ places) % 2 != 0) := by
  have step : (em >>> (places + 1)).roundBit = ((em >>> places).mantissa % 2 != 0) := rfl
  rw [step, repeat_shiftRightOne]

theorem roundedMantissa_cases (em : ExtendedMantissa) :
    em.roundedMantissa = em.mantissa ∨
      em.roundBit = true ∧ em.roundedMantissa = em.mantissa + 1 := by
  obtain ⟨mantissa, round, sticky⟩ := em
  cases round <;> cases sticky
  · exact Or.inl rfl
  · exact Or.inl rfl
  · rcases Nat.mod_two_eq_zero_or_one mantissa with even | odd
    · left
      simp [ExtendedMantissa.roundedMantissa, ExtendedMantissa.accuracy,
        Accuracy.roundToNearestEven, even]
    · right
      simp [ExtendedMantissa.roundedMantissa, ExtendedMantissa.accuracy,
        Accuracy.roundToNearestEven, odd]
  · exact Or.inr ⟨rfl, rfl⟩

/-- A number with its last places rounded off. -/
def roundOff (mantissa : Nat) (accuracy : Accuracy) (places : Nat) : Nat :=
  (ExtendedMantissa.ofMantissaAndAccuracy mantissa accuracy >>> places).roundedMantissa

theorem mantissa_ofAccuracy (mantissa : Nat) (accuracy : Accuracy) :
    (ExtendedMantissa.ofMantissaAndAccuracy mantissa accuracy).mantissa = mantissa := by
  rcases accuracy with _ | (_ | _ | _) <;> rfl

theorem roundOff_cases (mantissa : Nat) (accuracy : Accuracy) (places : Nat) :
    roundOff mantissa accuracy places = mantissa / 2 ^ places ∨
      roundOff mantissa accuracy places = mantissa / 2 ^ places + 1 := by
  have whole :=
    repeat_shiftRightOne (ExtendedMantissa.ofMantissaAndAccuracy mantissa accuracy) places
  rw [mantissa_ofAccuracy] at whole
  rw [roundOff, ← whole]
  rcases roundedMantissa_cases (ExtendedMantissa.ofMantissaAndAccuracy mantissa accuracy >>> places)
    with same | ⟨-, up⟩
  · exact Or.inl same
  · exact Or.inr up

/-- As many places are left as the rounded number keeps. -/
theorem le_roundOff {mantissa places : Nat} (accuracy : Accuracy) (positive : mantissa ≠ 0)
    (enough : places + 52 ≤ mantissa.log2) : 2 ^ 52 ≤ roundOff mantissa accuracy places := by
  have quotient : 2 ^ 52 ≤ mantissa / 2 ^ places := by
    rw [Nat.le_div_iff_mul_le (Nat.two_pow_pos _), ← Nat.pow_add, Nat.add_comm]
    exact (Nat.pow_le_pow_right Nat.two_pos enough).trans (Nat.log2_self_le positive)
  rcases roundOff_cases mantissa accuracy places with same | up <;> omega

/-- Rounding off changes a number by half a unit at most. -/
theorem roundOff_exact_le (mantissa places : Nat) :
    2 * (roundOff mantissa .exact places * 2 ^ places) ≤ 2 * mantissa + 2 ^ places := by
  have whole := repeat_shiftRightOne ⟨mantissa, false, false⟩ places
  have below := Nat.div_mul_le_self mantissa (2 ^ places)
  rcases roundedMantissa_cases (ExtendedMantissa.mk mantissa false false >>> places) with
    same | ⟨half, up⟩
  · have rounded_eq : roundOff mantissa .exact places = mantissa / 2 ^ places := same.trans whole
    have positive := Nat.two_pow_pos places
    rw [rounded_eq]
    omega
  · have rounded_eq : roundOff mantissa .exact places = mantissa / 2 ^ places + 1 := by
      rw [← whole]
      exact up
    rw [rounded_eq]
    cases places with
    | zero => cases half
    | succ places =>
        rw [roundBit_shiftRight, bne_iff_ne] at half
        have half : mantissa / 2 ^ places % 2 ≠ 0 := half
        have split : mantissa / 2 ^ (places + 1) = mantissa / 2 ^ places / 2 := by
          rw [Nat.div_div_eq_div_mul, Nat.pow_succ]
        have low := Nat.div_mul_le_self mantissa (2 ^ places)
        have doubled : 2 * (mantissa / 2 ^ (places + 1) + 1) = mantissa / 2 ^ places + 1 := by omega
        calc 2 * ((mantissa / 2 ^ (places + 1) + 1) * 2 ^ (places + 1))
            = 2 * (mantissa / 2 ^ (places + 1) + 1) * 2 ^ places * 2 := by ring
          _ = (mantissa / 2 ^ places * 2 ^ places + 2 ^ places) * 2 := by
              rw [doubled]
              ring
          _ ≤ 2 * mantissa + 2 ^ (places + 1) := by
              rw [Nat.pow_succ]
              omega

/-! ## Rounding to the format -/

/-- The exponent that a number is rounded to. -/
def target (mantissa : Nat) (exponent : Int) : Int :=
  max ((mantissa.log2 : Int) + 1 + exponent - 53) (-1074)

theorem targetExponent_eq (mantissa : Nat) (exponent : Int) :
    Format.binary64.targetExponent (totalExponent mantissa exponent) = target mantissa exponent :=
  rfl

/-- The number with some parts, zero when the mantissa is. -/
def ofParts (sign : Sign) (mantissa : Nat) (exponent : Int) : UnpackedFloat :=
  if zero : mantissa = 0 then .zero sign
  else .finite sign mantissa exponent (Nat.pos_of_ne_zero zero)

/-- A rounded number, its mantissa cut when it is too long. -/
def settle (sign : Sign) (rounded : Nat) (exponent : Int) : UnpackedFloat :=
  if rounded = 2 ^ 53 then ofParts sign (2 ^ 52) (exponent + 1) else ofParts sign rounded exponent

theorem roundOff_le (mantissa : Nat) (accuracy : Accuracy) {places : Nat}
    (enough : mantissa.log2 + 1 ≤ places + 53) : roundOff mantissa accuracy places ≤ 2 ^ 53 := by
  have below : mantissa < 2 ^ (places + 53) :=
    Nat.lt_of_lt_of_le Nat.lt_log2_self (Nat.pow_le_pow_right Nat.two_pos enough)
  have quotient : mantissa / 2 ^ places < 2 ^ 53 := by
    apply Nat.div_lt_of_lt_mul
    rwa [← Nat.pow_add]
  rcases roundOff_cases mantissa accuracy places with same | up <;> omega

/-- A second shift repairs a mantissa that rounding has made too long. -/
theorem shiftToTargetExponent_rounded {rounded : Nat} {exponent : Int} (short : rounded ≤ 2 ^ 53)
    (lowest : -1074 ≤ exponent) :
    ((shiftToTargetExponent Format.binary64 rounded exponent .exact).1.mantissa,
      (shiftToTargetExponent Format.binary64 rounded exponent .exact).2) =
      if rounded = 2 ^ 53 then (2 ^ 52, exponent + 1) else (rounded, exponent) := by
  rw [shiftToTargetExponent, targetExponent_eq, shiftToExponent]
  simp only [repeat_shiftRightOne, mantissa_ofAccuracy]
  split
  · rename_i full
    have log_eq : (2 ^ 53).log2 = 53 := Nat.log2_two_pow
    have places : (target rounded exponent - exponent).toNat = 1 := by
      rw [full, target, log_eq]
      omega
    rw [places, full]
    rfl
  · rename_i other
    have log_le : rounded.log2 ≤ 52 := by
      by_cases zero : rounded = 0
      · rw [zero]
        decide
      · have := (Nat.log2_lt zero).mpr (show rounded < 2 ^ 53 by omega)
        omega
    have places : (target rounded exponent - exponent).toNat = 0 := by
      simp only [target]
      omega
    rw [places, Nat.pow_zero, Nat.div_one, Int.natCast_zero, Int.add_zero]

theorem roundWithAccuracy_eq (sign : Sign) {mantissa : Nat} {exponent : Int} (accuracy : Accuracy)
    (small : exponent ≤ target mantissa exponent) :
    roundWithAccuracy Format.binary64 sign mantissa exponent accuracy =
      settle sign (roundOff mantissa accuracy (target mantissa exponent - exponent).toNat)
        (target mantissa exponent) := by
  have rounded_le : roundOff mantissa accuracy (target mantissa exponent - exponent).toNat ≤
      2 ^ 53 := by
    apply roundOff_le
    simp only [target]
    omega
  have shifted : exponent + ((target mantissa exponent - exponent).toNat : Int) =
      target mantissa exponent := by omega
  have lowest : -1074 ≤ target mantissa exponent := Int.le_max_right _ _
  have second := shiftToTargetExponent_rounded rounded_le lowest
  have first : shiftToTargetExponent Format.binary64 mantissa exponent accuracy =
      (ExtendedMantissa.ofMantissaAndAccuracy mantissa accuracy >>>
        (target mantissa exponent - exponent).toNat, target mantissa exponent) := by
    rw [shiftToTargetExponent, targetExponent_eq, shiftToExponent, shifted]
  have parts : roundWithAccuracy Format.binary64 sign mantissa exponent accuracy =
      ofParts sign
        (shiftToTargetExponent Format.binary64
          (roundOff mantissa accuracy (target mantissa exponent - exponent).toNat)
          (target mantissa exponent) .exact).1.mantissa
        (shiftToTargetExponent Format.binary64
          (roundOff mantissa accuracy (target mantissa exponent - exponent).toNat)
          (target mantissa exponent) .exact).2 := by
    rw [roundWithAccuracy, first]
    rfl
  rw [parts, settle]
  split at second <;> rename_i full
  · rw [(Prod.mk.inj second).1, (Prod.mk.inj second).2, if_pos full]
  · rw [(Prod.mk.inj second).1, (Prod.mk.inj second).2, if_neg full]

/-! ## Packing -/

/-- Numbers that are stored as they are. -/
def Canonical : UnpackedFloat → Prop
  | .notANumber => False
  | .infinity _ => False
  | .zero _ => True
  | .finite _ mantissa exponent _ => mantissa < 2 ^ 53 ∧ -1074 ≤ exponent ∧ exponent ≤ 971 ∧
      (2 ^ 52 ≤ mantissa ∨ exponent = -1074)

theorem unpackSign_packComponents {spec : Format} {sign : Sign}
    {exponent : BitVec spec.exponentBits} {mantissa : BitVec spec.mantissaBitsWithoutImplicit} :
    unpackSign (packComponents spec sign exponent mantissa) = sign.toBitVec := by
  ext i within
  have apart : ¬ spec.mantissaBitsWithoutImplicit + spec.exponentBits + i <
      spec.mantissaBitsWithoutImplicit := by omega
  have beyond : ¬ spec.mantissaBitsWithoutImplicit + spec.exponentBits + i -
      spec.mantissaBitsWithoutImplicit < spec.exponentBits := by omega
  have first : spec.mantissaBitsWithoutImplicit + spec.exponentBits + i -
      spec.mantissaBitsWithoutImplicit - spec.exponentBits = i := by omega
  simp [unpackSign, packComponents, BitVec.getLsbD_append, apart, beyond, first,
    BitVec.getLsbD_eq_getElem within]

theorem ofBitVec_toBitVec (sign : Sign) : Sign.ofBitVec sign.toBitVec = sign := by
  cases sign <;> rfl

/-- A stored number is read from its sign, exponent and mantissa fields. -/
theorem unpack_eq (bits : BitVec 64) :
    UnpackedFloat.unpack Format.binary64 bits =
      let sign := Sign.ofBitVec (@unpackSign Format.binary64 bits)
      let exponent : BitVec 11 := @unpackExponent Format.binary64 bits
      let mantissa : BitVec 52 := @unpackMantissa Format.binary64 bits
      if exponent = -1#11 then if mantissa = 0#52 then .infinity sign else .notANumber
      else if exponent = 0#11 then ofParts sign mantissa.toNat (-1074)
      else ofParts sign (2 ^ 52 + mantissa.toNat) ((exponent.toNat : Int) - 1075) := by
  rw [UnpackedFloat.unpack]
  dsimp only
  have mantissa_lt : (@unpackMantissa Format.binary64 bits).toNat < 2 ^ 52 :=
    (@unpackMantissa Format.binary64 bits).isLt
  split
  · rfl
  · split
    · rename_i exponent_zero
      by_cases mantissa_zero : @unpackMantissa Format.binary64 bits = 0#52
      · rw [dif_pos mantissa_zero, mantissa_zero]
        rfl
      · have filled : (@unpackMantissa Format.binary64 bits).toNat ≠ 0 := fun zero =>
          mantissa_zero (BitVec.eq_of_toNat_eq zero)
        rw [dif_neg mantissa_zero, ofParts, dif_neg filled, exponent_zero]
        rfl
    · have long : (1#1 ++ @unpackMantissa Format.binary64 bits).toNat =
          2 ^ 52 + (@unpackMantissa Format.binary64 bits).toNat := by
        rw [BitVec.toNat_append, ← Nat.shiftLeft_add_eq_or_of_lt mantissa_lt]
        rfl
      rw [ofParts, dif_neg (by omega), UnpackedFloat.finite.injEq]
      exact ⟨rfl, long, rfl⟩

theorem unpack_packComponents (sign : Sign) (exponent : BitVec 11) (mantissa : BitVec 52) :
    UnpackedFloat.unpack Format.binary64 (packComponents Format.binary64 sign exponent mantissa) =
      if exponent = -1#11 then if mantissa = 0#52 then .infinity sign else .notANumber
      else if exponent = 0#11 then ofParts sign mantissa.toNat (-1074)
      else ofParts sign (2 ^ 52 + mantissa.toNat) ((exponent.toNat : Int) - 1075) := by
  rw [unpack_eq]
  simp only [unpackMantissa_packComponents, unpackExponent_packComponents,
    unpackSign_packComponents, ofBitVec_toBitVec]

theorem unpack_normal (sign : Sign) {mantissa biased : Nat} (positive : 0 < mantissa)
    (long : 2 ^ 52 ≤ mantissa) (short : mantissa < 2 ^ 53) (first : biased ≠ 0)
    (last : biased < 2047) :
    UnpackedFloat.unpack Format.binary64
        (packComponents Format.binary64 sign (BitVec.ofNat 11 biased) (BitVec.ofNat 52 mantissa)) =
      .finite sign mantissa ((biased : Int) - 1075) positive := by
  have exponent_toNat : (BitVec.ofNat 11 biased).toNat = biased := by
    rw [BitVec.toNat_ofNat]
    omega
  have mantissa_toNat : (BitVec.ofNat 52 mantissa).toNat = mantissa - 2 ^ 52 := by
    rw [BitVec.toNat_ofNat]
    omega
  have not_last : BitVec.ofNat 11 biased ≠ -1#11 := by
    intro same
    have := congrArg BitVec.toNat same
    rw [exponent_toNat] at this
    exact last.ne this
  have not_first : BitVec.ofNat 11 biased ≠ 0#11 := by
    intro same
    have := congrArg BitVec.toNat same
    rw [exponent_toNat] at this
    exact first this
  rw [unpack_packComponents, if_neg not_last, if_neg not_first, ofParts, dif_neg (by omega),
    UnpackedFloat.finite.injEq]
  exact ⟨rfl, by omega, by omega⟩

theorem unpack_subnormal (sign : Sign) {mantissa : Nat} (positive : 0 < mantissa)
    (below : mantissa < 2 ^ 52) :
    UnpackedFloat.unpack Format.binary64
        (packComponents Format.binary64 sign 0#11 (BitVec.ofNat 52 mantissa)) =
      .finite sign mantissa (-1074) positive := by
  have mantissa_toNat : (BitVec.ofNat 52 mantissa).toNat = mantissa := by
    rw [BitVec.toNat_ofNat]
    omega
  rw [unpack_packComponents, if_neg (by decide), if_pos rfl, ofParts, dif_neg (by omega),
    UnpackedFloat.finite.injEq]
  exact ⟨rfl, mantissa_toNat, rfl⟩

/-- What can be stored is read back. -/
theorem unpack_pack {number : UnpackedFloat} (canonical : Canonical number) :
    UnpackedFloat.unpack Format.binary64 (UnpackedFloat.pack Format.binary64 number) = number := by
  cases number with
  | notANumber => cases canonical
  | infinity sign => cases canonical
  | zero sign =>
      rw [UnpackedFloat.pack, packedZero, unpack_packComponents]
      rfl
  | finite sign mantissa exponent positive =>
      obtain ⟨short, lowest, highest, normal⟩ := canonical
      obtain ⟨biased, biased_eq⟩ : ∃ biased : Nat, (biased : Int) = exponent + 1075 :=
        ⟨(exponent + 1075).toNat, by omega⟩
      have biased_toNat : (exponent + (Format.binary64.exponentBias : Int) + (52 : Nat)).toNat =
          biased := by
        have bias : (Format.binary64.exponentBias : Int) = 1023 := rfl
        rw [bias]
        omega
      rw [UnpackedFloat.pack]
      simp only [biased_toNat]
      rw [if_neg (by omega)]
      split
      · rename_i full
        have log_eq : mantissa.log2 = 52 := Nat.succ.inj full
        have long : 2 ^ 52 ≤ mantissa := log_eq ▸ Nat.log2_self_le positive.ne'
        refine (unpack_normal sign positive long short (by omega) (by omega)).trans ?_
        rw [UnpackedFloat.finite.injEq]
        exact ⟨rfl, rfl, by omega⟩
      · rename_i other
        have log_ne : mantissa.log2 ≠ 52 := fun log_eq => other (congrArg Nat.succ log_eq)
        have log_lt := (Nat.log2_lt positive.ne').mpr short
        have below : mantissa < 2 ^ 52 := (Nat.log2_lt positive.ne').mp (by omega)
        refine (unpack_subnormal sign positive below).trans ?_
        rw [UnpackedFloat.finite.injEq]
        exact ⟨rfl, rfl, by omega⟩

theorem canonical_ofParts {sign : Sign} {mantissa : Nat} {exponent : Int}
    (short : mantissa < 2 ^ 53) (lowest : -1074 ≤ exponent) (highest : exponent ≤ 971)
    (normal : 2 ^ 52 ≤ mantissa ∨ exponent = -1074) :
    Canonical (ofParts sign mantissa exponent) := by
  rw [ofParts]
  split
  · trivial
  · exact ⟨short, lowest, highest, normal⟩

/-- Every finite stored number is canonical. -/
theorem canonical_unpack {bits : BitVec 64}
    (finite : (UnpackedFloat.unpack Format.binary64 bits).isFinite = true) :
    Canonical (UnpackedFloat.unpack Format.binary64 bits) := by
  rw [unpack_eq] at finite ⊢
  generalize Sign.ofBitVec (@unpackSign Format.binary64 bits) = sign at finite ⊢
  generalize @unpackExponent Format.binary64 bits = exponent at finite ⊢
  generalize @unpackMantissa Format.binary64 bits = mantissa at finite ⊢
  dsimp only at finite ⊢
  have exponent_lt : exponent.toNat < 2 ^ 11 := exponent.isLt
  have mantissa_lt : mantissa.toNat < 2 ^ 52 := mantissa.isLt
  split at finite
  · split at finite <;> cases finite
  · rename_i not_last
    have below : exponent.toNat ≠ 2047 := fun last => not_last (BitVec.eq_of_toNat_eq last)
    rw [if_neg not_last]
    split
    · exact canonical_ofParts (by omega) (by omega) (by omega) (Or.inr rfl)
    · rename_i not_first
      have above : exponent.toNat ≠ 0 := fun first => not_first (BitVec.eq_of_toNat_eq first)
      exact canonical_ofParts (by omega) (by omega) (by omega) (Or.inl (by omega))

/-! ## Numbers in range -/

theorem le_target {mantissa : Nat} (long : 2 ^ 52 ≤ mantissa) (exponent : Int) :
    exponent ≤ target mantissa exponent := by
  have log_ge : 52 ≤ mantissa.log2 := (Nat.le_log2 (by omega)).mpr long
  simp only [target]
  omega

/-- What a number is rounded to, when that is in range. -/
theorem canonical_settle {sign : Sign} {mantissa : Nat} {exponent : Int} {accuracy : Accuracy}
    (in_range : target mantissa exponent ≤ 970 ∨ target mantissa exponent = 971 ∧
      roundOff mantissa accuracy (target mantissa exponent - exponent).toNat < 2 ^ 53)
    (small : exponent ≤ target mantissa exponent) :
    Canonical (settle sign
      (roundOff mantissa accuracy (target mantissa exponent - exponent).toNat)
      (target mantissa exponent)) := by
  have lowest : -1074 ≤ target mantissa exponent := Int.le_max_right _ _
  have rounded_le : roundOff mantissa accuracy (target mantissa exponent - exponent).toNat ≤
      2 ^ 53 := by
    apply roundOff_le
    simp only [target]
    omega
  have normal : 2 ^ 52 ≤ roundOff mantissa accuracy (target mantissa exponent - exponent).toNat ∨
      target mantissa exponent = -1074 := by
    by_cases subnormal : target mantissa exponent = -1074
    · exact Or.inr subnormal
    · have positive : mantissa ≠ 0 := by
        rintro rfl
        simp only [target, Nat.log2_zero] at subnormal small
        omega
      refine Or.inl (le_roundOff accuracy positive ?_)
      simp only [target] at subnormal small ⊢
      omega
  rw [settle]
  split
  · exact canonical_ofParts (by decide) (by omega) (by omega) (Or.inl (Nat.le_refl _))
  · exact canonical_ofParts (by omega) lowest (by omega) normal

theorem log2_shiftLeft {mantissa : Nat} (positive : mantissa ≠ 0) (places : Nat) :
    (mantissa <<< places).log2 = mantissa.log2 + places := by
  rw [Nat.shiftLeft_eq, Nat.log2_eq_iff (Nat.mul_ne_zero positive (Nat.two_pow_pos places).ne')]
  have low := Nat.log2_self_le positive
  have high := Nat.lt_log2_self (n := mantissa)
  constructor
  · rw [Nat.pow_add]
    exact Nat.mul_le_mul_right _ low
  · rw [show mantissa.log2 + places + 1 = mantissa.log2 + 1 + places by omega, Nat.pow_add]
    exact Nat.mul_lt_mul_of_pos_right high (Nat.two_pow_pos places)

theorem target_shift {mantissa : Nat} (positive : mantissa ≠ 0) (exponent : Int) (places : Nat) :
    target (mantissa <<< places) (exponent - places) = target mantissa exponent := by
  have log_eq := log2_shiftLeft positive places
  simp only [target, log_eq]
  omega

/-- A number below the threshold of overflow is rounded to one in range. -/
theorem in_range_of_lt {mantissa : Nat} {exponent : Int} (positive : mantissa ≠ 0)
    (low : exponent ≤ 970) (bound : mantissa < (2 ^ 54 - 1) * 2 ^ (970 - exponent).toNat) :
    target mantissa exponent ≤ 970 ∨ target mantissa exponent = 971 ∧
      roundOff mantissa .exact (target mantissa exponent - exponent).toNat < 2 ^ 53 := by
  obtain ⟨places, places_eq⟩ : ∃ places : Nat, (places : Int) = 970 - exponent :=
    ⟨(970 - exponent).toNat, by omega⟩
  have toNat_eq : (970 - exponent).toNat = places := by omega
  rw [toNat_eq] at bound
  have log_lt : mantissa.log2 < 54 + places := by
    rw [Nat.log2_lt positive, Nat.pow_add]
    exact bound.trans_le (Nat.mul_le_mul_right _ (by decide))
  have highest : target mantissa exponent ≤ 971 := by
    simp only [target]
    omega
  by_cases top : target mantissa exponent = 971
  · right
    refine ⟨top, ?_⟩
    have shift_eq : (target mantissa exponent - exponent).toNat = places + 1 := by omega
    rw [shift_eq]
    have near := roundOff_exact_le mantissa (places + 1)
    by_contra beyond
    rw [Nat.not_lt] at beyond
    have scaled := Nat.mul_le_mul_right (2 ^ (places + 1)) beyond
    rw [Nat.pow_succ 2 places] at near scaled
    omega
  · left
    omega

/-- Rounding a number below the threshold of overflow gives a number that can be stored. -/
theorem canonical_round {sign : Sign} {mantissa : Nat} {exponent : Int} (positive : mantissa ≠ 0)
    (low : exponent ≤ 970) (bound : mantissa < (2 ^ 54 - 1) * 2 ^ (970 - exponent).toNat) :
    Canonical (UnpackedFloat.round Format.binary64 sign mantissa exponent) := by
  rw [UnpackedFloat.round, decreaseExponent, targetExponent_eq]
  dsimp only
  obtain ⟨places, places_eq⟩ : ∃ places : Nat,
    places = (exponent - target mantissa exponent).toNat := ⟨_, rfl⟩
  rw [← places_eq]
  have same := target_shift positive exponent places
  have small : exponent - places ≤ target (mantissa <<< places) (exponent - places) := by
    rw [same]
    omega
  have shifted_positive : mantissa <<< places ≠ 0 := by
    rw [Nat.shiftLeft_eq]
    exact Nat.mul_ne_zero positive (Nat.two_pow_pos places).ne'
  have shifted_bound :
      mantissa <<< places < (2 ^ 54 - 1) * 2 ^ (970 - (exponent - places)).toNat := by
    have toNat_eq : (970 - (exponent - places)).toNat = (970 - exponent).toNat + places := by omega
    rw [Nat.shiftLeft_eq, toNat_eq, Nat.pow_add, ← Nat.mul_assoc]
    exact Nat.mul_lt_mul_of_pos_right bound (Nat.two_pow_pos places)
  rw [roundWithAccuracy_eq sign .exact small]
  exact canonical_settle (in_range_of_lt shifted_positive (by omega) shifted_bound) small

theorem canonical_normalize {mantissa exponent : Int} (low : exponent ≤ 970)
    (bound : mantissa.natAbs < (2 ^ 54 - 1) * 2 ^ (970 - exponent).toNat) (zeroSign : Sign) :
    Canonical (UnpackedFloat.normalize Format.binary64 mantissa exponent zeroSign) := by
  rw [UnpackedFloat.normalize]
  split
  · rename_i below
    have negative : mantissa < 0 := by simpa [compare_lt_iff_lt] using below
    have toNat_eq : (-mantissa).toNat = mantissa.natAbs := by omega
    rw [toNat_eq]
    exact canonical_round (by omega) low bound
  · trivial
  · rename_i above
    have positive : 0 < mantissa := by simpa [compare_gt_iff_gt] using above
    have toNat_eq : mantissa.toNat = mantissa.natAbs := by omega
    rw [toNat_eq]
    exact canonical_round (by omega) low bound

end Double
end ClusterDiagram
