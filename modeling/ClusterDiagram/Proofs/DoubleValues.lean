import ClusterDiagram.Proofs.Doubles
import ClusterDiagram.Proofs.HeldNumbers

/-!
# Doubles that hold numbers

Every finite double holds a rational number, and doubles are compared as the numbers they hold.
Whole and half units below `2 ^ 52` can be held, and operations that come out as such are not
rounded.
-/

namespace ClusterDiagram
namespace Double

open Float.Model Float.Model.UnpackedFloat

/-! ## Values -/

/-- A rational number from its sign, mantissa and exponent. -/
def signed (sign : Sign) (mantissa : Nat) (exponent : Int) : ℚ :=
  (sign.apply mantissa : ℤ) * (2 : ℚ) ^ exponent

/-- The number that is stored, zero when none is. -/
def value : UnpackedFloat → ℚ
  | .finite sign mantissa exponent _ => signed sign mantissa exponent
  | .zero _ | .infinity _ | .notANumber => 0

theorem value_zero (sign : Sign) : value (.zero sign) = 0 :=
  rfl

theorem value_ofParts (sign : Sign) (mantissa : Nat) (exponent : Int) :
    value (ofParts sign mantissa exponent) = signed sign mantissa exponent := by
  rw [ofParts]
  split
  · rename_i zero
    cases sign <;> simp [value, signed, zero, Sign.apply]
  · rfl

theorem abs_signed (sign : Sign) (mantissa : Nat) (exponent : Int) :
    |signed sign mantissa exponent| = mantissa * 2 ^ exponent := by
  have scale : (0 : ℚ) < 2 ^ exponent := zpow_pos two_pos exponent
  rw [signed, abs_mul, abs_of_pos scale]
  cases sign <;> simp [Sign.apply]

theorem signed_ne_zero (sign : Sign) {mantissa : Nat} (positive : mantissa ≠ 0) (exponent : Int) :
    signed sign mantissa exponent ≠ 0 := by
  rw [← abs_pos, abs_signed]
  exact mul_pos (Nat.cast_pos.mpr (Nat.pos_of_ne_zero positive)) (zpow_pos two_pos exponent)

/-- Places of the mantissa that are made up for by the exponent. -/
theorem signed_mul_pow (sign : Sign) (mantissa places : Nat) (exponent : Int) :
    signed sign (mantissa * 2 ^ places) exponent = signed sign mantissa (exponent + places) := by
  rw [signed, signed, zpow_add₀ two_ne_zero, zpow_natCast]
  cases sign <;> simp only [Sign.apply] <;> push_cast <;> ring

theorem signed_shiftLeft (sign : Sign) (mantissa places : Nat) (exponent : Int) :
    signed sign (mantissa <<< places) (exponent - places) = signed sign mantissa exponent := by
  rw [Nat.shiftLeft_eq, signed_mul_pow, sub_add_cancel]

theorem value_settle (sign : Sign) (rounded : Nat) (exponent : Int) :
    value (settle sign rounded exponent) = signed sign rounded exponent := by
  rw [settle]
  split
  · rename_i full
    rw [value_ofParts, full, show (2 : Nat) ^ 53 = 2 ^ 52 * 2 ^ 1 from rfl, signed_mul_pow]
    rfl
  · exact value_ofParts sign rounded exponent

/-! ## Rounding without loss -/

theorem roundOff_of_dvd {mantissa places : Nat} {accuracy : Accuracy}
    (whole : 2 ^ places ∣ mantissa) (sharp : accuracy = .exact ∨ places ≠ 0) :
    roundOff mantissa accuracy places = mantissa / 2 ^ places := by
  have cut := repeat_shiftRightOne (.ofMantissaAndAccuracy mantissa accuracy) places
  rw [mantissa_ofAccuracy] at cut
  rw [roundOff, ← cut]
  refine (roundedMantissa_cases _).resolve_right ?_
  rintro ⟨half, -⟩
  cases places with
  | zero =>
      obtain rfl := sharp.resolve_right (by simp)
      cases half
  | succ places =>
      obtain ⟨rest, rfl⟩ := whole
      rw [roundBit_shiftRight, mantissa_ofAccuracy, bne_iff_ne, Nat.pow_succ, Nat.mul_assoc,
        Nat.mul_div_cancel_left _ (Nat.two_pow_pos places)] at half
      exact half (Nat.mul_mod_right 2 rest)

/-- A stored number that is a given one. -/
def Exactly (number : UnpackedFloat) (q : ℚ) : Prop :=
  Canonical number ∧ value number = q

theorem exactly_roundWithAccuracy (sign : Sign) {mantissa : Nat} {exponent : Int}
    {accuracy : Accuracy} (small : exponent ≤ target mantissa exponent)
    (low : target mantissa exponent ≤ 970)
    (whole : 2 ^ (target mantissa exponent - exponent).toNat ∣ mantissa)
    (sharp : accuracy = .exact ∨ (target mantissa exponent - exponent).toNat ≠ 0) :
    Exactly (roundWithAccuracy Format.binary64 sign mantissa exponent accuracy)
      (signed sign mantissa exponent) := by
  rw [roundWithAccuracy_eq sign accuracy small]
  refine ⟨canonical_settle (Or.inl low) small, ?_⟩
  obtain ⟨places, places_eq⟩ : ∃ places : Nat,
    places = (target mantissa exponent - exponent).toNat := ⟨_, rfl⟩
  rw [← places_eq] at whole sharp ⊢
  rw [value_settle, roundOff_of_dvd whole sharp]
  obtain ⟨rest, rest_eq⟩ := whole
  have target_eq : target mantissa exponent = exponent + places := by omega
  rw [target_eq, ← signed_mul_pow, Nat.div_mul_cancel ⟨rest, rest_eq⟩]

/-- A number of half units below `2 ^ 52`. -/
def InHalves (q : ℚ) : Prop :=
  ∃ units : ℤ, q = units / 2 ∧ |units| < 2 ^ 53

theorem inHalves_sub {p q : ℚ} (first : InHalves p) (second : InHalves q) (p_nonneg : 0 ≤ p)
    (q_nonneg : 0 ≤ q) : InHalves (p - q) := by
  obtain ⟨units, rfl, small⟩ := first
  obtain ⟨units', rfl, small'⟩ := second
  have units_nonneg : 0 ≤ units := by
    have : (0 : ℚ) ≤ units := by linarith
    exact_mod_cast this
  have units_nonneg' : 0 ≤ units' := by
    have : (0 : ℚ) ≤ units' := by linarith
    exact_mod_cast this
  refine ⟨units - units', by push_cast; ring, ?_⟩
  rw [abs_lt] at *
  omega

section Halves

variable {mantissa : Nat} {exponent : Int} {sign : Sign}
  (halves : InHalves (signed sign mantissa exponent))

include halves

/-- Half units are rounded to half units or smaller ones. -/
theorem target_of_inHalves (positive : mantissa ≠ 0) : target mantissa exponent ≤ -1 := by
  obtain ⟨units, units_eq, small⟩ := halves
  have below : (2 : ℚ) ^ ((mantissa.log2 : ℤ) + exponent) < 2 ^ (52 : ℤ) := by
    calc (2 : ℚ) ^ ((mantissa.log2 : ℤ) + exponent)
        = ((2 ^ mantissa.log2 : ℕ) : ℚ) * 2 ^ exponent := by
          rw [zpow_add₀ two_ne_zero, zpow_natCast, Nat.cast_pow, Nat.cast_ofNat]
      _ ≤ mantissa * 2 ^ exponent := by
          gcongr
          exact Nat.log2_self_le positive
      _ = ((|units| : ℤ) : ℚ) / 2 := by
          rw [← abs_signed sign, units_eq, abs_div, Int.cast_abs, abs_two]
      _ < ((2 ^ 53 : ℤ) : ℚ) / 2 := by gcongr
      _ = 2 ^ (52 : ℤ) := by norm_num
  have log_lt := (zpow_lt_zpow_iff_right₀ one_lt_two).mp below
  simp only [target]
  omega

/-- No place of half units is rounded off. -/
theorem dvd_of_inHalves (positive : mantissa ≠ 0) (small : exponent ≤ target mantissa exponent) :
    2 ^ (target mantissa exponent - exponent).toNat ∣ mantissa := by
  have low := target_of_inHalves halves positive
  obtain ⟨units, units_eq, -⟩ := halves
  obtain ⟨places, places_eq⟩ : ∃ places : Nat, (places : ℤ) = -1 - exponent :=
    ⟨(-1 - exponent).toNat, by omega⟩
  have mantissa_eq : (mantissa : ℚ) = ((units.natAbs * 2 ^ places : ℕ) : ℚ) := by
    have exponent_eq : exponent = -((places + 1 : ℕ) : ℤ) := by omega
    have magnitude := abs_signed sign mantissa exponent
    rw [units_eq, abs_div, abs_two, exponent_eq, zpow_neg, zpow_natCast, pow_succ] at magnitude
    rw [Nat.cast_mul, Nat.cast_natAbs, Int.cast_abs, Nat.cast_pow, Nat.cast_ofNat]
    field_simp at magnitude
    linarith
  have places_dvd : 2 ^ places ∣ mantissa :=
    ⟨units.natAbs, (Nat.cast_inj.mp mantissa_eq).trans (Nat.mul_comm _ _)⟩
  exact (Nat.pow_dvd_pow 2 (by omega)).trans places_dvd

theorem exactly_round (positive : mantissa ≠ 0) :
    Exactly (UnpackedFloat.round Format.binary64 sign mantissa exponent)
      (signed sign mantissa exponent) := by
  rw [UnpackedFloat.round, decreaseExponent, targetExponent_eq]
  dsimp only
  obtain ⟨places, places_eq⟩ : ∃ places : Nat,
    places = (exponent - target mantissa exponent).toNat := ⟨_, rfl⟩
  rw [← places_eq, ← signed_shiftLeft sign mantissa places exponent]
  have same := target_shift positive exponent places
  have low := target_of_inHalves halves positive
  have small : exponent - places ≤ target (mantissa <<< places) (exponent - places) := by
    rw [same]
    omega
  have shifted : mantissa <<< places ≠ 0 := by
    rw [Nat.shiftLeft_eq]
    exact Nat.mul_ne_zero positive (Nat.two_pow_pos places).ne'
  rw [← signed_shiftLeft sign mantissa places exponent] at halves
  exact exactly_roundWithAccuracy sign small (by omega) (dvd_of_inHalves halves shifted small)
    (Or.inl rfl)

end Halves

theorem exactly_normalize {mantissa exponent : Int} (zeroSign : Sign)
    (halves : InHalves (mantissa * (2 : ℚ) ^ exponent)) :
    Exactly (UnpackedFloat.normalize Format.binary64 mantissa exponent zeroSign)
      (mantissa * (2 : ℚ) ^ exponent) := by
  rw [UnpackedFloat.normalize]
  split
  · rename_i below
    have negative : mantissa < 0 := by simpa [compare_lt_iff_lt] using below
    have signed_eq : mantissa * (2 : ℚ) ^ exponent =
        signed .negative (-mantissa).toNat exponent := by
      rw [signed, Sign.apply, Int.toNat_of_nonneg (by omega), neg_neg]
    rw [signed_eq] at halves ⊢
    exact exactly_round halves (by omega)
  · rename_i equal
    obtain rfl : mantissa = 0 := by simpa [compare_eq_iff_eq] using equal
    exact ⟨trivial, by simp [value]⟩
  · rename_i above
    have positive : 0 < mantissa := by simpa [compare_gt_iff_gt] using above
    have signed_eq : mantissa * (2 : ℚ) ^ exponent =
        signed .positive mantissa.toNat exponent := by
      rw [signed, Sign.apply, Int.toNat_of_nonneg (by omega)]
    rw [signed_eq] at halves ⊢
    exact exactly_round halves (by omega)

/-! ## Operations without loss -/

section Operations

variable {first second : UnpackedFloat}

/-- Two numbers are added without loss, or as whole multiples of a power of two that are then
rounded. -/
theorem exists_add_eq (canonical : Canonical first) (canonical' : Canonical second) :
    Exactly (UnpackedFloat.add Format.binary64 first second) (value first + value second) ∨
      ∃ mantissa exponent, UnpackedFloat.add Format.binary64 first second =
          UnpackedFloat.normalize Format.binary64 mantissa exponent .positive ∧
        mantissa * (2 : ℚ) ^ exponent = value first + value second := by
  cases first with
  | notANumber => cases canonical
  | infinity sign => cases canonical
  | zero sign =>
      cases second with
      | notANumber => cases canonical'
      | infinity sign => cases canonical'
      | zero sign' =>
          refine Or.inl ⟨?_, ?_⟩ <;> cases sign <;> cases sign' <;>
            first | trivial | exact (add_zero 0).symm
      | finite sign' mantissa' exponent' positive' =>
          exact Or.inl ⟨canonical', (zero_add _).symm⟩
  | finite sign mantissa exponent positive =>
      cases second with
      | notANumber => cases canonical'
      | infinity sign => cases canonical'
      | zero sign' => exact Or.inl ⟨canonical, (add_zero _).symm⟩
      | finite sign' mantissa' exponent' positive' =>
          obtain ⟨least, least_eq⟩ : ∃ least, least = min exponent exponent' := ⟨_, rfl⟩
          obtain ⟨places, places_eq⟩ : ∃ places, places = (exponent - least).toNat := ⟨_, rfl⟩
          obtain ⟨places', places_eq'⟩ : ∃ places, places = (exponent' - least).toNat := ⟨_, rfl⟩
          refine Or.inr ⟨sign.apply (mantissa <<< places : Nat) +
            sign'.apply (mantissa' <<< places' : Nat), least, ?_, ?_⟩
          · rw [places_eq, places_eq', least_eq]
            rfl
          · change _ = signed sign mantissa exponent + signed sign' mantissa' exponent'
            rw [← signed_shiftLeft sign mantissa places, ← signed_shiftLeft sign' mantissa' places',
              show exponent - places = least by omega, show exponent' - places' = least by omega,
              signed, signed, Int.cast_add, add_mul]

theorem exactly_add (canonical : Canonical first) (canonical' : Canonical second)
    (halves : InHalves (value first + value second)) :
    Exactly (UnpackedFloat.add Format.binary64 first second) (value first + value second) := by
  rcases exists_add_eq canonical canonical' with exact | ⟨mantissa, exponent, sum_eq, value_eq⟩
  · exact exact
  · rw [sum_eq, ← value_eq]
    exact exactly_normalize .positive (value_eq ▸ halves)

/-- Subtracting is adding the opposite number. -/
theorem sub_eq_add (first second : UnpackedFloat) :
    UnpackedFloat.sub Format.binary64 first second =
      UnpackedFloat.add Format.binary64 first second.neg := by
  cases first <;> cases second <;> try rfl
  rename_i sign mantissa exponent positive sign' mantissa' exponent' positive'
  have opposite (a b : Int) : a - sign'.apply b = a + (-sign').apply b := by
    cases sign'
    · exact sub_neg_eq_add a b
    · exact Int.sub_eq_add_neg
  simp only [UnpackedFloat.sub, UnpackedFloat.add, UnpackedFloat.neg, opposite]

theorem value_neg (number : UnpackedFloat) : value number.neg = -value number := by
  cases number with
  | notANumber => exact neg_zero.symm
  | infinity sign => exact neg_zero.symm
  | zero sign => exact neg_zero.symm
  | finite sign mantissa exponent positive =>
      change signed (-sign) mantissa exponent = -signed sign mantissa exponent
      rw [signed, signed, ← neg_mul, ← Int.cast_neg]
      cases sign
      · exact congrArg (fun n : ℤ => (n : ℚ) * 2 ^ exponent) (neg_neg _).symm
      · rfl

theorem exactly_sub (canonical : Canonical first) (canonical' : Canonical second)
    (halves : InHalves (value first - value second)) :
    Exactly (UnpackedFloat.sub Format.binary64 first second) (value first - value second) := by
  have canonical_neg : Canonical second.neg := by
    cases second <;> exact canonical'
  rw [sub_eq_add_neg, ← value_neg] at halves ⊢
  rw [sub_eq_add]
  exact exactly_add canonical canonical_neg halves

/-- Half units other than zero have a mantissa of full length. -/
theorem long_of_inHalves {sign : Sign} {mantissa : Nat} {exponent : Int} {positive : 0 < mantissa}
    (canonical : Canonical (.finite sign mantissa exponent positive))
    (halves : InHalves (signed sign mantissa exponent)) :
    2 ^ 52 ≤ mantissa ∧ -53 ≤ exponent ∧ exponent ≤ -1 := by
  obtain ⟨short, lowest, highest, normal⟩ := canonical
  obtain ⟨units, units_eq, small⟩ := id halves
  have unit_ge : (1 : ℚ) ≤ ((|units| : ℤ) : ℚ) := by
    have nonzero : units ≠ 0 := by
      rintro rfl
      exact signed_ne_zero sign positive.ne' exponent (by simpa using units_eq)
    exact_mod_cast Int.one_le_abs nonzero
  have above : (2 : ℚ) ^ (-1 : ℤ) < 2 ^ (exponent + 53) := by
    calc (2 : ℚ) ^ (-1 : ℤ) = 1 / 2 := by norm_num
      _ ≤ ((|units| : ℤ) : ℚ) / 2 := by gcongr
      _ = mantissa * 2 ^ exponent := by
        rw [← abs_signed sign, units_eq, abs_div, Int.cast_abs, abs_two]
      _ < ((2 ^ 53 : ℕ) : ℚ) * 2 ^ exponent := by gcongr
      _ = 2 ^ (exponent + 53) := by
        rw [zpow_add₀ two_ne_zero, Nat.cast_pow, Nat.cast_ofNat, mul_comm]
        rfl
  have exponent_gt := (zpow_lt_zpow_iff_right₀ one_lt_two).mp above
  have long : 2 ^ 52 ≤ mantissa := normal.resolve_right (by omega)
  refine ⟨long, by omega, ?_⟩
  exact (le_target long exponent).trans (target_of_inHalves halves positive.ne')

theorem signed_mul (sign sign' : Sign) (mantissa mantissa' : Nat) (exponent exponent' : Int) :
    signed (sign * sign') (mantissa * mantissa') (exponent + exponent') =
      signed sign mantissa exponent * signed sign' mantissa' exponent' := by
  have product : (sign * sign').apply (mantissa * mantissa' : Nat) =
      sign.apply mantissa * sign'.apply mantissa' := by
    rw [Nat.cast_mul]
    cases sign <;> cases sign'
    · exact (neg_mul_neg _ _).symm
    · exact (neg_mul _ _).symm
    · exact (mul_neg _ _).symm
    · rfl
  rw [signed, signed, signed, product, zpow_add₀ two_ne_zero]
  push_cast
  ring

theorem exactly_mul (canonical : Canonical first) (canonical' : Canonical second)
    (halves : InHalves (value first)) (product_halves : InHalves (value first * value second)) :
    Exactly (UnpackedFloat.mul Format.binary64 first second) (value first * value second) := by
  cases first with
  | notANumber => cases canonical
  | infinity sign => cases canonical
  | zero sign =>
      cases second with
      | notANumber => cases canonical'
      | infinity sign => cases canonical'
      | zero sign' => exact ⟨trivial, (zero_mul _).symm⟩
      | finite sign' mantissa' exponent' positive' => exact ⟨trivial, (zero_mul _).symm⟩
  | finite sign mantissa exponent positive =>
      cases second with
      | notANumber => cases canonical'
      | infinity sign => cases canonical'
      | zero sign' => exact ⟨trivial, (mul_zero _).symm⟩
      | finite sign' mantissa' exponent' positive' =>
          obtain ⟨long, -⟩ := long_of_inHalves canonical halves
          have product_ge : 2 ^ 52 ≤ mantissa * mantissa' :=
            long.trans (Nat.le_mul_of_pos_right _ positive')
          have small := le_target product_ge (exponent + exponent')
          change InHalves (signed _ _ _ * signed _ _ _) at product_halves
          change Exactly (roundWithAccuracy Format.binary64 (sign * sign') (mantissa * mantissa')
            (exponent + exponent') .exact) (signed _ _ _ * signed _ _ _)
          rw [← signed_mul] at product_halves ⊢
          have low := target_of_inHalves product_halves (by omega)
          exact exactly_roundWithAccuracy _ small (by omega)
            (dvd_of_inHalves product_halves (by omega) small) (Or.inl rfl)

/-- A power of two from one on. -/
def powerOfTwo (power : Nat) : UnpackedFloat :=
  .finite .positive (2 ^ 52) ((power : Int) - 52) leadingBit_pos

/-- A number of full length is divided with one place to spare. -/
theorem div_powerOfTwo (sign : Sign) {mantissa power : Nat} {exponent : Int}
    (positive : 0 < mantissa) (log_eq : mantissa.log2 = 52)
    (lowest : -1000 ≤ exponent - power) :
    ∃ accuracy, UnpackedFloat.div Format.binary64 (.finite sign mantissa exponent positive)
        (powerOfTwo power) = roundWithAccuracy Format.binary64 (sign / .positive)
      (mantissa <<< 1) (exponent - power - (1 : ℕ)) accuracy := by
  have total_power : totalExponent (2 ^ 52) ((power : Int) - 52) = power + 1 := by
    rw [totalExponent, Nat.log2_two_pow]
    omega
  have start_eq : min (exponent - ((power : Int) - 52)) (Format.binary64.targetExponent
      (totalExponent mantissa exponent - (power + 1))) = exponent - power - (1 : ℕ) := by
    have target_eq (total : Int) :
        Format.binary64.targetExponent total = max (total - 53) (-1074) := rfl
    rw [target_eq, totalExponent, log_eq]
    omega
  have quotient :
      mantissa <<< (exponent - ((power : Int) - 52) - (exponent - power - (1 : ℕ))).toNat /
        2 ^ 52 = mantissa <<< 1 := by
    rw [show (exponent - ((power : Int) - 52) - (exponent - power - (1 : ℕ))).toNat = 1 + 52 by
      omega, Nat.shiftLeft_add, Nat.shiftLeft_eq _ 52, Nat.mul_div_cancel _ leadingBit_pos]
  rw [powerOfTwo, UnpackedFloat.div]
  simp only [divCore, total_power, start_eq, quotient]
  exact ⟨_, rfl⟩

theorem exactly_div {power : Nat} (few : power ≤ 1) (canonical : Canonical first)
    (halves : InHalves (value first)) :
    Exactly (UnpackedFloat.div Format.binary64 first (powerOfTwo power))
      (value first / 2 ^ power) := by
  cases first with
  | notANumber => cases canonical
  | infinity sign => cases canonical
  | zero sign => exact ⟨trivial, (zero_div _).symm⟩
  | finite sign mantissa exponent positive =>
      obtain ⟨long, lowest, highest⟩ := long_of_inHalves canonical halves
      obtain ⟨short, -⟩ := canonical
      have log_eq : mantissa.log2 = 52 := by
        have log_lt := (Nat.log2_lt positive.ne').mpr short
        have log_ge := (Nat.le_log2 positive.ne').mpr long
        omega
      have target_eq : target (mantissa <<< 1) (exponent - power - (1 : ℕ)) = exponent - power := by
        rw [target_shift positive.ne', target, log_eq]
        omega
      have places_eq : (exponent - power - (exponent - power - (1 : ℕ))).toNat = 1 := by omega
      have value_eq : signed (sign / .positive) (mantissa <<< 1) (exponent - power - (1 : ℕ)) =
          signed sign mantissa exponent / 2 ^ power := by
        have same_sign : sign / .positive = sign := by cases sign <;> rfl
        rw [same_sign, signed_shiftLeft, signed, signed, zpow_sub₀ two_ne_zero, zpow_natCast,
          mul_div_assoc]
      obtain ⟨accuracy, divided⟩ := div_powerOfTwo sign positive log_eq
        (show -1000 ≤ exponent - power by omega)
      change Exactly (UnpackedFloat.div _ _ _) (signed sign mantissa exponent / 2 ^ power)
      rw [divided, ← value_eq]
      apply exactly_roundWithAccuracy
      · omega
      · omega
      · rw [target_eq, places_eq, Nat.shiftLeft_eq]
        exact Nat.dvd_mul_left _ _
      · rw [target_eq, places_eq]
        exact Or.inr one_ne_zero

end Operations

/-! ## Comparisons -/

/-- The longer exponent decides, since the longer number has a mantissa of full length. -/
theorem signed_lt_of_exponent_lt {mantissa mantissa' : Nat} {exponent exponent' : Int}
    (short : mantissa < 2 ^ 53) (long : 2 ^ 52 ≤ mantissa') (less : exponent < exponent') :
    (mantissa : ℚ) * 2 ^ exponent < mantissa' * 2 ^ exponent' := by
  calc (mantissa : ℚ) * 2 ^ exponent < ((2 ^ 53 : ℕ) : ℚ) * 2 ^ exponent := by gcongr
    _ = ((2 ^ 52 : ℕ) : ℚ) * 2 ^ (exponent + 1) := by
      rw [zpow_add₀ two_ne_zero]
      push_cast
      ring
    _ ≤ mantissa' * 2 ^ exponent' := by
      gcongr
      · exact one_le_two
      · omega

theorem compare_magnitudes {mantissa mantissa' : Nat} {exponent exponent' : Int}
    (short : mantissa < 2 ^ 53) (short' : mantissa' < 2 ^ 53)
    (normal : 2 ^ 52 ≤ mantissa ∨ exponent = -1074)
    (normal' : 2 ^ 52 ≤ mantissa' ∨ exponent' = -1074)
    (lowest : -1074 ≤ exponent) (lowest' : -1074 ≤ exponent') :
    (compare exponent exponent').then (compare mantissa mantissa') =
      compare ((mantissa : ℚ) * 2 ^ exponent) (mantissa' * 2 ^ exponent') := by
  have scale : (0 : ℚ) < 2 ^ exponent := zpow_pos two_pos exponent
  rcases lt_trichotomy exponent exponent' with less | rfl | greater
  · have below := signed_lt_of_exponent_lt short (normal'.resolve_right (by omega)) less
    rw [compare_lt_iff_lt.mpr less, compare_lt_iff_lt.mpr below]
    rfl
  · rw [compare_eq_iff_eq.mpr rfl]
    change compare mantissa mantissa' = _
    rcases lt_trichotomy mantissa mantissa' with less | rfl | greater
    · rw [compare_lt_iff_lt.mpr less, eq_comm, compare_lt_iff_lt]
      gcongr
    · rw [compare_eq_iff_eq.mpr rfl, compare_eq_iff_eq.mpr rfl]
    · rw [compare_gt_iff_gt.mpr greater, eq_comm, compare_gt_iff_gt]
      gcongr
  · have above := signed_lt_of_exponent_lt short' (normal.resolve_right (by omega)) greater
    rw [compare_gt_iff_gt.mpr greater, compare_gt_iff_gt.mpr above]
    rfl

section Signs

variable {mantissa : Nat} (positive : 0 < mantissa) (exponent : Int)

theorem value_positive : value (.finite .positive mantissa exponent positive) =
    mantissa * 2 ^ exponent := by
  simp [value, signed, Sign.apply]

theorem value_negative : value (.finite .negative mantissa exponent positive) =
    -(mantissa * 2 ^ exponent) := by
  simp [value, signed, Sign.apply]

include positive in
theorem magnitude_pos : (0 : ℚ) < mantissa * 2 ^ exponent :=
  mul_pos (Nat.cast_pos.mpr positive) (zpow_pos two_pos exponent)

end Signs

theorem compare_neg_neg (a b : ℚ) : compare (-a) (-b) = (compare a b).swap := by
  rcases lt_trichotomy a b with less | rfl | greater
  · rw [compare_lt_iff_lt.mpr less, compare_gt_iff_gt.mpr (neg_lt_neg less)]
    rfl
  · rw [compare_eq_iff_eq.mpr rfl, compare_eq_iff_eq.mpr rfl]
    rfl
  · rw [compare_gt_iff_gt.mpr greater, compare_lt_iff_lt.mpr (neg_lt_neg greater)]
    rfl

/-- Stored numbers are compared by their values. -/
theorem compare_eq {first second : UnpackedFloat} (canonical : Canonical first)
    (canonical' : Canonical second) :
    first.compare second = some (compare (value first) (value second)) := by
  cases first with
  | notANumber => cases canonical
  | infinity sign => cases canonical
  | zero sign =>
      cases second with
      | notANumber => cases canonical'
      | infinity sign => cases canonical'
      | zero sign' => rfl
      | finite sign' mantissa' exponent' positive' =>
          have above := magnitude_pos positive' exponent'
          cases sign'
          · rw [value_zero, value_negative, compare_gt_iff_gt.mpr (neg_neg_of_pos above)]
            rfl
          · rw [value_zero, value_positive, compare_lt_iff_lt.mpr above]
            rfl
  | finite sign mantissa exponent positive =>
      have above := magnitude_pos positive exponent
      cases second with
      | notANumber => cases canonical'
      | infinity sign => cases canonical'
      | zero sign' =>
          cases sign
          · rw [value_zero, value_negative, compare_lt_iff_lt.mpr (neg_neg_of_pos above)]
            rfl
          · rw [value_zero, value_positive, compare_gt_iff_gt.mpr above]
            rfl
      | finite sign' mantissa' exponent' positive' =>
          have above' := magnitude_pos positive' exponent'
          obtain ⟨short, lowest, -, normal⟩ := canonical
          obtain ⟨short', lowest', -, normal'⟩ := canonical'
          have magnitudes := compare_magnitudes short short' normal normal' lowest lowest'
          cases sign <;> cases sign'
          · rw [value_negative, value_negative, compare_neg_neg, ← magnitudes]
            rfl
          · rw [value_negative, value_positive,
              compare_lt_iff_lt.mpr ((neg_neg_of_pos above).trans above')]
            rfl
          · rw [value_negative, value_positive,
              compare_gt_iff_gt.mpr ((neg_neg_of_pos above').trans above)]
            rfl
          · rw [value_positive, value_positive, ← magnitudes]
            rfl

/-! ## Doubles -/

/-- Whether a double holds a number. -/
def Holds (x : Float) (q : ℚ) : Prop :=
  Exactly (stored x) q

section Holding

variable {x y : Float} {p q : ℚ}

theorem holds_of_stored {number : UnpackedFloat} (exact : Exactly number q)
    (stored_eq : stored x =
      UnpackedFloat.unpack Format.binary64 (UnpackedFloat.pack Format.binary64 number)) :
    Holds x q := by
  rw [Holds, stored_eq, unpack_pack exact.1]
  exact exact

theorem holds_add (first : Holds x p) (second : Holds y q) (halves : InHalves (p + q)) :
    Holds (x + y) (p + q) := by
  obtain ⟨canonical, rfl⟩ := first
  obtain ⟨canonical', rfl⟩ := second
  exact holds_of_stored (exactly_add canonical canonical' halves) rfl

theorem holds_sub (first : Holds x p) (second : Holds y q) (halves : InHalves (p - q)) :
    Holds (x - y) (p - q) := by
  obtain ⟨canonical, rfl⟩ := first
  obtain ⟨canonical', rfl⟩ := second
  exact holds_of_stored (exactly_sub canonical canonical' halves) rfl

theorem holds_mul (first : Holds x p) (second : Holds y q) (halves : InHalves p)
    (product_halves : InHalves (p * q)) : Holds (x * y) (p * q) := by
  obtain ⟨canonical, rfl⟩ := first
  obtain ⟨canonical', rfl⟩ := second
  exact holds_of_stored (exactly_mul canonical canonical' halves product_halves) rfl

theorem holds_half (first : Holds x p) (halves : InHalves p) :
    Holds (x / ((2 : ℕ) : Float)) (p / 2) := by
  obtain ⟨canonical, rfl⟩ := first
  have exact := exactly_div (Nat.le_refl 1) canonical halves
  rw [pow_one] at exact
  exact holds_of_stored exact rfl

theorem holds_whole (first : Holds x p) (halves : InHalves p) :
    Holds (x / ((1 : ℕ) : Float)) p := by
  obtain ⟨canonical, rfl⟩ := first
  have exact := exactly_div (Nat.zero_le 1) canonical halves
  rw [pow_zero, div_one] at exact
  exact holds_of_stored exact rfl

theorem holds_natCast {count : ℕ} (halves : InHalves count) : Holds (count : Float) count := by
  have short : count < 2 ^ 53 := by
    obtain ⟨units, units_eq, small⟩ := halves
    have units_twice : units = 2 * count := by
      have twice : (units : ℚ) = ((2 * count : ℤ) : ℚ) := by
        push_cast
        linarith
      exact_mod_cast twice
    rw [units_twice, abs_of_nonneg (by omega)] at small
    omega
  have factor : Holds (Float.ofBits 0x3FF0000000000000) 1 := by
    have stored_eq : stored (Float.ofBits 0x3FF0000000000000) = powerOfTwo 0 := rfl
    rw [Holds, stored_eq]
    refine ⟨⟨by decide, by decide, by decide, Or.inl (Nat.le_refl _)⟩, ?_⟩
    rw [powerOfTwo, value_positive]
    norm_num
  have whole : Holds count.toUInt64.toFloat count := by
    have toNat_eq : count.toUInt64.toNat = count :=
      UInt64.toNat_ofNat_of_lt' (short.trans (by decide))
    have number_eq : UnpackedFloat.ofUInt64 Format.binary64 count.toUInt64 =
        UnpackedFloat.normalize Format.binary64 count 0 .positive := by
      rw [UnpackedFloat.ofUInt64, toNat_eq]
      rfl
    have value_eq : (count : ℚ) = ((count : ℤ) : ℚ) * 2 ^ (0 : ℤ) := by simp
    have exact := exactly_normalize .positive (value_eq ▸ halves)
    rw [← number_eq, ← value_eq] at exact
    exact holds_of_stored exact rfl
  have product := holds_mul whole factor halves (by rwa [mul_one])
  rw [mul_one, ← ofNat_of_lt short] at product
  exact product

theorem lt_iff_of_holds (first : Holds x p) (second : Holds y q) : x < y ↔ p < q := by
  obtain ⟨canonical, rfl⟩ := first
  obtain ⟨canonical', rfl⟩ := second
  refine (decide_eq_true_iff (p := x.toModel < y.toModel)).trans ?_
  change (UnpackedFloat.compare (stored x) (stored y) == some .lt) = true ↔ _
  rw [compare_eq canonical canonical', beq_iff_eq, Option.some_inj, compare_lt_iff_lt]

theorem le_iff_of_holds (first : Holds x p) (second : Holds y q) : x ≤ y ↔ p ≤ q := by
  obtain ⟨canonical, rfl⟩ := first
  obtain ⟨canonical', rfl⟩ := second
  refine (decide_eq_true_iff (p := x.toModel ≤ y.toModel)).trans ?_
  change (UnpackedFloat.compare (stored x) (stored y)).any (·.isLE) = true ↔ _
  rw [compare_eq canonical canonical', Option.any_some, ← compare_le_iff_le,
    Ordering.isLE_iff_ne_gt]

theorem beq_iff_of_holds (first : Holds x p) (second : Holds y q) : (x == y) = true ↔ p = q := by
  obtain ⟨canonical, rfl⟩ := first
  obtain ⟨canonical', rfl⟩ := second
  change (UnpackedFloat.compare (stored x) (stored y) == some .eq) = true ↔ _
  rw [compare_eq canonical canonical', beq_iff_eq, Option.some_inj, compare_eq_iff_eq]

theorem isInf_of_holds (first : Holds x p) : x.isInf = false := by
  change (stored x).isInf = false
  obtain ⟨canonical, -⟩ := first
  cases number : stored x <;> rw [number] at canonical <;> first | rfl | cases canonical

end Holding

instance : HeldNumbers Float where
  Held := InHalves
  Holds := Holds
  held_sub := inHalves_sub
  natCast := holds_natCast
  intCast_natCast _ := rfl
  add := holds_add
  sub := holds_sub
  mul := holds_mul
  half := holds_half
  whole := holds_whole
  lt_iff := lt_iff_of_holds
  le_iff := le_iff_of_holds
  beq_iff := beq_iff_of_holds
  isInfinite := isInf_of_holds

end Double
end ClusterDiagram
