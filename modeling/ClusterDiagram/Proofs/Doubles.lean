import ClusterDiagram.Proofs.Rounding
import ClusterDiagram.Scalar.Binary

/-!
# Arithmetic of doubles

Sums and products of doubles between one and a power of two stay between one and a power of two, and
what is small compared with the greatest double can be added to any double without overflow.
-/

namespace ClusterDiagram
namespace Double

open Float.Model Float.Model.UnpackedFloat

/-! ## Operations on doubles -/

/-- What a double stores. -/
def stored (x : Float) : UnpackedFloat :=
  x.toModel.unpack

theorem canonical_stored {x : Float} (finite : x.isFinite = true) : Canonical (stored x) :=
  canonical_unpack finite

theorem isFinite_of_canonical {x : Float} (canonical : Canonical (stored x)) :
    x.isFinite = true := by
  change (stored x).isFinite = true
  cases number : stored x <;> rw [number] at canonical <;> first | rfl | cases canonical

theorem stored_add {x y : Float}
    (canonical : Canonical (UnpackedFloat.add Format.binary64 (stored x) (stored y))) :
    stored (x + y) = UnpackedFloat.add Format.binary64 (stored x) (stored y) :=
  unpack_pack canonical

theorem stored_sub {x y : Float}
    (canonical : Canonical (UnpackedFloat.sub Format.binary64 (stored x) (stored y))) :
    stored (x - y) = UnpackedFloat.sub Format.binary64 (stored x) (stored y) :=
  unpack_pack canonical

theorem stored_mul {x y : Float}
    (canonical : Canonical (UnpackedFloat.mul Format.binary64 (stored x) (stored y))) :
    stored (x * y) = UnpackedFloat.mul Format.binary64 (stored x) (stored y) :=
  unpack_pack canonical

theorem stored_div {x y : Float}
    (canonical : Canonical (UnpackedFloat.div Format.binary64 (stored x) (stored y))) :
    stored (x / y) = UnpackedFloat.div Format.binary64 (stored x) (stored y) :=
  unpack_pack canonical

/-! ## Doubles from one on -/

/-- A stored number between one and a power of two. -/
def Between (power : Nat) (number : UnpackedFloat) : Prop :=
  ∃ mantissa exponent positive, number = .finite .positive mantissa exponent positive ∧
    2 ^ 52 ≤ mantissa ∧ mantissa < 2 ^ 53 ∧ -52 ≤ exponent ∧ exponent + 52 ≤ power ∧
      mantissa ≤ 2 ^ (power - exponent).toNat

theorem Between.canonical {power : Nat} {number : UnpackedFloat} (between : Between power number)
    (within : power ≤ 1000) : Canonical number := by
  obtain ⟨mantissa, exponent, positive, rfl, long, short, above, below, -⟩ := between
  exact ⟨short, by omega, by omega, Or.inl long⟩

/-- Rounding passes neither one nor a power of two. -/
theorem between_round {power : Nat} {mantissa : Nat} {exponent : Int} (long : 2 ^ 52 ≤ mantissa)
    (above : 0 ≤ (mantissa.log2 : Int) + exponent) (low : exponent ≤ power)
    (bound : mantissa ≤ 2 ^ (power - exponent).toNat) :
    Between power (roundWithAccuracy Format.binary64 .positive mantissa exponent .exact) := by
  have small := le_target long exponent
  have log_ge : 52 ≤ mantissa.log2 := (Nat.le_log2 (by omega)).mpr long
  have log_le : mantissa.log2 ≤ (power - exponent).toNat := by
    have below : 2 ^ mantissa.log2 ≤ 2 ^ (power - exponent).toNat :=
      (Nat.log2_self_le (by omega)).trans bound
    exact (Nat.pow_le_pow_iff_right Nat.one_lt_two).mp below
  have target_eq : target mantissa exponent = mantissa.log2 + exponent - 52 := by
    simp only [target]
    omega
  obtain ⟨places, places_eq⟩ : ∃ places : Nat,
    places = (target mantissa exponent - exponent).toNat := ⟨_, rfl⟩
  obtain ⟨room, room_eq⟩ : ∃ room : Nat, (room : Int) = power - target mantissa exponent :=
    ⟨(power - target mantissa exponent).toNat, by omega⟩
  have toNat_eq : (power - exponent).toNat = room + places := by omega
  have rounded_ge : 2 ^ 52 ≤ roundOff mantissa .exact places :=
    le_roundOff .exact (by omega) (by omega)
  have rounded_le : roundOff mantissa .exact places ≤ 2 ^ 53 :=
    roundOff_le mantissa .exact (by omega)
  have rounded_bound : roundOff mantissa .exact places ≤ 2 ^ room := by
    have near := roundOff_exact_le mantissa places
    rw [toNat_eq, Nat.pow_add] at bound
    by_contra beyond
    have scaled := Nat.mul_le_mul_right (2 ^ places) (Nat.succ_le_of_lt (Nat.lt_of_not_le beyond))
    rw [Nat.succ_mul] at scaled
    have positive := Nat.two_pow_pos places
    omega
  rw [roundWithAccuracy_eq .positive .exact small, ← places_eq, settle]
  split
  · rename_i full
    rw [full] at rounded_bound
    have room_ge : 53 ≤ room := (Nat.pow_le_pow_iff_right Nat.one_lt_two).mp rounded_bound
    rw [ofParts, dif_neg (by decide)]
    refine ⟨_, _, _, rfl, Nat.le_refl _, by decide, by omega, by omega, ?_⟩
    exact Nat.pow_le_pow_right Nat.two_pos (by omega)
  · have room_ge : 52 ≤ room :=
      (Nat.pow_le_pow_iff_right Nat.one_lt_two).mp (rounded_ge.trans rounded_bound)
    rw [ofParts, dif_neg (by omega)]
    refine ⟨_, _, _, rfl, rounded_ge, by omega, by omega, by omega, ?_⟩
    rw [← room_eq, Int.toNat_natCast]
    exact rounded_bound

theorem Between.mono {power more : Nat} {number : UnpackedFloat} (between : Between power number)
    (within : power ≤ more) : Between more number := by
  obtain ⟨mantissa, exponent, positive, rfl, long, short, above, below, bound⟩ := between
  refine ⟨_, _, _, rfl, long, short, above, by omega, ?_⟩
  exact bound.trans (Nat.pow_le_pow_right Nat.two_pos (by omega))

theorem normalize_of_long {mantissa : Nat} (long : 2 ^ 52 ≤ mantissa) (exponent : Int)
    (zeroSign : Sign) :
    UnpackedFloat.normalize Format.binary64 mantissa exponent zeroSign =
      roundWithAccuracy Format.binary64 .positive mantissa exponent .exact := by
  have positive : compare (mantissa : Int) 0 = .gt := by
    rw [compare_gt_iff_gt]
    omega
  have places : (exponent - target mantissa exponent).toNat = 0 := by
    have := le_target long exponent
    omega
  rw [UnpackedFloat.normalize, positive]
  dsimp only
  rw [Int.toNat_natCast, UnpackedFloat.round, decreaseExponent, targetExponent_eq, places]
  simp

theorem between_add {power : Nat} {first second : UnpackedFloat} (between : Between power first)
    (between' : Between power second) :
    Between (power + 1) (UnpackedFloat.add Format.binary64 first second) := by
  obtain ⟨mantissa, exponent, positive, rfl, long, short, above, below, bound⟩ := between
  obtain ⟨mantissa', exponent', positive', rfl, long', short', above', below', bound'⟩ := between'
  obtain ⟨least, least_eq⟩ : ∃ least, least = min exponent exponent' := ⟨_, rfl⟩
  obtain ⟨places, places_eq⟩ : ∃ places, places = (exponent - least).toNat := ⟨_, rfl⟩
  obtain ⟨places', places_eq'⟩ : ∃ places, places = (exponent' - least).toNat := ⟨_, rfl⟩
  have sum_eq : UnpackedFloat.add Format.binary64 (.finite .positive mantissa exponent positive)
      (.finite .positive mantissa' exponent' positive') =
      UnpackedFloat.normalize Format.binary64
        ((mantissa <<< places + mantissa' <<< places' : Nat) : Int) least .positive := by
    rw [Int.natCast_add, places_eq, places_eq', least_eq]
    rfl
  have first_ge : 2 ^ 52 ≤ mantissa <<< places := by
    rw [Nat.shiftLeft_eq]
    exact long.trans (Nat.le_mul_of_pos_right _ (Nat.two_pow_pos places))
  have sum_ge : 2 ^ 52 ≤ mantissa <<< places + mantissa' <<< places' :=
    first_ge.trans (Nat.le_add_right _ _)
  have log_ge : 52 ≤ (mantissa <<< places + mantissa' <<< places').log2 :=
    (Nat.le_log2 (by omega)).mpr sum_ge
  rw [sum_eq, normalize_of_long sum_ge]
  apply between_round sum_ge
  · omega
  · omega
  · have room : ((power + 1 : Nat) - least).toNat = (power - least).toNat + 1 := by omega
    have first_le : mantissa <<< places ≤ 2 ^ (power - least).toNat := by
      rw [Nat.shiftLeft_eq, show (power - least).toNat = (power - exponent).toNat + places by omega,
        Nat.pow_add]
      exact Nat.mul_le_mul_right _ bound
    have second_le : mantissa' <<< places' ≤ 2 ^ (power - least).toNat := by
      rw [Nat.shiftLeft_eq,
        show (power - least).toNat = (power - exponent').toNat + places' by omega, Nat.pow_add]
      exact Nat.mul_le_mul_right _ bound'
    rw [room, Nat.pow_succ, Nat.mul_two]
    exact Nat.add_le_add first_le second_le

theorem between_mul {power power' : Nat} {first second : UnpackedFloat}
    (between : Between power first) (between' : Between power' second) :
    Between (power + power') (UnpackedFloat.mul Format.binary64 first second) := by
  obtain ⟨mantissa, exponent, positive, rfl, long, short, above, below, bound⟩ := between
  obtain ⟨mantissa', exponent', positive', rfl, long', short', above', below', bound'⟩ := between'
  have product_ge : 2 ^ (52 + 52) ≤ mantissa * mantissa' := by
    rw [Nat.pow_add]
    exact Nat.mul_le_mul long long'
  have log_ge : 104 ≤ (mantissa * mantissa').log2 := (Nat.le_log2 (by omega)).mpr product_ge
  have product_eq : UnpackedFloat.mul Format.binary64 (.finite .positive mantissa exponent positive)
      (.finite .positive mantissa' exponent' positive') =
      roundWithAccuracy Format.binary64 .positive (mantissa * mantissa') (exponent + exponent')
        .exact := rfl
  rw [product_eq]
  apply between_round (by omega)
  · omega
  · omega
  · have room : ((power + power' : Nat) - (exponent + exponent')).toNat =
        (power - exponent).toNat + (power' - exponent').toNat := by omega
    rw [room, Nat.pow_add]
    exact Nat.mul_le_mul bound bound'

theorem ofNat_of_lt {count : Nat} (short : count < 2 ^ 53) :
    Float.ofNat count = count.toUInt64.toFloat * Float.ofBits 0x3FF0000000000000 := by
  have eq : Float.ofNat count = Float.ofScientific count false 0 := rfl
  rw [eq, Float.ofScientific, dif_pos ⟨short, by decide⟩]
  rfl

theorem ofScientific_eq {count : Nat} (positive : count ≠ 0) :
    UnpackedFloat.ofScientific Format.binary64 count 0 =
      roundWithAccuracy Format.binary64 .positive (count <<< 53) (-53) .exact := by
  have largest : (2 : Int) ^ Format.binary64.exponentBits = 2048 := rfl
  rw [UnpackedFloat.ofScientific, dif_neg positive, if_neg (by decide), if_neg (by omega),
    if_pos (by decide)]
  change roundWithAccuracy Format.binary64 .positive (count <<< 53 * 1) (-53 + 0) .exact = _
  rw [Nat.mul_one, Int.add_zero]

theorem ofNat_of_le {count : Nat} (long : 2 ^ 53 ≤ count) :
    Float.ofNat count =
      .ofModel (.pack (UnpackedFloat.ofScientific Format.binary64 count 0)) := by
  have eq : Float.ofNat count = Float.ofScientific count false 0 := rfl
  rw [eq, Float.ofScientific, dif_neg (by omega)]
  rfl

/-- A counting number that is shifted far enough is rounded to a number from one on. -/
theorem between_shift {count power places : Nat} (positive : count ≠ 0) (bound : count ≤ 2 ^ power)
    (enough : 52 ≤ count.log2 + places) :
    Between power
      (roundWithAccuracy Format.binary64 .positive (count <<< places) (-(places : Int))
        .exact) := by
  have log_eq := log2_shiftLeft positive places
  have filled : count <<< places ≠ 0 := by
    rw [Nat.shiftLeft_eq]
    exact Nat.mul_ne_zero positive (Nat.two_pow_pos places).ne'
  apply between_round
  · exact (Nat.le_log2 filled).mp (log_eq ▸ enough)
  · omega
  · omega
  · rw [show (power - -(places : Int)).toNat = power + places by omega, Nat.shiftLeft_eq,
      Nat.pow_add]
    exact Nat.mul_le_mul_right _ bound

/-- A counting number is stored as a number from one on. -/
theorem between_ofNat {count power : Nat} (positive : count ≠ 0) (bound : count ≤ 2 ^ power)
    (within : power ≤ 1000) : Between power (stored (Float.ofNat count)) := by
  by_cases short : count < 2 ^ 53
  · have factor : Between 0 (stored (Float.ofBits 0x3FF0000000000000)) :=
      ⟨2 ^ 52, -52, by decide, rfl, by decide, by decide, by decide, by decide, by decide⟩
    have whole : Between power (stored count.toUInt64.toFloat) := by
      obtain ⟨places, places_eq⟩ : ∃ places : Nat, places = (0 - target count 0).toNat := ⟨_, rfl⟩
      have log_lt := (Nat.log2_lt positive).mpr short
      have target_eq : (places : Int) = 52 - count.log2 := by
        simp only [target] at places_eq
        omega
      have between := between_shift positive bound (show 52 ≤ count.log2 + places by omega)
      have number_eq : UnpackedFloat.ofUInt64 Format.binary64 count.toUInt64 =
          roundWithAccuracy Format.binary64 .positive (count <<< places) (-(places : Int))
            .exact := by
        have toNat_eq : count.toUInt64.toNat = count :=
          UInt64.toNat_ofNat_of_lt' (short.trans (by decide))
        have above : compare (count : Int) 0 = .gt := by
          rw [compare_gt_iff_gt]
          omega
        rw [UnpackedFloat.ofUInt64, toNat_eq, UnpackedFloat.ofNat, UnpackedFloat.ofInt,
          UnpackedFloat.normalize, above]
        dsimp only
        rw [Int.toNat_natCast, UnpackedFloat.round, decreaseExponent, targetExponent_eq,
          ← places_eq, Int.zero_sub]
      have stored_eq : stored count.toUInt64.toFloat =
          UnpackedFloat.ofUInt64 Format.binary64 count.toUInt64 :=
        unpack_pack (number_eq ▸ between.canonical within)
      rwa [stored_eq, number_eq]
    rw [ofNat_of_lt short, stored_mul ((between_mul whole factor).canonical within)]
    exact between_mul whole factor
  · have between : Between power (UnpackedFloat.ofScientific Format.binary64 count 0) := by
      rw [ofScientific_eq positive]
      exact between_shift positive bound (by omega)
    rw [ofNat_of_le (by omega)]
    have stored_eq :
        stored (.ofModel (.pack (UnpackedFloat.ofScientific Format.binary64 count 0))) =
          UnpackedFloat.ofScientific Format.binary64 count 0 :=
      unpack_pack (between.canonical within)
    rwa [stored_eq]

/-! ## Counting numbers are not zero -/

/-- A number of full length is not stored as zero, though it may be stored as infinite. -/
theorem unpack_pack_ofParts_ne_zero {mantissa : Nat} {exponent : Int} (sign sign' : Sign)
    (long : 2 ^ 52 ≤ mantissa) (short : mantissa < 2 ^ 53) (lowest : -1074 ≤ exponent) :
    UnpackedFloat.unpack Format.binary64
      (UnpackedFloat.pack Format.binary64 (ofParts sign mantissa exponent)) ≠ .zero sign' := by
  by_cases highest : exponent ≤ 971
  · rw [unpack_pack (canonical_ofParts short lowest highest (Or.inl long)), ofParts,
      dif_neg (by omega)]
    exact UnpackedFloat.noConfusion
  · have beyond : 2 ^ Format.binary64.exponentBits ≤
        (exponent + Format.binary64.exponentBias +
          Format.binary64.mantissaBitsWithoutImplicit).toNat + 1 := by
      have bits : 2 ^ Format.binary64.exponentBits = 2048 := rfl
      have bias : (Format.binary64.exponentBias : Int) = 1023 := rfl
      have places : (Format.binary64.mantissaBitsWithoutImplicit : Int) = 52 := rfl
      rw [bits, bias, places]
      omega
    rw [ofParts, dif_neg (by omega), UnpackedFloat.pack]
    simp only [if_pos beyond]
    rw [packedInfinity, unpack_packComponents, if_pos rfl,
      if_pos (show (0 : BitVec 52) = 0#52 from rfl)]
    exact UnpackedFloat.noConfusion

theorem stored_ofNat_ne_zero {count : Nat} (positive : count ≠ 0) (sign : Sign) :
    stored (Float.ofNat count) ≠ .zero sign := by
  by_cases short : count < 2 ^ 53
  · obtain ⟨mantissa, exponent, filled, stored_eq, -⟩ :=
      between_ofNat positive short.le (show 53 ≤ 1000 by decide)
    rw [stored_eq]
    exact UnpackedFloat.noConfusion
  · have log_eq := log2_shiftLeft positive 53
    have log_ge : 53 ≤ count.log2 := (Nat.le_log2 positive).mpr (by omega)
    have target_eq : target (count <<< 53) (-53) = count.log2 - 52 := by
      simp only [target, log_eq]
      omega
    obtain ⟨places, places_eq⟩ :
        ∃ places : Nat, (places : Int) = target (count <<< 53) (-53) + 53 :=
      ⟨count.log2 + 1, by omega⟩
    have stored_eq : stored (Float.ofNat count) = UnpackedFloat.unpack Format.binary64
        (UnpackedFloat.pack Format.binary64 (settle .positive
          (roundOff (count <<< 53) .exact places) (target (count <<< 53) (-53)))) := by
      have toNat_eq : (target (count <<< 53) (-53) - -53).toNat = places := by omega
      rw [ofNat_of_le (by omega), ofScientific_eq positive, roundWithAccuracy_eq _ _ (by omega),
        toNat_eq]
      rfl
    have filled : count <<< 53 ≠ 0 := by
      rw [Nat.shiftLeft_eq]
      exact Nat.mul_ne_zero positive (by decide)
    have rounded_ge := le_roundOff .exact filled (show places + 52 ≤ (count <<< 53).log2 by omega)
    have rounded_le := roundOff_le (count <<< 53) .exact
      (show (count <<< 53).log2 + 1 ≤ places + 53 by omega)
    rw [stored_eq, settle]
    split
    · exact unpack_pack_ofParts_ne_zero .positive sign (by decide) (by decide) (by omega)
    · exact unpack_pack_ofParts_ne_zero .positive sign rounded_ge (by omega) (by omega)

theorem isZero_natCast {count : Nat} (positive : count ≠ 0) :
    Scalar.isZero (count : Float) = false := by
  have nonzero := stored_ofNat_ne_zero positive
  change (stored (Float.ofNat count)).beq (.zero .positive) = false
  cases number : stored (Float.ofNat count) with
  | zero sign => exact absurd number (nonzero sign)
  | notANumber => rfl
  | infinity sign => cases sign <;> rfl
  | finite sign mantissa exponent filled => cases sign <;> rfl

/-! ## Sums that do not overflow -/

theorem natAbs_apply (sign : Sign) (mantissa : Nat) : (sign.apply mantissa).natAbs = mantissa := by
  cases sign
  · exact Int.natAbs_neg _
  · rfl

/-- A bound stays one when mantissa and bound are shifted alike. -/
theorem shiftLeft_le {mantissa factor : Nat} {limit exponent least : Int} (low : least ≤ exponent)
    (high : exponent ≤ limit) (bound : mantissa ≤ factor * 2 ^ (limit - exponent).toNat) :
    mantissa <<< (exponent - least).toNat ≤ factor * 2 ^ (limit - least).toNat := by
  have room : (limit - least).toNat = (limit - exponent).toNat + (exponent - least).toNat := by
    omega
  rw [Nat.shiftLeft_eq, room, Nat.pow_add, ← Nat.mul_assoc]
  exact Nat.mul_le_mul_right _ bound

/-- A finite number and a small one together do not reach the threshold of overflow. -/
theorem canonical_sum {sum exponent exponent' : Int} {mantissa mantissa' : Nat}
    (high : exponent ≤ 971) (bound : mantissa ≤ (2 ^ 53 - 1) * 2 ^ (971 - exponent).toNat)
    (high' : exponent' ≤ 848) (bound' : mantissa' ≤ 2 ^ (900 - exponent').toNat)
    (sum_le : sum.natAbs ≤ mantissa <<< (exponent - min exponent exponent').toNat +
      mantissa' <<< (exponent' - min exponent exponent').toNat) (zeroSign : Sign) :
    Canonical (UnpackedFloat.normalize Format.binary64 sum (min exponent exponent') zeroSign) := by
  have large_le := shiftLeft_le (Int.min_le_left exponent exponent') high bound
  rw [← Nat.one_mul (2 ^ _)] at bound'
  have small_le := shiftLeft_le (Int.min_le_right exponent exponent') (by omega) bound'
  have low : min exponent exponent' ≤ 848 := by omega
  generalize min exponent exponent' = least at *
  apply canonical_normalize (by omega)
  have room : (971 - least).toNat = (970 - least).toNat + 1 := by omega
  have less : 2 ^ (900 - least).toNat < 2 ^ (970 - least).toNat :=
    Nat.pow_lt_pow_right Nat.one_lt_two (by omega)
  rw [room, Nat.pow_succ] at large_le
  omega

/-- Subtracting a small number from a finite one gives a finite one. -/
theorem canonical_sub {first second : UnpackedFloat} (canonical : Canonical first)
    (between : Between 900 second) :
    Canonical (UnpackedFloat.sub Format.binary64 first second) := by
  obtain ⟨mantissa', exponent', positive', rfl, long', short', above', below', bound'⟩ := between
  cases first with
  | notANumber => cases canonical
  | infinity sign => cases canonical
  | zero sign => exact ⟨short', by omega, by omega, Or.inl long'⟩
  | finite sign mantissa exponent positive =>
      obtain ⟨short, lowest, highest, -⟩ := canonical
      have bound : mantissa ≤ (2 ^ 53 - 1) * 2 ^ (971 - exponent).toNat :=
        (Nat.le_sub_one_of_lt short).trans (Nat.le_mul_of_pos_right _ (Nat.two_pow_pos _))
      refine canonical_sum highest bound (by omega) bound' ?_ _
      have natAbs_le := Int.natAbs_sub_le
        (sign.apply (mantissa <<< (exponent - min exponent exponent').toNat : Nat))
        (Sign.positive.apply (mantissa' <<< (exponent' - min exponent exponent').toNat : Nat))
      rwa [natAbs_apply, natAbs_apply] at natAbs_le

/-- A stored number of at most half the range, whatever its sign. -/
def Half : UnpackedFloat → Prop
  | .notANumber => False
  | .infinity _ => False
  | .zero _ => True
  | .finite _ mantissa exponent _ => exponent ≤ 971 ∧ mantissa ≤ 2 ^ (1023 - exponent).toNat

/-- Adding a small number to one in half the range gives a finite one. -/
theorem canonical_add {first second : UnpackedFloat} (half : Half first)
    (between : Between 900 second) :
    Canonical (UnpackedFloat.add Format.binary64 first second) := by
  obtain ⟨mantissa', exponent', positive', rfl, long', short', above', below', bound'⟩ := between
  cases first with
  | notANumber => cases half
  | infinity sign => cases half
  | zero sign => exact ⟨short', by omega, by omega, Or.inl long'⟩
  | finite sign mantissa exponent positive =>
      obtain ⟨highest, half_bound⟩ := half
      have bound : mantissa ≤ (2 ^ 53 - 1) * 2 ^ (971 - exponent).toNat := by
        rw [show (1023 - exponent).toNat = 52 + (971 - exponent).toNat by omega, Nat.pow_add]
          at half_bound
        exact half_bound.trans (Nat.mul_le_mul_right _ (by decide))
      refine canonical_sum highest bound (by omega) bound' ?_ _
      have natAbs_le := Int.natAbs_add_le
        (sign.apply (mantissa <<< (exponent - min exponent exponent').toNat : Nat))
        (Sign.positive.apply (mantissa' <<< (exponent' - min exponent exponent').toNat : Nat))
      rwa [natAbs_apply, natAbs_apply] at natAbs_le

theorem half_settle {sign : Sign} {rounded : Nat} {exponent : Int} (short : rounded ≤ 2 ^ 53)
    (within : exponent ≤ 970) : Half (settle sign rounded exponent) := by
  rw [settle]
  split
  · rw [ofParts, dif_neg (by decide)]
    exact ⟨by omega, Nat.pow_le_pow_right Nat.two_pos (by omega)⟩
  · rw [ofParts]
    split
    · trivial
    · exact ⟨by omega, short.trans (Nat.pow_le_pow_right Nat.two_pos (by omega))⟩

theorem leadingBit_pos : 0 < 2 ^ 52 :=
  Nat.two_pow_pos 52

/-- The number two. -/
def two : UnpackedFloat :=
  .finite .positive (2 ^ 52) (-51) leadingBit_pos

/-- The exponent from which half of a number is rounded. -/
def halvedExponent (mantissa : Nat) (exponent : Int) : Int :=
  max ((mantissa.log2 : Int) + exponent - 54) (-1074)

/-- The whole part of half of a number at that exponent. -/
def halvedMantissa (mantissa : Nat) (exponent : Int) : Nat :=
  mantissa <<< (exponent + 51 - halvedExponent mantissa exponent).toNat / 2 ^ 52

theorem div_two_eq (sign : Sign) {mantissa : Nat} {exponent : Int} (positive : 0 < mantissa)
    (short : mantissa < 2 ^ 53) (lowest : -1074 ≤ exponent) :
    ∃ accuracy, UnpackedFloat.div Format.binary64 (.finite sign mantissa exponent positive) two =
      roundWithAccuracy Format.binary64 (sign / .positive) (halvedMantissa mantissa exponent)
        (halvedExponent mantissa exponent) accuracy := by
  have log_lt : mantissa.log2 < 53 := (Nat.log2_lt positive.ne').mpr short
  have total_two : totalExponent (2 ^ 52) (-51) = 2 := by decide
  have start_eq : min (exponent + 51) (Format.binary64.targetExponent
      (totalExponent mantissa exponent - totalExponent (2 ^ 52) (-51))) =
      halvedExponent mantissa exponent := by
    have target_eq (total : Int) :
        Format.binary64.targetExponent total = max (total - 53) (-1074) := rfl
    rw [total_two, target_eq, totalExponent, halvedExponent]
    omega
  rw [two, UnpackedFloat.div]
  simp only [divCore, Int.sub_neg, start_eq]
  exact ⟨_, rfl⟩

/-- Half of a number is rounded to an exponent below the greatest one. A long mantissa only gains a
place; the others are small numbers, and they are rounded to the least exponent. -/
theorem target_halved_le {mantissa : Nat} {exponent : Int} (positive : 0 < mantissa)
    (short : mantissa < 2 ^ 53) (highest : exponent ≤ 971)
    (normal : 2 ^ 52 ≤ mantissa ∨ exponent = -1074) :
    halvedExponent mantissa exponent ≤
        target (halvedMantissa mantissa exponent) (halvedExponent mantissa exponent) ∧
      target (halvedMantissa mantissa exponent) (halvedExponent mantissa exponent) ≤ 970 := by
  have log_lt : mantissa.log2 < 53 := (Nat.log2_lt positive.ne').mpr short
  have start_eq : halvedExponent mantissa exponent =
      max ((mantissa.log2 : Int) + exponent - 54) (-1074) := rfl
  by_cases large : 2 ^ 52 ≤ mantissa ∧ -1072 ≤ exponent
  · have log_eq : mantissa.log2 = 52 := by
      have := (Nat.le_log2 positive.ne').mpr large.1
      omega
    have quotient : halvedMantissa mantissa exponent = mantissa <<< 1 := by
      rw [halvedMantissa,
        show (exponent + 51 - halvedExponent mantissa exponent).toNat = 1 + 52 by omega,
        Nat.shiftLeft_add, Nat.shiftLeft_eq _ 52, Nat.mul_div_cancel _ leadingBit_pos]
    have log_double := log2_shiftLeft positive.ne' 1
    rw [quotient]
    simp only [target, log_double]
    omega
  · have start_low : halvedExponent mantissa exponent = -1074 := by omega
    have quotient : halvedMantissa mantissa exponent < 2 ^ 53 := by
      have places : 2 ^ (exponent + 51 - halvedExponent mantissa exponent).toNat ≤ 2 ^ 52 :=
        Nat.pow_le_pow_right Nat.two_pos (by omega)
      have product := Nat.mul_le_mul_left mantissa places
      apply Nat.div_lt_of_lt_mul
      rw [Nat.shiftLeft_eq]
      omega
    have log_le : (halvedMantissa mantissa exponent).log2 ≤ 52 := by
      by_cases zero : halvedMantissa mantissa exponent = 0
      · simp [zero]
      · have := (Nat.log2_lt zero).mpr quotient
        omega
    simp only [target]
    omega

/-- Halving a finite number gives one in half the range. -/
theorem half_div {number : UnpackedFloat} (canonical : Canonical number) :
    Canonical (UnpackedFloat.div Format.binary64 number two) ∧
      Half (UnpackedFloat.div Format.binary64 number two) := by
  cases number with
  | notANumber => cases canonical
  | infinity sign => cases canonical
  | zero sign => exact ⟨trivial, trivial⟩
  | finite sign mantissa exponent positive =>
      obtain ⟨short, lowest, highest, normal⟩ := canonical
      obtain ⟨small, in_range⟩ := target_halved_le positive short highest normal
      obtain ⟨accuracy, divided⟩ := div_two_eq sign positive short lowest
      rw [divided, roundWithAccuracy_eq _ _ small]
      constructor
      · exact canonical_settle (Or.inl in_range) small
      · apply half_settle _ in_range
        apply roundOff_le
        simp only [target] at small ⊢
        omega

/-! ## What the bits say -/

theorem unpackExponent_toNat (bits : BitVec 64) :
    (@unpackExponent Format.binary64 bits).toNat = bits.toNat / 2 ^ 52 % 2 ^ 11 := by
  rw [unpackExponent, BitVec.toNat_cast, BitVec.extractLsb_toNat, Nat.shiftRight_eq_div_pow]
  rfl

theorem unpackMantissa_toNat (bits : BitVec 64) :
    (@unpackMantissa Format.binary64 bits).toNat = bits.toNat % 2 ^ 52 := by
  rw [unpackMantissa, BitVec.toNat_cast, BitVec.extractLsb_toNat, Nat.shiftRight_zero]
  rfl

theorem ofFloat_eq (x : Float) :
    DoubleValue.ofFloat x =
      let negative : Bool := x.toBits.toNat / 2 ^ 63 == 1
      let exponent : Nat := x.toBits.toNat / 2 ^ 52 % 2 ^ 11
      let fraction := x.toBits.toNat % 2 ^ 52
      if exponent = 2047 then if fraction = 0 then .infinite negative else .notANumber
      else if exponent = 0 then .finite negative fraction (-1074)
      else .finite negative (fraction + 2 ^ 52) ((exponent : Int) - 1075) :=
  rfl

/-- A finite double has a value. -/
theorem ofFloat_of_canonical {x : Float} (canonical : Canonical (stored x)) :
    ∃ negative significand exponent,
      DoubleValue.ofFloat x = .finite negative significand exponent := by
  have stored_eq : stored x = UnpackedFloat.unpack Format.binary64 x.toModel.toBits.toBitVec := rfl
  have not_last : x.toBits.toNat / 2 ^ 52 % 2 ^ 11 ≠ 2047 := by
    intro last
    have exponent_last : @unpackExponent Format.binary64 x.toModel.toBits.toBitVec = -1#11 := by
      apply BitVec.eq_of_toNat_eq
      rw [unpackExponent_toNat]
      exact last
    rw [stored_eq, unpack_eq] at canonical
    dsimp only at canonical
    rw [if_pos exponent_last] at canonical
    split at canonical <;> cases canonical
  rw [ofFloat_eq]
  dsimp only
  rw [if_neg not_last]
  split
  · exact ⟨_, _, _, rfl⟩
  · exact ⟨_, _, _, rfl⟩

/-- The significand of a double from one on is not zero. -/
theorem ofFloat_of_between {x : Float} {power : Nat} (between : Between power (stored x))
    (within : power ≤ 1000) : ∃ negative significand exponent,
      DoubleValue.ofFloat x = .finite negative significand exponent ∧ significand ≠ 0 := by
  obtain ⟨negative, significand, exponent, value_eq⟩ :=
    ofFloat_of_canonical (between.canonical within)
  refine ⟨negative, significand, exponent, value_eq, ?_⟩
  rintro rfl
  rw [ofFloat_eq] at value_eq
  dsimp only at value_eq
  split at value_eq
  · split at value_eq <;> cases value_eq
  · split at value_eq
    · rename_i exponent_zero
      have mantissa_zero : x.toBits.toNat % 2 ^ 52 = 0 := (DoubleValue.finite.inj value_eq).2.1
      have stored_eq : stored x =
          UnpackedFloat.unpack Format.binary64 x.toModel.toBits.toBitVec := rfl
      have exponent_first : @unpackExponent Format.binary64 x.toModel.toBits.toBitVec = 0#11 := by
        apply BitVec.eq_of_toNat_eq
        rw [unpackExponent_toNat]
        exact exponent_zero
      have mantissa_first :
          (@unpackMantissa Format.binary64 x.toModel.toBits.toBitVec).toNat = 0 := by
        rw [unpackMantissa_toNat]
        exact mantissa_zero
      rw [stored_eq, unpack_eq] at between
      dsimp only at between
      rw [exponent_first, if_neg (by decide), if_pos rfl, mantissa_first] at between
      obtain ⟨mantissa, exponent, positive, zero_eq, -⟩ := between
      cases zero_eq
    · have := (DoubleValue.finite.inj value_eq).2.1
      omega

/-! ## Doubles as lengths -/

/-- A double between one and a power of two. -/
def Bounded (power : Nat) (x : Float) : Prop :=
  Between power (stored x)

theorem bounded_natCast {count power : Nat} (positive : count ≠ 0) (bound : count ≤ 2 ^ power)
    (within : power ≤ 1000) : Bounded power (count : Float) :=
  between_ofNat positive bound within

theorem Bounded.mono {power more : Nat} {x : Float} (bounded : Bounded power x)
    (within : power ≤ more) : Bounded more x :=
  Between.mono bounded within

theorem Bounded.isFinite {power : Nat} {x : Float} (bounded : Bounded power x)
    (within : power ≤ 1000) : x.isFinite = true :=
  isFinite_of_canonical (bounded.canonical within)

theorem Bounded.add_natCast {power count : Nat} {x : Float} (bounded : Bounded power x)
    (bound : count ≤ 2 ^ power) (within : power < 1000) :
    Bounded (power + 1) (x + (count : Float)) := by
  by_cases zero : count = 0
  · have sum_eq : UnpackedFloat.add Format.binary64 (stored x) (stored ((0 : Nat) : Float)) =
        stored x := by
      obtain ⟨mantissa, exponent, positive, number_eq, -⟩ := bounded
      rw [number_eq]
      rfl
    have canonical := sum_eq ▸ bounded.canonical (by omega)
    rw [zero, Bounded, stored_add canonical, sum_eq]
    exact Between.mono bounded (Nat.le_succ power)
  · have between := between_add bounded (bounded_natCast zero bound (by omega))
    rw [Bounded, stored_add (between.canonical within)]
    exact between

theorem Bounded.natCast_mul {power count power' : Nat} {x : Float} (bounded : Bounded power x)
    (positive : count ≠ 0) (bound : count ≤ 2 ^ power') (within : power' + power ≤ 1000) :
    Bounded (power' + power) ((count : Float) * x) := by
  have between := between_mul (bounded_natCast positive bound (by omega)) bounded
  rw [Bounded, stored_mul (between.canonical within)]
  exact between

/-- A finite double less a small one is finite. -/
theorem isFinite_sub {x y : Float} (finite : x.isFinite = true) (bounded : Bounded 900 y) :
    (x - y).isFinite = true := by
  have canonical := canonical_sub (canonical_stored finite) bounded
  apply isFinite_of_canonical
  rwa [stored_sub canonical]

/-- Half of a finite double plus a small one is finite. -/
theorem isFinite_half_add {x y : Float} (finite : x.isFinite = true) (bounded : Bounded 900 y) :
    (x / ((2 : Nat) : Float) + y).isFinite = true := by
  have two_eq : stored ((2 : Nat) : Float) = two := rfl
  obtain ⟨canonical, half⟩ := half_div (canonical_stored finite)
  rw [← two_eq] at canonical half
  have half_eq := stored_div canonical
  have sum := canonical_add (half_eq ▸ half) bounded
  apply isFinite_of_canonical
  rwa [stored_add sum]

theorem exists_floor_ok {x : Float} (finite : x.isFinite = true) :
    ∃ whole, Scalar.floor x = .ok whole := by
  obtain ⟨negative, significand, exponent, value_eq⟩ :=
    ofFloat_of_canonical (canonical_stored finite)
  have floor_eq : Scalar.floor x = Binary.floor x := rfl
  rw [floor_eq, Binary.floor, value_eq]
  exact ⟨_, rfl⟩

theorem exists_floorQuotient_ok {x y : Float} (finite : x.isFinite = true) {power : Nat}
    (bounded : Bounded power y) (within : power ≤ 1000) :
    ∃ whole, Scalar.floorQuotient x y = .ok whole := by
  obtain ⟨negative, significand, exponent, value_eq⟩ :=
    ofFloat_of_canonical (canonical_stored finite)
  obtain ⟨negative', significand', exponent', value_eq', nonzero⟩ :=
    ofFloat_of_between bounded within
  have quotient_eq : Scalar.floorQuotient x y = Binary.floorQuotient x y := rfl
  rw [quotient_eq, Binary.floorQuotient, value_eq, value_eq']
  dsimp only
  rw [if_neg nonzero]
  exact ⟨_, rfl⟩

end Double
end ClusterDiagram
