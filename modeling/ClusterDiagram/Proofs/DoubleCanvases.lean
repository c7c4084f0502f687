import ClusterDiagram.Proofs.DoubleBounds
import ClusterDiagram.Proofs.FirstPlaces
import ClusterDiagram.Proofs.PackedLayout

/-!
# Layouts in reach of doubles

On canvases up to `2 ^ 40` units wide and high doubles hold all numbers of a layout, when there are
at most `3 * 2 ^ 20` clusters and nodes.
-/

namespace ClusterDiagram

open HeldNumbers

theorem fits_double {bound : ℚ} (below : bound < 2 ^ 52) : Fits Float bound := by
  rintro q ⟨units, rfl⟩ within
  refine ⟨units, rfl, ?_⟩
  have units_lt : ((|units| : ℤ) : ℚ) < ((2 ^ 53 : ℤ) : ℚ) := by
    rw [abs_div, abs_two] at within
    push_cast
    linarith
  exact_mod_cast units_lt

namespace Double

open Float.Model Float.Model.UnpackedFloat

/-- A double that holds a positive whole number is bounded. -/
theorem bounded_of_holds {x : Float} {count : ℕ} (positive : count ≠ 0)
    (held : Double.Holds x (count : ℚ)) (halves : InHalves (count : ℚ)) : Bounded 900 x := by
  obtain ⟨canonical, value_eq⟩ := held
  have at_least_one : (1 : ℚ) ≤ value (stored x) := by
    rw [value_eq]
    exact_mod_cast Nat.one_le_iff_ne_zero.mpr positive
  rw [← value_eq] at halves
  rw [Bounded]
  cases number : stored x with
  | notANumber =>
      rw [number] at canonical
      cases canonical
  | infinity sign =>
      rw [number] at canonical
      cases canonical
  | zero sign =>
      rw [number] at at_least_one
      norm_num [value] at at_least_one
  | finite sign mantissa exponent filled =>
      rw [number] at canonical halves at_least_one
      obtain ⟨long, -, highest⟩ := long_of_inHalves canonical halves
      obtain ⟨short, -⟩ := canonical
      cases sign with
      | negative =>
          have nonpos := signed_negative mantissa exponent
          exact absurd (at_least_one.trans nonpos) (by norm_num)
      | positive =>
          have scaled : (2 : ℚ) ^ (0 : ℤ) < 2 ^ (53 + exponent) := by
            rw [zpow_zero, zpow_add₀ two_ne_zero]
            rw [value_positive] at at_least_one
            refine at_least_one.trans_lt (mul_lt_mul_of_pos_right ?_ (zpow_pos two_pos exponent))
            exact_mod_cast short
          have lowest := (zpow_lt_zpow_iff_right₀ one_lt_two).mp scaled
          refine ⟨mantissa, exponent, filled, rfl, long, short, by omega, by omega, ?_⟩
          exact short.le.trans (Nat.pow_le_pow_right Nat.two_pos (by omega))

theorem holds_value {x : Float} (finite : x.isFinite = true) : Double.Holds x (value (stored x)) :=
  ⟨canonical_stored finite, rfl⟩

/-- What is left of a canvas on one side of a grid keeps in reach. -/
theorem value_margin_le {x y : Float} (finite : x.isFinite = true)
    (moderate : value (stored x) ≤ 2 ^ 40) (bounded : Bounded 900 y)
    (nonneg : 0 ≤ value (stored y)) :
    value (stored ((x - y) / ((2 : ℕ) : Float) + ((20 : ℕ) : Float))) ≤ 2 ^ 44 := by
  have two_eq : stored ((2 : ℕ) : Float) = two := rfl
  have twenty : Double.Holds ((20 : ℕ) : Float) ((20 : ℕ) : ℚ) :=
    (fits_double (show (20 : ℚ) < 2 ^ 52 by norm_num)).natCast (by norm_num)
  have canonical := canonical_sub (canonical_stored finite) bounded
  have difference_le : value (stored (x - y)) ≤ 2 ^ 41 := by
    rw [stored_sub canonical]
    apply value_sub_le (canonical_stored finite) (bounded.canonical (by decide))
    linarith
  rw [← stored_sub canonical] at canonical
  have half_le := value_half_le canonical difference_le
  obtain ⟨canonical_half, half⟩ := half_div canonical
  rw [← two_eq] at half_le canonical_half half
  rw [← stored_div canonical_half] at half_le half canonical_half
  have bounded_twenty : Bounded 900 ((20 : ℕ) : Float) :=
    Layout.bounded_constant (by decide) (by decide)
  rw [stored_add (canonical_add half bounded_twenty)]
  apply value_add_le canonical_half (bounded_twenty.canonical (by decide))
  have small : ((20 : ℕ) : ℚ) ≤ 2 ^ 42 := by norm_num
  rw [twenty.2]
  linarith

end Double

section Doubles

variable {extent : Float} (finite : extent.isFinite = true)
  (moderate : extent ≤ ((2 ^ 40 : ℕ) : Float))

include finite moderate

theorem Double.value_le_of_le : value (stored extent) ≤ 2 ^ 40 := by
  have limit : Double.Holds ((2 ^ 40 : ℕ) : Float) ((2 ^ 40 : ℕ) : ℚ) :=
    (fits_double (show (2 ^ 50 : ℚ) < 2 ^ 52 by norm_num)).natCast (by norm_num)
  have le := (le_iff_of_holds (holds_value finite) limit).mp moderate
  rwa [Nat.cast_pow, Nat.cast_ofNat] at le

/-- Without clusters nodes are placed in reach of doubles. -/
theorem Placement.reaches_double {count : ℕ} (few : count ≤ 2 ^ 44) :
    Reaches extent count (2 ^ 50) where
  fits := fits_double (by norm_num)
  slots := by norm_num
  columns := by
    intro columns counted
    have within := Double.value_le_of_le finite moderate
    have le := Double.columns_le (show _ ≤ ((2 ^ 40 : ℕ) : ℚ) by exact_mod_cast within) counted
    omega
  overflow := by omega

/-- The grid begins in reach of doubles. -/
theorem Layout.origin_double_le {parts units : ℕ} (some_part : parts ≠ 0) (some_unit : units ≠ 0)
    (below : parts * units < 2 ^ 52) {size : Float} (size_held : Holds size (units : ℚ))
    {start : ℕ} (done : origin parts size extent = .ok (start : ℤ)) : start ≤ 2 ^ 44 := by
  obtain ⟨whole, whole_eq, start_eq⟩ := ok_of_bind done
  have parts_le : parts ≤ parts * units := Nat.le_mul_of_pos_right _ (Nat.pos_of_ne_zero some_unit)
  have fits := fits_double (show ((parts * units : ℕ) : ℚ) < 2 ^ 52 by exact_mod_cast below)
  have held {count : ℕ} (le : count ≤ parts * units) : Held Float (count : ℚ) :=
    fits _ (isHalf_natCast count)
      ((abs_of_nonneg (Nat.cast_nonneg count)).trans_le (Nat.cast_le.mpr le))
  have taken_held := mul (fits.natCast (Nat.cast_le.mpr parts_le)) size_held (held parts_le)
    (by rw [← Nat.cast_mul]; exact held le_rfl)
  rw [← Nat.cast_mul] at taken_held
  have taken := Double.bounded_of_holds (Nat.mul_ne_zero some_part some_unit) taken_held
    (held le_rfl)
  have margin_le := Double.value_margin_le finite (Double.value_le_of_le finite moderate) taken
    (by rw [taken_held.2]; exact Nat.cast_nonneg _)
  have whole_le := Double.floor_le (show _ ≤ ((2 ^ 44 : ℕ) : ℚ) by exact_mod_cast margin_le)
    whole_eq
  have start_eq : max 20 whole = (start : ℤ) := Except.ok.inj start_eq
  omega

/-- The cells of moderate extent are in reach of doubles. -/
theorem Layout.reaches_double {count units : ℕ} (few : count ≤ 3 * 2 ^ 20) (some_unit : units ≠ 0)
    (units_le : units ≤ 324 + 120 * (3 * 2 ^ 20)) {slack : ℚ} (slack_le : slack ≤ 2 ^ 40) :
    Reaches extent count units slack := by
  constructor
  · apply fits_double
    exact_mod_cast units_le.trans_lt (by norm_num)
  · intro parts parts_le some_part size start size_held done
    have product_le : (parts + 1) * units ≤ (3 * 2 ^ 20 + 1) * (324 + 120 * (3 * 2 ^ 20)) :=
      Nat.mul_le_mul (Nat.succ_le_succ (parts_le.trans few)) units_le
    have below : parts * units < 2 ^ 52 := by
      rw [Nat.succ_mul] at product_le
      omega
    have start_le := origin_double_le finite moderate some_part some_unit below size_held done
    apply fits_double
    have total_le : start + (parts + 1) * units ≤ 2 ^ 51 := by omega
    have total_cast : ((start + (parts + 1) * units : ℕ) : ℚ) ≤ 2 ^ 51 := by
      exact_mod_cast total_le
    linarith

end Doubles

namespace Layout

/-! ## Extents -/

theorem extent_le {empty least : ℕ} (empty_le : empty ≤ 180) (least_le : least ≤ 120)
    (members depth : ℕ) {count : ℕ} (count_le : members ≠ 0 → count ≤ members) :
    extent empty least count members depth ≤ 180 + 120 * members + 24 * depth := by
  rw [extent]
  split
  · omega
  · rename_i filled
    have row_le : Nat.max least ((count - 1) * Merge.memberStep + 36 + 36) ≤
        180 + 120 * members := by
      apply Nat.max_le.mpr
      have := count_le filled
      rw [Merge.memberStep]
      omega
    omega

theorem cellExtent_le {α : Type} {clusters : List (Cluster α)} {extentOf : String → ℕ} {bound : ℕ}
    (within : ∀ id, extentOf id ≤ bound) : cellExtent clusters extentOf ≤ bound + 120 := by
  rw [cellExtent]
  apply Nat.add_le_add_right
  induction clusters with
  | nil => exact Nat.zero_le bound
  | cons cluster clusters induction => exact Nat.max_le.mpr ⟨within cluster.id, induction⟩

/-- Few clusters and nodes have cells of moderate extent. -/
theorem cellExtents_le {α : Type} {clusters : List (Cluster α)} {nodes : List (Node α)} {count : ℕ}
    (few : clusters.length + nodes.length ≤ count) :
    cellExtent clusters (widthOf clusters nodes) ≤ 324 + 120 * count ∧
      cellExtent clusters (heightOf clusters nodes) ≤ 324 + 120 * count := by
  have members_le (id : String) : (membersOf nodes id).length ≤ nodes.length :=
    List.length_filter_le _ _
  have depth_le := ClusterTree.depth_le clusters
  have limit_eq : 204 + 120 * count + 120 = 324 + 120 * count := by omega
  rw [← limit_eq]
  constructor <;> apply cellExtent_le <;> intro id
  · have wide := extent_le (show Placement.emptyWidth ≤ 180 by decide) (show 120 ≤ 120 by decide)
      (membersOf nodes id).length (ClusterTree.depth (ClusterTree.parents clusters) id)
      fun filled => (packShape_le filled).1
    have := members_le id
    have := depth_le id
    rw [widthOf]
    omega
  · have high := extent_le (show Placement.emptyHeight ≤ 180 by decide) (show 80 ≤ 120 by decide)
      (membersOf nodes id).length (ClusterTree.depth (ClusterTree.parents clusters) id)
      fun filled => (packShape_le filled).2
    have := members_le id
    have := depth_le id
    rw [heightOf]
    omega

end Layout
end ClusterDiagram
