import ClusterDiagram.Proofs.ExactScalars

/-!
# Scalars that hold numbers

Rounding does no harm to whole and half units of moderate size. A scalar may hold a rational number;
the numbers that can be held are added, subtracted, multiplied, halved and compared as such, as long
as the results can be held too. Over rational numbers every number is held.
-/

namespace ClusterDiagram

/-- Scalars some of which hold rational numbers, with operations that are not rounded when their
results can be held. -/
class HeldNumbers (α : Type) [Scalar α] where
  /-- Whether a number can be held. -/
  Held : ℚ → Prop
  /-- Whether a scalar holds a number. -/
  Holds : α → ℚ → Prop
  held_sub {p q : ℚ} : Held p → Held q → 0 ≤ p → 0 ≤ q → Held (p - q)
  natCast {n : ℕ} : Held n → Holds (n : α) n
  intCast_natCast (n : ℕ) : ((n : ℤ) : α) = (n : α)
  add {a b : α} {p q : ℚ} : Holds a p → Holds b q → Held (p + q) → Holds (a + b) (p + q)
  sub {a b : α} {p q : ℚ} : Holds a p → Holds b q → Held (p - q) → Holds (a - b) (p - q)
  mul {a b : α} {p q : ℚ} : Holds a p → Holds b q → Held p → Held (p * q) →
    Holds (a * b) (p * q)
  half {a : α} {p : ℚ} : Holds a p → Held p → Holds (a / ((2 : ℕ) : α)) (p / 2)
  whole {a : α} {p : ℚ} : Holds a p → Held p → Holds (a / ((1 : ℕ) : α)) p
  lt_iff {a b : α} {p q : ℚ} : Holds a p → Holds b q → (a < b ↔ p < q)
  le_iff {a b : α} {p q : ℚ} : Holds a p → Holds b q → (a ≤ b ↔ p ≤ q)
  beq_iff {a b : α} {p q : ℚ} : Holds a p → Holds b q → ((a == b) = true ↔ p = q)
  isInfinite {a : α} {p : ℚ} : Holds a p → Scalar.isInfinite a = false

instance [Lengths] : HeldNumbers ℚ where
  Held _ := True
  Holds := Eq
  held_sub _ _ _ _ := trivial
  natCast _ := rfl
  intCast_natCast n := Int.cast_natCast n
  add := by rintro _ _ _ _ rfl rfl -; rfl
  sub := by rintro _ _ _ _ rfl rfl -; rfl
  mul := by rintro _ _ _ _ rfl rfl - -; rfl
  half := by rintro _ _ rfl -; rfl
  whole := by rintro _ _ rfl -; exact div_one _
  lt_iff := by rintro _ _ _ _ rfl rfl; rfl
  le_iff := by rintro _ _ _ _ rfl rfl; rfl
  beq_iff := by rintro _ _ _ _ rfl rfl; exact beq_iff_eq
  isInfinite _ := rfl

/-- A whole number of half units. -/
def IsHalf (q : ℚ) : Prop :=
  ∃ units : ℤ, q = units / 2

theorem isHalf_natCast (count : ℕ) : IsHalf count :=
  ⟨2 * count, by push_cast; ring⟩

theorem isHalf_half (count : ℕ) : IsHalf (count / 2) :=
  ⟨count, rfl⟩

theorem IsHalf.add {p q : ℚ} (first : IsHalf p) (second : IsHalf q) : IsHalf (p + q) := by
  obtain ⟨units, rfl⟩ := first
  obtain ⟨units', rfl⟩ := second
  exact ⟨units + units', by push_cast; ring⟩

theorem IsHalf.sub {p q : ℚ} (first : IsHalf p) (second : IsHalf q) : IsHalf (p - q) := by
  obtain ⟨units, rfl⟩ := first
  obtain ⟨units', rfl⟩ := second
  exact ⟨units - units', by push_cast; ring⟩

theorem IsHalf.mul_natCast {p : ℚ} (half : IsHalf p) (count : ℕ) : IsHalf (p * count) := by
  obtain ⟨units, rfl⟩ := half
  exact ⟨units * count, by push_cast; ring⟩

theorem IsHalf.min {p q : ℚ} (first : IsHalf p) (second : IsHalf q) : IsHalf (min p q) := by
  rcases min_choice p q with same | same <;> rw [same] <;> assumption

theorem IsHalf.max {p q : ℚ} (first : IsHalf p) (second : IsHalf q) : IsHalf (max p q) := by
  rcases max_choice p q with same | same <;> rw [same] <;> assumption

section Fitting

open HeldNumbers

variable {α : Type} [Scalar α] [HeldNumbers α]

/-- A scalar holds one number at most. -/
theorem eq_of_holds {a : α} {p q : ℚ} (first : Holds a p) (second : Holds a q) : p = q :=
  (beq_iff first second).mp ((beq_iff first first).mpr rfl)

open Classical in
/-- The number that a scalar holds, zero if it holds none. -/
noncomputable def number (a : α) : ℚ :=
  if held : ∃ q, Holds a q then held.choose else 0

theorem number_eq {a : α} {q : ℚ} (held : Holds a q) : number a = q := by
  have some_number : ∃ q, Holds a q := ⟨q, held⟩
  rw [number, dif_pos some_number]
  exact eq_of_holds some_number.choose_spec held

theorem holds_number {a : α} {q : ℚ} (held : Holds a q) : Holds a (number a) :=
  (number_eq held).symm ▸ held

variable (α) in
/-- Whether all half units up to a bound can be held. -/
def Fits (bound : ℚ) : Prop :=
  ∀ q : ℚ, IsHalf q → |q| ≤ bound → Held α q

theorem fits_rational [Lengths] (bound : ℚ) : Fits ℚ bound :=
  fun _ _ _ => trivial

theorem Fits.mono {bound less : ℚ} (fits : Fits α bound) (le : less ≤ bound) : Fits α less :=
  fun q half within => fits q half (within.trans le)

theorem Fits.max {bound other : ℚ} (first : Fits α bound) (second : Fits α other) :
    Fits α (max bound other) := by
  rcases max_choice bound other with same | same <;> rw [same] <;> assumption

theorem Fits.natCast {bound : ℚ} (fits : Fits α bound) {count : ℕ} (within : (count : ℚ) ≤ bound) :
    Holds (count : α) count :=
  HeldNumbers.natCast
    (fits count (isHalf_natCast count) ((abs_of_nonneg (Nat.cast_nonneg count)).trans_le within))

theorem holds_max {a b : α} {p q : ℚ} (first : Holds a p) (second : Holds b q) :
    Holds (Scalar.max a b) (max p q) := by
  rw [Scalar.max]
  split
  · rename_i less
    rwa [max_eq_right ((lt_iff first second).mp less).le]
  · rename_i not_less
    rwa [max_eq_left (not_lt.mp fun less => not_less ((lt_iff first second).mpr less))]

theorem holds_min {a b : α} {p q : ℚ} (first : Holds a p) (second : Holds b q) :
    Holds (Scalar.min a b) (min p q) := by
  rw [Scalar.min]
  split
  · rename_i less
    rwa [min_eq_right ((lt_iff second first).mp less).le]
  · rename_i not_less
    rwa [min_eq_left (not_lt.mp fun less => not_less ((lt_iff second first).mpr less))]

end Fitting

end ClusterDiagram
