import Mathlib
import ClusterDiagram.Proofs.RouteEnds

/-!
# The search for detours is exhaustive

Among the detours of a pair of points the search returns the first polyline that is clear once they
are sorted by length, and among the pairs it skips those that lie too far apart. Where lengths are
compared as in a linear order this finds what a plain search finds: for every pair the first of its
shortest clear polylines of the first kind that has one, and of all pairs the first one whose
polyline is shortest.
-/

namespace ClusterDiagram

/-- Scalars that are compared as in a linear order, none of them being infinite. -/
class Scalar.Exact (α : Type) [Scalar α] : Prop where
  /-- Every scalar is at most itself. -/
  le_refl (a : α) : a ≤ a
  /-- Comparison is transitive. -/
  le_trans (a b c : α) : a ≤ b → b ≤ c → a ≤ c
  /-- Scalars that are at most each other are equal. -/
  le_antisymm (a b : α) : a ≤ b → b ≤ a → a = b
  /-- Any two scalars can be compared. -/
  le_total (a b : α) : a ≤ b ∨ b ≤ a
  /-- Strict comparison excludes the other direction. -/
  lt_iff_le_not_ge (a b : α) : a < b ↔ a ≤ b ∧ ¬ b ≤ a
  /-- Every scalar equals itself. -/
  beq_self (a : α) : (a == a) = true
  /-- No scalar is infinite. -/
  isInfinite_eq_false (a : α) : Scalar.isInfinite a = false

instance [Lengths] : Scalar.Exact ℚ where
  le_refl := le_refl
  le_trans _ _ _ := le_trans
  le_antisymm _ _ := le_antisymm
  le_total := le_total
  lt_iff_le_not_ge _ _ := lt_iff_le_not_ge
  beq_self := beq_self_eq_true
  isInfinite_eq_false _ := rfl

variable {α : Type} [Scalar α]

namespace Routing

/-! ## Strategies -/

theorem strategy_of_detour? {obstacles : List (Obstacle α)} {p₁ p₂ : Point α}
    {path : List (Point α)} {strategy : Strategy}
    (found : detour? obstacles p₁ p₂ = some (path, strategy)) :
    strategy ≠ .grid ∧ strategy ≠ .direct := by
  obtain ⟨-, tier, tier_mem, rfl, -⟩ := exists_candidate_of_detour? found
  simp only [tiers, List.mem_cons, List.not_mem_nil, or_false] at tier_mem
  rcases tier_mem with rfl | rfl | rfl | rfl <;> exact ⟨Strategy.noConfusion, Strategy.noConfusion⟩

section Blocked

variable {source target : Node α} {nodes : List (Node α)} {style : EdgeStyle}
  (apart : source.id ≠ target.id)
  (blocked : isClear [(endpoints source target style).1, (endpoints source target style).2]
    (obstaclesOf nodes source.id target.id) = false)

include apart blocked

/-- Where the straight line is blocked the best detour is returned. -/
theorem routeEdge_of_foldl_improve {best : Candidate α}
    (found : (allPairs (attachments source target (style.startRadius : α))
        (attachments target source (style.endRadius : α))).foldl
          (improve (obstaclesOf nodes source.id target.id)) none = some best) :
    routeEdge source target nodes style = .ok ⟨best.path, true, best.strategy⟩ := by
  unfold routeEdge wayAround
  dsimp only
  rw [if_neg apart, if_neg (Bool.eq_false_iff.mp blocked), found]
  rfl

/-- Without any detour the grid decides. -/
theorem strategy_of_foldl_improve_eq_none
    (none_found : (allPairs (attachments source target (style.startRadius : α))
        (attachments target source (style.endRadius : α))).foldl
          (improve (obstaclesOf nodes source.id target.id)) none = none)
    {route : Route α} (done : routeEdge source target nodes style = .ok route) :
    route.strategy = .grid ∨ route.strategy = .direct := by
  unfold routeEdge wayAround at done
  dsimp only at done
  rw [if_neg apart, if_neg (Bool.eq_false_iff.mp blocked), none_found] at done
  obtain ⟨best, best_found, done⟩ := ok_of_bind done
  cases best with
  | none =>
      cases done
      exact Or.inr rfl
  | some best =>
      cases done
      exact Or.inl (of_foldlM_improveByGrid (motive := fun best => best.strategy = .grid)
        (fun _ _ _ _ _ => rfl) best_found)

end Blocked

end Routing

variable [Scalar.Exact α]

/-- The order in which exact scalars are compared. -/
instance (priority := low) Scalar.Exact.toLinearOrder : LinearOrder α where
  le_refl := le_refl
  le_trans := le_trans
  le_antisymm := le_antisymm
  le_total := le_total
  lt_iff_le_not_ge := lt_iff_le_not_ge
  toDecidableLE := Scalar.decideLE
  toDecidableLT := Scalar.decideLT

theorem Scalar.isBelow_none (a : α) : Scalar.isBelow none a = true := by
  rw [Scalar.isBelow, Exact.isInfinite_eq_false, Exact.beq_self]
  rfl

namespace Routing

/-! ## The first of the least -/

section

variable {β γ : Type}

/-- What comes before the first element of least value has greater values. -/
theorem exists_split_of_argmin {f : β → α} {elements : List β} {least : β}
    (found : elements.argmin f = some least) :
    ∃ front back, elements = front ++ least :: back ∧ (∀ before ∈ front, f least < f before) ∧
      ∀ after ∈ back, f least ≤ f after := by
  induction elements with
  | nil => cases found
  | cons first rest induction =>
      rw [List.argmin_cons] at found
      cases rest_found : rest.argmin f with
      | none =>
          rw [rest_found] at found
          obtain rfl := Option.some.inj found
          rw [List.argmin_eq_none.mp rest_found]
          exact ⟨[], [], rfl, by simp, by simp⟩
      | some other =>
          rw [rest_found] at found
          by_cases less : f other < f first
          · obtain rfl : other = least := Option.some.inj ((if_pos less).symm.trans found)
            obtain ⟨front, back, rfl, greater, least_back⟩ := induction rest_found
            exact ⟨first :: front, back, rfl, List.forall_mem_cons.mpr ⟨less, greater⟩, least_back⟩
          · obtain rfl : first = least := Option.some.inj ((if_neg less).symm.trans found)
            exact ⟨[], rest, rfl, by simp, fun after after_mem =>
              (not_lt.mp less).trans (List.le_of_mem_argmin after_mem rest_found)⟩

/-- The same where only some elements have a value. -/
theorem exists_split_of_argmin_filterMap {f : γ → α} {offer? : β → Option γ} {elements : List β}
    {least : γ} (found : (elements.filterMap offer?).argmin f = some least) :
    ∃ front element back, elements = front ++ element :: back ∧ offer? element = some least ∧
      (∀ before ∈ front, ∀ offer, offer? before = some offer → f least < f offer) ∧
        ∀ after ∈ back, ∀ offer, offer? after = some offer → f least ≤ f offer := by
  obtain ⟨frontOffers, backOffers, split, greater, least_back⟩ := exists_split_of_argmin found
  obtain ⟨front, rest, rfl, rfl, rest_eq⟩ := List.filterMap_eq_append_iff.mp split
  obtain ⟨silent, element, back, rfl, none_offered, offered, rfl⟩ :=
    List.filterMap_eq_cons_iff.mp rest_eq
  refine ⟨front ++ silent, element, back, by simp, offered, ?_, ?_⟩
  · intro before before_mem offer before_offered
    rcases List.mem_append.mp before_mem with front_mem | silent_mem
    · exact greater offer (List.mem_filterMap.mpr ⟨before, front_mem, before_offered⟩)
    · cases (none_offered before silent_mem).symm.trans before_offered
  · intro after after_mem offer after_offered
    exact least_back offer (List.mem_filterMap.mpr ⟨after, after_mem, after_offered⟩)

/-- The first element with a property in the sorted list is the first one of least value among those
with the property. -/
theorem find?_mergeSort (f : β → α) (property : β → Bool) (elements : List β) :
    (elements.mergeSort fun a b => !decide (f b < f a)).find? property =
      (elements.filter property).argmin f := by
  have transitive : ∀ a b c : β, (!decide (f b < f a)) = true → (!decide (f c < f b)) = true →
      (!decide (f c < f a)) = true := by
    simp only [Bool.not_eq_true', decide_eq_false_iff_not, not_lt]
    exact fun _ _ _ => le_trans
  have total : ∀ a b : β, (!decide (f b < f a) || !decide (f a < f b)) = true := by
    simp only [Bool.or_eq_true, Bool.not_eq_true', decide_eq_false_iff_not, not_lt]
    exact fun _ _ => le_total _ _
  induction elements with
  | nil => simp
  | cons first rest induction =>
      -- Sorting puts the first element after exactly those of the others that are smaller.
      obtain ⟨front, back, sorted, rest_sorted, smaller⟩ :=
        List.mergeSort_cons transitive total first rest
      have ordered := List.pairwise_mergeSort transitive total (first :: rest)
      rw [sorted] at ordered
      have least_back := (List.pairwise_cons.mp (List.pairwise_append.mp ordered).2.1).1
      simp only [Bool.not_eq_true', Bool.not_not, decide_eq_true_eq, decide_eq_false_iff_not]
        at smaller least_back
      rw [rest_sorted, List.find?_append] at induction
      rw [sorted, List.find?_append, List.find?_cons]
      cases kept : property first with
      | false => rw [List.filter_cons_of_neg (Bool.eq_false_iff.mp kept), ← induction]
      | true =>
          rw [List.filter_cons_of_pos kept, List.argmin_cons, ← induction]
          cases front_found : front.find? property with
          | some other =>
              exact (if_pos (smaller other (List.mem_of_find?_eq_some front_found))).symm
          | none =>
              cases back_found : back.find? property with
              | some other =>
                  exact (if_neg (least_back other (List.mem_of_find?_eq_some back_found))).symm
              | none => rfl

end

/-! ## One pair of points -/

theorem shortestClear?_eq_argmin (candidates : List (List (Point α)))
    (obstacles : List (Obstacle α)) :
    shortestClear? candidates obstacles =
      ((candidates.map dedupe).filter (isClear · obstacles)).argmin pathLength := by
  let measured (path : List (Point α)) : α × List (Point α) := (pathLength path, path)
  have sorted : ((candidates.map dedupe).mergeSort
      fun a b => !decide (pathLength b < pathLength a)).map measured =
        ((candidates.map dedupe).map measured).mergeSort fun a b => !decide (b.1 < a.1) :=
    List.map_mergeSort fun _ _ _ _ => rfl
  rw [List.map_map] at sorted
  rw [← find?_mergeSort]
  change ((List.mergeSort (candidates.map (measured ∘ dedupe)) _).find? _).map _ = _
  rw [← sorted, List.find?_map, Option.map_map]
  exact Option.map_id'

/-- What a pair of points offers, found by looking at every polyline: the first of the shortest
clear ones of the first kind that has one. -/
def plainDetour? (obstacles : List (Obstacle α)) (p₁ p₂ : Point α) :
    Option (List (Point α) × Strategy) :=
  tiers.findSome? fun tier =>
    ((((tier.2 p₁ p₂).map dedupe).filter (isClear · obstacles)).argmin pathLength).map
      fun path => (path, tier.1)

theorem detour?_eq_plainDetour? (obstacles : List (Obstacle α)) (p₁ p₂ : Point α) :
    detour? obstacles p₁ p₂ = plainDetour? obstacles p₁ p₂ := by
  simp only [detour?, plainDetour?, shortestClear?_eq_argmin]

/-- Whether some polyline between a pair of points is clear. -/
def Passable (obstacles : List (Obstacle α)) (pair : Point α × Point α) : Prop :=
  ∃ tier ∈ tiers, ∃ candidate ∈ tier.2 pair.1 pair.2, isClear (dedupe candidate) obstacles = true

theorem isSome_detour?_iff {obstacles : List (Obstacle α)} {pair : Point α × Point α} :
    (detour? obstacles pair.1 pair.2).isSome ↔ Passable obstacles pair := by
  simp only [detour?, shortestClear?_eq_argmin, List.isSome_findSome?, List.any_eq_true,
    Option.isSome_map, ← Option.ne_none_iff_isSome, ne_eq, List.argmin_eq_none, Passable,
    List.filter_eq_nil_iff, List.forall_mem_map, not_forall, Decidable.not_not, exists_prop]

/-! ## All pairs of points -/

/-- The better of the best route so far and the detour of a pair of points, whatever their
distance. -/
def improveByAny (obstacles : List (Obstacle α)) (best : Option (Candidate α))
    (pair : Point α × Point α) : Option (Candidate α) :=
  match detour? obstacles pair.1 pair.2 with
  | none => best
  | some (path, strategy) =>
      let length := pathLength path
      if Scalar.isBelow (best.map (·.length)) length then some ⟨path, length, strategy⟩ else best

/-- Skipping a pair of points whose detour is at least as long as their distance changes nothing. -/
theorem improve_eq_improveByAny {obstacles : List (Obstacle α)} {pair : Point α × Point α}
    (longer : ∀ path strategy, detour? obstacles pair.1 pair.2 = some (path, strategy) →
      distance pair.1 pair.2 ≤ pathLength path) (best : Option (Candidate α)) :
    improve obstacles best pair = improveByAny obstacles best pair := by
  unfold improve improveByAny
  extract_lets chord hopeless
  split
  · rename_i skipped
    cases best with
    | none => cases skipped.symm.trans (Scalar.Exact.isInfinite_eq_false chord)
    | some best =>
        cases offered : detour? obstacles pair.1 pair.2 with
        | none => rfl
        | some offer =>
            have bounded : best.length ≤ chord := of_decide_eq_true skipped
            have above := bounded.trans (longer offer.1 offer.2 offered)
            exact (if_neg (not_lt.mpr above ∘ of_decide_eq_true)).symm
  · rfl

/-- A detour with its length. -/
def measure (offer : List (Point α) × Strategy) : Candidate α :=
  ⟨offer.1, pathLength offer.1, offer.2⟩

/-- Without skipping, the best route is the first one of the shortest detours. -/
theorem foldl_improveByAny (obstacles : List (Obstacle α)) (pairs : List (Point α × Point α)) :
    pairs.foldl (improveByAny obstacles) none =
      ((pairs.filterMap fun pair => detour? obstacles pair.1 pair.2).argmin
        fun offer => pathLength offer.1).map measure := by
  induction pairs using List.reverseRecOn with
  | nil => rfl
  | append_singleton pairs pair induction =>
      rw [List.foldl_append, List.foldl_cons, List.foldl_nil, induction, List.filterMap_append,
        List.filterMap_cons, List.filterMap_nil]
      unfold improveByAny
      cases detour? obstacles pair.1 pair.2 with
      | none => rw [List.append_nil]
      | some offer =>
          rw [List.argmin_concat]
          cases (pairs.filterMap fun pair => detour? obstacles pair.1 pair.2).argmin
            fun offer => pathLength offer.1 with
          | none => exact if_pos (Scalar.isBelow_none _)
          | some best =>
              simp only [Option.map_some, Scalar.isBelow, decide_eq_true_eq, measure]
              split <;> rfl

/-- With skipping it is the same one. -/
theorem foldl_improve_eq {obstacles : List (Obstacle α)} {pairs : List (Point α × Point α)}
    (longer : ∀ pair ∈ pairs, ∀ path strategy,
      detour? obstacles pair.1 pair.2 = some (path, strategy) →
        distance pair.1 pair.2 ≤ pathLength path) (best : Option (Candidate α)) :
    pairs.foldl (improve obstacles) best = pairs.foldl (improveByAny obstacles) best :=
  List.foldl_ext _ _ best fun best pair pair_mem =>
    improve_eq_improveByAny (longer pair pair_mem) best

/-! ## Lengths of polylines -/

section

variable [Lengths]

theorem pathLength_cons_cons (p q : Point ℚ) (path : List (Point ℚ)) :
    pathLength (p :: q :: path) = distance p q + pathLength (q :: path) := by
  have sum_eq (terms : List ℚ) : Scalar.sum terms = terms.sum := by
    rw [List.sum_eq_foldl]
    rfl
  rw [pathLength, pathLength, sum_eq, sum_eq]
  exact List.sum_cons

/-- Where lengths satisfy the triangle inequality no polyline is shorter than the distance of its
ends. -/
theorem distance_le_pathLength (zero : Lengths.hypot 0 0 = 0)
    (triangle : ∀ x y x' y',
      Lengths.hypot (x + x') (y + y') ≤ Lengths.hypot x y + Lengths.hypot x' y')
    {p goal : Point ℚ} {path : List (Point ℚ)} (last : (p :: path).getLast? = some goal) :
    distance p goal ≤ pathLength (p :: path) := by
  induction path generalizing p with
  | nil =>
      obtain rfl : p = goal := Option.some.inj last
      have same : distance p p = 0 := by
        unfold distance
        rw [sub_self, sub_self]
        exact zero
      exact same.le
  | cons q path induction =>
      rw [List.getLast?_cons_cons] at last
      have legs : distance p goal ≤ distance p q + distance q goal := by
        have step := triangle (q.x - p.x) (q.y - p.y) (goal.x - q.x) (goal.y - q.y)
        rwa [sub_add_sub_cancel', sub_add_sub_cancel'] at step
      rw [pathLength_cons_cons]
      exact legs.trans (add_le_add_right (induction last) _)

end

/-! ## Routes -/

/-- Where the straight line is blocked, and no detour is shorter than the distance of its ends, the
search finds what a plain one finds. Each pair of points offers the first of its shortest clear
polylines of the first kind that has one; skipping a pair changes nothing; the first pair whose
offer is shortest decides; and the grid decides only when no pair offers anything. -/
theorem routeEdge_exhaustive {source target : Node α} {nodes : List (Node α)} {style : EdgeStyle}
    (apart : source.id ≠ target.id)
    (blocked : isClear [(endpoints source target style).1, (endpoints source target style).2]
      (obstaclesOf nodes source.id target.id) = false)
    (longer : ∀ pair ∈ allPairs (attachments source target (style.startRadius : α))
        (attachments target source (style.endRadius : α)),
      ∀ path strategy, detour? (obstaclesOf nodes source.id target.id) pair.1 pair.2 =
        some (path, strategy) → distance pair.1 pair.2 ≤ pathLength path) :
    let obstacles := obstaclesOf nodes source.id target.id
    let pairs := allPairs (attachments source target (style.startRadius : α))
      (attachments target source (style.endRadius : α))
    (∀ p₁ p₂, detour? obstacles p₁ p₂ = plainDetour? obstacles p₁ p₂) ∧
      (∀ best, pairs.foldl (improve obstacles) best = pairs.foldl (improveByAny obstacles) best) ∧
      ((∃ pair ∈ pairs, Passable obstacles pair) →
        ∃ front pair back path strategy, pairs = front ++ pair :: back ∧
          plainDetour? obstacles pair.1 pair.2 = some (path, strategy) ∧
          (∀ before ∈ front, ∀ offer, plainDetour? obstacles before.1 before.2 = some offer →
            pathLength path < pathLength offer.1) ∧
          (∀ after ∈ back, ∀ offer, plainDetour? obstacles after.1 after.2 = some offer →
            pathLength path ≤ pathLength offer.1) ∧
          routeEdge source target nodes style = .ok ⟨path, true, strategy⟩) ∧
      ∀ route, routeEdge source target nodes style = .ok route →
        (route.strategy = .grid ∨ route.strategy = .direct ↔
          ¬ ∃ pair ∈ pairs, Passable obstacles pair) := by
  intro obstacles pairs
  have found := (foldl_improve_eq longer none).trans (foldl_improveByAny obstacles pairs)
  simp only [← detour?_eq_plainDetour?]
  refine ⟨fun _ _ => trivial, foldl_improve_eq longer, ?_⟩
  cases first : (pairs.filterMap fun pair => detour? obstacles pair.1 pair.2).argmin
      fun offer => pathLength offer.1 with
  | some offer =>
      rw [first] at found
      have done := routeEdge_of_foldl_improve apart blocked found
      obtain ⟨front, pair, back, split, offered, greater, least⟩ :=
        exists_split_of_argmin_filterMap first
      have passable : ∃ pair ∈ pairs, Passable obstacles pair :=
        ⟨pair, by simp [split], isSome_detour?_iff.mp (by simp [offered])⟩
      refine ⟨fun _ => ⟨front, pair, back, offer.1, offer.2, split, offered, greater, least, done⟩,
        fun route route_done => ?_⟩
      cases done.symm.trans route_done
      obtain ⟨not_grid, not_direct⟩ := strategy_of_detour? offered
      exact iff_of_false (not_or.mpr ⟨not_grid, not_direct⟩) (not_not.mpr passable)
  | none =>
      rw [first] at found
      have impassable : ¬ ∃ pair ∈ pairs, Passable obstacles pair := by
        rintro ⟨pair, pair_mem, passable⟩
        have silent := List.filterMap_eq_nil_iff.mp (List.argmin_eq_none.mp first) pair pair_mem
        have offered := isSome_detour?_iff.mpr passable
        rw [silent] at offered
        cases offered
      exact ⟨fun passable => absurd passable impassable, fun _ done =>
        iff_of_true (strategy_of_foldl_improve_eq_none apart blocked found done) impassable⟩

/-- Lengths along the axes in whole units. -/
@[reducible] private def wholeLengths : Lengths where
  hypot x y := (⌈|x|⌉ + ⌈|y|⌉ : ℤ)
  heading _ _ := (1, 0)

/-- Whether both coordinates of a point are whole numbers. -/
private def IsWhole (p : Point ℚ) : Prop :=
  p.x.den = 1 ∧ p.y.den = 1

/-- A way to a point near a whole number takes as many whole units as the way to the number. -/
private theorem ceil_abs_le {a b reached : ℚ} (whole : a.den = 1) (whole_goal : b.den = 1)
    (near : |reached - b| < 1 / 10 ^ 9) : ⌈|b - a|⌉ ≤ ⌈|reached - a|⌉ := by
  obtain ⟨m, rfl⟩ : ∃ m : ℤ, (m : ℚ) = a := ⟨a.num, Rat.coe_int_num_of_den_eq_one whole⟩
  obtain ⟨n, rfl⟩ : ∃ n : ℤ, (n : ℚ) = b := ⟨b.num, Rat.coe_int_num_of_den_eq_one whole_goal⟩
  have way : |(n : ℚ) - m| ≤ |reached - n| + |reached - m| := by
    rw [abs_sub_comm reached n]
    exact abs_sub_le _ _ _
  have units : |(n : ℚ) - m| = ((|n - m| : ℤ) : ℚ) := by push_cast; rfl
  have below : ((|n - m| - 1 : ℤ) : ℚ) < |reached - m| := by
    push_cast
    linarith
  rw [units, Int.ceil_intCast]
  exact Int.sub_one_lt_iff.mp (Int.lt_ceil.mpr below)

private theorem longer_of_whole {obstacles : List (Obstacle ℚ)} {p₁ p₂ : Point ℚ}
    (whole : IsWhole p₁) (whole_goal : IsWhole p₂) :
    let _ : Lengths := wholeLengths
    ∀ path strategy, detour? obstacles p₁ p₂ = some (path, strategy) →
      distance p₁ p₂ ≤ pathLength path := by
  intro _ path strategy offered
  obtain ⟨first, reached, last, near⟩ := joins_of_detour? offered
  obtain ⟨near_x, near_y⟩ := isNear_iff.mp near
  obtain ⟨rest, rfl⟩ := List.head?_eq_some_iff.mp first
  have zero : ((⌈|(0 : ℚ)|⌉ + ⌈|(0 : ℚ)|⌉ : ℤ) : ℚ) = 0 := by simp
  have triangle (x y x' y' : ℚ) : ((⌈|x + x'|⌉ + ⌈|y + y'|⌉ : ℤ) : ℚ) ≤
      ((⌈|x|⌉ + ⌈|y|⌉ : ℤ) : ℚ) + ((⌈|x'|⌉ + ⌈|y'|⌉ : ℤ) : ℚ) := by
    have across : ⌈|x + x'|⌉ ≤ ⌈|x|⌉ + ⌈|x'|⌉ :=
      (Int.ceil_le_ceil (abs_add_le x x')).trans (Int.ceil_add_le _ _)
    have down : ⌈|y + y'|⌉ ≤ ⌈|y|⌉ + ⌈|y'|⌉ :=
      (Int.ceil_le_ceil (abs_add_le y y')).trans (Int.ceil_add_le _ _)
    exact_mod_cast (add_le_add across down).trans_eq (add_add_add_comm _ _ _ _)
  have units : distance p₁ p₂ ≤ distance p₁ reached :=
    Int.cast_le.mpr (add_le_add (ceil_abs_le whole.1 whole_goal.1 near_x)
      (ceil_abs_le whole.2 whole_goal.2 near_y))
  exact units.trans (distance_le_pathLength zero triangle last)

private def pegAt (id : String) (x y : ℚ) : Node ℚ :=
  { id, label := id, name := none, x, y, cluster := none }

private def pegs : List (Node ℚ) :=
  [pegAt "first" 0 0, pegAt "last" 200 0, pegAt "between" 100 20]

theorem routeEdge_exhaustive_around :
    let _ : Lengths := wholeLengths
    let obstacles := obstaclesOf pegs "first" "last"
    let pairs := allPairs
      (attachments (pegAt "first" 0 0) (pegAt "last" 200 0) (EdgeStyle.startRadius .solid : ℚ))
      (attachments (pegAt "last" 200 0) (pegAt "first" 0 0) (EdgeStyle.endRadius .solid : ℚ))
    ∃ pair ∈ pairs, ∃ path strategy,
      plainDetour? obstacles pair.1 pair.2 = some (path, strategy) ∧
        (∀ other ∈ pairs, ∀ offer, plainDetour? obstacles other.1 other.2 = some offer →
          pathLength path ≤ pathLength offer.1) ∧
        routeEdge (pegAt "first" 0 0) (pegAt "last" 200 0) pegs .solid =
          .ok ⟨path, true, strategy⟩ := by
  let _ : Lengths := wholeLengths
  intro _ obstacles pairs
  have whole : ∀ pair ∈ pairs, IsWhole pair.1 ∧ IsWhole pair.2 := by
    unfold IsWhole
    decide +kernel
  have apart : (pegAt "first" 0 0).id ≠ (pegAt "last" 200 0).id := by decide
  have passable : ∃ pair ∈ pairs, Passable obstacles pair :=
    ⟨(⟨0, -18⟩, ⟨200, -30⟩), by decide +kernel, (.shiftedStraight, straightPaths),
      List.mem_cons_self, [⟨0, -18⟩, ⟨200, -30⟩], List.mem_singleton_self _, by decide +kernel⟩
  have blocked : isClear [(endpoints (pegAt "first" 0 0) (pegAt "last" 200 0) .solid).1,
      (endpoints (pegAt "first" 0 0) (pegAt "last" 200 0) .solid).2] obstacles = false := by
    decide +kernel
  obtain ⟨-, -, found, -⟩ := routeEdge_exhaustive apart blocked
    fun pair pair_mem => longer_of_whole (whole pair pair_mem).1 (whole pair pair_mem).2
  obtain ⟨front, pair, back, path, strategy, split, offered, greater, least, done⟩ :=
    found passable
  have split : pairs = front ++ pair :: back := split
  refine ⟨pair, by simp [split], path, strategy, offered, ?_, done⟩
  intro other other_mem offer other_offered
  rw [split, List.mem_append, List.mem_cons] at other_mem
  rcases other_mem with before_mem | rfl | after_mem
  · exact (greater other before_mem offer other_offered).le
  · obtain rfl := Option.some.inj (offered.symm.trans other_offered)
    exact le_refl _
  · exact least other after_mem offer other_offered

end Routing
end ClusterDiagram
