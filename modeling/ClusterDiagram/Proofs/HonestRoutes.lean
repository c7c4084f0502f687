import ClusterDiagram.Proofs.ExactScalars
import ClusterDiagram.Routing.Route

/-!
# Routes are what they say

A route that counts as routed keeps clear of every third node, and a straight line through one is
called direct. Every polyline that is tried is checked in the form in which it is returned, so that
nothing that is done to it between can spoil the answer. A route is missing only when the grid
around some pair of points cannot be measured.
-/

namespace ClusterDiagram
namespace Routing

variable {α : Type} [Scalar α]

/-! ## Polylines -/

theorem isClear_iff {path : List (Point α)} {obstacles : List (Obstacle α)} :
    isClear path obstacles = true ↔ ∀ obstacle ∈ obstacles, ∀ segment ∈ segments path,
      obstacle.toBox.touches segment.1 segment.2 = false := by
  simp only [isClear, Box.meets, List.all_eq_true, Bool.not_eq_true', List.any_eq_false,
    Bool.not_eq_true]

theorem two_le_length_dedupe {path : List (Point α)} (filled : path ≠ []) :
    2 ≤ (dedupe path).length := by
  cases path with
  | nil => exact absurd rfl filled
  | cons p path =>
      rw [dedupe]
      split
      · exact Nat.le_refl 2
      · rename_i more
        exact Nat.succ_le_succ (List.length_pos_iff.mpr more)

theorem simplify_ne_nil {path : List (Point α)} (filled : path ≠ []) : simplify path ≠ [] := by
  have long := two_le_length_dedupe filled
  rw [simplify]
  split
  · rename_i empty
    rw [empty] at long
    cases long
  · exact List.cons_ne_nil _ _

theorem wayPoints_ne_nil (raster : Raster α) (p₁ p₂ : Point α) (cells : List GridCell) :
    wayPoints raster p₁ p₂ cells ≠ [] := by
  cases cells <;> exact List.cons_ne_nil _ _

/-! ## Candidates -/

/-- A candidate that can be returned as it is. -/
structure Candidate.Sound (obstacles : List (Obstacle α)) (candidate : Candidate α) : Prop where
  /-- There are at least two points. -/
  twoPoints : 2 ≤ candidate.path.length
  /-- It touches no obstacle. -/
  clear : isClear candidate.path obstacles = true
  /-- It does not count as the straight line. -/
  around : candidate.strategy ≠ .straight ∧ candidate.strategy ≠ .direct

theorem ne_nil_of_mem_detourPaths (offsets : List α) (p₁ p₂ : Point α) :
    ∀ path ∈ detourPaths offsets p₁ p₂, path ≠ [] := by
  have at_offset (offset : α) : ∀ path ∈ detoursAt p₁ p₂ offset, path ≠ [] := by
    simp [detoursAt]
  rw [detourPaths, List.forall_mem_cons, List.forall_mem_cons]
  refine ⟨List.cons_ne_nil _ _, List.cons_ne_nil _ _, ?_⟩
  intro path path_mem
  obtain ⟨offset, -, path_mem⟩ := List.mem_flatMap.mp path_mem
  exact at_offset offset path path_mem

theorem ne_nil_of_mem_curvePaths (bends : List α) (samples : Nat) (p₁ p₂ : Point α) :
    ∀ path ∈ curvePaths bends samples p₁ p₂, path ≠ [] := by
  intro path path_mem
  rw [curvePaths] at path_mem
  dsimp only at path_mem
  split at path_mem
  · cases path_mem
  · obtain ⟨bend, -, rfl⟩ := List.mem_map.mp path_mem
    simp

/-- Every kind of detour is named apart from the straight line, and offers no empty polylines. -/
theorem of_mem_tiers {tier : Strategy × (Point α → Point α → List (List (Point α)))}
    (tier_mem : tier ∈ tiers) :
    (tier.1 ≠ .straight ∧ tier.1 ≠ .direct) ∧
      ∀ p₁ p₂, ∀ path ∈ tier.2 p₁ p₂, path ≠ [] := by
  simp only [tiers, List.mem_cons, List.not_mem_nil, or_false] at tier_mem
  rcases tier_mem with rfl | rfl | rfl | rfl
  · exact ⟨⟨Strategy.noConfusion, Strategy.noConfusion⟩, fun p₁ p₂ => by simp [straightPaths]⟩
  · exact ⟨⟨Strategy.noConfusion, Strategy.noConfusion⟩, fun p₁ p₂ => by simp [bentPaths]⟩
  · exact ⟨⟨Strategy.noConfusion, Strategy.noConfusion⟩, ne_nil_of_mem_detourPaths detourOffsets⟩
  · exact ⟨⟨Strategy.noConfusion, Strategy.noConfusion⟩,
      ne_nil_of_mem_curvePaths curveBends curveSamples⟩

theorem shortestClear?_spec {candidates : List (List (Point α))} {obstacles : List (Obstacle α)}
    {path : List (Point α)} (found : shortestClear? candidates obstacles = some path) :
    isClear path obstacles = true ∧ ∃ candidate ∈ candidates, path = dedupe candidate := by
  obtain ⟨entry, entry_found, rfl⟩ := Option.map_eq_some_iff.mp found
  have clear := List.find?_some entry_found
  refine ⟨clear, ?_⟩
  have entry_mem := List.mem_mergeSort.mp (List.mem_of_find?_eq_some entry_found)
  obtain ⟨candidate, candidate_mem, rfl⟩ := List.mem_map.mp entry_mem
  exact ⟨candidate, candidate_mem, rfl⟩

/-- What a pair of points offers is a clear polyline of some kind of detour, without repetitions. -/
theorem exists_candidate_of_detour? {obstacles : List (Obstacle α)} {p₁ p₂ : Point α}
    {path : List (Point α)} {strategy : Strategy}
    (found : detour? obstacles p₁ p₂ = some (path, strategy)) :
    isClear path obstacles = true ∧ ∃ tier ∈ tiers, tier.1 = strategy ∧
      ∃ candidate ∈ tier.2 p₁ p₂, path = dedupe candidate := by
  obtain ⟨tier, tier_mem, offered⟩ := List.exists_of_findSome?_eq_some found
  obtain ⟨shortest, shortest_found, same⟩ := Option.map_eq_some_iff.mp offered
  cases same
  obtain ⟨clear, candidate, candidate_mem, same⟩ := shortestClear?_spec shortest_found
  exact ⟨clear, tier, tier_mem, rfl, candidate, candidate_mem, same⟩

theorem sound_of_detour? {obstacles : List (Obstacle α)} {p₁ p₂ : Point α}
    {path : List (Point α)} {strategy : Strategy}
    (found : detour? obstacles p₁ p₂ = some (path, strategy)) (length : α) :
    Candidate.Sound obstacles ⟨path, length, strategy⟩ := by
  obtain ⟨clear, tier, tier_mem, rfl, candidate, candidate_mem, rfl⟩ :=
    exists_candidate_of_detour? found
  obtain ⟨around, filled⟩ := of_mem_tiers tier_mem
  exact ⟨two_le_length_dedupe (filled p₁ p₂ candidate candidate_mem), clear, around⟩

/-- A pair of points leaves the best candidate or puts its own detour in its place. -/
theorem improve_cases {obstacles : List (Obstacle α)} {best after : Option (Candidate α)}
    {pair : Point α × Point α} (improved : improve obstacles best pair = after) :
    after = best ∨ ∃ path strategy, detour? obstacles pair.1 pair.2 = some (path, strategy) ∧
      after = some ⟨path, pathLength path, strategy⟩ := by
  unfold improve at improved
  extract_lets chord hopeless at improved
  split at improved
  · exact Or.inl improved.symm
  · split at improved
    · exact Or.inl improved.symm
    · rename_i path strategy found
      extract_lets length at improved
      split at improved
      · exact Or.inr ⟨path, strategy, found, improved.symm⟩
      · exact Or.inl improved.symm

theorem ne_nil_of_gridRoute {options : GridOptions α} {p₁ p₂ : Point α}
    {obstacles : List (Obstacle α)} {path : List (Point α)}
    (done : gridRoute options p₁ p₂ obstacles = .ok (some path)) : path ≠ [] := by
  obtain ⟨raster, -, done⟩ := ok_of_bind done
  obtain ⟨start, -, done⟩ := ok_of_bind done
  obtain ⟨goal, -, done⟩ := ok_of_bind done
  obtain ⟨ranges, -, done⟩ := ok_of_bind done
  obtain ⟨cells, -, rfl⟩ := Option.map_eq_some_iff.mp (Except.ok.inj done)
  exact simplify_ne_nil (wayPoints_ne_nil raster p₁ p₂ cells)

/-- A pair of points leaves the best candidate or puts its own clear way through the grid in its
place. -/
theorem improveByGrid_cases {obstacles : List (Obstacle α)} {best after : Option (Candidate α)}
    {pair : Point α × Point α} (improved : improveByGrid obstacles best pair = .ok after) :
    after = best ∨ ∃ path,
      gridRoute GridOptions.standard pair.1 pair.2 obstacles = .ok (some path) ∧
        isClear (dedupe path) obstacles = true ∧
          after = some ⟨dedupe path, pathLength (dedupe path), .grid⟩ := by
  obtain ⟨way, way_done, improved⟩ := ok_of_bind improved
  cases way with
  | none => exact Or.inl (Except.ok.inj improved).symm
  | some path =>
      obtain rfl := Except.ok.inj improved
      split
      · rename_i better
        exact Or.inr ⟨path, way_done, (Bool.and_eq_true_iff.mp better).2, rfl⟩
      · exact Or.inl rfl

section Found

variable {obstacles : List (Obstacle α)} {motive : Candidate α → Prop}

/-- What holds of the detours of all pairs holds of the best one. -/
theorem of_foldl_improve {pairs : List (Point α × Point α)}
    (detours : ∀ pair ∈ pairs, ∀ path strategy,
      detour? obstacles pair.1 pair.2 = some (path, strategy) →
        motive ⟨path, pathLength path, strategy⟩)
    {best : Candidate α} (found : pairs.foldl (improve obstacles) none = some best) :
    motive best := by
  refine List.foldlRecOn (motive := fun found => ∀ candidate, found = some candidate →
    motive candidate) pairs (improve obstacles) ?_ ?_ best found
  · rintro _ ⟨⟩
  · intro before kept pair pair_mem candidate improved
    rcases improve_cases improved with same | ⟨path, strategy, offered, better⟩
    · exact kept candidate same.symm
    · cases better
      exact detours pair pair_mem path strategy offered

/-- What holds of the clear ways of all pairs through the grid holds of the best one. -/
theorem of_foldlM_improveByGrid {pairs : List (Point α × Point α)}
    (ways : ∀ pair ∈ pairs, ∀ path,
      gridRoute GridOptions.standard pair.1 pair.2 obstacles = .ok (some path) →
        isClear (dedupe path) obstacles = true →
          motive ⟨dedupe path, pathLength (dedupe path), .grid⟩)
    {best : Candidate α} (done : pairs.foldlM (improveByGrid obstacles) none = .ok (some best)) :
    motive best := by
  have keeps : ∀ pair ∈ pairs, ∀ before after, improveByGrid obstacles before pair = .ok after →
      (∀ candidate, before = some candidate → motive candidate) →
        ∀ candidate, after = some candidate → motive candidate := by
    intro pair pair_mem before after improved kept candidate found
    rcases improveByGrid_cases improved with same | ⟨path, way_done, clear, better⟩
    · exact kept candidate (same.symm.trans found)
    · cases better.symm.trans found
      exact ways pair pair_mem path way_done clear
  exact foldlM_invariant keeps done (by simp) best rfl

/-- What holds of the detours of all pairs and of all clear ways through the grid holds of the way
around the obstacles. -/
theorem of_wayAround {source target : Node α} {style : EdgeStyle}
    (detours : ∀ pair ∈ allPairs (attachments source target (style.startRadius : α))
        (attachments target source (style.endRadius : α)),
      ∀ path strategy, detour? obstacles pair.1 pair.2 = some (path, strategy) →
        motive ⟨path, pathLength path, strategy⟩)
    (ways : ∀ pair ∈ allPairs ((attachments source target (style.startRadius : α)).take 5)
        ((attachments target source (style.endRadius : α)).take 5),
      ∀ path, gridRoute GridOptions.standard pair.1 pair.2 obstacles = .ok (some path) →
        isClear (dedupe path) obstacles = true →
          motive ⟨dedupe path, pathLength (dedupe path), .grid⟩)
    {best : Candidate α} (done : wayAround source target style obstacles = .ok (some best)) :
    motive best := by
  unfold wayAround at done
  extract_lets starts ends at done
  split at done
  · rename_i candidate found
    cases done
    exact of_foldl_improve detours found
  · exact of_foldlM_improveByGrid ways done

end Found

/-- A way around the obstacles can be returned as it is. -/
theorem sound_of_wayAround {source target : Node α} {style : EdgeStyle}
    {obstacles : List (Obstacle α)} {best : Candidate α}
    (done : wayAround source target style obstacles = .ok (some best)) : best.Sound obstacles :=
  of_wayAround (fun _ _ _ _ offered => sound_of_detour? offered _)
    (fun _ _ _ way_done clear =>
      { twoPoints := two_le_length_dedupe (ne_nil_of_gridRoute way_done)
        clear
        around := ⟨Strategy.noConfusion, Strategy.noConfusion⟩ }) done

/-! ## Routes -/

/-- A route whose flag and strategy say whether it keeps clear of the nodes it does not join. -/
structure Route.Honest (source target : Node α) (nodes : List (Node α)) (route : Route α) :
    Prop where
  /-- There are at least two points. -/
  twoPoints : 2 ≤ route.points.length
  /-- A loop counts as routed when it is clear. -/
  loop : source.id = target.id → (route.routed = true ↔
    isClear route.points (obstaclesOf nodes source.id target.id) = true)
  /-- Between two nodes only a direct line is not clear. -/
  clear : source.id ≠ target.id →
    (isClear route.points (obstaclesOf nodes source.id target.id) = true ↔
      route.strategy ≠ .direct)
  /-- Between two nodes whatever is neither straight nor direct counts as routed. -/
  routed : source.id ≠ target.id → (route.routed = true ↔
    route.strategy ≠ .straight ∧ route.strategy ≠ .direct)

/-- A routed polyline touches the box of no third node. -/
theorem Route.Honest.touches_eq_false {source target : Node α} {nodes : List (Node α)}
    {route : Route α} (honest : route.Honest source target nodes) (routed : route.routed = true)
    {node : Node α} (node_mem : node ∈ nodes) (not_source : node.id ≠ source.id)
    (not_target : node.id ≠ target.id) {segment : Point α × Point α}
    (segment_mem : segment ∈ segments route.points) :
    (obstacle (routePadding : α) node).touches segment.1 segment.2 = false := by
  have clear : isClear route.points (obstaclesOf nodes source.id target.id) = true := by
    by_cases loop : source.id = target.id
    · exact (honest.loop loop).mp routed
    · exact (honest.clear loop).mpr ((honest.routed loop).mp routed).2
  have listed : obstacle (routePadding : α) node ∈ obstaclesOf nodes source.id target.id := by
    apply List.mem_map_of_mem
    rw [List.mem_filter]
    exact ⟨node_mem, by simp [not_source, not_target]⟩
  exact isClear_iff.mp clear _ listed segment segment_mem

/-- Every route that is returned is honest. -/
theorem honest_of_routeEdge {source target : Node α} {nodes : List (Node α)} {style : EdgeStyle}
    {route : Route α} (done : routeEdge source target nodes style = .ok route) :
    route.Honest source target nodes := by
  rw [routeEdge] at done
  extract_lets obstacles line at done
  split at done
  · rename_i loop
    cases done
    exact {
      twoPoints := by simp [selfLoop]
      loop := fun _ => Iff.rfl
      clear := fun apart => absurd loop apart
      routed := fun apart => absurd loop apart }
  · rename_i apart
    split at done
    · rename_i clear
      cases done
      exact {
        twoPoints := Nat.le_refl 2
        loop := fun loop => absurd loop apart
        clear := fun _ => iff_of_true clear Strategy.noConfusion
        routed := fun _ => by simp }
    · rename_i blocked
      obtain ⟨best, found, done⟩ := ok_of_bind done
      cases best with
      | some best =>
          cases done
          have sound := sound_of_wayAround found
          exact {
            twoPoints := sound.twoPoints
            loop := fun loop => absurd loop apart
            clear := fun _ => iff_of_true sound.clear sound.around.2
            routed := fun _ => iff_of_true rfl sound.around }
      | none =>
          cases done
          exact {
            twoPoints := Nat.le_refl 2
            loop := fun loop => absurd loop apart
            clear := fun _ => iff_of_false blocked fun named => named rfl
            routed := fun _ => by simp }

/-! ## Missing routes -/

/-- A candidate gives way to no other than a candidate. -/
theorem foldl_improve_ne_none (obstacles : List (Obstacle α)) (best : Candidate α)
    (pairs : List (Point α × Point α)) : pairs.foldl (improve obstacles) (some best) ≠ none := by
  induction pairs generalizing best with
  | nil => exact Option.some_ne_none best
  | cons pair pairs induction =>
      rw [List.foldl_cons]
      rcases improve_cases (show improve obstacles (some best) pair = _ from rfl) with
        same | ⟨path, strategy, -, better⟩
      · rw [same]
        exact induction best
      · rw [better]
        exact induction _

/-- Whether some pair of points offers a detour of finite length. -/
def Detoured (obstacles : List (Obstacle α)) (pairs : List (Point α × Point α)) : Prop :=
  ∃ pair ∈ pairs, Scalar.isInfinite (distance pair.1 pair.2) = false ∧
    ∃ path strategy, detour? obstacles pair.1 pair.2 = some (path, strategy) ∧
      Scalar.isBelow none (pathLength path) = true

theorem improve_none_ne_none_iff {obstacles : List (Obstacle α)} {pair : Point α × Point α} :
    improve obstacles none pair ≠ none ↔
      Scalar.isInfinite (distance pair.1 pair.2) = false ∧
        ∃ path strategy, detour? obstacles pair.1 pair.2 = some (path, strategy) ∧
          Scalar.isBelow none (pathLength path) = true := by
  unfold improve
  extract_lets chord hopeless
  cases far : Scalar.isInfinite (distance pair.1 pair.2) with
  | true =>
      have hopeless_eq : hopeless = true := far
      rw [if_pos hopeless_eq]
      simp
  | false =>
      have hopeless_eq : ¬ hopeless = true := Bool.eq_false_iff.mp far
      rw [if_neg hopeless_eq]
      cases detour? obstacles pair.1 pair.2 with
      | none => simp
      | some offered =>
          obtain ⟨path, strategy⟩ := offered
          simp

/-- There is a candidate exactly when some pair of points offers a detour. -/
theorem foldl_improve_eq_none_iff {obstacles : List (Obstacle α)}
    {pairs : List (Point α × Point α)} :
    pairs.foldl (improve obstacles) none = none ↔ ¬ Detoured obstacles pairs := by
  simp only [Detoured, ← improve_none_ne_none_iff, not_exists, not_and, not_not]
  induction pairs with
  | nil => simp
  | cons pair pairs induction =>
      rw [List.foldl_cons, List.forall_mem_cons]
      cases first : improve obstacles none pair with
      | none => rw [induction, eq_self, true_and]
      | some best =>
          exact iff_of_false (foldl_improve_ne_none obstacles best pairs) fun none_found =>
            Option.some_ne_none best none_found.1

theorem exists_improveByGrid_error_iff (obstacles : List (Obstacle α))
    (best : Option (Candidate α)) (pair : Point α × Point α) :
    (∃ error, improveByGrid obstacles best pair = .error error) ↔
      ∃ error, gridRoute GridOptions.standard pair.1 pair.2 obstacles = .error error := by
  unfold improveByGrid
  cases gridRoute GridOptions.standard pair.1 pair.2 obstacles with
  | error error => exact iff_of_true ⟨error, rfl⟩ ⟨error, rfl⟩
  | ok way =>
      apply iff_of_false
      · rintro ⟨error, failed⟩
        cases way <;> cases failed
      · rintro ⟨error, ⟨⟩⟩

/-- A diagram in which the straight line of an edge is blocked, no pair of points offers a detour
and the grid around some pair cannot be measured. -/
structure Unmeasured (source target : Node α) (nodes : List (Node α)) (style : EdgeStyle) :
    Prop where
  /-- The edge joins two nodes. -/
  apart : source.id ≠ target.id
  /-- The straight line is blocked. -/
  blocked : isClear [(endpoints source target style).1, (endpoints source target style).2]
    (obstaclesOf nodes source.id target.id) = false
  /-- No pair of points offers a detour. -/
  noDetour : ¬ Detoured (obstaclesOf nodes source.id target.id)
    (allPairs (attachments source target (style.startRadius : α))
      (attachments target source (style.endRadius : α)))
  /-- The grid around some pair cannot be measured. -/
  noGrid : ∃ pair ∈ allPairs ((attachments source target (style.startRadius : α)).take 5)
      ((attachments target source (style.endRadius : α)).take 5),
    ∃ error, gridRoute GridOptions.standard pair.1 pair.2
      (obstaclesOf nodes source.id target.id) = .error error

theorem exists_wayAround_error_iff {source target : Node α} {style : EdgeStyle}
    {obstacles : List (Obstacle α)} :
    (∃ error, wayAround source target style obstacles = .error error) ↔
      ¬ Detoured obstacles (allPairs (attachments source target (style.startRadius : α))
          (attachments target source (style.endRadius : α))) ∧
      ∃ pair ∈ allPairs ((attachments source target (style.startRadius : α)).take 5)
          ((attachments target source (style.endRadius : α)).take 5),
        ∃ error, gridRoute GridOptions.standard pair.1 pair.2 obstacles = .error error := by
  rw [← foldl_improve_eq_none_iff,
    ← exists_foldlM_error_iff (exists_improveByGrid_error_iff obstacles) _ none]
  unfold wayAround
  extract_lets starts ends
  cases (allPairs starts ends).foldl (improve obstacles) none with
  | none => rw [eq_self, true_and]
  | some best =>
      apply iff_of_false
      · rintro ⟨error, ⟨⟩⟩
      · rintro ⟨⟨⟩, -⟩

/-- A route is missing only when the grid around some pair of points cannot be measured. -/
theorem exists_routeEdge_error_iff {source target : Node α} {nodes : List (Node α)}
    {style : EdgeStyle} :
    (∃ error, routeEdge source target nodes style = .error error) ↔
      Unmeasured source target nodes style := by
  unfold routeEdge
  extract_lets obstacles line points
  by_cases loop : source.id = target.id
  · rw [if_pos loop]
    apply iff_of_false
    · rintro ⟨error, ⟨⟩⟩
    · exact fun unmeasured => unmeasured.apart loop
  · rw [if_neg loop]
    by_cases clear : isClear points obstacles = true
    · rw [if_pos clear]
      apply iff_of_false
      · rintro ⟨error, ⟨⟩⟩
      · exact fun unmeasured => absurd clear (Bool.eq_false_iff.mp unmeasured.blocked)
    · rw [if_neg clear]
      cases found : wayAround source target style obstacles with
      | error error =>
          obtain ⟨noDetour, noGrid⟩ := exists_wayAround_error_iff.mp ⟨error, found⟩
          exact iff_of_true ⟨error, rfl⟩ ⟨loop, Bool.eq_false_iff.mpr clear, noDetour, noGrid⟩
      | ok best =>
          apply iff_of_false
          · rintro ⟨error, failed⟩
            cases best <;> cases failed
          · intro unmeasured
            obtain ⟨error, failed⟩ :=
              exists_wayAround_error_iff.mpr ⟨unmeasured.noDetour, unmeasured.noGrid⟩
            cases found.symm.trans failed

/-- Doubles leave their range when the points lie far enough apart. -/
example : ((gridRoute GridOptions.standard ⟨18, 0⟩ ⟨1.79e308, 0⟩ [] :
    Except ArithmeticError (Option (List (Point Float)))).map fun _ => ()) = .error .infinite := by
  decide +kernel

/-- With exact scalars no route is missing. -/
theorem exists_routeEdge_ok [Lengths] (source target : Node ℚ) (nodes : List (Node ℚ))
    (style : EdgeStyle) : ∃ route, routeEdge source target nodes style = .ok route := by
  cases done : routeEdge source target nodes style with
  | ok route => exact ⟨route, rfl⟩
  | error error =>
      obtain ⟨pair, -, error, failed⟩ := (exists_routeEdge_error_iff.mp ⟨error, done⟩).noGrid
      have positive : (0 : ℚ) < GridOptions.standard.cell := by
        change (0 : ℚ) < ((10 : ℕ) : ℚ)
        norm_num
      have some_cells : (160 : ℤ) ≠ 0 := by decide
      obtain ⟨way, found⟩ := exists_gridRoute_ok positive some_cells pair.1 pair.2
        (obstaclesOf nodes source.id target.id)
      cases found.symm.trans failed

/-! ## Routed edges -/

/-- An edge is routed when its straight line is blocked and some pair of points offers a detour. -/
theorem routed_of_detoured {source target : Node α} {nodes : List (Node α)} {style : EdgeStyle}
    {route : Route α} (done : routeEdge source target nodes style = .ok route)
    (apart : source.id ≠ target.id)
    (blocked : isClear [(endpoints source target style).1, (endpoints source target style).2]
      (obstaclesOf nodes source.id target.id) = false)
    (detoured : Detoured (obstaclesOf nodes source.id target.id)
      (allPairs (attachments source target (style.startRadius : α))
        (attachments target source (style.endRadius : α)))) : route.routed = true := by
  unfold routeEdge at done
  extract_lets obstacles line points at done
  rw [if_neg apart, if_neg (Bool.eq_false_iff.mp blocked)] at done
  obtain ⟨best, found, done⟩ := ok_of_bind done
  cases best with
  | some best =>
      cases done
      rfl
  | none =>
      unfold wayAround at found
      extract_lets starts ends at found
      split at found
      · cases found
      · rename_i nothing
        exact absurd detoured (foldl_improve_eq_none_iff.mp nothing)

/-- A pair of points that see each other offers the line between them. -/
theorem detour?_of_visible {obstacles : List (Obstacle α)} {p₁ p₂ : Point α}
    (visible : isClear (dedupe [p₁, p₂]) obstacles = true) :
    detour? obstacles p₁ p₂ = some (dedupe [p₁, p₂], .shiftedStraight) := by
  have shortest : shortestClear? (straightPaths p₁ p₂) obstacles = some (dedupe [p₁, p₂]) := by
    simp [shortestClear?, straightPaths, visible]
  rw [detour?, tiers, List.findSome?_cons, shortest]
  rfl

/-- Every route that is returned is honest, so that a routed polyline touches the box of no third
node; and no route is missing unless the grid around some pair of points cannot be measured. -/
theorem routeEdge_honest (source target : Node α) (nodes : List (Node α)) (style : EdgeStyle) :
    (∀ route, routeEdge source target nodes style = .ok route →
      route.Honest source target nodes ∧
        (route.routed = true → ∀ node ∈ nodes, node.id ≠ source.id → node.id ≠ target.id →
          ∀ segment ∈ segments route.points,
            (obstacle (routePadding : α) node).touches segment.1 segment.2 = false)) ∧
      ((∃ error, routeEdge source target nodes style = .error error) ↔
        Unmeasured source target nodes style) := by
  refine ⟨fun route done => ?_, exists_routeEdge_error_iff⟩
  have honest := honest_of_routeEdge done
  refine ⟨honest, ?_⟩
  intro routed node node_mem not_source not_target segment segment_mem
  exact honest.touches_eq_false routed node_mem not_source not_target segment_mem

private def iconAt (id : String) (x y : ℚ) : Node ℚ :=
  { id, label := id, name := none, x, y, cluster := none }

private def west : Node ℚ := iconAt "west" 0 0

private def east : Node ℚ := iconAt "east" 200 0

private def hub : Node ℚ := iconAt "hub" 100 20

/-- Lengths along the axes, and directions of the longer component. -/
@[reducible] private def axialLengths : Lengths where
  hypot x y := |x| + |y|
  heading x y := if |y| ≤ |x| then (if x < 0 then -1 else 1, 0) else (0, if y < 0 then -1 else 1)

theorem routeEdge_honest_detour :
    let _ : Lengths := axialLengths
    ∃ route, routeEdge west east [west, east, hub] .solid = .ok route ∧
      2 ≤ route.points.length ∧ route.routed = true ∧ route.strategy ≠ .direct ∧
      ∀ segment ∈ segments route.points,
        (obstacle (routePadding : ℚ) hub).touches segment.1 segment.2 = false := by
  let _ : Lengths := axialLengths
  obtain ⟨route, done⟩ := exists_routeEdge_ok west east [west, east, hub] .solid
  have apart : west.id ≠ east.id := by decide
  have blocked : isClear [(endpoints west east .solid).1, (endpoints west east .solid).2]
      (obstaclesOf [west, east, hub] west.id east.id) = false := by
    decide +kernel
  have visible : isClear (dedupe [(⟨0, -18⟩ : Point ℚ), ⟨200, -30⟩])
      (obstaclesOf [west, east, hub] west.id east.id) = true := by
    decide +kernel
  have attached : ((⟨0, -18⟩, ⟨200, -30⟩) : Point ℚ × Point ℚ) ∈
      allPairs (attachments west east (EdgeStyle.startRadius .solid : ℚ))
        (attachments east west (EdgeStyle.endRadius .solid : ℚ)) := by
    decide +kernel
  have routed : route.routed = true :=
    routed_of_detoured done apart blocked
      ⟨_, attached, rfl, _, _, detour?_of_visible visible, by decide +kernel⟩
  obtain ⟨honest, avoids⟩ := (routeEdge_honest west east [west, east, hub] .solid).1 route done
  exact ⟨route, done, honest.twoPoints, routed, ((honest.routed apart).mp routed).2,
    avoids routed hub (by simp) (by decide) (by decide)⟩

end Routing
end ClusterDiagram
