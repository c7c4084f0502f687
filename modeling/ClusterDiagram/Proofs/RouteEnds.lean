import ClusterDiagram.Proofs.GridRoutes
import ClusterDiagram.Proofs.HonestRoutes

/-!
# Ends of routes

A straight or a direct line has the two ends of its edge. Every other route begins at a point around
the source, and ends at or near a point around the target: each kind of detour leads from the one to
the other, and dropping repetitions moves the last point by less than the tolerance. A way through
the grid is cleaned twice, but the second time nothing is dropped, because its corners are centres
of different cells.
-/

namespace ClusterDiagram
namespace Routing

theorem mem_allPairs {β : Type} {starts ends : List β} {pair : β × β} :
    pair ∈ allPairs starts ends ↔ pair.1 ∈ starts ∧ pair.2 ∈ ends := by
  obtain ⟨a, b⟩ := pair
  simp [allPairs]

section

variable [Lengths]

/-! ## Repetitions -/

/-- Whether a polyline begins at one point and ends at or near another one. -/
structure Joins (p₁ p₂ : Point ℚ) (path : List (Point ℚ)) : Prop where
  /-- The first point. -/
  first : path.head? = some p₁
  /-- The last point. -/
  last : ∃ reached, path.getLast? = some reached ∧ isNear reached p₂ = true

theorem head?_dedupe (p : Point ℚ) (path : List (Point ℚ)) :
    (dedupe (p :: path)).head? = some p := by
  rw [dedupe]
  split <;> rfl

theorem getLast?_dedupe (p : Point ℚ) (path : List (Point ℚ)) :
    (dedupe (p :: path)).getLast? = (p :: dropNear p path).getLast? := by
  rw [dedupe]
  split
  · rename_i dropped
    rw [dropped]
    rfl
  · rfl

/-- Without its repetitions a polyline leads from its first point to its last one, or near it. -/
theorem joins_dedupe {p₁ p₂ : Point ℚ} {path : List (Point ℚ)} (first : path.head? = some p₁)
    (last : path.getLast? = some p₂) : Joins p₁ p₂ (dedupe path) := by
  cases path with
  | nil => cases first
  | cons p path =>
      obtain rfl : p = p₁ := Option.some.inj first
      refine ⟨head?_dedupe p path, ?_⟩
      rw [getLast?_dedupe]
      rcases List.eq_nil_or_concat path with rfl | ⟨front, goal, rfl⟩
      · obtain rfl : p = p₂ := Option.some.inj last
        exact ⟨p, rfl, isNear_self p⟩
      · rw [List.concat_eq_append] at last ⊢
        obtain rfl : goal = p₂ := by simpa [List.getLast?_cons] using last
        exact exists_isNear_of_dropNear p front goal

theorem dropNear_of_far {p : Point ℚ} {path : List (Point ℚ)}
    (far : (p :: path).IsChain fun a b => isNear a b = false) : dropNear p path = path := by
  induction path generalizing p with
  | nil => rfl
  | cons q path induction =>
      obtain ⟨first, rest⟩ := List.isChain_cons_cons.mp far
      rw [dropNear, first, induction rest]
      rfl

/-- Nothing is dropped of a polyline without near neighbours. -/
theorem dedupe_of_far {path : List (Point ℚ)} (long : 2 ≤ path.length)
    (far : path.IsChain fun a b => isNear a b = false) : dedupe path = path := by
  match path, long with
  | p :: q :: path, _ => rw [dedupe, dropNear_of_far far]

/-! ## Detours -/

theorem curvePoint_start (p₁ control p₂ : Point ℚ) (samples : ℕ) :
    curvePoint p₁ control p₂ (((0 : ℕ) : ℚ) / (samples : ℚ)) = p₁ := by
  simp [curvePoint]

theorem curvePoint_goal (p₁ control p₂ : Point ℚ) {samples : ℕ} (filled : samples ≠ 0) :
    curvePoint p₁ control p₂ ((samples : ℚ) / (samples : ℚ)) = p₂ := by
  have whole : (samples : ℚ) / samples = 1 := div_self (Nat.cast_ne_zero.mpr filled)
  simp [curvePoint, whole]

theorem ends_of_mem_curvePaths {bends : List ℚ} {samples : ℕ} (filled : samples ≠ 0)
    {p₁ p₂ : Point ℚ} {path : List (Point ℚ)} (path_mem : path ∈ curvePaths bends samples p₁ p₂) :
    path.head? = some p₁ ∧ path.getLast? = some p₂ := by
  rw [curvePaths] at path_mem
  dsimp only at path_mem
  split at path_mem
  · cases path_mem
  · obtain ⟨bend, -, rfl⟩ := List.mem_map.mp path_mem
    rw [List.head?_map, List.getLast?_map, List.head?_range, List.getLast?_range]
    simp only [Nat.add_one_ne_zero, if_false, Nat.add_sub_cancel, Option.map_some]
    exact ⟨congrArg some (curvePoint_start p₁ _ p₂ samples),
      congrArg some (curvePoint_goal p₁ _ p₂ filled)⟩

theorem ends_of_mem_detourPaths {offsets : List ℚ} {p₁ p₂ : Point ℚ} {path : List (Point ℚ)}
    (path_mem : path ∈ detourPaths offsets p₁ p₂) :
    path.head? = some p₁ ∧ path.getLast? = some p₂ := by
  have at_offset (offset : ℚ) : ∀ path ∈ detoursAt p₁ p₂ offset,
      path.head? = some p₁ ∧ path.getLast? = some p₂ := by
    simp [detoursAt]
  rw [detourPaths, List.mem_cons, List.mem_cons] at path_mem
  rcases path_mem with rfl | rfl | path_mem
  · exact ⟨rfl, rfl⟩
  · exact ⟨rfl, rfl⟩
  · obtain ⟨offset, -, path_mem⟩ := List.mem_flatMap.mp path_mem
    exact at_offset offset path path_mem

/-- Every kind of detour leads from the first point to the second one. -/
theorem ends_of_mem_tiers {tier : Strategy × (Point ℚ → Point ℚ → List (List (Point ℚ)))}
    (tier_mem : tier ∈ tiers) {p₁ p₂ : Point ℚ} {path : List (Point ℚ)}
    (path_mem : path ∈ tier.2 p₁ p₂) : path.head? = some p₁ ∧ path.getLast? = some p₂ := by
  simp only [tiers, List.mem_cons, List.not_mem_nil, or_false] at tier_mem
  rcases tier_mem with rfl | rfl | rfl | rfl
  · obtain rfl := List.mem_singleton.mp path_mem
    exact ⟨rfl, rfl⟩
  · simp only [bentPaths, List.mem_cons, List.not_mem_nil, or_false] at path_mem
    rcases path_mem with rfl | rfl <;> exact ⟨rfl, rfl⟩
  · exact ends_of_mem_detourPaths path_mem
  · exact ends_of_mem_curvePaths (by decide) path_mem

theorem joins_of_detour? {obstacles : List (Obstacle ℚ)} {p₁ p₂ : Point ℚ}
    {path : List (Point ℚ)} {strategy : Strategy}
    (found : detour? obstacles p₁ p₂ = some (path, strategy)) : Joins p₁ p₂ path := by
  obtain ⟨-, tier, tier_mem, -, candidate, candidate_mem, rfl⟩ := exists_candidate_of_detour? found
  obtain ⟨first, last⟩ := ends_of_mem_tiers tier_mem candidate_mem
  exact joins_dedupe first last

/-! ## Ways through the grid -/

/-- The polyline of a way through the grid leads through the centres of its cells, none of which is
visited twice. -/
theorem exists_cells_of_gridRoute {p₁ p₂ : Point ℚ} {obstacles : List (Obstacle ℚ)}
    {path : List (Point ℚ)}
    (done : gridRoute GridOptions.standard p₁ p₂ obstacles = .ok (some path)) :
    ∃ (raster : Raster ℚ) (start goal : GridCell) (cells : List GridCell), 1 ≤ raster.cell ∧
      raster.center start = p₁ ∧ IsStepwise (start :: cells) ∧ (start :: cells).Nodup ∧
        (start :: cells).getLast? = some goal ∧
          path = simplify (p₁ :: (cells.map raster.center ++ [p₂])) := by
  have cell_pos : 1 ≤ (GridOptions.standard : GridOptions ℚ).cell := by
    change (1 : ℚ) ≤ ((10 : ℕ) : ℚ)
    norm_num
  have some_cells : (160 : ℤ) ≠ 0 := by decide
  have roomy : 0 ≤ (GridOptions.standard : GridOptions ℚ).margin := Nat.cast_nonneg 160
  obtain ⟨raster, raster_eq, done⟩ := ok_of_bind done
  obtain ⟨start, start_eq, done⟩ := ok_of_bind done
  obtain ⟨goal, -, done⟩ := ok_of_bind done
  obtain ⟨ranges, -, done⟩ := ok_of_bind done
  obtain ⟨least, center_eq, inside⟩ :=
    Raster.center_of_around (zero_lt_one.trans_le cell_pos) some_cells roomy raster_eq start_eq
  obtain ⟨way, found, rfl⟩ := Option.map_eq_some_iff.mp (Except.ok.inj done)
  obtain ⟨isWay, shortest⟩ := isWay_of_shortestWay inside found
  have distinct := isWay.nodup_of_shortest shortest
  obtain ⟨cells, rfl, -⟩ := isWay.exists_steps
  exact ⟨raster, start, goal, cells, cell_pos.trans least, center_eq, isWay.stepwise, distinct,
    isWay.last, rfl⟩

/-- Corners that are centres of different cells are no repetitions. -/
theorem dedupe_of_sublist_centers {raster : Raster ℚ} (coarse : 1 ≤ raster.cell)
    {cells : List GridCell} (distinct : cells.Nodup) {path : List (Point ℚ)}
    (long : 2 ≤ path.length) (corners : path.Sublist (cells.map raster.center)) :
    dedupe path = path := by
  have far : (cells.map raster.center).Pairwise fun a b => isNear a b = false :=
    List.pairwise_map.mpr (distinct.imp (Raster.isNear_center_eq_false coarse))
  exact dedupe_of_far long (far.sublist corners).isChain

theorem joins_of_gridRoute {p₁ p₂ : Point ℚ} {obstacles : List (Obstacle ℚ)}
    {path : List (Point ℚ)}
    (done : gridRoute GridOptions.standard p₁ p₂ obstacles = .ok (some path)) :
    Joins p₁ p₂ (dedupe path) := by
  obtain ⟨raster, start, goal, cells, coarse, rfl, stepwise, distinct, last, rfl⟩ :=
    exists_cells_of_gridRoute done
  have kept := Raster.dropNear_centers coarse stepwise last p₂
  obtain ⟨first, ends⟩ := ends_of_simplify (raster.center start) (cells.map raster.center) p₂
  -- Either the end itself is kept, or all corners are centres of cells.
  rcases List.sublist_singleton.mp (dropNear_sublist (raster.center goal) [p₂]) with
    dropped | end_kept
  · rw [dropped, List.append_nil] at kept
    suffices same : dedupe (simplify (raster.center start :: (cells.map raster.center ++ [p₂]))) =
        simplify (raster.center start :: (cells.map raster.center ++ [p₂])) by
      rw [same]
      exact ⟨first, ends⟩
    cases cells with
    | nil =>
        rw [simplify_of_dropNear_eq_nil kept, dedupe, dropNear, isNear_self]
        rfl
    | cons next cells =>
        rw [simplify_of_dropNear_eq_cons kept]
        refine dedupe_of_sublist_centers coarse distinct ?_
          ((dropStraight_sublist _ _).cons_cons _)
        have filled :
            dropStraight (raster.center start) ((next :: cells).map raster.center) ≠ [] := by
          intro none
          have last := getLast?_dropStraight (raster.center start)
            ((next :: cells).map raster.center)
          rw [none, List.map_cons, List.getLast?_cons] at last
          cases last
        exact Nat.succ_le_succ (List.length_pos_iff.mpr filled)
  · apply joins_dedupe first
    rw [end_kept] at kept
    cases cells with
    | nil =>
        rw [simplify_of_dropNear_eq_cons kept]
        rfl
    | cons next cells =>
        have last : ((next :: cells).map raster.center ++ [p₂]).getLast? = some p₂ :=
          List.getLast?_concat
        rw [simplify_of_dropNear_eq_cons kept, List.getLast?_cons, getLast?_dropStraight]
        exact congrArg (fun reached => some (reached.getD (raster.center start))) last

/-! ## Routes -/

/-- Whether a polyline begins at a point around the source of an edge and ends at or near a point
around its target. -/
structure Attached (source target : Node ℚ) (style : EdgeStyle) (path : List (Point ℚ)) : Prop where
  /-- The first point. -/
  first : ∃ p₁ ∈ attachments source target (style.startRadius : ℚ), path.head? = some p₁
  /-- The last point. -/
  last : ∃ p₂ ∈ attachments target source (style.endRadius : ℚ), ∃ reached,
    path.getLast? = some reached ∧ |reached.x - p₂.x| < 1 / 10 ^ 9 ∧
      |reached.y - p₂.y| < 1 / 10 ^ 9

theorem Joins.attached {source target : Node ℚ} {style : EdgeStyle} {p₁ p₂ : Point ℚ}
    {path : List (Point ℚ)} (joins : Joins p₁ p₂ path)
    (start_mem : p₁ ∈ attachments source target (style.startRadius : ℚ))
    (goal_mem : p₂ ∈ attachments target source (style.endRadius : ℚ)) :
    Attached source target style path := by
  obtain ⟨first, reached, last, near⟩ := joins
  exact ⟨⟨p₁, start_mem, first⟩, p₂, goal_mem, reached, last, isNear_iff.mp near⟩

theorem attached_of_wayAround {source target : Node ℚ} {style : EdgeStyle}
    {obstacles : List (Obstacle ℚ)} {best : Candidate ℚ}
    (done : wayAround source target style obstacles = .ok (some best)) :
    Attached source target style best.path := by
  refine of_wayAround (motive := fun best => Attached source target style best.path) ?_ ?_ done
  · intro pair pair_mem path strategy offered
    obtain ⟨start_mem, goal_mem⟩ := mem_allPairs.mp pair_mem
    exact (joins_of_detour? offered).attached start_mem goal_mem
  · intro pair pair_mem path way_done _
    obtain ⟨start_mem, goal_mem⟩ := mem_allPairs.mp pair_mem
    exact (joins_of_gridRoute way_done).attached (List.mem_of_mem_take start_mem)
      (List.mem_of_mem_take goal_mem)

/-- Between two nodes there is a route. A straight or direct one is the line between the ends of the
edge; every other one begins at a point around the source and ends at or near one around the
target. -/
theorem routeEdge_ends {source target : Node ℚ} (apart : source.id ≠ target.id)
    (nodes : List (Node ℚ)) (style : EdgeStyle) :
    ∃ route, routeEdge source target nodes style = .ok route ∧
      (route.strategy = .straight ∨ route.strategy = .direct →
        route.points = [(endpoints source target style).1, (endpoints source target style).2]) ∧
      (¬(route.strategy = .straight ∨ route.strategy = .direct) →
        Attached source target style route.points) := by
  obtain ⟨route, done⟩ := exists_routeEdge_ok source target nodes style
  refine ⟨route, done, ?_⟩
  rw [routeEdge] at done
  extract_lets obstacles line at done
  rw [if_neg apart] at done
  split at done
  · cases done
    exact ⟨fun _ => rfl, fun other => absurd (Or.inl rfl) other⟩
  · obtain ⟨best, found, done⟩ := ok_of_bind done
    cases best with
    | some best =>
        cases done
        obtain ⟨not_straight, not_direct⟩ := (sound_of_wayAround found).around
        exact ⟨fun line => absurd line (not_or.mpr ⟨not_straight, not_direct⟩),
          fun _ => attached_of_wayAround found⟩
    | none =>
        cases done
        exact ⟨fun _ => rfl, fun other => absurd (Or.inr rfl) other⟩

end

private def stopAt (id : String) (x y : ℚ) : Node ℚ :=
  { id, label := id, name := none, x, y, cluster := none }

private def stops : List (Node ℚ) :=
  [stopAt "first" 0 0, stopAt "last" 200 0, stopAt "between" 100 20]

theorem routeEdge_ends_around :
    let _ : Lengths := Lengths.alongAxes
    ∃ route, routeEdge (stopAt "first" 0 0) (stopAt "last" 200 0) stops .solid = .ok route ∧
      Attached (stopAt "first" 0 0) (stopAt "last" 200 0) .solid route.points := by
  let _ : Lengths := Lengths.alongAxes
  have apart : (stopAt "first" 0 0).id ≠ (stopAt "last" 200 0).id := by decide
  obtain ⟨route, done, -, attached⟩ := routeEdge_ends apart stops .solid
  have visible : isClear (dedupe [(⟨0, -18⟩ : Point ℚ), ⟨200, -30⟩])
      (obstaclesOf stops "first" "last") = true := by
    decide +kernel
  have routed : route.routed = true :=
    routed_of_detoured done apart (by decide +kernel)
      ⟨(⟨0, -18⟩, ⟨200, -30⟩), by decide +kernel, rfl, _, _, detour?_of_visible visible,
        by decide +kernel⟩
  have around := ((honest_of_routeEdge done).routed apart).mp routed
  exact ⟨route, done, attached (not_or.mpr around)⟩

end Routing
end ClusterDiagram
