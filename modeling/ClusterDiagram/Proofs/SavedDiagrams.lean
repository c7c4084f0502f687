import ClusterDiagram.Graph.Document
import ClusterDiagram.Proofs.AttributeText
import ClusterDiagram.Proofs.Computations
import ClusterDiagram.Proofs.DoubleCanvases

/-!
# Saved diagrams

A diagram that is written as a document is read back as it was, when no text that counts as absent
is there and every anchor is whole. Only the sign of a zero is lost where a node lies at one, and
that makes no difference to comparisons.
-/

namespace ClusterDiagram

/-! ## The two zeros -/

namespace Double

open Float.Model Float.Model.UnpackedFloat

/-- A stored zero has neither an exponent nor a mantissa. -/
theorem bits_of_stored_zero {x : Float} {sign : Sign} (zero : stored x = .zero sign) :
    x.toBits.toNat / 2 ^ 52 % 2 ^ 11 = 0 ∧ x.toBits.toNat % 2 ^ 52 = 0 := by
  have stored_eq : stored x = UnpackedFloat.unpack Format.binary64 x.toBits.toBitVec := rfl
  rw [stored_eq, unpack_eq] at zero
  dsimp only at zero
  split at zero
  · split at zero <;> cases zero
  · split at zero
    · rename_i exponent_zero
      refine ⟨?_, ?_⟩
      · have exponent_eq := congrArg BitVec.toNat exponent_zero
        rw [unpackExponent_toNat] at exponent_eq
        exact exponent_eq
      · rw [ofParts] at zero
        split at zero
        · rename_i mantissa_zero
          rwa [unpackMantissa_toNat] at mantissa_zero
        · cases zero
    · rw [ofParts, dif_neg (by omega)] at zero
      cases zero

/-- A double that counts as zero is one of two. -/
theorem eq_zero_or_eq_neg_zero {x : Float} (finite : x.isFinite = true)
    (zero : Scalar.isZero x = true) : x = ((0 : ℕ) : Float) ∨ x = -0.0 := by
  have value_eq : value (stored x) = 0 :=
    (beq_iff_of_holds (holds_value finite) (holds_natCast ⟨0, by simp, by decide⟩)).mp zero
  obtain ⟨sign, stored_eq⟩ : ∃ sign, stored x = .zero sign := by
    have canonical := canonical_stored finite
    cases number : stored x with
    | notANumber => rw [number] at canonical; cases canonical
    | infinity sign => rw [number] at canonical; cases canonical
    | zero sign => exact ⟨sign, rfl⟩
    | finite sign mantissa exponent positive =>
        rw [number] at value_eq
        exact absurd value_eq (signed_ne_zero sign positive.ne' exponent)
  obtain ⟨exponent_eq, mantissa_eq⟩ := bits_of_stored_zero stored_eq
  have below : x.toBits.toNat < 2 ^ 64 := x.toBits.toNat_lt
  have bits_eq : x.toBits.toNat = 0 ∨ x.toBits.toNat = 2 ^ 63 := by omega
  rw [← Float.ofBits_toBits x]
  refine bits_eq.imp (fun bits_eq => ?_) (fun bits_eq => ?_)
  · rw [show x.toBits = 0 from UInt64.toNat_inj.mp bits_eq]
    rfl
  · rw [show x.toBits = 0x8000000000000000 from UInt64.toNat_inj.mp bits_eq]
    rfl

end Double

variable {α : Type}

/-! ## Entities -/

/-- A cluster that a document can tell. -/
structure Cluster.Storable (cluster : Cluster α) : Prop where
  /-- There is a label. -/
  label : cluster.label ≠ ""
  /-- The parent is not the empty id. -/
  parent : cluster.parent ≠ some ""
  /-- The anchor is whole or absent. -/
  anchor : cluster.x.isSome = cluster.y.isSome

/-- A node that a document can tell. -/
structure Node.Storable (node : Node α) : Prop where
  /-- There is a label. -/
  label : node.label ≠ ""
  /-- The alias is not empty. -/
  name : node.name ≠ some ""
  /-- The node does not lie in the empty id. -/
  cluster : node.cluster ≠ some ""

/-- A diagram that a document can tell. -/
structure Graph.Storable (graph : Graph α) : Prop where
  /-- A document can tell every cluster. -/
  clusters : ∀ cluster ∈ graph.clusters, cluster.Storable
  /-- A document can tell every node. -/
  nodes : ∀ node ∈ graph.nodes, node.Storable
  /-- No edge has an empty label. -/
  labels : ∀ edge ∈ graph.edges, edge.label ≠ some ""

section Entities

variable [Scalar α]

/-- A node with every zero made positive. -/
def Node.reloaded (node : Node α) : Node α :=
  { node with x := Scalar.normalizeZero node.x, y := Scalar.normalizeZero node.y }

namespace Json

theorem isVoid_text {value : String} (filled : value ≠ "") :
    (Json.text value : Json α).isVoid = false := by
  simpa [isVoid] using filled

theorem optionalShown_ofText? {value : Option String} (filled : value ≠ some "") :
    (ofText? value : Json α).optionalShown = value := by
  cases value with
  | none => rfl
  | some value =>
      rw [ofText?, optionalShown, isVoid_text fun empty => filled (congrArg some empty)]
      rfl

theorem optionalText_ofText? {value : Option String} (filled : value ≠ some "") :
    (ofText? value : Json α).optionalText = .ok value := by
  cases value with
  | none => rfl
  | some value =>
      rw [ofText?, optionalText, isVoid_text fun empty => filled (congrArg some empty)]
      rfl

theorem edgeStyle_name (style : EdgeStyle) :
    (Json.text style.name : Json α).edgeStyle = .ok style := by
  have filled : some style.name ≠ some "" := by cases style <;> decide
  have named : (Json.text style.name : Json α).optionalText = .ok (some style.name) :=
    optionalText_ofText? filled
  rw [edgeStyle, named]
  exact congrArg Except.ok (Attributes.ofText_name style)

section Fields

omit [Scalar α]

variable {key other : String} {value : Json α} {rest : List (String × Json α)}

theorem findD_nil : findD key ([] : List (String × Json α)) = .null := rfl

theorem findD_head : findD key ((key, value) :: rest) = value := by
  rw [findD, List.lookup_cons_self, Option.getD_some]

theorem findD_tail (apart : key ≠ other) :
    findD key ((other, value) :: rest) = findD key rest := by
  rw [findD, List.lookup_cons, beq_false_of_ne apart]
  rfl

theorem required_head : required key ((key, value) :: rest) = .ok value := by
  rw [required, find?, List.lookup_cons_self]

theorem required_tail (apart : key ≠ other) :
    required key ((other, value) :: rest) = required key rest := by
  rw [required, find?, List.lookup_cons, beq_false_of_ne apart]
  rfl

end Fields

theorem idAndLabel_eq {id label : String} (filled : label ≠ "") (rest : List (String × Json α)) :
    idAndLabel (("id", .text id) :: ("label", .text label) :: rest) = .ok (id, label) := by
  simp (disch := decide) only [idAndLabel, required_head, findD_head, findD_tail,
    isVoid_text filled, bind, Except.bind, pure, Except.pure]
  rfl

end Json

open Json

theorem Cluster.ofJson_toJson {cluster : Cluster α} (storable : cluster.Storable) :
    Cluster.ofJson cluster.toJson = .ok cluster := by
  obtain ⟨id, label, parent, x, y⟩ := cluster
  obtain ⟨label_filled, parent_filled, anchor⟩ := storable
  have parent_eq : (ofText? parent : Json α).optionalShown = parent :=
    optionalShown_ofText? parent_filled
  cases x <;> cases y <;> cases anchor
  all_goals
    simp (disch := decide) only [Cluster.ofJson, Cluster.toJson, entity, List.cons_append,
      List.nil_append, idAndLabel_eq label_filled, findD_head, findD_tail, findD_nil, parent_eq,
      scalar?, bind, Except.bind, pure, Except.pure]

theorem Node.ofJson_toJson {node : Node α} (storable : node.Storable) :
    Node.ofJson node.toJson = .ok node.reloaded := by
  obtain ⟨id, label, name, x, y, cluster⟩ := node
  obtain ⟨label_filled, name_filled, cluster_filled⟩ := storable
  have name_eq : (ofText? name : Json α).optionalText = .ok name :=
    optionalText_ofText? name_filled
  have cluster_eq : (ofText? cluster : Json α).optionalShown = cluster :=
    optionalShown_ofText? cluster_filled
  simp (disch := decide) only [Node.ofJson, Node.toJson, entity, idAndLabel_eq label_filled,
    findD_head, findD_tail, name_eq, cluster_eq, scalarOrZero, scalar?, Option.getD_some, bind,
    Except.bind, pure, Except.pure, Node.reloaded]

theorem Edge.ofJson_toJson {edge : Edge} (label_filled : edge.label ≠ some "") :
    Edge.ofJson (edge.toJson : Json α) = .ok edge := by
  obtain ⟨id, source, target, label, style⟩ := edge
  have label_eq : (if (ofText? label : Json α).isVoid then (.null : Json α)
      else ofText? label).optionalShown = label := by
    cases label with
    | none => rfl
    | some label =>
        have not_void : (ofText? (some label) : Json α).isVoid = false :=
          isVoid_text fun empty => label_filled (congrArg some empty)
        rw [not_void]
        exact optionalShown_ofText? label_filled
  simp (disch := decide) only [Edge.ofJson, Edge.toJson, entity, required_head, required_tail,
    findD_head, findD_tail, findD_nil, edgeStyle_name, asText, label_eq, bind, Except.bind, pure,
    Except.pure]

end Entities

/-! ## Diagrams -/

theorem mapM_map_ok {ε β γ : Type} {write : β → α} {read : α → Except ε γ} {value : β → γ}
    {items : List β} (reads : ∀ item ∈ items, read (write item) = .ok (value item)) :
    (items.map write).mapM read = .ok (items.map value) := by
  obtain ⟨results, results_eq, values_eq⟩ : ∃ results, items.mapM (read ∘ write) = .ok results ∧
      results.map id = items.map value :=
    exists_mapM_ok_map fun item item_mem => ⟨_, reads item item_mem, rfl⟩
  rw [List.mapM_map, results_eq, ← values_eq, List.map_id]

namespace Graph

variable [Scalar α]

/-- A diagram with every zero that a node lies at made positive. -/
def reloaded (graph : Graph α) : Graph α :=
  { graph with nodes := graph.nodes.map Node.reloaded }

theorem entities_toFields (graph : Graph α) :
    Json.entities "clusters" graph.toFields = .ok (graph.clusters.map Cluster.toJson) ∧
      Json.entities "nodes" graph.toFields = .ok (graph.nodes.map Node.toJson) ∧
      Json.entities "edges" graph.toFields = .ok (graph.edges.map Edge.toJson) := by
  have listed {name : String} {items : List (Json α)}
      (found : Json.findD name graph.toFields = .list items) :
      Json.entities name graph.toFields = .ok items := by
    rw [Json.entities, found]
    cases items <;> rfl
  exact ⟨listed rfl, listed rfl, listed rfl⟩

theorem ofJson_toJson {graph : Graph α} (storable : graph.Storable) :
    Graph.ofJson graph.toJson = .ok graph.reloaded := by
  obtain ⟨clusters_eq, nodes_eq, edges_eq⟩ := graph.entities_toFields
  have clusters_read : (graph.clusters.map Cluster.toJson).mapM Cluster.ofJson =
      .ok (graph.clusters.map id) :=
    mapM_map_ok fun cluster cluster_mem =>
      Cluster.ofJson_toJson (storable.clusters cluster cluster_mem)
  have nodes_read : (graph.nodes.map Node.toJson).mapM Node.ofJson =
      .ok (graph.nodes.map Node.reloaded) :=
    mapM_map_ok fun node node_mem => Node.ofJson_toJson (storable.nodes node node_mem)
  have edges_read : (graph.edges.map (Edge.toJson : Edge → Json α)).mapM Edge.ofJson =
      .ok (graph.edges.map id) :=
    mapM_map_ok fun edge edge_mem => Edge.ofJson_toJson (storable.labels edge edge_mem)
  simp only [toJson, ofJson, clusters_eq, nodes_eq, edges_eq, clusters_read, nodes_read, edges_read,
    List.map_id, reloaded, bind, Except.bind, pure, Except.pure]

theorem reloaded_reloaded (graph : Graph α) : graph.reloaded.reloaded = graph.reloaded := by
  have again (a : α) :
      Scalar.normalizeZero (Scalar.normalizeZero a) = Scalar.normalizeZero a := by
    by_cases zero : Scalar.isZero a = true
    · rw [Scalar.normalizeZero.eq_def a, if_pos zero, Scalar.normalizeZero, ite_self]
    · rw [Scalar.normalizeZero.eq_def a, if_neg zero, Scalar.normalizeZero, if_neg zero]
  have node_again (node : Node α) : node.reloaded.reloaded = node.reloaded := by
    simp only [Node.reloaded, again]
  simp only [reloaded, List.map_map, Function.comp_def, node_again]

theorem storable_reloaded {graph : Graph α} (storable : graph.Storable) :
    graph.reloaded.Storable where
  clusters := storable.clusters
  nodes := by
    rw [reloaded, List.forall_mem_map]
    intro node node_mem
    obtain ⟨label, name, cluster⟩ := storable.nodes node node_mem
    exact ⟨label, name, cluster⟩
  labels := storable.labels

end Graph

/-! ## Agreement -/

section Agreement

variable [BEq α]

/-- Whether two clusters agree: their anchors compare as equal, and all else is equal. -/
def Cluster.agrees (cluster other : Cluster α) : Bool :=
  cluster.id == other.id && cluster.label == other.label && cluster.parent == other.parent &&
    cluster.x == other.x && cluster.y == other.y

/-- Whether two nodes agree: their positions compare as equal, and all else is equal. -/
def Node.agrees (node other : Node α) : Bool :=
  node.id == other.id && node.label == other.label && node.name == other.name &&
    node.x == other.x && node.y == other.y && node.cluster == other.cluster

/-- Whether two diagrams agree, entity by entity. -/
def Graph.agrees (graph other : Graph α) : Bool :=
  graph.clusters.isEqv other.clusters Cluster.agrees &&
    graph.nodes.isEqv other.nodes Node.agrees && graph.edges.isEqv other.edges (· == ·)

namespace Json

mutual

/-- Whether two documents agree: fractional numbers compare as equal, and all else is equal. -/
def agrees : Json α → Json α → Bool
  | .null, .null => true
  | .bool value, .bool other => value == other
  | .int value, .int other => value == other
  | .real value, .real other => value == other
  | .text value, .text other => value == other
  | .list items, .list others => itemsAgree items others
  | .object fields, .object others => fieldsAgree fields others
  | _, _ => false

/-- Whether two lists of documents agree, item by item. -/
def itemsAgree : List (Json α) → List (Json α) → Bool
  | [], [] => true
  | item :: items, other :: others => agrees item other && itemsAgree items others
  | _, _ => false

/-- Whether two lists of fields agree, field by field. -/
def fieldsAgree : List (String × Json α) → List (String × Json α) → Bool
  | [], [] => true
  | (key, value) :: fields, (key', value') :: others =>
      key == key' && agrees value value' && fieldsAgree fields others
  | _, _ => false

end

theorem agrees_ofText? (value : Option String) :
    (ofText? value : Json α).agrees (ofText? value) = true := by
  cases value with
  | none => rfl
  | some value => exact beq_self_eq_true value

/-- Lists of entities that agree are written as lists of documents that agree. -/
theorem itemsAgree_map {β : Type} {same : β → β → Bool} {write : β → Json α}
    (each : ∀ item other, same item other = true → (write item).agrees (write other) = true)
    {items others : List β} (agree : items.isEqv others same = true) :
    itemsAgree (items.map write) (others.map write) = true := by
  induction items generalizing others with
  | nil =>
      cases others with
      | nil => rfl
      | cons other others => cases agree
  | cons item items induction =>
      cases others with
      | nil => cases agree
      | cons other others =>
          obtain ⟨head, tail⟩ := Bool.and_eq_true_iff.mp agree
          exact Bool.and_eq_true_iff.mpr ⟨each item other head, induction tail⟩

end Json

theorem Cluster.toJson_agrees {cluster other : Cluster α} (agree : cluster.agrees other = true) :
    cluster.toJson.agrees other.toJson = true := by
  obtain ⟨id, label, parent, x, y⟩ := cluster
  obtain ⟨id', label', parent', x', y'⟩ := other
  simp only [agrees, Bool.and_eq_true, beq_iff_eq] at agree
  obtain ⟨⟨⟨⟨rfl, rfl⟩, rfl⟩, x_eq⟩, y_eq⟩ := agree
  cases x <;> cases x' <;> cases y <;> cases y' <;>
    simp_all [toJson, Json.agrees, Json.fieldsAgree, Json.agrees_ofText?]

theorem Node.toJson_agrees {node other : Node α} (agree : node.agrees other = true) :
    node.toJson.agrees other.toJson = true := by
  obtain ⟨id, label, name, x, y, cluster⟩ := node
  obtain ⟨id', label', name', x', y', cluster'⟩ := other
  simp only [agrees, Bool.and_eq_true, beq_iff_eq] at agree
  obtain ⟨⟨⟨⟨⟨rfl, rfl⟩, rfl⟩, x_eq⟩, y_eq⟩, rfl⟩ := agree
  simp only [toJson, Json.agrees, Json.fieldsAgree, Json.agrees_ofText?, beq_self_eq_true, x_eq,
    y_eq, Bool.and_self]

theorem Edge.toJson_agrees (edge : Edge) :
    (edge.toJson : Json α).agrees edge.toJson = true := by
  simp only [toJson, Json.agrees, Json.fieldsAgree, Json.agrees_ofText?, beq_self_eq_true,
    Bool.and_self]

/-- Diagrams that agree are written as documents that agree. -/
theorem Graph.toJson_agrees {graph other : Graph α} (agree : graph.agrees other = true) :
    graph.toJson.agrees other.toJson = true := by
  simp only [agrees, Bool.and_eq_true] at agree
  obtain ⟨⟨clusters, nodes⟩, edges⟩ := agree
  have edge_agrees (edge other : Edge) (same : (edge == other) = true) :
      (edge.toJson : Json α).agrees other.toJson = true := by
    rw [eq_of_beq same]
    exact other.toJson_agrees
  simp only [toJson, toFields, Json.agrees, Json.fieldsAgree, beq_self_eq_true, Bool.true_and,
    Bool.and_true, Bool.and_eq_true]
  exact ⟨Json.itemsAgree_map (fun _ _ => Cluster.toJson_agrees) clusters,
    Json.itemsAgree_map (fun _ _ => Node.toJson_agrees) nodes,
    Json.itemsAgree_map edge_agrees edges⟩

theorem isEqv_map {β : Type} {same : β → β → Bool} {change : β → β} {items : List β}
    (each : ∀ item ∈ items, same (change item) item = true) :
    (items.map change).isEqv items same = true := by
  induction items with
  | nil => rfl
  | cons item items induction =>
      rw [List.forall_mem_cons] at each
      exact Bool.and_eq_true_iff.mpr ⟨each.1, induction each.2⟩

end Agreement

/-! ## Diagrams of finite doubles -/

/-- All the coordinates of a diagram. -/
def Graph.coordinates (graph : Graph α) : List α :=
  graph.clusters.flatMap (fun cluster => cluster.x.toList ++ cluster.y.toList) ++
    graph.nodes.flatMap fun node => [node.x, node.y]

namespace Double

variable {x : Float}

theorem beq_self (finite : x.isFinite = true) : (x == x) = true :=
  (beq_iff_of_holds (holds_value finite) (holds_value finite)).mpr rfl

theorem normalizeZero_beq (finite : x.isFinite = true) :
    (Scalar.normalizeZero x == x) = true := by
  rw [Scalar.normalizeZero]
  split
  · rename_i zero
    rcases eq_zero_or_eq_neg_zero finite zero with rfl | rfl <;> decide
  · exact beq_self finite

theorem normalizeZero_eq (finite : x.isFinite = true) (not_negative : x ≠ -0.0) :
    Scalar.normalizeZero x = x := by
  rw [Scalar.normalizeZero]
  split
  · rename_i zero
    exact ((eq_zero_or_eq_neg_zero finite zero).resolve_right not_negative).symm
  · rfl

end Double

namespace Graph

variable {graph : Graph Float} (finite : ∀ a ∈ graph.coordinates, a.isFinite = true)

include finite

theorem finite_cluster {cluster : Cluster Float} (cluster_mem : cluster ∈ graph.clusters) :
    (∀ a ∈ cluster.x, a.isFinite = true) ∧ ∀ a ∈ cluster.y, a.isFinite = true := by
  have coordinate {a : Float} (a_mem : a ∈ cluster.x.toList ++ cluster.y.toList) :
      a.isFinite = true :=
    finite a (List.mem_append_left _ (List.mem_flatMap.mpr ⟨cluster, cluster_mem, a_mem⟩))
  refine ⟨fun a a_mem => coordinate ?_, fun a a_mem => coordinate ?_⟩
  · exact List.mem_append_left _ (Option.mem_toList.mpr a_mem)
  · exact List.mem_append_right _ (Option.mem_toList.mpr a_mem)

theorem finite_node {node : Node Float} (node_mem : node ∈ graph.nodes) :
    node.x.isFinite = true ∧ node.y.isFinite = true := by
  have coordinate {a : Float} (a_mem : a ∈ [node.x, node.y]) : a.isFinite = true :=
    finite a (List.mem_append_right _ (List.mem_flatMap.mpr ⟨node, node_mem, a_mem⟩))
  exact ⟨coordinate (by simp), coordinate (by simp)⟩

theorem reloaded_agrees : graph.reloaded.agrees graph = true := by
  have option_self {a? : Option Float} (finite : ∀ a ∈ a?, a.isFinite = true) :
      (a? == a?) = true := by
    cases a? with
    | none => rfl
    | some a => exact Double.beq_self (finite a rfl)
  have clusters : graph.clusters.isEqv graph.clusters Cluster.agrees = true := by
    have each : ∀ cluster ∈ graph.clusters, (id cluster).agrees cluster = true := by
      intro cluster cluster_mem
      obtain ⟨x_finite, y_finite⟩ := finite_cluster finite cluster_mem
      simp only [id_eq, Cluster.agrees, beq_self_eq_true, option_self x_finite,
        option_self y_finite, Bool.and_self]
    simpa only [List.map_id] using isEqv_map each
  have nodes : graph.reloaded.nodes.isEqv graph.nodes Node.agrees = true := by
    refine isEqv_map fun node node_mem => ?_
    obtain ⟨x_finite, y_finite⟩ := finite_node finite node_mem
    simp only [Node.reloaded, Node.agrees, beq_self_eq_true, Double.normalizeZero_beq x_finite,
      Double.normalizeZero_beq y_finite, Bool.and_self]
  have edges : graph.edges.isEqv graph.edges (· == ·) = true := by
    have each : ∀ edge ∈ graph.edges, (id edge == edge) = true :=
      fun edge _ => beq_self_eq_true edge
    simpa only [List.map_id] using isEqv_map each
  exact Bool.and_eq_true_iff.mpr ⟨Bool.and_eq_true_iff.mpr ⟨clusters, nodes⟩, edges⟩

theorem reloaded_eq (not_negative : ∀ node ∈ graph.nodes, node.x ≠ -0.0 ∧ node.y ≠ -0.0) :
    graph.reloaded = graph := by
  have nodes : graph.nodes.map Node.reloaded = graph.nodes := by
    refine (List.map_congr_left fun node node_mem => ?_).trans (List.map_id _)
    obtain ⟨x_finite, y_finite⟩ := finite_node finite node_mem
    obtain ⟨x_ne, y_ne⟩ := not_negative node node_mem
    rw [Node.reloaded, Double.normalizeZero_eq x_finite x_ne,
      Double.normalizeZero_eq y_finite y_ne]
    rfl
  rw [reloaded, nodes]

/-- A diagram of finite coordinates that a document can tell is read back from its document as a
diagram that agrees with it, which is again written as a document that agrees with the first one.
It is the very diagram unless a node lies at a negative zero, and what was read once is read and
written without any change. -/
theorem ofJson_toJson_agrees (storable : graph.Storable) :
    ∃ restored, Graph.ofJson graph.toJson = .ok restored ∧ restored.agrees graph = true ∧
      restored.toJson.agrees graph.toJson = true ∧
      Graph.ofJson restored.toJson = .ok restored ∧
      ((∀ node ∈ graph.nodes, node.x ≠ -0.0 ∧ node.y ≠ -0.0) → restored = graph) := by
  refine ⟨graph.reloaded, ofJson_toJson storable, reloaded_agrees finite,
    toJson_agrees (reloaded_agrees finite), ?_, reloaded_eq finite⟩
  rw [ofJson_toJson (storable_reloaded storable), reloaded_reloaded]

omit finite

/-- A node and an anchor at zeros of either sign, an alias, a nested cluster and a caption. -/
private def zeroed : Graph Float where
  clusters := [⟨"a", "A", none, some 0, some (-0.0)⟩, ⟨"b", "B", some "a", none, none⟩]
  nodes := [⟨"n", "N", some "0", -0.0, 60, some "b"⟩, ⟨"m", "M", none, 0, -40, none⟩]
  edges := [⟨"e", "n", "m", some "0", .doubleDotted⟩, ⟨"f", "m", "m", none, .dashed⟩]

theorem ofJson_toJson_agrees_zeroed :
    (∀ a ∈ zeroed.coordinates, a.isFinite = true) ∧ zeroed.Storable ∧
      ∃ restored, Graph.ofJson zeroed.toJson = .ok restored ∧ restored.agrees zeroed = true ∧
        restored.toJson.agrees zeroed.toJson = true ∧
        Graph.ofJson restored.toJson = .ok restored := by
  have finite : ∀ a ∈ zeroed.coordinates, a.isFinite = true := by decide +kernel
  have storable : zeroed.Storable := by
    refine ⟨?_, ?_, ?_⟩
    · rw [zeroed, List.forall_mem_cons, List.forall_mem_singleton]
      exact ⟨⟨by decide, by decide, rfl⟩, ⟨by decide, by decide, rfl⟩⟩
    · rw [zeroed, List.forall_mem_cons, List.forall_mem_singleton]
      exact ⟨⟨by decide, by decide, by decide⟩, ⟨by decide, by decide, by decide⟩⟩
    · decide
  obtain ⟨restored, restored_eq, agree, written, again, -⟩ :=
    ofJson_toJson_agrees finite storable
  exact ⟨finite, storable, restored, restored_eq, agree, written, again⟩

end Graph

end ClusterDiagram
