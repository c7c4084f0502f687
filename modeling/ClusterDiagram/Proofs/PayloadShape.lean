import ClusterDiagram.Proofs.DocumentSizes
import ClusterDiagram.Remote.Payload

/-!
# Shapes of payloads

A payload is read exactly when it is an object with three lists of well-formed objects and a message
that is a text or absent. What is well-formed is said field by field, without reading anything.
-/

namespace ClusterDiagram
namespace Payload

variable {α β γ : Type}

/-! ## Checked values -/

theorem exists_both_ok_iff {first : Checked β} {second : Checked γ} :
    (∃ pair, both first second = .ok pair) ↔
      (∃ value, first = .ok value) ∧ ∃ value, second = .ok value := by
  cases first <;> cases second <;> simp [both]

theorem ok_of_both {first : Checked β} {second : Checked γ} {value : β} {other : γ}
    (done : both first second = .ok (value, other)) : first = .ok value ∧ second = .ok other := by
  cases first <;> cases second <;> cases done
  exact ⟨rfl, rfl⟩

theorem exists_map_ok_iff {checked : Checked β} {f : β → γ} :
    (∃ value, checked.map f = .ok value) ↔ ∃ value, checked = .ok value := by
  cases checked <;> simp [Except.map]

theorem exists_bind_ok_iff {checked : Checked β} {next : β → Checked γ}
    (total : ∀ value, ∃ result, next value = .ok result) :
    (∃ result, (checked >>= next) = .ok result) ↔ ∃ value, checked = .ok value := by
  constructor
  · rintro ⟨result, done⟩
    obtain ⟨value, checked_eq, -⟩ := ok_of_bind done
    exact ⟨value, checked_eq⟩
  · rintro ⟨value, rfl⟩
    exact total value

theorem exists_all_ok_iff {items : List (Checked β)} :
    (∃ values, all items = .ok values) ↔ ∀ item ∈ items, ∃ value, item = .ok value := by
  induction items with
  | nil => simp [all]
  | cons item items induction =>
      rw [all, exists_map_ok_iff, exists_both_ok_iff, induction, List.forall_mem_cons]

theorem length_of_all {items : List (Checked β)} {values : List β}
    (done : all items = .ok values) : values.length = items.length := by
  induction items generalizing values with
  | nil =>
      cases done
      rfl
  | cons item items induction =>
      rw [all] at done
      obtain ⟨⟨value, rest⟩, joined, rfl⟩ := ok_of_map done
      rw [List.length_cons, List.length_cons, induction (ok_of_both joined).2]

/-! ## Shapes -/

/-- Whether a text stands in the first of some fields that is there. -/
def HasText (names : List String) (fields : List (String × Json α)) : Prop :=
  ∃ text, field? names fields = some (.text text)

/-- Whether a text or nothing stands in the first of some fields that is there. -/
def MayHaveText (names : List String) (fields : List (String × Json α)) : Prop :=
  ∀ value, field? names fields = some value → value = .null ∨ ∃ text, value = .text text

/-- Whether each item of a list that is there is an object of a shape. -/
def HasList (name : String) (shape : List (String × Json α) → Prop)
    (fields : List (String × Json α)) : Prop :=
  ∃ items, Json.find? name fields = some (.list items) ∧
    ∀ item ∈ items, ∃ inner, item = .object inner ∧ shape inner

variable [Scalar α]

/-- Whether a document stands for a number: a number within range, a truth value, or a text that is
read as a number. -/
def IsNumeric : Json α → Prop
  | .bool _ | .real _ => True
  | .int value => (Scalar.ofInt? value : Option α).isSome
  | .text text => (readNumber? text).isSome
  | _ => False

/-- Whether a number or nothing stands in a field. -/
def MayHaveNumber (name : String) (fields : List (String × Json α)) : Prop :=
  ∀ value, Json.find? name fields = some value → value = .null ∨ IsNumeric value

/-- The shape of a cluster. -/
structure ClusterShape (fields : List (String × Json α)) : Prop where
  /-- The id is a text. -/
  id : HasText ["id"] fields
  /-- The label is a text. -/
  label : HasText ["label"] fields
  /-- The parent is a text or absent. -/
  parent : MayHaveText ["parentId", "parent_id"] fields
  /-- The first coordinate is a number or absent. -/
  x : MayHaveNumber "x" fields
  /-- The second coordinate is a number or absent. -/
  y : MayHaveNumber "y" fields

/-- The shape of a node. -/
structure NodeShape (fields : List (String × Json α)) : Prop where
  /-- The id is a text. -/
  id : HasText ["id"] fields
  /-- The label is a text. -/
  label : HasText ["label"] fields
  /-- The alias is a text or absent. -/
  name : MayHaveText ["name"] fields
  /-- The cluster is a text or absent. -/
  cluster : MayHaveText ["clusterId", "cluster_id"] fields
  /-- The first coordinate is a number or absent. -/
  x : MayHaveNumber "x" fields
  /-- The second coordinate is a number or absent. -/
  y : MayHaveNumber "y" fields

/-- The shape of an edge. -/
structure EdgeShape (fields : List (String × Json α)) : Prop where
  /-- The start is a text. -/
  source : HasText ["from", "source"] fields
  /-- The end is a text. -/
  target : HasText ["to", "target"] fields
  /-- The id is a text or absent. -/
  id : MayHaveText ["id"] fields
  /-- The style is a text or absent. -/
  style : MayHaveText ["type"] fields
  /-- The label is a text or absent. -/
  label : MayHaveText ["label"] fields
  /-- The misspelt label is a text or absent. -/
  misspelt : MayHaveText ["lable"] fields

/-- Whether the three lists are there and well-formed. -/
structure HasLists (fields : List (String × Json α)) : Prop where
  /-- The clusters are well-formed. -/
  clusters : HasList "clusters" ClusterShape fields
  /-- The nodes are well-formed. -/
  nodes : HasList "nodes" NodeShape fields
  /-- The edges are well-formed. -/
  edges : HasList "edges" EdgeShape fields

/-! ## Reading -/

section Fields

omit [Scalar α]

theorem exists_requiredText_ok_iff {names : List String} {fields : List (String × Json α)} :
    (∃ text, requiredText names fields = .ok text) ↔ HasText names fields := by
  rw [HasText]
  cases found : field? names fields with
  | none => simp [requiredText, found]
  | some value => cases value <;> simp [requiredText, found]

theorem exists_optionalText_ok_iff {names : List String} {fields : List (String × Json α)} :
    (∃ text, optionalText names fields = .ok text) ↔ MayHaveText names fields := by
  rw [MayHaveText]
  cases found : field? names fields with
  | none => simp [optionalText, found]
  | some value => cases value <;> simp [optionalText, found]

theorem exists_requiredList_ok_iff {name : String} {read : List (String × Json α) → Checked β}
    {shape : List (String × Json α) → Prop} {fields : List (String × Json α)}
    (reads : ∀ inner, (∃ value, read inner = .ok value) ↔ shape inner) :
    (∃ values, requiredList name read fields = .ok values) ↔ HasList name shape fields := by
  rw [HasList]
  cases found : Json.find? name fields with
  | none => simp [requiredList, found]
  | some value =>
      cases value with
      | list items =>
          simp only [requiredList, found, exists_all_ok_iff, List.forall_mem_map,
            Option.some.injEq, Json.list.injEq, exists_eq_left']
          refine forall₂_congr fun item _ => ?_
          cases item <;> simp [reads]
      | _ => simp [requiredList, found]

end Fields

theorem exists_optionalNumber_ok_iff {name : String} {fields : List (String × Json α)} :
    (∃ number, optionalNumber name fields = .ok number) ↔ MayHaveNumber name fields := by
  rw [MayHaveNumber]
  cases found : Json.find? name fields with
  | none => simp [optionalNumber, found]
  | some value =>
      cases value with
      | int value => cases exact_value : (Scalar.ofInt? value : Option α) <;>
          simp [optionalNumber, found, IsNumeric, exact_value]
      | text text => cases read : readNumber? text <;>
          simp [optionalNumber, found, IsNumeric, read]
      | _ => simp [optionalNumber, found, IsNumeric]

/-! ## Entities -/

theorem exists_cluster_ok_iff {fields : List (String × Json α)} :
    (∃ cluster, Payload.cluster fields = .ok cluster) ↔ ClusterShape fields := by
  refine (exists_bind_ok_iff fun _ => ⟨_, rfl⟩).trans ?_
  simp only [exists_both_ok_iff, exists_requiredText_ok_iff, exists_optionalText_ok_iff,
    exists_optionalNumber_ok_iff]
  exact ⟨fun ⟨⟨id, label⟩, parent, x, y⟩ => ⟨id, label, parent, x, y⟩,
    fun shape => ⟨⟨shape.id, shape.label⟩, shape.parent, shape.x, shape.y⟩⟩

theorem exists_node_ok_iff {fields : List (String × Json α)} :
    (∃ node, Payload.node fields = .ok node) ↔ NodeShape fields := by
  refine (exists_bind_ok_iff fun _ => ⟨_, rfl⟩).trans ?_
  simp only [exists_both_ok_iff, exists_requiredText_ok_iff, exists_optionalText_ok_iff,
    exists_optionalNumber_ok_iff]
  exact ⟨fun ⟨⟨id, label⟩, ⟨name, cluster⟩, x, y⟩ => ⟨id, label, name, cluster, x, y⟩,
    fun shape => ⟨⟨shape.id, shape.label⟩, ⟨shape.name, shape.cluster⟩, shape.x, shape.y⟩⟩

omit [Scalar α] in
theorem exists_edge_ok_iff {fields : List (String × Json α)} :
    (∃ edge, Payload.edge fields = .ok edge) ↔ EdgeShape fields := by
  refine (exists_bind_ok_iff fun _ => ⟨_, rfl⟩).trans ?_
  simp only [exists_both_ok_iff, exists_requiredText_ok_iff, exists_optionalText_ok_iff]
  exact ⟨fun ⟨⟨source, target⟩, ⟨id, style⟩, label, misspelt⟩ =>
      ⟨source, target, id, style, label, misspelt⟩,
    fun shape => ⟨⟨shape.source, shape.target⟩, ⟨shape.id, shape.style⟩, shape.label,
      shape.misspelt⟩⟩

omit [Scalar α] in
theorem length_le_of_requiredList {bound : Nat} {name : String}
    {read : List (String × Json α) → Checked β} {fields : List (String × Json α)} {values : List β}
    (bounded : Json.Bounded bound (.object fields))
    (done : requiredList name read fields = .ok values) : values.length ≤ bound := by
  cases found : Json.find? name fields with
  | none =>
      simp only [requiredList, found] at done
      cases done
  | some value =>
      cases bounded with
      | object each =>
          have value_bounded := each value
            (List.mem_map.mpr ⟨_, Assoc.mem_of_lookup found, rfl⟩)
          cases value_bounded with
          | list few _ =>
              simp only [requiredList, found] at done
              rw [length_of_all done, List.length_map]
              exact few
          | _ =>
              simp only [requiredList, found] at done
              cases done

end Payload

variable {α : Type} [Scalar α]

/-- A payload is read exactly when it is an object with three well-formed lists, and with a text for
a message if with any. -/
theorem exists_ofPayload_ok_iff {document : Json α} :
    (∃ graph, Graph.ofPayload document = .ok graph) ↔
      ∃ fields, document = .object fields ∧ Payload.HasLists fields ∧
        Payload.MayHaveText ["message"] fields := by
  cases document with
  | object fields =>
      simp only [Json.object.injEq, exists_eq_left']
      have parts_iff : (∃ parts, Payload.both
          (Payload.both (Payload.requiredList "clusters" Payload.cluster fields)
            (Payload.requiredList "nodes" Payload.node fields))
          (Payload.both (Payload.requiredList "edges" Payload.edge fields)
            (Payload.optionalText ["message"] fields)) = .ok parts) ↔
          Payload.HasLists fields ∧ Payload.MayHaveText ["message"] fields := by
        simp only [Payload.exists_both_ok_iff, Payload.exists_optionalText_ok_iff,
          Payload.exists_requiredList_ok_iff fun _ => Payload.exists_cluster_ok_iff,
          Payload.exists_requiredList_ok_iff fun _ => Payload.exists_node_ok_iff,
          Payload.exists_requiredList_ok_iff fun _ => Payload.exists_edge_ok_iff]
        exact ⟨fun ⟨⟨clusters, nodes⟩, edges, message⟩ => ⟨⟨clusters, nodes, edges⟩, message⟩,
          fun ⟨lists, message⟩ => ⟨⟨lists.clusters, lists.nodes⟩, lists.edges, message⟩⟩
      rw [← parts_iff, Graph.ofPayload]
      split
      · rename_i parts_eq
        exact iff_of_true ⟨_, rfl⟩ ⟨_, parts_eq⟩
      · rename_i parts_eq
        rw [parts_eq]
        simp
  | _ => simp [Graph.ofPayload]

/-- A diagram that is read has no more entities than some list of the payload has items. -/
theorem length_le_of_ofPayload {bound : Nat} {document : Json α} {graph : Graph α}
    (bounded : document.Bounded bound) (done : Graph.ofPayload document = .ok graph) :
    graph.clusters.length ≤ bound ∧ graph.nodes.length ≤ bound := by
  cases document with
  | object fields =>
      rw [Graph.ofPayload] at done
      split at done
      · rename_i parts_eq
        cases done
        have lists := (Payload.ok_of_both (Payload.ok_of_both parts_eq).1)
        exact ⟨Payload.length_le_of_requiredList bounded lists.1,
          Payload.length_le_of_requiredList bounded lists.2⟩
      · cases done
  | _ => cases done

end ClusterDiagram
