import ClusterDiagram.Proofs.Indentation

/-!
# Where edge lines stand

Edges are taken in once everything is declared. So it makes no difference where the edge lines stand
among the lines of clusters and nodes, nor where blank lines and lines that say nothing stand: the
ids, the tokens and the places come out the same.
-/

namespace ClusterDiagram
namespace Prompt

/-! ## The two kinds of lines -/

/-- The lines of a text that declare a cluster or a node, with their indentation. -/
def declarationLines (text : String) : List (List Char) :=
  (Text.splitLines text).filter fun line => (Statement.ofLine? line).any Statement.declares

/-- The lines of a text that join two references. -/
def edgeLines (text : String) : List (List Char) :=
  (Text.splitLines text).filter fun line =>
    (Statement.ofLine? line).any fun statement => !statement.declares

/-- What lines of one kind say can be read off these lines alone. -/
theorem filter_ofLines (kind : Statement → Bool) (lines : List (List Char)) :
    (Statement.ofLines lines).filter kind =
      Statement.ofLines (lines.filter fun line => (Statement.ofLine? line).any kind) := by
  rw [Statement.ofLines, Statement.ofLines, List.filter_filterMap, List.filterMap_filter]
  apply List.filterMap_congr
  intro line _
  cases Statement.ofLine? line with
  | none => simp
  | some statement => simp [Option.filter]

variable {α : Type} [Scalar α] {context : Context α} {text other : String}

/-- Lines of clusters and nodes connect nothing. -/
theorem foldlM_filter_connects (statements : List Statement) (draft : Draft α) :
    (statements.filter fun statement => !statement.declares).foldlM (Draft.connect context) draft =
      statements.foldlM (Draft.connect context) draft := by
  apply foldlM_filter
  intro statement declares draft
  cases statement with
  | cluster => rfl
  | node => rfl
  | edge => cases declares

/-- What is read depends on the declarations and on the edges, each in their order. -/
theorem build_congr {statements others : List Statement}
    (declarations : others.filter Statement.declares = statements.filter Statement.declares)
    (edges : (others.filter fun statement => !statement.declares) =
      statements.filter fun statement => !statement.declares) (drawn : ℕ) :
    build context others drawn = build context statements drawn := by
  have declared (draft : Draft α) : others.foldlM (Draft.declare context) draft =
      statements.foldlM (Draft.declare context) draft := by
    rw [← foldlM_filter_declares, declarations, foldlM_filter_declares]
  have connected (draft : Draft α) : others.foldlM (Draft.connect context) draft =
      statements.foldlM (Draft.connect context) draft := by
    rw [← foldlM_filter_connects, edges, foldlM_filter_connects]
  simp only [build, declared, connected]

/-- Two texts with the same lines of clusters and nodes and the same edge lines, each in the same
order, are read as the same diagram with the same ids and places, however these lines are mixed
with each other and with lines that say nothing. On a canvas of finite width both are read. -/
theorem read_rearranged (declarations : declarationLines other = declarationLines text)
    (edges : edgeLines other = edgeLines text) (drawn : ℕ) :
    read context other drawn = read context text drawn ∧
      (Placement.FiniteWidth context.canvasWidth → ∃ graph next,
        read context text drawn = .ok (graph, next) ∧
          read context other drawn = .ok (graph, next)) := by
  have same : read context other drawn = read context text drawn := by
    have built : build context (Statement.ofText other) drawn =
        build context (Statement.ofText text) drawn := by
      apply build_congr
      · exact (filter_ofLines _ _).trans ((congrArg _ declarations).trans (filter_ofLines _ _).symm)
      · exact (filter_ofLines _ _).trans ((congrArg _ edges).trans (filter_ofLines _ _).symm)
    rw [read, read, built]
  refine ⟨same, fun finite => ?_⟩
  obtain ⟨⟨graph, next⟩, done⟩ := read_total finite text drawn
  exact ⟨graph, next, done, same.trans done⟩

/-- Edge lines before and between the declarations. -/
private def scattered : String :=
  "\tb -> C [label='x -> y']\nCluster: C\n  Node: A\n\n  Cluster: D\n? ->\nb -> z\n    Node: A [name=B]"

/-- The same declarations, then the same edges. -/
private def gathered : String :=
  "nothing\nCluster: C\n  Node: A\n  Cluster: D\n    Node: A [name=B]\n" ++
    "\tb -> C [label='x -> y']\n\nb -> z"

/-- A node that is known, and one token for all. -/
private def oneToken : Context Float where
  nodes := [{ id := "c-t", label := "C", x := 40, y := 80, cluster := some "gone" }]
  canvasWidth := 1200
  token := fun _ => "t"

theorem read_rearranged_gathered :
    declarationLines gathered = declarationLines scattered ∧
      edgeLines gathered = edgeLines scattered ∧ (declarationLines scattered).length = 4 ∧
      (edgeLines scattered).length = 2 ∧
      read oneToken gathered 3 = read oneToken scattered 3 ∧
      ∃ graph next, read oneToken scattered 3 = .ok (graph, next) ∧
        read oneToken gathered 3 = .ok (graph, next) := by
  have declarations : declarationLines gathered = declarationLines scattered := by decide +kernel
  have edges : edgeLines gathered = edgeLines scattered := by decide +kernel
  have finite : Placement.FiniteWidth (1200 : Float) :=
    (Placement.finiteWidth_double_iff 1200).mpr ⟨_, _, _, rfl⟩
  obtain ⟨same, total⟩ : read oneToken gathered 3 = read oneToken scattered 3 ∧ _ :=
    read_rearranged declarations edges 3
  exact ⟨declarations, edges, by decide +kernel, by decide +kernel, same, total finite⟩

end Prompt
end ClusterDiagram
