import ClusterDiagram.Routing.Geometry

/-!
# Arrowheads and labels

The style of an edge decides its arrowheads and its dashes. A line ends at the border of its icon,
or at the tip of an arrowhead. A label stands beside the point at half the length of the line.
-/

namespace ClusterDiagram

namespace EdgeStyle

/-- Whether a style has an arrowhead at the source too. -/
def hasStartMarker : EdgeStyle → Bool
  | .double | .doubleDotted => true
  | .solid | .dashed => false

/-- Whether a style is drawn with dashes. -/
def isDashed : EdgeStyle → Bool
  | .dashed | .doubleDotted => true
  | .solid | .double => false

/-- The dash pattern of a style. -/
def dashes? (style : EdgeStyle) : Option String :=
  if style.isDashed then some "6,6" else none

/-- Distance from the centre of the source to the start of the line. -/
def startRadius (style : EdgeStyle) : Nat :=
  Routing.iconHalf + if style.hasStartMarker then 12 else 0

/-- Distance from the centre of the target to the end of the line. -/
def endRadius (_ : EdgeStyle) : Nat :=
  Routing.iconHalf + 12

end EdgeStyle

namespace Routing

variable {α : Type} [Scalar α]

/-- The ends of the line between two nodes, pulled in from their centres. -/
def endpoints (source target : Node α) (style : EdgeStyle) : Point α × Point α :=
  let heading := Scalar.heading (target.x - source.x) (target.y - source.y)
  let first : α := (style.startRadius : α)
  let last : α := (style.endRadius : α)
  (⟨source.x + heading.1 * first, source.y + heading.2 * first⟩,
    ⟨target.x - heading.1 * last, target.y - heading.2 * last⟩)

/-- The point beside a segment of a length at a distance along it, stepping aside by the offset. -/
def besideSegment (offset length along : α) (p₁ p₂ : Point α) : Point α :=
  let part := along / length
  let dx := p₂.x - p₁.x
  let dy := p₂.y - p₁.y
  ⟨p₁.x + dx * part + dy / length * offset, p₁.y + dy * part - dx / length * offset⟩

/-- The point beside the first segment at which the way from the start reaches `half`; `walked` is
the length of the segments before. -/
def besideFrom (offset half : α) : α → List (Point α × Point α) → Option (Point α)
  | _, [] => none
  | walked, (p₁, p₂) :: rest =>
      let length := distance p₁ p₂
      if Scalar.isZero length then besideFrom offset half walked rest
      else if half ≤ walked + length then
        some (besideSegment offset length (half - walked) p₁ p₂)
      else besideFrom offset half (walked + length) rest

/-- The place of a label beside a polyline, on the left of the direction of travel on a screen. -/
def labelPoint (offset : α) : List (Point α) → Point α
  | [] => ⟨((0 : Nat) : α), ((0 : Nat) : α)⟩
  | [p] => p
  | p :: next :: path =>
      let total := pathLength (p :: next :: path)
      if Scalar.isZero total then p
      else
        (besideFrom offset (total / ((2 : Nat) : α)) ((0 : Nat) : α)
          (segments (p :: next :: path))).getD ((next :: path).getLastD next)

/-- The usual distance of a label from its line. -/
def labelOffset : Nat := 18

end Routing
end ClusterDiagram
