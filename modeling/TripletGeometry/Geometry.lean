import TripletGeometry.Coordinates
import TripletGeometry.Kind

/-!
Geometries as trees. Points, lines, polygons and point clusters are shapes; a multi geometry or a
collection has shapes as parts. Two views flatten the tree: the leaves from left to right, and all
its nodes with each node after its children.
-/
namespace TripletGeometry

structure Polygon (α : Type) where
  outer : Coordinates α
  holes : List (Coordinates α)

inductive Shape (α : Type) where
  | point (coordinates : Coordinates α)
  | lineString (coordinates : Coordinates α)
  | polygon (polygon : Polygon α)
  | multiPoint (coordinates : Coordinates α)

inductive Geometry (α : Type) where
  | shape (shape : Shape α)
  | multiLineString (lines : List (Coordinates α))
  | multiPolygon (polygons : List (Polygon α))
  | collection (members : List (Shape α))

inductive Node (α : Type) where
  | ring (coordinates : Coordinates α)
  | geometry (geometry : Geometry α)

variable {α : Type}

def Shape.kind : Shape α → Kind
  | .point _ => .point
  | .lineString _ => .lineString
  | .polygon _ => .polygon
  | .multiPoint _ => .multiPoint

namespace Geometry

def kind : Geometry α → Kind
  | .shape s => s.kind
  | .multiLineString _ => .multiLineString
  | .multiPolygon _ => .multiPolygon
  | .collection _ => .geometryCollection

def parts : Geometry α → List (Shape α)
  | .shape s => [s]
  | .multiLineString lines => lines.map .lineString
  | .multiPolygon polygons => polygons.map .polygon
  | .collection members => members

end Geometry

def Node.kind : Node α → Kind
  | .ring _ => .linearRing
  | .geometry g => g.kind

/-! Leaves. -/

/-- The coordinates of one element, marked with what they were read as. -/
structure Leaf (α : Type) where
  kind : Kind
  coordinates : Coordinates α

def Polygon.rings (p : Polygon α) : List (Coordinates α) := p.outer :: p.holes

def Shape.leaves : Shape α → List (Leaf α)
  | .point c => [⟨.point, c⟩]
  | .lineString c => [⟨.lineString, c⟩]
  | .polygon p => p.rings.map (Leaf.mk .linearRing)
  | .multiPoint c => [⟨.multiPoint, c⟩]

def Geometry.leaves (g : Geometry α) : List (Leaf α) := g.parts.flatMap Shape.leaves

/-! Nodes, each after its children. -/

def Shape.nodes : Shape α → List (Node α)
  | .polygon p => p.rings.map .ring ++ [.geometry (.shape (.polygon p))]
  | s => [.geometry (.shape s)]

def Geometry.nodes : Geometry α → List (Node α)
  | .shape s => s.nodes
  | g => g.parts.flatMap Shape.nodes ++ [.geometry g]

/-! Changing the coordinates. -/

def Polygon.mapRings (f : Coordinates α → Coordinates α) (p : Polygon α) : Polygon α :=
  ⟨f p.outer, p.holes.map f⟩

def Shape.mapRings (f : Coordinates α → Coordinates α) : Shape α → Shape α
  | .polygon p => .polygon (p.mapRings f)
  | s => s

def Geometry.mapRings (f : Coordinates α → Coordinates α) : Geometry α → Geometry α
  | .shape s => .shape (s.mapRings f)
  | .multiLineString lines => .multiLineString lines
  | .multiPolygon polygons => .multiPolygon (polygons.map (Polygon.mapRings f))
  | .collection members => .collection (members.map (Shape.mapRings f))

end TripletGeometry
