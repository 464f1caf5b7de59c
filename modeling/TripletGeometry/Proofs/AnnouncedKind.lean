import TripletGeometry.Ordinate.Exact
import TripletGeometry.Proofs.ElementReaders
import TripletGeometry.Proofs.Reading

/-!
The type code announces the kind of the geometry, and what is built from elements is of that kind.
A compact point is a point, also where another kind is announced.
-/
namespace TripletGeometry

variable {α : Type}

namespace Source

variable {s : Source α} {i : Nat}

theorem kind_of_pointAt {shape : Shape α} (ok : s.pointAt i = .ok shape) : shape.kind = .point := by
  obtain ⟨_, rfl⟩ := (s.judges_pointAt i).eq_ok_iff.mp ok
  rfl

theorem kind_of_multiPointAt {shape : Shape α} (ok : s.multiPointAt i = .ok shape) :
    shape.kind = .multiPoint := by
  obtain ⟨_, rfl⟩ := (s.judges_multiPointAt i).eq_ok_iff.mp ok
  rfl

/-- What a building yields is of the kind that its topology announces. -/
theorem kind_of_yields [Ordinate α] {topology : Topology} {g : Geometry α} {stop : Nat}
    (h : s.Yields i topology g stop) : topology.kind? = some g.kind := by
  cases h with
  | point read =>
    have kind := kind_of_pointAt read
    rw [Geometry.kind, kind, Topology.kind?]
  | multiPoint read =>
    have kind := kind_of_multiPointAt read
    rw [Geometry.kind, kind, Topology.kind?]
  | line | polygon | multiLine | multiPolygon | collection => rfl

end Source

namespace Reader

variable [Ordinate α] {r : Reader} {form : Form} {e : Encoding α} {placed : Placed (Geometry α)}

/-- A geometry that was read from elements is of the kind that the last two digits of the type code
announce, which then do announce one. Where they announce a kind, whichever it is, a compact point
was read as a point. -/
theorem kind_of_read (ok : (r.read form (some e)).result = .ok (some placed)) :
    ∃ topology : Topology, topology.code = TypeCode.topologyCode e.typeCode ∧
      (e.wholePoint? = none → topology.kind? = some placed.geometry.kind) ∧
      (e.wholePoint?.isSome → topology.kind?.isSome → placed.geometry.kind = .point) := by
  obtain ⟨tree, run, rfl, _⟩ := read_ok ok
  obtain ⟨d, interpreted, origin⟩ := origin_of_run run
  refine ⟨d.topology, (TypeCode.interpret_ok interpreted).2, ?_⟩
  rw [Form.kind_present]
  cases origin with
  | wholePoint whole =>
    refine ⟨fun spread => ?_, fun _ _ => rfl⟩
    rw [whole] at spread
    cases spread
  | elements spread _ built =>
    refine ⟨fun _ => Source.kind_of_yields (Source.yields_of_build built), fun whole => ?_⟩
    rw [spread] at whole
    cases whole

def lineAndRest : Encoding Exact where
  typeCode := 2002
  srid := none
  point := none
  elements := [⟨1, 2, 1⟩, ⟨5, 1, 1⟩]
  ordinates := [1, 2, 3, 4, 5, 6].map fun x => ⟨some x⟩

/-- A line behind which a point is left: the line is of the announced kind all the same. -/
theorem kind_of_read_lineAndRest :
    ∃ placed, (usual.read .tree (some lineAndRest)).result = .ok (some placed) ∧
      ∃ topology : Topology, topology.code = TypeCode.topologyCode lineAndRest.typeCode ∧
        (lineAndRest.wholePoint? = none → topology.kind? = some placed.geometry.kind) ∧
        (lineAndRest.wholePoint?.isSome → topology.kind?.isSome →
          placed.geometry.kind = .point) := by
  obtain ⟨placed, ok, _⟩ := exists_read (p := fun _ => true)
    (show (usual.readEncoding .tree lineAndRest).result.toOption.any _ = true by decide +kernel)
  exact ⟨placed, ok, kind_of_read ok⟩

def polygonPoint : Encoding Exact where
  typeCode := 2003
  srid := none
  point := some ⟨⟨some 1⟩, ⟨some 2⟩, none⟩
  elements := []
  ordinates := []

/-- The type code announces a polygon, and a point is read. -/
theorem kind_of_read_polygonPoint :
    ∃ placed, (usual.read .tree (some polygonPoint)).result = .ok (some placed) ∧
      Topology.polygon.code = TypeCode.topologyCode polygonPoint.typeCode ∧
      Topology.polygon.kind? ≠ some placed.geometry.kind := by
  obtain ⟨placed, ok, kind⟩ := exists_read (p := fun placed => placed.geometry.kind = .point)
    (show (usual.readEncoding .tree polygonPoint).result.toOption.any _ = true by decide +kernel)
  refine ⟨placed, ok, by decide, ?_⟩
  rw [of_decide_eq_true kind]
  decide

end Reader

end TripletGeometry
