import Mathlib.Data.List.Forall2
import TripletGeometry.Ordinate.Exact
import TripletGeometry.Proofs.Decisions
import TripletGeometry.Proofs.PlanarRings

/-!
The planar form of a geometry next to its tree, leaf by leaf. Both have the same kinds, the same
parts and the same rings in each part. A leaf of the planar form has the coordinates of the leaf
of the tree, with x, y and z; only a ring whose z differs between its ends is one coordinate
longer.
-/
namespace TripletGeometry

variable {α : Type}

/-! Shapes and leaves. -/

def Leaf.mapRing (f : Coordinates α → Coordinates α) (leaf : Leaf α) : Leaf α :=
  if leaf.kind = .linearRing then ⟨leaf.kind, f leaf.coordinates⟩ else leaf

@[simp]
theorem Leaf.kind_mapRing (f : Coordinates α → Coordinates α) (leaf : Leaf α) :
    (leaf.mapRing f).kind = leaf.kind := by
  unfold mapRing
  split <;> rfl

theorem Shape.kind_mapRings (f : Coordinates α → Coordinates α) (s : Shape α) :
    (s.mapRings f).kind = s.kind := by
  cases s <;> rfl

theorem Shape.leaves_mapRings (f : Coordinates α → Coordinates α) (s : Shape α) :
    (s.mapRings f).leaves = s.leaves.map (Leaf.mapRing f) := by
  cases s with
  | polygon p => simp [mapRings, leaves, Polygon.mapRings, Polygon.rings, Leaf.mapRing]
  | point | lineString | multiPoint => simp [mapRings, leaves, Leaf.mapRing]

namespace Geometry

theorem leaves_mapRings (f : Coordinates α → Coordinates α) (g : Geometry α) :
    (g.mapRings f).leaves = g.leaves.map (Leaf.mapRing f) := by
  simp only [leaves, parts_mapRings, List.flatMap_map, List.map_flatMap, Shape.leaves_mapRings]

/-- The shape of the tree: its kind, and for each part its kind and how many leaves it has. -/
def outline (g : Geometry α) : Kind × List (Kind × Nat) :=
  (g.kind, g.parts.map fun part => (part.kind, part.leaves.length))

/-- Rings are changed in their coordinates only, so the outline stays. -/
theorem outline_mapRings (f : Coordinates α → Coordinates α) (g : Geometry α) :
    (g.mapRings f).outline = g.outline := by
  simp only [outline, kind_mapRings, parts_mapRings, List.map_map, Function.comp_def,
    Shape.kind_mapRings, Shape.length_leaves_mapRings]

end Geometry

variable [Ordinate α]

/-! Rings among the leaves. -/

namespace Source

variable {s : Source α} {i : Nat}

/-- Every ring among the leaves was read from an element. -/
def ReadsRings (s : Source α) (leaves : List (Leaf α)) : Prop :=
  ∀ leaf ∈ leaves, leaf.kind = .linearRing → ∃ k, s.ringAt k = .ok leaf.coordinates

theorem readsRings_single {kind : Kind} (other : kind ≠ .linearRing) (c : Coordinates α) :
    s.ReadsRings [⟨kind, c⟩] := by
  intro leaf member ring
  cases List.mem_singleton.mp member
  exact absurd ring other

theorem readsRings_leaves {g : Geometry α} (each : ∀ part ∈ g.parts, s.ReadsRings part.leaves) :
    s.ReadsRings g.leaves := by
  intro leaf member
  obtain ⟨part, inside, leaved⟩ := List.mem_flatMap.mp member
  exact each part inside leaf leaved

theorem readsRings_of_pointAt {shape : Shape α} (read : s.pointAt i = .ok shape) :
    s.ReadsRings shape.leaves := by
  obtain ⟨_, rfl⟩ := (s.judges_pointAt i).eq_ok_iff.mp read
  exact readsRings_single (by decide) _

theorem readsRings_of_multiPointAt {shape : Shape α} (read : s.multiPointAt i = .ok shape) :
    s.ReadsRings shape.leaves := by
  obtain ⟨_, rfl⟩ := (s.judges_multiPointAt i).eq_ok_iff.mp read
  exact readsRings_single (by decide) _

theorem readsRings_of_polygonAt {polygon : Polygon α} (ok : (s.polygonAt i).result = .ok polygon) :
    s.ReadsRings (Shape.polygon polygon).leaves := by
  obtain ⟨shell, holes, _⟩ := polygonAt_ok ok
  intro leaf member _
  obtain ⟨ring, inside, rfl⟩ := List.mem_map.mp member
  rcases List.mem_cons.mp inside with rfl | hole
  · exact ⟨i, ringAt_of_shellAt shell⟩
  · exact (scan_holesFrom holes).forall_parts (p := fun ring => ∃ k, s.ringAt k = .ok ring)
      (fun k _ _ _ read => ⟨k, ringAt_of_holeAt read.1⟩) ring hole

theorem readsRings_of_memberAt {member : Shape α} (ok : (s.memberAt i).result = .ok member) :
    s.ReadsRings member.leaves := by
  rcases memberAt_ok ok with ⟨polygon, read, rfl, _⟩ | ⟨alone, _⟩
  · exact readsRings_of_polygonAt read
  · rcases loneMemberAt_ok alone with point | cluster | ⟨line, _, rfl⟩
    · exact readsRings_of_pointAt point
    · exact readsRings_of_multiPointAt cluster
    · exact readsRings_single (by decide) _

/-- The rings of a geometry are all read from elements. -/
theorem readsRings_of_yields {topology : Topology} {g : Geometry α} {stop : Nat}
    (h : s.Yields i topology g stop) : s.ReadsRings g.leaves := by
  apply readsRings_leaves
  cases h with
  | point read => simpa [Geometry.parts] using readsRings_of_pointAt read
  | @line line read => simpa [Geometry.parts, Shape.leaves] using
      readsRings_single (by decide) line
  | polygon read => simpa [Geometry.parts] using readsRings_of_polygonAt read
  | multiPoint read => simpa [Geometry.parts] using readsRings_of_multiPointAt read
  | multiLine nonempty read =>
    intro part member
    obtain ⟨line, _, rfl⟩ := List.mem_map.mp member
    exact readsRings_single (by decide) _
  | multiPolygon nonempty read =>
    intro part member
    obtain ⟨polygon, inside, rfl⟩ := List.mem_map.mp member
    exact (scan_polygonsFrom read).forall_parts
      (p := fun polygon => s.ReadsRings (Shape.polygon polygon).leaves)
      (fun k _ _ _ step => readsRings_of_polygonAt (i := k) (by rw [step.2])) polygon inside
  | collection nonempty read =>
    refine (scan_membersFrom read).forall_parts fun k member _ _ step => ?_
    exact readsRings_of_memberAt (i := k) (by rw [step.2])

end Source

/-! Leaves in planar form. -/

/-- The leaf is a ring with a z that is not the same at both ends. -/
def Leaf.Gains (leaf : Leaf α) : Prop := leaf.kind = .linearRing ∧ leaf.coordinates.EndsApart

/-- A leaf of the tree and the leaf that stands for it in planar form: they have the same
coordinates, but where the ends are apart the first coordinate comes once more. -/
structure Leaf.Keeps (tree planar : Leaf α) : Prop where
  kind : planar.kind = tree.kind
  rows : ¬ tree.Gains → planar.coordinates.rows = tree.coordinates.rows
  gained : tree.Gains →
    planar.coordinates.rows = tree.coordinates.rows ++ tree.coordinates.rows.take 1

theorem Leaf.keeps_mapRing {leaf : Leaf α}
    (valid : leaf.kind = .linearRing →
      (leaf.coordinates.width = 2 ∨ leaf.coordinates.width = 3) ∧ leaf.coordinates.Closes) :
    leaf.Keeps (leaf.mapRing Planar.closeRing) := by
  by_cases ring : leaf.kind = .linearRing
  · obtain ⟨spatial, closes⟩ := valid ring
    have agree := Planar.endsAgree_iff_of_closes spatial closes
    have rows : (leaf.mapRing Planar.closeRing).coordinates.rows =
        Planar.closedRows leaf.coordinates.rows := by
      rw [mapRing, if_pos ring, Planar.rows_closeRing]
    refine ⟨kind_mapRing _ leaf, fun together => ?_, fun gains => ?_⟩
    · rw [rows, Planar.closedRows, if_pos (agree.mpr fun apart => together ⟨ring, apart⟩)]
    · rw [rows, Planar.closedRows, if_neg fun same => agree.mp same gains.2]
  · have same : leaf.mapRing Planar.closeRing = leaf := if_neg ring
    rw [same]
    exact ⟨rfl, fun _ => rfl, fun gains => absurd gains.1 ring⟩

namespace Reader

variable {r : Reader} {e : Encoding α}

/-- Every ring of a reading closes, and has x, y and at most z. -/
theorem closes_of_mem_leaves (capped : r.cap = usualCap) (numbers : ∀ x ∈ e.ordinates, IsNumber x)
    {tree : Geometry α} (ok : (r.run e).result = .ok tree) {leaf : Leaf α}
    (member : leaf ∈ tree.leaves) (ring : leaf.kind = .linearRing) :
    (leaf.coordinates.width = 2 ∨ leaf.coordinates.width = 3) ∧ leaf.coordinates.Closes := by
  obtain ⟨d, interpreted, origin⟩ := origin_of_run ok
  cases origin with
  | wholePoint whole =>
    cases List.mem_singleton.mp member
    cases ring
  | @elements s _ spread source built _ =>
    have opens : r.Opens e d s := ⟨spread, interpreted, source⟩
    have three : r.cap = 3 := capped
    have planar := opens.two_le_width (by omega)
    have narrow : s.coordinates.width ≤ 3 := by
      rw [opens.width_eq, Reader.width]
      omega
    obtain ⟨k, read⟩ := Source.readsRings_of_yields (Source.yields_of_build built) leaf member ring
    have width := Source.width_of_ringAt (by rw [opens.cap_eq]; omega) read
    refine ⟨by omega, Source.closes_of_ringAt planar (by rw [opens.cap_eq]; omega) ?_ read⟩
    intro row inside x present
    exact opens.isNumber_of_mem_xy (by omega) numbers inside present

/-- Where a reading gives both the tree and the planar form these have the same reference system,
the same outline, and leaf by leaf the same coordinates, except that a ring with a z that is not
the same at both ends has its first coordinate once more in planar form. -/
theorem keeps_of_read (capped : r.cap = usualCap) (numbers : ∀ x ∈ e.ordinates, IsNumber x)
    {tree planar : Placed (Geometry α)} (given : (r.read .tree (some e)).result = .ok (some tree))
    (shown : (r.read .planar (some e)).result = .ok (some planar)) :
    planar.srid = tree.srid ∧ planar.geometry.outline = tree.geometry.outline ∧
      List.Forall₂ Leaf.Keeps tree.geometry.leaves planar.geometry.leaves := by
  obtain ⟨g, ok, rfl, _⟩ := read_ok given
  obtain ⟨g', ok', rfl, _⟩ := read_ok shown
  cases Except.ok.inj (ok.symm.trans ok')
  refine ⟨rfl, Geometry.outline_mapRings _ g, ?_⟩
  simp only [Form.present, Geometry.leaves_mapRings, List.forall₂_map_right_iff, List.forall₂_same]
  intro leaf member
  exact Leaf.keeps_mapRing fun ring => closes_of_mem_leaves capped numbers ok member ring

def raisedEnd : Encoding Exact where
  typeCode := 3003
  srid := none
  point := none
  elements := [⟨1, 1003, 1⟩, ⟨13, 2003, 1⟩]
  ordinates := [0, 0, 0, 9, 0, 0, 9, 9, 0, 0, 0, 1, 2, 1, 0, 3, 1, 0, 3, 2, 0, 2, 1, 0].map
    fun x => ⟨some x⟩

/-- A shell that ends above its start gets its first coordinate once more. -/
theorem keeps_of_read_raisedEnd :
    usual.cap = usualCap ∧ (∀ x ∈ raisedEnd.ordinates, IsNumber x) ∧
      ∃ tree planar, (usual.read .tree (some raisedEnd)).result = .ok (some tree) ∧
        (usual.read .planar (some raisedEnd)).result = .ok (some planar) ∧
        planar.srid = tree.srid ∧ planar.geometry.outline = tree.geometry.outline ∧
        List.Forall₂ Leaf.Keeps tree.geometry.leaves planar.geometry.leaves := by
  have numbers : ∀ x ∈ raisedEnd.ordinates, IsNumber x := by decide +kernel
  obtain ⟨tree, given, _⟩ := exists_read (p := fun _ => true)
    (show (usual.readEncoding .tree raisedEnd).result.toOption.any _ = true by decide +kernel)
  obtain ⟨planar, shown, _⟩ := exists_read (p := fun _ => true)
    (show (usual.readEncoding .planar raisedEnd).result.toOption.any _ = true by decide +kernel)
  exact ⟨rfl, numbers, tree, planar, given, shown, keeps_of_read rfl numbers given shown⟩

/-- The shell has four coordinates in the tree and five in planar form. -/
theorem xy_ne_of_read_raisedEnd :
    ∃ tree planar, (usual.read .tree (some raisedEnd)).result = .ok (some tree) ∧
      (usual.read .planar (some raisedEnd)).result = .ok (some planar) ∧
      tree.geometry.leaves.map (·.coordinates.size) = [4, 4] ∧
      planar.geometry.leaves.map (·.coordinates.size) = [5, 4] ∧
      tree.geometry.leaves.map (·.coordinates.xy) ≠
        planar.geometry.leaves.map (·.coordinates.xy) := by
  obtain ⟨tree, given, four⟩ := exists_read
    (p := fun placed => placed.geometry.leaves.map (·.coordinates.size) = [4, 4])
    (show (usual.readEncoding .tree raisedEnd).result.toOption.any _ = true by decide +kernel)
  obtain ⟨planar, shown, five⟩ := exists_read
    (p := fun placed => placed.geometry.leaves.map (·.coordinates.size) = [5, 4])
    (show (usual.readEncoding .planar raisedEnd).result.toOption.any _ = true by decide +kernel)
  have four := of_decide_eq_true four
  have five := of_decide_eq_true five
  refine ⟨tree, planar, given, shown, four, five, ?_⟩
  intro same
  have sizes := congrArg (List.map List.length) same
  simp only [List.map_map, Function.comp_def, Coordinates.xy, List.length_map] at sizes
  rw [show (fun leaf : Leaf Exact => leaf.coordinates.rows.length) = (·.coordinates.size) from rfl,
    four, five] at sizes
  exact absurd sizes (by decide)

end Reader

end TripletGeometry
