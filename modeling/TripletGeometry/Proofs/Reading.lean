import TripletGeometry.Proofs.Building
import TripletGeometry.Proofs.TypeCodes
import TripletGeometry.Reader

/-!
What a reading that gives a geometry has done: the type code was interpreted, and then the compact
point was taken as it is or a geometry was built from the first element on. The form in which the
geometry is given changes neither its kind nor its parts nor what is noted, only rings are closed.
-/
namespace TripletGeometry

variable {α : Type}

/-! Forms. -/

@[simp]
theorem Geometry.kind_mapRings (f : Coordinates α → Coordinates α) (g : Geometry α) :
    (g.mapRings f).kind = g.kind := by
  cases g with
  | shape s => cases s <;> rfl
  | multiLineString | multiPolygon | collection => rfl

theorem Shape.length_leaves_mapRings (f : Coordinates α → Coordinates α) (s : Shape α) :
    (s.mapRings f).leaves.length = s.leaves.length := by
  cases s with
  | polygon p => simp [mapRings, leaves, Polygon.mapRings, Polygon.rings]
  | point | lineString | multiPoint => rfl

theorem Geometry.parts_mapRings (f : Coordinates α → Coordinates α) (g : Geometry α) :
    (g.mapRings f).parts = g.parts.map (Shape.mapRings f) := by
  cases g with
  | shape s => rfl
  | multiLineString lines => simp [mapRings, parts, Shape.mapRings]
  | multiPolygon polygons => simp [mapRings, parts, Shape.mapRings]
  | collection members => rfl

theorem Geometry.length_leaves_mapRings (f : Coordinates α → Coordinates α) (g : Geometry α) :
    (g.mapRings f).leaves.length = g.leaves.length := by
  simp only [leaves, parts_mapRings, List.length_flatMap, List.map_map, Function.comp_def,
    Shape.length_leaves_mapRings]

namespace Form

variable [Ordinate α]

def present (form : Form) (tree : Geometry α) : Geometry α :=
  match form with
  | .tree => tree
  | .planar => tree.mapRings Planar.closeRing

variable {form : Form} {run : Run α (Geometry α)} {g : Geometry α}

theorem render_ok (ok : (form.render run).result = .ok g) :
    ∃ tree, run.result = .ok tree ∧ g = form.present tree ∧
      (form.render run).events = run.events := by
  cases form with
  | tree => exact ⟨g, ok, rfl, rfl⟩
  | planar =>
    obtain ⟨tree, found, rfl⟩ := Run.result_map_eq_ok.mp ok
    obtain same | ⟨_, _, _, _, ended⟩ := run.upTo_cases Planar.eventRefusal?
    · rw [same] at found
      exact ⟨tree, found, rfl, congrArg (·.events) same⟩
    · rw [ended] at found
      cases found

theorem kind_present (form : Form) (tree : Geometry α) : (form.present tree).kind = tree.kind := by
  cases form with
  | tree => rfl
  | planar => exact Geometry.kind_mapRings _ tree

theorem length_leaves_present (form : Form) (tree : Geometry α) :
    (form.present tree).leaves.length = tree.leaves.length := by
  cases form with
  | tree => rfl
  | planar => exact Geometry.length_leaves_mapRings _ tree

theorem parts_present_eq_nil_iff (form : Form) (tree : Geometry α) :
    (form.present tree).parts = [] ↔ tree.parts = [] := by
  cases form with
  | tree => rfl
  | planar =>
    rw [present, Geometry.parts_mapRings]
    exact List.map_eq_nil_iff

omit [Ordinate α] in
theorem place_ok {srid : Option Int} {placed : Placed (Geometry α)}
    (ok : form.place srid g = .ok placed) : placed = ⟨g, srid⟩ := by
  unfold place at ok
  split at ok
  · split at ok
    · cases ok
      rfl
    · cases ok
  · cases ok
    rfl

omit [Ordinate α] in
theorem place_tree (srid : Option Int) (g : Geometry α) : tree.place srid g = .ok ⟨g, srid⟩ := by
  cases srid <;> rfl

end Form

/-! Readings. -/

theorem Directory.ofElements_ok {elements : List Element} {ordinateCount dimension : Int}
    {directory : Directory} (ok : ofElements elements ordinateCount dimension = .ok directory) :
    directory.elements = elements ∧ directory.ordinateCount = ordinateCount ∧
      directory.dimension = dimension := by
  unfold ofElements at ok
  split at ok
  · cases ok
  · cases ok
    exact ⟨rfl, rfl, rfl⟩

namespace Reader

/-- An accepted reader asks for x and y at least, of an encoding that has them. -/
theorem two_le_outputDimension (r : Reader) {native : Int} (planar : 2 ≤ native) :
    2 ≤ r.settings.outputDimension native := by
  unfold Settings.outputDimension
  split
  · exact planar
  · rename_i dimension asked
    have least := r.accepted dimension asked
    split <;> omega

def usual : Reader := ⟨.native, usualCap, nofun⟩

variable [Ordinate α] {r : Reader} {form : Form} {e : Encoding α}

/-- A reading of which a property was found gives a geometry that has it. -/
theorem exists_read {p : Placed (Geometry α) → Bool}
    (found : (r.readEncoding form e).result.toOption.any p = true) :
    ∃ placed, (r.read form (some e)).result = .ok (some placed) ∧ p placed = true := by
  obtain ⟨placed, given, holds⟩ := exists_of_any found
  exact ⟨placed, map_eq_ok.mpr ⟨placed, given, rfl⟩, holds⟩

theorem exists_readOn {m : Machine} {p : Placed (Geometry α) → Bool}
    (found : (readEncodingOn m r form e).result.toOption.any p = true) :
    ∃ placed, (r.readOn m form (some e)).result = .ok (some placed) ∧ p placed = true := by
  obtain ⟨placed, given, holds⟩ := exists_of_any found
  exact ⟨placed, map_eq_ok.mpr ⟨placed, given, rfl⟩, holds⟩

/-- The tree is given as it was read. -/
theorem result_read_tree : (r.read .tree (some e)).result =
    (r.run e).result.map fun tree => some ⟨tree, e.srid⟩ := by
  simp only [read, Report.present, readEncoding, report, Form.render]
  cases (r.run e).result with
  | error failure => rfl
  | ok tree =>
    change (Form.tree.place e.srid tree).map some = _
    rw [Form.place_tree]
    rfl

/-- A reading of either form comes from a run that gave a tree. -/
theorem read_ok {placed : Placed (Geometry α)}
    (ok : (r.read form (some e)).result = .ok (some placed)) :
    ∃ tree, (r.run e).result = .ok tree ∧ placed = ⟨form.present tree, e.srid⟩ ∧
      (r.read form (some e)).notes = (r.run e).notes := by
  obtain ⟨_, given, same⟩ := map_eq_ok.mp ok
  cases same
  obtain ⟨g, rendered, placing⟩ := bind_eq_ok.mp given
  obtain ⟨tree, found, rfl, events⟩ := Form.render_ok rendered
  refine ⟨tree, found, Form.place_ok placing, ?_⟩
  have quiet : rejection e.typeCode (form.render (r.run e)).result = [] := by
    rw [rendered]
    rfl
  simp only [read, Report.present, readEncoding, report, quiet, List.append_nil, Run.notes, events]

theorem source_ok {s : Source α} {native output : Int} (ok : r.source e native output = .ok s) :
    s.directory.elements = e.elements ∧ s.directory.ordinateCount = e.ordinates.length ∧
      s.directory.dimension = native := by
  obtain ⟨coordinates, _, ok⟩ := bind_eq_ok.mp ok
  obtain ⟨directory, made, ok⟩ := bind_eq_ok.mp ok
  cases ok
  exact Directory.ofElements_ok made

/-- Once its elements are accepted only the coordinates of a source can fail. -/
theorem sourceIn_of_accepted {memory : Option Nat} {directory : Directory} {native output : Int}
    (accepted : Directory.ofElements e.elements e.ordinates.length native = .ok directory) :
    sourceIn memory r e native output =
      (Assembly.assemble memory r.cap e.ordinates native output true).map
        fun c => ⟨directory, c, r.cap⟩ := by
  simp only [sourceIn, accepted]
  cases Assembly.assemble memory r.cap e.ordinates native output true <;> rfl

/-- With the elements in place only the coordinates are left to be assembled. -/
theorem source_of_accepted {directory : Directory} {native output : Int}
    (accepted : Directory.ofElements e.elements e.ordinates.length native = .ok directory) :
    r.source e native output = (Assembly.assemble none r.cap e.ordinates native output true).map
      fun c => ⟨directory, c, r.cap⟩ :=
  sourceIn_of_accepted accepted

theorem runIn_of_wholePoint {memory : Option Nat} {d : TypeCode.Descriptor} {p : CompactPoint α}
    (interpreted : TypeCode.interpret e.typeCode = .ok d) (whole : e.wholePoint? = some p) :
    runIn memory r e =
      (runPointIn memory r p d.dimension (r.settings.outputDimension d.dimension)).after
        [.noted (.compactPoint e.typeCode)] := by
  simp only [runIn, interpreted, whole]

theorem runIn_of_elements {memory : Option Nat} {d : TypeCode.Descriptor}
    (interpreted : TypeCode.interpret e.typeCode = .ok d) (spread : e.wholePoint? = none) :
    runIn memory r e =
      (runElementsIn memory r e d (r.settings.outputDimension d.dimension)).after
        [.noted (.elements e.typeCode e.elements.length e.ordinates.length
          (r.settings.outputDimension d.dimension))] := by
  simp only [runIn, interpreted, spread]

/-- A compact point is read without a look at the elements. -/
theorem run_of_wholePoint {d : TypeCode.Descriptor} {p : CompactPoint α}
    (interpreted : TypeCode.interpret e.typeCode = .ok d) (whole : e.wholePoint? = some p) :
    r.run e = (r.runPoint p d.dimension (r.settings.outputDimension d.dimension)).after
      [.noted (.compactPoint e.typeCode)] := by
  simp only [run_eq, interpreted, whole]

/-- Without a compact point the elements are read. -/
theorem run_of_elements {d : TypeCode.Descriptor}
    (interpreted : TypeCode.interpret e.typeCode = .ok d) (spread : e.wholePoint? = none) :
    r.run e = (r.runElements e d (r.settings.outputDimension d.dimension)).after
      [.noted (.elements e.typeCode e.elements.length e.ordinates.length
        (r.settings.outputDimension d.dimension))] := by
  simp only [run_eq, interpreted, spread]

/-- Where the geometry of a reading comes from. -/
inductive Origin (r : Reader) (e : Encoding α) (d : TypeCode.Descriptor) : Geometry α → Prop
  | wholePoint {p : CompactPoint α} {c : Coordinates α} (whole : e.wholePoint? = some p) :
      Origin r e d (.shape (.point c))
  | elements {s : Source α} {g : Geometry α} (spread : e.wholePoint? = none)
      (source : r.source e d.dimension (r.settings.outputDimension d.dimension) = .ok s)
      (built : (s.build d 0).result = .ok g)
      (notes : (r.run e).notes = .elements e.typeCode e.elements.length e.ordinates.length
        (r.settings.outputDimension d.dimension) :: (s.build d 0).notes) : Origin r e d g

/-- A geometry was read from a compact point or built from the elements. -/
theorem origin_of_run {tree : Geometry α} (ok : (r.run e).result = .ok tree) :
    ∃ d, TypeCode.interpret e.typeCode = .ok d ∧ r.Origin e d tree := by
  cases interpreted : TypeCode.interpret e.typeCode with
  | error fault =>
    simp only [run_eq, interpreted] at ok
    cases ok
  | ok d =>
    refine ⟨d, rfl, ?_⟩
    cases whole : e.wholePoint? with
    | some p =>
      rw [run_of_wholePoint interpreted whole, Run.result_after, runPoint_eq] at ok
      split at ok
      · cases ok
      · cases ok
        exact .wholePoint whole
    | none =>
      have ran := run_of_elements (r := r) interpreted whole
      rw [ran, Run.result_after, runElements_eq] at ok
      split at ok
      · cases ok
      · rename_i s source
        refine .elements whole source ok ?_
        rw [ran, runElements_eq, source]
        rfl

end Reader

end TripletGeometry
