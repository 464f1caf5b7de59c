import TripletGeometry.Ordinate.Exact
import TripletGeometry.Proofs.Concatenation
import TripletGeometry.Proofs.Emptiness
import TripletGeometry.Proofs.Grouping
import TripletGeometry.Proofs.NarrowReading

/-!
Reading encodings one behind the other. The source of the whole holds the elements and the
coordinates of both, so that its parts are the parts of the first followed by those of the second,
in every form in which both can be given.
-/
namespace TripletGeometry

variable {α : Type} [Ordinate α]

namespace Reader

variable {r : Reader} {a b e : Encoding α}

/-- A reading from elements opens a source and builds from it. -/
theorem opens_of_run {d : TypeCode.Descriptor} {tree : Geometry α}
    (interpreted : TypeCode.interpret e.typeCode = .ok d) (spread : e.wholePoint? = none)
    (ok : (r.run e).result = .ok tree) :
    ∃ s, r.Opens e d s ∧ (s.build d 0).result = .ok tree := by
  rw [run_of_elements interpreted spread, Run.result_after, runElements_eq] at ok
  split at ok
  · cases ok
  · rename_i s source
    exact ⟨s, ⟨spread, interpreted, source⟩, ok⟩

theorem Opens.built_eq {d : TypeCode.Descriptor} {s : Source α} (h : r.Opens e d s) :
    (r.run e).built = (s.build d 0).built := by
  rw [h.run_eq, Run.built_after]
  rfl

/-- What a source is made of: whole coordinates, of a width that is none below zero, and elements in
place. -/
theorem made_of_source {s : Source α} {native output : Int} (positive : 0 < native)
    (ok : r.source e native output = .ok s) :
    native ∣ (e.ordinates.length : Int) ∧ 0 ≤ min output r.cap ∧
      InPlace e.elements e.ordinates.length native ∧
      s.coordinates = .ofRows (min output r.cap).toNat (Assembly.groups native.toNat
        (e.ordinates.length / native.toNat) e.ordinates) ∧ s.cap = r.cap := by
  obtain ⟨elements, count, dimension⟩ := source_ok ok
  obtain ⟨c, assembled, ok⟩ := bind_eq_ok.mp ok
  obtain ⟨directory, _, ok⟩ := bind_eq_ok.mp ok
  cases ok
  refine ⟨?_, Assembly.nonneg_of_assemble assembled, ?_, Assembly.eq_of_assemble positive assembled,
    rfl⟩
  · by_contra uneven
    rw [Assembly.assemble_of_partial positive uneven] at assembled
    cases assembled
  · rw [← elements, ← count, ← dimension]
    exact directory.inPlace

/-- The source of two encodings one after the other holds the sources of both. -/
theorem source_append {s t : Source α} {native output : Int} (positive : 0 < native)
    (ok : r.source a native output = .ok s) (ok' : r.source b native output = .ok t) :
    ∃ u w xs ys, r.source (a.append b) native output = .ok u ∧ s.Concatenates t u w xs ys := by
  obtain ⟨elements, count, dimension⟩ := source_ok ok
  obtain ⟨elements', count', dimension'⟩ := source_ok ok'
  obtain ⟨whole, asked, placed, coordinates, cap⟩ := made_of_source positive ok
  obtain ⟨whole', _, placed', coordinates', cap'⟩ := made_of_source positive ok'
  obtain ⟨size, rfl⟩ := Int.eq_ofNat_of_zero_le (Int.le_of_lt positive)
  obtain ⟨n, counted⟩ := Int.natCast_dvd_natCast.mp whole
  obtain ⟨m, counted'⟩ := Int.natCast_dvd_natCast.mp whole'
  have least : 0 < size := by omega
  have length : (a.append b).ordinates.length = size * (n + m) := by
    simp only [Encoding.append, List.length_append, counted, counted', Nat.mul_add]
  have sum : ((a.append b).ordinates.length : Int) = a.ordinates.length + b.ordinates.length := by
    simp only [Encoding.append, List.length_append, Int.natCast_add]
  have together : InPlace (a.append b).elements (a.append b).ordinates.length size := by
    rw [sum]
    exact placed.append placed' (by omega) (by omega) whole
  have accepted := Directory.ofElements_of_inPlace (by omega) together
  have assembled := Assembly.assemble_of_whole positive
    (Int.natCast_dvd_natCast.mpr ⟨_, length⟩) asked
  rw [Int.toNat_natCast, length, Nat.mul_div_cancel_left _ least] at assembled
  rw [Int.toNat_natCast, counted, Nat.mul_div_cancel_left _ least] at coordinates
  rw [Int.toNat_natCast, counted', Nat.mul_div_cancel_left _ least] at coordinates'
  rw [source_of_accepted accepted, assembled]
  refine ⟨_, _, _, _, rfl, ?_, ?_, ⟨dimension, dimension'⟩, positive, ?_,
    ⟨coordinates, coordinates', ?_⟩, cap.symm, cap'.symm⟩
  · rw [elements, elements', count]
    rfl
  · rw [count, count']
    exact sum
  · rw [count, dimension, counted, Assembly.length_groups, Int.natCast_mul]
  · exact congrArg (Coordinates.ofRows _) (Assembly.groups_append counted m b.ordinates)

omit [Ordinate α] in
/-- Whether a geometry can be placed does not depend on the geometry. -/
theorem place_of_place {form : Form} {srid : Option Int} {g : Geometry α}
    {placed : Placed (Geometry α)} (ok : form.place srid g = .ok placed) (other : Geometry α) :
    form.place srid other = .ok ⟨other, srid⟩ := by
  unfold Form.place at ok ⊢
  split at ok
  · split at ok
    · rename_i word
      simp only [word, if_true]
    · cases ok
  · rfl

theorem parts_present_append {form : Form} {g g' joined : Geometry α}
    (parts : joined.parts = g.parts ++ g'.parts) :
    (form.present joined).parts = (form.present g).parts ++ (form.present g').parts := by
  cases form with
  | tree => exact parts
  | planar => simp only [Form.present, Geometry.parts_mapRings, parts, List.map_append]

/-- Two encodings of several parts, one behind the other, are read as the parts of the first
followed by the parts of the second, if the first is read up to its end and the second starts with
its first ordinate and with no ring that a polygon before it could take for a hole. -/
theorem read_append {form : Form} {d : TypeCode.Descriptor} (typeCode : b.typeCode = a.typeCode)
    (interpreted : TypeCode.interpret a.typeCode = .ok d)
    (multi : d.topology ∈ [.multiLine, .multiPolygon, .collection])
    (spread : a.wholePoint? = none) (spread' : b.wholePoint? = none)
    {placed placed' : Placed (Geometry α)}
    (ok : (r.read form (some a)).result = .ok (some placed))
    (ok' : (r.read form (some b)).result = .ok (some placed'))
    (consumed : (r.run a).cursor = a.elements.length)
    (first : ∀ e, b.elements.head? = some e →
      e.offset = 1 ∧ e.code ∉ [ElementCode.ring, ElementCode.hole]) :
    ∃ joined, (r.read form (some (a.append b))).result = .ok (some joined) ∧
      joined.geometry.parts = placed.geometry.parts ++ placed'.geometry.parts ∧
      joined.srid = placed.srid := by
  obtain ⟨⟨dimensions, _⟩, _⟩ := TypeCode.interpret_ok interpreted
  obtain ⟨admitted, tree, ran, placing⟩ := read_eq_ok.mp ok
  obtain ⟨admitted', tree', ran', placing'⟩ := read_eq_ok.mp ok'
  obtain ⟨s, opens, built⟩ := opens_of_run interpreted spread ran
  obtain ⟨t, opens', built'⟩ := opens_of_run (typeCode ▸ interpreted) spread' ran'
  obtain ⟨u, _, _, _, source, whole⟩ := source_append (by omega) opens.source opens'.source
  have together : r.Opens (a.append b) d u :=
    ⟨Encoding.wholePoint?_append spread b, interpreted, source⟩
  obtain ⟨elements, _⟩ := source_ok opens.source
  obtain ⟨elements', _⟩ := source_ok opens'.source
  have start := Directory.head?_elements (Source.nonempty_of_build multi built')
  rw [elements'] at start
  obtain ⟨one, outer⟩ := first _ start
  have stopped : (s.build d 0).cursor = s.directory.count := by
    rw [Directory.count, elements, ← consumed, opens.run_eq]
    rfl
  obtain ⟨joined, result, parts, nodes⟩ :=
    whole.build_concatenation multi one outer built built' stopped
  refine ⟨_, read_eq_ok.mpr ⟨?_, joined, ?_, place_of_place placing _⟩, ?_, ?_⟩
  · intro planar node member
    rw [together.built_eq] at member
    rcases nodes node member with early | late | plain
    · exact admitted planar node (opens.built_eq ▸ early)
    · exact admitted' planar node (opens'.built_eq ▸ late)
    · exact plain
  · rw [together.run_eq]
    exact result
  · rw [Form.place_ok placing, Form.place_ok placing']
    exact parts_present_append parts
  · rw [Form.place_ok placing]

def holedRectangle : Encoding Exact where
  typeCode := 2004
  srid := some 4326
  point := none
  elements := [⟨1, 1003, 3⟩, ⟨5, 2003, 1⟩]
  ordinates := [0, 0, 9, 9, 1, 1, 1, 2, 2, 2, 1, 1].map fun x => ⟨some x⟩

def pointAndLine : Encoding Exact where
  typeCode := 2004
  srid := none
  point := none
  elements := [⟨1, 1, 1⟩, ⟨3, 2, 1⟩]
  ordinates := [5, 5, 6, 6, 7, 7].map fun x => ⟨some x⟩

/-- A polygon with a hole, given as rectangles, and then a point and a line. -/
theorem read_append_holedRectangle_pointAndLine :
    TypeCode.interpret holedRectangle.typeCode = .ok ⟨2004, 2, 0, .collection⟩ ∧
      pointAndLine.typeCode = holedRectangle.typeCode ∧ holedRectangle.wholePoint? = none ∧
      pointAndLine.wholePoint? = none ∧
      (usual.run holedRectangle).cursor = holedRectangle.elements.length ∧
      pointAndLine.elements.head? = some ⟨1, 1, 1⟩ ∧
      (holedRectangle.append pointAndLine).elements =
        [⟨1, 1003, 3⟩, ⟨5, 2003, 1⟩, ⟨13, 1, 1⟩, ⟨15, 2, 1⟩] ∧
      ∃ placed placed' joined, (usual.read .tree (some holedRectangle)).result = .ok (some placed) ∧
        (usual.read .tree (some pointAndLine)).result = .ok (some placed') ∧
        (usual.read .tree (some (holedRectangle.append pointAndLine))).result = .ok (some joined) ∧
        joined.geometry.parts = placed.geometry.parts ++ placed'.geometry.parts ∧
        joined.geometry.parts.map Shape.kind = [.polygon, .point, .lineString] := by
  obtain ⟨placed, ok, kinds⟩ := exists_read
    (p := fun placed => placed.geometry.parts.map Shape.kind = [.polygon])
    (show (usual.readEncoding .tree holedRectangle).result.toOption.any _ = true by decide +kernel)
  obtain ⟨placed', ok', kinds'⟩ := exists_read
    (p := fun placed => placed.geometry.parts.map Shape.kind = [.point, .lineString])
    (show (usual.readEncoding .tree pointAndLine).result.toOption.any _ = true by decide +kernel)
  have consumed : (usual.run holedRectangle).cursor = holedRectangle.elements.length := by
    decide +kernel
  have first : ∀ e, pointAndLine.elements.head? = some e →
      e.offset = 1 ∧ e.code ∉ [ElementCode.ring, ElementCode.hole] := by
    intro e head
    cases head
    decide
  obtain ⟨joined, read, parts, _⟩ := read_append (a := holedRectangle) (b := pointAndLine) rfl
    (show TypeCode.interpret holedRectangle.typeCode = .ok ⟨2004, 2, 0, .collection⟩ by decide)
    (by decide) (by decide) (by decide) ok ok' consumed first
  refine ⟨by decide, rfl, by decide, by decide, consumed, rfl, by decide, placed, placed', joined,
    ok, ok', read, parts, ?_⟩
  rw [parts, List.map_append, of_decide_eq_true kinds, of_decide_eq_true kinds']
  rfl

end Reader

end TripletGeometry
