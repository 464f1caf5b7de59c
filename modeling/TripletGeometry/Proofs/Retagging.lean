import TripletGeometry.Proofs.ConcatenatedReading
import TripletGeometry.Proofs.Grammar

/-!
Encodings that are tagged as collections. A collection reads its members one after the other, each
by the type of its element, where single shapes and multi geometries have readers and scans of their
own. What these have read up to the last element a collection reads as its members, in every form.
-/
namespace TripletGeometry

variable {α : Type}

/-- A scan is one of other parts if each of its steps is a step of the other and its end stops the
other too. -/
theorem Scan.map {β γ : Type} {stops stops' : Nat → Prop}
    {reads : Nat → β → List (Event α) → Nat → Prop} {reads' : Nat → γ → List (Event α) → Nat → Prop}
    {f : β → γ} (each : ∀ i part events j, reads i part events j → reads' i (f part) events j)
    {i k : Nat} {parts : List β} {events : List (Event α)}
    (scan : Scan stops reads i parts events k) (ends : stops' k) :
    Scan stops' reads' i (parts.map f) events k := by
  induction scan with
  | stop _ => exact .stop ends
  | step first rest ih => exact .step (each _ _ _ _ first) (ih ends)

namespace Source

variable [Ordinate α] {s : Source α} {i j k : Nat}

/-! Members. -/

/-- Members that follow one another up to the sentinel are what is read. -/
theorem membersFrom_of_scan {members : List (Shape α)} {events : List (Event α)}
    (scan : Scan (fun i => (s.directory.entryAt i).code = ElementCode.finish) s.ReadsMember i
      members events k) : s.membersFrom i = ⟨k, events, .ok members⟩ := by
  induction scan with
  | stop ends =>
    rw [membersFrom_eq, if_neg (not_not_intro ends)]
    rfl
  | step first rest ih =>
    obtain ⟨remains, read⟩ := first
    rw [membersFrom_eq, if_pos remains, read]
    simp only [ih]
    rfl

theorem readsMember_of_loneMemberAt {shape : Shape α}
    (alone : (s.directory.entryAt i).code ∈ [ElementCode.point, ElementCode.line])
    (ok : s.loneMemberAt i = .ok shape) :
    s.ReadsMember i shape [.built (.geometry (.shape shape))] (i + 1) := by
  have notShell : (s.directory.entryAt i).code ∉ ElementCode.shells := fun shell =>
    not_mem_rings alone (ElementCode.mem_rings_of_mem_shells shell)
  refine ⟨fun finish => ?_, ?_⟩
  · rw [finish] at alone
    exact absurd alone (by decide)
  · simp only [memberAt, if_neg notShell, shapeAt, ok]

theorem readsMember_of_pointAt {shape : Shape α} (ok : s.pointAt i = .ok shape) :
    s.ReadsMember i shape [.built (.geometry (.shape shape))] (i + 1) := by
  obtain ⟨⟨_, coded, simple, _⟩, _⟩ := (s.judges_pointAt i).eq_ok_iff.mp ok
  rw [List.mem_singleton] at coded simple
  refine readsMember_of_loneMemberAt (by simp [coded]) ?_
  simp only [loneMemberAt, if_pos coded, if_pos simple, ok]

theorem readsMember_of_multiPointAt {shape : Shape α} (ok : s.multiPointAt i = .ok shape) :
    s.ReadsMember i shape [.built (.geometry (.shape shape))] (i + 1) := by
  obtain ⟨⟨_, coded, several, _⟩, _⟩ := (s.judges_multiPointAt i).eq_ok_iff.mp ok
  rw [List.mem_singleton] at coded
  have notSimple : ¬ (s.directory.entryAt i).interpretation = Interpretation.simple := by
    intro simple
    rw [simple] at several
    exact absurd several (by decide)
  refine readsMember_of_loneMemberAt (by simp [coded]) ?_
  simp only [loneMemberAt, if_pos coded, if_neg notSimple, if_pos several, ok]

theorem readsMember_of_lineAt {line : Coordinates α} (ok : s.lineAt i = .ok line) :
    s.ReadsMember i (.lineString line) [.built (.geometry (.shape (.lineString line)))]
      (i + 1) := by
  obtain ⟨⟨_, coded, _⟩, _⟩ := (s.judges_lineAt i).eq_ok_iff.mp ok
  rw [List.mem_singleton] at coded
  have notPoint : ¬ (s.directory.entryAt i).code = ElementCode.point := by
    rw [coded]
    decide
  refine readsMember_of_loneMemberAt (by simp [coded]) ?_
  simp only [loneMemberAt, if_neg notPoint, if_pos coded, ok, Except.map]

theorem readsMember_of_polygonAt {polygon : Polygon α} {events : List (Event α)}
    (read : s.polygonAt i = ⟨j, events, .ok polygon⟩) :
    s.ReadsMember i (.polygon polygon) events j := by
  obtain ⟨shell, _⟩ := polygonAt_ok (by rw [read])
  obtain ⟨_, checked, _⟩ := bind_eq_ok.mp shell
  obtain ⟨⟨_, coded, _⟩, _⟩ := (s.judges_checkRing i _).eq_ok_iff.mp checked
  refine ⟨fun finish => ?_, ?_⟩
  · rw [finish] at coded
    exact absurd coded (by decide)
  · rw [memberAt, if_pos coded, read]
    rfl

/-! Buildings. -/

/-- Where the run has ended well, with nothing left but the sentinel, its parts are the members that
a collection reads, and these are put together on the way. -/
def Collected (s : Source α) (run : Run α (Geometry α)) : Prop :=
  ∀ g, run.result = .ok g → (s.directory.entryAt run.cursor).code = ElementCode.finish →
    0 < s.directory.count ∧ ∃ events, s.membersFrom 0 = ⟨run.cursor, events, .ok g.parts⟩ ∧
      ∀ event ∈ events, event ∈ run.events

theorem readsMember_of_shapeAt {read : Nat → Except Failure (Shape α)}
    (each : ∀ shape, read i = .ok shape →
      s.ReadsMember i shape [.built (.geometry (.shape shape))] (i + 1))
    (shape : Shape α) (ok : (shapeAt read i).result = .ok shape) :
    s.ReadsMember i shape (shapeAt read i).events (shapeAt read i).cursor := by
  obtain ⟨found, ran⟩ := shapeAt_ok ok
  rw [ran]
  exact each shape found

/-- A shape is the only member. -/
theorem collected_single {kind : Kind} {run : Run α (Shape α)}
    (reads : ∀ shape, run.result = .ok shape → s.ReadsMember 0 shape run.events run.cursor) :
    s.Collected (s.single kind run) := by
  intro g ok consumed
  obtain ⟨shape, found, rfl, stop, events⟩ := single_ok ok
  have first := reads shape found
  rw [stop] at consumed ⊢
  refine ⟨Directory.lt_count_of_code_ne_finish first.1, _,
    membersFrom_of_scan (.step first (.stop consumed)), fun event member => ?_⟩
  rw [List.append_nil] at member
  rw [events]
  exact List.mem_append_left _ member

/-- Parts that are read to the sentinel are members of a collection. -/
theorem collected_several {kind : Kind} {notes : Nat → List Note} {parts : Run α (Geometry α)}
    (reads : ∀ g, parts.result = .ok g →
      (s.directory.entryAt parts.cursor).code = ElementCode.finish →
      s.membersFrom 0 = ⟨parts.cursor, parts.events, .ok g.parts⟩) :
    s.Collected (s.several kind 0 notes parts) := by
  intro g ok consumed
  obtain ⟨nonempty, found, stop, events⟩ := several_ok ok
  rw [stop] at consumed ⊢
  refine ⟨nonempty, _, reads g found consumed, fun event member => ?_⟩
  rw [events]
  exact List.mem_append_left _ member

/-- Every building that reads all elements reads the members of a collection. -/
theorem collected_build {d : TypeCode.Descriptor} {g : Geometry α}
    (ok : (s.build d 0).result = .ok g) : s.Collected (s.build d 0) := by
  unfold build at ok ⊢
  cases topology : d.topology with
  | point => exact collected_single (readsMember_of_shapeAt fun _ => readsMember_of_pointAt)
  | multiPoint =>
    exact collected_single (readsMember_of_shapeAt fun _ => readsMember_of_multiPointAt)
  | line =>
    refine collected_single (readsMember_of_shapeAt fun shape read => ?_)
    obtain ⟨line, found, rfl⟩ := map_eq_ok.mp read
    exact readsMember_of_lineAt found
  | polygon =>
    refine collected_single fun shape read => ?_
    obtain ⟨polygon, found, rfl⟩ := Run.result_map_eq_ok.mp read
    exact readsMember_of_polygonAt (by rw [← found]; rfl)
  | multiLine =>
    refine collected_several fun g read consumed => ?_
    obtain ⟨lines, found, rfl⟩ := Run.result_map_eq_ok.mp read
    refine membersFrom_of_scan ((scan_linesFrom found).map ?_ consumed)
    intro i line events j step
    obtain ⟨⟨_, read⟩, rfl, rfl⟩ := step
    exact readsMember_of_lineAt read
  | multiPolygon =>
    refine collected_several fun g read consumed => ?_
    obtain ⟨polygons, found, rfl⟩ := Run.result_map_eq_ok.mp read
    refine membersFrom_of_scan ((scan_polygonsFrom found).map ?_ consumed)
    intro i polygon events j step
    exact readsMember_of_polygonAt step.2
  | collection =>
    refine collected_several fun g read _ => ?_
    obtain ⟨members, found, rfl⟩ := Run.result_map_eq_ok.mp read
    rw [Geometry.parts, ← found]
    rfl
  | unknown | solid | multiSolid =>
    simp only [topology] at ok
    cases ok

/-- What was built from all elements is built again as a collection of its parts. -/
theorem build_collection {c d : TypeCode.Descriptor} (collects : c.topology = .collection)
    {g : Geometry α} (ok : (s.build d 0).result = .ok g)
    (consumed : (s.build d 0).cursor = s.directory.count) :
    (s.build c 0).result = .ok (.collection g.parts) ∧
      ∀ node ∈ (s.build c 0).built,
        node ∈ (s.build d 0).built ∨ node = .geometry (.collection g.parts) := by
  have ended : (s.directory.entryAt (s.build d 0).cursor).code = ElementCode.finish := by
    rw [Directory.entryAt_of_count_le (Nat.le_of_eq consumed.symm)]
    rfl
  obtain ⟨nonempty, events, members, known⟩ := collected_build ok g ok ended
  have ran : s.build c 0 =
      ((s.membersFrom 0).map .collection).conclude (fun _ => []) .geometry := by
    unfold build
    rw [collects]
    exact several_of_nonempty nonempty
  rw [ran, members]
  refine ⟨rfl, fun node built => ?_⟩
  have member := Run.mem_built.mp built
  rcases List.mem_append.mp member with early | last
  · exact .inl (Run.mem_built.mpr (known _ early))
  · cases List.mem_singleton.mp last
    exact .inr rfl

end Source

/-! Encodings. -/

def Encoding.asCollection (e : Encoding α) : Encoding α :=
  { e with typeCode := e.typeCode - TypeCode.topologyCode e.typeCode + Topology.collection.code }

/-- The last two digits are replaced and the other ones stay. -/
theorem TypeCode.interpret_asCollection {e : Encoding α} {d : Descriptor}
    (ok : interpret e.typeCode = .ok d) : interpret e.asCollection.typeCode =
      .ok { d with typeCode := e.asCollection.typeCode, topology := .collection } := by
  have dimensions : dimension e.asCollection.typeCode = dimension e.typeCode := by
    simp only [Encoding.asCollection, dimension, topologyCode, Topology.code]
    omega
  have measure : measurePosition e.asCollection.typeCode = measurePosition e.typeCode := by
    simp only [Encoding.asCollection, measurePosition, topologyCode, Topology.code]
    omega
  have collects : topologyCode e.asCollection.typeCode = Topology.collection.code := by
    simp only [Encoding.asCollection, topologyCode, Topology.code]
    omega
  have reads := reads_interpret e.typeCode
  rw [ok] at reads
  cases reads with
  | ok spanned measured _ =>
    rw [← dimensions] at spanned
    rw [← dimensions, ← measure] at measured
    rw [← dimensions, ← measure]
    exact interpret_eq_ok spanned measured collects.symm

namespace Reader

variable [Ordinate α] {r : Reader} {form : Form} {e : Encoding α}

/-- An encoding that is read to its end is read as the collection of its parts if it is tagged as a
collection. -/
theorem read_collection {d : TypeCode.Descriptor}
    (interpreted : TypeCode.interpret e.typeCode = .ok d)
    (spread : e.wholePoint? = none) {placed : Placed (Geometry α)}
    (ok : (r.read form (some e)).result = .ok (some placed))
    (consumed : (r.run e).cursor = e.elements.length) :
    (r.read form (some e.asCollection)).result =
      .ok (some ⟨.collection placed.geometry.parts, placed.srid⟩) := by
  obtain ⟨admitted, tree, ran, placing⟩ := read_eq_ok.mp ok
  obtain ⟨s, opens, built⟩ := opens_of_run interpreted spread ran
  have collects := TypeCode.interpret_asCollection interpreted
  have opens' : r.Opens e.asCollection _ s := ⟨spread, collects, opens.source⟩
  obtain ⟨elements, _⟩ := source_ok opens.source
  have stopped : (s.build d 0).cursor = s.directory.count := by
    rw [Directory.count, elements, ← consumed, opens.run_eq]
    rfl
  obtain ⟨result, nodes⟩ := Source.build_collection (c := { d with
    typeCode := e.asCollection.typeCode, topology := .collection }) rfl built stopped
  have presented : form.present (.collection tree.parts) =
      .collection (form.present tree).parts := by
    cases form with
    | tree => rfl
    | planar =>
      simp only [Form.present, Geometry.parts_mapRings]
      rfl
  rw [Form.place_ok placing]
  refine read_eq_ok.mpr ⟨?_, .collection tree.parts, ?_, ?_⟩
  · intro planar node member
    rw [opens'.built_eq] at member
    rcases nodes node member with early | rfl
    · exact admitted planar node (opens.built_eq ▸ early)
    · rfl
  · rw [opens'.run_eq]
    exact result
  · rw [presented]
    exact place_of_place placing _

/-- An encoding that is read to its end and then tagged as a collection is read as the collection
with the geometry as its only member if that is a single shape, and as the collection of the lines
or of the polygons, in order, if it is a multi geometry. -/
theorem read_asCollection {d : TypeCode.Descriptor}
    (interpreted : TypeCode.interpret e.typeCode = .ok d) (spread : e.wholePoint? = none)
    {placed : Placed (Geometry α)} (ok : (r.read form (some e)).result = .ok (some placed))
    (consumed : (r.run e).cursor = e.elements.length) :
    TypeCode.interpret e.asCollection.typeCode =
        .ok { d with typeCode := e.asCollection.typeCode, topology := .collection } ∧
      (d.topology ∈ [.point, .line, .polygon, .multiPoint] →
        ∃ shape, placed.geometry = .shape shape ∧
          (r.read form (some e.asCollection)).result =
            .ok (some ⟨.collection [shape], placed.srid⟩)) ∧
      (d.topology = .multiLine →
        ∃ lines, placed.geometry = .multiLineString lines ∧
          (r.read form (some e.asCollection)).result =
            .ok (some ⟨.collection (lines.map .lineString), placed.srid⟩)) ∧
      (d.topology = .multiPolygon →
        ∃ polygons, placed.geometry = .multiPolygon polygons ∧
          (r.read form (some e.asCollection)).result =
            .ok (some ⟨.collection (polygons.map .polygon), placed.srid⟩)) := by
  have collected := read_collection interpreted spread ok consumed
  obtain ⟨tree, ran, same, _⟩ := read_ok ok
  obtain ⟨s, _, built⟩ := opens_of_run interpreted spread ran
  have yields := Source.yields_of_build built
  generalize (s.build d 0).cursor = stop at yields
  have given : placed.geometry = form.present tree := by rw [same]
  refine ⟨TypeCode.interpret_asCollection interpreted, fun single => ?_, fun lines => ?_,
    fun polygons => ?_⟩
  · obtain ⟨shape, present⟩ : ∃ shape, form.present tree = .shape shape := by
      generalize d.topology = topology at single yields
      cases yields with
      | point | line | polygon | multiPoint => cases form <;> exact ⟨_, rfl⟩
      | multiLine | multiPolygon | collection => exact absurd single (by decide)
    rw [given, present] at collected ⊢
    exact ⟨shape, rfl, collected⟩
  · obtain ⟨parts, present⟩ : ∃ parts, form.present tree = .multiLineString parts := by
      rw [lines] at yields
      cases yields
      cases form <;> exact ⟨_, rfl⟩
    rw [given, present] at collected ⊢
    exact ⟨parts, rfl, collected⟩
  · obtain ⟨parts, present⟩ : ∃ parts, form.present tree = .multiPolygon parts := by
      rw [polygons] at yields
      cases yields
      cases form <;> exact ⟨_, rfl⟩
    rw [given, present] at collected ⊢
    exact ⟨parts, rfl, collected⟩

def holedPolygon : Encoding Exact := { holedRectangle with typeCode := 2003 }

def twoLines : Encoding Exact where
  typeCode := 2006
  srid := none
  point := none
  elements := [⟨1, 2, 1⟩, ⟨5, 2, 1⟩]
  ordinates := [0, 0, 9, 0, 0, 1, 9, 1].map fun x => ⟨some x⟩

/-- A polygon with a hole, and several lines. -/
theorem read_asCollection_holedPolygon_twoLines :
    (TypeCode.interpret holedPolygon.typeCode = .ok ⟨2003, 2, 0, .polygon⟩ ∧
        holedPolygon.wholePoint? = none ∧
        (usual.run holedPolygon).cursor = holedPolygon.elements.length ∧
        holedPolygon.asCollection = holedRectangle ∧
        ∃ shape,
          (usual.read .tree (some holedPolygon)).result = .ok (some ⟨.shape shape, some 4326⟩) ∧
          shape.kind = .polygon ∧
          (usual.read .tree (some holedRectangle)).result =
            .ok (some ⟨.collection [shape], some 4326⟩)) ∧
      (TypeCode.interpret twoLines.typeCode = .ok ⟨2006, 2, 0, .multiLine⟩ ∧
        twoLines.wholePoint? = none ∧ (usual.run twoLines).cursor = twoLines.elements.length ∧
        ∃ lines, (usual.read .tree (some twoLines)).result =
            .ok (some ⟨.multiLineString lines, none⟩) ∧ lines.length = 2 ∧
          (usual.read .tree (some twoLines.asCollection)).result =
            .ok (some ⟨.collection (lines.map .lineString), none⟩)) := by
  constructor
  · have interpreted : TypeCode.interpret holedPolygon.typeCode = .ok ⟨2003, 2, 0, .polygon⟩ := by
      decide
    have consumed : (usual.run holedPolygon).cursor = holedPolygon.elements.length := by
      decide +kernel
    obtain ⟨⟨g, srid⟩, ok, found⟩ := exists_read
      (p := fun placed => placed.srid = some 4326 ∧ placed.geometry.kind = .polygon)
      (show (usual.readEncoding .tree holedPolygon).result.toOption.any _ = true by decide +kernel)
    obtain ⟨rfl, kind⟩ := of_decide_eq_true found
    obtain ⟨_, single, _⟩ := read_asCollection interpreted rfl ok consumed
    obtain ⟨shape, rfl, collected⟩ := single (by decide)
    exact ⟨interpreted, rfl, consumed, rfl, shape, ok, kind, collected⟩
  · have interpreted : TypeCode.interpret twoLines.typeCode = .ok ⟨2006, 2, 0, .multiLine⟩ := by
      decide
    have consumed : (usual.run twoLines).cursor = twoLines.elements.length := by decide +kernel
    obtain ⟨⟨g, srid⟩, ok, found⟩ := exists_read
      (p := fun placed => placed.srid = none ∧ placed.geometry.parts.length = 2)
      (show (usual.readEncoding .tree twoLines).result.toOption.any _ = true by decide +kernel)
    obtain ⟨rfl, two⟩ := of_decide_eq_true found
    obtain ⟨_, _, multi, _⟩ := read_asCollection interpreted rfl ok consumed
    obtain ⟨lines, rfl, collected⟩ := multi rfl
    rw [Geometry.parts, List.length_map] at two
    exact ⟨interpreted, rfl, consumed, lines, ok, two, collected⟩

end Reader

end TripletGeometry
