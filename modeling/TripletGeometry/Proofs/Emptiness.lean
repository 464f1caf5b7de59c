import TripletGeometry.Ordinate.Exact
import TripletGeometry.Proofs.Capacity

/-!
When a multi geometry is empty. The scans of lines, polygons and members end at the first element
that they do not read. If that is the very first one then nothing is left to tell that no part was
read: lines and polygons end at any other code, and members at the code of the sentinel. A reading
of points has no scan, and rejects the element.
-/
namespace TripletGeometry

namespace Topology

def several : List Topology := [multiPoint, multiLine, multiPolygon, collection]

def starts : Topology → List Int
  | multiPoint => [ElementCode.point]
  | multiLine => [ElementCode.line]
  | multiPolygon => ElementCode.shells
  | collection => [ElementCode.point, ElementCode.line, ElementCode.ring, ElementCode.shell]
  | _ => []

/-- A scan takes an element of the code for the end of the geometry. -/
def EndsAt : Topology → Int → Prop
  | multiLine, code => code ∉ starts multiLine
  | multiPolygon, code => code ∉ starts multiPolygon
  | collection, code => code = ElementCode.finish
  | _, _ => False

end Topology

namespace Encoding

variable {α : Type}

/-- The first element can start a part. -/
def Starts (e : Encoding α) (topology : Topology) : Prop :=
  ∃ first, e.elements.head? = some first ∧ first.code ∈ topology.starts

/-- The scan for parts ends at the first element. -/
def EndsAtOnce (e : Encoding α) (topology : Topology) : Prop :=
  ∃ first, e.elements.head? = some first ∧ topology.EndsAt first.code

end Encoding

namespace Directory

theorem head?_elements {d : Directory} (nonempty : 0 < d.count) :
    d.elements.head? = some (d.entryAt 0) := by
  rw [entryAt_of_lt_count nonempty, List.head?_eq_getElem?]
  exact List.getElem?_eq_getElem nonempty

theorem exists_head?_iff {d : Directory} (nonempty : 0 < d.count) {p : Element → Prop} :
    (∃ first, d.elements.head? = some first ∧ p first) ↔ p (d.entryAt 0) := by
  simp only [head?_elements nonempty, Option.some.injEq, exists_eq_left']

end Directory

namespace Source

variable {α : Type} [Ordinate α] {s : Source α} {i : Nat}

/-- What was read of a topology is empty if its scan has ended at the first element. -/
theorem parts_eq_nil_iff_of_yields {topology : Topology} {g : Geometry α} {stop : Nat}
    (yields : s.Yields 0 topology g stop) :
    g.parts = [] ↔
      ∃ first, s.directory.elements.head? = some first ∧ topology.EndsAt first.code := by
  cases yields with
  | multiLine nonempty read =>
    have moves := (scan_linesFrom read).parts_eq_nil_iff fun _ _ _ step ends => ends step.1.1
    rw [Directory.exists_head?_iff nonempty, Geometry.parts, List.map_eq_nil_iff, moves]
    simp only [Topology.EndsAt, Topology.starts, List.mem_singleton, ne_eq]
  | multiPolygon nonempty read =>
    have moves := (scan_polygonsFrom read).parts_eq_nil_iff fun _ _ _ step ends => ends step.1
    rw [Directory.exists_head?_iff nonempty, Geometry.parts, List.map_eq_nil_iff, moves]
    simp only [Topology.EndsAt, Topology.starts]
  | collection nonempty read =>
    have moves := (scan_membersFrom read).parts_eq_nil_iff fun _ _ _ step ends => step.1 ends
    rw [Directory.exists_head?_iff nonempty, Geometry.parts, moves, Topology.EndsAt]
  | point | line | polygon | multiPoint =>
    simp only [Geometry.parts, Topology.EndsAt, and_false, exists_false, reduceCtorEq]

/-! Nothing to start with. -/

end Source

/-- The run ends with a fault of the encoding before anything was noted or put together. -/
structure Run.RejectsAtOnce {α β : Type} (run : Run α β) : Prop where
  rejected : Rejected run.result
  silent : run.events = []

namespace Run.RejectsAtOnce

variable {α β γ : Type} {run : Run α β}

theorem map {f : β → γ} (h : run.RejectsAtOnce) : (run.map f).RejectsAtOnce where
  rejected := rejected_map_iff.mpr h.rejected
  silent := h.silent

theorem andThen {next : Nat → β → Run α γ} (h : run.RejectsAtOnce) :
    (run.andThen next).RejectsAtOnce := by
  obtain ⟨fault, refused⟩ := h.rejected
  rw [Run.andThen_of_error next refused]
  exact ⟨⟨fault, rfl⟩, h.silent⟩

end Run.RejectsAtOnce

namespace Source

variable {α : Type} {s : Source α} {i : Nat} {kind : Kind} {notes : Nat → List Note}
  {parts : Run α (Geometry α)}

theorem rejectsAtOnce_shapeAt {read : Nat → Except Failure (Shape α)} (h : Rejected (read i)) :
    (shapeAt read i).RejectsAtOnce := by
  obtain ⟨fault, refused⟩ := h
  rw [shapeAt, refused]
  exact ⟨⟨fault, rfl⟩, rfl⟩

/-- Without an element there is nothing to read parts from. -/
theorem rejectsAtOnce_several_of_empty (empty : ¬ 0 < s.directory.count) :
    (s.several kind i notes parts).RejectsAtOnce := by
  obtain ⟨fault, refused⟩ := several_of_empty empty
  rw [refused]
  exact ⟨⟨fault, rfl⟩, rfl⟩

/-- Past any other code a member alone is rejected. -/
theorem rejected_loneMemberAt (unknown : (s.directory.entryAt i).code ∉ [ElementCode.point,
    ElementCode.line]) : Rejected (s.loneMemberAt i) := by
  simp only [List.mem_cons, List.not_mem_nil, or_false, not_or] at unknown
  simp only [loneMemberAt, unknown, if_false]
  split
  · exact (s.directory.refuses_rejectElement i _ _).rejected
  · exact (s.directory.refuses_rejectElement i _ _).rejected

/-- A scan that has nothing to read ends without parts. -/
theorem several_of_done (nonempty : 0 < s.directory.count) {g : Geometry α}
    (ended : parts = .done 0 g) :
    s.several kind i notes parts =
      ⟨0, (notes 0).map .noted ++ [.built (.geometry g)], .ok g⟩ := by
  rw [several_of_nonempty nonempty, ended]
  rfl

variable [Ordinate α] {d : TypeCode.Descriptor}

theorem rejectsAtOnce_membersFrom (goes : ¬ (s.directory.entryAt i).code = ElementCode.finish)
    (member : (s.memberAt i).RejectsAtOnce) : (s.membersFrom i).RejectsAtOnce := by
  obtain ⟨fault, refused⟩ := member.rejected
  rw [membersFrom, dif_pos goes]
  split
  · rename_i failure found
    rw [refused] at found
    cases found
    exact ⟨⟨fault, rfl⟩, member.silent⟩
  · rename_i found
    rw [refused] at found
    cases found

/-- A building rejects elements of which no part can start, unless its scan ends there. -/
theorem rejectsAtOnce_build (several : d.topology ∈ Topology.several)
    (idle : ¬ ∃ first, s.directory.elements.head? = some first ∧ first.code ∈ d.topology.starts)
    (goes : ¬ ∃ first, s.directory.elements.head? = some first ∧ d.topology.EndsAt first.code) :
    (s.build d 0).RejectsAtOnce := by
  unfold build
  cases topology : d.topology with
  | multiPoint =>
    refine Run.RejectsAtOnce.andThen (rejectsAtOnce_shapeAt ?_)
    refine ((s.judges_multiPointAt 0).refuses ?_).rejected
    intro found
    obtain ⟨nonempty, coded, _⟩ := found
    rw [Directory.exists_head?_iff nonempty, topology] at idle
    exact idle coded
  | multiLine =>
    refine rejectsAtOnce_several_of_empty fun nonempty => ?_
    rw [Directory.exists_head?_iff nonempty, topology] at idle goes
    exact goes idle
  | multiPolygon =>
    refine rejectsAtOnce_several_of_empty fun nonempty => ?_
    rw [Directory.exists_head?_iff nonempty, topology] at idle goes
    exact goes idle
  | collection =>
    by_cases nonempty : 0 < s.directory.count
    · rw [Directory.exists_head?_iff nonempty, topology] at idle goes
      simp only [Topology.starts, List.mem_cons, List.not_mem_nil, or_false, not_or] at idle
      have member : (s.memberAt 0).RejectsAtOnce := by
        have alone : (s.directory.entryAt 0).code ∉ ElementCode.shells := by simp [idle]
        rw [memberAt, if_neg alone]
        exact rejectsAtOnce_shapeAt (rejected_loneMemberAt (by simp [idle]))
      simp only [several_of_nonempty nonempty, Run.conclude]
      exact (rejectsAtOnce_membersFrom goes member).map.andThen
    · exact rejectsAtOnce_several_of_empty nonempty
  | unknown | point | line | polygon | solid | multiSolid =>
    rw [topology] at several
    exact absurd several (by decide)

/-- A building whose scan ends at the first element puts an empty geometry together. -/
theorem build_of_endsAt {first : Element} (head : s.directory.elements.head? = some first)
    (ends : d.topology.EndsAt first.code) :
    ∃ (g : Geometry α) (notes : List Note),
      s.build d 0 = ⟨0, notes.map .noted ++ [.built (.geometry g)], .ok g⟩ ∧
        Planar.refusal? (.geometry g) = none := by
  have nonempty : 0 < s.directory.count := List.length_pos_of_mem (List.mem_of_head? head)
  have here : first = s.directory.entryAt 0 := by
    rw [Directory.head?_elements nonempty] at head
    exact (Option.some.inj head).symm
  subst here
  unfold build
  cases topology : d.topology with
  | multiLine =>
    have foreign : (s.directory.entryAt 0).code ≠ ElementCode.line := by
      rw [topology] at ends
      exact mt List.mem_singleton.mpr ends
    have ended : s.linesFrom 0 = .done 0 [] := by rw [linesFrom, dif_neg foreign]
    exact ⟨.multiLineString [], _, several_of_done nonempty (by rw [ended]; rfl), rfl⟩
  | multiPolygon =>
    have foreign : (s.directory.entryAt 0).code ∉ ElementCode.shells := by
      rw [topology] at ends
      exact ends
    have ended : s.polygonsFrom 0 = .done 0 [] := by rw [polygonsFrom, dif_neg foreign]
    exact ⟨.multiPolygon [], _, several_of_done nonempty (by rw [ended]; rfl), rfl⟩
  | collection =>
    have finish : (s.directory.entryAt 0).code = ElementCode.finish := by
      rw [topology] at ends
      exact ends
    have ended : s.membersFrom 0 = .done 0 [] := by
      rw [membersFrom, dif_neg (not_not_intro finish)]
    exact ⟨.collection [], _, several_of_done nonempty (by rw [ended]; rfl), rfl⟩
  | unknown | point | line | polygon | multiPoint | solid | multiSolid =>
    rw [topology] at ends
    cases ends

end Source

/-! Readings. -/

namespace Reader

variable {α : Type} [Ordinate α] {r : Reader} {form : Form} {e : Encoding α}
  {d : TypeCode.Descriptor} {output : Int}

/-- Elements of which no part can start are rejected, unless they are in place and the scan ends at
the first of them. -/
theorem rejected_runElements_iff (positive : 0 < d.dimension)
    (several : d.topology ∈ Topology.several) (idle : ¬ e.Starts d.topology) :
    Rejected (r.runElements e d output).result ↔
      (d.dimension ∣ (e.ordinates.length : Int) → 0 ≤ min output r.cap ∧
        (InPlace e.elements e.ordinates.length d.dimension → ¬ e.EndsAtOnce d.topology)) := by
  have refuses := rejected_source_iff (r := r) (e := e) output positive
  have makes := exists_source_iff (r := r) (e := e) output positive
  rw [runElements_eq]
  cases source : r.source e d.dimension output with
  | error failure =>
    simp only [source, rejected_error_iff, reduceCtorEq, exists_false, false_iff] at refuses makes
    simp only [Run.fail, rejected_error_iff, refuses]
    refine forall_congr' fun whole => and_congr_right fun asked => ?_
    exact ⟨fun misplaced placed => absurd placed misplaced,
      fun _ placed => makes whole placed asked⟩
  | ok s =>
    obtain ⟨elements, count, dimension⟩ := source_ok source
    have placed := s.directory.inPlace
    rw [elements, count, dimension] at placed
    have whole : d.dimension ∣ (e.ordinates.length : Int) := by
      by_contra partly
      have refused := refuses.mpr fun divides => absurd divides partly
      rw [source] at refused
      exact not_rejected_ok refused
    have asked := (makes whole placed).mp ⟨s, source⟩
    have builds : Rejected (s.build d 0).result ↔ ¬ e.EndsAtOnce d.topology := by
      simp only [Encoding.Starts, Encoding.EndsAtOnce, ← elements] at idle ⊢
      constructor
      · intro rejected found
        obtain ⟨first, head, ends⟩ := found
        obtain ⟨_, _, built, _⟩ := Source.build_of_endsAt head ends
        rw [built] at rejected
        exact not_rejected_ok rejected
      · intro goes
        exact (Source.rejectsAtOnce_build several idle goes).rejected
    simp only [builds, whole, asked, placed, true_imp_iff, true_and]

/-- Nothing is put together on the way that the planar form would refuse. -/
theorem refusal?_runElements (several : d.topology ∈ Topology.several)
    (idle : ¬ e.Starts d.topology) (node : Node α)
    (built : .built node ∈ (r.runElements e d output).events) : Planar.refusal? node = none := by
  rw [runElements_eq] at built
  split at built
  · cases built
  · rename_i s source
    obtain ⟨elements, _⟩ := source_ok source
    rw [Encoding.Starts, ← elements] at idle
    by_cases ends : ∃ first, s.directory.elements.head? = some first ∧ d.topology.EndsAt first.code
    · obtain ⟨first, head, ends⟩ := ends
      obtain ⟨g, notes, ran, plain⟩ := Source.build_of_endsAt head ends
      have last : Event.built node = .built (.geometry g) := by
        simpa [ran] using built
      cases last
      exact plain
    · rw [(Source.rejectsAtOnce_build several idle ends).silent] at built
      cases built

/-- A geometry without parts comes from a scan that has ended before its first element, and from
nothing else. -/
theorem parts_eq_nil_iff_of_read {placed : Placed (Geometry α)}
    (interpreted : TypeCode.interpret e.typeCode = .ok d)
    (ok : (r.read form (some e)).result = .ok (some placed)) :
    placed.geometry.parts = [] ↔ e.wholePoint? = none ∧ e.EndsAtOnce d.topology := by
  obtain ⟨tree, run, rfl, _⟩ := read_ok ok
  obtain ⟨found, same, origin⟩ := origin_of_run run
  cases interpreted.symm.trans same
  rw [Form.parts_present_eq_nil_iff]
  cases origin with
  | wholePoint whole => simp [whole, Geometry.parts]
  | elements spread source built =>
    obtain ⟨elements, _⟩ := source_ok source
    rw [Source.parts_eq_nil_iff_of_yields (Source.yields_of_build built), elements]
    exact (and_iff_right spread).symm

/-- There is no compact point, and the ordinates do not make up coordinates, or they do and can be
held, but the elements are not in place or the scan does not end at the first of them. -/
def Repels (r : Reader) (e : Encoding α) (d : TypeCode.Descriptor) : Prop :=
  e.wholePoint? = none ∧ (d.dimension ∣ (e.ordinates.length : Int) →
    0 ≤ r.cap ∧ (InPlace e.elements e.ordinates.length d.dimension → ¬ e.EndsAtOnce d.topology))

/-- Where the first element cannot start a part the scan ends at it, or the encoding is repelled. -/
theorem rejected_read_iff_of_idle (interpreted : TypeCode.interpret e.typeCode = .ok d)
    (several : d.topology ∈ Topology.several) (idle : ¬ e.Starts d.topology) :
    Rejected (r.read form (some e)).result ↔ r.Repels e d := by
  obtain ⟨planar, _⟩ := TypeCode.interpret_ok interpreted
  have asked := r.two_le_outputDimension planar.1
  have capped : 0 ≤ min (r.settings.outputDimension d.dimension) r.cap ↔ 0 ≤ r.cap := by omega
  rw [Repels]
  cases whole : e.wholePoint? with
  | some p =>
    refine iff_of_false ?_ fun h => nomatch h.1
    intro rejected
    have refused := rejected_run_of_read rejected
    rw [run_of_wholePoint interpreted whole, Run.result_after] at refused
    exact not_rejected_runPoint p _ (by omega) refused
  | none =>
    have ran := run_of_elements (r := r) interpreted whole
    have plain : ∀ node, .built node ∈ (r.run e).events → Planar.refusal? node = none := by
      intro node built
      rw [ran, Run.events_after, List.singleton_append, List.mem_cons] at built
      rcases built with same | built
      · cases same
      · exact refusal?_runElements several idle node built
    rw [rejected_read_iff plain, ran, Run.result_after,
      rejected_runElements_iff (by omega) several idle, capped]
    exact (and_iff_right rfl).symm

/-- Of a type code that announces several parts. The geometry that is given has none of them exactly
if the scan ended at the first element. Elements of which no part can start are rejected only if the
scan goes on, or if they or the ordinates are malformed; then they are, unless a limit of the
machine stops the reading. A compact point is never rejected. -/
theorem emptiness_of_read (m : Machine) (interpreted : TypeCode.interpret e.typeCode = .ok d)
    (several : d.topology ∈ Topology.several) :
    (∀ placed, (r.readOn m form (some e)).result = .ok (some placed) →
        (placed.geometry.parts = [] ↔ e.wholePoint? = none ∧ e.EndsAtOnce d.topology)) ∧
      (¬ e.Starts d.topology →
        (Rejected (r.readOn m form (some e)).result → r.Repels e d) ∧
          (r.Repels e d → Rejected (r.readOn m form (some e)).result ∨
            m.Stops (r.readOn m form (some e)).result) ∧
          (m.Serves r e → 0 ≤ r.cap →
            (Rejected (r.readOn m form (some e)).result ↔ r.Repels e d))) := by
  refine ⟨fun placed ok => parts_eq_nil_iff_of_read interpreted (read_of_readOn ok), fun idle => ?_⟩
  have unlimited : Rejected (r.read form (some e)).result ↔ r.Repels e d :=
    rejected_read_iff_of_idle interpreted several idle
  refine ⟨fun rejected => unlimited.mp (rejected_read_of_readOn rejected), fun repels => ?_,
    fun serves capped => ?_⟩
  · rcases r.stops_or_readOn_eq m form e with stops | same
    · exact .inr stops
    · rw [same]
      exact .inl (unlimited.mpr repels)
  · rw [serves.result_readOn capped]
    exact unlimited

def lineUnderPoints : Encoding Exact where
  typeCode := 2005
  srid := none
  point := none
  elements := [⟨1, 2, 1⟩]
  ordinates := [1, 2, 3, 4].map fun x => ⟨some x⟩

/-- A line under the code of several points is refused. -/
theorem emptiness_of_read_lineUnderPoints :
    TypeCode.interpret lineUnderPoints.typeCode = .ok ⟨2005, 2, 0, .multiPoint⟩ ∧
      Topology.multiPoint ∈ Topology.several ∧ ¬ lineUnderPoints.Starts .multiPoint ∧
      Machine.tight.Serves usual lineUnderPoints ∧
      Rejected (usual.readOn .tight .tree (some lineUnderPoints)).result := by
  have interpreted : TypeCode.interpret lineUnderPoints.typeCode = .ok ⟨2005, 2, 0, .multiPoint⟩ :=
    rfl
  have several : Topology.multiPoint ∈ Topology.several := by decide
  have idle : ¬ lineUnderPoints.Starts .multiPoint := by
    intro found
    obtain ⟨first, head, starts⟩ := found
    cases head
    exact absurd starts (by decide)
  have capped : 0 ≤ usual.cap := by decide
  have goes : ¬ lineUnderPoints.EndsAtOnce .multiPoint := by
    simp [Encoding.EndsAtOnce, Topology.EndsAt]
  have serves : Machine.tight.Serves usual lineUnderPoints :=
    ⟨by decide, by decide, by decide, by decide, by decide⟩
  refine ⟨interpreted, several, idle, serves, ?_⟩
  obtain ⟨_, rejects⟩ := emptiness_of_read .tight interpreted several
  obtain ⟨_, _, served⟩ := rejects idle
  exact (served serves capped).mpr ⟨rfl, fun _ => ⟨capped, fun _ => goes⟩⟩

def pointUnderLines : Encoding Exact where
  typeCode := 2006
  srid := none
  point := none
  elements := [⟨1, 1, 1⟩]
  ordinates := [1, 2].map fun x => ⟨some x⟩

/-- The point is not rejected, and no line is read. -/
theorem parts_of_read_pointUnderLines :
    Topology.multiLine.code = TypeCode.topologyCode pointUnderLines.typeCode ∧
      ¬ pointUnderLines.Starts .multiLine ∧
      ∃ placed, (usual.readOn .tight .tree (some pointUnderLines)).result = .ok (some placed) ∧
        placed.geometry.parts = [] := by
  have idle : ¬ pointUnderLines.Starts .multiLine := by
    intro found
    obtain ⟨first, head, starts⟩ := found
    cases head
    exact absurd starts (by decide)
  obtain ⟨placed, ok, empty⟩ := exists_readOn (p := fun placed => placed.geometry.parts.isEmpty)
    (show (readEncodingOn .tight usual .tree pointUnderLines).result.toOption.any _ = true by
      decide +kernel)
  exact ⟨by decide, idle, placed, ok, List.isEmpty_iff.mp empty⟩

end Reader

end TripletGeometry
