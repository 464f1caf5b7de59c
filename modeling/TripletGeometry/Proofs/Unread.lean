import TripletGeometry.Proofs.AnnouncedKind
import TripletGeometry.Proofs.Conservation

/-!
No element is lost without a word: the leaves of a geometry and the elements that the log calls
unread add up to the elements of the encoding. The one exception is an element that carries the
code of the sentinel, at which a collection ends as if there were no further element.
-/
namespace TripletGeometry

variable {α β : Type}

/-- Every element has its leaf, or else the log tells how many have none. -/
def Accounted (notes : List Note) (leaves elements : Nat) : Prop :=
  leaves = elements ∨ ∃ kind index code left,
    .unread kind index code left ∈ notes ∧ leaves + left = elements

/-! Notes. -/

/-- Nothing is noted but polygons that were read. -/
def NotesPolygons (events : List (Event α)) : Prop :=
  ∀ event ∈ events, ∀ note, event = .noted note → ∃ index holes, note = .polygon index holes

theorem notesPolygons_built (node : Node α) : NotesPolygons [.built node] := by
  intro event member note same
  subst same
  simp at member

theorem Run.mem_notes {run : Run α β} {note : Note} :
    note ∈ run.notes ↔ .noted note ∈ run.events := by
  simp only [Run.notes, List.mem_filterMap]
  constructor
  · intro found
    obtain ⟨event, member, same⟩ := found
    cases event with
    | built node => cases same
    | noted found =>
      cases same
      exact member
  · intro member
    exact ⟨_, member, rfl⟩

namespace Source

variable {s : Source α} {i : Nat}

theorem notesPolygons_shapeAt {read : Nat → Except Failure (Shape α)} {shape : Shape α}
    (ok : (shapeAt read i).result = .ok shape) : NotesPolygons (shapeAt read i).events := by
  rw [(shapeAt_ok ok).2]
  exact notesPolygons_built _

theorem notesPolygons_linesFrom {lines : List (Coordinates α)}
    (ok : (s.linesFrom i).result = .ok lines) : NotesPolygons (s.linesFrom i).events := by
  refine (scan_linesFrom ok).forall_events ?_
  intro i line events j step
  obtain ⟨_, rfl, _⟩ := step
  exact notesPolygons_built _

variable [Ordinate α]

theorem notesPolygons_holesFrom {holes : List (Coordinates α)}
    (ok : (s.holesFrom i).result = .ok holes) : NotesPolygons (s.holesFrom i).events := by
  refine (scan_holesFrom ok).forall_events ?_
  intro i ring events j step
  obtain ⟨_, rfl, _⟩ := step
  exact notesPolygons_built _

theorem notesPolygons_polygonAt {polygon : Polygon α}
    (ok : (s.polygonAt i).result = .ok polygon) : NotesPolygons (s.polygonAt i).events := by
  obtain ⟨_, holes, _, events⟩ := polygonAt_ok ok
  rw [events]
  intro event member note same
  subst same
  simp only [List.cons_append, List.mem_cons, reduceCtorEq, false_or, List.mem_append,
    Event.noted.injEq, List.not_mem_nil, or_false] at member
  rcases member with early | rfl
  · exact notesPolygons_holesFrom holes _ early note rfl
  · exact ⟨_, _, rfl⟩

theorem notesPolygons_memberAt {shape : Shape α} (ok : (s.memberAt i).result = .ok shape) :
    NotesPolygons (s.memberAt i).events := by
  obtain ⟨polygon, read, _, _, events⟩ | ⟨_, _, events⟩ := memberAt_ok ok
  · rw [events]
    exact notesPolygons_polygonAt read
  · rw [events]
    exact notesPolygons_built _

theorem notesPolygons_polygonsFrom {polygons : List (Polygon α)}
    (ok : (s.polygonsFrom i).result = .ok polygons) : NotesPolygons (s.polygonsFrom i).events := by
  refine (scan_polygonsFrom ok).forall_events ?_
  intro i polygon events j step
  obtain ⟨_, read⟩ := step
  have quiet : NotesPolygons (s.polygonAt i).events := notesPolygons_polygonAt (by rw [read])
  rwa [read] at quiet

/-- While members are read nothing is noted but polygons. -/
theorem notesPolygons_membersFrom {members : List (Shape α)}
    (ok : (s.membersFrom i).result = .ok members) : NotesPolygons (s.membersFrom i).events := by
  refine (scan_membersFrom ok).forall_events ?_
  intro i member events j step
  obtain ⟨_, read⟩ := step
  have quiet : NotesPolygons (s.memberAt i).events := notesPolygons_memberAt (by rw [read])
  rwa [read] at quiet

omit [Ordinate α] in
/-- What is left unread is noted once, after everything else. -/
theorem unread_mem_unreadNotes {kind noted : Kind} {cursor index left : Nat} {code : Int} :
    .unread noted index code left ∈ s.unreadNotes kind cursor ↔
      kind = noted ∧ (index = cursor ∧ index < s.directory.count) ∧
        code = (s.directory.entryAt index).code ∧ left = s.directory.count - index := by
  unfold unreadNotes
  split
  · rename_i remains
    simp only [List.mem_singleton, Note.unread.injEq]
    constructor
    · intro found
      obtain ⟨rfl, rfl, rfl, rfl⟩ := found
      exact ⟨rfl, ⟨rfl, remains⟩, rfl, rfl⟩
    · intro found
      obtain ⟨rfl, ⟨rfl, _⟩, rfl, rfl⟩ := found
      exact ⟨rfl, rfl, rfl, rfl⟩
  · rename_i finished
    constructor
    · nofun
    · intro found
      obtain ⟨_, ⟨rfl, remains⟩, _⟩ := found
      exact absurd remains finished

end Source

theorem NotesPolygons.unread_notMem {events : List (Event α)} (h : NotesPolygons events)
    (kind : Kind) (index : Nat) (code : Int) (left : Nat) :
    .noted (.unread kind index code left) ∉ events := by
  intro member
  obtain ⟨_, _, same⟩ := h _ member _ rfl
  cases same

namespace Source

variable {s : Source α} {i : Nat} {g : Geometry α} {kind noted : Kind} {index left : Nat}
  {code : Int}

theorem unread_mem_notes_single {run : Run α (Shape α)}
    (polygons : ∀ shape, run.result = .ok shape → NotesPolygons run.events)
    (ok : (s.single kind run).result = .ok g) :
    .unread noted index code left ∈ (s.single kind run).notes ↔
      kind = noted ∧ (index = (s.single kind run).cursor ∧ index < s.directory.count) ∧
        code = (s.directory.entryAt index).code ∧ left = s.directory.count - index := by
  obtain ⟨shape, read, _, stop, events⟩ := single_ok ok
  have early := (polygons shape read).unread_notMem noted index code left
  rw [stop, Run.mem_notes, events, List.mem_append, or_iff_right early,
    List.mem_map_of_injective (fun _ _ same => Event.noted.inj same), unread_mem_unreadNotes]

/-- Unread elements are noted once, behind the last part. -/
theorem unread_mem_notes_several {notes : Nat → List Note} {parts : Run α (Geometry α)}
    (polygons : ∀ g, parts.result = .ok g → NotesPolygons parts.events)
    (ok : (s.several kind i notes parts).result = .ok g) :
    .unread noted index code left ∈ (s.several kind i notes parts).notes ↔
      .unread noted index code left ∈ notes (s.several kind i notes parts).cursor := by
  obtain ⟨_, read, stop, events⟩ := several_ok ok
  have early := (polygons g read).unread_notMem noted index code left
  have late := (notesPolygons_built (.geometry g)).unread_notMem noted index code left
  rw [stop, Run.mem_notes, events, List.mem_append, or_iff_right early, List.mem_append,
    or_iff_left late, List.mem_map_of_injective (fun _ _ same => Event.noted.inj same)]

variable [Ordinate α]

/-- A building that succeeds notes the elements left unread exactly if there are any and it does
not build a collection. -/
theorem unread_mem_notes_build {d : TypeCode.Descriptor} (ok : (s.build d i).result = .ok g) :
    .unread noted index code left ∈ (s.build d i).notes ↔
      (d.topology ≠ .collection ∧ d.topology.kind? = some noted) ∧
        (index = (s.build d i).cursor ∧ index < s.directory.count) ∧
        code = (s.directory.entryAt index).code ∧ left = s.directory.count - index := by
  unfold build at ok ⊢
  cases topology : d.topology with
  | point =>
    simp only [topology] at ok ⊢
    rw [unread_mem_notes_single (fun _ read => notesPolygons_shapeAt read) ok]
    simp [Topology.kind?]
  | line =>
    simp only [topology] at ok ⊢
    rw [unread_mem_notes_single (fun _ read => notesPolygons_shapeAt read) ok]
    simp [Topology.kind?]
  | polygon =>
    simp only [topology] at ok ⊢
    rw [unread_mem_notes_single (fun _ read => ?_) ok]
    · simp [Topology.kind?]
    · obtain ⟨_, found, _⟩ := Run.result_map_eq_ok.mp read
      exact notesPolygons_polygonAt found
  | multiPoint =>
    simp only [topology] at ok ⊢
    rw [unread_mem_notes_single (fun _ read => notesPolygons_shapeAt read) ok]
    simp [Topology.kind?]
  | multiLine =>
    simp only [topology] at ok ⊢
    rw [unread_mem_notes_several (fun _ read => ?_) ok, unread_mem_unreadNotes]
    · simp [Topology.kind?]
    · obtain ⟨_, found, _⟩ := Run.result_map_eq_ok.mp read
      exact notesPolygons_linesFrom found
  | multiPolygon =>
    simp only [topology] at ok ⊢
    rw [unread_mem_notes_several (fun _ read => ?_) ok, unread_mem_unreadNotes]
    · simp [Topology.kind?]
    · obtain ⟨_, found, _⟩ := Run.result_map_eq_ok.mp read
      exact notesPolygons_polygonsFrom found
  | collection =>
    simp only [topology] at ok ⊢
    rw [unread_mem_notes_several (fun _ read => ?_) ok]
    · simp
    · obtain ⟨_, found, _⟩ := Run.result_map_eq_ok.mp read
      exact notesPolygons_membersFrom found
  | unknown | solid | multiSolid =>
    simp only [topology] at ok
    cases ok

/-! Elements. -/

/-- A collection goes on to an element with the code of the sentinel. -/
theorem code_at_stop_of_collection {stop : Nat} (h : s.Yields i .collection g stop) :
    (s.directory.entryAt stop).code = ElementCode.finish := by
  cases h with
  | collection _ read => exact (scan_membersFrom read).stops_at_end

/-- A collection has a leaf for every element, unless it came to an element that carries the code of
the sentinel. -/
theorem length_leaves_collection_iff (positive : 0 < s.directory.dimension) {stop : Nat}
    (yields : s.Yields 0 .collection g stop) :
    g.leaves.length = s.directory.count ↔
      ∀ t ∈ s.directory.elements, t.code ≠ ElementCode.finish := by
  have spans := spans_of_yields positive yields
  have upTo := spans.stop_le (Nat.zero_le _)
  have start := spans.stop_eq
  constructor
  · intro all t member
    obtain ⟨k, inside, rfl⟩ := List.getElem_of_mem member
    have read : k < g.leaves.length := by
      rw [all]
      exact inside
    have entry : s.directory.entryAt (0 + k) = s.directory.elements[k] := by
      rw [Nat.zero_add, Directory.entryAt_of_lt_count inside]
      rfl
    rw [← entry]
    exact (spans.carries k read).code_ne_finish
  · intro coded
    have last := code_at_stop_of_collection yields
    by_contra short
    exact coded _ (Directory.entryAt_mem (by omega)) last

/-- Of the elements that a building found it accounts for all, except for what a collection leaves
at an element with the code of the sentinel. -/
theorem accounted_build_iff {d : TypeCode.Descriptor} (positive : 0 < s.directory.dimension)
    (ok : (s.build d 0).result = .ok g) :
    Accounted (s.build d 0).notes g.leaves.length s.directory.count ↔
      (d.topology = .collection → g.leaves.length = s.directory.count) := by
  have yields := yields_of_build ok
  have spans := spans_of_yields positive yields
  have upTo := spans.stop_le (Nat.zero_le _)
  have start := spans.stop_eq
  by_cases collected : d.topology = .collection
  · have silent : ∀ kind index code left, .unread kind index code left ∉ (s.build d 0).notes := by
      intro kind index code left noted
      exact ((unread_mem_notes_build ok).mp noted).1.1 collected
    simp only [Accounted, silent, false_and, exists_false, or_false, collected, true_imp_iff]
  · refine iff_of_true ?_ fun collection => absurd collection collected
    by_cases all : (s.build d 0).cursor = s.directory.count
    · exact .inl (by omega)
    · refine .inr ⟨g.kind, _, _, _, (unread_mem_notes_build ok).mpr
        ⟨⟨collected, kind_of_yields yields⟩, ⟨rfl, by omega⟩, rfl, rfl⟩, by omega⟩

end Source

namespace Reader

variable [Ordinate α] {r : Reader} {form : Form} {e : Encoding α} {placed : Placed (Geometry α)}

/-- A reading of elements accounts for all of them, unless it is of a collection and comes to an
element with the code of the sentinel: that element and those after it are lost without a note. -/
theorem accounted_read_iff (spread : e.wholePoint? = none)
    (ok : (r.read form (some e)).result = .ok (some placed)) :
    (Accounted (r.read form (some e)).notes placed.geometry.leaves.length e.elements.length ↔
        (TypeCode.topologyCode e.typeCode = Topology.collection.code →
          ∀ t ∈ e.elements, t.code ≠ ElementCode.finish)) ∧
      (TypeCode.topologyCode e.typeCode = Topology.collection.code →
        (placed.geometry.leaves.length = e.elements.length ↔
          ∀ t ∈ e.elements, t.code ≠ ElementCode.finish)) := by
  obtain ⟨tree, run, rfl, notes⟩ := read_ok ok
  obtain ⟨d, interpreted, origin⟩ := origin_of_run run
  obtain ⟨planar, coded⟩ := TypeCode.interpret_ok interpreted
  cases origin with
  | wholePoint whole =>
    rw [whole] at spread
    cases spread
  | @elements s _ _ source built noted =>
    obtain ⟨elements, _, dimension⟩ := source_ok source
    have positive : 0 < s.directory.dimension := by omega
    have collects : d.topology = .collection →
        (tree.leaves.length = e.elements.length ↔
          ∀ t ∈ e.elements, t.code ≠ ElementCode.finish) := by
      intro collected
      have yields := Source.yields_of_build built
      rw [collected] at yields
      have complete := Source.length_leaves_collection_iff positive yields
      rwa [Directory.count, elements] at complete
    have accounts := Source.accounted_build_iff positive built
    rw [Directory.count, elements] at accounts
    rw [← coded, Topology.code_inj, Form.length_leaves_present]
    refine ⟨?_, collects⟩
    rw [← imp_congr_right collects, ← accounts, notes, noted]
    simp only [Accounted, List.mem_cons, reduceCtorEq, false_or]

/-- A line with a point behind it that is left, and noted. -/
theorem accounted_read_lineAndRest :
    lineAndRest.wholePoint? = none ∧
      ∃ placed, (usual.read .tree (some lineAndRest)).result = .ok (some placed) ∧
        (Accounted (usual.read .tree (some lineAndRest)).notes placed.geometry.leaves.length
            lineAndRest.elements.length ↔
          (TypeCode.topologyCode lineAndRest.typeCode = Topology.collection.code →
            ∀ t ∈ lineAndRest.elements, t.code ≠ ElementCode.finish)) := by
  obtain ⟨placed, ok, _⟩ := exists_read (p := fun _ => true)
    (show (usual.readEncoding .tree lineAndRest).result.toOption.any _ = true by decide +kernel)
  exact ⟨rfl, placed, ok, (accounted_read_iff rfl ok).1⟩

/-- A collection of a point and of an element that carries the code of the sentinel. -/
def pointAndSentinel : Encoding Exact where
  typeCode := 2004
  srid := none
  point := none
  elements := [⟨1, 1, 1⟩, ⟨3, ElementCode.finish, 0⟩]
  ordinates := [1, 2, 3, 4].map fun x => ⟨some x⟩

/-- The element is neither read nor rejected, and no note tells of it. -/
theorem not_accounted_read_pointAndSentinel :
    pointAndSentinel.wholePoint? = none ∧
      ∃ placed, (usual.read .tree (some pointAndSentinel)).result = .ok (some placed) ∧
        ¬ Accounted (usual.read .tree (some pointAndSentinel)).notes
          placed.geometry.leaves.length pointAndSentinel.elements.length := by
  obtain ⟨placed, ok, one⟩ := exists_read (p := fun placed => placed.geometry.leaves.length = 1)
    (show (usual.readEncoding .tree pointAndSentinel).result.toOption.any _ = true by
      decide +kernel)
  have quiet : (usual.read .tree (some pointAndSentinel)).notes = [.elements 2004 2 4 2] := by
    decide +kernel
  have two : pointAndSentinel.elements.length = 2 := rfl
  refine ⟨rfl, placed, ok, ?_⟩
  rw [quiet, of_decide_eq_true one, two]
  simp [Accounted]

end Reader

end TripletGeometry
