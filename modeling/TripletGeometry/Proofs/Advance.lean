import TripletGeometry.Proofs.Preservation
import TripletGeometry.Proofs.ElementReaders

/-!
What a run does on its way, whether it ends well or not. It moves forward and never past the
elements; every node that it puts together was read from one element or holds no coordinates of its
own; and where it fails it stands at the element that could not be read.
-/
namespace TripletGeometry

namespace Source

variable {α : Type} [Ordinate α]

/-- Reading the element at the index fails like this, as whatever it was to be read. -/
inductive FailsAt (s : Source α) (i : Nat) (failure : Failure) : Prop
  | bounds {kind : String} (failed : s.directory.checkBounds i kind = .error failure)
  | point (failed : s.pointAt i = .error failure)
  | multiPoint (failed : s.multiPointAt i = .error failure)
  | line (failed : s.lineAt i = .error failure)
  | member (failed : s.loneMemberAt i = .error failure)
  | shell (failed : s.shellAt i = .error failure)
  | hole (failed : s.holeAt i = .error failure)

/-- A node that is put together: the ring or the shape of one element, or a geometry of parts. -/
inductive Makes (s : Source α) : Node α → Prop
  | ring {i : Nat} {ring : Coordinates α} (read : s.ringAt i = .ok ring) : Makes s (.ring ring)
  | point {i : Nat} {shape : Shape α} (read : s.pointAt i = .ok shape) :
      Makes s (.geometry (.shape shape))
  | multiPoint {i : Nat} {shape : Shape α} (read : s.multiPointAt i = .ok shape) :
      Makes s (.geometry (.shape shape))
  | line {i : Nat} {line : Coordinates α} (read : s.lineAt i = .ok line) :
      Makes s (.geometry (.shape (.lineString line)))
  | polygon (polygon : Polygon α) : Makes s (.geometry (.shape (.polygon polygon)))
  | multiLine (lines : List (Coordinates α)) : Makes s (.geometry (.multiLineString lines))
  | multiPolygon (polygons : List (Polygon α)) : Makes s (.geometry (.multiPolygon polygons))
  | collection (members : List (Shape α)) : Makes s (.geometry (.collection members))

/-- What happens while parts are read: a node is put together, or it is noted that a polygon was
read. -/
inductive Happens (s : Source α) : Event α → Prop
  | built {node : Node α} (made : s.Makes node) : Happens s (.built node)
  | polygon (index holeCount : Nat) : Happens s (.noted (.polygon index holeCount))

/-- From the index on the run moves forward only and stays within the elements; if it fails, then
because of the element at which it stands. -/
structure Advances {β : Type} (s : Source α) (i : Nat) (run : Run α β) : Prop where
  within : i ≤ run.cursor ∧ run.cursor ≤ s.directory.count
  happens : ∀ event ∈ run.events, s.Happens event
  fails : ∀ {failure}, run.result = .error failure → s.FailsAt run.cursor failure

/-- A building reads its parts, and if it ends well it notes what is left behind them. -/
structure Concludes (s : Source α) (i : Nat) (run : Run α (Geometry α)) : Prop where
  within : i ≤ run.cursor ∧ run.cursor ≤ s.directory.count
  happens : ∀ event ∈ run.events, s.Happens event ∨
    (∃ g, run.result = .ok g) ∧ ∃ kind, event ∈ (s.unreadNotes kind run.cursor).map .noted
  fails : ∀ {failure}, run.result = .error failure → s.FailsAt run.cursor failure

variable {β γ : Type} {s : Source α} {i j : Nat}

theorem happens_append {events later : List (Event α)} (early : ∀ event ∈ events, s.Happens event)
    (late : ∀ event ∈ later, s.Happens event) : ∀ event ∈ events ++ later, s.Happens event :=
  fun event member => (List.mem_append.mp member).elim (early event) (late event)

namespace Advances

variable {run : Run α β}

theorem fail {failure : Failure} (inside : i ≤ s.directory.count) (failed : s.FailsAt i failure) :
    s.Advances i (Run.fail i failure : Run α β) where
  within := ⟨Nat.le_refl i, inside⟩
  happens _ member := absurd member List.not_mem_nil
  fails same := by
    cases same
    exact failed

theorem single (here : i < s.directory.count) {node : Node α} (made : s.Makes node) (value : β) :
    s.Advances i (⟨i + 1, [.built node], .ok value⟩ : Run α β) where
  within := ⟨Nat.le_succ i, here⟩
  happens event member := by
    rw [List.mem_singleton.mp member]
    exact .built made
  fails failed := by cases failed

theorem step (h : s.Advances (i + 1) run) {node : Node α} (made : s.Makes node) :
    s.Advances i (run.after [.built node]) where
  within := ⟨Nat.le_of_succ_le h.within.1, h.within.2⟩
  happens := happens_append
    (fun event member => by rw [List.mem_singleton.mp member]; exact .built made) h.happens
  fails := h.fails

theorem map (h : s.Advances i run) (f : β → γ) : s.Advances i (run.map f) where
  within := h.within
  happens := h.happens
  fails {failure} failed := by
    cases ended : run.result with
    | error other =>
      simp only [Run.map, ended, Except.map] at failed
      cases failed
      exact h.fails ended
    | ok value =>
      simp only [Run.map, ended, Except.map] at failed
      cases failed

/-- What comes after the last element that a run reads does not move it. -/
theorem andThen_still (h : s.Advances i run) {next : Nat → β → Run α γ}
    (still : ∀ value, run.result = .ok value → (next run.cursor value).cursor = run.cursor ∧
      (∀ event ∈ (next run.cursor value).events, s.Happens event) ∧
      ∃ last, (next run.cursor value).result = .ok last) : s.Advances i (run.andThen next) := by
  cases ended : run.result with
  | error failure =>
    rw [Run.andThen_of_error next ended]
    refine ⟨h.within, h.happens, fun same => ?_⟩
    cases same
    exact h.fails ended
  | ok value =>
    obtain ⟨stays, closing, last, ends⟩ := still value ended
    rw [Run.andThen_of_ok next ended]
    refine ⟨?_, happens_append h.happens closing, fun failed => ?_⟩
    · rw [Run.cursor_after, stays]
      exact h.within
    · rw [Run.result_after, ends] at failed
      cases failed

/-- Once the parts have ended well a building notes what is left, and may put the parts together. -/
theorem concludes {run : Run α β} (h : s.Advances i run) {next : Nat → β → Run α (Geometry α)}
    (still : ∀ value, run.result = .ok value → (next run.cursor value).cursor = run.cursor ∧
      (∀ event ∈ (next run.cursor value).events, s.Happens event ∨
        ∃ kind, event ∈ (s.unreadNotes kind run.cursor).map .noted) ∧
      ∃ g, (next run.cursor value).result = .ok g) : s.Concludes i (run.andThen next) := by
  cases ended : run.result with
  | error failure =>
    rw [Run.andThen_of_error next ended]
    refine ⟨h.within, fun event member => .inl (h.happens event member), fun same => ?_⟩
    cases same
    exact h.fails ended
  | ok value =>
    obtain ⟨stays, closing, g, ends⟩ := still value ended
    rw [Run.andThen_of_ok next ended]
    refine ⟨?_, fun event member => ?_, fun failed => ?_⟩
    · rw [Run.cursor_after, stays]
      exact h.within
    · rw [Run.cursor_after, stays, Run.result_after]
      rcases List.mem_append.mp member with early | late
      · exact .inl (h.happens event early)
      · exact (closing event late).imp id fun noted => ⟨⟨g, ends⟩, noted⟩
    · rw [Run.result_after, ends] at failed
      cases failed

end Advances

theorem happens_finishPolygon (i cursor : Nat) (polygon : Polygon α) :
    ∀ event ∈ (finishPolygon i cursor polygon).events, s.Happens event := by
  intro event member
  simp only [finishPolygon, List.mem_cons, List.not_mem_nil, or_false] at member
  rcases member with rfl | rfl
  · exact .polygon i polygon.holes.length
  · exact .built (.polygon polygon)

/-! Scans. -/

omit [Ordinate α] in
theorem lt_count_of_loneMemberAt {shape : Shape α} (ok : s.loneMemberAt i = .ok shape) :
    i < s.directory.count := by
  rcases loneMemberAt_ok ok with point | cluster | ⟨line, lined, _⟩
  · exact ((s.judges_pointAt i).eq_ok_iff.mp point).1.1
  · exact ((s.judges_multiPointAt i).eq_ok_iff.mp cluster).1.1
  · exact ((s.judges_lineAt i).eq_ok_iff.mp lined).1.1

/-- A member that takes one element is made from it. -/
theorem makes_of_loneMemberAt {shape : Shape α} (read : s.loneMemberAt i = .ok shape) :
    s.Makes (.geometry (.shape shape)) := by
  rcases loneMemberAt_ok read with point | cluster | ⟨line, lined, rfl⟩
  · exact .point point
  · exact .multiPoint cluster
  · exact .line lined

/-- A scan moves forward because each of its steps does. -/
theorem preserves_advances (s : Source α) :
    Preserves (α := α) (fun i => i ≤ s.directory.count) s.Advances where
  done value inside :=
    ⟨⟨Nat.le_refl _, inside⟩, fun _ member => absurd member List.not_mem_nil, nofun⟩
  map f h := h.map f
  stop h failed := by
    refine ⟨h.within, h.happens, fun same => ?_⟩
    cases same
    exact h.fails failed
  chain h _ later :=
    ⟨⟨Nat.le_trans h.within.1 later.within.1, later.within.2⟩,
      happens_append h.happens later.happens, later.fails⟩

theorem preservesLines_advances (s : Source α) :
    s.PreservesLines (fun i => i ≤ s.directory.count) s.Advances where
  toPreserves := preserves_advances s
  line_fail inside _ failed := .fail inside (.line failed)
  line_read {i line} inside _ read := by
    have here := ((s.judges_lineAt i).eq_ok_iff.mp read).1.1
    exact ⟨here, .single here (.line read) line⟩

theorem preservesMembers_advances (s : Source α) :
    s.PreservesMembers (fun i => i ≤ s.directory.count) (fun i => i ≤ s.directory.count)
      s.Advances s.Advances where
  toPreserves := preserves_advances s
  hole_fail inside failed := .fail inside (.hole failed)
  hole_none inside _ := ⟨inside, (preserves_advances s).done [] inside⟩
  hole_read inside read :=
    ⟨lt_count_of_holeAt read, fun rest => (rest.map _).step (.ring (ringAt_of_holeAt read))⟩
  shell_fail inside _ failed := .fail inside (.shell failed)
  polygon_read {i outer} inside _ read := by
    obtain ⟨⟨here, _⟩, _⟩ := ringAt_ok (ringAt_of_shellAt read)
    refine ⟨here, fun _ holes => ?_⟩
    exact ((holes.map (Polygon.mk outer)).step (.ring (ringAt_of_shellAt read))).andThen_still
      fun polygon _ => ⟨rfl, happens_finishPolygon i _ polygon, polygon, rfl⟩
  lone_fail inside _ _ failed := .fail inside (.member failed)
  lone_read {i shape} inside _ _ read := by
    have here := lt_count_of_loneMemberAt read
    exact ⟨here, .single here (makes_of_loneMemberAt read) shape⟩

section Readers

variable (inside : i ≤ s.directory.count)
include inside

theorem advances_shapeAt {read : Nat → Except Failure (Shape α)}
    (failed : ∀ failure, read i = .error failure → s.FailsAt i failure)
    (taken : ∀ shape, read i = .ok shape →
      i < s.directory.count ∧ s.Makes (.geometry (.shape shape))) :
    s.Advances i (shapeAt read i) := by
  unfold shapeAt
  split
  · rename_i failure refused
    exact .fail inside (failed failure refused)
  · rename_i shape found
    obtain ⟨here, made⟩ := taken shape found
    exact .single here made shape

/-- A polygon moves behind its shell and behind its holes, and fails at the ring that is wrong. -/
theorem advances_polygonAt : s.Advances i (s.polygonAt i) := by
  cases shell : s.shellAt i with
  | error failure =>
    rw [polygonAt_eq, shell]
    exact .fail inside (.shell shell)
  | ok outer =>
    exact (preservesMembers_advances s).to_polygonAt inside (code_mem_shells_of_shellAt shell)

/-! Buildings. -/

omit inside in
theorem concludes_single {kind : Kind} {run : Run α (Shape α)} (h : s.Advances i run) :
    s.Concludes i (s.single kind run) :=
  h.concludes fun shape _ => ⟨rfl, fun _ noted => .inr ⟨kind, noted⟩, .shape shape, rfl⟩

/-- Where there is no element the only index is the first one, whose bounds are checked. -/
theorem concludes_several {kind : Kind} {notes : Nat → List Note} {parts : Run α (Geometry α)}
    (h : s.Advances i parts) (made : ∀ g, parts.result = .ok g → s.Makes (.geometry g))
    (noted : ∀ note ∈ notes parts.cursor, note ∈ s.unreadNotes kind parts.cursor) :
    s.Concludes i (s.several kind i notes parts) := by
  by_cases nonempty : 0 < s.directory.count
  · rw [several_of_nonempty nonempty]
    refine h.concludes fun g ended => ⟨rfl, fun event member => ?_, g, rfl⟩
    rcases List.mem_append.mp member with early | last
    · obtain ⟨note, listed, rfl⟩ := List.mem_map.mp early
      exact .inr ⟨kind, List.mem_map.mpr ⟨note, noted note listed, rfl⟩⟩
    · rw [List.mem_singleton.mp last]
      exact .inl (.built (made g ended))
  · have first : i = 0 := by omega
    subst first
    unfold several
    split
    · rename_i failure failed
      refine ⟨⟨Nat.le_refl 0, inside⟩, fun _ member => absurd member List.not_mem_nil, ?_⟩
      intro other same
      cases same
      exact .bounds failed
    · rename_i passed
      exact absurd ((s.directory.judges_checkBounds 0 kind.name).eq_ok_iff.mp passed).1 nonempty

/-- A building reads its parts, unless the topology is none of which geometries are built. -/
theorem concludes_build (d : TypeCode.Descriptor) :
    s.Concludes i (s.build d i) ∨ s.build d i = .fail i (.fault (.unsupportedType d.typeCode)) := by
  have members := preservesMembers_advances s
  unfold build
  cases d.topology with
  | point =>
    exact .inl (concludes_single (advances_shapeAt inside (fun _ => .point)
      fun _ read => ⟨((s.judges_pointAt i).eq_ok_iff.mp read).1.1, .point read⟩))
  | line =>
    refine .inl (concludes_single (advances_shapeAt inside (fun failure failed => .line ?_)
      fun shape read => ?_))
    · cases read : s.lineAt i with
      | error other =>
        rw [read] at failed
        cases failed
        rfl
      | ok line =>
        rw [read] at failed
        cases failed
    · obtain ⟨line, found, rfl⟩ := map_eq_ok.mp read
      exact ⟨((s.judges_lineAt i).eq_ok_iff.mp found).1.1, .line found⟩
  | polygon => exact .inl (concludes_single ((advances_polygonAt inside).map _))
  | multiPoint =>
    exact .inl (concludes_single (advances_shapeAt inside (fun _ => .multiPoint)
      fun _ read => ⟨((s.judges_multiPointAt i).eq_ok_iff.mp read).1.1, .multiPoint read⟩))
  | multiLine =>
    refine .inl (concludes_several inside
      (((preservesLines_advances s).to_linesFrom inside).map _) (fun g ended => ?_) fun _ => id)
    obtain ⟨lines, _, rfl⟩ := Run.result_map_eq_ok.mp ended
    exact .multiLine lines
  | multiPolygon =>
    refine .inl (concludes_several inside ((members.to_polygonsFrom inside).map _)
      (fun g ended => ?_) fun _ => id)
    obtain ⟨polygons, _, rfl⟩ := Run.result_map_eq_ok.mp ended
    exact .multiPolygon polygons
  | collection =>
    refine .inl (concludes_several inside ((members.to_membersFrom inside).map _)
      (fun g ended => ?_) fun _ member => absurd member List.not_mem_nil)
    obtain ⟨parts, _, rfl⟩ := Run.result_map_eq_ok.mp ended
    exact .collection parts
  | unknown | solid | multiSolid => exact .inr rfl

end Readers

theorem makes_of_build (d : TypeCode.Descriptor) {node : Node α}
    (built : .built node ∈ (s.build d 0).events) : s.Makes node := by
  rcases concludes_build (Nat.zero_le s.directory.count) d with concludes | unsupported
  · rcases concludes.happens _ built with happens | ⟨_, _, noted⟩
    · cases happens with
      | built made => exact made
    · obtain ⟨_, _, same⟩ := List.mem_map.mp noted
      cases same
  · rw [unsupported] at built
    cases built

end Source

end TripletGeometry
