import TripletGeometry.Proofs.ElementReaders
import TripletGeometry.Proofs.Preservation
import TripletGeometry.Proofs.Rendering

/-!
How much a building puts together. Every element that is passed gives one node with coordinates of
its own. The other nodes are one for each polygon, and the geometry itself if it has parts; so there
are never more than two nodes for an element, and one. This is counted over the events of a run and
needs nothing of how the run ends.
-/
namespace TripletGeometry

variable {α β : Type}

def Node.leaf? : Node α → Option (Leaf α)
  | .ring c => some ⟨.linearRing, c⟩
  | .geometry (.shape (.point c)) => some ⟨.point, c⟩
  | .geometry (.shape (.lineString c)) => some ⟨.lineString, c⟩
  | .geometry (.shape (.multiPoint c)) => some ⟨.multiPoint, c⟩
  | .geometry _ => none

namespace Event

def leaves (events : List (Event α)) : List (Leaf α) := (nodes events).filterMap Node.leaf?

theorem leaves_append (xs ys : List (Event α)) : leaves (xs ++ ys) = leaves xs ++ leaves ys := by
  simp only [leaves, nodes_append, List.filterMap_append]

end Event

/-- From one index to the other there is one leaf for each element, and no more nodes than so many
for each leaf. -/
structure Tally (per start stop : Nat) (events : List (Event α)) : Prop where
  stop_eq : stop = start + (Event.leaves events).length
  length_le : (Event.nodes events).length ≤ per * (Event.leaves events).length

namespace Tally

variable {per start middle stop : Nat} {events later : List (Event α)} {node : Node α}

theorem nil : Tally per start start ([] : List (Event α)) := ⟨rfl, Nat.zero_le _⟩

theorem single {leaf : Leaf α} (h : node.leaf? = some leaf) :
    Tally 1 start (start + 1) [.built node] := by
  have leaves : Event.leaves [.built node] = [leaf] := by
    simp [Event.leaves, Event.nodes, Event.node?, h]
  exact ⟨by rw [leaves]; rfl, by rw [leaves]; exact Nat.le_refl 1⟩

/-- Tallies of neighbouring stretches add up. -/
theorem append (first : Tally per start middle events) (second : Tally per middle stop later) :
    Tally per start stop (events ++ later) := by
  have meet := first.stop_eq
  have last := second.stop_eq
  have few := first.length_le
  have few' := second.length_le
  constructor
  · rw [Event.leaves_append, List.length_append]
    omega
  · rw [Event.nodes_append, Event.leaves_append, List.length_append, List.length_append,
      Nat.mul_add]
    omega

theorem append_notes (h : Tally per start stop events) (notes : List Note) :
    Tally per start stop (events ++ notes.map .noted) := by
  have silent : Event.leaves (notes.map (Event.noted (α := α))) = [] := by
    rw [Event.leaves, Event.nodes_noted]
    rfl
  constructor
  · rw [Event.leaves_append, silent, List.append_nil]
    exact h.stop_eq
  · rw [Event.leaves_append, Event.nodes_append, silent, Event.nodes_noted, List.append_nil,
      List.append_nil]
    exact h.length_le

theorem weaken (h : Tally 1 start stop events) : Tally 2 start stop events := by
  have few := h.length_le
  exact ⟨h.stop_eq, by omega⟩

/-- There is room for a node that is no leaf once an element was passed. -/
theorem append_branch (h : Tally 1 start stop events) (passed : start < stop) (note : Note)
    (branch : node.leaf? = none) : Tally 2 start stop (events ++ [.noted note, .built node]) := by
  have leaves : Event.leaves (events ++ [.noted note, .built node]) = Event.leaves events := by
    rw [Event.leaves_append]
    simp [Event.leaves, Event.nodes, Event.node?, branch]
  have nodes : (Event.nodes (events ++ [.noted note, .built node])).length =
      (Event.nodes events).length + 1 := by
    rw [Event.nodes_append, List.length_append]
    rfl
  have reached := h.stop_eq
  have few := h.length_le
  constructor
  · rw [leaves]
    exact reached
  · rw [leaves, nodes]
    omega

end Tally

/-! Readers. -/

namespace Source

variable {s : Source α} {i : Nat}

theorem leaf_of_pointAt {shape : Shape α} (ok : s.pointAt i = .ok shape) :
    ∃ leaf, (Node.geometry (.shape shape)).leaf? = some leaf := by
  obtain ⟨_, rfl⟩ := (s.judges_pointAt i).eq_ok_iff.mp ok
  exact ⟨_, rfl⟩

theorem leaf_of_multiPointAt {shape : Shape α} (ok : s.multiPointAt i = .ok shape) :
    ∃ leaf, (Node.geometry (.shape shape)).leaf? = some leaf := by
  obtain ⟨_, rfl⟩ := (s.judges_multiPointAt i).eq_ok_iff.mp ok
  exact ⟨_, rfl⟩

theorem leaf_of_loneMemberAt {shape : Shape α} (ok : s.loneMemberAt i = .ok shape) :
    ∃ leaf, (Node.geometry (.shape shape)).leaf? = some leaf := by
  rcases loneMemberAt_ok ok with point | cluster | ⟨line, _, rfl⟩
  · exact leaf_of_pointAt point
  · exact leaf_of_multiPointAt cluster
  · exact ⟨_, rfl⟩

theorem tally_shapeAt {read : Nat → Except Failure (Shape α)}
    (lone : ∀ shape, read i = .ok shape →
      ∃ leaf, (Node.geometry (.shape shape)).leaf? = some leaf) :
    Tally 1 i (shapeAt read i).cursor (shapeAt read i).events := by
  unfold shapeAt
  split
  · exact .nil
  · rename_i shape found
    obtain ⟨leaf, known⟩ := lone shape found
    exact .single known

/-- The tally of a scan goes on from part to part, wherever it started. -/
theorem preserves_tally :
    Preserves (α := α) (fun _ => True) fun i run => Tally 2 i run.cursor run.events where
  done _ _ := .nil
  map _ h := h
  stop h _ := h
  chain h _ later := h.append later

theorem preservesLines_tally (s : Source α) :
    s.PreservesLines (fun _ => True) fun i run => Tally 2 i run.cursor run.events where
  toPreserves := preserves_tally
  line_fail _ _ _ := .nil
  line_read _ _ _ := ⟨trivial, (Tally.single rfl).weaken⟩

variable [Ordinate α]

omit [Ordinate α] in
/-- A ring and the holes in it are leaves; the polygon is one node more, if it comes to that. -/
theorem tally_finishPolygon {outer : Coordinates α} {run : Run α (List (Coordinates α))}
    (passed : i < run.cursor) (holes : Tally 1 (i + 1) run.cursor run.events) :
    let polygon := ((run.map (Polygon.mk outer)).after [.built (.ring outer)]).andThen
      (finishPolygon i)
    Tally 2 i polygon.cursor polygon.events := by
  have rings : Tally 1 i run.cursor ([.built (.ring outer)] ++ run.events) :=
    (Tally.single rfl).append holes
  cases ended : run.result with
  | error failure =>
    simp only [Run.andThen, Run.result_after, Run.map, ended, Except.map]
    exact rings.weaken
  | ok holes =>
    simp only [Run.andThen, Run.result_after, Run.map, ended, Except.map]
    exact rings.append_branch passed _ rfl

/-- A ring that is a hole is one node, and a member has at most two for each of its leaves. -/
theorem preservesMembers_tally (s : Source α) :
    s.PreservesMembers (fun _ => True) (fun _ => True)
      (fun i run => Tally 1 i run.cursor run.events)
      fun i run => Tally 2 i run.cursor run.events where
  toPreserves := preserves_tally
  hole_fail _ _ := .nil
  hole_none _ _ := ⟨trivial, .nil⟩
  hole_read _ _ := ⟨trivial, fun rest => (Tally.single rfl).append rest⟩
  shell_fail _ _ _ := .nil
  polygon_read _ _ _ := ⟨trivial, tally_finishPolygon⟩
  lone_fail _ _ _ _ := .nil
  lone_read _ _ _ read := by
    obtain ⟨leaf, known⟩ := leaf_of_loneMemberAt read
    exact ⟨trivial, (Tally.single known).weaken⟩

/-- A polygon is one node more than its rings, and it has a ring at least. -/
theorem tally_polygonAt (s : Source α) (i : Nat) :
    Tally 2 i (s.polygonAt i).cursor (s.polygonAt i).events := by
  rw [polygonAt_eq]
  cases shell : s.shellAt i with
  | error failure => exact .nil
  | ok outer =>
    have holes := (preservesMembers_tally s).to_holesFrom (i := i + 1) trivial
    exact tally_finishPolygon (le_cursor_holesFrom s (i + 1)) holes

/-! Buildings. -/

omit [Ordinate α] in
theorem built_single {kind : Kind} {run : Run α (Shape α)} :
    (s.single kind run).built = run.built := by
  unfold single
  cases ended : run.result with
  | error failure =>
    rw [Run.andThen_of_error _ ended]
    rfl
  | ok shape =>
    rw [Run.andThen_of_ok _ ended, Run.built_after, Run.built_eq, Event.nodes_noted,
      List.append_nil]
    rfl

omit [Ordinate α] in
theorem built_several {kind : Kind} {notes : Nat → List Note} {parts : Run α (Geometry α)}
    {g : Geometry α} (ok : (s.several kind i notes parts).result = .ok g) :
    (s.several kind i notes parts).built = parts.built ++ [.geometry g] := by
  obtain ⟨_, _, _, happened⟩ := several_ok ok
  rw [Run.built_eq, happened, Event.nodes_append, Event.nodes_append, Event.nodes_noted]
  rfl

/-- There is one leaf for each element that was passed, and at most one node more than two for
each. -/
structure Totals (i : Nat) (run : Run α (Geometry α)) : Prop where
  cursor_eq : run.cursor = i + (Event.leaves run.events).length
  length_le : run.built.length ≤ 2 * (Event.leaves run.events).length + 1

omit [Ordinate α] in
theorem totals_of_tally {run : Run α (Geometry α)} (h : Tally 2 i run.cursor run.events) :
    Totals i run :=
  ⟨h.stop_eq, Nat.le_succ_of_le h.length_le⟩

omit [Ordinate α] in
theorem totals_single {kind : Kind} {run : Run α (Shape α)} (h : Tally 2 i run.cursor run.events) :
    Totals i (s.single kind run) := by
  apply totals_of_tally
  unfold single
  cases ended : run.result with
  | error failure =>
    rw [Run.andThen_of_error _ ended]
    exact h
  | ok shape =>
    rw [Run.andThen_of_ok _ ended]
    exact h.append_notes _

omit [Ordinate α] in
/-- The geometry that is put together last has parts, so it is no leaf. -/
theorem totals_several {kind : Kind} {notes : Nat → List Note} {parts : Run α (Geometry α)}
    (h : Tally 2 i parts.cursor parts.events)
    (branch : ∀ g, parts.result = .ok g → (Node.geometry g).leaf? = none) :
    Totals i (s.several kind i notes parts) := by
  unfold several
  split
  · exact ⟨rfl, Nat.zero_le _⟩
  · unfold Run.conclude
    cases ended : parts.result with
    | error failure =>
      rw [Run.andThen_of_error _ ended]
      exact totals_of_tally h
    | ok g =>
      rw [Run.andThen_of_ok _ ended]
      have told := h.append_notes (notes parts.cursor)
      have few := told.length_le
      have root : Event.leaves [.built (.geometry g)] = [] := by
        simp [Event.leaves, Event.nodes, Event.node?, branch g ended]
      constructor
      · rw [Run.events_after, ← List.append_assoc, Event.leaves_append, root, List.append_nil]
        exact told.stop_eq
      · rw [Run.built_eq, Run.events_after, ← List.append_assoc, Event.nodes_append,
          Event.leaves_append, root, List.append_nil, List.length_append]
        exact Nat.add_le_add_right few 1

/-- Over a building the geometry itself is the one node more. -/
theorem totals_build (s : Source α) (d : TypeCode.Descriptor) (i : Nat) :
    Totals i (s.build d i) := by
  unfold build
  cases d.topology with
  | point => exact totals_single (tally_shapeAt fun _ => leaf_of_pointAt).weaken
  | line =>
    refine totals_single (Tally.weaken (tally_shapeAt fun shape read => ?_))
    obtain ⟨line, _, rfl⟩ := map_eq_ok.mp read
    exact ⟨_, rfl⟩
  | polygon => exact totals_single (tally_polygonAt s i)
  | multiPoint => exact totals_single (tally_shapeAt fun _ => leaf_of_multiPointAt).weaken
  | multiLine =>
    refine totals_several ((preservesLines_tally s).to_linesFrom trivial) fun g ended => ?_
    obtain ⟨lines, _, rfl⟩ := Run.result_map_eq_ok.mp ended
    rfl
  | multiPolygon =>
    refine totals_several ((preservesMembers_tally s).to_polygonsFrom trivial) fun g ended => ?_
    obtain ⟨polygons, _, rfl⟩ := Run.result_map_eq_ok.mp ended
    rfl
  | collection =>
    refine totals_several ((preservesMembers_tally s).to_membersFrom trivial) fun g ended => ?_
    obtain ⟨members, _, rfl⟩ := Run.result_map_eq_ok.mp ended
    rfl
  | unknown | solid | multiSolid => exact ⟨rfl, Nat.zero_le _⟩

end Source

end TripletGeometry
