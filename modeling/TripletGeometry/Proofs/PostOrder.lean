import TripletGeometry.Ordinate.Exact
import TripletGeometry.Proofs.Tally

/-!
The order in which a building puts nodes together. It is the post-order of the geometry that is
given: children from left to right, and each node after its children. So no node is put together in
vain: each waits for the one node that takes it, and in the end only the geometry itself is left.
-/
namespace TripletGeometry

variable {α β : Type}

/-! Trees of nodes. -/

namespace Node

def children : Node α → List (Node α)
  | .ring _ => []
  | .geometry (.shape (.polygon p)) => p.rings.map .ring
  | .geometry (.shape _) => []
  | .geometry g => g.parts.map fun shape => .geometry (.shape shape)

end Node

/-- The second list has the nodes of the trees with these roots, from left to right and each after
its children. -/
inductive PostOrder : List (Node α) → List (Node α) → Prop
  | nil : PostOrder [] []
  | cons {root : Node α} {roots below beside : List (Node α)}
      (children : PostOrder root.children below) (others : PostOrder roots beside) :
      PostOrder (root :: roots) (below ++ root :: beside)

/-- Nodes are put together one after the other. Each takes its children, which have to be those that
came last of the ones that wait, and then waits itself. -/
inductive Gathers : List (Node α) → List (Node α) → List (Node α) → Prop
  | done {waiting : List (Node α)} : Gathers waiting [] waiting
  | take {waiting later left : List (Node α)} {node : Node α}
      (rest : Gathers (waiting ++ [node]) later left) :
      Gathers (waiting ++ node.children) (node :: later) left

namespace PostOrder

variable {root : Node α} {roots others nodes xs ys : List (Node α)}

theorem append (left : PostOrder roots xs) (right : PostOrder others ys) :
    PostOrder (roots ++ others) (xs ++ ys) := by
  induction left with
  | nil => exact right
  | cons children _ _ ih =>
    rw [List.append_assoc]
    exact .cons children ih

/-- A tree has one post-order only. -/
theorem unique (first : PostOrder roots xs) (second : PostOrder roots ys) : xs = ys := by
  induction first generalizing ys with
  | nil =>
    cases second
    rfl
  | cons _ _ below beside =>
    cases second with
    | cons children others => rw [below children, beside others]

theorem node (children : PostOrder root.children xs) : PostOrder [root] (xs ++ [root]) :=
  .cons children .nil

theorem childless (alone : root.children = []) : PostOrder [root] [root] := by
  have bare : PostOrder root.children [] := by
    rw [alone]
    exact .nil
  exact .node bare

/-- Trees one beside the other. -/
theorem flatMap {each : β → Node α} {below : β → List (Node α)}
    (h : ∀ part, PostOrder [each part] (below part)) (parts : List β) :
    PostOrder (parts.map each) (parts.flatMap below) := by
  induction parts with
  | nil => exact .nil
  | cons part rest ih => exact (h part).append ih

/-- Every node is there when it is asked for, and none is left but the roots. -/
theorem gathers (h : PostOrder roots nodes) {waiting later left : List (Node α)}
    (rest : Gathers (waiting ++ roots) later left) : Gathers waiting (nodes ++ later) left := by
  induction h generalizing waiting later with
  | nil => rwa [List.append_nil] at rest
  | cons _ _ children others =>
    rw [List.append_assoc]
    apply children
    apply Gathers.take
    apply others
    rwa [List.append_assoc]

end PostOrder

/-! Geometries. -/

theorem postOrder_shape (shape : Shape α) : PostOrder [.geometry (.shape shape)] shape.nodes := by
  cases shape with
  | point c => exact .childless rfl
  | lineString c => exact .childless rfl
  | multiPoint c => exact .childless rfl
  | polygon p =>
    have ring : ∀ c : Coordinates α, PostOrder [.ring c] [.ring c] := fun _ => .childless rfl
    have rings := PostOrder.flatMap ring p.rings
    rw [← List.map_eq_flatMap] at rings
    exact .node rings

/-- A geometry comes after its parts, and a part after its rings. -/
theorem postOrder_nodes (g : Geometry α) : PostOrder [.geometry g] g.nodes := by
  have parts := PostOrder.flatMap (postOrder_shape (α := α))
  cases g with
  | shape shape => exact postOrder_shape shape
  | multiLineString lines | multiPolygon polygons | collection members => exact .node (parts _)

theorem leaves_shape_nodes (shape : Shape α) :
    shape.nodes.filterMap Node.leaf? = shape.leaves := by
  cases shape with
  | point c => rfl
  | lineString c => rfl
  | multiPoint c => rfl
  | polygon p =>
    have rings : (p.rings.map Node.ring).filterMap Node.leaf? =
        p.rings.map (Leaf.mk .linearRing) := by
      rw [List.filterMap_map]
      exact List.filterMap_eq_map_iff_forall_eq_some.mpr fun _ _ => rfl
    rw [Shape.nodes, List.filterMap_append, rings]
    exact List.append_nil _

/-- The leaves of a geometry are those of its nodes that have coordinates of their own. -/
theorem leaves_geometry_nodes (g : Geometry α) : g.nodes.filterMap Node.leaf? = g.leaves := by
  have branch : ∀ parts : List (Shape α), ∀ root : Node α, root.leaf? = none →
      (parts.flatMap Shape.nodes ++ [root]).filterMap Node.leaf? = parts.flatMap Shape.leaves := by
    intro parts root none
    simp only [List.filterMap_append, List.filterMap_flatMap, leaves_shape_nodes,
      List.filterMap_cons, none, List.filterMap_nil, List.append_nil]
  cases g with
  | shape shape =>
    rw [Geometry.leaves, Geometry.parts, List.flatMap_singleton]
    exact leaves_shape_nodes shape
  | multiLineString lines | multiPolygon polygons | collection members => exact branch _ _ rfl

/-- The root comes last. -/
theorem getLast?_nodes (g : Geometry α) : g.nodes.getLast? = some (.geometry g) := by
  cases g with
  | shape shape =>
    cases shape with
    | polygon p => exact List.getLast?_concat
    | point c | lineString c | multiPoint c => rfl
  | multiLineString lines | multiPolygon polygons | collection members =>
    exact List.getLast?_concat

/-! Scans. -/

/-- If every step of a scan puts together the nodes of its part, then the scan those of all its
parts. -/
theorem nodes_of_scan {stops : Nat → Prop} {reads : Nat → β → List (Event α) → Nat → Prop}
    {nodes : β → List (Node α)}
    (each : ∀ i part events j, reads i part events j → Event.nodes events = nodes part)
    {i k : Nat} {parts : List β} {events : List (Event α)}
    (scan : Scan stops reads i parts events k) : Event.nodes events = parts.flatMap nodes := by
  induction scan with
  | stop ends => rfl
  | step first rest ih => rw [Event.nodes_append, List.flatMap_cons, each _ _ _ _ first, ih]

namespace Source

variable [Ordinate α] {s : Source α} {i : Nat}

/-- The ring at which the scan for holes ends has been read, but it was not put together. -/
theorem nodes_holesFrom {holes : List (Coordinates α)} (ok : (s.holesFrom i).result = .ok holes) :
    Event.nodes (s.holesFrom i).events = holes.map .ring := by
  rw [List.map_eq_flatMap]
  refine nodes_of_scan ?_ (scan_holesFrom ok)
  intro i ring events j step
  obtain ⟨_, rfl, _⟩ := step
  rfl

/-- A polygon is put together after its shell and its holes, in this order. -/
theorem nodes_polygonAt {polygon : Polygon α} (ok : (s.polygonAt i).result = .ok polygon) :
    Event.nodes (s.polygonAt i).events = (Shape.polygon polygon).nodes := by
  obtain ⟨_, holes, _, happened⟩ := polygonAt_ok ok
  rw [happened, Event.nodes_append, ← List.singleton_append, Event.nodes_append,
    nodes_holesFrom holes]
  rfl

section Lone

omit [Ordinate α]

variable {shape : Shape α}

theorem nodes_pointAt (ok : s.pointAt i = .ok shape) :
    shape.nodes = [.geometry (.shape shape)] := by
  obtain ⟨_, rfl⟩ := (s.judges_pointAt i).eq_ok_iff.mp ok
  rfl

theorem nodes_multiPointAt (ok : s.multiPointAt i = .ok shape) :
    shape.nodes = [.geometry (.shape shape)] := by
  obtain ⟨_, rfl⟩ := (s.judges_multiPointAt i).eq_ok_iff.mp ok
  rfl

theorem nodes_loneMemberAt (ok : s.loneMemberAt i = .ok shape) :
    shape.nodes = [.geometry (.shape shape)] := by
  rcases loneMemberAt_ok ok with point | cluster | ⟨line, _, rfl⟩
  · exact nodes_pointAt point
  · exact nodes_multiPointAt cluster
  · rfl

theorem nodes_shapeAt {read : Nat → Except Failure (Shape α)}
    (lone : ∀ shape, read i = .ok shape → shape.nodes = [.geometry (.shape shape)])
    (ok : (shapeAt read i).result = .ok shape) :
    Event.nodes (shapeAt read i).events = shape.nodes := by
  obtain ⟨found, ran⟩ := shapeAt_ok ok
  rw [ran, lone shape found]
  rfl

end Lone

theorem nodes_memberAt {shape : Shape α} (ok : (s.memberAt i).result = .ok shape) :
    Event.nodes (s.memberAt i).events = shape.nodes := by
  obtain ⟨polygon, read, rfl, _, happened⟩ | ⟨read, _, happened⟩ := memberAt_ok ok
  · rw [happened]
    exact nodes_polygonAt read
  · rw [happened, nodes_loneMemberAt read]
    rfl

omit [Ordinate α] in
theorem nodes_linesFrom {lines : List (Coordinates α)} (ok : (s.linesFrom i).result = .ok lines) :
    Event.nodes (s.linesFrom i).events = (lines.map Shape.lineString).flatMap Shape.nodes := by
  rw [List.flatMap_map]
  refine nodes_of_scan ?_ (scan_linesFrom ok)
  intro i line events j step
  obtain ⟨_, rfl, _⟩ := step
  rfl

theorem nodes_polygonsFrom {polygons : List (Polygon α)}
    (ok : (s.polygonsFrom i).result = .ok polygons) :
    Event.nodes (s.polygonsFrom i).events = (polygons.map Shape.polygon).flatMap Shape.nodes := by
  rw [List.flatMap_map]
  refine nodes_of_scan ?_ (scan_polygonsFrom ok)
  intro i polygon events j step
  obtain ⟨_, read⟩ := step
  have nodes : Event.nodes (s.polygonAt i).events = (Shape.polygon polygon).nodes :=
    nodes_polygonAt (by rw [read])
  rwa [read] at nodes

/-- The nodes of the members come one after the other. -/
theorem nodes_membersFrom {members : List (Shape α)}
    (ok : (s.membersFrom i).result = .ok members) :
    Event.nodes (s.membersFrom i).events = members.flatMap Shape.nodes := by
  refine nodes_of_scan ?_ (scan_membersFrom ok)
  intro i member events j step
  obtain ⟨_, read⟩ := step
  have nodes : Event.nodes (s.memberAt i).events = member.nodes := nodes_memberAt (by rw [read])
  rwa [read] at nodes

/-! Buildings. -/

omit [Ordinate α] in
theorem built_of_single {kind : Kind} {run : Run α (Shape α)} {g : Geometry α}
    (nodes : ∀ shape, run.result = .ok shape → Event.nodes run.events = shape.nodes)
    (ok : (s.single kind run).result = .ok g) : (s.single kind run).built = g.nodes := by
  obtain ⟨shape, read, rfl, _⟩ := single_ok ok
  rw [built_single, Run.built_eq]
  exact nodes shape read

omit [Ordinate α] in
/-- The geometry itself comes after all of its parts. -/
theorem built_of_several {kind : Kind} {notes : Nat → List Note} {parts : Run α (Geometry α)}
    {g : Geometry α}
    (nodes : ∀ g, parts.result = .ok g → Event.nodes parts.events ++ [.geometry g] = g.nodes)
    (ok : (s.several kind i notes parts).result = .ok g) :
    (s.several kind i notes parts).built = g.nodes := by
  obtain ⟨_, read, _⟩ := several_ok ok
  rw [built_several ok, Run.built_eq]
  exact nodes g read

/-- Everything that a building puts together is in its geometry. -/
theorem built_build {d : TypeCode.Descriptor} {g : Geometry α}
    (ok : (s.build d i).result = .ok g) : (s.build d i).built = g.nodes := by
  unfold build at ok ⊢
  cases topology : d.topology with
  | point =>
    simp only [topology] at ok ⊢
    exact built_of_single (fun _ => nodes_shapeAt fun _ => nodes_pointAt) ok
  | line =>
    simp only [topology] at ok ⊢
    refine built_of_single (fun _ => nodes_shapeAt fun shape read => ?_) ok
    obtain ⟨line, _, rfl⟩ := map_eq_ok.mp read
    rfl
  | polygon =>
    simp only [topology] at ok ⊢
    refine built_of_single (fun shape read => ?_) ok
    obtain ⟨polygon, found, rfl⟩ := Run.result_map_eq_ok.mp read
    exact nodes_polygonAt found
  | multiPoint =>
    simp only [topology] at ok ⊢
    exact built_of_single (fun _ => nodes_shapeAt fun _ => nodes_multiPointAt) ok
  | multiLine =>
    simp only [topology] at ok ⊢
    refine built_of_several (fun g read => ?_) ok
    obtain ⟨lines, found, rfl⟩ := Run.result_map_eq_ok.mp read
    exact congrArg (· ++ _) (nodes_linesFrom found)
  | multiPolygon =>
    simp only [topology] at ok ⊢
    refine built_of_several (fun g read => ?_) ok
    obtain ⟨polygons, found, rfl⟩ := Run.result_map_eq_ok.mp read
    exact congrArg (· ++ _) (nodes_polygonsFrom found)
  | collection =>
    simp only [topology] at ok ⊢
    refine built_of_several (fun g read => ?_) ok
    obtain ⟨members, found, rfl⟩ := Run.result_map_eq_ok.mp read
    exact congrArg (· ++ _) (nodes_membersFrom found)
  | unknown | solid | multiSolid =>
    simp only [topology] at ok
    cases ok

omit [Ordinate α] in
/-- The geometry has been put together in post-order: each node is taken once, the geometry itself
is the last one and is left, and the nodes with coordinates of their own are the leaves of the
geometry, one for each element from the index up to the cursor. -/
structure PutTogether (i : Nat) (run : Run α (Geometry α)) (g : Geometry α) : Prop where
  order : ∀ nodes, PostOrder [.geometry g] nodes ↔ nodes = run.built
  taken : Gathers [] run.built [.geometry g]
  last : run.built.getLast? = some (.geometry g)
  leaves : run.built.filterMap Node.leaf? = g.leaves
  elements : run.cursor = i + g.leaves.length

/-- What a building that succeeds has put together on the way is the geometry that it gives and
nothing else: no ring that was only looked at to see whether it is a hole, and no node twice. -/
theorem build_in_postOrder {d : TypeCode.Descriptor} {g : Geometry α}
    (ok : (s.build d i).result = .ok g) : PutTogether i (s.build d i) g := by
  have built := built_build ok
  have order : PostOrder [.geometry g] (s.build d i).built := built ▸ postOrder_nodes g
  have leaves : (s.build d i).built.filterMap Node.leaf? = g.leaves := by
    rw [built]
    exact leaves_geometry_nodes g
  have only : ∀ nodes, PostOrder [.geometry g] nodes ↔ nodes = (s.build d i).built := fun nodes =>
    ⟨fun other => other.unique order, fun same => same ▸ order⟩
  refine ⟨only, ?_, ?_, leaves, ?_⟩
  · have gathers : Gathers [] ((s.build d i).built ++ []) [.geometry g] := order.gathers .done
    rwa [List.append_nil] at gathers
  · rw [built]
    exact getLast?_nodes g
  · rw [← leaves]
    exact (totals_build s d i).cursor_eq

/-- A point, a ring with a hole in it, and a ring that winds the other way and is no hole. None of
the rings says what it is. -/
def unmarkedRings : Source Exact where
  directory := ⟨[⟨1, 1, 1⟩, ⟨3, 3, 1⟩, ⟨11, 3, 1⟩, ⟨19, 3, 1⟩], 26, 2,
    ⟨by decide, by decide, by decide⟩⟩
  coordinates := .ofRows 2 ([[5, 5], [0, 0], [9, 0], [0, 9], [0, 0], [1, 1], [1, 2], [2, 1], [1, 1],
    [20, 0], [29, 0], [20, 9], [20, 0]].map (List.map fun x => ⟨some x⟩))
  cap := 3

/-- The last ring is read twice and put together once, as a shell, behind the polygon before it. -/
theorem build_in_postOrder_unmarkedRings :
    ∃ g, (unmarkedRings.build ⟨2007, 2, 0, .multiPolygon⟩ 1).result = .ok g ∧
      PutTogether 1 (unmarkedRings.build ⟨2007, 2, 0, .multiPolygon⟩ 1) g ∧
      (unmarkedRings.build ⟨2007, 2, 0, .multiPolygon⟩ 1).built.map Node.kind =
        [.linearRing, .linearRing, .polygon, .linearRing, .polygon, .multiPolygon] ∧
      (unmarkedRings.build ⟨2003, 2, 0, .polygon⟩ 1).built.map Node.kind =
        [.linearRing, .linearRing, .polygon] := by
  have reads : (unmarkedRings.build ⟨2007, 2, 0, .multiPolygon⟩ 1).result.isOk = true := by
    decide +kernel
  obtain ⟨g, ok⟩ := exists_of_isOk reads
  exact ⟨g, ok, build_in_postOrder ok, by decide +kernel, by decide +kernel⟩

end Source

end TripletGeometry
