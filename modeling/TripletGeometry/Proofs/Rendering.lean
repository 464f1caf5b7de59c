import TripletGeometry.Proofs.Reading

/-!
What a form makes of a run. It sees the nodes that were put together and the result, but neither
the notes nor the cursor; so readings that put the same together end alike in every form.
-/
namespace TripletGeometry

variable {α : Type}

namespace Event

def node? : Event α → Option (Node α)
  | .built node => some node
  | .noted _ => none

def nodes (events : List (Event α)) : List (Node α) := events.filterMap node?

theorem nodes_append (xs ys : List (Event α)) : nodes (xs ++ ys) = nodes xs ++ nodes ys :=
  List.filterMap_append

theorem nodes_noted (notes : List Note) : nodes (notes.map (Event.noted (α := α))) = [] := by
  simp [nodes, node?]

end Event

namespace Run

variable {β γ : Type}

theorem built_eq (run : Run α β) : run.built = Event.nodes run.events := rfl

theorem built_after (events : List (Event α)) (run : Run α β) :
    (run.after events).built = Event.nodes events ++ run.built := by
  rw [built_eq, built_eq, events_after, Event.nodes_append]

@[simp]
theorem built_map (f : β → γ) (run : Run α β) : (run.map f).built = run.built := rfl

end Run

variable [Ordinate α]

theorem Planar.findSome?_eventRefusal? (events : List (Event α)) :
    events.findSome? eventRefusal? = (Event.nodes events).findSome? refusal? := by
  induction events with
  | nil => rfl
  | cons event rest ih =>
    cases event with
    | built node =>
      have nodes : Event.nodes (.built node :: rest) = node :: Event.nodes rest := rfl
      rw [nodes, List.findSome?_cons, List.findSome?_cons, ih]
      rfl
    | noted note =>
      rw [List.findSome?_cons, ih]
      rfl

namespace Form

/-- What the form makes of a result, where these nodes were put together on the way. -/
def complete (form : Form) (nodes : List (Node α)) (result : Except Failure (Geometry α)) :
    Except Failure (Geometry α) :=
  match form with
  | .tree => result
  | .planar =>
    match nodes.findSome? Planar.refusal? with
    | some failure => .error failure
    | none => result.map (Geometry.mapRings Planar.closeRing)

/-- How a run ends in a form depends on what it has put together and on its result. -/
theorem result_render (form : Form) (run : Run α (Geometry α)) :
    (form.render run).result = form.complete run.built run.result := by
  cases form with
  | tree => rfl
  | planar =>
    rw [render, complete, Planar.ofRun, Run.built_eq, ← Planar.findSome?_eventRefusal?]
    change ((run.upTo Planar.eventRefusal?).result.map _) = _
    rw [Run.result_upTo]
    cases run.events.findSome? Planar.eventRefusal? <;> rfl

/-- A form adds nothing to what happens in a run. -/
theorem mem_events_of_render (form : Form) {run : Run α (Geometry α)} {event : Event α}
    (member : event ∈ (form.render run).events) : event ∈ run.events := by
  cases form with
  | tree => exact member
  | planar => exact Run.mem_events_of_upTo member

theorem render_noted (form : Form) (note : Note) (run : Run α (Geometry α)) :
    form.render (run.after [.noted note]) = (form.render run).after [.noted note] := by
  cases form with
  | tree => rfl
  | planar =>
    have plain : Planar.eventRefusal? (.noted note : Event α) = none := rfl
    simp only [render, Planar.ofRun, Run.upTo_after plain]
    rfl

/-- The cursor has no part in what the form makes of a run. -/
theorem render_congr (form : Form) {run other : Run α (Geometry α)}
    (events : run.events = other.events) (result : run.result = other.result) :
    (form.render run).events = (form.render other).events ∧
      (form.render run).result = (form.render other).result := by
  cases form with
  | tree => exact ⟨events, result⟩
  | planar =>
    obtain ⟨events, result⟩ := Run.upTo_congr Planar.eventRefusal? events result
    exact ⟨events, congrArg (Except.map (Geometry.mapRings Planar.closeRing)) result⟩

def Admits (form : Form) (nodes : List (Node α)) : Prop :=
  form = .planar → ∀ node ∈ nodes, Planar.refusal? node = none

theorem complete_eq_ok {form : Form} {nodes : List (Node α)} {result : Except Failure (Geometry α)}
    {g : Geometry α} : form.complete nodes result = .ok g ↔
      form.Admits nodes ∧ ∃ tree, result = .ok tree ∧ form.present tree = g := by
  cases form with
  | tree => simp [complete, Admits, present]
  | planar =>
    simp only [complete, Admits, present, forall_const]
    rw [← List.findSome?_eq_none_iff]
    cases nodes.findSome? Planar.refusal? with
    | some failure => simp
    | none => simp [map_eq_ok]

end Form

namespace Reader

variable {r : Reader} {form : Form} {e : Encoding α}

theorem result_read : (r.read form (some e)).result =
    ((form.complete (r.run e).built (r.run e).result).bind (form.place e.srid)).map some := by
  simp only [read, Report.present, readEncoding, report, Form.result_render]

/-- A reading succeeds in a form just if the form can hold all nodes and place the geometry. -/
theorem read_eq_ok {placed : Placed (Geometry α)} :
    (r.read form (some e)).result = .ok (some placed) ↔ form.Admits (r.run e).built ∧
      ∃ tree, (r.run e).result = .ok tree ∧ form.place e.srid (form.present tree) = .ok placed := by
  rw [result_read, map_eq_ok]
  constructor
  · intro given
    obtain ⟨_, given, same⟩ := given
    cases same
    obtain ⟨g, completed, placing⟩ := bind_eq_ok.mp given
    obtain ⟨admitted, tree, read, rfl⟩ := Form.complete_eq_ok.mp completed
    exact ⟨admitted, tree, read, placing⟩
  · intro given
    obtain ⟨admitted, tree, read, placing⟩ := given
    have completed := Form.complete_eq_ok.mpr ⟨admitted, tree, read, rfl⟩
    exact ⟨placed, bind_eq_ok.mpr ⟨_, completed, placing⟩, rfl⟩

end Reader

end TripletGeometry
