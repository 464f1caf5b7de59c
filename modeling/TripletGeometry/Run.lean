import TripletGeometry.Geometry
import TripletGeometry.Note

/-!
Runs of a reader over the elements of an encoding. A run keeps where it stopped and what happened
on the way also if it failed: the nodes that were put together and the notes, in order.
-/
namespace TripletGeometry

inductive Event (α : Type) where
  | built (node : Node α)
  | noted (note : Note)

structure Run (α β : Type) where
  /-- The index of the next unread element. -/
  cursor : Nat
  events : List (Event α)
  result : Except Failure β

namespace Run

variable {α β γ : Type}

def done (cursor : Nat) (value : β) : Run α β := ⟨cursor, [], .ok value⟩

def fail (cursor : Nat) (failure : Failure) : Run α β := ⟨cursor, [], .error failure⟩

def after (events : List (Event α)) (run : Run α β) : Run α β :=
  { run with events := events ++ run.events }

def andThen (run : Run α β) (next : Nat → β → Run α γ) : Run α γ :=
  match run.result with
  | .error failure => ⟨run.cursor, run.events, .error failure⟩
  | .ok value => (next run.cursor value).after run.events

def map (f : β → γ) (run : Run α β) : Run α γ := { run with result := run.result.map f }

def conclude (notes : Nat → List Note) (node : β → Node α) (run : Run α β) : Run α β :=
  run.andThen fun cursor value =>
    ⟨cursor, (notes cursor).map .noted ++ [.built (node value)], .ok value⟩

def built (run : Run α β) : List (Node α) :=
  run.events.filterMap fun
    | .built node => some node
    | .noted _ => none

def notes (run : Run α β) : List Note :=
  run.events.filterMap fun
    | .built _ => none
    | .noted note => some note

/-- The events before the first that is refused, and why it is. -/
def firstRefusal? (refuses? : Event α → Option Failure) :
    List (Event α) → Option (List (Event α) × Failure)
  | [] => none
  | event :: rest => match refuses? event with
    | some failure => some ([], failure)
    | none =>
      (firstRefusal? refuses? rest).map fun (before, failure) => (event :: before, failure)

def upTo (refuses? : Event α → Option Failure) (run : Run α β) : Run α β :=
  match firstRefusal? refuses? run.events with
  | some (before, failure) => ⟨run.cursor, before, .error failure⟩
  | none => run

@[simp]
theorem cursor_after (events : List (Event α)) (run : Run α β) :
    (run.after events).cursor = run.cursor := rfl

@[simp]
theorem result_after (events : List (Event α)) (run : Run α β) :
    (run.after events).result = run.result := rfl

@[simp]
theorem events_after (events : List (Event α)) (run : Run α β) :
    (run.after events).events = events ++ run.events := rfl

@[simp]
theorem cursor_map (f : β → γ) (run : Run α β) : (run.map f).cursor = run.cursor := rfl

theorem result_map_eq_ok {f : β → γ} {run : Run α β} {value : γ} :
    (run.map f).result = .ok value ↔ ∃ source, run.result = .ok source ∧ f source = value := by
  unfold map
  cases run.result <;> simp [Except.map]

theorem mem_built {run : Run α β} {node : Node α} :
    node ∈ run.built ↔ .built node ∈ run.events := by
  simp only [built, List.mem_filterMap]
  constructor
  · intro found
    obtain ⟨event, member, same⟩ := found
    cases event with
    | built node =>
      cases same
      exact member
    | noted note => cases same
  · intro member
    exact ⟨_, member, rfl⟩

section Refusals

variable {refuses? : Event α → Option Failure} {run : Run α β} {events : List (Event α)}

/-- Nothing is refused just if no event is. -/
theorem firstRefusal?_eq_none_iff :
    firstRefusal? refuses? events = none ↔ ∀ event ∈ events, refuses? event = none := by
  induction events with
  | nil => simp [firstRefusal?]
  | cons event rest ih =>
    rw [firstRefusal?, List.forall_mem_cons, ← ih]
    split
    · rename_i refused
      simp [refused]
    · rename_i plain
      simp [plain]

theorem map_firstRefusal? (events : List (Event α)) :
    (firstRefusal? refuses? events).map Prod.snd = events.findSome? refuses? := by
  induction events with
  | nil => rfl
  | cons event rest ih =>
    rw [firstRefusal?, List.findSome?_cons]
    cases refuses? event with
    | some failure => rfl
    | none =>
      rw [Option.map_map]
      exact ih

/-- The first refusal decides. Without one the result stands. -/
theorem result_upTo (refuses? : Event α → Option Failure) (run : Run α β) :
    (run.upTo refuses?).result = (run.events.findSome? refuses?).elim run.result .error := by
  rw [upTo, ← map_firstRefusal?]
  cases firstRefusal? refuses? run.events <;> rfl

theorem upTo_of_plain (plain : ∀ event ∈ run.events, refuses? event = none) :
    run.upTo refuses? = run := by
  rw [upTo, firstRefusal?_eq_none_iff.mpr plain]

theorem cursor_upTo (refuses? : Event α → Option Failure) (run : Run α β) :
    (run.upTo refuses?).cursor = run.cursor := by
  unfold upTo
  split <;> rfl

theorem upTo_congr (refuses? : Event α → Option Failure) {other : Run α β}
    (events : run.events = other.events) (result : run.result = other.result) :
    (run.upTo refuses?).events = (other.upTo refuses?).events ∧
      (run.upTo refuses?).result = (other.upTo refuses?).result := by
  unfold upTo
  rw [events]
  split
  · exact ⟨rfl, rfl⟩
  · exact ⟨events, result⟩

theorem upTo_map (f : β → γ) (refuses? : Event α → Option Failure) (run : Run α β) :
    (run.map f).upTo refuses? = (run.upTo refuses?).map f := by
  have same : (run.map f).events = run.events := rfl
  unfold upTo
  rw [same]
  cases firstRefusal? refuses? run.events <;> rfl

theorem upTo_after {event : Event α} (plain : refuses? event = none) :
    (run.after [event]).upTo refuses? = (run.upTo refuses?).after [event] := by
  simp only [upTo, events_after, List.singleton_append, firstRefusal?, plain]
  cases firstRefusal? refuses? run.events <;> rfl

theorem upTo_after_of_refused {event : Event α} {failure : Failure}
    (refused : refuses? event = some failure) :
    (run.after [event]).upTo refuses? = ⟨run.cursor, [], .error failure⟩ := by
  simp only [upTo, events_after, List.singleton_append, firstRefusal?, refused]
  rfl

/-- What comes before the first refusal is the start of the events. -/
theorem start_of_firstRefusal? {before : List (Event α)} {failure : Failure}
    (found : firstRefusal? refuses? events = some (before, failure)) : before <+: events := by
  induction events generalizing before with
  | nil => cases found
  | cons event rest ih =>
    rw [firstRefusal?] at found
    split at found
    · cases found
      exact List.nil_prefix
    · obtain ⟨⟨early, other⟩, later, same⟩ := Option.map_eq_some_iff.mp found
      cases same
      exact List.cons_prefix_cons.mpr ⟨rfl, ih later⟩

/-- What happens up to a refusal happens anyway. -/
theorem mem_events_of_upTo {event : Event α} (member : event ∈ (run.upTo refuses?).events) :
    event ∈ run.events := by
  unfold upTo at member
  split at member
  · rename_i found
    exact (start_of_firstRefusal? found).subset member
  · exact member

/-- A run goes on to its end, or ends with the failure of one of its events. -/
theorem upTo_cases (refuses? : Event α → Option Failure) (run : Run α β) :
    run.upTo refuses? = run ∨ ∃ event ∈ run.events, ∃ failure, refuses? event = some failure ∧
      (run.upTo refuses?).result = .error failure := by
  cases found : run.events.findSome? refuses? with
  | none => exact .inl (upTo_of_plain (List.findSome?_eq_none_iff.mp found))
  | some failure =>
    obtain ⟨event, member, refused⟩ := List.exists_of_findSome?_eq_some found
    exact .inr ⟨event, member, failure, refused, by rw [result_upTo, found]; rfl⟩

end Refusals

/-- After a failure nothing more happens. -/
theorem andThen_of_error {run : Run α β} {failure : Failure} (next : Nat → β → Run α γ)
    (h : run.result = .error failure) :
    run.andThen next = ⟨run.cursor, run.events, .error failure⟩ := by
  simp [andThen, h]

/-- The second run starts where the first has ended. -/
theorem andThen_of_ok {run : Run α β} {value : β} (next : Nat → β → Run α γ)
    (h : run.result = .ok value) :
    run.andThen next = (next run.cursor value).after run.events := by
  simp [andThen, h]

end Run

end TripletGeometry
