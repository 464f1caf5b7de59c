import TripletGeometry.Proofs.Decisions
import TripletGeometry.Proofs.Rendering

/-!
Readings on a machine with limits. The reading is as it is without limits, or it ends with a failure
that comes from a limit: an integer is too long to be written, or there is no grid of the extents
that are asked for. What has happened before that is the beginning of what happens without limits.
-/
namespace TripletGeometry

variable {α β γ : Type}

namespace Machine

inductive Limits (m : Machine) : Failure → Prop
  | digits {most : Nat} (limit : m.digits = some most) : Limits m (.tooManyDigits most)
  | memory {most : Nat} {count width : Int} {failure : Failure} (limit : m.memory = some most)
      (refused : Extent.check (some most) count width = .error failure) : Limits m failure

/-- The result is a failure that comes from a limit of the machine. -/
def Stops (m : Machine) (result : Except Failure β) : Prop :=
  ∃ failure, result = .error failure ∧ m.Limits failure

variable {m : Machine} {result : Except Failure β} {failure : Failure}

theorem not_limits_ideal : ¬ ideal.Limits failure := by
  intro limits
  cases limits with
  | digits limit => cases limit
  | memory limit _ => cases limit

theorem not_stops_ideal : ¬ ideal.Stops result := by
  rintro ⟨_, _, limits⟩
  exact not_limits_ideal limits

/-- No limit makes a fault of the encoding. -/
theorem Limits.ne_fault (h : m.Limits failure) (fault : Fault) : failure ≠ .fault fault := by
  rintro rfl
  cases h with
  | memory _ refused => exact Extent.not_rejected_check _ _ _ ⟨fault, refused⟩

namespace Stops

theorem map (h : m.Stops result) (f : β → γ) : m.Stops (result.map f) := by
  obtain ⟨failure, rfl, limits⟩ := h
  exact ⟨failure, rfl, limits⟩

theorem bind (h : m.Stops result) (next : β → Except Failure γ) : m.Stops (result.bind next) := by
  obtain ⟨failure, rfl, limits⟩ := h
  exact ⟨failure, rfl, limits⟩

theorem ne_ok (h : m.Stops result) (value : β) : result ≠ .ok value := by
  obtain ⟨_, rfl, _⟩ := h
  nofun

/-- A limit of the machine is no fault of the encoding. -/
theorem not_rejected (h : m.Stops result) : ¬ Rejected result := by
  rintro ⟨fault, refused⟩
  obtain ⟨failure, same, limits⟩ := h
  rw [refused] at same
  cases same
  exact limits.ne_fault fault rfl

theorem not_decided (h : m.Stops result) : ¬ Decided result := by
  rintro (⟨value, ok⟩ | rejected)
  · exact h.ne_ok value ok
  · exact h.not_rejected rejected

end Stops

/-- A machine that writes integers of twenty digits and holds grids of thirty ordinates. -/
def tight : Machine := ⟨⟨some 20⟩, some 240⟩

end Machine

/-! Grids. -/

section Grids

variable [Ordinate α] (m : Machine)

theorem Coordinates.makeCapped_cases (cap count dimension : Int) :
    m.Stops (makeCapped (α := α) m.memory cap count dimension) ∨
      makeCapped (α := α) m.memory cap count dimension =
        makeCapped none cap count dimension := by
  cases limit : m.memory with
  | none => exact .inr rfl
  | some most =>
    simp only [makeCapped, make]
    cases checked : Extent.check (some most) count (min dimension cap) with
    | error failure => exact .inl ⟨failure, rfl, .memory limit checked⟩
    | ok passed =>
      have nonneg := Extent.nonneg_of_check checked
      rw [Extent.check_none nonneg.1 nonneg.2]
      exact .inr rfl

theorem Assembly.checkGroups_cases (count native : Int) :
    m.Stops (checkGroups m.memory count native) ∨ checkGroups m.memory count native = .ok () := by
  unfold checkGroups
  split
  · rename_i asked
    obtain ⟨most, limit⟩ := Option.isSome_iff_exists.mp asked.1
    cases counted : Extent.bytes 0 native with
    | error failure =>
      have refused : Extent.check (some most) 0 native = .error failure := by
        rw [Extent.check, counted]
        rfl
      exact .inl ⟨failure, rfl, .memory limit refused⟩
    | ok bytes => exact .inr rfl
  · exact .inr rfl

/-- A machine stops assembling, or assembles what any machine does. -/
theorem Assembly.assemble_cases (cap : Int) (ordinates : List α) (native output : Int)
    (checkLength : Bool) :
    m.Stops (assemble m.memory cap ordinates native output checkLength) ∨
      assemble m.memory cap ordinates native output checkLength =
        assemble none cap ordinates native output checkLength := by
  simp only [assemble]
  split
  · exact (Coordinates.makeCapped_cases m cap 0 output).imp (·.map _) (by rw [·])
  split
  · exact .inr rfl
  split
  · exact .inr rfl
  · rcases Coordinates.makeCapped_cases (α := α) m cap _ output with stops | same
    · exact .inl (stops.bind _)
    · rw [same]
      cases Coordinates.makeCapped (α := α) none cap
          ((ordinates.length : Int).fdiv native) output with
      | error failure => exact .inr rfl
      | ok blank =>
        rcases Assembly.checkGroups_cases m _ native with stops | grouped
        · exact .inl (stops.bind _)
        · have unbounded : checkGroups none ((ordinates.length : Int).fdiv native) native =
              .ok () := if_neg (by simp)
          rw [grouped, unbounded]
          exact .inr rfl

end Grids

/-! Runs. -/

namespace Machine

variable (m : Machine) {run : Run α β}

theorem limits_of_refusal? {event : Event α} {failure : Failure}
    (refused : m.refusal? event = some failure) : m.Limits failure := by
  unfold refusal? at refused
  split at refused
  · rename_i ring
    split at refused
    · rename_i found
      cases refused
      cases limit : m.memory with
      | none =>
        rw [limit, Extent.check, if_neg (by omega)] at found
        cases found
      | some most =>
        rw [limit] at found
        exact .memory limit found
    · cases refused
  · cases refused

theorem limits_of_shortage? {numbers : List Int} {failure : Failure}
    (short : m.shortage? numbers = some failure) : m.Limits failure := by
  unfold Writer.shortage? at short
  split at short
  · cases short
  · obtain ⟨most, limit, rfl⟩ := Option.map_eq_some_iff.mp short
    exact .digits limit

theorem limits_of_writer_refusal? {event : Event α} {failure : Failure}
    (refused : m.toWriter.refusal? event = some failure) : m.Limits failure := by
  cases event with
  | built node => cases refused
  | noted note => exact m.limits_of_shortage? refused

/-- Only faults are written. -/
theorem Stops.writes_eq {result : Except Failure β} {m : Machine} (h : m.Stops result) :
    m.toWriter.result result = result := by
  obtain ⟨failure, rfl, limits⟩ := h
  cases failure with
  | fault fault => exact absurd rfl (limits.ne_fault fault)
  | _ => rfl

theorem stops_or_result_eq (result : Except Failure β) :
    m.Stops (m.toWriter.result result) ∨ m.toWriter.result result = result := by
  cases result with
  | ok value => exact .inr rfl
  | error failure =>
    cases failure with
    | fault fault =>
      rcases m.raise_cases fault with same | ⟨most, limit, short⟩
      · exact .inr (by rw [Writer.result_error_fault, same])
      · exact .inl ⟨_, by rw [Writer.result_error_fault, short], .digits limit⟩
    | _ => exact .inr rfl

/-- A run is stopped by a limit or not changed at all. -/
theorem stops_or_upTo_eq (refuses? : Event α → Option Failure)
    (limiting : ∀ event failure, refuses? event = some failure → m.Limits failure)
    (run : Run α β) : m.Stops (run.upTo refuses?).result ∨ run.upTo refuses? = run := by
  rcases run.upTo_cases refuses? with same | ⟨event, _, failure, refused, ended⟩
  · exact .inr same
  · exact .inl ⟨failure, ended, limiting event failure refused⟩

/-- A run goes on to its end, as it would without limits, or a limit stops it. -/
theorem stops_or_ofRun_eq (run : Run α β) :
    m.Stops (m.ofRun run).result ∨ (m.ofRun run).result = run.result := by
  have writes := m.stops_or_upTo_eq m.toWriter.refusal? (fun _ _ => m.limits_of_writer_refusal?)
    (run.upTo m.refusal?)
  simp only [ofRun, Writer.ofRun]
  rcases m.stops_or_upTo_eq m.refusal? (fun _ _ => m.limits_of_refusal?) run with stops | same
  · have stopped := writes.elim id fun same => by rwa [same]
    rw [stopped.writes_eq]
    exact .inl stopped
  · rw [same] at writes ⊢
    rcases writes with stops | same
    · rw [stops.writes_eq]
      exact .inl stops
    · rw [same]
      exact m.stops_or_result_eq run.result

/-- A note is written before anything else happens, or nothing else happens. -/
theorem result_ofRun_noted (note : Note) (run : Run α β) :
    (m.ofRun (run.after [.noted note])).result =
      (m.shortage? note.numbers).elim (m.ofRun run).result .error := by
  have roomy : m.refusal? (.noted note : Event α) = none := rfl
  simp only [ofRun, Writer.ofRun, Run.upTo_after roomy]
  cases short : m.shortage? note.numbers with
  | none =>
    rw [Run.upTo_after (show m.toWriter.refusal? (.noted note) = none from short)]
    rfl
  | some failure =>
    have refused : m.toWriter.refusal? (.noted note : Event α) = some failure := short
    rw [Run.upTo_after_of_refused refused]
    have stops : m.Stops (.error failure : Except Failure β) :=
      ⟨failure, rfl, m.limits_of_shortage? short⟩
    exact stops.writes_eq

/-- What is made of the value of a run does not matter for its limits. -/
theorem result_ofRun_map (f : β → γ) (run : Run α β) :
    (m.ofRun (run.map f)).result = (m.ofRun run).result.map f := by
  have written (result : Except Failure β) : m.result (result.map f) = (m.result result).map f := by
    cases result <;> rfl
  simp only [ofRun, Writer.ofRun, Run.upTo_map]
  exact written _

/-- The cursor has no part in how a run ends. -/
theorem result_ofRun_congr {other : Run α β} (events : run.events = other.events)
    (result : run.result = other.result) : (m.ofRun run).result = (m.ofRun other).result := by
  obtain ⟨events, result⟩ := Run.upTo_congr m.refusal? events result
  exact congrArg m.result (Run.upTo_congr m.toWriter.refusal? events result).2

/-- Nothing is put together that would not be without limits. -/
theorem built_ofRun {node : Node α} (built : node ∈ (m.ofRun run).built) : node ∈ run.built := by
  rw [Run.mem_built] at built ⊢
  exact Run.mem_events_of_upTo (Run.mem_events_of_upTo built)

end Machine

/-! Readings. -/

namespace Reader

variable [Ordinate α] (m : Machine) (r : Reader) (form : Form) (e : Encoding α)

theorem result_readOn : (r.readOn m form (some e)).result =
    ((m.ofRun (form.render (runIn m.memory r e))).result.bind (form.place e.srid)).map some := rfl

theorem result_readOn_tree : (r.readOn m .tree (some e)).result =
    (m.ofRun (runIn m.memory r e)).result.map fun tree => some ⟨tree, e.srid⟩ := by
  rw [result_readOn, Form.render]
  cases (m.ofRun (runIn m.memory r e)).result with
  | error failure => rfl
  | ok tree =>
    change (Form.tree.place e.srid tree).map some = _
    rw [Form.place_tree]
    rfl

theorem sourceIn_cases (native output : Int) :
    m.Stops (sourceIn m.memory r e native output) ∨
      sourceIn m.memory r e native output = r.source e native output := by
  rcases Assembly.assemble_cases m r.cap e.ordinates native output true with stops | same
  · exact .inl (stops.bind _)
  · refine .inr ?_
    rw [source_eq, sourceIn, same]

/-- A reading comes to its coordinates as it does without limits, or stops before anything is put
together. -/
theorem runIn_cases : (∃ note failure, runIn m.memory r e = ⟨0, [.noted note], .error failure⟩ ∧
    m.Limits failure) ∨ runIn m.memory r e = r.run e := by
  rw [run_eq, runIn]
  cases TypeCode.interpret e.typeCode with
  | error fault => exact .inr rfl
  | ok d =>
    cases e.wholePoint? with
    | some p =>
      simp only [runPointIn, runPoint_eq]
      rcases Assembly.assemble_cases m r.cap p.ordinates (min d.dimension 3)
          (r.settings.outputDimension d.dimension) false with ⟨failure, stopped, limits⟩ | same
      · rw [stopped]
        exact .inl ⟨_, failure, rfl, limits⟩
      · rw [same]
        exact .inr rfl
    | none =>
      simp only [runElementsIn, runElements_eq]
      rcases r.sourceIn_cases m e d.dimension (r.settings.outputDimension d.dimension) with
        ⟨failure, stopped, limits⟩ | same
      · rw [stopped]
        exact .inl ⟨_, failure, rfl, limits⟩
      · rw [same]
        exact .inr rfl

/-- On a machine a reading ends as it does without limits, unless a limit stops it. -/
theorem stops_or_readOn_eq : m.Stops (r.readOn m form (some e)).result ∨
    (r.readOn m form (some e)).result = (r.read form (some e)).result := by
  rw [result_readOn]
  rcases r.runIn_cases m e with ⟨note, failure, stopped, limits⟩ | same
  · refine .inl (Machine.Stops.map (Machine.Stops.bind ?_ _) _)
    have ended : (form.render (runIn m.memory r e)).result = .error failure := by
      rw [stopped]
      cases form <;> rfl
    rcases m.stops_or_ofRun_eq (form.render (runIn m.memory r e)) with stops | same
    · exact stops
    · exact ⟨failure, by rw [same, ended], limits⟩
  · rw [same]
    rcases m.stops_or_ofRun_eq (form.render (r.run e)) with stops | ended
    · exact .inl ((stops.bind _).map _)
    · rw [ended]
      exact .inr rfl

/-- A machine without limits reads as the bare reader does. -/
theorem result_readOn_ideal :
    (r.readOn .ideal form (some e)).result = (r.read form (some e)).result :=
  (r.stops_or_readOn_eq .ideal form e).resolve_left Machine.not_stops_ideal

/-- A reading gives the tree or finds a fault, unless a limit of the machine stops it. -/
theorem decided_or_stops (capped : 2 ≤ r.cap) :
    Decided (m.ofRun (runIn m.memory r e)).result ∨
      m.Stops (m.ofRun (runIn m.memory r e)).result := by
  rcases r.runIn_cases m e with ⟨note, failure, stopped, limits⟩ | same
  · rw [stopped]
    rcases m.stops_or_ofRun_eq (⟨0, [.noted note], .error failure⟩ : Run α (Geometry α)) with
      stops | ended
    · exact .inr stops
    · exact .inr ⟨failure, ended, limits⟩
  · rw [same]
    rcases m.stops_or_ofRun_eq (r.run e) with stops | ended
    · exact .inr stops
    · rw [ended]
      exact .inl (decided_run capped e)

theorem decided_or_stops_readOn (capped : 2 ≤ r.cap) :
    Decided (r.readOn m .tree (some e)).result ∨ m.Stops (r.readOn m .tree (some e)).result := by
  rw [result_readOn_tree, decided_map_iff]
  exact (decided_or_stops m r e capped).imp id (·.map _)

variable {m r form e}

/-- What a machine decides is decided in the same way without it. -/
theorem readOn_of_decided (decided : Decided (r.readOn m form (some e)).result) :
    (r.readOn m form (some e)).result = (r.read form (some e)).result :=
  (r.stops_or_readOn_eq m form e).resolve_left fun stops => stops.not_decided decided

/-- A geometry that a machine reads is the geometry of the encoding. -/
theorem read_of_readOn {value : Option (Placed (Geometry α))}
    (ok : (r.readOn m form (some e)).result = .ok value) :
    (r.read form (some e)).result = .ok value := by
  rwa [← readOn_of_decided (.inl ⟨value, ok⟩)]

/-- A fault that a machine finds is one of the encoding. -/
theorem rejected_read_of_readOn (rejected : Rejected (r.readOn m form (some e)).result) :
    Rejected (r.read form (some e)).result := by
  rwa [← readOn_of_decided (.inr rejected)]

end Reader

end TripletGeometry
