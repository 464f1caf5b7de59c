import TripletGeometry.Ordinate.Exact
import TripletGeometry.Proofs.Capacity
import TripletGeometry.Proofs.PlanarRings

/-!
The outcome of a reading in planar form. If the ordinates are numbers then the planar form refuses
nothing that a reading puts together: points have a coordinate, lines have two and rings four, rings
close, and no coordinate has more than x, y and z. What is left to go wrong comes after the reading,
where the number of the reference system is put on, unless a limit of the machine is reached.
-/
namespace TripletGeometry

/-- The result is an outcome, with a geometry or with a fault. -/
def Outcome.Answers {γ : Type} (result : Except Failure (Outcome γ)) : Prop :=
  (∃ g, result = .ok ⟨some g, none⟩) ∨ ∃ fault, result = .ok ⟨none, some fault⟩

theorem Outcome.not_answers_error {γ : Type} (failure : Failure) :
    ¬ Answers (.error failure : Except Failure (Outcome γ)) := by
  intro answers
  rcases answers with ⟨g, same⟩ | ⟨fault, same⟩
  · cases same
  · cases same

variable {α : Type}

/-- The reference system can be numbered in planar form, if there is one. -/
def Encoding.FitsReference (e : Encoding α) : Prop := ∀ n, e.srid = some n → IsHalfWord n

namespace Form

variable {srid : Option Int} {g : Geometry α}

theorem place_planar_of_fits (fits : ∀ n, srid = some n → IsHalfWord n) :
    planar.place srid g = .ok ⟨g, srid⟩ := by
  cases srid with
  | none => rfl
  | some n => exact if_pos (fits n rfl)

/-- A reference system that is no 32-bit integer is refused, and one that is no word in a way of its
own. -/
theorem place_planar_of_unfit {n : Int} (unfit : ¬ IsHalfWord n) :
    planar.place (some n) g = .error (if IsWord n then .referenceSystemRange n else .beyondWord) :=
  if_neg unfit

end Form

variable [Ordinate α]

/-! What the planar form refuses. -/

namespace Planar

omit [Ordinate α]

theorem pointRefusal?_eq_none {c : Coordinates α} (one : c.size = 1)
    (spatial : c.width = 2 ∨ c.width = 3) : pointRefusal? c = none := by
  have several : ¬ c.width = 1 := by omega
  rw [pointRefusal?, if_neg (by omega), if_neg several]
  exact if_pos spatial

theorem lineRefusal?_eq_none {c : Coordinates α} (two : 2 ≤ c.size)
    (spatial : c.width = 2 ∨ c.width = 3) : lineRefusal? c = none := by
  rw [lineRefusal?, if_neg (Nat.not_lt.mpr two)]
  exact if_pos spatial

end Planar

/-- What is made from a source of numbers, with x and y and at most z, is not refused. A point has
one coordinate, a line two, and a ring four that close. -/
theorem Source.refusal?_of_makes {s : Source α} (planar : 2 ≤ s.coordinates.width)
    (spatial : s.coordinates.width ≤ 3) (capped : s.coordinates.width ≤ s.cap)
    (numbers : ∀ row ∈ s.coordinates.xy, ∀ x ∈ row, IsNumber x) {node : Node α}
    (made : s.Makes node) : Planar.refusal? node = none := by
  have width : ∀ i, (s.elementCoordinates i).width = 2 ∨ (s.elementCoordinates i).width = 3 := by
    intro i
    rw [width_elementCoordinates]
    omega
  cases made with
  | ring read =>
    obtain ⟨x, y, _, first, number⟩ := isNumber_of_ringAt planar (by omega) numbers read
    have closes := closes_of_ringAt planar (by omega) numbers read
    have same := width_of_ringAt capped read
    exact Planar.ringRefusal?_eq_none (by omega) (four_le_size_of_ringAt read) closes first number
  | @point i shape read =>
    obtain ⟨⟨_, _, _, one⟩, rfl⟩ := (s.judges_pointAt i).eq_ok_iff.mp read
    exact Planar.pointRefusal?_eq_none (by omega) (width i)
  | @multiPoint i shape read =>
    obtain ⟨_, rfl⟩ := (s.judges_multiPointAt i).eq_ok_iff.mp read
    exact if_pos (width i)
  | @line i line read =>
    obtain ⟨⟨_, _, _, two⟩, rfl⟩ := (s.judges_lineAt i).eq_ok_iff.mp read
    exact Planar.lineRefusal?_eq_none (by omega) (width i)
  | polygon | multiLine | multiPolygon | collection => rfl

/-! Readings. -/

namespace Reader

variable {m : Machine} {r : Reader} {e : Encoding α} {tree : Geometry α}

section Numbers

variable (capped : r.cap = usualCap) (numbers : ∀ x ∈ e.ordinates, IsNumber x)
include capped numbers

/-- Whatever a reading has put together the planar form can hold. -/
theorem refusal?_of_built {node : Node α} (built : .built node ∈ (r.run e).events) :
    Planar.refusal? node = none := by
  have three : r.cap = 3 := capped
  obtain ⟨d, interpreted, ⟨c, rfl, one, width⟩ | ⟨s, opens, made⟩⟩ := makes_of_built built
  · obtain ⟨planar, _⟩ := TypeCode.interpret_ok interpreted
    have two := two_le_width (r := r) planar.1 (by omega)
    refine Planar.pointRefusal?_eq_none one ?_
    simp only [Reader.width] at width two
    omega
  · have two := opens.two_le_width (by omega)
    have width := opens.width_eq
    simp only [Reader.width] at width
    refine Source.refusal?_of_makes two (by omega) (by rw [opens.cap_eq]; omega) ?_ made
    intro row inside x present
    exact opens.isNumber_of_mem_xy (by omega) numbers inside present

/-- In planar form a reading closes its rings in z and does nothing else. -/
theorem render_planar (m : Machine) : Form.planar.render (runIn m.memory r e) =
    (runIn m.memory r e).map (Geometry.mapRings Planar.closeRing) := by
  refine Planar.ofRun_of_plain fun node built => ?_
  rcases r.runIn_cases m e with ⟨note, failure, stopped, _⟩ | same
  · rw [stopped] at built
    cases List.mem_singleton.mp built
  · rw [same] at built
    exact refusal?_of_built capped numbers built

/-- The planar form is put together wherever the tree is, and then its reference system is numbered.
-/
theorem result_readOutcomeOn (m : Machine) : (r.readOutcomeOn m .planar (some e)).result =
    Outcome.ofResult (((m.ofRun (runIn m.memory r e)).result.bind fun tree =>
      Form.planar.place e.srid (Form.planar.present tree)).map some) := by
  have shown : (r.readOutcomeOn m .planar (some e)).result =
    Outcome.ofResult (r.readOn m .planar (some e)).result := rfl
  rw [shown, result_readOn, render_planar capped numbers, Machine.result_ofRun_map]
  cases (m.ofRun (runIn m.memory r e)).result <;> rfl

/-- With a reference system that fits the outcome holds the geometry. -/
theorem readOutcomeOn_of_fits (ok : (m.ofRun (runIn m.memory r e)).result = .ok tree)
    (fits : e.FitsReference) : (r.readOutcomeOn m .planar (some e)).result =
      .ok ⟨some ⟨Form.planar.present tree, e.srid⟩, none⟩ := by
  rw [result_readOutcomeOn capped numbers, ok]
  change Outcome.ofResult ((Form.planar.place e.srid _).map some) = _
  rw [Form.place_planar_of_fits fits]
  rfl

/-- With one that does not fit the outcome is lost to a failure that is no fault. -/
theorem readOutcomeOn_of_unfit (ok : (m.ofRun (runIn m.memory r e)).result = .ok tree) {n : Int}
    (srid : e.srid = some n) (unfit : ¬ IsHalfWord n) :
    (r.readOutcomeOn m .planar (some e)).result =
      .error (if IsWord n then .referenceSystemRange n else .beyondWord) := by
  rw [result_readOutcomeOn capped numbers, ok, srid]
  change Outcome.ofResult ((Form.planar.place (some n) _).map some) = _
  rw [Form.place_planar_of_unfit unfit]
  split <;> rfl

end Numbers

/-- A reading of numbers in planar form has an outcome just when the reading of the tree finds a
fault, or gives a geometry whose reference system can be numbered. It does one or the other on a
machine that serves it. The outcome then has the fault, or the planar form of the tree. It fails
where the reference system cannot be numbered, and where a limit of the machine stops the reading of
the tree; nothing in the planar form fails otherwise. -/
theorem outcome_of_reading (m : Machine) (capped : r.cap = usualCap)
    (numbers : ∀ x ∈ e.ordinates, IsNumber x) :
    (Outcome.Answers (r.readOutcomeOn m .planar (some e)).result ↔
        Rejected (r.readOn m .tree (some e)).result ∨
          (∃ given, (r.readOn m .tree (some e)).result = .ok given) ∧ e.FitsReference) ∧
      (m.Serves r e → Decided (r.readOn m .tree (some e)).result) ∧
      (∀ fault, (r.readOn m .tree (some e)).result = .error (.fault fault) →
        (r.readOutcomeOn m .planar (some e)).result = .ok ⟨none, some fault⟩) ∧
      (∀ placed, (r.readOn m .tree (some e)).result = .ok (some placed) →
        (e.FitsReference → (r.readOutcomeOn m .planar (some e)).result =
          .ok ⟨some ⟨Form.planar.present placed.geometry, placed.srid⟩, none⟩) ∧
        ∀ n, e.srid = some n → ¬ IsHalfWord n → (r.readOutcomeOn m .planar (some e)).result =
          .error (if IsWord n then .referenceSystemRange n else .beyondWord)) ∧
      (Decided (r.readOn m .tree (some e)).result ∨
        ∃ failure, (r.readOn m .tree (some e)).result = .error failure ∧
          (r.readOutcomeOn m .planar (some e)).result = .error failure ∧ m.Limits failure) := by
  have three : r.cap = 3 := capped
  have outcome := result_readOutcomeOn capped numbers m
  have served (serves : m.Serves r e) : Decided (m.ofRun (runIn m.memory r e)).result := by
    have decided := serves.decided_readOn (by omega)
    rwa [result_readOn_tree, decided_map_iff] at decided
  rw [result_readOn_tree, rejected_map_iff, decided_map_iff]
  rcases r.decided_or_stops m e (by omega) with (⟨tree, ok⟩ | ⟨fault, refused⟩) |
    ⟨failure, stopped, limits⟩
  · rw [ok] at served ⊢
    refine ⟨?_, served, ?_, ?_, .inl (.ok tree)⟩
    · by_cases fits : e.FitsReference
      · have answer := readOutcomeOn_of_fits capped numbers ok fits
        exact iff_of_true (.inl ⟨_, answer⟩) (.inr ⟨⟨_, rfl⟩, fits⟩)
      · obtain ⟨n, srid, unfit⟩ : ∃ n, e.srid = some n ∧ ¬ IsHalfWord n := by
          simpa [Encoding.FitsReference] using fits
        refine iff_of_false ?_ ?_
        · rw [readOutcomeOn_of_unfit capped numbers ok srid unfit]
          exact Outcome.not_answers_error _
        · intro either
          exact either.elim not_rejected_ok fun placed => fits placed.2
    · intro fault same
      cases same
    · intro placed same
      cases same
      exact ⟨readOutcomeOn_of_fits capped numbers ok,
        fun n => readOutcomeOn_of_unfit capped numbers ok⟩
  · rw [refused] at outcome served ⊢
    refine ⟨iff_of_true (.inr ⟨fault, outcome⟩) (.inl ⟨fault, rfl⟩), served, ?_, ?_,
      .inl (.inr ⟨fault, rfl⟩)⟩
    · intro other same
      cases same
      exact outcome
    · intro placed same
      cases same
  · have failed : (r.readOutcomeOn m .planar (some e)).result = .error failure := by
      rw [outcome, stopped]
      cases failure with
      | fault fault => exact absurd rfl (limits.ne_fault fault)
      | _ => rfl
    have unanswered : ¬ Rejected (.error failure : Except Failure (Geometry α)) := by
      rintro ⟨fault, same⟩
      cases same
      exact limits.ne_fault fault rfl
    rw [stopped] at served
    rw [failed, stopped]
    refine ⟨iff_of_false (Outcome.not_answers_error failure) ?_, served, ?_, ?_,
      .inr ⟨failure, rfl, rfl, limits⟩⟩
    · rintro (rejected | ⟨⟨_, same⟩, _⟩)
      · exact unanswered rejected
      · cases same
    · intro fault same
      cases same
      exact absurd rfl (limits.ne_fault fault)
    · intro placed same
      cases same

def pointIn (srid : Int) : Encoding Exact where
  typeCode := 2001
  srid := some srid
  point := some ⟨⟨some 1⟩, ⟨some 2⟩, none⟩
  elements := []
  ordinates := []

/-- A compact point in a reference system that fits. -/
theorem outcome_of_reading_pointIn :
    usual.cap = usualCap ∧ (∀ x ∈ (pointIn 4326).ordinates, IsNumber x) ∧
      (pointIn 4326).FitsReference ∧
      ∃ placed, (usual.readOn .ideal .tree (some (pointIn 4326))).result = .ok (some placed) ∧
        (usual.readOutcomeOn .ideal .planar (some (pointIn 4326))).result =
          .ok ⟨some ⟨Form.planar.present placed.geometry, placed.srid⟩, none⟩ := by
  have numbers : ∀ x ∈ (pointIn 4326).ordinates, IsNumber x := nofun
  have fits : (pointIn 4326).FitsReference := by
    intro n same
    cases same
    decide
  obtain ⟨placed, given, _⟩ := exists_readOn (p := fun _ => true)
    (show (readEncodingOn .ideal usual .tree (pointIn 4326)).result.toOption.any _ = true by
      decide +kernel)
  obtain ⟨_, _, _, outcome, _⟩ := outcome_of_reading (r := usual) .ideal rfl numbers
  exact ⟨rfl, numbers, fits, placed, given, (outcome placed given).1 fits⟩

/-- The first number that is too large for a reference system. -/
theorem not_answers_pointIn :
    ¬ Outcome.Answers (usual.readOutcomeOn .ideal .planar (some (pointIn 2147483648))).result ∧
      (usual.readOutcomeOn .ideal .planar (some (pointIn 2147483648))).result =
        .error (.referenceSystemRange 2147483648) := by
  obtain ⟨tree, ok⟩ := exists_of_isOk
    (show (Machine.ideal.ofRun (runIn none usual (pointIn 2147483648))).result.isOk = true by
      decide +kernel)
  have failed := readOutcomeOn_of_unfit (r := usual) rfl nofun ok rfl
    (show ¬ IsHalfWord 2147483648 by decide)
  rw [if_pos (by decide)] at failed
  rw [failed]
  exact ⟨Outcome.not_answers_error _, rfl⟩

end Reader

end TripletGeometry
