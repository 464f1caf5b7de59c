import TripletGeometry.TypeCode

/-!
What interpreting a type code gives, and when. The digits are judged one after the other, so each
answer says of the digits before that they have passed.
-/
namespace TripletGeometry

namespace Topology

theorem code_inj {s t : Topology} : s.code = t.code ↔ s = t := by
  cases s <;> cases t <;> decide

theorem ofCode?_eq_some_iff {n : Int} {t : Topology} : ofCode? n = some t ↔ t.code = n := by
  constructor
  · intro found
    have coded := List.find?_some found
    exact of_decide_eq_true coded
  · rintro rfl
    cases t <;> rfl

/-- Topologies are numbered without gaps. -/
theorem exists_code_iff {n : Int} : (∃ t : Topology, t.code = n) ↔ 0 ≤ n ∧ n ≤ 9 := by
  constructor
  · rintro ⟨t, rfl⟩
    cases t <;> decide
  · intro digit
    have each : ∀ i : Fin 10, ∃ t ∈ all, t.code = (i : Nat) := by decide
    obtain ⟨t, _, coded⟩ := each ⟨n.toNat, by omega⟩
    exact ⟨t, coded.trans (Int.toNat_of_nonneg digit.1)⟩

end Topology

namespace TypeCode

variable {typeCode : Int} {d : Descriptor} {fault : Fault}

def IsDimension (dimension : Int) : Prop := 2 ≤ dimension ∧ dimension ≤ 4

/-- There is no measure, or it follows x and y and lies inside the coordinate. -/
def IsMeasure (dimension position : Int) : Prop :=
  position = 0 ∨ 3 ≤ position ∧ position ≤ dimension

/-- The answers to a type code, each with what it says of the digits. -/
inductive Reads (typeCode : Int) : Except Fault Descriptor → Prop
  | dimension (details : Details) (outside : ¬ IsDimension (dimension typeCode))
      (source : details.numbers = [typeCode]) :
      Reads typeCode (.error (.unsupportedDimension (dimension typeCode) (some details)))
  | measure (spanned : IsDimension (dimension typeCode))
      (outside : ¬ IsMeasure (dimension typeCode) (measurePosition typeCode)) :
      Reads typeCode (.error (.malformed
        (.measureOutside typeCode (measurePosition typeCode) (dimension typeCode)) .unknown))
  | topology (spanned : IsDimension (dimension typeCode))
      (measured : IsMeasure (dimension typeCode) (measurePosition typeCode))
      (uncoded : ∀ t : Topology, t.code ≠ topologyCode typeCode) :
      Reads typeCode (.error (.unsupportedType typeCode))
  | ok (spanned : IsDimension (dimension typeCode))
      (measured : IsMeasure (dimension typeCode) (measurePosition typeCode))
      {t : Topology} (coded : t.code = topologyCode typeCode) :
      Reads typeCode (.ok ⟨typeCode, dimension typeCode, measurePosition typeCode, t⟩)

/-- What interpreting gives, case by case. -/
theorem reads_interpret (typeCode : Int) : Reads typeCode (interpret typeCode) := by
  simp only [interpret]
  split
  · rename_i few
    exact .dimension _ (fun spanned => absurd few (Int.not_lt.mpr spanned.1)) rfl
  rename_i atLeast
  split
  · rename_i many
    exact .dimension _ (fun spanned => absurd many (Int.not_lt.mpr spanned.2)) rfl
  rename_i atMost
  have spanned : IsDimension (dimension typeCode) := ⟨Int.not_lt.mp atLeast, Int.not_lt.mp atMost⟩
  split
  · rename_i outside
    exact .measure spanned fun measured => by
      rcases measured with unmeasured | placed
      · exact outside.1 unmeasured
      · exact outside.2 placed
  rename_i inside
  have measured : IsMeasure (dimension typeCode) (measurePosition typeCode) :=
    Decidable.or_iff_not_imp_left.mpr fun nonzero =>
      Decidable.of_not_not fun astray => inside ⟨nonzero, astray⟩
  split
  · rename_i unknown
    refine .topology spanned measured fun t coded => ?_
    rw [Topology.ofCode?_eq_some_iff.mpr coded] at unknown
    cases unknown
  · rename_i found
    exact .ok spanned measured (Topology.ofCode?_eq_some_iff.mp found)

theorem interpret_ok (ok : interpret typeCode = .ok d) :
    (2 ≤ d.dimension ∧ d.dimension ≤ 4) ∧ d.topology.code = topologyCode typeCode := by
  have reads := reads_interpret typeCode
  rw [ok] at reads
  cases reads with
  | ok spanned _ coded => exact ⟨spanned, coded⟩

/-- The dimension and the topology are those of the digits. -/
theorem digits_of_interpret (ok : interpret typeCode = .ok d) :
    dimension typeCode = d.dimension ∧
      Topology.ofCode? (topologyCode typeCode) = some d.topology := by
  have reads := reads_interpret typeCode
  rw [ok] at reads
  cases reads with
  | ok _ _ coded => exact ⟨rfl, Topology.ofCode?_eq_some_iff.mpr coded⟩

theorem typeCode_of_interpret (ok : interpret typeCode = .ok d) : d.typeCode = typeCode := by
  have reads := reads_interpret typeCode
  rw [ok] at reads
  cases reads with
  | ok => rfl

/-- Digits that pass are interpreted. -/
theorem interpret_eq_ok (spanned : IsDimension (dimension typeCode))
    (measured : IsMeasure (dimension typeCode) (measurePosition typeCode)) {t : Topology}
    (coded : t.code = topologyCode typeCode) :
    interpret typeCode = .ok ⟨typeCode, dimension typeCode, measurePosition typeCode, t⟩ := by
  have reads := reads_interpret typeCode
  generalize interpret typeCode = result at reads ⊢
  cases reads with
  | dimension _ outside => exact absurd spanned outside
  | measure _ outside => exact absurd measured outside
  | topology _ _ uncoded => exact absurd coded (uncoded t)
  | ok _ _ coded' => rw [Topology.code_inj.mp (coded.trans coded'.symm)]

/-- The integers of a fault are the type code and no longer ones. -/
theorem numbers_of_interpret (refused : interpret typeCode = .error fault) :
    typeCode ∈ fault.numbers ∧ ∀ n ∈ fault.numbers, n.natAbs ≤ typeCode.natAbs := by
  have shorter : (dimension typeCode).natAbs ≤ typeCode.natAbs := by
    simp only [dimension]
    omega
  have reads := reads_interpret typeCode
  rw [refused] at reads
  cases reads with
  | dimension details _ source =>
    have named : (Fault.unsupportedDimension (dimension typeCode) (some details)).numbers =
        [dimension typeCode, typeCode] := by
      change (dimension typeCode :: details.numbers) ++ [] = _
      rw [source]
      rfl
    simp [named, shorter]
  | measure spanned =>
    have position : (measurePosition typeCode).natAbs ≤ typeCode.natAbs := by
      obtain ⟨least, _⟩ := spanned
      simp only [dimension, measurePosition] at least ⊢
      omega
    change typeCode ∈ [typeCode, measurePosition typeCode, dimension typeCode] ∧
      ∀ n ∈ [typeCode, measurePosition typeCode, dimension typeCode], n.natAbs ≤ typeCode.natAbs
    simp [position, shorter]
  | topology =>
    change typeCode ∈ [typeCode] ∧ ∀ n ∈ [typeCode], n.natAbs ≤ typeCode.natAbs
    simp

/-- A fault can be written just where the type code can. -/
theorem writes_numbers_iff {w : Writer} (refused : interpret typeCode = .error fault) :
    (∀ n ∈ fault.numbers, w.writes n = true) ↔ w.writes typeCode = true := by
  obtain ⟨named, shorter⟩ := numbers_of_interpret refused
  exact ⟨fun written => written _ named,
    fun written n member => Writer.writes_of_natAbs_le written (shorter n member)⟩

end TypeCode

end TripletGeometry
