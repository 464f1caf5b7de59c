import Mathlib.Data.Rat.Floor
import TripletGeometry.Proofs.TypeCodes

/-!
Which integers are type codes. There is at most one way to make up an integer of a dimension, the
position of a measure and the number of a topology, and quotients that are rounded down find it,
below zero too. An integer that is made up in no way is rejected for the first of the three that is
wrong, however many are.
-/
namespace TripletGeometry.TypeCode

/-- How a type code is made up of a dimension, the position of a measure, if there is one, and the
number of a topology. -/
structure Digits (typeCode dimension measure topology : Int) : Prop where
  sum : typeCode = 1000 * dimension + 100 * measure + topology
  spanned : IsDimension dimension
  measured : IsMeasure dimension measure
  digit : 0 ≤ topology ∧ topology ≤ 9

def thousands (typeCode : Int) : Int := ⌊(typeCode / 1000 : ℚ)⌋

def hundredsDigit (typeCode : Int) : Int := ⌊(typeCode / 100 : ℚ)⌋ % 10

variable {typeCode d l t : Int} {descriptor : Descriptor}

theorem dimension_eq_thousands (typeCode : Int) : dimension typeCode = thousands typeCode :=
  (Rat.floor_intCast_div_natCast typeCode 1000).symm

theorem measurePosition_eq_hundredsDigit (typeCode : Int) :
    measurePosition typeCode = hundredsDigit typeCode := by
  have hundreds : ⌊(typeCode / 100 : ℚ)⌋ = typeCode / 100 :=
    Rat.floor_intCast_div_natCast typeCode 100
  rw [measurePosition, hundredsDigit, hundreds]
  omega

/-- The digits are found again in what they make up. -/
theorem Digits.found (h : Digits typeCode d l t) :
    dimension typeCode = d ∧ measurePosition typeCode = l ∧ topologyCode typeCode = t := by
  obtain ⟨sum, ⟨least, most⟩, measured, digit⟩ := h
  have single : 0 ≤ l ∧ l ≤ 9 := by
    rcases measured with unmeasured | inside <;> omega
  simp only [dimension, measurePosition, topologyCode]
  omega

/-- The digits of a type code are determined by it. -/
theorem Digits.unique {d' l' t' : Int} (h : Digits typeCode d l t) (h' : Digits typeCode d' l' t') :
    d = d' ∧ l = l' ∧ t = t' := by
  obtain ⟨rfl, rfl, rfl⟩ := h.found
  exact h'.found

/-- A power of ten beyond the thousands has no digits of a type code. -/
theorem not_digits_pow {most : Nat} (long : 4 ≤ most) :
    ¬ ∃ d l t, Digits (Nat.pow 10 most : Nat) d l t := by
  rintro ⟨d, l, t, sum, ⟨_, highest⟩, measured, digit⟩
  have longer : Nat.pow 10 4 ≤ Nat.pow 10 most := Nat.pow_le_pow_right (by decide) long
  have ten : Nat.pow 10 4 = 10000 := rfl
  rcases measured with unmeasured | inside <;> omega

/-- The three digits leave nothing of the integer over. -/
theorem digits_of_spanned (spanned : IsDimension (dimension typeCode))
    (measured : IsMeasure (dimension typeCode) (measurePosition typeCode)) {topology : Topology}
    (coded : topology.code = topologyCode typeCode) :
    Digits typeCode (dimension typeCode) (measurePosition typeCode) topology.code where
  sum := by
    rw [coded]
    simp only [dimension, measurePosition, topologyCode]
    omega
  spanned := spanned
  measured := measured
  digit := Topology.exists_code_iff.mp ⟨topology, rfl⟩

/-- A type code is read just if it has digits, and then into these. -/
theorem interpret_eq_ok_iff : interpret typeCode = .ok descriptor ↔
    descriptor.typeCode = typeCode ∧
      Digits typeCode descriptor.dimension descriptor.measurePosition descriptor.topology.code := by
  constructor
  · intro ok
    have reads := reads_interpret typeCode
    rw [ok] at reads
    cases reads with
    | ok spanned measured coded => exact ⟨rfl, digits_of_spanned spanned measured coded⟩
  · rintro ⟨same, digits⟩
    obtain ⟨dimensions, measures, coded⟩ := digits.found
    have spanned := digits.spanned
    have measured := digits.measured
    rw [← dimensions] at spanned
    rw [← dimensions, ← measures] at measured
    rw [interpret_eq_ok spanned measured coded.symm, dimensions, measures, ← same]

theorem exists_interpret_iff :
    (∃ descriptor, interpret typeCode = .ok descriptor) ↔ ∃ d l t, Digits typeCode d l t := by
  constructor
  · rintro ⟨descriptor, ok⟩
    exact ⟨_, _, _, (interpret_eq_ok_iff.mp ok).2⟩
  · rintro ⟨d, l, t, digits⟩
    obtain ⟨topology, rfl⟩ := Topology.exists_code_iff.mpr digits.digit
    exact ⟨⟨typeCode, d, l, topology⟩, interpret_eq_ok_iff.mpr ⟨rfl, digits⟩⟩

/-! What is refused. -/

/-- The thousands are looked at first. -/
theorem refuses_dimension_iff (typeCode quotient : Int) :
    (∃ details, interpret typeCode = .error (.unsupportedDimension quotient details)) ↔
      quotient = dimension typeCode ∧ ¬ IsDimension quotient := by
  have reads := reads_interpret typeCode
  constructor
  · rintro ⟨details, refused⟩
    rw [refused] at reads
    cases reads with
    | dimension _ outside => exact ⟨rfl, outside⟩
  · rintro ⟨rfl, outside⟩
    generalize interpret typeCode = result at reads ⊢
    cases reads with
    | dimension details _ => exact ⟨details, rfl⟩
    | measure spanned | topology spanned | ok spanned => exact absurd spanned outside

/-- The hundreds are looked at if the thousands are a dimension. -/
theorem refuses_measure_iff (typeCode : Int) :
    (∃ cause context, interpret typeCode = .error (.malformed cause context)) ↔
      IsDimension (dimension typeCode) ∧
        ¬ IsMeasure (dimension typeCode) (measurePosition typeCode) := by
  have reads := reads_interpret typeCode
  constructor
  · rintro ⟨cause, context, refused⟩
    rw [refused] at reads
    cases reads with
    | measure spanned outside => exact ⟨spanned, outside⟩
  · rintro ⟨spanned, outside⟩
    generalize interpret typeCode = result at reads ⊢
    cases reads with
    | dimension _ outside => exact absurd spanned outside
    | measure => exact ⟨_, _, rfl⟩
    | topology _ measured | ok _ measured => exact absurd measured outside

/-- The two digits behind them are looked at last. -/
theorem refuses_topology_iff (typeCode code : Int) :
    interpret typeCode = .error (.unsupportedType code) ↔
      code = typeCode ∧ IsDimension (dimension typeCode) ∧
        IsMeasure (dimension typeCode) (measurePosition typeCode) ∧
        ¬ ∃ d l t, Digits typeCode d l t := by
  have reads := reads_interpret typeCode
  constructor
  · intro refused
    rw [refused] at reads
    cases reads with
    | topology spanned measured uncoded =>
      refine ⟨rfl, spanned, measured, ?_⟩
      rintro ⟨d, l, t, digits⟩
      obtain ⟨topology, coded⟩ := Topology.exists_code_iff.mpr digits.digit
      exact uncoded topology (coded.trans digits.found.2.2.symm)
  · rintro ⟨rfl, spanned, measured, undone⟩
    generalize answer : interpret code = result at reads ⊢
    cases reads with
    | dimension _ outside => exact absurd spanned outside
    | measure _ outside => exact absurd measured outside
    | topology => rfl
    | ok => exact absurd (exists_interpret_iff.mp ⟨_, answer⟩) undone

/-! Refusals that are written. -/

section Written

variable {w : Writer}

theorem interpretBy_of_ok (w : Writer) (ok : interpret typeCode = .ok descriptor) :
    interpretBy w typeCode = .ok descriptor := by
  rw [interpretBy, ok]
  rfl

theorem interpretBy_of_error (w : Writer) {fault : Fault}
    (refused : interpret typeCode = .error fault) :
    interpretBy w typeCode = .error (w.raise fault) := by
  rw [interpretBy, refused]
  rfl

/-- The limit of the writer does not matter to what is accepted. -/
theorem interpretBy_eq_ok_iff :
    interpretBy w typeCode = .ok descriptor ↔ interpret typeCode = .ok descriptor := by
  cases answer : interpret typeCode with
  | ok other => rw [interpretBy_of_ok w answer, Except.ok.injEq, Except.ok.injEq]
  | error fault =>
    rw [interpretBy_of_error w answer]
    exact iff_of_false nofun nofun

theorem interpretBy_eq_fault_iff {fault : Fault} :
    interpretBy w typeCode = .error (.fault fault) ↔
      w.writes typeCode = true ∧ interpret typeCode = .error fault := by
  cases answer : interpret typeCode with
  | ok descriptor => simp [interpretBy_of_ok w answer]
  | error other =>
    have writes := TypeCode.writes_numbers_iff (w := w) answer
    rw [interpretBy_of_error w answer, Except.error.injEq, Except.error.injEq]
    by_cases written : w.writes typeCode = true
    · rw [Writer.raise_of_writes (writes.mpr written)]
      simp [written]
    · obtain ⟨most, _, stopped⟩ :=
        Writer.raise_of_unwritten (numbers_of_interpret answer).1 written
      rw [stopped]
      simp [written]

/-- A writer stops at a type code that is refused and too long to be told. -/
theorem interpretBy_stops_iff :
    (∃ most, w.digits = some most ∧ interpretBy w typeCode = .error (.tooManyDigits most)) ↔
      ¬ w.writes typeCode = true ∧ ¬ ∃ d l t, Digits typeCode d l t := by
  rw [← exists_interpret_iff]
  cases answer : interpret typeCode with
  | ok descriptor => simp [interpretBy_of_ok w answer]
  | error fault =>
    simp only [interpretBy_of_error w answer, Except.error.injEq]
    constructor
    · rintro ⟨most, _, stopped⟩
      refine ⟨fun written => ?_, by simp⟩
      rw [Writer.raise_of_writes ((writes_numbers_iff answer).mpr written)] at stopped
      cases stopped
    · rintro ⟨unwritten, _⟩
      exact Writer.raise_of_unwritten (numbers_of_interpret answer).1 unwritten

/-- An integer is rejected for the first digit that is wrong, if the integer can be written; if it
has too many digits for that, this is the failure. -/
structure Rejects (w : Writer) (typeCode : Int) : Prop where
  dimension : ∀ quotient,
    (∃ details,
      interpretBy w typeCode = .error (.fault (.unsupportedDimension quotient details))) ↔
      w.writes typeCode = true ∧ quotient = thousands typeCode ∧ ¬ IsDimension quotient
  measure :
    (∃ cause context, interpretBy w typeCode = .error (.fault (.malformed cause context))) ↔
      w.writes typeCode = true ∧ IsDimension (thousands typeCode) ∧
        ¬ IsMeasure (thousands typeCode) (hundredsDigit typeCode)
  topology : ∀ code, interpretBy w typeCode = .error (.fault (.unsupportedType code)) ↔
    w.writes typeCode = true ∧ code = typeCode ∧ IsDimension (thousands typeCode) ∧
      IsMeasure (thousands typeCode) (hundredsDigit typeCode) ∧ ¬ ∃ d l t, Digits typeCode d l t
  unwritten :
    (∃ most, w.digits = some most ∧ interpretBy w typeCode = .error (.tooManyDigits most)) ↔
      ¬ w.writes typeCode = true ∧ ¬ ∃ d l t, Digits typeCode d l t

/-- Each way of being refused has its own condition, and together they leave out no type code. -/
theorem rejects_interpretBy (w : Writer) (typeCode : Int) : Rejects w typeCode where
  dimension quotient := by
    rw [← dimension_eq_thousands]
    simp only [interpretBy_eq_fault_iff, exists_and_left]
    rw [refuses_dimension_iff]
  measure := by
    rw [← dimension_eq_thousands, ← measurePosition_eq_hundredsDigit]
    simp only [interpretBy_eq_fault_iff, exists_and_left]
    rw [refuses_measure_iff]
  topology code := by
    rw [← dimension_eq_thousands, ← measurePosition_eq_hundredsDigit, interpretBy_eq_fault_iff,
      refuses_topology_iff]
  unwritten := interpretBy_stops_iff

end Written

end TripletGeometry.TypeCode
