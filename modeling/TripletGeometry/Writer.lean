import TripletGeometry.Failure

/-!
Writing integers as text. There may be a limit on their digits. The text of a fault is written when
the fault is found, so that a fault with an integer that is too long never comes out: it is replaced
by the failure to write it.
-/
namespace TripletGeometry

structure Writer where
  /-- The most digits of an integer, if there is a limit. -/
  digits : Option Nat

namespace Writer

variable {β : Type} {w : Writer} {n k : Int} {numbers : List Int} {fault : Fault}

def ideal : Writer := ⟨none⟩

def usualDigits : Nat := 4300

/-- The writer whose limit nobody has changed. -/
def usual : Writer := ⟨some usualDigits⟩

def writes (w : Writer) (n : Int) : Bool := w.digits.all fun most => n.natAbs < Nat.pow 10 most

/-- Why the integers cannot be written, if there is one that cannot. -/
def shortage? (w : Writer) (numbers : List Int) : Option Failure :=
  if numbers.all w.writes then none else w.digits.map .tooManyDigits

/-- What a fault comes out as. -/
def raise (w : Writer) (fault : Fault) : Failure :=
  (w.shortage? fault.numbers).getD (.fault fault)

def failure (w : Writer) : Failure → Failure
  | .fault fault => w.raise fault
  | failure => failure

def result (w : Writer) (result : Except Failure β) : Except Failure β :=
  result.mapError w.failure

theorem writes_ideal (n : Int) : ideal.writes n = true := rfl

/-- The first integer that has too many digits. -/
theorem not_writes_pow (most : Nat) : ¬ writes ⟨some most⟩ (Nat.pow 10 most) = true := by
  simp [writes]

/-- An integer can be written if a longer one can. -/
theorem writes_of_natAbs_le (h : w.writes k = true) (shorter : n.natAbs ≤ k.natAbs) :
    w.writes n = true := by
  cases limit : w.digits with
  | none => rw [writes, limit, Option.all_none]
  | some most =>
    rw [writes, limit, Option.all_some, decide_eq_true_eq] at h ⊢
    omega

/-- Nothing is short just if every integer can be written. -/
theorem shortage?_eq_none_iff : w.shortage? numbers = none ↔ ∀ n ∈ numbers, w.writes n = true := by
  rw [shortage?, ← List.all_eq_true]
  split
  · rename_i all
    exact iff_of_true rfl all
  · rename_i unwritten
    refine iff_of_false (fun unlimited => ?_) unwritten
    rw [Option.map_eq_none_iff] at unlimited
    simp [writes, unlimited] at unwritten

/-- One integer that is too long is enough. -/
theorem shortage?_of_unwritten (member : n ∈ numbers) (unwritten : ¬ w.writes n = true) :
    ∃ most, w.digits = some most ∧ w.shortage? numbers = some (.tooManyDigits most) := by
  have short : ¬ w.shortage? numbers = none :=
    fun ample => unwritten (shortage?_eq_none_iff.mp ample n member)
  cases limit : w.digits with
  | none => simp [shortage?, limit] at short
  | some most =>
    refine ⟨most, rfl, ?_⟩
    rw [shortage?, limit] at short ⊢
    split
    · rename_i all
      exact absurd (if_pos all) short
    · rfl

theorem raise_of_writes (h : ∀ n ∈ fault.numbers, w.writes n = true) :
    w.raise fault = .fault fault := by
  rw [raise, shortage?_eq_none_iff.mpr h, Option.getD_none]

/-- A fault with an integer that is too long gives way to the failure of writing it. -/
theorem raise_of_unwritten (member : n ∈ fault.numbers) (unwritten : ¬ w.writes n = true) :
    ∃ most, w.digits = some most ∧ w.raise fault = .tooManyDigits most := by
  obtain ⟨most, limit, short⟩ := shortage?_of_unwritten member unwritten
  exact ⟨most, limit, by rw [raise, short, Option.getD_some]⟩

/-- A fault comes out, unless it cannot be written. -/
theorem raise_cases (w : Writer) (fault : Fault) :
    w.raise fault = .fault fault ∨
      ∃ most, w.digits = some most ∧ w.raise fault = .tooManyDigits most := by
  by_cases written : ∀ n ∈ fault.numbers, w.writes n = true
  · exact .inl (raise_of_writes written)
  · simp only [Classical.not_forall] at written
    obtain ⟨n, member, unwritten⟩ := written
    exact .inr (raise_of_unwritten member unwritten)

@[simp]
theorem result_ok (b : β) : w.result (.ok b) = .ok b := rfl

theorem result_error_fault (w : Writer) (fault : Fault) :
    w.result (.error (.fault fault) : Except Failure β) = .error (w.raise fault) := rfl

/-- A writer only turns faults into other failures, so it keeps what is good and adds nothing to it.
-/
theorem result_eq_ok {x : Except Failure β} {b : β} : w.result x = .ok b ↔ x = .ok b := by
  cases x with
  | ok value => rw [result_ok]
  | error failure => exact iff_of_false nofun nofun

/-- The result is the fault if all of its integers can be written, and otherwise the failure to
write it. -/
structure Raises (w : Writer) (fault : Fault) (result : Except Failure β) : Prop where
  comes : (∀ n ∈ fault.numbers, w.writes n = true) → result = .error (.fault fault)
  stays : ∀ n ∈ fault.numbers, ¬ w.writes n = true →
    ∃ most, w.digits = some most ∧ result = .error (.tooManyDigits most)

theorem raises_of_eq (w : Writer) {x : Except Failure β} (refused : x = .error (.fault fault)) :
    w.Raises fault (w.result x) := by
  subst refused
  refine ⟨fun writes => ?_, fun n member unwritten => ?_⟩
  · rw [result_error_fault, raise_of_writes writes]
  · obtain ⟨most, limit, short⟩ := raise_of_unwritten member unwritten
    exact ⟨most, limit, by rw [result_error_fault, short]⟩

end Writer

end TripletGeometry
