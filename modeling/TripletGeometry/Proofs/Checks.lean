import TripletGeometry.Directory.Check

/-!
What the checks of a directory say about an entry that is not counted from the end. Each check
judges one condition on the entry: it passes if the condition holds, and otherwise refuses the
entry, naming its index, its two codes and the text of the whole element array. Checks made one
after the other judge the conjunction of their conditions.
-/
namespace TripletGeometry

section Results

variable {β γ : Type} {x : Except Failure β}

theorem bind_eq_ok {f : β → Except Failure γ} {c : γ} :
    (x >>= f) = .ok c ↔ ∃ b, x = .ok b ∧ f b = .ok c := by
  cases x <;> simp [bind, Except.bind]

theorem map_eq_ok {f : β → γ} {c : γ} : x.map f = .ok c ↔ ∃ b, x = .ok b ∧ f b = c := by
  cases x <;> simp [Except.map]

theorem exists_of_isOk (h : x.isOk = true) : ∃ b, x = .ok b := by
  cases x with
  | error failure => cases h
  | ok b => exact ⟨b, rfl⟩

theorem exists_of_any {p : β → Bool} (h : x.toOption.any p = true) :
    ∃ b, x = .ok b ∧ p b = true := by
  cases x with
  | error failure => cases h
  | ok b => exact ⟨b, rfl, h⟩

def failure? : Except Failure β → Option Failure
  | .error failure => some failure
  | .ok _ => none

theorem failure?_eq_some {failure : Failure} : failure? x = some failure ↔ x = .error failure := by
  cases x <;> simp [failure?]

end Results

namespace Directory

theorem entryAt_of_lt_count {d : Directory} {i : Nat} (h : i < d.count) :
    d.entryAt i = d.elements.get ⟨i, h⟩ := by
  simp only [entryAt, List.getD_eq_getElem?_getD]
  rw [List.getElem?_eq_getElem h]
  rfl

theorem entryAt_mem {d : Directory} {i : Nat} (h : i < d.count) : d.entryAt i ∈ d.elements := by
  rw [entryAt_of_lt_count h]
  exact List.get_mem _ _

/-- No code that is asked for is that of the sentinel. -/
theorem lt_count_of_code_mem {d : Directory} {i : Nat} {allowed : List Int}
    (coded : (d.entryAt i).code ∈ allowed) (proper : ElementCode.finish ∉ allowed) : i < d.count :=
  lt_count_of_code_ne_finish fun finish => proper (finish ▸ coded)

/-- Elements start inside the ordinates; the sentinel is what lies past them. -/
theorem offset_le_iff (d : Directory) (i : Nat) :
    (d.entryAt i).offset ≤ d.ordinateCount ↔ i < d.count := by
  constructor
  · intro inside
    rcases Nat.lt_or_ge i d.count with before | past
    · exact before
    · rw [entryAt_of_count_le past] at inside
      simp only [sentinel] at inside
      omega
  · intro h
    exact (d.inPlace.inside _ (entryAt_mem h)).2

/-- No offset is past that of the sentinel. -/
theorem offset_le_sentinel (d : Directory) (i : Nat) :
    (d.entryAt i).offset ≤ d.sentinel.offset := by
  rcases Nat.lt_or_ge i d.count with inside | past
  · exact Int.le_trans ((d.offset_le_iff i).mpr inside) (Int.le_add_one (Int.le_refl _))
  · exact Int.le_of_eq (congrArg Element.offset (entryAt_of_count_le past))

def contextAt (d : Directory) (i : Nat) : Context :=
  ⟨some i, some (d.entryAt i).code, some (d.entryAt i).interpretation, some d.info⟩

variable {β γ : Type}

/-- The result is a fault of the entry at the index. -/
def Refuses (d : Directory) (i : Nat) (result : Except Failure β) : Prop :=
  ∃ fault : Fault, result = .error (.fault fault) ∧ fault.context = d.contextAt i

theorem Refuses.ne_ok {d : Directory} {i : Nat} {result : Except Failure β}
    (h : d.Refuses i result) (b : β) : result ≠ .ok b := by
  obtain ⟨fault, refused, _⟩ := h
  rw [refused]
  nofun

theorem refuses_malformed (d : Directory) (i : Nat) (cause : Malformation) :
    d.Refuses i (d.malformed (β := β) i cause) := by
  simp only [malformed, entry_natCast, Except.bind]
  exact ⟨_, rfl, rfl⟩

theorem refuses_rejectElement (d : Directory) (i : Nat) (kind : String) (details : Option String) :
    d.Refuses i (d.rejectElement (β := β) i kind details) := by
  simp only [rejectElement, entry_natCast, Except.bind]
  exact ⟨_, rfl, rfl⟩

theorem refuses_rejectInterpretation (d : Directory) (i : Nat) (kind : String) :
    d.Refuses i (d.rejectInterpretation (β := β) i kind) := by
  simp only [rejectInterpretation, entry_natCast, Except.bind]
  exact ⟨_, rfl, rfl⟩

/-- The result is the value under the condition, and otherwise refuses the entry. -/
structure Judges (d : Directory) (i : Nat) (condition : Prop) (value : β)
    (result : Except Failure β) : Prop where
  passes : condition → result = .ok value
  refuses : ¬ condition → d.Refuses i result

namespace Judges

variable {d : Directory} {i : Nat} {condition further : Prop} {value b : β} {last : γ}
  {result : Except Failure β}

/-- A check that judges a condition passes just if the condition holds, with the value it is to
give. -/
theorem eq_ok_iff (h : d.Judges i condition value result) :
    result = .ok b ↔ condition ∧ b = value := by
  constructor
  · intro ok
    by_cases holds : condition
    · have same := h.passes holds
      rw [ok] at same
      exact ⟨holds, Except.ok.inj same⟩
    · exact absurd ok ((h.refuses holds).ne_ok b)
  · intro both
    obtain ⟨holds, rfl⟩ := both
    exact h.passes holds

theorem ofIte [Decidable condition] {refusal : Except Failure β} (h : d.Refuses i refusal) :
    d.Judges i condition value (if condition then .ok value else refusal) where
  passes holds := if_pos holds
  refuses fails := by
    rw [if_neg fails]
    exact h

theorem of_iff (same : condition ↔ further) (h : d.Judges i condition value result) :
    d.Judges i further value result where
  passes holds := h.passes (same.mpr holds)
  refuses fails := h.refuses fun holds => fails (same.mp holds)

/-- A second check counts only if the first has passed. -/
theorem andThen (first : d.Judges i condition value result) {next : β → Except Failure γ}
    (second : condition → d.Judges i further last (next value)) :
    d.Judges i (condition ∧ further) last (result >>= next) where
  passes holds := by
    rw [first.passes holds.1]
    exact (second holds.1).passes holds.2
  refuses fails := by
    by_cases holds : condition
    · rw [first.passes holds]
      exact (second holds).refuses fun rest => fails ⟨holds, rest⟩
    · obtain ⟨fault, refused, known⟩ := first.refuses holds
      rw [refused]
      exact ⟨fault, rfl, known⟩

/-- After the last check it is left to give what was checked. -/
theorem giving (h : d.Judges i condition value result) (given : γ) :
    d.Judges i condition given (result >>= fun _ => .ok given) where
  passes holds := by
    rw [h.passes holds]
    rfl
  refuses fails := by
    obtain ⟨fault, refused, known⟩ := h.refuses fails
    rw [refused]
    exact ⟨fault, rfl, known⟩

end Judges

theorem judges_checkBounds (d : Directory) (i : Nat) (kind : String) :
    d.Judges i (i < d.count) () (d.checkBounds i kind) := by
  have judged :
      d.Judges i (¬ d.ordinateCount < (d.entryAt i).offset) () (d.checkBounds i kind) := by
    simp only [checkBounds, entry_natCast, Except.bind]
    rw [← ite_not]
    exact .ofIte (d.refuses_malformed i _)
  exact judged.of_iff (by rw [← offset_le_iff]; omega)

theorem judges_checkCode (d : Directory) (i : Nat) (allowed : List Int) (kind : String) :
    d.Judges i ((d.entryAt i).code ∈ allowed) () (d.checkCode i allowed kind) := by
  simp only [checkCode, entry_natCast, Except.bind]
  exact .ofIte (d.refuses_rejectElement i kind none)

theorem judges_checkInterpretation (d : Directory) (i : Nat) (allowed : List Int)
    (kind : String) :
    d.Judges i ((d.entryAt i).interpretation ∈ allowed) ()
      (d.checkInterpretation i allowed kind) := by
  simp only [checkInterpretation, entry_natCast, Except.bind]
  exact .ofIte (d.refuses_rejectInterpretation i kind)

theorem judges_checkCluster (d : Directory) (i : Nat) (kind : String) :
    d.Judges i (1 < (d.entryAt i).interpretation) () (d.checkCluster i kind) := by
  simp only [checkCluster, entry_natCast, Except.bind]
  exact .ofIte (d.refuses_rejectInterpretation i kind)

theorem judges_checkCount_exactly (d : Directory) (i : Nat) (count : Int) (kind : String)
    (required : Int) :
    d.Judges i (count = required) () (d.checkCount i count kind none (some required)) where
  passes met := by simp [checkCount, Option.filter, met]
  refuses missed := by
    have differs : required ≠ count := fun same => missed same.symm
    simp only [checkCount, Option.filter, ne_eq, differs, not_false_eq_true, decide_true, if_true]
    exact d.refuses_malformed i _

theorem judges_checkCount_atLeast (d : Directory) (i : Nat) (count : Int) (kind : String)
    (required : Int) :
    d.Judges i (required ≤ count) () (d.checkCount i count kind (some required) none) where
  passes met := by
    have enough : ¬ count < required := by omega
    simp [checkCount, Option.filter, enough]
  refuses missed := by
    have few : count < required := by omega
    simp only [checkCount, Option.filter, few, decide_true, if_true]
    exact d.refuses_malformed i _

end Directory

end TripletGeometry
