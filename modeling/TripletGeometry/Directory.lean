import TripletGeometry.Element
import TripletGeometry.Failure
import TripletGeometry.Word

/-!
The directory of an encoding: its elements in order, the number of its ordinates, and the number
of ordinates in a coordinate. Only elements whose offsets are in place make a directory. Past the
last element stands a sentinel, whose offset is one past the ordinates; so the coordinates of an
element reach up to where those of the next entry begin.
-/
namespace TripletGeometry

/-- Offsets never decrease, lie inside the ordinates, and start a coordinate. -/
structure InPlace (elements : List Element) (ordinateCount dimension : Int) : Prop where
  ascending : elements.Pairwise fun a b => a.offset ≤ b.offset
  inside : ∀ e ∈ elements, 1 ≤ e.offset ∧ e.offset ≤ ordinateCount
  aligned : ∀ e ∈ elements, dimension ∣ e.offset - 1

structure Directory where
  elements : List Element
  ordinateCount : Int
  dimension : Int
  inPlace : InPlace elements ordinateCount dimension

namespace Directory

/-- Looks for the first element out of place, from the given index on and after an element at the
given offset. -/
def checkFrom (info : ElementInfo) (ordinateCount dimension : Int) (index : Nat) (previous : Int) :
    List Element → Except Failure Unit
  | [] => .ok ()
  | e :: rest =>
    let blame (cause : Malformation) : Except Failure Unit :=
      .error (.fault (.malformed cause ⟨some index, some e.code, some e.interpretation, some info⟩))
    if e.offset < previous then
      blame (if index = 0 then .offsetBelowStart e.offset else .offsetDecreases e.offset previous)
    else if ordinateCount < e.offset then blame (.offsetPastOrdinates e.offset ordinateCount)
    else if dimension = 0 then .error .zeroModulus
    else if ¬ dimension ∣ e.offset - 1 then blame (.offsetInsideCoordinate e.offset dimension)
    else checkFrom info ordinateCount dimension (index + 1) e.offset rest

/-- A directory that passes has its elements in place. The induction is on the elements that are
left; `previous` is the largest offset so far. -/
theorem inPlace_of_checkFrom {info : ElementInfo} {ordinateCount dimension : Int} {index : Nat}
    {previous : Int} {elements : List Element}
    (h : checkFrom info ordinateCount dimension index previous elements = .ok ()) :
    InPlace elements ordinateCount dimension ∨ previous < 1 := by
  suffices key : elements.Pairwise (fun a b => a.offset ≤ b.offset) ∧
      ∀ e ∈ elements, previous ≤ e.offset ∧ e.offset ≤ ordinateCount ∧ dimension ∣ e.offset - 1 by
    by_cases low : previous < 1
    · exact .inr low
    · exact .inl ⟨key.1, fun e he => ⟨by have := (key.2 e he).1; omega, (key.2 e he).2.1⟩,
        fun e he => (key.2 e he).2.2⟩
  induction elements generalizing index previous with
  | nil => simp
  | cons e rest ih =>
    simp only [checkFrom] at h
    split at h
    · cases h
    split at h
    · cases h
    split at h
    · cases h
    split at h
    · cases h
    · rename_i notBelow notPast _ aligned
      obtain ⟨ascending, placed⟩ := ih h
      refine ⟨List.pairwise_cons.mpr ⟨fun a ha => (placed a ha).1, ascending⟩, ?_⟩
      intro a ha
      rcases List.mem_cons.mp ha with rfl | ha
      · exact ⟨by omega, by omega, Classical.not_not.mp aligned⟩
      · have := (placed a ha).1
        exact ⟨by omega, (placed a ha).2⟩

theorem inPlace_of_check {info : ElementInfo} {ordinateCount dimension : Int}
    {elements : List Element} (h : checkFrom info ordinateCount dimension 0 1 elements = .ok ()) :
    InPlace elements ordinateCount dimension :=
  (inPlace_of_checkFrom h).resolve_right (by decide)

def ofElements (elements : List Element) (ordinateCount dimension : Int) :
    Except Failure Directory :=
  match h : checkFrom (.listed elements) ordinateCount dimension 0 1 elements with
  | .error failure => .error failure
  | .ok () => .ok ⟨elements, ordinateCount, dimension, inPlace_of_check h⟩

def info (d : Directory) : ElementInfo := .listed d.elements

def text (d : Directory) : String := d.info.shown

def count (d : Directory) : Nat := d.elements.length

def sentinel (d : Directory) : Element :=
  ⟨d.ordinateCount + 1, ElementCode.finish, Interpretation.finish⟩

def entryAt (d : Directory) (index : Nat) : Element := d.elements.getD index d.sentinel

/-- Entries may also be counted from the end, by negative words down to the first. -/
def entry (d : Directory) (index : Int) : Except Failure Element :=
  if 0 ≤ index then .ok (d.entryAt index.toNat)
  else if index < -wordLimit then .error .positionBeyondWord
  else if 0 ≤ index + d.count then .ok (d.entryAt (index + d.count).toNat)
  else .error .noSuchPosition

theorem entry_natCast (d : Directory) (i : Nat) : d.entry i = .ok (d.entryAt i) := by
  simp [entry]

theorem entryAt_of_count_le {d : Directory} {i : Nat} (h : d.count ≤ i) :
    d.entryAt i = d.sentinel := by
  simp only [entryAt, List.getD_eq_getElem?_getD]
  rw [List.getElem?_eq_none h]
  rfl

/-- Only the sentinel and elements with its code have it. -/
theorem lt_count_of_code_ne_finish {d : Directory} {i : Nat}
    (h : (d.entryAt i).code ≠ ElementCode.finish) : i < d.count := by
  rcases Nat.lt_or_ge i d.count with inside | past
  · exact inside
  · exact absurd (by rw [entryAt_of_count_le past]; rfl) h

end Directory

def coordinatePosition (offset dimension : Int) : Except Failure Int :=
  if dimension = 0 then .error .zeroDivisor else .ok ((offset - 1).fdiv dimension)

namespace Directory

def coordinateIndex (d : Directory) (index : Int) : Except Failure Int := do
  let e ← d.entry index
  coordinatePosition e.offset d.dimension

def coordinateRange (d : Directory) (index : Int) : Except Failure (Int × Int) := do
  let start ← d.coordinateIndex index
  let stop ← d.coordinateIndex (index + 1)
  return (start, stop)

def startAt (d : Directory) (index : Nat) : Int := ((d.entryAt index).offset - 1).fdiv d.dimension

end Directory

end TripletGeometry
