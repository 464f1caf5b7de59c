import Mathlib.Order.Bounds.Defs
import TripletGeometry.Proofs.Rejection

/-!
Which elements make a directory. The elements are looked through once, and each is compared with the
one before it only. What has been looked through is in place, so its last offset is its greatest;
hence an element that can follow the last one can follow all of them, and the element that is blamed
is the first with which the elements up to there are no longer in place.
-/
namespace TripletGeometry

namespace Directory

variable {ordinateCount dimension : Int} {before elements rest : List Element} {e : Element}
  {cause : Malformation} {info : ElementInfo}

/-- The least offset that can come after these elements. -/
def leastNext (before : List Element) : Int := (before.getLast?.map Element.offset).getD 1

/-- What is wrong with an element that comes after these. It is too low, or not too low but past the
ordinates, or neither but inside a coordinate. -/
inductive Misplaced (ordinateCount dimension : Int) (before : List Element) (e : Element) :
    Malformation → Prop
  | belowStart (first : before = []) (low : e.offset < 1) :
      Misplaced ordinateCount dimension before e (.offsetBelowStart e.offset)
  | decreases {last : Element} (behind : before.getLast? = some last)
      (low : e.offset < last.offset) :
      Misplaced ordinateCount dimension before e (.offsetDecreases e.offset last.offset)
  | pastOrdinates (reached : leastNext before ≤ e.offset) (past : ordinateCount < e.offset) :
      Misplaced ordinateCount dimension before e (.offsetPastOrdinates e.offset ordinateCount)
  | insideCoordinate (reached : leastNext before ≤ e.offset) (within : e.offset ≤ ordinateCount)
      (apart : ¬ dimension ∣ e.offset - 1) :
      Misplaced ordinateCount dimension before e (.offsetInsideCoordinate e.offset dimension)

/-! Elements in place. -/

theorem leastNext_concat : leastNext (before ++ [e]) = e.offset := by
  rw [leastNext, List.getLast?_concat]
  rfl

theorem inPlace_nil : InPlace [] ordinateCount dimension :=
  ⟨List.Pairwise.nil, fun _ member => absurd member List.not_mem_nil,
    fun _ member => absurd member List.not_mem_nil⟩

theorem inPlace_of_sublist (placed : InPlace elements ordinateCount dimension)
    (part : before.Sublist elements) : InPlace before ordinateCount dimension :=
  ⟨placed.ascending.sublist part, fun e member => placed.inside e (part.subset member),
    fun e member => placed.aligned e (part.subset member)⟩

/-- As offsets never decrease the last one bounds all that come before it. -/
theorem leastNext_le_iff (placed : InPlace before ordinateCount dimension) {offset : Int} :
    leastNext before ≤ offset ↔ 1 ≤ offset ∧ ∀ a ∈ before, a.offset ≤ offset := by
  rcases List.eq_nil_or_concat before with rfl | ⟨init, last, rfl⟩
  · simp [leastNext]
  · rw [List.concat_eq_append] at placed ⊢
    rw [leastNext_concat]
    have member : last ∈ init ++ [last] := List.mem_concat_self
    obtain ⟨_, _, bounds⟩ := List.pairwise_append.mp placed.ascending
    constructor
    · intro reached
      have start := (placed.inside last member).1
      refine ⟨by omega, fun a found => ?_⟩
      rcases List.mem_append.mp found with earlier | found
      · exact Int.le_trans (bounds a earlier last (List.mem_singleton_self last)) reached
      · rw [List.mem_singleton.mp found]
        exact reached
    · intro reached
      exact reached.2 last member

/-- One more element is in place if it starts no earlier, inside the ordinates and at a coordinate.
-/
theorem inPlace_concat_iff (placed : InPlace before ordinateCount dimension) :
    InPlace (before ++ [e]) ordinateCount dimension ↔
      leastNext before ≤ e.offset ∧ e.offset ≤ ordinateCount ∧ dimension ∣ e.offset - 1 := by
  rw [leastNext_le_iff placed]
  constructor
  · intro together
    have member : e ∈ before ++ [e] := List.mem_concat_self
    obtain ⟨_, _, bounds⟩ := List.pairwise_append.mp together.ascending
    have above : ∀ a ∈ before, a.offset ≤ e.offset := fun a found =>
      bounds a found e (List.mem_singleton_self e)
    have here := together.inside e member
    exact ⟨⟨here.1, above⟩, here.2, together.aligned e member⟩
  · intro fits
    obtain ⟨⟨start, above⟩, within, aligned⟩ := fits
    refine ⟨List.pairwise_append.mpr ⟨placed.ascending, List.pairwise_singleton .., ?_⟩, ?_, ?_⟩
    · intro a found b last
      rw [List.mem_singleton.mp last]
      exact above a found
    · intro a found
      rcases List.mem_append.mp found with earlier | last
      · exact placed.inside a earlier
      · rw [List.mem_singleton.mp last]
        exact ⟨start, within⟩
    · intro a found
      rcases List.mem_append.mp found with earlier | last
      · exact placed.aligned a earlier
      · rw [List.mem_singleton.mp last]
        exact aligned

theorem Misplaced.not_inPlace (h : Misplaced ordinateCount dimension before e cause)
    (placed : InPlace before ordinateCount dimension) :
    ¬ InPlace (before ++ [e]) ordinateCount dimension := by
  rw [inPlace_concat_iff placed]
  intro fits
  obtain ⟨reached, within, aligned⟩ := fits
  cases h with
  | belowStart first low =>
    subst first
    exact absurd reached (Int.not_le.mpr low)
  | decreases behind low =>
    rw [leastNext, behind] at reached
    exact absurd reached (Int.not_le.mpr low)
  | pastOrdinates _ past => exact absurd within (Int.not_le.mpr past)
  | insideCoordinate _ _ apart => exact apart aligned

/-- An element below the least offset is misplaced, for a cause that depends on whether it is the
first. -/
theorem misplaced_of_lt_leastNext (low : e.offset < leastNext before) :
    Misplaced ordinateCount dimension before e
      (if before.length = 0 then .offsetBelowStart e.offset
        else .offsetDecreases e.offset (leastNext before)) := by
  rcases List.eq_nil_or_concat before with rfl | ⟨init, last, rfl⟩
  · exact .belowStart rfl low
  · rw [List.concat_eq_append] at low ⊢
    rw [leastNext_concat] at low ⊢
    rw [if_neg (by simp)]
    exact .decreases List.getLast?_concat low

/-! The check. -/

def blame (info : ElementInfo) (i : Nat) (e : Element) (cause : Malformation) : Fault :=
  .malformed cause ⟨some i, some e.code, some e.interpretation, some info⟩

/-- One step of the check blames the next element or goes on behind it. -/
theorem checkFrom_cons (info : ElementInfo) (e : Element) (rest : List Element)
    (nonzero : dimension ≠ 0) (placed : InPlace before ordinateCount dimension) :
    (∃ cause, Misplaced ordinateCount dimension before e cause ∧
      checkFrom info ordinateCount dimension before.length (leastNext before) (e :: rest) =
        .error (.fault (blame info before.length e cause))) ∨
    (InPlace (before ++ [e]) ordinateCount dimension ∧
      checkFrom info ordinateCount dimension before.length (leastNext before) (e :: rest) =
        checkFrom info ordinateCount dimension (before ++ [e]).length
          (leastNext (before ++ [e])) rest) := by
  simp only [checkFrom]
  by_cases low : e.offset < leastNext before
  · rw [if_pos low]
    exact .inl ⟨_, misplaced_of_lt_leastNext low, rfl⟩
  have reached := Int.not_lt.mp low
  by_cases past : ordinateCount < e.offset
  · rw [if_neg low, if_pos past]
    exact .inl ⟨_, .pastOrdinates reached past, rfl⟩
  have within := Int.not_lt.mp past
  by_cases aligned : dimension ∣ e.offset - 1
  · rw [if_neg low, if_neg past, if_neg nonzero, if_neg (not_not_intro aligned), leastNext_concat,
      List.length_append, List.length_singleton]
    exact .inr ⟨(inPlace_concat_iff placed).mpr ⟨reached, within, aligned⟩, rfl⟩
  · rw [if_neg low, if_neg past, if_neg nonzero, if_pos aligned]
    exact .inl ⟨_, .insideCoordinate reached within aligned, rfl⟩

/-- What comes after elements in place is looked through up to the first misplaced element. -/
theorem checkFrom_eq_error (info : ElementInfo) (nonzero : dimension ≠ 0)
    (placed : InPlace before ordinateCount dimension)
    (misplaced : ¬ InPlace (before ++ rest) ordinateCount dimension) :
    ∃ earlier e later cause, before ++ rest = earlier ++ e :: later ∧
      InPlace earlier ordinateCount dimension ∧
      Misplaced ordinateCount dimension earlier e cause ∧
      checkFrom info ordinateCount dimension before.length (leastNext before) rest =
        .error (.fault (blame info earlier.length e cause)) := by
  induction rest generalizing before with
  | nil =>
    rw [List.append_nil] at misplaced
    exact absurd placed misplaced
  | cons e rest ih =>
    rcases checkFrom_cons info e rest nonzero placed with
      ⟨cause, wrong, refused⟩ | ⟨next, same⟩
    · exact ⟨before, e, rest, cause, rfl, placed, wrong, refused⟩
    · rw [List.append_cons] at misplaced ⊢
      rw [same]
      exact ih next misplaced

/-- Making a directory fails because of this element, the first one with which the elements are not
in place. -/
structure RefusedAt (elements : List Element) (ordinateCount dimension : Int) (i : Nat)
    (e : Element) (cause : Malformation) : Prop where
  least : IsLeast {n | ¬ InPlace (elements.take (n + 1)) ordinateCount dimension} i
  found : elements[i]? = some e
  misplaced : Misplaced ordinateCount dimension (elements.take i) e cause
  refused : ofElements elements ordinateCount dimension =
    .error (.fault (blame (.listed elements) i e cause))

/-- Elements out of place have a first one that is. -/
theorem exists_refusedAt (nonzero : dimension ≠ 0)
    (misplaced : ¬ InPlace elements ordinateCount dimension) :
    ∃ i e cause, RefusedAt elements ordinateCount dimension i e cause := by
  obtain ⟨earlier, e, later, cause, same, placed, wrong, refused⟩ :=
    checkFrom_eq_error (.listed elements) nonzero inPlace_nil misplaced
  rw [List.nil_append] at same
  have front : elements.take earlier.length = earlier := by
    rw [same]
    exact List.take_left
  have upTo : elements.take (earlier.length + 1) = earlier ++ [e] := by
    rw [same, List.append_cons]
    exact List.take_left' List.length_append
  refine ⟨earlier.length, e, cause, ⟨?_, fun n broken => ?_⟩, ?_, ?_, ?_⟩
  · intro together
    rw [upTo] at together
    exact wrong.not_inPlace placed together
  · rcases Nat.lt_or_ge n earlier.length with shorter | reached
    · have part : (elements.take (n + 1)).Sublist (elements.take earlier.length) :=
        List.take_sublist_take_left shorter
      rw [front] at part
      exact absurd (inPlace_of_sublist placed part) broken
    · exact reached
  · rw [same, List.getElem?_append_right (Nat.le_refl _), Nat.sub_self]
    rfl
  · rwa [front]
  · exact ofElements_of_error refused

/-! Bounds. -/

/-- The fault of looking for an element where there is only the sentinel, which begins behind the
last ordinate. -/
def beyond (elements : List Element) (ordinateCount index : Int) (kind : String) : Fault :=
  .malformed (.nothingToRead (ordinateCount + 1) ordinateCount kind)
    ⟨some index, some ElementCode.finish, some Interpretation.finish, some (.listed elements)⟩

/-- The bounds are left with the sentinel, which is all that comes after the elements. -/
theorem checkBounds_of_le (d : Directory) {index : Int} (past : d.count ≤ index) (kind : String) :
    d.checkBounds index kind =
      .error (.fault (beyond d.elements d.ordinateCount index kind)) := by
  obtain ⟨i, rfl⟩ := Int.eq_ofNat_of_zero_le (Int.le_trans (Int.natCast_nonneg _) past)
  have after : d.ordinateCount < d.ordinateCount + 1 := Int.lt_add_one_iff.mpr (Int.le_refl _)
  simp only [checkBounds, malformed, entry_natCast, entryAt_of_count_le (Int.ofNat_le.mp past),
    Except.bind, sentinel, if_pos after]
  rfl

theorem checkBounds_of_lt (d : Directory) {index : Int} (fromStart : 0 ≤ index)
    (inside : index < d.count) (kind : String) : d.checkBounds index kind = .ok () := by
  obtain ⟨i, rfl⟩ := Int.eq_ofNat_of_zero_le fromStart
  exact (d.judges_checkBounds i kind).passes (Int.ofNat_lt.mp inside)

/-- Elements make a directory if and only if they are in place. Otherwise the first one that is not
is blamed. So whatever elements a directory has, just these are inside its bounds. A fault comes out
if all of its integers can be written; there is no other reason for one not to come out. -/
theorem ofElements_decides (w : Writer) (elements : List Element) (ordinateCount : Int)
    (positive : 1 ≤ dimension) :
    ((∃ d, w.result (ofElements elements ordinateCount dimension) = .ok d) ↔
      InPlace elements ordinateCount dimension) ∧
    (¬ InPlace elements ordinateCount dimension →
      ∃ i e cause, RefusedAt elements ordinateCount dimension i e cause ∧
        w.Raises (blame (.listed elements) i e cause)
          (w.result (ofElements elements ordinateCount dimension))) ∧
    ∀ d, w.result (ofElements elements ordinateCount dimension) = .ok d →
      (d.elements = elements ∧ d.ordinateCount = ordinateCount ∧ d.dimension = dimension) ∧
      ∀ index : Int, 0 ≤ index → ∀ kind,
        (w.result (d.checkBounds index kind) = .ok () ↔ index < elements.length) ∧
        (elements.length ≤ index → w.Raises (beyond elements ordinateCount index kind)
          (w.result (d.checkBounds index kind))) := by
  have nonzero : dimension ≠ 0 := by omega
  refine ⟨⟨fun made => ?_, fun placed => ?_⟩, fun misplaced => ?_, fun d made => ?_⟩
  · obtain ⟨d, made⟩ := made
    obtain ⟨rfl, rfl, rfl⟩ := ofElements_ok (Writer.result_eq_ok.mp made)
    exact d.inPlace
  · exact ⟨_, Writer.result_eq_ok.mpr (ofElements_of_inPlace nonzero placed)⟩
  · obtain ⟨i, e, cause, refused⟩ := exists_refusedAt nonzero misplaced
    exact ⟨i, e, cause, refused, w.raises_of_eq refused.refused⟩
  · obtain ⟨rfl, rfl, rfl⟩ := ofElements_ok (Writer.result_eq_ok.mp made)
    refine ⟨⟨rfl, rfl, rfl⟩, fun index fromStart kind => ⟨?_, fun past => ?_⟩⟩
    · rw [Writer.result_eq_ok]
      constructor
      · intro passed
        refine Int.not_le.mp fun past => ?_
        rw [checkBounds_of_le d past] at passed
        cases passed
      · exact fun inside => d.checkBounds_of_lt fromStart inside kind
    · exact w.raises_of_eq (checkBounds_of_le d past kind)

/-- Two elements that share an offset, and one behind them. -/
def abreast : List Element := [⟨1, 2, 1⟩, ⟨1, 0, 0⟩, ⟨5, -1, 9⟩]

/-- The third element goes back, but not behind the first. The last one is past the ordinates. -/
def goingBack : List Element := [⟨1, 2, 1⟩, ⟨5, 2, 1⟩, ⟨3, -7, 4⟩, ⟨11, 1, 1⟩]

/-- An offset may come again but must not go back. -/
theorem ofElements_decides_goingBack :
    (∃ d, Writer.ideal.result (ofElements abreast 8 2) = .ok d ∧
      Writer.ideal.result (d.checkBounds 2 "Point") = .ok () ∧
      Rejected (Writer.ideal.result (d.checkBounds 3 "Point"))) ∧
    ∃ i e cause, RefusedAt goingBack 8 2 i e cause ∧
      i = 2 ∧ e = ⟨3, -7, 4⟩ ∧ cause = .offsetDecreases 3 5 := by
  constructor
  · have placed : InPlace abreast 8 2 := ⟨by decide, by decide, by decide⟩
    obtain ⟨accepted, _, bounds⟩ :=
      ofElements_decides .ideal abreast 8 (show (1 : Int) ≤ 2 by decide)
    obtain ⟨d, made⟩ := accepted.mpr placed
    have checked := (bounds d made).2
    have raises := (checked 3 (by decide) "Point").2 (by decide)
    exact ⟨d, made, (checked 2 (by decide) _).1.mpr (by decide), _,
      raises.comes fun n _ => Writer.writes_ideal n⟩
  · have misplaced : ¬ InPlace goingBack 8 2 := fun placed => absurd placed.ascending (by decide)
    obtain ⟨_, refusal, _⟩ :=
      ofElements_decides .ideal goingBack 8 (show (1 : Int) ≤ 2 by decide)
    obtain ⟨i, e, cause, refused, _⟩ := refusal misplaced
    have third : ofElements goingBack 8 2 =
        .error (.fault (blame (.listed goingBack) 2 ⟨3, -7, 4⟩ (.offsetDecreases 3 5))) :=
      ofElements_of_error rfl
    have same := refused.refused.symm.trans third
    simp only [blame, Except.error.injEq, Failure.fault.injEq, Fault.malformed.injEq,
      Context.mk.injEq, Option.some.injEq] at same
    obtain ⟨blamed, index, _⟩ := same
    have here : i = 2 := Int.ofNat_inj.mp index
    have found : some e = some ⟨3, -7, 4⟩ := by
      rw [← refused.found, here]
      rfl
    exact ⟨i, e, cause, refused, here, Option.some.inj found, blamed⟩

/-- An element far behind the ordinates, whose offset is too long to be written, so that it is not
blamed. -/
theorem not_rejected_far {most : Nat} (several : 1 ≤ most) :
    ¬ InPlace [⟨Nat.pow 10 most, 1, 1⟩] 2 2 ∧
      ¬ Rejected (Writer.result ⟨some most⟩ (ofElements [⟨Nat.pow 10 most, 1, 1⟩] 2 2)) := by
  have misplaced : ¬ InPlace [⟨Nat.pow 10 most, 1, 1⟩] 2 2 := by
    intro placed
    have inside := (placed.inside _ (List.mem_singleton_self _)).2
    have longer : Nat.pow 10 1 ≤ Nat.pow 10 most := Nat.pow_le_pow_right (by decide) several
    exact absurd (Nat.le_trans longer (Int.ofNat_le.mp inside)) (by decide)
  obtain ⟨i, e, cause, refused⟩ := exists_refusedAt (show (2 : Int) ≠ 0 by decide) misplaced
  have listed : (Nat.pow 10 most : Int) ∈
      (blame (.listed [⟨Nat.pow 10 most, 1, 1⟩]) i e cause).numbers :=
    List.mem_append_right _ (List.mem_append_right _ (List.mem_cons_self ..))
  obtain ⟨_, _, short⟩ := (Writer.raises_of_eq ⟨some most⟩ refused.refused).stays _ listed
    (Writer.not_writes_pow most)
  refine ⟨misplaced, ?_⟩
  rw [short, rejected_error_iff]
  rintro ⟨_, same⟩
  cases same

/-- As many ordinates as can be written. The sentinel begins one behind them, which cannot be, so
that what is wrong with looking for an element does not come out. -/
theorem not_rejected_of_longest (most : Nat) :
    ∃ d, Writer.result ⟨some most⟩ (ofElements [] (Nat.pow 10 most - 1) 1) = .ok d ∧
      (d.count : Int) ≤ 0 ∧ ¬ Rejected (Writer.result ⟨some most⟩ (d.checkBounds 0 "Point")) := by
  have made : ofElements [] (Nat.pow 10 most - 1) 1 =
      .ok ⟨[], Nat.pow 10 most - 1, 1, inPlace_nil⟩ := ofElements_of_inPlace (by decide) inPlace_nil
  have unwritten : ¬ Writer.writes ⟨some most⟩ (Nat.pow 10 most - 1 + 1) = true := by
    rw [Int.sub_add_cancel]
    exact Writer.not_writes_pow most
  refine ⟨_, Writer.result_eq_ok.mpr made, Int.le_refl 0, ?_⟩
  have past : (0 : Int) ≤ 0 := Int.le_refl 0
  have raises := Writer.raises_of_eq ⟨some most⟩
    (checkBounds_of_le ⟨[], Nat.pow 10 most - 1, 1, inPlace_nil⟩ past "Point")
  obtain ⟨_, _, short⟩ := raises.stays _ (List.mem_cons_self ..) unwritten
  rw [short, rejected_error_iff]
  rintro ⟨_, same⟩
  cases same

/-- The faults of elements that are out of place do not come out where nobody has changed the limit,
nor does that of looking behind all of them. -/
theorem not_rejected_beyond_usualDigits :
    (¬ InPlace [⟨Nat.pow 10 Writer.usualDigits, 1, 1⟩] 2 2 ∧
      ¬ Rejected
        (Writer.usual.result (ofElements [⟨Nat.pow 10 Writer.usualDigits, 1, 1⟩] 2 2))) ∧
    ∃ d, Writer.usual.result (ofElements [] (Nat.pow 10 Writer.usualDigits - 1) 1) = .ok d ∧
      (d.count : Int) ≤ 0 ∧ ¬ Rejected (Writer.usual.result (d.checkBounds 0 "Point")) :=
  ⟨not_rejected_far (by decide), not_rejected_of_longest Writer.usualDigits⟩

end Directory

end TripletGeometry
