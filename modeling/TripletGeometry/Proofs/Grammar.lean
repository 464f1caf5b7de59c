import TripletGeometry.Proofs.Conservation
import TripletGeometry.Proofs.Decisions

/-!
The grammar of collections. Each element has to be sound on its own, and a hole has to follow a
ring; nothing else is asked. The readers of single elements judge exactly this: what they read is
sound, and what they refuse is not.
-/
namespace TripletGeometry

namespace Directory

variable {β γ : Type} {d : Directory} {i : Nat} {condition further : Prop} {value : β}
  {result : Except Failure β}

/-- A failure blames the same entry whatever there was to be read. -/
theorem Refuses.error {failure : Failure} (h : d.Refuses i (.error failure : Except Failure β)) :
    d.Refuses i (.error failure : Except Failure γ) := by
  obtain ⟨fault, refused, known⟩ := h
  cases refused
  exact ⟨fault, rfl, known⟩

namespace Judges

/-- Where the condition fails there is no value to be given. -/
theorem of_refuses (fails : ¬ condition) (h : d.Refuses i result) (value : β) :
    d.Judges i condition value result where
  passes holds := absurd holds fails
  refuses _ := h

theorem map (h : d.Judges i condition value result) (f : β → γ) :
    d.Judges i condition (f value) (result.map f) where
  passes holds := by
    rw [h.passes holds]
    rfl
  refuses fails := by
    obtain ⟨fault, refused, known⟩ := h.refuses fails
    rw [refused]
    exact ⟨fault, rfl, known⟩

theorem holds_of_ok (h : d.Judges i condition value result) {b : β} (ok : result = .ok b) :
    condition := (h.eq_ok_iff.mp ok).1

/-- A check that fails says that its condition does not hold, and blames the element. -/
theorem of_error (h : d.Judges i condition value result) {failure : Failure}
    (failed : result = .error failure) :
    ¬ condition ∧ d.Refuses i (.error failure : Except Failure γ) := by
  have fails : ¬ condition := by
    intro holds
    rw [h.passes holds] at failed
    cases failed
  have refuses := h.refuses fails
  rw [failed] at refuses
  exact ⟨fails, refuses.error⟩

end Judges

end Directory

namespace Source

variable {α : Type} [Ordinate α]

/-! The grammar. -/

/-- The element is a point or a cluster of as many points as it says, a line, or a ring. -/
def Sound (s : Source α) (i : Nat) : Prop :=
  let e := s.directory.entryAt i
  let c := s.elementCoordinates i
  (e.code = ElementCode.point ∧
      ((e.interpretation = Interpretation.simple ∧ c.size = 1) ∨
        (1 < e.interpretation ∧ (c.size : Int) = e.interpretation))) ∨
    (e.code = ElementCode.line ∧ e.interpretation = Interpretation.simple ∧ 2 ≤ c.size) ∨
    (e.code ∈ ElementCode.rings ∧ s.ValidRing i)

def FollowsRing (s : Source α) (i : Nat) : Prop :=
  ∃ j, i = j + 1 ∧ (s.directory.entryAt j).code ∈ ElementCode.rings

/-- The element is a ring that can be a hole: it says so, or it does not say and winds clockwise. -/
def Inner (s : Source α) (i : Nat) : Prop :=
  (s.directory.entryAt i).code = ElementCode.hole ∨
    ((s.directory.entryAt i).code = ElementCode.ring ∧
      ∃ ring, s.ringAt i = .ok ring ∧ Ring.isClockwise ring = .ok true)

/-- The element belongs to the polygon before it. -/
def Joins (s : Source α) (i : Nat) : Prop := s.FollowsRing i ∧ s.Inner i

/-- The element is sound by itself, and if it is a hole then a ring stands before it. -/
def Fits (s : Source α) (i : Nat) : Prop :=
  s.Sound i ∧ ((s.directory.entryAt i).code = ElementCode.hole → s.FollowsRing i)

omit [Ordinate α] in
theorem not_mem_rings {s : Source α} {i : Nat}
    (other : (s.directory.entryAt i).code ∈ [ElementCode.point, ElementCode.line]) :
    (s.directory.entryAt i).code ∉ ElementCode.rings := by
  rcases List.mem_cons.mp other with point | line
  · rw [point]
    decide
  · rw [List.mem_singleton.mp line]
    decide

/-! Elements. -/

section Elements

variable {s : Source α} {i : Nat}

theorem fits_iff_of_point (point : (s.directory.entryAt i).code = ElementCode.point) :
    s.Fits i ↔
      ((s.directory.entryAt i).interpretation = Interpretation.simple ∧
          (s.elementCoordinates i).size = 1) ∨
        (1 < (s.directory.entryAt i).interpretation ∧
          ((s.elementCoordinates i).size : Int) = (s.directory.entryAt i).interpretation) := by
  constructor
  · rintro ⟨⟨_, counted⟩ | ⟨line, _⟩ | ⟨ringed, _⟩, _⟩
    · exact counted
    · rw [point] at line
      cases line
    · exact absurd ringed (not_mem_rings (by rw [point]; decide))
  · intro counted
    refine ⟨.inl ⟨point, counted⟩, fun hole => ?_⟩
    rw [point] at hole
    cases hole

theorem fits_iff_of_line (line : (s.directory.entryAt i).code = ElementCode.line) :
    s.Fits i ↔ (s.directory.entryAt i).interpretation = Interpretation.simple ∧
      2 ≤ (s.elementCoordinates i).size := by
  constructor
  · rintro ⟨⟨point, _⟩ | ⟨_, counted⟩ | ⟨ringed, _⟩, _⟩
    · rw [line] at point
      cases point
    · exact counted
    · exact absurd ringed (not_mem_rings (by rw [line]; decide))
  · intro counted
    refine ⟨.inr (.inl ⟨line, counted⟩), fun hole => ?_⟩
    rw [line] at hole
    cases hole

/-- A ring fits if it is valid, and as a hole only behind a ring. -/
theorem fits_iff_of_ring (coded : (s.directory.entryAt i).code ∈ ElementCode.rings) :
    s.Fits i ↔ s.ValidRing i ∧
      ((s.directory.entryAt i).code = ElementCode.hole → s.FollowsRing i) := by
  refine and_congr_left fun _ => ⟨?_, fun valid => .inr (.inr ⟨coded, valid⟩)⟩
  rintro (⟨point, _⟩ | ⟨line, _⟩ | ⟨_, valid⟩)
  · exact absurd coded (not_mem_rings (by rw [point]; decide))
  · exact absurd coded (not_mem_rings (by rw [line]; decide))
  · exact valid

variable (planar : 2 ≤ s.coordinates.width)
include planar

theorem two_le_width_of_ringAt (capped : 2 ≤ s.cap) {ring : Coordinates α}
    (ok : s.ringAt i = .ok ring) : 2 ≤ ring.width := by
  have wide : 2 ≤ (s.elementCoordinates i).width := by rwa [width_elementCoordinates]
  obtain ⟨_, ⟨_, _, made⟩ | ⟨_, _, _, rfl⟩⟩ := ringAt_ok ok
  · rw [Ring.width_of_rectangle made]
    omega
  · exact wide

/-- A ring is read just if it is valid. -/
theorem judges_ringAt (capped : 2 ≤ s.cap) (inside : i < s.directory.count)
    (coded : (s.directory.entryAt i).code ∈ ElementCode.rings) :
    ∃ ring, s.directory.Judges i (s.ValidRing i) ring (s.ringAt i) := by
  by_cases valid : s.ValidRing i
  · obtain ⟨ring, ok⟩ := exists_ringAt_of_validRing planar (by omega) inside coded valid
    exact ⟨ring, fun _ => ok, fun invalid => absurd valid invalid⟩
  refine ⟨s.elementCoordinates i, .of_refuses valid ?_ _⟩
  by_cases interpreted : (s.directory.entryAt i).interpretation ∈ Interpretation.rings
  · exact (malforms_ringAt planar inside coded interpreted valid).refuses
  · obtain ⟨fault, refused, known⟩ :=
      (s.judges_checkRing i ElementCode.rings).refuses fun all => interpreted all.2.2
    exact ⟨fault, by rw [ringAt, refused]; rfl, known⟩

/-- What is asked of a shell before it is read as a ring is asked of any ring. -/
theorem judges_shellAt (capped : 2 ≤ s.cap) (inside : i < s.directory.count)
    (starts : (s.directory.entryAt i).code ∈ ElementCode.shells) :
    ∃ ring, s.directory.Judges i (s.ValidRing i) ring (s.shellAt i) := by
  obtain ⟨ring, judged⟩ := judges_ringAt planar capped inside
    (ElementCode.mem_rings_of_mem_shells starts)
  refine ⟨ring, (((s.judges_checkRing i ElementCode.shells).andThen fun _ => judged).of_iff ?_)⟩
  refine ⟨fun both => both.2, fun valid => ⟨⟨inside, starts, ?_⟩, valid⟩⟩
  rcases valid with ⟨simple, _⟩ | ⟨rectangular, _⟩
  · rw [simple]
    decide
  · rw [rectangular]
    decide

/-- Where there is room for a ring only the ring itself can keep an element from being told to be a
hole or not. -/
theorem ringAt_of_holeAt_error (capped : 2 ≤ s.cap) {failure : Failure}
    (failed : s.holeAt i = .error failure) :
    (s.directory.entryAt i).code ∈ ElementCode.rings ∧ s.ringAt i = .error failure := by
  cases read : s.ringAt i with
  | error found =>
    simp only [holeAt, read] at failed
    split at failed
    · rename_i hole
      cases failed
      exact ⟨by rw [hole]; decide, rfl⟩
    split at failed
    · rename_i ring
      cases failed
      exact ⟨by rw [ring]; decide, rfl⟩
    · cases failed
  | ok ring =>
    obtain ⟨clockwise, winds⟩ := Ring.exists_isClockwise (two_le_width_of_ringAt planar capped read)
    simp only [holeAt, read] at failed
    split at failed
    · cases failed
    split at failed
    · change (Ring.isClockwise ring >>= _) = _ at failed
      rw [winds] at failed
      cases failed
    · cases failed

/-- Looking for a hole fails only at an element that does not fit. -/
theorem of_holeAt_error (capped : 2 ≤ s.cap) {failure : Failure}
    (failed : s.holeAt i = .error failure) :
    i < s.directory.count ∧ ¬ s.Fits i ∧
      s.directory.Refuses i (.error failure : Except Failure Unit) := by
  obtain ⟨coded, read⟩ := ringAt_of_holeAt_error planar capped failed
  have inside := Directory.lt_count_of_code_mem coded (by decide)
  obtain ⟨ring, judged⟩ := judges_ringAt planar capped inside coded
  obtain ⟨invalid, refuses⟩ := judged.of_error read
  exact ⟨inside, fun fits => invalid ((fits_iff_of_ring coded).mp fits).1, refuses⟩

omit planar

/-- The scan of holes goes on as long as elements can be holes. -/
theorem inner_iff_of_holeAt {hole : Option (Coordinates α)} (ok : s.holeAt i = .ok hole) :
    s.Inner i ↔ hole.isSome = true := by
  simp only [holeAt] at ok
  split at ok
  · rename_i coded
    obtain ⟨ring, _, rfl⟩ := map_eq_ok.mp ok
    exact iff_of_true (.inl coded) rfl
  rename_i other
  split at ok
  · rename_i coded
    obtain ⟨ring, read, ok⟩ := bind_eq_ok.mp ok
    obtain ⟨clockwise, winds, ok⟩ := bind_eq_ok.mp ok
    cases clockwise with
    | true =>
      cases ok
      exact iff_of_true (.inr ⟨coded, ring, read, winds⟩) rfl
    | false =>
      cases ok
      refine iff_of_false ?_ Bool.false_ne_true
      rintro (hole | ⟨_, same, read', winds'⟩)
      · exact other hole
      · rw [read] at read'
        cases read'
        rw [winds] at winds'
        cases winds'
  · rename_i plain
    cases ok
    refine iff_of_false ?_ Bool.false_ne_true
    rintro (hole | ⟨ring, _⟩)
    · exact other hole
    · exact plain ring

/-- Where no member is to be joined the reader of members alone judges the grammar. -/
theorem judges_loneMemberAt (inside : i < s.directory.count)
    (alone : (s.directory.entryAt i).code ∉ ElementCode.shells) (starts : ¬ s.Joins i) :
    ∃ shape, s.directory.Judges i (s.Fits i) shape (s.loneMemberAt i) := by
  simp only [loneMemberAt]
  by_cases point : (s.directory.entryAt i).code = ElementCode.point
  · have fits := fits_iff_of_point point
    rw [if_pos point]
    by_cases simple : (s.directory.entryAt i).interpretation = Interpretation.simple
    · rw [if_pos simple]
      refine ⟨_, (s.judges_pointAt i).of_iff ?_⟩
      simp only [fits, List.mem_singleton]
      constructor
      · rintro ⟨_, _, _, one⟩
        exact .inl ⟨simple, by omega⟩
      · rintro (⟨_, one⟩ | ⟨more, _⟩)
        · exact ⟨inside, point, simple, by omega⟩
        · rw [simple] at more
          exact absurd more (by decide)
    rw [if_neg simple]
    by_cases cluster : 1 < (s.directory.entryAt i).interpretation
    · rw [if_pos cluster]
      refine ⟨_, (s.judges_multiPointAt i).of_iff ?_⟩
      simp only [fits, List.mem_singleton]
      constructor
      · rintro ⟨_, _, counted⟩
        exact .inr counted
      · rintro (⟨same, _⟩ | counted)
        · exact absurd same simple
        · exact ⟨inside, point, counted⟩
    · rw [if_neg cluster]
      refine ⟨.point (s.elementCoordinates i), .of_refuses ?_
        (s.directory.refuses_rejectInterpretation i _) _⟩
      rw [fits]
      rintro (⟨same, _⟩ | ⟨more, _⟩)
      · exact simple same
      · exact cluster more
  rw [if_neg point]
  by_cases line : (s.directory.entryAt i).code = ElementCode.line
  · rw [if_pos line]
    refine ⟨_, ((s.judges_lineAt i).map Shape.lineString).of_iff ?_⟩
    simp only [fits_iff_of_line line, List.mem_singleton]
    constructor
    · rintro ⟨_, _, simple, two⟩
      exact ⟨simple, by omega⟩
    · rintro ⟨simple, two⟩
      exact ⟨inside, line, simple, by omega⟩
  rw [if_neg line]
  by_cases hole : (s.directory.entryAt i).code = ElementCode.hole
  · rw [if_pos hole]
    refine ⟨.point (s.elementCoordinates i), .of_refuses ?_
      (s.directory.refuses_rejectElement i _ _) _⟩
    rintro ⟨_, follows⟩
    exact starts ⟨follows hole, .inl hole⟩
  · rw [if_neg hole]
    refine ⟨.point (s.elementCoordinates i), .of_refuses ?_
      (s.directory.refuses_rejectElement i _ _) _⟩
    rintro ⟨⟨same, _⟩ | ⟨same, _⟩ | ⟨ringed, _⟩, _⟩
    · exact point same
    · exact line same
    · simp only [List.mem_cons, List.not_mem_nil, or_false] at alone ringed
      rcases ringed with ring | shell | same
      · exact alone (.inl ring)
      · exact alone (.inr shell)
      · exact hole same

end Elements

end Source

end TripletGeometry
