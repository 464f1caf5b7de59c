import Mathlib.Data.List.Basic
import TripletGeometry.Proofs.Checks
import TripletGeometry.Source

/-!
What the readers of one element give. Every shape and every ring holds the rows of the range of its
element, except for a ring that is given as a rectangle, which is expanded from its two corners.
The leaf of an element is settled by the element alone: its kind by the two codes, its rows by the
range.
-/
namespace TripletGeometry

/-! Ranges. -/

namespace Coordinates

variable {α : Type}

theorem rows_slice_natCast (c : Coordinates α) (start stop : Nat) :
    (c.slice start stop).rows = c.rows.extract start stop := by
  rw [rows_slice]
  have clamp : ∀ n : Nat, clampPosition n c.size = min n c.rows.length := by
    intro n
    have nonneg : ¬ (n : Int) < 0 := by omega
    simp [clampPosition, nonneg, size]
  rw [clamp, clamp]
  rcases Nat.le_total start c.rows.length with inside | past
  · rw [Nat.min_eq_left inside]
    apply List.take_eq_take_iff.mpr
    simp only [List.length_drop]
    omega
  · simp only [Nat.min_eq_right past, List.drop_length, List.take_nil, List.extract_eq_take_drop,
      List.drop_eq_nil_of_le past]

theorem coordinate_of_getElem? {c : Coordinates α} {i : Nat} {row : List α}
    (present : c.rows[i]? = some row) (word : IsWord i) : c.coordinate i = .ok row := by
  obtain ⟨inside, _⟩ := List.getElem?_eq_some_iff.mp present
  have checked : checkPosition i = .ok () := by rw [checkPosition, if_pos word]
  have found : c.rowPosition i = .ok i := by
    have bounds : 0 ≤ (i : Int) ∧ (i : Int) < c.size := by
      simp only [size]
      omega
    simp [rowPosition, position?, bounds]
  refine bind_eq_ok.mpr ⟨(), checked, bind_eq_ok.mpr ⟨i, found, ?_⟩⟩
  rw [List.getD_eq_getElem?_getD, present]
  rfl

end Coordinates

namespace Directory

variable {d : Directory}

theorem coordinateIndex_natCast (nonzero : d.dimension ≠ 0) (i : Nat) :
    d.coordinateIndex i = .ok (d.startAt i) := by
  simp only [coordinateIndex, entry_natCast, coordinatePosition, nonzero, if_false, bind,
    Except.bind, startAt]

theorem coordinateRange_natCast (nonzero : d.dimension ≠ 0) (i : Nat) :
    d.coordinateRange i = .ok (d.startAt i, d.startAt (i + 1)) := by
  have next : (i : Int) + 1 = (i + 1 : Nat) := by omega
  simp only [coordinateRange, next, coordinateIndex_natCast nonzero, bind, Except.bind, pure,
    Except.pure]

/-- Offsets count from one. -/
theorem one_le_offset (nonempty : 0 < d.count) (i : Nat) : 1 ≤ (d.entryAt i).offset := by
  rcases Nat.lt_or_ge i d.count with before | past
  · exact (d.inPlace.inside _ (entryAt_mem before)).1
  · have first := d.inPlace.inside _ (entryAt_mem nonempty)
    rw [entryAt_of_count_le past]
    simp only [sentinel]
    omega

theorem startAt_nonneg (positive : 0 < d.dimension) (nonempty : 0 < d.count) (i : Nat) :
    0 ≤ d.startAt i := by
  have start := one_le_offset nonempty i
  exact Int.fdiv_nonneg (by omega) (by omega)

end Directory

/-! Rectangles. -/

/-- The vertices are the five that two corners stand for, with `width` ordinates each; what a made
up vertex does not know of is missing. -/
def Expands {α : Type} [Ordinate α] (width : Nat) (corners vertices : List (List α)) : Prop :=
  ∃ (lowX lowY highX highY : α) (low high : List α),
    corners = [lowX :: lowY :: low, highX :: highY :: high] ∧
    vertices = [lowX :: lowY :: low, [highX, lowY], highX :: highY :: high, [lowX, highY],
      lowX :: lowY :: low].map (fitRow width)

namespace Ring

variable {α : Type} [Ordinate α]

theorem expands_of_rectangleRows {width : Nat} {low high : List α} {rows : List (List α)}
    (ok : rectangleRows low high = .ok rows) :
    Expands width [low, high] (rows.map (fitRow width)) := by
  unfold rectangleRows at ok
  split at ok
  · cases ok
    exact ⟨_, _, _, _, _, _, rfl, rfl⟩
  · cases ok

omit [Ordinate α] in
theorem exists_corners {corners : Coordinates α} (two : corners.size = 2) :
    ∃ low high, corners.rows = [low, high] ∧ corners.coordinate 0 = .ok low ∧
      corners.coordinate 1 = .ok high := by
  obtain ⟨low, high, pair⟩ := List.length_eq_two.mp two
  exact ⟨low, high, pair, Coordinates.coordinate_of_getElem? (by rw [pair]; rfl) (by decide),
    Coordinates.coordinate_of_getElem? (by rw [pair]; rfl) (by decide)⟩

/-- A rectangle is drawn from its two corners. -/
theorem expands_of_rectangle {cap : Int} {corners ring : Coordinates α} (two : corners.size = 2)
    (ok : rectangle cap corners = .ok ring) :
    Expands (min cap.toNat corners.width) corners.rows ring.rows := by
  obtain ⟨low, high, pair, lowAt, highAt⟩ := exists_corners two
  obtain ⟨_, same, ok⟩ := bind_eq_ok.mp ok
  rw [lowAt] at same
  cases same
  obtain ⟨_, same, ok⟩ := bind_eq_ok.mp ok
  rw [highAt] at same
  cases same
  obtain ⟨width, fits, ok⟩ := bind_eq_ok.mp ok
  obtain ⟨rows, made, ok⟩ := bind_eq_ok.mp ok
  cases ok
  unfold Coordinates.cappedWidth at fits
  split at fits
  · cases fits
    rw [pair]
    exact expands_of_rectangleRows made
  · cases fits

end Ring

/-! Readers. -/

namespace Source

variable {α : Type}

/-- The coordinates of an element are the rows between its start and the start of the next entry. -/
theorem rows_elementCoordinates {s : Source α} (positive : 0 < s.directory.dimension) {i : Nat}
    (inside : i < s.directory.count) :
    ∃ start stop : Nat, s.directory.coordinateRange i = .ok (↑start, ↑stop) ∧
      (s.elementCoordinates i).rows = s.coordinates.rows.extract start stop := by
  have nonempty : 0 < s.directory.count := by omega
  obtain ⟨start, first⟩ := Int.eq_ofNat_of_zero_le
    (Directory.startAt_nonneg positive nonempty i)
  obtain ⟨stop, last⟩ := Int.eq_ofNat_of_zero_le
    (Directory.startAt_nonneg positive nonempty (i + 1))
  refine ⟨start, stop, ?_, ?_⟩
  · rw [Directory.coordinateRange_natCast (by omega), first, last]
  · rw [elementCoordinates, first, last, Coordinates.rows_slice_natCast]

theorem width_elementCoordinates (s : Source α) (i : Nat) :
    (s.elementCoordinates i).width = s.coordinates.width :=
  Coordinates.width_slice _ _ _

/-- A point takes one coordinate. -/
theorem judges_pointAt (s : Source α) (i : Nat) :
    s.directory.Judges i
      (i < s.directory.count ∧ (s.directory.entryAt i).code ∈ [ElementCode.point] ∧
        (s.directory.entryAt i).interpretation ∈ [Interpretation.simple] ∧
        ((s.elementCoordinates i).size : Int) = 1)
      (.point (s.elementCoordinates i)) (s.pointAt i) :=
  (s.directory.judges_checkBounds i _).andThen fun _ =>
    (s.directory.judges_checkCode i _ _).andThen fun _ =>
      (s.directory.judges_checkInterpretation i _ _).andThen fun _ =>
        (s.directory.judges_checkCount_exactly i _ _ _).giving _

/-- Several points take as many coordinates as the interpretation says. -/
theorem judges_multiPointAt (s : Source α) (i : Nat) :
    s.directory.Judges i
      (i < s.directory.count ∧ (s.directory.entryAt i).code ∈ [ElementCode.point] ∧
        1 < (s.directory.entryAt i).interpretation ∧
        ((s.elementCoordinates i).size : Int) = (s.directory.entryAt i).interpretation)
      (.multiPoint (s.elementCoordinates i)) (s.multiPointAt i) :=
  (s.directory.judges_checkBounds i _).andThen fun _ =>
    (s.directory.judges_checkCode i _ _).andThen fun _ =>
      (s.directory.judges_checkCluster i _).andThen fun _ =>
        (s.directory.judges_checkCount_exactly i _ _ _).giving _

/-- A line takes two coordinates or more. -/
theorem judges_lineAt (s : Source α) (i : Nat) :
    s.directory.Judges i
      (i < s.directory.count ∧ (s.directory.entryAt i).code ∈ [ElementCode.line] ∧
        (s.directory.entryAt i).interpretation ∈ [Interpretation.simple] ∧
        2 ≤ ((s.elementCoordinates i).size : Int))
      (s.elementCoordinates i) (s.lineAt i) :=
  (s.directory.judges_checkBounds i _).andThen fun _ =>
    (s.directory.judges_checkCode i _ _).andThen fun _ =>
      (s.directory.judges_checkInterpretation i _ _).andThen fun _ =>
        (s.directory.judges_checkCount_atLeast i _ _ _).giving _

/-- What every ring is asked for before its coordinates are looked at. -/
theorem judges_checkRing (s : Source α) (i : Nat) (allowed : List Int) :
    s.directory.Judges i
      (i < s.directory.count ∧ (s.directory.entryAt i).code ∈ allowed ∧
        (s.directory.entryAt i).interpretation ∈ Interpretation.rings)
      () (s.checkRing i allowed) :=
  (s.directory.judges_checkBounds i _).andThen fun _ =>
    (s.directory.judges_checkCode i _ _).andThen fun _ =>
      s.directory.judges_checkInterpretation i _ _

variable [Ordinate α]

/-- A ring that was read is a rectangle between two corners, or closed with four rows at least. -/
theorem ringAt_ok {s : Source α} {i : Nat} {ring : Coordinates α} (ok : s.ringAt i = .ok ring) :
    (i < s.directory.count ∧ (s.directory.entryAt i).code ∈ ElementCode.rings) ∧
      (((s.directory.entryAt i).interpretation = Interpretation.rectangle ∧
          (s.elementCoordinates i).size = 2 ∧
          Ring.rectangle s.cap (s.elementCoordinates i) = .ok ring) ∨
        ((s.directory.entryAt i).interpretation = Interpretation.simple ∧
          4 ≤ (s.elementCoordinates i).size ∧
          s.directory.checkClosed i (s.elementCoordinates i) Kind.linearRing.name = .ok () ∧
          ring = s.elementCoordinates i)) := by
  obtain ⟨_, checked, ok⟩ := bind_eq_ok.mp ok
  obtain ⟨⟨inside, coded, interpreted⟩, _⟩ := (s.judges_checkRing i _).eq_ok_iff.mp checked
  refine ⟨⟨inside, coded⟩, ?_⟩
  split at ok
  · rename_i rectangular
    obtain ⟨_, counted, ok⟩ := bind_eq_ok.mp ok
    obtain ⟨two, _⟩ := (s.directory.judges_checkCount_exactly i _ _ _).eq_ok_iff.mp counted
    exact .inl ⟨rectangular, by omega, ok⟩
  · rename_i plain
    obtain ⟨_, counted, ok⟩ := bind_eq_ok.mp ok
    obtain ⟨four, _⟩ := (s.directory.judges_checkCount_atLeast i _ _ _).eq_ok_iff.mp counted
    obtain ⟨_, closed, ok⟩ := bind_eq_ok.mp ok
    cases ok
    refine .inr ⟨?_, by omega, closed, rfl⟩
    simpa [plain] using interpreted

theorem code_mem_shells_of_shellAt {s : Source α} {i : Nat} {ring : Coordinates α}
    (ok : s.shellAt i = .ok ring) : (s.directory.entryAt i).code ∈ ElementCode.shells := by
  obtain ⟨_, checked, _⟩ := bind_eq_ok.mp ok
  exact ((s.judges_checkRing i ElementCode.shells).eq_ok_iff.mp checked).1.2.1

/-- A shell is a ring whose code may start a polygon. -/
theorem ringAt_of_shellAt {s : Source α} {i : Nat} {ring : Coordinates α}
    (ok : s.shellAt i = .ok ring) : s.ringAt i = .ok ring := by
  obtain ⟨_, _, ok⟩ := bind_eq_ok.mp ok
  exact ok

theorem ringAt_of_holeAt {s : Source α} {i : Nat} {ring : Coordinates α}
    (ok : s.holeAt i = .ok (some ring)) : s.ringAt i = .ok ring := by
  simp only [holeAt] at ok
  split at ok
  · obtain ⟨read, ok, same⟩ := map_eq_ok.mp ok
    cases same
    exact ok
  split at ok
  · obtain ⟨read, first, ok⟩ := bind_eq_ok.mp ok
    obtain ⟨clockwise, _, ok⟩ := bind_eq_ok.mp ok
    cases clockwise with
    | true =>
      cases ok
      exact first
    | false => cases ok
  · cases ok

end Source

/-! Leaves. -/

/-- What an element is read as on its own: a point element is a single point or a cluster. -/
def Element.leafKind? (e : Element) : Option Kind :=
  if e.code = ElementCode.point then
    if e.interpretation = Interpretation.simple then some .point
    else if 1 < e.interpretation then some .multiPoint
    else none
  else if e.code = ElementCode.line then some .lineString
  else if e.code ∈ ElementCode.rings then some .linearRing
  else none

namespace Source

variable {α : Type} [Ordinate α]

/-- The rows that the leaf of an element has, out of the rows of its range: those rows, or the
rectangle between them. -/
def LeafRows (s : Source α) (e : Element) (range rows : List (List α)) : Prop :=
  if e.leafKind? = some .linearRing ∧ e.interpretation = Interpretation.rectangle then
    Expands (min s.cap.toNat s.coordinates.width) range rows
  else rows = range

/-- The leaf is that of the element at the index. -/
structure Carries (s : Source α) (i : Nat) (leaf : Leaf α) : Prop where
  inside : i < s.directory.count
  kind : (s.directory.entryAt i).leafKind? = some leaf.kind
  rows : ∃ start stop : Nat, s.directory.coordinateRange i = .ok (↑start, ↑stop) ∧
    s.LeafRows (s.directory.entryAt i) (s.coordinates.rows.extract start stop)
      leaf.coordinates.rows

variable {s : Source α} {i : Nat}

/-- The code of the sentinel makes no leaf, not even on an element. -/
theorem Carries.code_ne_finish {leaf : Leaf α} (h : s.Carries i leaf) :
    (s.directory.entryAt i).code ≠ ElementCode.finish := by
  intro finish
  have kind := h.kind
  rw [Element.leafKind?, finish, if_neg (by decide), if_neg (by decide), if_neg (by decide)] at kind
  cases kind

/-- Any leaf but a rectangle has the coordinates of the element as they are. -/
theorem carries_elementCoordinates (positive : 0 < s.directory.dimension)
    (inside : i < s.directory.count) {kind : Kind}
    (reads : (s.directory.entryAt i).leafKind? = some kind)
    (plain : kind = .linearRing →
      (s.directory.entryAt i).interpretation ≠ Interpretation.rectangle) :
    s.Carries i ⟨kind, s.elementCoordinates i⟩ := by
  obtain ⟨start, stop, range, rows⟩ := rows_elementCoordinates positive inside
  refine ⟨inside, reads, start, stop, range, ?_⟩
  have notRectangle : ¬ ((s.directory.entryAt i).leafKind? = some .linearRing ∧
      (s.directory.entryAt i).interpretation = Interpretation.rectangle) := by
    intro both
    obtain ⟨ringed, rectangular⟩ := both
    rw [reads, Option.some.injEq] at ringed
    exact plain ringed rectangular
  rw [LeafRows, if_neg notRectangle]
  exact rows

theorem carries_of_pointAt (positive : 0 < s.directory.dimension) {shape : Shape α}
    (ok : s.pointAt i = .ok shape) : ∃ leaf, shape.leaves = [leaf] ∧ s.Carries i leaf := by
  obtain ⟨⟨inside, coded, interpreted, _⟩, rfl⟩ := (s.judges_pointAt i).eq_ok_iff.mp ok
  refine ⟨_, rfl, carries_elementCoordinates positive inside ?_ nofun⟩
  rw [Element.leafKind?, if_pos (List.mem_singleton.mp coded),
    if_pos (List.mem_singleton.mp interpreted)]

theorem carries_of_multiPointAt (positive : 0 < s.directory.dimension) {shape : Shape α}
    (ok : s.multiPointAt i = .ok shape) : ∃ leaf, shape.leaves = [leaf] ∧ s.Carries i leaf := by
  obtain ⟨⟨inside, coded, several, _⟩, rfl⟩ := (s.judges_multiPointAt i).eq_ok_iff.mp ok
  refine ⟨_, rfl, carries_elementCoordinates positive inside ?_ nofun⟩
  have notSimple : ¬ (s.directory.entryAt i).interpretation = 1 := by omega
  rw [Element.leafKind?, if_pos (List.mem_singleton.mp coded), if_neg notSimple, if_pos several]

theorem carries_of_lineAt (positive : 0 < s.directory.dimension) {line : Coordinates α}
    (ok : s.lineAt i = .ok line) : s.Carries i ⟨.lineString, line⟩ := by
  obtain ⟨⟨inside, coded, _⟩, rfl⟩ := (s.judges_lineAt i).eq_ok_iff.mp ok
  refine carries_elementCoordinates positive inside ?_ nofun
  rw [Element.leafKind?, List.mem_singleton.mp coded, if_neg (by decide), if_pos rfl]

theorem leafKind?_of_mem_rings {e : Element} (h : e.code ∈ ElementCode.rings) :
    e.leafKind? = some .linearRing := by
  have notPoint : e.code ≠ ElementCode.point := by
    intro same
    rw [same] at h
    revert h
    decide
  have notLine : e.code ≠ ElementCode.line := by
    intro same
    rw [same] at h
    revert h
    decide
  rw [Element.leafKind?, if_neg notPoint, if_neg notLine, if_pos h]

/-- A ring carries the rows of its element, or the rectangle between the two of them. -/
theorem carries_of_ringAt (positive : 0 < s.directory.dimension) {ring : Coordinates α}
    (ok : s.ringAt i = .ok ring) : s.Carries i ⟨.linearRing, ring⟩ := by
  obtain ⟨⟨inside, coded⟩, ⟨rectangular, two, expanded⟩ | ⟨simple, _, _, rfl⟩⟩ := ringAt_ok ok
  · obtain ⟨start, stop, range, rows⟩ := rows_elementCoordinates positive inside
    refine ⟨inside, leafKind?_of_mem_rings coded, start, stop, range, ?_⟩
    rw [LeafRows, if_pos ⟨leafKind?_of_mem_rings coded, rectangular⟩, ← rows,
      ← width_elementCoordinates s i]
    exact Ring.expands_of_rectangle two expanded
  · refine carries_elementCoordinates positive inside (leafKind?_of_mem_rings coded) fun _ => ?_
    rw [simple]
    decide

end Source

end TripletGeometry
