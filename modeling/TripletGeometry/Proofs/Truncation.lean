import TripletGeometry.Proofs.Concurrence
import TripletGeometry.Proofs.Decisions

/-!
Coordinates cut to fewer ordinates. As long as x and y are kept, no check and no decision of a
reader looks at what is cut off: an element of a truncated source is read as it is of the whole
source, and what it gives is truncated in turn.
-/
namespace TripletGeometry

section Results

variable {β γ δ : Type} {x : Except Failure β}

theorem map_bind_eq {f : β → Except Failure γ} {g : γ → δ} :
    (x >>= f).map g = x >>= fun b => (f b).map g := by
  cases x <;> rfl

theorem bind_map_eq {f : β → γ} {g : γ → Except Failure δ} :
    x.map f >>= g = x >>= fun b => g (f b) := by
  cases x <;> rfl

/-- Results that are equal after a change have the same failure, or values that the change makes
equal. -/
theorem map_eq_map {y : Except Failure β} {f : β → γ} (same : x.map f = y.map f) :
    (∃ failure, x = .error failure ∧ y = .error failure) ∨
      ∃ a b, x = .ok a ∧ y = .ok b ∧ f a = f b := by
  cases x with
  | error failure =>
    cases y with
    | error other =>
      cases same
      exact .inl ⟨failure, rfl, rfl⟩
    | ok b => cases same
  | ok a =>
    cases y with
    | error other => cases same
    | ok b => exact .inr ⟨a, b, rfl, rfl, Except.ok.inj same⟩

/-- Of a refusal there is nothing to be changed. -/
theorem map_of_refuses {d : Directory} {i : Nat} (h : d.Refuses i x) (f : β → β) :
    x.map f = x := by
  obtain ⟨fault, refused, _⟩ := h
  rw [refused]
  rfl

end Results

variable {α : Type} {w : Nat}

/-! Rows. -/

section Rows

variable [Ordinate α]

theorem getElem?_fitRow {width k : Nat} (within : k < width) (row : List α) :
    (fitRow width row)[k]? = some (row[k]?.getD Ordinate.missing) := by
  rw [fitRow, List.getElem?_take_of_lt within]
  rcases Nat.lt_or_ge k row.length with given | absent
  · rw [List.getElem?_append_left given, List.getElem?_eq_getElem given, Option.getD_some]
  · have padded : k - row.length < width := by omega
    rw [List.getElem?_append_right absent, List.getElem?_replicate_of_lt padded,
      List.getElem?_eq_none absent, Option.getD_none]

/-- A row that is fitted and then cut is fitted to less. -/
theorem take_fitRow {width : Nat} (le : w ≤ width) (row : List α) :
    (fitRow width row).take w = fitRow w row := by
  rw [fitRow, List.take_take, Nat.min_eq_left le, fitRow, List.take_append, List.take_append,
    List.take_replicate, List.take_replicate]
  congr 2
  omega

theorem fitRow_take {size : Nat} (le : w ≤ size) (row : List α) :
    fitRow w (row.take size) = fitRow w row := by
  simp only [fitRow, List.take_append, List.take_take, List.take_replicate, List.length_take]
  congr 2 <;> omega

end Rows

namespace Coordinates

variable {c : Coordinates α}

def truncate (w : Nat) (c : Coordinates α) : Coordinates α where
  width := min w c.width
  rows := c.rows.map (·.take w)
  frozen := c.frozen
  uniform := by
    intro row member
    obtain ⟨whole, source, rfl⟩ := List.mem_map.mp member
    rw [List.length_take, c.uniform whole source]

@[simp]
theorem size_truncate (w : Nat) (c : Coordinates α) : (c.truncate w).size = c.size := by
  simp [size, truncate]

theorem xy_truncate (planar : 2 ≤ w) (c : Coordinates α) : (c.truncate w).xy = c.xy := by
  simp [xy, truncate, Function.comp_def, List.take_take, Nat.min_eq_left planar]

theorem slice_truncate (w : Nat) (c : Coordinates α) (start stop : Int) :
    (c.truncate w).slice start stop = (c.slice start stop).truncate w := by
  have same : (c.truncate w).isWhole start stop = c.isWhole start stop := by
    simp only [isWhole, size_truncate]
  unfold slice
  rw [same, size_truncate]
  split
  · rfl
  · exact ext rfl (by simp only [part, truncate, List.map_take, List.map_drop]) rfl

theorem coordinate_truncate (w : Nat) (c : Coordinates α) (index : Int) :
    (c.truncate w).coordinate index = (c.coordinate index).map (·.take w) := by
  have placed : (c.truncate w).rowPosition index = c.rowPosition index := by
    simp only [rowPosition, size_truncate]
  have row : ∀ i, (c.truncate w).rows.getD i [] = (c.rows.getD i []).take w := by
    intro i
    simp only [truncate, List.getD_eq_getElem?_getD, List.getElem?_map]
    cases c.rows[i]? <;> simp
  simp only [coordinate, placed, map_bind_eq, row]
  rfl

variable [Ordinate α]

theorem column_truncate (wide : w ≤ c.width) {j : Int} (inside : 0 ≤ j ∧ j < w) :
    (c.truncate w).column j = c.column j := by
  have place : ∀ width : Nat, w ≤ width → position? j width = some j.toNat := by
    intro width wide
    have bounds : 0 ≤ j ∧ j < width := by omega
    simp [position?, bounds]
  have same : (c.truncate w).width = w := Nat.min_eq_left wide
  simp only [column, columnPosition, same, place _ wide, place w (Nat.le_refl w), Except.map]
  congr 1
  simp only [truncate, List.map_map]
  refine List.map_congr_left fun row _ => ?_
  have early : j.toNat < w := by omega
  simp only [Function.comp, List.getD_eq_getElem?_getD, List.getElem?_take, early, if_true]

theorem truncate_ofRows {width : Nat} (le : w ≤ width) (rows : List (List α)) :
    (ofRows width rows).truncate w = ofRows w rows := by
  refine ext (Nat.min_eq_left le) ?_ rfl
  simp only [truncate, ofRows, List.map_map]
  exact List.map_congr_left fun row _ => take_fitRow le row

theorem ofRows_map_take {size : Nat} (le : w ≤ size) (rows : List (List α)) :
    ofRows w (rows.map (·.take size)) = ofRows w rows := by
  refine ext rfl ?_ rfl
  simp only [ofRows, List.map_map]
  exact List.map_congr_left fun row _ => fitRow_take le row

end Coordinates

/-! Rings. -/

variable [Ordinate α]

theorem Directory.checkClosed_truncate (planar : 2 ≤ w) (d : Directory) (i : Int)
    (ring : Coordinates α) (kind : String) :
    d.checkClosed i (ring.truncate w) kind = d.checkClosed i ring kind := by
  simp only [checkClosed, Coordinates.xy_truncate planar]

namespace Ring

/-- The orientation is found from x and y, which are kept. -/
theorem isClockwise_truncate (planar : 2 ≤ w) {ring : Coordinates α} (wide : w ≤ ring.width) :
    isClockwise (ring.truncate w) = isClockwise ring := by
  simp only [isClockwise, signedArea, Coordinates.column_truncate wide (j := 0) (by omega),
    Coordinates.column_truncate wide (j := 1) (by omega)]

omit [Ordinate α] in
theorem rectangleRows_take (planar : 2 ≤ w) (low high : List α) :
    rectangleRows (low.take w) (high.take w) =
      (rectangleRows low high).map (·.map (·.take w)) := by
  obtain ⟨more, rfl⟩ := Nat.exists_eq_add_of_le' planar
  match low, high with
  | [], _ => rfl
  | [_], _ => rfl
  | _ :: _ :: _, [] => rfl
  | _ :: _ :: _, [_] => rfl
  | _ :: _ :: _, _ :: _ :: _ => simp [rectangleRows, Except.map]

/-- The corners that are made up have x and y only, so nothing of them is cut off. -/
theorem rectangle_truncate (planar : 2 ≤ w) {corners : Coordinates α} (wide : w ≤ corners.width)
    {cap : Int} (capped : corners.width ≤ cap) :
    rectangle w (corners.truncate w) = (rectangle cap corners).map (Coordinates.truncate w) := by
  have fits : Coordinates.cappedWidth w (corners.truncate w).width = .ok w := by
    have same : (corners.truncate w).width = w := Nat.min_eq_left wide
    rw [same, Coordinates.cappedWidth, if_pos (by omega)]
    simp
  have whole : Coordinates.cappedWidth cap corners.width = .ok corners.width := by
    rw [Coordinates.cappedWidth, if_pos (by omega)]
    exact congrArg _ (by omega)
  simp only [rectangle, Coordinates.coordinate_truncate, map_bind_eq, bind_map_eq, fits, whole,
    rectangleRows_take planar]
  refine bind_congr (m := Except Failure) fun low => ?_
  refine bind_congr (m := Except Failure) fun high => ?_
  change (rectangleRows low high >>= fun rows => .ok (.ofRows w (rows.map (·.take w)))) =
    rectangleRows low high >>= fun rows => .ok ((Coordinates.ofRows _ rows).truncate w)
  simp only [Coordinates.ofRows_map_take (Nat.le_refl w), Coordinates.truncate_ofRows wide]

end Ring

/-! Elements. -/

namespace Source

variable {s : Source α} {i : Nat}

def truncate (w : Nat) (s : Source α) : Source α := ⟨s.directory, s.coordinates.truncate w, w⟩

omit [Ordinate α]

@[simp]
theorem directory_truncate (w : Nat) (s : Source α) : (s.truncate w).directory = s.directory := rfl

/-- Cutting goes along the rows and slicing across them. -/
@[simp]
theorem elementCoordinates_truncate (w : Nat) (s : Source α) (i : Nat) :
    (s.truncate w).elementCoordinates i = (s.elementCoordinates i).truncate w :=
  Coordinates.slice_truncate ..

theorem pointAt_truncate (w : Nat) (s : Source α) (i : Nat) : (s.truncate w).pointAt i =
    (s.pointAt i).map (Shape.mapCoordinates (Coordinates.truncate w)) := by
  simp only [pointAt, directory_truncate, elementCoordinates_truncate, Coordinates.size_truncate,
    map_bind_eq]
  rfl

theorem multiPointAt_truncate (w : Nat) (s : Source α) (i : Nat) : (s.truncate w).multiPointAt i =
    (s.multiPointAt i).map (Shape.mapCoordinates (Coordinates.truncate w)) := by
  simp only [multiPointAt, directory_truncate, elementCoordinates_truncate,
    Coordinates.size_truncate, map_bind_eq]
  rfl

theorem lineAt_truncate (w : Nat) (s : Source α) (i : Nat) :
    (s.truncate w).lineAt i = (s.lineAt i).map (Coordinates.truncate w) := by
  simp only [lineAt, directory_truncate, elementCoordinates_truncate, Coordinates.size_truncate,
    map_bind_eq]
  rfl

theorem loneMemberAt_truncate (w : Nat) (s : Source α) (i : Nat) : (s.truncate w).loneMemberAt i =
    (s.loneMemberAt i).map (Shape.mapCoordinates (Coordinates.truncate w)) := by
  simp only [loneMemberAt, directory_truncate, pointAt_truncate, multiPointAt_truncate,
    lineAt_truncate]
  split
  · split
    · rfl
    split
    · rfl
    · exact (map_of_refuses (s.directory.refuses_rejectInterpretation i _) _).symm
  split
  · cases s.lineAt i <;> rfl
  by_cases hole : (s.directory.entryAt i).code = ElementCode.hole
  · simp only [hole, if_true]
    exact (map_of_refuses (s.directory.refuses_rejectElement i _ _) _).symm
  · simp only [hole, if_false]
    exact (map_of_refuses (s.directory.refuses_rejectElement i _ _) _).symm

variable [Ordinate α]

/-- The width to be cut to keeps x and y, and there is room for what is cut off. -/
structure Narrows (w : Nat) (s : Source α) : Prop where
  planar : 2 ≤ w
  wide : w ≤ s.coordinates.width
  capped : s.coordinates.width ≤ s.cap

namespace Narrows

variable (h : s.Narrows w)
include h

/-- A ring is read as before and then cut. -/
theorem ringAt_truncate (i : Nat) :
    (s.truncate w).ringAt i = (s.ringAt i).map (Coordinates.truncate w) := by
  have wide : w ≤ (s.elementCoordinates i).width := by
    rw [width_elementCoordinates]
    exact h.wide
  have capped : (s.elementCoordinates i).width ≤ s.cap := by
    rw [width_elementCoordinates]
    exact h.capped
  simp only [ringAt, checkRing, directory_truncate, elementCoordinates_truncate,
    Coordinates.size_truncate, s.directory.checkClosed_truncate h.planar, map_bind_eq]
  refine bind_congr (m := Except Failure) fun _ => ?_
  split
  · simp only [map_bind_eq]
    refine bind_congr (m := Except Failure) fun _ => ?_
    exact Ring.rectangle_truncate h.planar wide capped
  · simp only [map_bind_eq]
    rfl

theorem shellAt_truncate (i : Nat) :
    (s.truncate w).shellAt i = (s.shellAt i).map (Coordinates.truncate w) := by
  simp only [shellAt, checkRing, directory_truncate, h.ringAt_truncate, map_bind_eq]

/-- The columns that tell the orientation, x and y, are not cut off. -/
theorem holeAt_truncate (i : Nat) :
    (s.truncate w).holeAt i = (s.holeAt i).map (Option.map (Coordinates.truncate w)) := by
  simp only [holeAt, directory_truncate, h.ringAt_truncate]
  split
  · cases s.ringAt i <;> rfl
  split
  · cases read : s.ringAt i with
    | error failure => rfl
    | ok ring =>
      have wide : w ≤ ring.width := by
        rw [width_of_ringAt h.capped read]
        exact h.wide
      change (Ring.isClockwise (ring.truncate w) >>= _) = _
      rw [Ring.isClockwise_truncate h.planar wide]
      change _ = (Ring.isClockwise ring >>= _).map _
      rw [map_bind_eq]
      refine bind_congr (m := Except Failure) fun clockwise => ?_
      cases clockwise <;> rfl
  · rfl

theorem mirrors : s.Mirrors Eq (.truncate w) (s.truncate w) where
  count := rfl
  code _ := rfl
  bounds _ := .refl (fun _ => rfl) _
  point i := Matches.eq_iff.mpr (pointAt_truncate w s i)
  multiPoint i := Matches.eq_iff.mpr (multiPointAt_truncate w s i)
  line i := Matches.eq_iff.mpr (lineAt_truncate w s i)
  member i := Matches.eq_iff.mpr (loneMemberAt_truncate w s i)
  shell i := Matches.eq_iff.mpr (h.shellAt_truncate i)
  hole i := Matches.eq_iff.mpr (h.holeAt_truncate i)

/-- Building does not see what is cut off: what it gives is cut in the same way. -/
theorem result_build_truncate (d : TypeCode.Descriptor) (i : Nat) :
    ((s.truncate w).build d i).result =
      (s.build d i).result.map (Geometry.mapCoordinates (.truncate w)) :=
  Matches.eq_iff.mp (h.mirrors.matches_build rfl rfl i).result

end Narrows

end Source

end TripletGeometry
