import TripletGeometry.Run
import TripletGeometry.Source

/-!
Reading a polygon: the ring at the cursor and the holes that follow it.
-/
namespace TripletGeometry.Source

variable {α : Type} [Ordinate α]

def holesFrom (s : Source α) (index : Nat) : Run α (List (Coordinates α)) :=
  match h : s.holeAt index with
  | .error failure => .fail index failure
  | .ok none => .done index []
  | .ok (some ring) =>
    ((s.holesFrom (index + 1)).map (ring :: ·)).after [.built (.ring ring)]
termination_by s.directory.count - index
decreasing_by
  have := lt_count_of_holeAt h
  omega

def polygonAt (s : Source α) (index : Nat) : Run α (Polygon α) :=
  match s.shellAt index with
  | .error failure => .fail index failure
  | .ok outer =>
    (((s.holesFrom (index + 1)).map (Polygon.mk outer)).after [.built (.ring outer)]).andThen
      fun cursor polygon =>
        ⟨cursor, [.noted (.polygon index polygon.holes.length),
          .built (.geometry (.shape (.polygon polygon)))], .ok polygon⟩

/-- Reading holes never goes back. -/
theorem le_cursor_holesFrom (s : Source α) (index : Nat) :
    index ≤ (s.holesFrom index).cursor := by
  fun_induction holesFrom s index with
  | case1 => exact Nat.le_refl _
  | case2 => exact Nat.le_refl _
  | case3 index ring _ ih =>
    simp only [Run.cursor_after, Run.cursor_map]
    omega

/-- A polygon that was read is behind the cursor. -/
theorem lt_cursor_polygonAt {s : Source α} {index : Nat} {polygon : Polygon α}
    (h : (s.polygonAt index).result = .ok polygon) : index < (s.polygonAt index).cursor := by
  have advance := le_cursor_holesFrom s (index + 1)
  unfold polygonAt at h ⊢
  split at h
  · cases h
  · simp only [Run.andThen, Run.cursor_after, Run.result_after, Run.cursor_map] at h ⊢
    split <;> simp only [Run.cursor_after] <;> omega

end TripletGeometry.Source
