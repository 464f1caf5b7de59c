import Mathlib.Algebra.Order.Field.Rat
import Mathlib.Tactic.Ring
import TripletGeometry.Ordinate.Exact
import TripletGeometry.Proofs.PlanarRings

/-!
The area of coordinates whose x and y are exact numbers. It is half the sum of the cross products of
consecutive vertices, which falls into parts where the vertices are cut, changes its sign with their
order, and of closed vertices knows no origin and no first one.
-/
namespace TripletGeometry

/-! Numbers. -/

namespace Exact

def ofRat (q : Rat) : Exact := ⟨some q⟩

theorem ofRat_add (p q : Rat) : ofRat p + ofRat q = ofRat (p + q) := rfl

theorem ofRat_sub (p q : Rat) : ofRat p - ofRat q = ofRat (p - q) := rfl

theorem half_ofRat (q : Rat) : Ordinate.half (ofRat q) = ofRat (q / 2) := rfl

theorem same_ofRat (p q : Rat) : Ordinate.same (ofRat p) (ofRat q) = decide (p = q) := rfl

theorem below_ofRat (p q : Rat) : Ordinate.below (ofRat p) (ofRat q) = decide (p < q) := rfl

theorem isNumber_ofRat (q : Rat) : IsNumber (ofRat q) := by
  rw [IsNumber, same_ofRat]
  exact decide_eq_true rfl

theorem exists_of_isNumber {x : Exact} (number : IsNumber x) : ∃ q, x = ofRat q := by
  obtain ⟨value⟩ := x
  cases value with
  | none => cases number
  | some q => exact ⟨q, rfl⟩

/-- Exact ordinates are added up to the same from the first on as from the last. -/
theorem foldl_map_ofRat (qs : List Rat) (start : Rat) :
    (qs.map ofRat).foldl (· + ·) (ofRat start) = ofRat (start + qs.sum) := by
  induction qs generalizing start with
  | nil => rw [List.map_nil, List.foldl_nil, List.sum_nil, add_zero]
  | cons q qs ih => rw [List.map_cons, List.foldl_cons, ofRat_add, ih, List.sum_cons, add_assoc]

end Exact

/-! Vertices. -/

abbrev Vertex := Rat × Rat

/-- Positive if the second vertex lies to the left of the first one, seen from the origin. -/
def Vertex.cross (p q : Vertex) : Rat := p.1 * q.2 - q.1 * p.2

theorem Vertex.cross_swap (p q : Vertex) : cross q p = -cross p q := by
  unfold cross
  ring

/-- The sum of the cross products of consecutive vertices: twice the area that they enclose. -/
def winding : List Vertex → Rat
  | p :: q :: rest => Vertex.cross p q + winding (q :: rest)
  | _ => 0

@[simp]
theorem winding_singleton (p : Vertex) : winding [p] = 0 := rfl

theorem winding_cons_cons (p q : Vertex) (rest : List Vertex) :
    winding (p :: q :: rest) = Vertex.cross p q + winding (q :: rest) := rfl

/-- Both parts have the vertex at which the list is cut. -/
theorem winding_append (first : List Vertex) (p : Vertex) (rest : List Vertex) :
    winding (first ++ p :: rest) = winding (first ++ [p]) + winding (p :: rest) := by
  induction first with
  | nil => simp
  | cons a first ih =>
    cases first with
    | nil => simp [winding_cons_cons]
    | cons b first =>
      simp only [List.cons_append, winding_cons_cons] at ih ⊢
      rw [ih, add_assoc]

/-- Turned around, a ring winds the other way. -/
theorem winding_reverse (ps : List Vertex) : winding ps.reverse = -winding ps := by
  induction ps with
  | nil => rfl
  | cons p rest ih =>
    cases rest with
    | nil => rfl
    | cons q rest =>
      rw [List.reverse_cons] at ih ⊢
      rw [List.reverse_cons, List.append_assoc, List.singleton_append, winding_append, ih,
        winding_cons_cons, winding_cons_cons, winding_singleton, Vertex.cross_swap]
      ring

/-- The vertices from the one at the index on, and from the start back to it. The vertex at which
closed vertices start and end then occurs once, where the two parts meet. -/
def turn {β : Type} (k : Nat) (ps : List β) : List β := ps.drop k ++ (ps.take (k + 1)).tail

/-- Where a list is cut, both parts have the element at the cut. -/
theorem winding_cut {ps : List Vertex} {k : Nat} (inside : k < ps.length) :
    winding ps = winding (ps.take (k + 1)) + winding (ps.drop k) := by
  calc winding ps
      = winding (ps.take k ++ ps[k] :: ps.drop (k + 1)) := by
        rw [← List.drop_eq_getElem_cons inside, List.take_append_drop]
    _ = winding (ps.take k ++ [ps[k]]) + winding (ps[k] :: ps.drop (k + 1)) := winding_append _ _ _
    _ = winding (ps.take (k + 1)) + winding (ps.drop k) := by
        rw [List.take_append_getElem inside, ← List.drop_eq_getElem_cons inside]

theorem length_turn {β : Type} {k : Nat} {ps : List β} (inside : k < ps.length) :
    (turn k ps).length = ps.length := by
  rw [turn, List.length_append, List.length_drop, List.length_tail, List.length_take]
  omega

theorem map_turn {β γ : Type} (f : β → γ) (k : Nat) (ps : List β) :
    (turn k ps).map f = turn k (ps.map f) := by
  rw [turn, List.map_append, List.map_drop, List.map_tail, List.map_take, turn]

theorem mem_of_mem_turn {β : Type} {k : Nat} {ps : List β} {p : β} (member : p ∈ turn k ps) :
    p ∈ ps := by
  rcases List.mem_append.mp member with later | earlier
  · exact List.mem_of_mem_drop later
  · exact List.mem_of_mem_take (List.mem_of_mem_tail earlier)

/-- Whichever vertex closed vertices start at, they end there as well. -/
theorem head?_turn {β : Type} {ps : List β} (closed : ps.head? = ps.getLast?) {k : Nat}
    (inside : k < ps.length) : (turn k ps).head? = (turn k ps).getLast? := by
  obtain ⟨first, more, rfl⟩ := List.exists_cons_of_length_pos (Nat.zero_lt_of_lt inside)
  cases k with
  | zero => simpa [turn] using closed
  | succ k =>
    have here : k < more.length := Nat.lt_of_succ_lt_succ inside
    rw [turn, List.take_succ_cons, List.tail_cons, List.drop_succ_cons, List.head?_append,
      List.head?_drop, List.getLast?_append, List.getLast?_take, if_neg (Nat.succ_ne_zero k),
      Nat.add_sub_cancel, List.getElem?_eq_getElem here]
    rfl

/-- A closed ring winds the same from each of its vertices. -/
theorem winding_turn {ps : List Vertex} (closed : ps.head? = ps.getLast?) {k : Nat}
    (inside : k < ps.length) : winding (turn k ps) = winding ps := by
  obtain ⟨first, more, rfl⟩ := List.exists_cons_of_length_pos (Nat.zero_lt_of_lt inside)
  have last : ((first :: more).drop k).getLast? = some first := by
    rw [List.getLast?_drop, if_neg (by omega), ← closed, List.head?_cons]
  obtain ⟨front, ends⟩ := List.getLast?_eq_some_iff.mp last
  calc winding (turn k (first :: more))
      = winding (front ++ first :: more.take k) := by
        rw [turn, ends, List.take_succ_cons, List.tail_cons, List.append_assoc,
          List.singleton_append]
    _ = winding (front ++ [first]) + winding (first :: more.take k) := winding_append _ _ _
    _ = winding ((first :: more).take (k + 1)) + winding ((first :: more).drop k) := by
        rw [← ends, List.take_succ_cons, add_comm]
    _ = winding (first :: more) := (winding_cut inside).symm

/-- What is added to every vertex counts by how far the last vertex is from the first. -/
theorem winding_translate (v p : Vertex) (rest : List Vertex) :
    winding ((p :: rest).map (· + v)) = winding (p :: rest) +
      v.1 * (((p :: rest).getLast (List.cons_ne_nil p rest)).2 - p.2) -
      v.2 * (((p :: rest).getLast (List.cons_ne_nil p rest)).1 - p.1) := by
  induction rest generalizing p with
  | nil => simp
  | cons q rest ih =>
    have step := ih q
    rw [List.map_cons] at step
    rw [List.map_cons, List.map_cons, winding_cons_cons, step, winding_cons_cons,
      List.getLast_cons (List.cons_ne_nil q rest)]
    simp only [Vertex.cross, Prod.fst_add, Prod.snd_add]
    ring

/-- What a shift adds cancels along a closed ring. -/
theorem winding_map_add {ps : List Vertex} (closed : ps.head? = ps.getLast?) (v : Vertex) :
    winding (ps.map (· + v)) = winding ps := by
  cases ps with
  | nil => rfl
  | cons p rest =>
    rw [List.head?_cons, List.getLast?_eq_some_getLast (List.cons_ne_nil p rest)] at closed
    have last := Option.some.inj closed
    rw [winding_translate, ← last]
    ring

/-! Coordinates. -/

/-- Twice the area by the two sums of products. -/
theorem dot_sub_dot (ps : List Vertex) :
    (List.zipWith (· * ·) (ps.map Prod.fst) (ps.map Prod.snd).tail).sum -
      (List.zipWith (· * ·) (ps.map Prod.fst).tail (ps.map Prod.snd)).sum = winding ps := by
  induction ps with
  | nil => exact sub_self 0
  | cons p rest ih =>
    cases rest with
    | nil => exact sub_self 0
    | cons q rest =>
      rw [winding_cons_cons, ← ih]
      simp only [List.map_cons, List.tail_cons, List.zipWith_cons_cons, List.sum_cons, Vertex.cross]
      ring

namespace Coordinates

def Plotted (c : Coordinates Exact) : Prop :=
  ∀ row ∈ c.rows, ∃ x y rest, row = Exact.ofRat x :: Exact.ofRat y :: rest

/-- The x and the y of a row; what is no number counts as zero. -/
def vertexOf (row : List Exact) : Vertex :=
  ((row.getD 0 Ordinate.missing).value?.getD 0, (row.getD 1 Ordinate.missing).value?.getD 0)

def vertices (c : Coordinates Exact) : List Vertex := c.rows.map vertexOf

variable {c : Coordinates Exact}

theorem vertices_eq_map_xy (c : Coordinates Exact) : c.vertices = c.xy.map vertexOf := by
  rw [vertices, xy, List.map_map]
  refine List.map_congr_left fun row _ => ?_
  simp [vertexOf]

theorem plotted_of_numbers (planar : 2 ≤ c.width) (numbers : ∀ row ∈ c.xy, ∀ x ∈ row, IsNumber x) :
    c.Plotted := by
  intro row member
  obtain ⟨x, y, rest, rfl⟩ := exists_cons_cons (c.uniform row member ▸ planar)
  have pair : [x, y] ∈ c.xy := List.mem_map.mpr ⟨_, member, rfl⟩
  obtain ⟨a, rfl⟩ := Exact.exists_of_isNumber (numbers _ pair x (by simp))
  obtain ⟨b, rfl⟩ := Exact.exists_of_isNumber (numbers _ pair y (by simp))
  exact ⟨a, b, rest, rfl⟩

theorem Closes.planar (closes : c.Closes) : 2 ≤ c.width := by
  obtain ⟨_, _, _, _, _, _, _, _, ⟨long, _⟩, _⟩ := closes.exists_rows
  omega

/-- Exact coordinates end where they start if their vertices do. -/
theorem closes_iff_of_plotted (plotted : c.Plotted) :
    c.Closes ↔ 0 < c.size ∧ c.vertices.head? = c.vertices.getLast? := by
  rw [vertices, List.head?_map, List.getLast?_map]
  constructor
  · intro closes
    obtain ⟨_, _, _, _, _, _, head, final, _, sameX, sameY⟩ := closes.exists_rows
    obtain ⟨x, y, rest, first⟩ := plotted _ (List.mem_of_mem_head? head)
    obtain ⟨x', y', rest', last⟩ := plotted _ (List.mem_of_mem_getLast? final)
    cases first
    cases last
    rw [Exact.same_ofRat, decide_eq_true_eq] at sameX sameY
    refine ⟨List.length_pos_of_mem (List.mem_of_mem_head? head), ?_⟩
    rw [head, final, sameX, sameY]
    rfl
  · rintro ⟨nonempty, same⟩
    have filled : c.rows ≠ [] := List.ne_nil_of_length_pos nonempty
    obtain ⟨x, y, rest, first⟩ := plotted _ (List.head_mem filled)
    obtain ⟨x', y', rest', last⟩ := plotted _ (List.getLast_mem filled)
    rw [List.head?_eq_some_head filled, List.getLast?_eq_some_getLast filled, first, last] at same
    cases same
    refine ⟨.ofRat x, .ofRat y, .ofRat x, .ofRat y, ?_, ?_, ?_⟩
    · rw [xy, List.head?_map, List.head?_eq_some_head filled, first]
      rfl
    · rw [xy, List.getLast?_map, List.getLast?_eq_some_getLast filled, last]
      rfl
    · exact ⟨Exact.isNumber_ofRat x, Exact.isNumber_ofRat y⟩

end Coordinates

namespace Ring

theorem dot_ofRat (xs ys : List Rat) :
    dot (xs.map Exact.ofRat) (ys.map Exact.ofRat) =
      Exact.ofRat (List.zipWith (· * ·) xs ys).sum := by
  have added := Exact.foldl_map_ofRat (List.zipWith (· * ·) xs ys) 0
  rw [zero_add] at added
  rw [dot, ← added, List.map_zipWith, List.zipWith_map]
  rfl

variable {ring : Coordinates Exact}

theorem column_eq (planar : 2 ≤ ring.width) (j : Fin 2) :
    ring.column (j : Nat) = .ok (ring.rows.map fun row => row.getD j Ordinate.missing) := by
  have bounds : 0 ≤ ((j : Nat) : Int) ∧ ((j : Nat) : Int) < ring.width := by omega
  simp [Coordinates.column, Coordinates.columnPosition, position?, bounds, Except.map]

theorem columns_eq (plotted : ring.Plotted) (planar : 2 ≤ ring.width) :
    ring.column 0 = .ok ((ring.vertices.map Prod.fst).map Exact.ofRat) ∧
      ring.column 1 = .ok ((ring.vertices.map Prod.snd).map Exact.ofRat) := by
  have first := column_eq planar 0
  have second := column_eq planar 1
  refine ⟨first.trans (congrArg Except.ok ?_), second.trans (congrArg Except.ok ?_)⟩
  all_goals
    rw [Coordinates.vertices, List.map_map, List.map_map]
    refine List.map_congr_left fun row member => ?_
    obtain ⟨x, y, rest, rfl⟩ := plotted row member
    rfl

/-- The two dot products are half the winding. -/
theorem signedArea_of_plotted (plotted : ring.Plotted) (planar : 2 ≤ ring.width) :
    signedArea ring = .ok (Exact.ofRat (winding ring.vertices / 2)) := by
  obtain ⟨first, second⟩ := columns_eq plotted planar
  refine bind_eq_ok.mpr ⟨_, first, bind_eq_ok.mpr ⟨_, second, congrArg Except.ok ?_⟩⟩
  have tail_map : ∀ qs : List Rat, (qs.map Exact.ofRat).tail = qs.tail.map Exact.ofRat :=
    fun _ => List.map_tail.symm
  rw [area, tail_map, tail_map, dot_ofRat, dot_ofRat, Exact.ofRat_sub, dot_sub_dot,
    Exact.half_ofRat]

/-- A ring is clockwise just if it winds the negative way. -/
theorem isClockwise_of_plotted (plotted : ring.Plotted) (planar : 2 ≤ ring.width) :
    isClockwise ring = .ok (decide (winding ring.vertices / 2 < 0)) := by
  rw [isClockwise, signedArea_of_plotted plotted planar]
  exact congrArg Except.ok (Exact.below_ofRat _ 0)

end Ring

end TripletGeometry
