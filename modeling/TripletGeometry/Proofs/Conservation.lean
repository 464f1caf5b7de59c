import TripletGeometry.Ordinate.Exact
import TripletGeometry.Proofs.Building
import TripletGeometry.Proofs.ElementReaders

/-!
Elements are conserved by building: from where the cursor stood to where it stops, every element has
exactly one leaf of the geometry, in order, with its own coordinates. The invariant is a span of
leaves over a range of elements; spans are put one after the other as the scans go on.
-/
namespace TripletGeometry.Source

variable {α : Type} [Ordinate α]

/-- The leaves are those of the elements from one index up to another, one for each, in order. -/
structure Spans (s : Source α) (start stop : Nat) (leaves : List (Leaf α)) : Prop where
  stop_eq : stop = start + leaves.length
  carries : ∀ k (inside : k < leaves.length), s.Carries (start + k) leaves[k]

namespace Spans

variable {s : Source α} {start middle stop i : Nat} {xs ys : List (Leaf α)} {leaf : Leaf α}

theorem nil : s.Spans i i [] where
  stop_eq := rfl
  carries k inside := absurd inside (Nat.not_lt_zero k)

theorem single (h : s.Carries i leaf) : s.Spans i (i + 1) [leaf] where
  stop_eq := rfl
  carries k inside := by
    have first : k = 0 := by
      simp only [List.length_singleton] at inside
      omega
    subst first
    exact h

/-- Leaves of neighbouring stretches are those of both, in order. -/
theorem append (left : s.Spans start middle xs) (right : s.Spans middle stop ys) :
    s.Spans start stop (xs ++ ys) where
  stop_eq := by
    have first := left.stop_eq
    have second := right.stop_eq
    simp only [List.length_append]
    omega
  carries k inside := by
    have meet := left.stop_eq
    by_cases before : k < xs.length
    · rw [List.getElem_append_left before]
      exact left.carries k before
    · have within : k - xs.length < ys.length := by
        simp only [List.length_append] at inside
        omega
      have position : start + k = middle + (k - xs.length) := by omega
      rw [List.getElem_append_right (by omega), position]
      exact right.carries _ within

/-- A span that starts among the elements stays there. -/
theorem stop_le (h : s.Spans start stop xs) (inside : start ≤ s.directory.count) :
    stop ≤ s.directory.count := by
  have meet := h.stop_eq
  rcases Nat.eq_zero_or_pos xs.length with none | some
  · omega
  · have last := (h.carries (xs.length - 1) (by omega)).inside
    omega

end Spans

/-- If every step of a scan spans what it reads, then the scan spans what its steps read. -/
theorem spans_of_scan {β : Type} {s : Source α} {stops : Nat → Prop}
    {reads : Nat → β → List (Event α) → Nat → Prop} {leaves : β → List (Leaf α)}
    (each : ∀ i part events j, reads i part events j → s.Spans i j (leaves part))
    {i k : Nat} {parts : List β} {events : List (Event α)}
    (scan : Scan stops reads i parts events k) : s.Spans i k (parts.flatMap leaves) := by
  induction scan with
  | stop ends => exact .nil
  | step first rest ih =>
    rw [List.flatMap_cons]
    exact (each _ _ _ _ first).append ih

/-- A shape of one leaf takes one element. -/
theorem spans_shape {s : Source α} {i : Nat} {shape : Shape α}
    (h : ∃ leaf, shape.leaves = [leaf] ∧ s.Carries i leaf) : s.Spans i (i + 1) shape.leaves := by
  obtain ⟨leaf, only, carries⟩ := h
  rw [only]
  exact .single carries

variable {s : Source α} {i : Nat} (positive : 0 < s.directory.dimension)
include positive

/-- Each hole that is read is a ring of its own element; the ring that ends the scan is not kept,
and the cursor stays before it. -/
theorem spans_holesFrom {holes : List (Coordinates α)} (ok : (s.holesFrom i).result = .ok holes) :
    s.Spans i (s.holesFrom i).cursor (holes.map (Leaf.mk .linearRing)) := by
  rw [List.map_eq_flatMap]
  refine spans_of_scan ?_ (scan_holesFrom ok)
  intro i ring events j step
  obtain ⟨read, _, rfl⟩ := step
  exact .single (carries_of_ringAt positive (ringAt_of_holeAt read))

/-- The shell and the holes of a polygon are leaves of neighbouring elements. -/
theorem spans_polygonAt {polygon : Polygon α} (ok : (s.polygonAt i).result = .ok polygon) :
    s.Spans i (s.polygonAt i).cursor (Shape.polygon polygon).leaves := by
  obtain ⟨shell, holes, stop, _⟩ := polygonAt_ok ok
  have outer := carries_of_ringAt positive (ringAt_of_shellAt shell)
  rw [stop]
  exact (Spans.single outer).append (spans_holesFrom positive holes)

theorem spans_memberAt {shape : Shape α} (ok : (s.memberAt i).result = .ok shape) :
    s.Spans i (s.memberAt i).cursor shape.leaves := by
  obtain ⟨polygon, read, rfl, stop, _⟩ | ⟨read, stop, _⟩ := memberAt_ok ok
  · rw [stop]
    exact spans_polygonAt positive read
  · rw [stop]
    rcases loneMemberAt_ok read with point | cluster | ⟨line, lined, rfl⟩
    · exact spans_shape (carries_of_pointAt positive point)
    · exact spans_shape (carries_of_multiPointAt positive cluster)
    · exact .single (carries_of_lineAt positive lined)

/-- Polygons and members follow one another without a gap: the next one starts where the holes of
the one before have ended. -/
theorem spans_of_yields {topology : Topology} {g : Geometry α} {stop : Nat}
    (h : s.Yields i topology g stop) : s.Spans i stop g.leaves := by
  cases h with
  | point read =>
    rw [Geometry.leaves, Geometry.parts, List.flatMap_singleton]
    exact spans_shape (carries_of_pointAt positive read)
  | line read =>
    rw [Geometry.leaves, Geometry.parts, List.flatMap_singleton]
    exact .single (carries_of_lineAt positive read)
  | polygon read =>
    rw [Geometry.leaves, Geometry.parts, List.flatMap_singleton]
    exact spans_polygonAt positive read
  | multiPoint read =>
    rw [Geometry.leaves, Geometry.parts, List.flatMap_singleton]
    exact spans_shape (carries_of_multiPointAt positive read)
  | multiLine _ read =>
    rw [Geometry.leaves, Geometry.parts, List.flatMap_map]
    refine spans_of_scan ?_ (scan_linesFrom read)
    intro i line events j step
    obtain ⟨⟨_, read⟩, _, rfl⟩ := step
    exact .single (carries_of_lineAt positive read)
  | multiPolygon _ read =>
    rw [Geometry.leaves, Geometry.parts, List.flatMap_map]
    refine spans_of_scan ?_ (scan_polygonsFrom read)
    intro i polygon events j step
    obtain ⟨_, read⟩ := step
    have spans : s.Spans i (s.polygonAt i).cursor (Shape.polygon polygon).leaves :=
      spans_polygonAt positive (by rw [read])
    rwa [read] at spans
  | collection _ read =>
    refine spans_of_scan ?_ (scan_membersFrom read)
    intro i member events j step
    obtain ⟨_, read⟩ := step
    have spans : s.Spans i (s.memberAt i).cursor member.leaves :=
      spans_memberAt positive (by rw [read])
    rwa [read] at spans

omit positive

/-- A building that succeeds has read every element between the two cursors once, in order, and no
other: the leaves of the geometry are the leaves of these elements. -/
theorem build_conserves_elements {d : TypeCode.Descriptor} {g : Geometry α}
    (planar : 2 ≤ s.directory.dimension) (ok : (s.build d i).result = .ok g) :
    s.Spans i (s.build d i).cursor g.leaves :=
  spans_of_yields (by omega) (yields_of_build ok)

def mixedMembers : Source Exact where
  directory := ⟨[⟨1, 1, 1⟩, ⟨3, 1003, 3⟩, ⟨7, 2003, 1⟩, ⟨15, 2, 1⟩], 18, 2,
    ⟨by decide, by decide, by decide⟩⟩
  coordinates := .ofRows 2 ([[0, 0], [0, 0], [9, 9], [1, 1], [1, 2], [2, 2], [1, 1], [5, 5],
    [6, 6]].map (List.map fun x => ⟨some x⟩))
  cap := 3

/-- A point, a rectangle with a hole in it, and a line: four elements and four leaves. -/
theorem build_conserves_elements_mixedMembers :
    2 ≤ mixedMembers.directory.dimension ∧
      ∃ g, (mixedMembers.build ⟨2004, 2, 0, .collection⟩ 0).result = .ok g ∧
        (mixedMembers.build ⟨2004, 2, 0, .collection⟩ 0).cursor = 4 ∧
        mixedMembers.Spans 0 (mixedMembers.build ⟨2004, 2, 0, .collection⟩ 0).cursor g.leaves := by
  have planar : 2 ≤ mixedMembers.directory.dimension := by decide
  have reads : (mixedMembers.build ⟨2004, 2, 0, .collection⟩ 0).result.isOk = true := by
    decide +kernel
  obtain ⟨g, ok⟩ := exists_of_isOk reads
  exact ⟨planar, g, ok, by decide +kernel, build_conserves_elements planar ok⟩

end TripletGeometry.Source
