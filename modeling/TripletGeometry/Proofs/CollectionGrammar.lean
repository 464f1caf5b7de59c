import Mathlib.Data.List.Forall2
import TripletGeometry.Ordinate.Exact
import TripletGeometry.Proofs.Numbers
import TripletGeometry.Proofs.Recognition

/-!
Collections are built from the elements that the grammar allows, and what is built is the parse. An
element belongs to the member before it if that is a polygon of which it can be a hole, and
otherwise starts a member of its own.
-/
namespace TripletGeometry

/-- For each leaf, whether it is a hole of its polygon; the others start the shape. -/
def Shape.marks {α : Type} : Shape α → List Bool
  | .polygon p => false :: p.holes.map fun _ => true
  | .point _ | .lineString _ | .multiPoint _ => [false]

namespace Source

variable {α : Type} [Ordinate α]

/-- The marks are those of the elements from one index up to another: they tell which of them belong
to the polygon before them. -/
structure Marks (s : Source α) (start stop : Nat) (marks : List Bool) : Prop where
  stop_eq : stop = start + marks.length
  tells : List.Forall₂ (fun i mark => mark = true ↔ s.Joins i) (List.range' start marks.length)
    marks

variable {s : Source α} {i start middle stop : Nat} {xs ys : List Bool}

namespace Marks

theorem nil (i : Nat) : s.Marks i i [] := ⟨rfl, .nil⟩

theorem cons {mark : Bool} (first : mark = true ↔ s.Joins i) (rest : s.Marks (i + 1) stop xs) :
    s.Marks i stop (mark :: xs) where
  stop_eq := by
    have meet := rest.stop_eq
    rw [List.length_cons]
    omega
  tells := .cons first rest.tells

theorem append (left : s.Marks start middle xs) (right : s.Marks middle stop ys) :
    s.Marks start stop (xs ++ ys) where
  stop_eq := by
    have meet := left.stop_eq
    have last := right.stop_eq
    rw [List.length_append]
    omega
  tells := by
    rw [List.length_append, ← List.range'_append_1, ← left.stop_eq]
    exact List.rel_append left.tells right.tells

end Marks

/-- A hole is a ring itself, so that the element behind it follows a ring again. -/
theorem marks_holes {holes : List (Coordinates α)} {events : List (Event α)}
    (follows : s.FollowsRing i)
    (scan : Scan (fun i => s.holeAt i = .ok none) s.ReadsHole i holes events stop) :
    s.Marks i stop (holes.map fun _ => true) := by
  induction scan with
  | stop ended => exact .nil _
  | step first rest ih =>
    obtain ⟨read, _, rfl⟩ := first
    obtain ⟨⟨_, coded⟩, _⟩ := ringAt_ok (ringAt_of_holeAt read)
    have joins := And.intro follows ((inner_iff_of_holeAt read).mpr rfl)
    exact .cons (iff_of_true rfl joins) (ih ⟨_, rfl, coded⟩)

/-- The shell starts the polygon, and each of the holes joins it. -/
theorem marks_polygonAt (starts : ¬ s.Joins i) {polygon : Polygon α}
    (ok : (s.polygonAt i).result = .ok polygon) :
    s.Marks i (s.polygonAt i).cursor (Shape.polygon polygon).marks := by
  obtain ⟨shell, holes, last, _⟩ := polygonAt_ok ok
  obtain ⟨⟨_, coded⟩, _⟩ := ringAt_ok (ringAt_of_shellAt shell)
  rw [last]
  exact .cons (iff_of_false nofun starts) (marks_holes ⟨i, rfl, coded⟩ (scan_holesFrom holes))

theorem marks_memberAt (starts : ¬ s.Joins i) {shape : Shape α}
    (ok : (s.memberAt i).result = .ok shape) :
    s.Marks i (s.memberAt i).cursor shape.marks := by
  rcases memberAt_ok ok with ⟨polygon, read, rfl, stop, _⟩ | ⟨read, stop, _⟩
  · rw [stop]
    exact marks_polygonAt starts read
  · have alone : shape.marks = [false] := by
      rcases loneMemberAt_ok read with point | cluster | ⟨line, _, rfl⟩
      · obtain ⟨_, rfl⟩ := (s.judges_pointAt i).eq_ok_iff.mp point
        rfl
      · obtain ⟨_, rfl⟩ := (s.judges_multiPointAt i).eq_ok_iff.mp cluster
        rfl
      · rfl
    rw [stop, alone]
    exact .cons (iff_of_false nofun starts) (.nil _)

/-- If no step of a scan leaves an element behind that joins what was read, then the scan marks what
its steps mark. -/
theorem marks_of_scan {β : Type} {stops : Nat → Prop}
    {reads : Nat → β → List (Event α) → Nat → Prop} {marks : β → List Bool}
    (each : ∀ i part events j, ¬ s.Joins i → reads i part events j →
      s.Marks i j (marks part) ∧ ¬ s.Joins j)
    {parts : List β} {events : List (Event α)} (starts : ¬ s.Joins i)
    (scan : Scan stops reads i parts events stop) : s.Marks i stop (parts.flatMap marks) := by
  induction scan with
  | stop ends => exact .nil _
  | step first rest ih =>
    obtain ⟨here, next⟩ := each _ _ _ _ starts first
    exact here.append (ih next)

/-- The marks of the members stand side by side, since none joins the member before it. -/
theorem marks_members {members : List (Shape α)} {events : List (Event α)}
    (starts : ¬ s.Joins i)
    (scan : Scan (fun i => (s.directory.entryAt i).code = ElementCode.finish) s.ReadsMember i
      members events stop) : s.Marks i stop (members.flatMap Shape.marks) := by
  refine marks_of_scan (fun i member events j starts step => ?_) starts scan
  obtain ⟨_, read⟩ := step
  have here := marks_memberAt starts (by rw [read])
  have next := not_joins_of_memberAt (by rw [read])
  rw [read] at here next
  exact ⟨here, next⟩

theorem not_joins_zero : ¬ s.Joins 0 := by
  rintro ⟨⟨j, next, _⟩, _⟩
  exact absurd next (Nat.succ_ne_zero j).symm

section Build

variable {d : TypeCode.Descriptor} (collects : d.topology = .collection)
include collects

/-- Where the members of a collection end every element before fits, and where one fails it does
not. -/
theorem recognizes_build (planar : 2 ≤ s.coordinates.width) (capped : 2 ≤ s.cap)
    (nonempty : 0 < s.directory.count) : s.Recognizes 0 (s.build d 0) := by
  simp only [build, collects]
  have members := (preservesMembers_recognizes planar capped).to_membersFrom not_joins_zero
  exact recognizes_several nonempty (members.map _)

/-- Where no element has the code of the sentinel a collection takes all of them. -/
theorem collection_of_build (positive : 0 < s.directory.dimension)
    (unfinished : ∀ e ∈ s.directory.elements, e.code ≠ ElementCode.finish) {g : Geometry α}
    (ok : (s.build d 0).result = .ok g) :
    (s.build d 0).cursor = s.directory.count ∧ s.Spans 0 s.directory.count g.leaves ∧
      ∃ members, g = .collection members ∧
        s.Marks 0 s.directory.count (members.flatMap Shape.marks) := by
  have spans := spans_of_yields positive (yields_of_build ok)
  have within := spans.stop_le (Nat.zero_le _)
  simp only [build, collects] at ok spans within ⊢
  obtain ⟨_, read, stop, _⟩ := several_ok ok
  obtain ⟨members, found, rfl⟩ := Run.result_map_eq_ok.mp read
  have scan := scan_membersFrom found
  have past : s.directory.count ≤ (s.membersFrom 0).cursor := by
    by_contra inside
    exact unfinished _ (Directory.entryAt_mem (Nat.not_le.mp inside)) scan.stops_at_end
  have whole : (s.membersFrom 0).cursor = s.directory.count :=
    Nat.le_antisymm (stop ▸ within) past
  rw [stop, Run.cursor_map, whole] at spans ⊢
  exact ⟨rfl, spans, members, rfl, whole ▸ marks_members not_joins_zero scan⟩

/-- A collection leaves no element, so all that it notes can be written. -/
theorem result_ofRun_collection (positive : 0 < s.directory.dimension)
    (unfinished : ∀ e ∈ s.directory.elements, e.code ≠ ElementCode.finish) (w : Writer) :
    (w.ofRun (s.build d 0)).result = w.result (s.build d 0).result := by
  refine s.result_ofRun_build w fun g ok inside => ?_
  obtain ⟨whole, _⟩ := collection_of_build collects positive unfinished ok
  exact absurd whole (Nat.ne_of_lt inside)

end Build

/-- Three rings that do not say what they are, the second within the first and wound the other way,
and a cluster of two points. -/
def genericHole : Source Exact where
  directory := ⟨[⟨1, 3, 1⟩, ⟨9, 3, 1⟩, ⟨17, 3, 1⟩, ⟨25, 1, 2⟩], 28, 2,
    ⟨by decide, by decide, by decide⟩⟩
  coordinates := .ofRows 2 ([[0, 0], [9, 0], [0, 9], [0, 0], [1, 1], [1, 2], [2, 1], [1, 1],
    [20, 0], [29, 0], [20, 9], [20, 0], [5, 5], [6, 6]].map (List.map fun x => ⟨some x⟩))
  cap := 3

end Source

end TripletGeometry
