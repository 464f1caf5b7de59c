import Mathlib.Data.List.TakeWhile
import TripletGeometry.Proofs.Advance
import TripletGeometry.Proofs.CollectionGrammar

/-!
What the scans of multi geometries take. The lines and the polygons of a multi geometry are read
from the elements at the front that are of their types. The scans take this stretch as a whole if
all of it is valid, and otherwise blame the first element of it that is not. Of a stretch of rings
each is the shell of a polygon or a hole of the one before it, which the rings tell on their own.
-/
namespace TripletGeometry

/-! Stretches. -/

namespace Directory

def leading (d : Directory) (codes : List Int) : Nat :=
  (d.elements.takeWhile fun e => e.code ∈ codes).length

variable {d : Directory} {codes : List Int} {i : Nat}

theorem code_mem_of_lt_leading (before : i < d.leading codes) : (d.entryAt i).code ∈ codes := by
  have front := List.takeWhile_prefix (l := d.elements) fun e => decide (e.code ∈ codes)
  have member := List.mem_takeWhile_imp (List.getElem_mem before)
  rw [front.getElem before] at member
  rw [entryAt_of_lt_count (Nat.lt_of_lt_of_le before front.length_le)]
  exact of_decide_eq_true member

/-- Behind the stretch comes an element of another type, or the sentinel. -/
theorem code_not_mem_leading (proper : ElementCode.finish ∉ codes) :
    (d.entryAt (d.leading codes)).code ∉ codes := by
  rcases Nat.lt_or_ge (d.leading codes) d.count with before | past
  · have front := List.takeWhile_append_dropWhile (p := fun e => decide (e.code ∈ codes))
      (l := d.elements)
    have next : d.elements[d.leading codes]? =
        (d.elements.dropWhile fun e => e.code ∈ codes)[0]? := by
      rw [← Nat.sub_self (d.leading codes)]
      nth_rewrite 1 [← front]
      exact List.getElem?_append_right (Nat.le_refl _)
    rw [List.getElem?_eq_getElem before] at next
    obtain ⟨rest, same⟩ := List.getElem?_eq_some_iff.mp next.symm
    rw [entryAt_of_lt_count before]
    intro member
    refine List.dropWhile_get_zero_not _ _ rest ?_
    rw [List.get_eq_getElem, same]
    exact decide_eq_true member
  · rw [entryAt_of_count_le past]
    exact proper

theorem lt_leading (proper : ElementCode.finish ∉ codes) (le : i ≤ d.leading codes)
    (coded : (d.entryAt i).code ∈ codes) : i < d.leading codes := by
  refine Nat.lt_of_le_of_ne le ?_
  rintro rfl
  exact code_not_mem_leading proper coded

end Directory

namespace Source

variable {α β : Type}

/-- Of the first `k` elements the building takes all if all of them are valid, and otherwise blames
the first that is not. An element that is left is noted, so that its code has to be written. -/
structure Settles (s : Source α) (w : Writer) (k : Nat) (valid : Nat → Prop)
    (run : Run α (Geometry α)) : Prop where
  takes_iff : (∃ g, (w.ofRun run).result = .ok g) ↔ (∀ i, i < k → valid i) ∧
    (k < s.directory.count → w.writes (s.directory.entryAt k).code = true)
  whole : ∀ g, (w.ofRun run).result = .ok g → (w.ofRun run).cursor = k
  blames : ∀ i, i < k → (∀ j, j < i → valid j) → ¬ valid i →
    (w.ofRun run).cursor = i ∧ s.Blames w i (w.ofRun run).result
  unnoted : (∀ i, i < k → valid i) → k < s.directory.count →
    ¬ w.writes (s.directory.entryAt k).code = true →
    ∃ most, w.digits = some most ∧ (w.ofRun run).result = .error (.tooManyDigits most)

/-- The run does not leave the first `k` elements, and fails among them if at all. -/
structure Stays (k i : Nat) (run : Run α β) : Prop where
  within : run.cursor ≤ k
  fails : ∀ {failure}, run.result = .error failure → run.cursor < k

namespace Stays

variable {i k : Nat}

theorem fail (before : i < k) (failure : Failure) :
    Stays k i (Run.fail i failure : Run α β) :=
  ⟨Nat.le_of_lt before, fun _ => before⟩

theorem of_ok (within : i ≤ k) {j : Nat} (events : List (Event α)) (value : β) :
    Stays k j (⟨i, events, .ok value⟩ : Run α β) :=
  ⟨within, fun failed => by cases failed⟩

theorem map {γ : Type} {run : Run α β} (h : Stays k i run) (f : β → γ) :
    Stays k i (run.map f) where
  within := h.within
  fails failed := by
    cases ended : run.result with
    | error failure => exact h.fails ended
    | ok value =>
      simp only [Run.map, ended, Except.map] at failed
      cases failed

theorem behind {j : Nat} {run : Run α β} (h : Stays k j run) (events : List (Event α)) :
    Stays k i (run.after events) :=
  ⟨h.within, h.fails⟩

/-- What comes after the last element that a run reads does not move it. -/
theorem andThen_still {γ : Type} {run : Run α β} (h : Stays k i run) {next : Nat → β → Run α γ}
    (still : ∀ cursor value, (next cursor value).cursor = cursor ∧
      ∃ last, (next cursor value).result = .ok last) : Stays k i (run.andThen next) := by
  cases ended : run.result with
  | error failure =>
    rw [Run.andThen_of_error next ended]
    exact ⟨h.within, fun _ => h.fails ended⟩
  | ok value =>
    obtain ⟨stays, last, ends⟩ := still run.cursor value
    rw [Run.andThen_of_ok next ended]
    refine ⟨?_, fun failed => ?_⟩
    · rw [Run.cursor_after, stays]
      exact h.within
    · rw [Run.result_after, ends] at failed
      cases failed

end Stays

theorem preserves_stays (k : Nat) : Preserves (α := α) (fun i => i ≤ k) (Stays k) where
  done value within := .of_ok within [] value
  map f h := h.map f
  stop h failed := ⟨h.within, fun _ => h.fails failed⟩
  chain _ _ later := later.behind _

theorem preservesLines_stays (s : Source α) :
    s.PreservesLines (fun i => i ≤ s.directory.leading [ElementCode.line])
      (Stays (s.directory.leading [ElementCode.line])) where
  toPreserves := preserves_stays _
  line_fail within isLine _ :=
    .fail (Directory.lt_leading (by decide) within (by simp [isLine])) _
  line_read within isLine _ := by
    have before := Directory.lt_leading (by decide) within (by simp [isLine])
    exact ⟨before, .of_ok before _ _⟩

variable [Ordinate α] {s : Source α}

/-- Polygons and holes stay among the rings that come first. -/
theorem preservesPolygons_stays (planar : 2 ≤ s.coordinates.width) (capped : 2 ≤ s.cap) :
    s.PreservesPolygons (fun i => i ≤ s.directory.leading ElementCode.rings)
      (fun i => i ≤ s.directory.leading ElementCode.rings)
      (Stays (s.directory.leading ElementCode.rings))
      (Stays (s.directory.leading ElementCode.rings)) where
  toPreserves := preserves_stays _
  hole_fail within failed := by
    obtain ⟨coded, _⟩ := ringAt_of_holeAt_error planar capped failed
    exact .fail (Directory.lt_leading (by decide) within coded) _
  hole_none within _ := ⟨within, .of_ok within [] []⟩
  hole_read within read := by
    obtain ⟨⟨_, coded⟩, _⟩ := ringAt_ok (ringAt_of_holeAt read)
    exact ⟨Directory.lt_leading (by decide) within coded, fun rest => (rest.map _).behind _⟩
  shell_fail within isShell _ :=
    .fail (Directory.lt_leading (by decide) within (ElementCode.mem_rings_of_mem_shells isShell)) _
  polygon_read within isShell _ := by
    have coded := ElementCode.mem_rings_of_mem_shells isShell
    refine ⟨Directory.lt_leading (by decide) within coded, fun _ holes => ?_⟩
    exact ((holes.map _).behind _).andThen_still fun cursor polygon => ⟨rfl, polygon, rfl⟩

/-! Settling. -/

section Settling

variable {k : Nat} {valid : Nat → Prop}

section Recognized

variable {run : Run α β} (recognizes : s.Recognizes 0 run)
  (fits : ∀ i, i < k → (s.Fits i ↔ valid i)) (stays : Stays k 0 run)
  (whole : ∀ value, run.result = .ok value → run.cursor = k)
include recognizes fits stays whole

/-- A run that stays among its elements succeeds just if each of them is valid. -/
theorem exists_ok_iff_of_stays : (∃ value, run.result = .ok value) ↔ ∀ i, i < k → valid i := by
  constructor
  · rintro ⟨value, ok⟩ i before
    exact (fits i before).mp (recognizes.fits i (Nat.zero_le i) (whole value ok ▸ before))
  · intro all
    rcases recognizes.ends with ok | ⟨_, unfit, fault, failed, _⟩
    · exact ok
    · have before := stays.fails failed
      exact absurd ((fits _ before).mpr (all _ before)) unfit

omit stays in
/-- If it fails it stands at the first element that is not valid. -/
theorem refuses_of_invalid {i : Nat} (before : i < k) (passed : ∀ j, j < i → valid j)
    (invalid : ¬ valid i) : run.cursor = i ∧ s.directory.Refuses i run.result := by
  have passed : ∀ j, j < i → s.Fits j := fun j earlier =>
    (fits j (Nat.lt_trans earlier before)).mpr (passed j earlier)
  have unfit : ¬ s.Fits i := fun sound => invalid ((fits i before).mp sound)
  have le : run.cursor ≤ i := by
    by_contra past
    exact unfit (recognizes.fits i (Nat.zero_le i) (Nat.not_le.mp past))
  rcases recognizes.ends with ⟨value, ok⟩ | ⟨_, unfit', refuses⟩
  · have last := whole value ok
    omega
  · rcases Nat.lt_or_eq_of_le le with early | rfl
    · exact absurd (passed _ early) unfit'
    · exact ⟨rfl, refuses⟩

end Recognized

variable {d : TypeCode.Descriptor} {kind : Kind} {parts : Run α (Geometry α)}

/-- A building settles the elements that its parts do not leave, if these recognize the grammar. -/
theorem settles_several (w : Writer) (nonempty : 0 < s.directory.count)
    (built : s.build d 0 = s.several kind 0 (s.unreadNotes kind) parts)
    (recognizes : s.Recognizes 0 parts) (stays : Stays k 0 parts)
    (fits : ∀ i, i < k → (s.Fits i ↔ valid i))
    (whole : ∀ g, (s.build d 0).result = .ok g → (s.build d 0).cursor = k) :
    s.Settles w k valid (s.build d 0) := by
  have recognizes : s.Recognizes 0 (s.build d 0) := built ▸ recognizes_several nonempty recognizes
  have stays : Stays k 0 (s.build d 0) := by
    rw [built, several_of_nonempty nonempty]
    exact stays.andThen_still fun cursor g => ⟨rfl, g, rfl⟩
  have takes := exists_ok_iff_of_stays recognizes fits stays whole
  have noted : ∀ g, (s.build d 0).result = .ok g → k < s.directory.count →
      ∃ left, .noted (.unread kind k (s.directory.entryAt k).code left) ∈ (s.build d 0).events := by
    intro g ok inside
    have last := whole g ok
    rw [built] at ok last ⊢
    obtain ⟨_, _, stop, events⟩ := several_ok ok
    rw [events, ← stop, last, unreadNotes, if_pos inside]
    exact ⟨_, List.mem_append_right _ (List.mem_append_left _ (List.mem_singleton_self _))⟩
  have unnoted : (∀ i, i < k → valid i) → k < s.directory.count →
      ¬ w.writes (s.directory.entryAt k).code = true →
      ∃ most, w.digits = some most ∧
        (w.ofRun (s.build d 0)).result = .error (.tooManyDigits most) := by
    intro all inside unwritten
    obtain ⟨g, ok⟩ := takes.mpr all
    obtain ⟨_, note⟩ := noted g ok inside
    exact Writer.result_ofRun_of_unwritten note (List.mem_singleton_self _) unwritten
  refine ⟨⟨?_, ?_⟩, ?_, ?_, unnoted⟩
  · rintro ⟨g, ok⟩
    have all := takes.mp ⟨g, Writer.result_of_ofRun ok⟩
    refine ⟨all, fun inside => ?_⟩
    by_contra unwritten
    obtain ⟨most, _, failed⟩ := unnoted all inside unwritten
    rw [ok] at failed
    cases failed
  · rintro ⟨all, written⟩
    obtain ⟨g, ok⟩ := takes.mpr all
    refine ⟨g, ?_⟩
    rw [s.result_ofRun_build w fun g ok inside => ?_, ok, Writer.result_ok]
    rw [whole g ok] at inside ⊢
    exact written inside
  · intro g ok
    exact (w.cursor_ofRun _).trans (whole g (Writer.result_of_ofRun ok))
  · intro i before passed invalid
    obtain ⟨here, refuses⟩ := refuses_of_invalid recognizes fits whole before passed invalid
    exact ⟨(w.cursor_ofRun _).trans here, blames_build w refuses⟩

end Settling

/-! Polygons. -/

section Polygons

variable {i : Nat}

/-- The holes of a polygon do not end at a hole. -/
theorem not_hole_of_holeAt (ended : s.holeAt i = .ok none) :
    (s.directory.entryAt i).code ≠ ElementCode.hole := by
  intro hole
  rw [holeAt, hole, if_pos rfl] at ended
  obtain ⟨_, _, same⟩ := map_eq_ok.mp ended
  cases same

theorem not_hole_of_polygons {polygons : List (Polygon α)} {events : List (Event α)} {stop : Nat}
    (outer : (s.directory.entryAt i).code ≠ ElementCode.hole)
    (scan : Scan (fun i => (s.directory.entryAt i).code ∉ ElementCode.shells) s.ReadsPolygon i
      polygons events stop) : (s.directory.entryAt stop).code ≠ ElementCode.hole := by
  induction scan with
  | stop ends => exact outer
  | step first rest ih =>
    obtain ⟨_, read⟩ := first
    obtain ⟨_, holes, last, _⟩ := polygonAt_ok (by rw [read])
    have next := not_hole_of_holeAt (scan_holesFrom holes).stops_at_end
    rw [← last, read] at next
    exact ih next

/-- Polygons that are read end neither before a shell nor before a hole. -/
theorem not_mem_rings_of_polygonsFrom (outer : (s.directory.entryAt i).code ≠ ElementCode.hole)
    {polygons : List (Polygon α)} (ok : (s.polygonsFrom i).result = .ok polygons) :
    (s.directory.entryAt (s.polygonsFrom i).cursor).code ∉ ElementCode.rings := by
  have scan := scan_polygonsFrom ok
  have notShell := scan.stops_at_end
  have notHole := not_hole_of_polygons outer scan
  intro ringed
  simp only [List.mem_cons, List.not_mem_nil, or_false] at ringed notShell
  tauto

end Polygons

/-! Parts of a stretch of rings. -/

/-- The element starts a polygon where polygons are read from the front: it is the first one, or
says that it is a shell, or does not say what it is and does not wind clockwise. -/
def StartsPolygon (s : Source α) (i : Nat) : Prop :=
  i = 0 ∨ (s.directory.entryAt i).code = ElementCode.shell ∨
    ((s.directory.entryAt i).code = ElementCode.ring ∧
      ∃ ring, s.ringAt i = .ok ring ∧ Ring.isClockwise ring = .ok false)

section Parts

variable {i : Nat}

/-- In a stretch of rings only the ring itself tells whether it belongs to the polygon before it. -/
theorem joins_iff_of_lt_leading (before : i < s.directory.leading ElementCode.rings)
    {ring : Coordinates α} {clockwise : Bool} (read : s.ringAt i = .ok ring)
    (winds : Ring.isClockwise ring = .ok clockwise) : s.Joins i ↔ ¬ s.StartsPolygon i := by
  have oriented : ∀ other, (∃ ring, s.ringAt i = .ok ring ∧ Ring.isClockwise ring = .ok other) ↔
      clockwise = other := by
    intro other
    simp [read, winds]
  have coded := Directory.code_mem_of_lt_leading before
  have follows : s.FollowsRing i ↔ i ≠ 0 := by
    constructor
    · rintro ⟨j, rfl, _⟩
      exact Nat.succ_ne_zero j
    · intro later
      obtain ⟨j, rfl⟩ := Nat.exists_eq_succ_of_ne_zero later
      exact ⟨j, rfl, Directory.code_mem_of_lt_leading (Nat.lt_of_succ_lt before)⟩
  simp only [Joins, Inner, StartsPolygon, follows, oriented]
  simp only [List.mem_cons, List.not_mem_nil, or_false] at coded
  rcases coded with generic | shell | hole
  · cases clockwise <;> simp [generic, ElementCode.ring, ElementCode.shell, ElementCode.hole]
  · simp [shell, ElementCode.ring, ElementCode.shell, ElementCode.hole]
  · simp [hole, ElementCode.ring, ElementCode.shell, ElementCode.hole]

theorem marks_polygons {polygons : List (Polygon α)} {events : List (Event α)} {stop : Nat}
    (starts : ¬ s.Joins i)
    (scan : Scan (fun i => (s.directory.entryAt i).code ∉ ElementCode.shells) s.ReadsPolygon i
      polygons events stop) :
    s.Marks i stop (polygons.flatMap fun polygon => (Shape.polygon polygon).marks) := by
  refine marks_of_scan (fun i polygon events j starts step => ?_) starts scan
  obtain ⟨_, read⟩ := step
  have here := marks_polygonAt starts (by rw [read])
  have next := not_joins_of_polygonAt (by rw [read])
  rw [read] at here next
  exact ⟨here, next⟩

theorem Marks.tells_starts {marks : List Bool} (wide : 2 ≤ s.coordinates.width) (capped : 2 ≤ s.cap)
    (valid : ∀ i, i < s.directory.leading ElementCode.rings → s.ValidRing i)
    (h : s.Marks 0 (s.directory.leading ElementCode.rings) marks) :
    List.Forall₂ (fun i hole => hole = true ↔ ¬ s.StartsPolygon i)
      (List.range (s.directory.leading ElementCode.rings)) marks := by
  have length : marks.length = s.directory.leading ElementCode.rings := by
    have meet := h.stop_eq
    omega
  have tells := h.tells
  rw [length, ← List.range_eq_range'] at tells
  refine List.forall₂_iff_get.mpr ⟨tells.length_eq, fun i low high => ?_⟩
  have before : i < s.directory.leading ElementCode.rings := length ▸ high
  have coded := Directory.code_mem_of_lt_leading before
  have inside := Directory.lt_count_of_code_mem coded (by decide)
  obtain ⟨ring, read⟩ := exists_ringAt_of_validRing wide (by omega) inside coded (valid i before)
  obtain ⟨clockwise, winds⟩ := Ring.exists_isClockwise (two_le_width_of_ringAt wide capped read)
  have joins := tells.get low high
  simp only [List.get_eq_getElem, List.getElem_range] at joins ⊢
  exact joins.trans (joins_iff_of_lt_leading before read winds)

end Parts

/-! Buildings. -/

section Build

variable {d : TypeCode.Descriptor}

/-- Several polygons take all rings that come first. -/
theorem multiPolygon_of_build (topology : d.topology = .multiPolygon)
    (first : (s.directory.entryAt 0).code ∈ ElementCode.shells)
    (wide : 2 ≤ s.coordinates.width) (capped : 2 ≤ s.cap) {g : Geometry α}
    (ok : (s.build d 0).result = .ok g) :
    (s.build d 0).cursor = s.directory.leading ElementCode.rings ∧
      ∃ polygons, g = .multiPolygon polygons ∧
        s.Marks 0 (s.directory.leading ElementCode.rings) (g.parts.flatMap Shape.marks) := by
  have outer : (s.directory.entryAt 0).code ≠ ElementCode.hole := by
    intro hole
    rw [hole] at first
    exact absurd first (by decide)
  simp only [build, topology] at ok ⊢
  obtain ⟨_, read, stop, _⟩ := several_ok ok
  obtain ⟨polygons, found, rfl⟩ := Run.result_map_eq_ok.mp read
  have ended := not_mem_rings_of_polygonsFrom outer found
  have stays := (preservesPolygons_stays wide capped).to_polygonsFrom (Nat.zero_le _)
  have whole : (s.polygonsFrom 0).cursor = s.directory.leading ElementCode.rings := by
    refine Nat.le_antisymm stays.within ?_
    by_contra before
    exact ended (Directory.code_mem_of_lt_leading (Nat.not_le.mp before))
  have marks := marks_polygons not_joins_zero (scan_polygonsFrom found)
  rw [stop, Run.cursor_map, whole]
  rw [whole] at marks
  refine ⟨rfl, polygons, rfl, ?_⟩
  rw [Geometry.parts, List.flatMap_map]
  exact marks

/-- A hole is not the first element, so that in a stretch of rings it always follows a ring. -/
theorem fits_iff_validRing {i : Nat} (first : (s.directory.entryAt 0).code ∈ ElementCode.shells)
    (before : i < s.directory.leading ElementCode.rings) : s.Fits i ↔ s.ValidRing i := by
  rw [fits_iff_of_ring (Directory.code_mem_of_lt_leading before), and_iff_left_iff_imp]
  intro _ hole
  have later : i ≠ 0 := by
    rintro rfl
    rw [hole] at first
    exact absurd first (by decide)
  obtain ⟨j, rfl⟩ := Nat.exists_eq_succ_of_ne_zero later
  exact ⟨j, rfl, Directory.code_mem_of_lt_leading (Nat.lt_of_succ_lt before)⟩

/-- Of the rings that come first all are taken, or the first invalid one is blamed. -/
theorem settles_multiPolygon (w : Writer) (wide : 2 ≤ s.coordinates.width) (capped : 2 ≤ s.cap)
    (topology : d.topology = .multiPolygon)
    (first : (s.directory.entryAt 0).code ∈ ElementCode.shells) :
    s.Settles w (s.directory.leading ElementCode.rings) s.ValidRing (s.build d 0) := by
  have nonempty := Directory.lt_count_of_code_mem first (by decide)
  have built : s.build d 0 = s.several .multiPolygon 0 (s.unreadNotes .multiPolygon)
      ((s.polygonsFrom 0).map .multiPolygon) := by
    simp only [build, topology]
  have recognizes := (preservesMembers_recognizes wide capped).to_polygonsFrom not_joins_zero
  have stays := (preservesPolygons_stays wide capped).to_polygonsFrom (Nat.zero_le _)
  exact settles_several w nonempty built (recognizes.map _) (stays.map _)
    (fun i => fits_iff_validRing first) fun g ok =>
      (multiPolygon_of_build topology first wide capped ok).1

theorem multiLine_of_build (topology : d.topology = .multiLine) {g : Geometry α}
    (ok : (s.build d 0).result = .ok g) :
    (s.build d 0).cursor = s.directory.leading [ElementCode.line] ∧
      ∃ lines, g = .multiLineString lines := by
  simp only [build, topology] at ok ⊢
  obtain ⟨_, read, stop, _⟩ := several_ok ok
  obtain ⟨lines, found, rfl⟩ := Run.result_map_eq_ok.mp read
  have ended := (scan_linesFrom found).stops_at_end
  have stays := (preservesLines_stays s).to_linesFrom (Nat.zero_le _)
  rw [stop, Run.cursor_map]
  refine ⟨Nat.le_antisymm stays.within ?_, lines, rfl⟩
  by_contra before
  exact ended (List.mem_singleton.mp (Directory.code_mem_of_lt_leading (Nat.not_le.mp before)))

def ValidLine (s : Source α) (i : Nat) : Prop :=
  (s.directory.entryAt i).interpretation = Interpretation.simple ∧
    2 ≤ (s.elementCoordinates i).size

omit [Ordinate α] in
instance (s : Source α) : DecidablePred s.ValidLine := fun _ =>
  inferInstanceAs (Decidable (_ ∧ _))

/-- Of the lines that come first all are taken, or the first invalid one is blamed. -/
theorem settles_multiLine (w : Writer) (topology : d.topology = .multiLine)
    (nonempty : 0 < s.directory.count) :
    s.Settles w (s.directory.leading [ElementCode.line]) s.ValidLine (s.build d 0) := by
  have built : s.build d 0 = s.several .multiLineString 0 (s.unreadNotes .multiLineString)
      ((s.linesFrom 0).map .multiLineString) := by
    simp only [build, topology]
  have recognizes := (preservesLines_recognizes s).to_linesFrom (i := 0) trivial
  have stays := (preservesLines_stays s).to_linesFrom (Nat.zero_le _)
  refine settles_several w nonempty built (recognizes.map _) (stays.map _)
    (fun i before => ?_) fun g ok => (multiLine_of_build topology ok).1
  exact fits_iff_of_line (List.mem_singleton.mp (Directory.code_mem_of_lt_leading before))

end Build

/-- Two rings that do not say what they are, the second within the first and wound the other way, a
rectangle, and a point. -/
def ringsThenPoint : Source Exact where
  directory := ⟨[⟨1, 3, 1⟩, ⟨9, 3, 1⟩, ⟨17, 1003, 3⟩, ⟨21, 1, 1⟩], 22, 2,
    ⟨by decide, by decide, by decide⟩⟩
  coordinates := .ofRows 2 ([[0, 0], [9, 0], [0, 9], [0, 0], [1, 1], [1, 2], [2, 1], [1, 1],
    [20, 0], [29, 9], [5, 5]].map (List.map fun x => ⟨some x⟩))
  cap := 3

def shortSecondLine : Source Exact where
  directory := ⟨[⟨1, 2, 1⟩, ⟨5, 2, 1⟩, ⟨7, 1, 1⟩], 8, 2, ⟨by decide, by decide, by decide⟩⟩
  coordinates := .ofRows 2 ([[0, 0], [9, 0], [0, 9], [5, 5]].map (List.map fun x => ⟨some x⟩))
  cap := 3

end Source

end TripletGeometry
