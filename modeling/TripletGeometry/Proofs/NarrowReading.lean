import TripletGeometry.Ordinate.Exact
import TripletGeometry.Proofs.Capacity
import TripletGeometry.Proofs.Truncation

/-!
Readings with fewer ordinates. A reading is, as far as its ordinates go, the reading of any reader
that asks for fewer; and two readers that differ in nothing but the number of ordinates agree on all
that both of them give.
-/
namespace TripletGeometry

variable {α : Type}

namespace Assembly

variable [Ordinate α] {cap native output : Int} {ordinates : List α}

theorem assemble_of_whole (positive : 0 < native) (whole : native ∣ (ordinates.length : Int))
    (asked : 0 ≤ min output cap) : assemble none cap ordinates native output true =
      .ok (.ofRows (min output cap).toNat
        (groups native.toNat (ordinates.length / native.toNat) ordinates)) := by
  obtain ⟨c, assembled⟩ := (exists_assemble_iff cap output true positive whole).mpr asked
  rw [assembled, eq_of_assemble positive assembled]

end Assembly

namespace Reader

variable {r q : Reader} {w : Nat}

def narrow (w : Nat) (planar : 2 ≤ w) : Reader where
  settings := ⟨some w, true⟩
  cap := w
  accepted := by
    intro dimension asked
    cases asked
    exact_mod_cast planar

theorem width_narrow (planar : 2 ≤ w) (native : Int) : (narrow w planar).width native = w := by
  change (min (w : Int) w).toNat = w
  omega

section Sources

variable [Ordinate α] {e : Encoding α} {native : Int} (dimensions : 2 ≤ native)
  (capped : 2 ≤ r.cap)
include dimensions capped

theorem source_of_whole (whole : native ∣ (e.ordinates.length : Int)) :
    r.source e native (r.settings.outputDimension native) =
      (Directory.ofElements e.elements e.ordinates.length native).map fun directory =>
        ⟨directory, .ofRows (r.width native) (Assembly.groups native.toNat
          (e.ordinates.length / native.toNat) e.ordinates), r.cap⟩ := by
  have asked := nonneg_of_cap (r := r) dimensions (by omega)
  simp only [source_eq, Assembly.assemble_of_whole (by omega : 0 < native) whole asked]
  change (Directory.ofElements _ _ _ >>= _) = _
  cases Directory.ofElements e.elements e.ordinates.length native <;> rfl

/-- A narrower reader opens the same source, cut off. -/
theorem source_narrow (planar : 2 ≤ w) (le : w ≤ r.width native) :
    (narrow w planar).source e native ((narrow w planar).settings.outputDimension native) =
      (r.source e native (r.settings.outputDimension native)).map (Source.truncate w) := by
  have narrowed : 2 ≤ (narrow w planar).cap := Int.ofNat_le.mpr planar
  by_cases whole : native ∣ (e.ordinates.length : Int)
  · rw [source_of_whole dimensions capped whole, source_of_whole dimensions narrowed whole,
      width_narrow]
    cases Directory.ofElements e.elements e.ordinates.length native with
    | error failure => rfl
    | ok directory =>
      simp only [Except.map, Source.truncate, Coordinates.truncate_ofRows le]
      rfl
  · simp only [source_eq, Assembly.assemble_of_partial (by omega : 0 < native) whole]
    rfl

theorem result_runPoint_narrow (p : CompactPoint α) (planar : 2 ≤ w) (le : w ≤ r.width native) :
    ((narrow w planar).runPoint p native
        ((narrow w planar).settings.outputDimension native)).result =
      (r.runPoint p native (r.settings.outputDimension native)).result.map
        (Geometry.mapCoordinates (.truncate w)) := by
  have narrowed : 2 ≤ (narrow w planar).cap := Int.ofNat_le.mpr planar
  obtain ⟨c, ran, made⟩ := r.exists_runPoint p dimensions (nonneg_of_cap dimensions (by omega))
  obtain ⟨c', ran', made'⟩ := (narrow w planar).exists_runPoint p dimensions
    (nonneg_of_cap dimensions (by omega))
  have width := width_narrow planar native
  rw [Reader.width] at width le
  have cut : c' = c.truncate w := by
    rw [made, made', width, Coordinates.truncate_ofRows le]
  rw [ran, ran', cut]
  rfl

end Sources

variable [Ordinate α] {e : Encoding α} {d : TypeCode.Descriptor}

/-- A reading of fewer ordinates gives what the reading of more gives, truncated, or fails in the
same way. -/
theorem result_run_narrow (interpreted : TypeCode.interpret e.typeCode = .ok d)
    (capped : 2 ≤ r.cap) (planar : 2 ≤ w) (le : w ≤ r.width d.dimension) :
    ((narrow w planar).run e).result =
      (r.run e).result.map (Geometry.mapCoordinates (.truncate w)) := by
  obtain ⟨⟨dimensions, _⟩, _⟩ := TypeCode.interpret_ok interpreted
  cases whole : e.wholePoint? with
  | some p =>
    rw [run_of_wholePoint interpreted whole, run_of_wholePoint interpreted whole,
      Run.result_after, Run.result_after, result_runPoint_narrow dimensions capped p planar le]
  | none =>
    rw [run_of_elements interpreted whole, run_of_elements interpreted whole, Run.result_after,
      Run.result_after, runElements_eq, runElements_eq, source_narrow dimensions capped planar le]
    cases source : r.source e d.dimension (r.settings.outputDimension d.dimension) with
    | error failure => rfl
    | ok s =>
      have opens : r.Opens e d s := ⟨whole, interpreted, source⟩
      have narrows : s.Narrows w := by
        refine ⟨planar, by rw [opens.width_eq]; exact le, ?_⟩
        rw [opens.width_eq, opens.cap_eq]
        simp only [Reader.width] at le ⊢
        omega
      exact narrows.result_build_truncate d 0

/-- Without limits two readers agree: both find the same fault, or they give geometries that are
equal as far as both have ordinates. Both are compared with the reader that gives no more than what
they have in common. -/
theorem agree_run (capped : 2 ≤ r.cap) (capped' : 2 ≤ q.cap) :
    (∃ failure, (r.run e).result = .error failure ∧ (q.run e).result = .error failure) ∨
      ∃ d tree tree', TypeCode.interpret e.typeCode = .ok d ∧ (r.run e).result = .ok tree ∧
        (q.run e).result = .ok tree' ∧
        let common := min (r.width d.dimension) (q.width d.dimension)
        tree.mapCoordinates (.truncate common) = tree'.mapCoordinates (.truncate common) := by
  cases interpreted : TypeCode.interpret e.typeCode with
  | error fault =>
    simp only [run_eq, interpreted]
    exact .inl ⟨_, rfl, rfl⟩
  | ok d =>
    obtain ⟨⟨dimensions, _⟩, _⟩ := TypeCode.interpret_ok interpreted
    have two := two_le_width (r := r) dimensions capped
    have two' := two_le_width (r := q) dimensions capped'
    have planar : 2 ≤ min (r.width d.dimension) (q.width d.dimension) := by omega
    have same := (result_run_narrow interpreted capped planar (Nat.min_le_left ..)).symm.trans
      (result_run_narrow interpreted capped' planar (Nat.min_le_right ..))
    rcases map_eq_map same with failed | ⟨tree, tree', ran, ran', common⟩
    · exact .inl failed
    · exact .inr ⟨d, tree, tree', rfl, ran, ran', common⟩

/-- A sloping shell with a rectangle for a hole, whose type is told from how it winds. -/
def slopingShell : Encoding Exact where
  typeCode := 3003
  srid := some 4326
  point := none
  elements := [⟨1, 1003, 1⟩, ⟨13, 3, 3⟩]
  ordinates := [0, 0, 0, 9, 0, 1, 9, 9, 2, 0, 0, 0, 1, 3, 5, 4, 1, 6].map fun x => ⟨some x⟩

def padded : Reader := narrow 5 (by decide)

def noElements : Encoding Exact where
  typeCode := 2001
  srid := none
  point := none
  elements := []
  ordinates := []

/-- More ordinates than can be counted, even if there are no coordinates at all. -/
def widestAsked : Reader := narrow 1152921504606846976 (by decide)

end Reader

end TripletGeometry
