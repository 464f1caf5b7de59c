import TripletGeometry.Proofs.Rejection
import TripletGeometry.Proofs.RingReaders
import TripletGeometry.Proofs.Sources

/-!
Every reading of an encoding is decided: it gives a geometry, or it finds a fault of the encoding.
For that the coordinates have to have x and y, which the orientation of a ring and the corners of
a rectangle are made of; then no position is out of bounds and no extent is negative, whatever the
elements are.
-/
namespace TripletGeometry

/-- The result is a value, or a fault of the encoding. -/
def Decided {β : Type} (result : Except Failure β) : Prop :=
  (∃ b, result = .ok b) ∨ Rejected result

theorem decided_map_iff {β γ : Type} {x : Except Failure β} {f : β → γ} :
    Decided (x.map f) ↔ Decided x := by
  simp only [Decided, rejected_map_iff, map_eq_ok]
  refine or_congr_left ⟨fun given => ?_, fun given => ?_⟩
  · obtain ⟨_, b, ok, _⟩ := given
    exact ⟨b, ok⟩
  · obtain ⟨b, ok⟩ := given
    exact ⟨f b, b, ok, rfl⟩

namespace Decided

variable {β γ : Type} {x : Except Failure β}

theorem ok (b : β) : Decided (.ok b : Except Failure β) := .inl ⟨b, rfl⟩

/-- What follows has to be decided only where it is reached. -/
theorem bind {f : β → Except Failure γ} (first : Decided x)
    (next : ∀ b, x = .ok b → Decided (f b)) : Decided (x >>= f) := by
  rcases first with ⟨b, rfl⟩ | ⟨fault, rfl⟩
  · exact next b rfl
  · exact .inr ⟨fault, rfl⟩

theorem map (h : Decided x) (f : β → γ) : Decided (x.map f) := decided_map_iff.mpr h

/-- Whether a failure is a fault does not hang on what there was to be read. -/
theorem error {failure : Failure} (h : Decided (.error failure : Except Failure β)) :
    Decided (.error failure : Except Failure γ) := by
  rcases h with ⟨b, same⟩ | ⟨fault, same⟩
  · cases same
  · cases same
    exact .inr ⟨fault, rfl⟩

end Decided

namespace Directory

variable {β : Type} {d : Directory} {i : Nat} {condition : Prop} {value : β}
  {result : Except Failure β}

theorem Refuses.decided (h : d.Refuses i result) : Decided result := .inr h.rejected

theorem Judges.decided (h : d.Judges i condition value result) : Decided result := by
  by_cases holds : condition
  · exact .inl ⟨value, h.passes holds⟩
  · exact (h.refuses holds).decided

end Directory

/-! Elements. -/

namespace Coordinates

variable {α : Type} [Ordinate α] {c : Coordinates α}

/-- A column inside the width can always be taken. -/
theorem exists_column {j : Nat} (inside : j < c.width) : ∃ values, c.column j = .ok values := by
  have placed : c.columnPosition j = .ok j := by
    have bounds : 0 ≤ (j : Int) ∧ (j : Int) < c.width := by omega
    simp [columnPosition, position?, bounds]
  exact ⟨_, map_eq_ok.mpr ⟨j, placed, rfl⟩⟩

end Coordinates

/-- With x and y the orientation is always found, also of a ring with missing ordinates. -/
theorem Ring.exists_isClockwise {α : Type} [Ordinate α] {ring : Coordinates α}
    (planar : 2 ≤ ring.width) : ∃ clockwise, isClockwise ring = .ok clockwise := by
  obtain ⟨xs, first⟩ := ring.exists_column (j := 0) (by omega)
  obtain ⟨ys, second⟩ := ring.exists_column (j := 1) (by omega)
  exact ⟨_, map_eq_ok.mpr ⟨_, bind_eq_ok.mpr ⟨xs, first, bind_eq_ok.mpr ⟨ys, second, rfl⟩⟩, rfl⟩⟩

namespace Source

variable {α : Type} {s : Source α} {i : Nat}

theorem decided_loneMemberAt (s : Source α) (i : Nat) : Decided (s.loneMemberAt i) := by
  simp only [loneMemberAt]
  split
  · split
    · exact (s.judges_pointAt i).decided
    split
    · exact (s.judges_multiPointAt i).decided
    · exact (s.directory.refuses_rejectInterpretation i _).decided
  split
  · exact (s.judges_lineAt i).decided.map _
  split
  · exact (s.directory.refuses_rejectElement i _ _).decided
  · exact (s.directory.refuses_rejectElement i _ _).decided

variable [Ordinate α]

/-- The width of a ring is that of all coordinates, unless the cap is lower. -/
theorem width_of_ringAt (capped : s.coordinates.width ≤ s.cap) {ring : Coordinates α}
    (ok : s.ringAt i = .ok ring) : ring.width = s.coordinates.width := by
  obtain ⟨_, ⟨_, _, made⟩ | ⟨_, _, _, rfl⟩⟩ := ringAt_ok ok
  · rw [Ring.width_of_rectangle made, width_elementCoordinates]
    omega
  · exact width_elementCoordinates s i

section Readers

variable (planar : 2 ≤ s.coordinates.width) (capped : s.coordinates.width ≤ s.cap)
include planar capped

/-- A ring is read or an element is blamed, as long as x and y are there. -/
theorem decided_ringAt (i : Nat) : Decided (s.ringAt i) := by
  have judged := s.judges_checkRing i ElementCode.rings
  by_cases fits : i < s.directory.count ∧ (s.directory.entryAt i).code ∈ ElementCode.rings ∧
      (s.directory.entryAt i).interpretation ∈ Interpretation.rings
  · obtain ⟨inside, coded, interpreted⟩ := fits
    by_cases valid : s.ValidRing i
    · exact .inl (exists_ringAt_of_validRing planar (by omega) inside coded valid)
    · exact (malforms_ringAt planar inside coded interpreted valid).refuses.decided
  · exact (judged.refuses fits).decided.bind fun _ passed =>
      absurd passed ((judged.refuses fits).ne_ok _)

theorem decided_shellAt (i : Nat) : Decided (s.shellAt i) :=
  (s.judges_checkRing i ElementCode.shells).decided.bind fun _ _ => decided_ringAt planar capped i

/-- Whether a ring is a hole is always decided. -/
theorem decided_holeAt (i : Nat) : Decided (s.holeAt i) := by
  simp only [holeAt]
  split
  · exact (decided_ringAt planar capped i).map _
  split
  · refine (decided_ringAt planar capped i).bind fun ring read => ?_
    have wide := width_of_ringAt capped read
    obtain ⟨clockwise, oriented⟩ : ∃ clockwise, Ring.isClockwise ring = .ok clockwise :=
      Ring.exists_isClockwise (by omega)
    exact .inl ⟨_, bind_eq_ok.mpr ⟨clockwise, oriented, rfl⟩⟩
  · exact .ok none

/-- What a scan fails with is a fault of the encoding. -/
theorem decided_of_failsAt {β : Type} {failure : Failure} (fails : s.FailsAt i failure) :
    Decided (.error failure : Except Failure β) := by
  cases fails with
  | bounds failed => exact Decided.error (failed ▸ (s.directory.judges_checkBounds i _).decided)
  | point failed => exact Decided.error (failed ▸ (s.judges_pointAt i).decided)
  | multiPoint failed => exact Decided.error (failed ▸ (s.judges_multiPointAt i).decided)
  | line failed => exact Decided.error (failed ▸ (s.judges_lineAt i).decided)
  | member failed => exact Decided.error (failed ▸ s.decided_loneMemberAt i)
  | shell failed => exact Decided.error (failed ▸ decided_shellAt planar capped i)
  | hole failed => exact Decided.error (failed ▸ decided_holeAt planar capped i)

/-- Building gives a geometry or a fault, whatever the elements are. -/
theorem decided_build (d : TypeCode.Descriptor) : Decided (s.build d 0).result := by
  rcases concludes_build (Nat.zero_le s.directory.count) d with concludes | unsupported
  · cases ended : (s.build d 0).result with
    | error failure => exact decided_of_failsAt planar capped (concludes.fails ended)
    | ok g => exact .ok g
  · rw [unsupported]
    exact .inr ⟨_, rfl⟩

end Readers

end Source

/-! Readings. -/

namespace Assembly

variable {α : Type} [Ordinate α] {cap native output : Int} {ordinates : List α}

/-- What was assembled has an extent. -/
theorem nonneg_of_assemble {checkLength : Bool} {c : Coordinates α}
    (ok : assemble none cap ordinates native output checkLength = .ok c) :
    0 ≤ min output cap := by
  simp only [assemble] at ok
  split at ok
  · obtain ⟨blank, made, _⟩ := map_eq_ok.mp ok
    exact (Extent.nonneg_of_check (Coordinates.make_eq_ok_iff.mp made).1).2
  split at ok
  · cases ok
  split at ok
  · cases ok
  · obtain ⟨blank, made, _⟩ := bind_eq_ok.mp ok
    exact (Extent.nonneg_of_check (Coordinates.make_eq_ok_iff.mp made).1).2

/-- Ordinates that reach for one coordinate at least are assembled if their number is not checked.
-/
theorem exists_assemble_of_le (positive : 0 < native) (reach : native ≤ ordinates.length)
    (asked : 0 ≤ min output cap) :
    ∃ c, assemble none cap ordinates native output false = .ok c := by
  obtain ⟨size, rfl⟩ := Int.eq_ofNat_of_zero_le (Int.le_of_lt positive)
  have counted : (0 : Int) ≤ ↑(ordinates.length / size) := Int.natCast_nonneg _
  obtain ⟨blank, made⟩ : ∃ c : Coordinates α, Coordinates.makeCapped none cap _ output = .ok c :=
    (Coordinates.exists_makeCapped_iff counted).mpr asked
  rw [assemble_eq none cap output (by omega) (fun checked => absurd checked Bool.false_ne_true)
    (.inr (Int.ofNat_le.mp reach)), made]
  exact ⟨_, rfl⟩

end Assembly

namespace Reader

variable {α : Type} [Ordinate α] {r : Reader} {e : Encoding α} {native output : Int}

theorem decided_source (positive : 0 < native) (asked : 0 ≤ min output r.cap) :
    Decided (r.source e native output) := by
  by_cases refused : Rejected (r.source e native output)
  · exact .inr refused
  · rw [rejected_source_iff output positive] at refused
    simp only [not_forall, not_and, Classical.not_not] at refused
    obtain ⟨whole, placed⟩ := refused
    exact .inl ((exists_source_iff output positive whole (placed asked)).mpr asked)

/-- A compact point has three ordinates, which is enough for one coordinate. -/
theorem exists_runPoint (p : CompactPoint α) (dimensions : 2 ≤ native)
    (asked : 0 ≤ min output r.cap) :
    ∃ c, r.runPoint p native output =
        ⟨0, [.built (.geometry (.shape (.point c)))], .ok (.shape (.point c))⟩ ∧
      c = .ofRows (min output r.cap).toNat (Assembly.groups (min native 3).toNat
        (p.ordinates.length / (min native 3).toNat) p.ordinates) := by
  have positive : 0 < min native 3 := by omega
  have reach : min native 3 ≤ p.ordinates.length := by
    simp only [CompactPoint.ordinates, List.length_cons, List.length_nil]
    omega
  obtain ⟨c, assembled⟩ := Assembly.exists_assemble_of_le positive reach asked
  exact ⟨c, by rw [runPoint_eq, assembled], Assembly.eq_of_assemble positive assembled⟩

omit [Ordinate α] in
/-- A reader whose cap is not negative asks for a width. -/
theorem nonneg_of_cap (planar : 2 ≤ native) (capped : 0 ≤ r.cap) :
    0 ≤ min (r.settings.outputDimension native) r.cap := by
  have asked := r.two_le_outputDimension planar
  omega

/-- A reading gives a geometry or finds a fault of the encoding. -/
theorem decided_run (capped : 2 ≤ r.cap) (e : Encoding α) : Decided (r.run e).result := by
  cases interpreted : TypeCode.interpret e.typeCode with
  | error fault =>
    simp only [run_eq, interpreted]
    exact .inr ⟨fault, rfl⟩
  | ok d =>
    obtain ⟨planar, _⟩ := TypeCode.interpret_ok interpreted
    have asked := nonneg_of_cap (r := r) planar.1 (by omega)
    cases whole : e.wholePoint? with
    | some p =>
      obtain ⟨c, ran, _⟩ := r.exists_runPoint p planar.1 asked
      rw [run_of_wholePoint interpreted whole, ran]
      exact .ok _
    | none =>
      have positive : 0 < d.dimension := by omega
      rcases decided_source (e := e) positive asked with ⟨s, source⟩ | ⟨fault, refused⟩
      · have opens : r.Opens e d s := ⟨whole, interpreted, source⟩
        have width := opens.width_eq
        rw [opens.run_eq]
        refine Source.decided_build (opens.two_le_width capped) ?_ d
        rw [width, opens.cap_eq, Reader.width]
        omega
      · rw [run_of_elements interpreted whole, runElements_eq, refused]
        exact .inr ⟨fault, rfl⟩

end Reader

end TripletGeometry
