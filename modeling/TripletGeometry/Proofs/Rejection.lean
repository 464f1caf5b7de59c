import TripletGeometry.Proofs.Grouping
import TripletGeometry.Proofs.Reading

/-!
When an encoding is rejected, which means that the reading ends with a fault of the encoding and not
with any other failure. What comes before the building rejects ordinates that leave a coordinate
unfinished and elements that are out of place; what the form of the geometry refuses is no fault of
the encoding.
-/
namespace TripletGeometry

variable {α β γ : Type}

/-- The result is a fault of the encoding. -/
def Rejected (result : Except Failure β) : Prop :=
  ∃ fault : Fault, result = .error (.fault fault)

section Results

variable {x : Except Failure β}

theorem not_rejected_ok {b : β} : ¬ Rejected (.ok b : Except Failure β) := by
  intro rejected
  obtain ⟨_, same⟩ := rejected
  cases same

theorem rejected_error_iff {failure : Failure} :
    Rejected (.error failure : Except Failure β) ↔ ∃ fault, failure = .fault fault := by
  simp only [Rejected, Except.error.injEq]

theorem rejected_map_iff {f : β → γ} : Rejected (x.map f) ↔ Rejected x := by
  cases x <;> simp [Rejected, Except.map]

/-- Steps are refused at the first of them that is. -/
theorem rejected_bind_iff {f : β → Except Failure γ} :
    Rejected (x.bind f) ↔ Rejected x ∨ ∃ b, x = .ok b ∧ Rejected (f b) := by
  cases x <;> simp [Rejected, Except.bind]

theorem Directory.Refuses.rejected {d : Directory} {i : Nat} (h : d.Refuses i x) : Rejected x := by
  obtain ⟨fault, refused, _⟩ := h
  exact ⟨fault, refused⟩

end Results

/-! Coordinates. -/

namespace Extent

theorem not_rejected_multiply (bytes extent : Int) : ¬ Rejected (multiply bytes extent) := by
  intro rejected
  obtain ⟨fault, refused⟩ := rejected
  unfold multiply at refused
  split at refused
  · cases refused
  split at refused
  · cases refused
  split at refused <;> cases refused

theorem not_rejected_bytes (count width : Int) : ¬ Rejected (bytes count width) := by
  unfold bytes
  split
  · rw [rejected_bind_iff]
    intro rejected
    rcases rejected with first | ⟨_, _, second⟩
    · exact not_rejected_multiply _ _ first
    · exact not_rejected_multiply _ _ second
  · intro rejected
    obtain ⟨_, same⟩ := rejected
    cases same

/-- A grid that is too large is no fault of the encoding. -/
theorem not_rejected_check (memory : Option Nat) (count width : Int) :
    ¬ Rejected (check memory count width) := by
  unfold check
  split
  · split
    · intro rejected
      obtain ⟨_, same⟩ := rejected
      cases same
    · exact not_rejected_ok
  · rw [rejected_bind_iff]
    intro rejected
    rcases rejected with first | ⟨_, _, _, second⟩
    · exact not_rejected_bytes _ _ first
    · split at second <;> cases second

end Extent

/-! Coordinates that cannot be looked up are no fault of the encoding. -/

namespace Coordinates

theorem not_rejected_coordinate (c : Coordinates α) (index : Int) :
    ¬ Rejected (c.coordinate index) := by
  rintro ⟨fault, refused⟩
  simp only [coordinate, checkPosition, rowPosition, bind, Except.bind] at refused
  split at refused
  · rename_i failed
    split at failed
    · cases failed
    · split at failed <;> cases failed <;> cases refused
  · split at refused
    · rename_i failed
      split at failed <;> cases failed
      cases refused
    · cases refused

theorem not_rejected_column [Ordinate α] (c : Coordinates α) (ordinate : Int) :
    ¬ Rejected (c.column ordinate) := by
  rw [column, rejected_map_iff]
  rintro ⟨fault, refused⟩
  unfold columnPosition at refused
  split at refused <;> cases refused

theorem not_rejected_cappedWidth (cap : Int) (width : Nat) :
    ¬ Rejected (cappedWidth cap width) := by
  rintro ⟨fault, refused⟩
  unfold cappedWidth at refused
  split at refused
  · cases refused
  · split at refused <;> cases refused

end Coordinates

namespace Ring

theorem not_rejected_rectangleRows (low high : List α) : ¬ Rejected (rectangleRows low high) := by
  rintro ⟨fault, refused⟩
  unfold rectangleRows at refused
  split at refused <;> cases refused

variable [Ordinate α]

theorem not_rejected_rectangle (cap : Int) (corners : Coordinates α) :
    ¬ Rejected (rectangle cap corners) := by
  intro rejected
  rcases rejected_bind_iff.mp rejected with low | ⟨_, _, rejected⟩
  · exact Coordinates.not_rejected_coordinate _ _ low
  rcases rejected_bind_iff.mp rejected with high | ⟨_, _, rejected⟩
  · exact Coordinates.not_rejected_coordinate _ _ high
  rcases rejected_bind_iff.mp rejected with width | ⟨_, _, rejected⟩
  · exact Coordinates.not_rejected_cappedWidth _ _ width
  rcases rejected_bind_iff.mp rejected with rows | ⟨_, _, rejected⟩
  · exact not_rejected_rectangleRows _ _ rows
  · exact not_rejected_ok rejected

theorem not_rejected_isClockwise (ring : Coordinates α) : ¬ Rejected (isClockwise ring) := by
  rw [isClockwise, rejected_map_iff]
  intro rejected
  rcases rejected_bind_iff.mp rejected with xs | ⟨_, _, rejected⟩
  · exact Coordinates.not_rejected_column _ _ xs
  rcases rejected_bind_iff.mp rejected with ys | ⟨_, _, rejected⟩
  · exact Coordinates.not_rejected_column _ _ ys
  · exact not_rejected_ok rejected

end Ring

namespace Coordinates

variable [Ordinate α]

theorem not_rejected_makeCapped (memory : Option Nat) (cap count dimension : Int) :
    ¬ Rejected (makeCapped memory cap count dimension : Except Failure (Coordinates α)) := by
  rw [makeCapped, make, rejected_map_iff]
  exact Extent.not_rejected_check _ _ _

/-- In unbounded memory there are coordinates of all extents. -/
theorem exists_makeCapped_iff {cap count dimension : Int} (counted : 0 ≤ count) :
    (∃ c : Coordinates α, makeCapped none cap count dimension = .ok c) ↔
      0 ≤ min dimension cap := by
  simp only [makeCapped, make_eq_ok_iff, exists_and_left, exists_eq, and_true, Extent.check]
  split <;> simp only [reduceCtorEq, false_iff, true_iff] <;> omega

end Coordinates

namespace Assembly

variable [Ordinate α] (memory : Option Nat) (cap output : Int) (checkLength : Bool) {native : Int}
  {ordinates : List α}

theorem not_rejected_checkGroups (count native : Int) :
    ¬ Rejected (checkGroups memory count native) := by
  unfold checkGroups
  split
  · rw [rejected_map_iff]
    exact Extent.not_rejected_bytes _ _
  · exact not_rejected_ok

/-- Only the check of the length rejects anything. -/
theorem rejected_assemble_iff (positive : 0 < native) :
    Rejected (assemble memory cap ordinates native output checkLength) ↔
      checkLength = true ∧ ¬ native ∣ ordinates.length := by
  have nonzero : ¬ native = 0 := by omega
  simp only [assemble, nonzero, if_false]
  split
  · rename_i empty
    rw [List.isEmpty_iff.mp empty, rejected_map_iff]
    refine iff_of_false (Coordinates.not_rejected_makeCapped _ _ _ _) ?_
    simp
  split
  · rename_i partly
    exact iff_of_true ⟨_, rfl⟩ partly
  · rename_i whole
    refine iff_of_false ?_ whole
    intro rejected
    rcases rejected_bind_iff.mp rejected with first | ⟨_, _, rejected⟩
    · exact Coordinates.not_rejected_makeCapped _ _ _ _ first
    rcases rejected_bind_iff.mp rejected with second | ⟨_, _, rejected⟩
    · exact not_rejected_checkGroups _ _ _ second
    · exact not_rejected_ok rejected

/-- Ordinates that leave a coordinate unfinished are refused before anything is made. -/
theorem assemble_of_partial {memory : Option Nat} {cap output : Int} (positive : 0 < native)
    (uneven : ¬ native ∣ (ordinates.length : Int)) :
    assemble memory cap ordinates native output true =
      .error (.fault (.malformed (.partialCoordinate native ordinates.length) .unknown)) := by
  have nonzero : ¬ native = 0 := by omega
  have filled : ordinates.isEmpty = false := by
    cases ordinates with
    | nil => exact absurd (Int.dvd_zero native) uneven
    | cons => rfl
  simp only [assemble, filled, nonzero, uneven, Bool.false_eq_true, if_false, not_false_eq_true,
    and_self, if_true]

/-- Without limits whole coordinates are assembled unless fewer than none are asked for. -/
theorem exists_assemble_iff (positive : 0 < native) (whole : native ∣ ordinates.length) :
    (∃ c, assemble none cap ordinates native output checkLength = .ok c) ↔
      0 ≤ min output cap := by
  obtain ⟨size, rfl⟩ := Int.eq_ofNat_of_zero_le (Int.le_of_lt positive)
  have divides : size ∣ ordinates.length := Int.natCast_dvd_natCast.mp whole
  have reach : ordinates = [] ∨ size ≤ ordinates.length :=
    (Nat.eq_zero_or_pos ordinates.length).imp List.eq_nil_of_length_eq_zero
      fun filled => Nat.le_of_dvd filled divides
  have counted : (0 : Int) ≤ ↑(ordinates.length / size) := Int.natCast_nonneg _
  rw [assemble_eq none cap output (by omega) (fun _ => divides) reach,
    ← Coordinates.exists_makeCapped_iff (α := α) counted]
  simp only [map_eq_ok]
  constructor
  · rintro ⟨_, c, made, _⟩
    exact ⟨c, made⟩
  · rintro ⟨c, made⟩
    exact ⟨_, c, made, rfl⟩

end Assembly

/-! Directories. -/

namespace Directory

variable {elements : List Element} {info : ElementInfo} {ordinateCount dimension previous : Int}
  {index : Nat}

theorem checkFrom_ok_or_rejected (nonzero : dimension ≠ 0) :
    checkFrom info ordinateCount dimension index previous elements = .ok () ∨
      Rejected (checkFrom info ordinateCount dimension index previous elements) := by
  induction elements generalizing index previous with
  | nil => exact .inl rfl
  | cons e rest ih =>
    simp only [checkFrom]
    split
    · exact .inr ⟨_, rfl⟩
    split
    · exact .inr ⟨_, rfl⟩
    split
    · exact .inr ⟨_, rfl⟩
    · exact ih

/-- Elements in place pass. The induction is on the elements that are left. -/
theorem checkFrom_of_inPlace (nonzero : dimension ≠ 0)
    (ascending : elements.Pairwise fun a b => a.offset ≤ b.offset)
    (inside : ∀ e ∈ elements, previous ≤ e.offset ∧ e.offset ≤ ordinateCount)
    (aligned : ∀ e ∈ elements, dimension ∣ e.offset - 1) :
    checkFrom info ordinateCount dimension index previous elements = .ok () := by
  induction elements generalizing index previous with
  | nil => rfl
  | cons e rest ih =>
    obtain ⟨first, others⟩ := List.pairwise_cons.mp ascending
    have here := inside e (List.mem_cons_self ..)
    simp only [checkFrom]
    rw [if_neg (by omega), if_neg (by omega), if_neg nonzero,
      if_neg (not_not_intro (aligned e (List.mem_cons_self ..)))]
    refine ih others ?_ fun t member => aligned t (List.mem_cons_of_mem _ member)
    intro t member
    exact ⟨first t member, (inside t (List.mem_cons_of_mem _ member)).2⟩

theorem ofElements_of_inPlace (nonzero : dimension ≠ 0)
    (placed : InPlace elements ordinateCount dimension) :
    ofElements elements ordinateCount dimension =
      .ok ⟨elements, ordinateCount, dimension, placed⟩ := by
  have checked : checkFrom (.listed elements) ordinateCount dimension 0 1 elements = .ok () :=
    checkFrom_of_inPlace nonzero placed.ascending placed.inside placed.aligned
  unfold ofElements
  split
  · rename_i refused
    rw [checked] at refused
    cases refused
  · rfl

theorem ofElements_of_error {failure : Failure}
    (refused : checkFrom (.listed elements) ordinateCount dimension 0 1 elements =
      .error failure) : ofElements elements ordinateCount dimension = .error failure := by
  unfold ofElements
  split
  · rename_i failed
    rw [refused] at failed
    cases failed
    rfl
  · rename_i passed
    rw [refused] at passed
    cases passed

/-- A directory is refused just if its elements are out of place. -/
theorem rejected_ofElements_iff (nonzero : dimension ≠ 0) :
    Rejected (ofElements elements ordinateCount dimension) ↔
      ¬ InPlace elements ordinateCount dimension := by
  constructor
  · intro rejected placed
    rw [ofElements_of_inPlace nonzero placed] at rejected
    exact not_rejected_ok rejected
  · intro misplaced
    have checked : checkFrom (.listed elements) ordinateCount dimension 0 1 elements = .ok () ∨
        Rejected (checkFrom (.listed elements) ordinateCount dimension 0 1 elements) :=
      checkFrom_ok_or_rejected nonzero
    rcases checked with passed | ⟨fault, refused⟩
    · exact absurd (inPlace_of_check passed) misplaced
    · exact ⟨fault, ofElements_of_error refused⟩

end Directory

/-! Planar forms. -/

namespace Planar

variable [Ordinate α] {events : List (Event α)}

omit [Ordinate α] in
theorem widthRefusal?_ne_fault (c : Coordinates α) (fault : Fault) :
    widthRefusal? c ≠ some (.fault fault) := by
  unfold widthRefusal?
  split <;> nofun

theorem refusal?_ne_fault (node : Node α) (fault : Fault) :
    refusal? node ≠ some (.fault fault) := by
  intro refused
  unfold refusal? at refused
  split at refused
  · rename_i ring
    unfold ringRefusal? at refused
    split at refused
    · rename_i found
      cases refused
      exact widthRefusal?_ne_fault ring fault found
    split at refused
    · cases refused
    · split at refused <;> cases refused
  · rename_i point
    unfold pointRefusal? at refused
    split at refused
    · cases refused
    split at refused
    · cases refused
    · exact widthRefusal?_ne_fault point fault refused
  · rename_i line
    unfold lineRefusal? at refused
    split at refused
    · cases refused
    · exact widthRefusal?_ne_fault line fault refused
  · exact widthRefusal?_ne_fault _ fault refused
  · cases refused

/-- What the planar form refuses is no fault of the encoding. -/
theorem eventRefusal?_ne_fault (event : Event α) (fault : Fault) :
    eventRefusal? event ≠ some (.fault fault) := by
  cases event with
  | built node => exact refusal?_ne_fault node fault
  | noted note => nofun

theorem eventRefusal?_eq_none (h : ∀ node, .built node ∈ events → refusal? node = none) :
    ∀ event ∈ events, eventRefusal? event = none := by
  intro event member
  cases event with
  | built node => exact h node member
  | noted note => rfl

theorem ofRun_of_plain {run : Run α (Geometry α)}
    (h : ∀ node, .built node ∈ run.events → refusal? node = none) :
    ofRun run = run.map (Geometry.mapRings closeRing) := by
  rw [ofRun, Run.upTo_of_plain (eventRefusal?_eq_none h)]

end Planar

/-! Readings. -/

theorem Form.not_rejected_place (form : Form) (srid : Option Int) (g : Geometry α) :
    ¬ Rejected (form.place srid g) := by
  intro rejected
  obtain ⟨fault, refused⟩ := rejected
  unfold place at refused
  split at refused
  · split at refused
    · cases refused
    · split at refused <;> cases refused
  · cases refused

namespace Reader

variable [Ordinate α] {r : Reader} {form : Form} {e : Encoding α}

theorem rejected_read_iff_render : Rejected (r.read form (some e)).result ↔
    Rejected (form.render (r.run e)).result := by
  simp only [read, Report.present, readEncoding, report, rejected_map_iff, rejected_bind_iff,
    Form.not_rejected_place, and_false, exists_false, or_false]

theorem rejected_run_of_read (rejected : Rejected (r.read form (some e)).result) :
    Rejected (r.run e).result := by
  rw [rejected_read_iff_render] at rejected
  cases form with
  | tree => exact rejected
  | planar =>
    rw [Form.render, Planar.ofRun, Run.map, rejected_map_iff] at rejected
    obtain same | ⟨event, _, failure, refused, ended⟩ :=
      (r.run e).upTo_cases Planar.eventRefusal?
    · rwa [same] at rejected
    · rw [ended, rejected_error_iff] at rejected
      obtain ⟨fault, rfl⟩ := rejected
      exact absurd refused (Planar.eventRefusal?_ne_fault event fault)

/-- Where the planar form has nothing to refuse, the form does not matter. -/
theorem rejected_read_iff (plain : ∀ node, .built node ∈ (r.run e).events →
    Planar.refusal? node = none) :
    Rejected (r.read form (some e)).result ↔ Rejected (r.run e).result := by
  rw [rejected_read_iff_render]
  cases form with
  | tree => rfl
  | planar =>
    rw [Form.render, Planar.ofRun_of_plain plain]
    exact rejected_map_iff

/-- A compact point is never refused. -/
theorem not_rejected_runPoint (p : CompactPoint α) {native : Int} (output : Int)
    (positive : 0 < native) : ¬ Rejected (r.runPoint p native output).result := by
  rw [runPoint_eq]
  split
  · rename_i failure failed
    intro rejected
    obtain ⟨fault, same⟩ := rejected
    cases same
    have unchecked :=
      (Assembly.rejected_assemble_iff none r.cap output false (by omega)).mp ⟨fault, failed⟩
    cases unchecked.1
  · exact not_rejected_ok

variable {native : Int} (output : Int)

/-- A source is refused for an unfinished coordinate, or, if coordinates can be made, for elements
out of place. -/
theorem rejected_source_iff (positive : 0 < native) :
    Rejected (r.source e native output) ↔ (native ∣ (e.ordinates.length : Int) →
      0 ≤ min output r.cap ∧ ¬ InPlace e.elements e.ordinates.length native) := by
  have nonzero : native ≠ 0 := by omega
  have checked : Rejected (Assembly.assemble none r.cap e.ordinates native output true) ↔ _ :=
    Assembly.rejected_assemble_iff none r.cap output true positive
  by_cases whole : native ∣ (e.ordinates.length : Int)
  · have made := Assembly.exists_assemble_iff r.cap output true positive whole
    constructor
    · intro rejected _
      rcases rejected_bind_iff.mp rejected with partly | ⟨c, assembles, rejected⟩
      · exact absurd whole (checked.mp partly).2
      · refine ⟨made.mp ⟨c, assembles⟩, ?_⟩
        rcases rejected_bind_iff.mp rejected with misplaced | ⟨_, _, given⟩
        · exact (Directory.rejected_ofElements_iff nonzero).mp misplaced
        · exact absurd given not_rejected_ok
    · intro h
      obtain ⟨asked, misplaced⟩ := h whole
      obtain ⟨c, assembles⟩ := made.mpr asked
      have refused := (Directory.rejected_ofElements_iff nonzero).mpr misplaced
      exact rejected_bind_iff.mpr (.inr ⟨c, assembles, rejected_bind_iff.mpr (.inl refused)⟩)
  · refine iff_of_true ?_ fun divides => absurd divides whole
    exact rejected_bind_iff.mpr (.inl (checked.mpr ⟨rfl, whole⟩))

/-- Elements in place make a source. -/
theorem exists_source_iff (positive : 0 < native) (whole : native ∣ (e.ordinates.length : Int))
    (placed : InPlace e.elements e.ordinates.length native) :
    (∃ s, r.source e native output = .ok s) ↔ 0 ≤ min output r.cap := by
  have nonzero : native ≠ 0 := by omega
  rw [← Assembly.exists_assemble_iff r.cap output true positive whole]
  constructor
  · intro given
    obtain ⟨s, ok⟩ := given
    obtain ⟨c, assembles, _⟩ := bind_eq_ok.mp ok
    exact ⟨c, assembles⟩
  · intro given
    obtain ⟨c, assembles⟩ := given
    have directory := Directory.ofElements_of_inPlace nonzero placed
    exact ⟨_, bind_eq_ok.mpr ⟨c, assembles, bind_eq_ok.mpr ⟨_, directory, rfl⟩⟩⟩

end Reader

end TripletGeometry
