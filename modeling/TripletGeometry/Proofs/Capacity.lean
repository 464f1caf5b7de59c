import TripletGeometry.Proofs.Machines
import TripletGeometry.Proofs.Numbers
import TripletGeometry.Proofs.Offsets

/-!
Readings that a machine has the capacity for. The integers that a reading may have to write are
those of the encoding, the number of ordinates that is asked for, and small ones. The grids that it
may have to make have no more coordinates than half as many as there are ordinates, or the five of a
rectangle. Where all of these can be written and made the reading is the same as without limits.
-/
namespace TripletGeometry

variable {α β : Type}

/-! Runs. -/

namespace NumbersIn

variable {w : Writer} {result : Except Failure β}

theorem writer_result_eq (known : NumbersIn (w.writes · = true) result) :
    w.result result = result := by
  cases result with
  | ok value => rfl
  | error failure =>
    cases failure with
    | fault fault => rw [Writer.result_error_fault, Writer.raise_of_writes (known fault rfl)]
    | _ => rfl

end NumbersIn

/-- The machine has a grid for everything that the run puts together, and writes everything that it
notes and the fault that it may end with. -/
structure Machine.Bears (m : Machine) (run : Run α β) : Prop where
  grids : ∀ event ∈ run.events, m.refusal? event = none
  notes : ∀ note, .noted note ∈ run.events → ∀ n ∈ note.numbers, m.writes n = true
  faults : NumbersIn (m.writes · = true) run.result

namespace Machine.Bears

variable {m : Machine}

/-- A machine that bears a run does not change how it ends. -/
theorem result_ofRun {run : Run α β} (h : m.Bears run) : (m.ofRun run).result = run.result := by
  rw [ofRun, Run.upTo_of_plain h.grids, Writer.result_ofRun_of_written h.notes,
    h.faults.writer_result_eq]

theorem after_noted {run : Run α β} {note : Note} (h : m.Bears run)
    (written : ∀ n ∈ note.numbers, m.writes n = true) : m.Bears (run.after [.noted note]) where
  grids event member := by
    rcases List.mem_append.mp member with first | later
    · rw [List.mem_singleton.mp first]
      rfl
    · exact h.grids event later
  notes other member := by
    rcases List.mem_append.mp member with first | later
    · cases List.mem_singleton.mp first
      exact written
    · exact h.notes other later
  faults := h.faults

theorem fail {failure : Failure}
    (faults : NumbersIn (m.writes · = true) (.error failure : Except Failure β)) :
    m.Bears (Run.fail 0 failure : Run α β) where
  grids _ member := absurd member List.not_mem_nil
  notes _ member := absurd member List.not_mem_nil
  faults := faults

variable [Ordinate α]

/-- The planar form puts nothing else together and finds no other fault. -/
theorem render {run : Run α (Geometry α)} (h : m.Bears run) (form : Form) :
    m.Bears (form.render run) := by
  refine ⟨fun event member => h.grids event (form.mem_events_of_render member),
    fun note member => h.notes note (form.mem_events_of_render member), ?_⟩
  cases form with
  | tree => exact h.faults
  | planar =>
    refine FaultsIn.map ?_ _
    rcases run.upTo_cases Planar.eventRefusal? with same | ⟨event, _, failure, refused, ended⟩
    · rw [same]
      exact h.faults
    · intro fault same
      rw [ended] at same
      cases same
      exact absurd refused (Planar.eventRefusal?_ne_fault event fault)

end Machine.Bears

/-! Checks before anything is put together. -/

variable {w : Writer}

namespace Directory

variable {elements : List Element} {ordinateCount dimension : Int}

/-- What is said of a misplaced offset are integers of the elements, or counts. -/
theorem numbersIn_ofElements (nonzero : dimension ≠ 0)
    (written : ∀ e ∈ elements, ∀ n ∈ e.numbers, w.writes n = true)
    (count : w.writes ordinateCount = true) (size : w.writes dimension = true)
    (length : w.writes elements.length = true) :
    NumbersIn (w.writes · = true) (ofElements elements ordinateCount dimension) := by
  intro fault refused
  have misplaced := (rejected_ofElements_iff nonzero).mp ⟨fault, refused⟩
  obtain ⟨i, e, cause, at_⟩ := exists_refusedAt nonzero misplaced
  have same := at_.refused.symm.trans refused
  cases same
  have inside : i < elements.length := (List.getElem?_eq_some_iff.mp at_.found).1
  have offset {e : Element} (member : e ∈ elements) : w.writes e.offset = true :=
    written e member _ (List.mem_cons_self ..)
  have here := offset (List.mem_of_getElem? at_.found)
  intro n member
  rcases List.mem_append.mp member with known | known
  · cases at_.misplaced with
    | belowStart =>
      rw [List.mem_singleton.mp known]
      exact here
    | decreases behind =>
      have earlier := offset (List.mem_of_mem_take (List.mem_of_getLast? behind))
      rcases List.mem_cons.mp known with rfl | known
      · exact here
      · rw [List.mem_singleton.mp known]
        exact earlier
    | pastOrdinates =>
      rcases List.mem_cons.mp known with rfl | known
      · exact here
      · rw [List.mem_singleton.mp known]
        exact count
    | insideCoordinate =>
      rcases List.mem_cons.mp known with rfl | known
      · exact here
      · rw [List.mem_singleton.mp known]
        exact size
  · rcases List.mem_append.mp known with index | listed
    · rw [List.mem_singleton.mp index]
      exact Writer.writes_of_natAbs_le length (by omega)
    · obtain ⟨e, member, known⟩ := List.mem_flatMap.mp listed
      exact written e member n known

end Directory

namespace Assembly

variable [Ordinate α] {memory : Option Nat} {cap native output : Int} {ordinates : List α}
  {checkLength : Bool}

theorem numbersIn_assemble (positive : 0 < native) (size : w.writes native = true) :
    NumbersIn (w.writes · = true)
      (assemble memory cap ordinates native output checkLength) := by
  intro fault refused
  obtain ⟨rfl, uneven⟩ := (rejected_assemble_iff _ _ _ _ positive).mp ⟨fault, refused⟩
  rw [assemble_of_partial positive uneven] at refused
  cases refused
  intro n member
  rw [List.mem_singleton.mp member]
  exact size

theorem makeCapped_of_check {count : Int}
    (grid : Extent.check memory count (min output cap) = .ok ()) :
    Coordinates.makeCapped (α := α) memory cap count output =
      Coordinates.makeCapped none cap count output := by
  have nonneg := Extent.nonneg_of_check grid
  rw [Coordinates.makeCapped, Coordinates.makeCapped, Coordinates.make, Coordinates.make, grid,
    Extent.check_none nonneg.1 nonneg.2]

/-- Groups of two to four ordinates are counted without overflow, on any machine. -/
theorem checkGroups_of_le_four {count : Int} (least : 2 ≤ native) (most : native ≤ 4) :
    checkGroups memory count native = .ok () := by
  unfold checkGroups
  split
  · obtain rfl | rfl | rfl : native = 2 ∨ native = 3 ∨ native = 4 := by omega
    · rfl
    · rfl
    · rfl
  · rfl

/-- Where there are grids of the width for half as many coordinates as there are ordinates, assembly
is the same as without limits. -/
theorem assemble_of_grids (least : 2 ≤ native) (most : native ≤ 4)
    (grids : ∀ count : Nat, count ≤ ordinates.length / 2 →
      Extent.check memory count (min output cap) = .ok ()) :
    assemble memory cap ordinates native output checkLength =
      assemble none cap ordinates native output checkLength := by
  have counted : (ordinates.length : Int).fdiv native =
      ((ordinates.length / native.toNat : Nat) : Int) := by
    obtain ⟨size, rfl⟩ := Int.eq_ofNat_of_zero_le (by omega : 0 ≤ native)
    exact (Int.ofNat_fdiv ..).symm
  have row := makeCapped_of_check (α := α) (grids 0 (Nat.zero_le _))
  have rows := makeCapped_of_check (α := α) (grids _ (Nat.div_le_div_left (by omega) (by decide) :
    ordinates.length / native.toNat ≤ ordinates.length / 2))
  simp only [assemble, counted, checkGroups_of_le_four least most]
  rw [rows]
  split
  · exact congrArg _ row
  · rfl

end Assembly

/-! Building. -/

namespace Source

variable [Ordinate α] {m : Machine} {s : Source α}

/-- A ring has no more coordinates than the source, or the five of a rectangle. -/
theorem size_of_ringAt {i : Nat} {ring : Coordinates α} (ok : s.ringAt i = .ok ring) :
    ring.size ≤ max s.coordinates.size 5 := by
  obtain ⟨_, ⟨_, two, made⟩ | ⟨_, _, _, rfl⟩⟩ := ringAt_ok ok
  · rw [Ring.size_of_rectangle two made]
    omega
  · have part := s.size_elementCoordinates_le i
    omega

/-- The grids of a building are as wide as the coordinates, and its integers are known ones. -/
theorem bears_build (d : TypeCode.Descriptor)
    (capped : s.coordinates.width ≤ s.cap) (typeCode : m.writes d.typeCode = true)
    (knows : ∀ n, s.Knows n → m.writes n = true)
    (grids : ∀ count : Nat, count ≤ max s.coordinates.size 5 →
      Extent.check m.memory count s.coordinates.width = .ok ()) : m.Bears (s.build d 0) := by
  refine ⟨fun event member => ?_, fun note noted => ?_, fun fault refused => ?_⟩
  · cases event with
    | noted note => rfl
    | built node =>
      cases makes_of_build d member with
      | ring read =>
        have grid := grids _ (size_of_ringAt read)
        rw [← width_of_ringAt capped read] at grid
        simp only [Machine.refusal?, grid]
      | _ => rfl
  · rcases concludes_build (Nat.zero_le s.directory.count) d with concludes | unsupported
    · exact fun n member => knows n (concludes.knows_of_noted noted n member)
    · rw [unsupported] at noted
      exact absurd noted List.not_mem_nil
  · rcases concludes_build (Nat.zero_le s.directory.count) d with concludes | unsupported
    · have tells := tells_of_failsAt concludes.within.2 (concludes.fails refused)
      exact fun n member => knows n (tells.known n member)
    · rw [unsupported] at refused
      cases refused
      intro n member
      rw [List.mem_singleton.mp member]
      exact typeCode

end Source

/-! Readings. -/

section Readings

variable [Ordinate α]

/-- The machine writes whatever a reading may have to write, and has a grid for whatever it may have
to make. -/
structure Machine.Serves (m : Machine) (r : Reader) (e : Encoding α) : Prop where
  typeCode : m.writes e.typeCode = true
  elements : ∀ t ∈ e.elements, ∀ n ∈ t.numbers, m.writes n = true
  output : m.writes (r.settings.outputDimension (TypeCode.dimension e.typeCode)) = true
  sizes : m.writes (e.elements.length + 2 * e.ordinates.length + 9) = true
  grids : ∀ count : Nat, count ≤ max (e.ordinates.length / 2) 5 →
    Extent.check m.memory count (r.width (TypeCode.dimension e.typeCode)) = .ok ()

namespace Machine.Serves

variable {m : Machine} {r : Reader} {e : Encoding α} {d : TypeCode.Descriptor}

omit [Ordinate α] in
theorem writes_of_le (h : m.Serves r e) {n : Int}
    (small : n.natAbs ≤ e.elements.length + 2 * e.ordinates.length + 9) : m.writes n = true :=
  Writer.writes_of_natAbs_le h.sizes (by omega)

omit [Ordinate α] in
theorem ideal (r : Reader) (e : Encoding α) : Machine.ideal.Serves r e where
  typeCode := Writer.writes_ideal _
  elements _ _ _ _ := Writer.writes_ideal _
  output := Writer.writes_ideal _
  sizes := Writer.writes_ideal _
  grids _ _ := Extent.check_none (Int.natCast_nonneg _) (Int.natCast_nonneg _)

section Capped

variable (h : m.Serves r e) (capped : 0 ≤ r.cap)
include h capped

omit [Ordinate α] in
theorem check_of_le (interpreted : TypeCode.interpret e.typeCode = .ok d) {count : Nat}
    (within : count ≤ max (e.ordinates.length / 2) 5) :
    Extent.check m.memory count (min (r.settings.outputDimension d.dimension) r.cap) = .ok () := by
  obtain ⟨⟨planar, _⟩, _⟩ := TypeCode.interpret_ok interpreted
  have asked := Reader.nonneg_of_cap (r := r) planar (by omega)
  have grid := h.grids count within
  rwa [(TypeCode.digits_of_interpret interpreted).1, Reader.width,
    Int.toNat_of_nonneg asked] at grid

/-- The reading comes to its coordinates as it does without limits. -/
theorem runIn_eq : Reader.runIn m.memory r e = r.run e := by
  cases interpreted : TypeCode.interpret e.typeCode with
  | error fault => simp only [Reader.runIn, Reader.run_eq, interpreted]
  | ok d =>
    obtain ⟨⟨least, most⟩, _⟩ := TypeCode.interpret_ok interpreted
    cases whole : e.wholePoint? with
    | some p =>
      rw [Reader.runIn_of_wholePoint interpreted whole, Reader.run_of_wholePoint interpreted whole,
        Reader.runPointIn, Reader.runPoint_eq,
        Assembly.assemble_of_grids (by omega) (by omega) fun count within => ?_]
      have three : p.ordinates.length = 3 := rfl
      exact h.check_of_le capped interpreted (by omega)
    | none =>
      rw [Reader.runIn_of_elements interpreted whole, Reader.run_of_elements interpreted whole,
        Reader.runElementsIn, Reader.runElements_eq, Reader.source_eq, Reader.sourceIn,
        Assembly.assemble_of_grids least most fun count within => ?_]
      exact h.check_of_le capped interpreted (by omega)

omit capped in
theorem numbersIn_source (interpreted : TypeCode.interpret e.typeCode = .ok d) (output : Int) :
    NumbersIn (m.writes · = true) (r.source e d.dimension output) := by
  obtain ⟨⟨least, most⟩, _⟩ := TypeCode.interpret_ok interpreted
  have size : m.writes d.dimension = true := h.writes_of_le (by omega)
  exact (Assembly.numbersIn_assemble (by omega) size).bind fun _ _ =>
    (Directory.numbersIn_ofElements (by omega) h.elements (h.writes_of_le (by omega)) size
      (h.writes_of_le (by omega))).bind fun _ _ => .ok _

theorem bears_build {s : Source α} (opens : r.Opens e d s) : m.Bears (s.build d 0) := by
  obtain ⟨⟨least, most⟩, _⟩ := TypeCode.interpret_ok opens.interpreted
  obtain ⟨elements, ordinateCount, _⟩ := Reader.source_ok opens.source
  have described := TypeCode.typeCode_of_interpret opens.interpreted
  have width := opens.width_eq
  have size : s.coordinates.size ≤ e.ordinates.length / 2 := by
    rw [opens.coordinates_eq, Coordinates.size, Coordinates.ofRows, List.length_map,
      Assembly.length_groups]
    exact Nat.div_le_div_left (by omega) (by decide)
  refine Source.bears_build d ?_ ?_ (fun n known => ?_)
    fun count within => ?_
  · rw [width, opens.cap_eq, Reader.width]
    omega
  · rw [described]
    exact h.typeCode
  · rcases known with listed | small
    · obtain ⟨t, member, known⟩ := List.mem_flatMap.mp listed
      rw [elements] at member
      exact h.elements t member n known
    · refine h.writes_of_le ?_
      simp only [Source.bound, Directory.count, elements, ordinateCount] at small
      omega
  · have grid := h.grids count (by omega)
    rwa [(TypeCode.digits_of_interpret opens.interpreted).1, ← width] at grid

/-- A machine that serves the encoding bears the whole reading. -/
theorem bears_run : m.Bears (r.run e) := by
  cases interpreted : TypeCode.interpret e.typeCode with
  | error fault =>
    simp only [Reader.run_eq, interpreted]
    refine .fail fun other same => ?_
    cases same
    exact (TypeCode.writes_numbers_iff interpreted).mpr h.typeCode
  | ok d =>
    obtain ⟨⟨least, _⟩, _⟩ := TypeCode.interpret_ok interpreted
    have typeCode : ∀ n ∈ [e.typeCode], m.writes n = true := by simp [h.typeCode]
    cases whole : e.wholePoint? with
    | some p =>
      obtain ⟨c, ran, _⟩ := r.exists_runPoint p least (Reader.nonneg_of_cap least (by omega))
      rw [Reader.run_of_wholePoint interpreted whole, ran]
      refine .after_noted ⟨fun event member => ?_, fun note noted => ?_, .ok _⟩ typeCode
      · rw [List.mem_singleton.mp member]
        rfl
      · cases List.mem_singleton.mp noted
    | none =>
      have output := h.output
      rw [(TypeCode.digits_of_interpret interpreted).1] at output
      rw [Reader.run_of_elements interpreted whole, Reader.runElements_eq]
      refine .after_noted ?_ (by simp [Note.numbers, h.typeCode, output])
      cases source : r.source e d.dimension (r.settings.outputDimension d.dimension) with
      | error failure =>
        have known := h.numbersIn_source interpreted
          (r.settings.outputDimension d.dimension)
        rw [source] at known
        exact .fail fun fault same => known fault (by cases same; rfl)
      | ok s => exact h.bears_build capped ⟨whole, interpreted, source⟩

/-- A machine that serves a reading has no part in how it ends. -/
theorem result_readOn (form : Form) :
    (r.readOn m form (some e)).result = (r.read form (some e)).result := by
  rw [Reader.result_readOn, h.runIn_eq capped, ((h.bears_run capped).render form).result_ofRun]
  rfl

end Capped

/-- A reading that the machine can bear gives a geometry or a fault of the encoding. -/
theorem decided_readOn (h : m.Serves r e) (capped : 2 ≤ r.cap) :
    Decided (r.readOn m .tree (some e)).result := by
  rw [h.result_readOn (by omega), Reader.result_read_tree, decided_map_iff]
  exact Reader.decided_run capped e

end Machine.Serves

end Readings

end TripletGeometry
