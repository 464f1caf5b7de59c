import TripletGeometry.Ordinate.Exact
import TripletGeometry.Proofs.Numbers

/-!
Sessions of building: one geometry after the other, each from where the one before has stopped, be
it by failing. Whatever the sequence of type codes, the cursor moves forward only and stays within
the elements, and a fault that names an element names the one at the cursor.
-/
namespace TripletGeometry

variable {α β : Type}

/-- Past the last element there is the sentinel to blame. -/
theorem Directory.contextAt_count (d : Directory) : d.contextAt d.count =
    ⟨some d.count, some ElementCode.finish, some Interpretation.finish, some d.info⟩ := by
  rw [contextAt, entryAt_of_count_le (Nat.le_refl d.count)]
  rfl

/-- A type code that cannot be interpreted is not the fault of any element. -/
theorem TypeCode.context_of_interpret {typeCode : Int} {fault : Fault}
    (failed : interpret typeCode = .error fault) : fault.context = .unknown := by
  have reads := reads_interpret typeCode
  rw [failed] at reads
  cases reads with
  | dimension | measure | topology => rfl

namespace Source

variable [Ordinate α] {s : Source α} {i : Nat}

/-! Buildings. -/

/-- A building that starts at the index keeps the cursor in order: it moves forward and stays within
the elements. A fault that has an index is one of the entry at the cursor, be it an element or the
sentinel; one of an unsupported type has none, and the cursor has not moved. -/
structure Keeps (s : Source α) (start : Nat) (run : Run α (Geometry α)) : Prop where
  le_cursor : start ≤ run.cursor
  cursor_le : run.cursor ≤ s.directory.count
  blames : ∀ fault index, run.result = .error (.fault fault) → fault.context.index = some index →
    fault.context = s.directory.contextAt run.cursor
  sentinel : ∀ fault index, run.result = .error (.fault fault) →
    fault.context.index = some index → run.cursor = s.directory.count →
    fault.context = ⟨some s.directory.count, some (-1), some (-1), some s.directory.info⟩
  unsupported : ∀ typeCode, run.result = .error (.fault (.unsupportedType typeCode)) →
    (Fault.unsupportedType typeCode).context.index = none ∧ run.cursor = start

theorem Concludes.context {run : Run α (Geometry α)} (h : s.Concludes i run) {fault : Fault}
    (failed : run.result = .error (.fault fault)) :
    fault.context = s.directory.contextAt run.cursor :=
  (tells_of_failsAt h.within.2 (h.fails failed)).context

theorem Concludes.keeps {run : Run α (Geometry α)} (h : s.Concludes i run) : s.Keeps i run where
  le_cursor := h.within.1
  cursor_le := h.within.2
  blames fault _ failed _ := h.context failed
  sentinel fault _ failed _ last := by
    rw [h.context failed, last, Directory.contextAt_count]
  unsupported typeCode failed := by
    have named := h.context failed
    cases named

omit [Ordinate α] in
/-- A fault of the type code names no element, and nothing has been read. -/
theorem keeps_fail (inside : i ≤ s.directory.count) {fault : Fault}
    (unnamed : fault.context.index = none) :
    s.Keeps i (Run.fail i (.fault fault) : Run α (Geometry α)) where
  le_cursor := Nat.le_refl i
  cursor_le := inside
  blames other index same named := by
    cases same
    rw [unnamed] at named
    cases named
  sentinel other index same named := by
    cases same
    rw [unnamed] at named
    cases named
  unsupported _ _ := ⟨rfl, rfl⟩

/-- A building keeps the cursor at the element it blames. -/
theorem keeps_build (inside : i ≤ s.directory.count) (d : TypeCode.Descriptor) :
    s.Keeps i (s.build d i) := by
  rcases concludes_build inside d with concludes | refused
  · exact concludes.keeps
  · rw [refused]
    exact keeps_fail inside rfl

theorem keeps_buildCode (inside : i ≤ s.directory.count) (typeCode : Int) :
    s.Keeps i (s.buildCode typeCode i) := by
  unfold buildCode
  split
  · rename_i fault refused
    exact keeps_fail inside (by rw [TypeCode.context_of_interpret refused]; rfl)
  · exact keeps_build inside _

end Source

/-! Sessions. -/

/-- Runs of which each starts where the one before has stopped, however that ended. -/
inductive Session (each : Nat → Run α β → Prop) : Nat → List (Run α β) → Prop
  | nil {start : Nat} : Session each start []
  | cons {start : Nat} {run : Run α β} {rest : List (Run α β)} (first : each start run)
      (later : Session each run.cursor rest) : Session each start (run :: rest)

/-- Cursors that no run moves backwards are in order over the whole session. -/
theorem Session.pairwise_le {each : Nat → Run α β → Prop}
    (forward : ∀ start run, each start run → start ≤ run.cursor) {start : Nat}
    {runs : List (Run α β)} (session : Session each start runs) :
    (start :: runs.map Run.cursor).Pairwise (· ≤ ·) := by
  induction session with
  | nil => exact List.pairwise_singleton _ _
  | @cons start run rest first later ih =>
    have here := forward start run first
    refine List.pairwise_cons.mpr ⟨fun cursor member => ?_, ih⟩
    rcases List.mem_cons.mp member with rfl | member
    · exact here
    · exact Nat.le_trans here ((List.pairwise_cons.mp ih).1 cursor member)

namespace Source

variable [Ordinate α] {s : Source α}

/-- Buildings one after the other keep what each of them does. The induction is on the type codes.
-/
theorem session_buildAll {start : Nat} (inside : start ≤ s.directory.count)
    (typeCodes : List Int) : Session s.Keeps start (s.buildAll start typeCodes) := by
  induction typeCodes generalizing start with
  | nil => exact .nil
  | cons typeCode rest ih =>
    have first := keeps_buildCode inside typeCode
    exact .cons first (ih first.cursor_le)

theorem length_buildAll (start : Nat) (typeCodes : List Int) :
    (s.buildAll start typeCodes).length = typeCodes.length := by
  induction typeCodes generalizing start with
  | nil => rfl
  | cons typeCode rest ih => rw [buildAll, List.length_cons, List.length_cons, ih]

/-- Whatever type codes are built one after the other, and whether or not some of them fail, every
building keeps the cursor in order and blames the entry at the cursor if it blames any; so over the
whole session the cursor never moves backwards. -/
theorem session_keeps_cursor (s : Source α) (typeCodes : List Int) :
    Session s.Keeps 0 (s.buildAll 0 typeCodes) ∧
      (s.buildAll 0 typeCodes).length = typeCodes.length ∧
      (0 :: (s.buildAll 0 typeCodes).map Run.cursor).Pairwise (· ≤ ·) := by
  have session := session_buildAll (Nat.zero_le s.directory.count) typeCodes
  exact ⟨session, length_buildAll 0 typeCodes, session.pairwise_le fun _ _ keeps => keeps.le_cursor⟩

def pointThenLine : Source Exact where
  directory := ⟨[⟨1, 1, 1⟩, ⟨3, 2, 1⟩], 6, 2, ⟨by decide, by decide, by decide⟩⟩
  coordinates := .ofRows 2 ([[0, 0], [1, 1], [2, 2]].map (List.map fun x => ⟨some x⟩))
  cap := 3

/-- The line is no second point, and is still there to be read as a line. -/
example : (pointThenLine.buildAll 0 [2001, 2001, 2002]).map Run.cursor = [1, 1, 2] := by
  decide +kernel

end Source

end TripletGeometry
