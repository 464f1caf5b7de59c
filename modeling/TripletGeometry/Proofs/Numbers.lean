import TripletGeometry.Proofs.Grammar

/-!
The faults of elements. A fault in reading an element blames that element, whatever it was to be
read as. The integers that it names are those of the elements, or they are small: no larger than the
number of the elements, of the ordinates or of the coordinates, but for a few. So where integers up
to that size can be written a fault comes out if the elements can be written. Of what is noted while
a geometry is built only the code of an element that is left has to be written.
-/
namespace TripletGeometry

/-- If the result is a fault then one with the property. -/
def FaultsIn {β : Type} (property : Fault → Prop) (result : Except Failure β) : Prop :=
  ∀ fault, result = .error (.fault fault) → property fault

/-- If the result is a fault all of its integers are known. -/
abbrev NumbersIn {β : Type} (knows : Int → Prop) (result : Except Failure β) : Prop :=
  FaultsIn (fun fault => ∀ n ∈ fault.numbers, knows n) result

namespace FaultsIn

variable {β γ : Type} {property : Fault → Prop} {x : Except Failure β}

theorem ok (b : β) : FaultsIn property (.ok b : Except Failure β) := by
  intro fault same
  cases same

theorem of_not_rejected (h : ¬ Rejected x) : FaultsIn property x :=
  fun fault refused => absurd ⟨fault, refused⟩ h

theorem bind {f : β → Except Failure γ} (first : FaultsIn property x)
    (next : ∀ b, x = .ok b → FaultsIn property (f b)) : FaultsIn property (x >>= f) := by
  cases x with
  | error failure =>
    intro fault same
    cases same
    exact first fault rfl
  | ok b => exact next b rfl

theorem map (h : FaultsIn property x) (f : β → γ) : FaultsIn property (x.map f) := by
  cases x with
  | error failure =>
    intro fault same
    cases same
    exact h fault rfl
  | ok b => exact .ok (f b)

end FaultsIn

/-! Elements. -/

namespace Source

variable {α β : Type} {s : Source α} {i : Nat} {kind : String}

def bound (s : Source α) : Nat :=
  s.directory.count + s.directory.ordinateCount.natAbs + s.coordinates.size + 4

/-- The integer is one of an element, or small. -/
def Knows (s : Source α) (n : Int) : Prop :=
  n ∈ s.directory.info.numbers ∨ n.natAbs ≤ s.bound

/-- The fault is one of the entry at the index, and its integers are known. -/
structure Tells (s : Source α) (i : Nat) (fault : Fault) : Prop where
  context : fault.context = s.directory.contextAt i
  known : ∀ n ∈ fault.numbers, s.Knows n

/-- The integers of an element are known, and those of the sentinel are small. -/
theorem knows_entry {n : Int} (member : n ∈ (s.directory.entryAt i).numbers) : s.Knows n := by
  rcases Nat.lt_or_ge i s.directory.count with inside | past
  · exact .inl (List.mem_flatMap.mpr ⟨_, Directory.entryAt_mem inside, member⟩)
  · rw [Directory.entryAt_of_count_le past] at member
    refine .inr ?_
    simp only [Directory.sentinel, Element.numbers, List.mem_cons, List.not_mem_nil,
      or_false] at member
    simp only [bound]
    rcases member with rfl | rfl | rfl
    · omega
    · exact Nat.le_add_left_of_le (by decide)
    · exact Nat.le_add_left_of_le (by decide)

theorem size_elementCoordinates_le (s : Source α) (i : Nat) :
    (s.elementCoordinates i).size ≤ s.coordinates.size := by
  rw [Coordinates.size, elementCoordinates, Coordinates.rows_slice, List.length_take,
    List.length_drop, Coordinates.size]
  omega

theorem knows_size (s : Source α) (i : Nat) : s.Knows (s.elementCoordinates i).size := by
  have part := s.size_elementCoordinates_le i
  refine .inr ?_
  simp only [bound]
  omega

theorem knows_of_le_four {n : Int} (small : n.natAbs ≤ 4) : s.Knows n := by
  refine .inr ?_
  simp only [bound]
  omega

section Checks

variable (inside : i ≤ s.directory.count)
include inside

/-- What a fault says of its element is known. -/
theorem knows_contextAt : ∀ n ∈ (s.directory.contextAt i).numbers, s.Knows n := by
  intro n member
  rcases List.mem_append.mp member with index | listed
  · rw [List.mem_singleton.mp index]
    refine .inr ?_
    simp only [bound]
    omega
  · exact .inl listed

/-- A fault of the entry is told if the integers of its cause are known. -/
theorem tells_of_cause {fault : Fault} (context : fault.context = s.directory.contextAt i)
    (known : ∀ n ∈ fault.causeNumbers, s.Knows n) : s.Tells i fault where
  context := context
  known n member := by
    rcases List.mem_append.mp member with cause | listed
    · exact known n cause
    · rw [context] at listed
      exact knows_contextAt inside n listed

theorem tells_malformed {cause : Malformation} (known : ∀ n ∈ cause.numbers, s.Knows n) :
    FaultsIn (s.Tells i) (s.directory.malformed (β := β) i cause) := by
  simp only [Directory.malformed, Directory.entry_natCast, Except.bind]
  intro fault same
  cases same
  exact tells_of_cause inside rfl known

theorem tells_rejectElement (details : Option String) :
    FaultsIn (s.Tells i) (s.directory.rejectElement (β := β) i kind details) := by
  simp only [Directory.rejectElement, Directory.entry_natCast, Except.bind]
  intro fault same
  cases same
  refine tells_of_cause inside rfl fun n code => ?_
  rw [List.mem_singleton.mp code]
  exact knows_entry (i := i) (by simp [Element.numbers])

theorem tells_rejectInterpretation :
    FaultsIn (s.Tells i) (s.directory.rejectInterpretation (β := β) i kind) := by
  simp only [Directory.rejectInterpretation, Directory.entry_natCast, Except.bind]
  intro fault same
  cases same
  refine tells_of_cause inside rfl fun n interpretation => ?_
  rw [List.mem_singleton.mp interpretation]
  exact knows_entry (i := i) (by simp [Element.numbers])

theorem tells_checkBounds : FaultsIn (s.Tells i) (s.directory.checkBounds i kind) := by
  simp only [Directory.checkBounds, Directory.entry_natCast, Except.bind]
  split
  · refine tells_malformed inside fun n member => ?_
    rcases List.mem_cons.mp member with rfl | count
    · exact knows_entry (i := i) (by simp [Element.numbers])
    · rw [List.mem_singleton.mp count]
      refine .inr ?_
      simp only [bound]
      omega
  · exact .ok ()

theorem tells_checkCode (allowed : List Int) :
    FaultsIn (s.Tells i) (s.directory.checkCode i allowed kind) := by
  simp only [Directory.checkCode, Directory.entry_natCast, Except.bind]
  split
  · exact .ok ()
  · exact tells_rejectElement inside none

theorem tells_checkInterpretation (allowed : List Int) :
    FaultsIn (s.Tells i) (s.directory.checkInterpretation i allowed kind) := by
  simp only [Directory.checkInterpretation, Directory.entry_natCast, Except.bind]
  split
  · exact .ok ()
  · exact tells_rejectInterpretation inside

theorem tells_checkCluster : FaultsIn (s.Tells i) (s.directory.checkCluster i kind) := by
  simp only [Directory.checkCluster, Directory.entry_natCast, Except.bind]
  split
  · exact .ok ()
  · exact tells_rejectInterpretation inside

theorem tells_coordinateCount {required : Requirement} (known : s.Knows required.count) :
    FaultsIn (s.Tells i) (s.directory.malformed (β := β) i
      (.coordinateCount kind required (s.elementCoordinates i).size)) := by
  refine tells_malformed inside fun n member => ?_
  rcases List.mem_cons.mp member with rfl | size
  · exact known
  · rw [List.mem_singleton.mp size]
    exact s.knows_size i

theorem tells_checkCount_exactly {n : Int} (known : s.Knows n) : FaultsIn (s.Tells i)
    (s.directory.checkCount i (s.elementCoordinates i).size kind none (some n)) := by
  simp only [Directory.checkCount, Option.filter_none]
  split
  · rename_i found
    cases (Option.filter_eq_some_iff.mp found).1
    exact tells_coordinateCount inside known
  · rename_i found
    cases found
  · exact .ok ()

theorem tells_checkCount_atLeast {n : Int} (known : s.Knows n) : FaultsIn (s.Tells i)
    (s.directory.checkCount i (s.elementCoordinates i).size kind (some n) none) := by
  simp only [Directory.checkCount, Option.filter_none]
  split
  · rename_i found
    cases found
  · rename_i found
    cases (Option.filter_eq_some_iff.mp found).1
    exact tells_coordinateCount inside known
  · exact .ok ()

theorem tells_checkClosed [Ordinate α] (ring : Coordinates α) :
    FaultsIn (s.Tells i) (s.directory.checkClosed i ring kind) := by
  unfold Directory.checkClosed
  split
  · split
    · exact .ok ()
    split
    · exact tells_malformed inside fun n member => absurd member List.not_mem_nil
    · intro fault same
      cases same
  · intro fault same
    cases same

end Checks

/-! Readers of elements. -/

section Readers

variable (inside : i ≤ s.directory.count)
include inside

theorem tells_pointAt : FaultsIn (s.Tells i) (s.pointAt i) :=
  (tells_checkBounds inside).bind fun _ _ =>
    (tells_checkCode inside _).bind fun _ _ =>
      (tells_checkInterpretation inside _).bind fun _ _ =>
        (tells_checkCount_exactly inside (knows_of_le_four (by decide))).bind fun _ _ => .ok _

/-- The number of points that is required is the interpretation, an integer of the element. -/
theorem tells_multiPointAt : FaultsIn (s.Tells i) (s.multiPointAt i) :=
  (tells_checkBounds inside).bind fun _ _ =>
    (tells_checkCode inside _).bind fun _ _ =>
      (tells_checkCluster inside).bind fun _ _ =>
        (tells_checkCount_exactly inside
          (knows_entry (i := i) (by simp [Element.numbers]))).bind fun _ _ => .ok _

theorem tells_lineAt : FaultsIn (s.Tells i) (s.lineAt i) :=
  (tells_checkBounds inside).bind fun _ _ =>
    (tells_checkCode inside _).bind fun _ _ =>
      (tells_checkInterpretation inside _).bind fun _ _ =>
        (tells_checkCount_atLeast inside (knows_of_le_four (by decide))).bind fun _ _ => .ok _

theorem tells_loneMemberAt : FaultsIn (s.Tells i) (s.loneMemberAt i) := by
  simp only [loneMemberAt]
  split
  · split
    · exact tells_pointAt inside
    split
    · exact tells_multiPointAt inside
    · exact tells_rejectInterpretation inside
  split
  · exact (tells_lineAt inside).map _
  split
  · exact tells_rejectElement inside _
  · exact tells_rejectElement inside _

theorem tells_checkRing (allowed : List Int) : FaultsIn (s.Tells i) (s.checkRing i allowed) :=
  (tells_checkBounds inside).bind fun _ _ =>
    (tells_checkCode inside _).bind fun _ _ => tells_checkInterpretation inside _

variable [Ordinate α]

/-- A ring is refused for its count or its ends. -/
theorem tells_ringAt : FaultsIn (s.Tells i) (s.ringAt i) := by
  refine (tells_checkRing inside _).bind fun _ _ => ?_
  split
  · have two : s.Knows 2 := knows_of_le_four (by decide)
    exact (tells_checkCount_exactly inside two).bind fun _ _ =>
      .of_not_rejected (Ring.not_rejected_rectangle _ _)
  · have four : s.Knows 4 := knows_of_le_four (by decide)
    exact (tells_checkCount_atLeast inside four).bind fun _ _ =>
      (tells_checkClosed inside _).bind fun _ _ => .ok _

/-- The orientation is never the reason. -/
theorem tells_holeAt : FaultsIn (s.Tells i) (s.holeAt i) := by
  simp only [holeAt]
  split
  · exact (tells_ringAt inside).map _
  split
  · exact (tells_ringAt inside).bind fun ring _ =>
      (FaultsIn.of_not_rejected (Ring.not_rejected_isClockwise ring)).bind fun _ _ => .ok _
  · exact .ok none

/-- A fault in reading an element is a fault of that element, whatever it was to be read as. -/
theorem tells_of_failsAt {fault : Fault} (fails : s.FailsAt i (.fault fault)) :
    s.Tells i fault := by
  cases fails with
  | bounds failed => exact tells_checkBounds inside fault failed
  | point failed => exact tells_pointAt inside fault failed
  | multiPoint failed => exact tells_multiPointAt inside fault failed
  | line failed => exact tells_lineAt inside fault failed
  | member failed => exact tells_loneMemberAt inside fault failed
  | shell failed =>
    exact (tells_checkRing inside _).bind (fun _ _ => tells_ringAt inside) fault failed
  | hole failed => exact tells_holeAt inside fault failed

end Readers

/-! Buildings. -/

section Build

variable [Ordinate α] {w : Writer} {d : TypeCode.Descriptor} {run : Run α (Geometry α)}

/-- Of what a building notes only the code of an element that is left has to be written. -/
theorem Concludes.numbers_of_noted (h : s.Concludes i run) {note : Note}
    (noted : .noted note ∈ run.events) : note.numbers = [] ∨ (∃ g, run.result = .ok g) ∧
      run.cursor < s.directory.count ∧
        note.numbers = [(s.directory.entryAt run.cursor).code] := by
  rcases h.happens _ noted with happens | ⟨ended, kind, unread⟩
  · cases happens with
    | polygon => exact .inl rfl
  · obtain ⟨_, listed, same⟩ := List.mem_map.mp unread
    cases same
    unfold unreadNotes at listed
    split at listed
    · rename_i inside
      rw [List.mem_singleton.mp listed]
      exact .inr ⟨ended, inside, rfl⟩
    · cases listed

/-- What is noted of a building are indices and counts, but for the code of an element that is left.
-/
theorem Concludes.knows_of_noted (h : s.Concludes i run) {note : Note}
    (noted : .noted note ∈ run.events) : ∀ n ∈ note.numbers, s.Knows n := by
  rcases h.numbers_of_noted noted with unnumbered | ⟨_, _, code⟩
  · rw [unnumbered]
    exact fun _ member => absurd member List.not_mem_nil
  · rw [code]
    intro n member
    rw [List.mem_singleton.mp member]
    exact knows_entry (i := run.cursor) (by simp [Element.numbers])

theorem Concludes.result_ofRun (h : s.Concludes i run)
    (left : ∀ g, run.result = .ok g → run.cursor < s.directory.count →
      w.writes (s.directory.entryAt run.cursor).code = true) :
    (w.ofRun run).result = w.result run.result := by
  refine Writer.result_ofRun_of_written fun note noted => ?_
  rcases h.numbers_of_noted noted with unnumbered | ⟨⟨g, ok⟩, inside, code⟩
  · rw [unnumbered]
    exact fun _ member => absurd member List.not_mem_nil
  · rw [code]
    intro n member
    rw [List.mem_singleton.mp member]
    exact left g ok inside

/-- If the code of an element that is left can be written, then only the text of a fault is in
question. -/
theorem result_ofRun_build (w : Writer)
    (left : ∀ g, (s.build d 0).result = .ok g → (s.build d 0).cursor < s.directory.count →
      w.writes (s.directory.entryAt (s.build d 0).cursor).code = true) :
    (w.ofRun (s.build d 0)).result = w.result (s.build d 0).result := by
  rcases concludes_build (Nat.zero_le s.directory.count) d with concludes | unsupported
  · exact concludes.result_ofRun left
  · rw [unsupported]
    exact Writer.result_ofRun_of_written fun _ member => absurd member List.not_mem_nil

/-- The entry is to blame. The result is a fault of it, or comes from an integer of that fault that
cannot be written; the fault names only known integers. -/
def Blames (s : Source α) (w : Writer) (i : Nat) (result : Except Failure β) : Prop :=
  ∃ fault : Fault, s.Tells i fault ∧ w.Raises fault result

/-- A building that is refused at an element blames it, or cannot write an integer of the fault. -/
theorem blames_build (w : Writer)
    (refuses : s.directory.Refuses i (s.build d 0).result) :
    s.Blames w i (w.ofRun (s.build d 0)).result := by
  obtain ⟨fault, refused, context⟩ := refuses
  rcases concludes_build (Nat.zero_le s.directory.count) d with concludes | unsupported
  · have known := (tells_of_failsAt concludes.within.2 (concludes.fails refused)).known
    refine ⟨fault, ⟨context, known⟩, ?_⟩
    have failed : ∀ g, (s.build d 0).result ≠ .ok g := by
      intro g ok
      rw [refused] at ok
      cases ok
    rw [s.result_ofRun_build w fun g ok => absurd ok (failed g)]
    exact w.raises_of_eq refused
  · rw [unsupported] at refused
    cases refused
    cases context

end Build

end Source

end TripletGeometry
