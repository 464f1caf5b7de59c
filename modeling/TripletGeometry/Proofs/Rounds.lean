import TripletGeometry.Ordinate.Exact
import TripletGeometry.Proofs.Advance
import TripletGeometry.Proofs.Tally

/-!
Scans as loops, and why they end. A loop goes round after round, and nothing is given that bounds
the rounds: what ends it is that each round fails, or has nothing to read, or moves the cursor on,
and that the cursor never passes the elements. So the rounds from an entry are no more than the
entries from there up to the sentinel. A building goes through such loops only, and what it puts
together is bounded by the elements that are left.
-/
namespace TripletGeometry

variable {α β : Type}

/-! Loops. -/

/-- A loop goes round from where the cursor stands until a round fails or reads nothing. The trail
has the cursors at which the rounds began. -/
inductive Rounds (round : Nat → Run α (Option β)) : Nat → List Nat → Run α (List β) → Prop
  | fail {i : Nat} {failure : Failure} (failed : (round i).result = .error failure) :
      Rounds round i [i] ⟨(round i).cursor, (round i).events, .error failure⟩
  | stop {i : Nat} (ended : (round i).result = .ok none) :
      Rounds round i [i] ⟨(round i).cursor, (round i).events, .ok []⟩
  | next {i : Nat} {part : β} {trail : List Nat} {rest : Run α (List β)}
      (read : (round i).result = .ok (some part))
      (later : Rounds round (round i).cursor trail rest) :
      Rounds round i (i :: trail) ((rest.map (part :: ·)).after (round i).events)

/-- A round at the index fails, or reads nothing and stays, or reads a part and moves on. It goes
neither backwards nor past the elements. -/
structure Progresses (count i : Nat) (round : Run α (Option β)) : Prop where
  le_cursor : i ≤ round.cursor
  cursor_le : round.cursor ≤ count
  turns : (∃ failure, round.result = .error failure) ∨
    (round.result = .ok none ∧ round.cursor = i) ∨
    ∃ part, round.result = .ok (some part) ∧ i < round.cursor

def goOn (scan : Nat → Run α (List β)) (cursor : Nat) : Option β → Run α (List β)
  | none => .done cursor []
  | some part => (scan cursor).map (part :: ·)

namespace Rounds

variable {round : Nat → Run α (Option β)} {i count : Nat} {trail : List Nat}
  {run : Run α (List β)}

/-- A function that does a round and then what is left gives the run of the loop. -/
theorem run_eq {scan : Nat → Run α (List β)}
    (unrolls : ∀ i, scan i = (round i).andThen (goOn scan)) (h : Rounds round i trail run) :
    run = scan i := by
  induction h with
  | fail failed => rw [unrolls, Run.andThen_of_error _ failed]
  | stop ended =>
    rw [unrolls, Run.andThen_of_ok _ ended]
    simp [goOn, Run.done, Run.after]
  | next read _ ih => rw [unrolls, Run.andThen_of_ok _ read, goOn, ih]

/-- The cursors at which rounds begin are different, and the entries from the first one up to the
sentinel bound their number. -/
theorem trail_bounded (progress : ∀ i, i ≤ count → Progresses count i (round i))
    (h : Rounds round i trail run) (inside : i ≤ count) :
    trail.Pairwise (· < ·) ∧ (∀ j ∈ trail, i ≤ j) ∧ trail.length ≤ count - i + 1 := by
  have alone : ∀ i : Nat,
      [i].Pairwise (· < ·) ∧ (∀ j ∈ [i], i ≤ j) ∧ [i].length ≤ count - i + 1 := by
    intro i
    simp
  induction h with
  | fail failed => exact alone _
  | stop ended => exact alone _
  | @next i part trail rest read later ih =>
    have here := progress i inside
    have moves : i < (round i).cursor := by
      rcases here.turns with ⟨_, failed⟩ | ⟨ended, _⟩ | ⟨_, _, moves⟩
      · rw [read] at failed
        cases failed
      · rw [read] at ended
        cases ended
      · exact moves
    have within := here.cursor_le
    obtain ⟨ascends, behind, few⟩ := ih within
    refine ⟨List.pairwise_cons.mpr ⟨fun j member => ?_, ascends⟩, fun j member => ?_, ?_⟩
    · exact Nat.lt_of_lt_of_le moves (behind j member)
    · rcases List.mem_cons.mp member with rfl | later
      · exact Nat.le_refl j
      · exact Nat.le_of_lt (Nat.lt_of_lt_of_le moves (behind j later))
    · rw [List.length_cons]
      omega

/-- The loop ends wherever it begins: the elements that are left become fewer with every round. -/
theorem exists_of_progress (progress : ∀ i, i ≤ count → Progresses count i (round i))
    (inside : i ≤ count) : ∃ trail run, Rounds round i trail run := by
  induction size : count - i using Nat.strongRecOn generalizing i with
  | ind left ih =>
    have here := progress i inside
    have within := here.cursor_le
    rcases here.turns with ⟨failure, failed⟩ | ⟨ended, _⟩ | ⟨part, read, moves⟩
    · exact ⟨_, _, .fail failed⟩
    · exact ⟨_, _, .stop ended⟩
    · have fewer : count - (round i).cursor < left := by omega
      obtain ⟨trail, run, later⟩ := ih _ fewer within rfl
      exact ⟨_, _, .next read later⟩

end Rounds

/-- Every round makes progress; the loop that begins at the index ends with the run and with no
other, after no more rounds than there are entries from the index up to the sentinel. -/
structure ComesTo (count : Nat) (round : Nat → Run α (Option β)) (i : Nat)
    (run : Run α (List β)) : Prop where
  progress : ∀ j, j ≤ count → Progresses count j (round j)
  ends : ∃ trail, Rounds round i trail run ∧ trail.Pairwise (· < ·) ∧ trail.length ≤ count - i + 1
  only : ∀ trail other, Rounds round i trail other → other = run

/-- Each round leaves fewer elements, so the loop ends. The induction is on how many are left. -/
theorem comesTo_of_progress {count : Nat} {round : Nat → Run α (Option β)}
    {scan : Nat → Run α (List β)} (unrolls : ∀ i, scan i = (round i).andThen (goOn scan))
    (progress : ∀ i, i ≤ count → Progresses count i (round i)) {i : Nat} (inside : i ≤ count) :
    ComesTo count round i (scan i) := by
  obtain ⟨trail, run, rounds⟩ := Rounds.exists_of_progress progress inside
  obtain ⟨ascends, _, few⟩ := rounds.trail_bounded progress inside
  have same := rounds.run_eq unrolls
  exact ⟨progress, ⟨trail, same ▸ rounds, ascends, few⟩, fun _ _ other => other.run_eq unrolls⟩

/-! The rounds of each scan. -/

namespace Source

def lineRound (s : Source α) (i : Nat) : Run α (Option (Coordinates α)) :=
  if (s.directory.entryAt i).code = ElementCode.line then
    match s.lineAt i with
    | .error failure => .fail i failure
    | .ok line => ⟨i + 1, [.built (.geometry (.shape (.lineString line)))], .ok (some line)⟩
  else .done i none

variable [Ordinate α]

/-- A ring that is no hole ends the round as it ends the loop. -/
def holeRound (s : Source α) (i : Nat) : Run α (Option (Coordinates α)) :=
  match s.holeAt i with
  | .error failure => .fail i failure
  | .ok none => .done i none
  | .ok (some ring) => ⟨i + 1, [.built (.ring ring)], .ok (some ring)⟩

def polygonRound (s : Source α) (i : Nat) : Run α (Option (Polygon α)) :=
  if (s.directory.entryAt i).code ∈ ElementCode.shells then (s.polygonAt i).map some
  else .done i none

def memberRound (s : Source α) (i : Nat) : Run α (Option (Shape α)) :=
  if (s.directory.entryAt i).code ≠ ElementCode.finish then (s.memberAt i).map some
  else .done i none

section Unrolling

variable (s : Source α) (i : Nat)

omit [Ordinate α] in
theorem linesFrom_unrolls : s.linesFrom i = (s.lineRound i).andThen (goOn s.linesFrom) := by
  rw [linesFrom_eq, lineRound]
  split
  · cases s.lineAt i <;> rfl
  · rfl

theorem holesFrom_unrolls : s.holesFrom i = (s.holeRound i).andThen (goOn s.holesFrom) := by
  rw [holesFrom_eq, holeRound]
  rcases s.holeAt i with failure | none | ring <;> rfl

theorem polygonsFrom_unrolls :
    s.polygonsFrom i = (s.polygonRound i).andThen (goOn s.polygonsFrom) := by
  rw [polygonsFrom_eq, polygonRound]
  split
  · cases ended : (s.polygonAt i).result with
    | error failure | ok polygon =>
      simp only [Run.andThen, Run.map, ended, Except.map, goOn]
  · rfl

theorem membersFrom_unrolls :
    s.membersFrom i = (s.memberRound i).andThen (goOn s.membersFrom) := by
  rw [membersFrom_eq, memberRound]
  split
  · cases ended : (s.memberAt i).result with
    | error failure | ok member =>
      simp only [Run.andThen, Run.map, ended, Except.map, goOn]
  · rfl

end Unrolling

/-! Progress. -/

section Progress

variable {s : Source α} {i : Nat}

omit [Ordinate α] in
theorem progresses_fail {count : Nat} (inside : i ≤ count) (failure : Failure) :
    Progresses count i (.fail i failure : Run α (Option β)) :=
  ⟨Nat.le_refl i, inside, .inl ⟨failure, rfl⟩⟩

omit [Ordinate α] in
theorem progresses_done {count : Nat} (inside : i ≤ count) :
    Progresses count i (.done i none : Run α (Option β)) :=
  ⟨Nat.le_refl i, inside, .inr (.inl ⟨rfl, rfl⟩)⟩

omit [Ordinate α] in
/-- A round of one element, which is there. -/
theorem progresses_next {count : Nat} (here : i < count) (events : List (Event α)) (part : β) :
    Progresses count i ⟨i + 1, events, .ok (some part)⟩ :=
  ⟨Nat.le_succ i, here, .inr (.inr ⟨part, rfl, Nat.lt_succ_self i⟩)⟩

/-- A round that reads a part by another run is as good as that run. -/
theorem progresses_map_some {run : Run α β} (advances : s.Advances i run)
    (moves : ∀ part, run.result = .ok part → i < run.cursor) :
    Progresses s.directory.count i (run.map some) := by
  refine ⟨advances.within.1, advances.within.2, ?_⟩
  cases ended : run.result with
  | error failure => exact .inl ⟨failure, by rw [Run.map, ended, Except.map]⟩
  | ok part => exact .inr (.inr ⟨part, by rw [Run.map, ended, Except.map], moves part ended⟩)

variable (inside : i ≤ s.directory.count)
include inside

omit [Ordinate α] in
theorem progresses_lineRound : Progresses s.directory.count i (s.lineRound i) := by
  unfold lineRound
  split
  · cases read : s.lineAt i with
    | error failure => exact progresses_fail inside failure
    | ok line => exact progresses_next ((s.judges_lineAt i).eq_ok_iff.mp read).1.1 _ line
  · exact progresses_done inside

theorem progresses_holeRound : Progresses s.directory.count i (s.holeRound i) := by
  unfold holeRound
  cases read : s.holeAt i with
  | error failure => exact progresses_fail inside failure
  | ok hole =>
    cases hole with
    | none => exact progresses_done inside
    | some ring => exact progresses_next (lt_count_of_holeAt read) _ ring

/-- A polygon takes at least its shell. -/
theorem progresses_polygonRound : Progresses s.directory.count i (s.polygonRound i) := by
  unfold polygonRound
  split
  · exact progresses_map_some (advances_polygonAt inside) fun _ => lt_cursor_polygonAt
  · exact progresses_done inside

theorem progresses_memberRound : Progresses s.directory.count i (s.memberRound i) := by
  unfold memberRound
  split
  · rename_i remains
    have advances := (preservesMembers_advances s).to_memberAt inside remains
    exact progresses_map_some advances fun _ => lt_cursor_memberAt
  · exact progresses_done inside

/-- A building stays within the elements, and does not go backwards. -/
theorem within_build (d : TypeCode.Descriptor) :
    i ≤ (s.build d i).cursor ∧ (s.build d i).cursor ≤ s.directory.count := by
  rcases concludes_build inside d with concludes | unsupported
  · exact concludes.within
  · rw [unsupported]
    exact ⟨Nat.le_refl i, inside⟩

end Progress

/-- Wherever they begin, the scans end. A building stays within the elements, however it ends, and
puts together at most two nodes for each element that was left, and one. -/
theorem scans_end (s : Source α) (d : TypeCode.Descriptor) {i : Nat}
    (inside : i ≤ s.directory.count) :
    (∀ j, j ≤ s.directory.count →
      ComesTo s.directory.count s.lineRound j (s.linesFrom j) ∧
      ComesTo s.directory.count s.polygonRound j (s.polygonsFrom j) ∧
      ComesTo s.directory.count s.memberRound j (s.membersFrom j) ∧
      ComesTo s.directory.count s.holeRound j (s.holesFrom j)) ∧
    (i ≤ (s.build d i).cursor ∧ (s.build d i).cursor ≤ s.directory.count) ∧
    (s.build d i).built.length ≤ 2 * (s.directory.count - i) + 1 := by
  refine ⟨fun j bounded => ⟨?_, ?_, ?_, ?_⟩, within_build inside d, ?_⟩
  · exact comesTo_of_progress s.linesFrom_unrolls (fun _ => progresses_lineRound) bounded
  · exact comesTo_of_progress s.polygonsFrom_unrolls (fun _ => progresses_polygonRound) bounded
  · exact comesTo_of_progress s.membersFrom_unrolls (fun _ => progresses_memberRound) bounded
  · exact comesTo_of_progress s.holesFrom_unrolls (fun _ => progresses_holeRound) bounded
  · have within := within_build inside d
    have totals := totals_build s d i
    have passed := totals.cursor_eq
    have few := totals.length_le
    omega

/-- A point, an element with the code of the sentinel, and two outer rings. The second element
begins where the third does. -/
def sentinelInside : Source Exact where
  directory := ⟨[⟨1, 1, 1⟩, ⟨3, -1, -4⟩, ⟨3, 1003, 1⟩, ⟨11, 1003, 3⟩], 14, 2,
    ⟨by decide, by decide, by decide⟩⟩
  coordinates := .ofRows 2 ([[5, 5], [0, 0], [9, 0], [0, 9], [0, 0], [1, 1], [3, 4]].map
    (List.map fun x => ⟨some x⟩))
  cap := 8

/-- The collection does not go past the second element. The polygons behind it are as many nodes as
there can be. -/
theorem scans_end_sentinelInside :
    ComesTo 4 sentinelInside.memberRound 0 (sentinelInside.membersFrom 0) ∧
      (sentinelInside.membersFrom 0).cursor = 1 ∧
      (sentinelInside.build ⟨2007, 2, 0, .multiPolygon⟩ 2).built.length ≤ 5 ∧
      (sentinelInside.build ⟨2007, 2, 0, .multiPolygon⟩ 2).built.map Node.kind =
        [.linearRing, .polygon, .linearRing, .polygon, .multiPolygon] := by
  obtain ⟨scans, _, few⟩ :=
    scans_end sentinelInside ⟨2007, 2, 0, .multiPolygon⟩ (i := 2) (by decide)
  exact ⟨(scans 0 (Nat.zero_le _)).2.2.1, by decide +kernel, few, by decide +kernel⟩

end Source

end TripletGeometry
