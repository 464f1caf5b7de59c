import TripletGeometry.Proofs.Building
import TripletGeometry.Proofs.Likeness
import TripletGeometry.Proofs.Rendering

/-!
A window is a stretch of a source whose elements look like those of another source. What is read of
the other source without a failure is read in the window too, so many elements further on; a scan
that has come to the end of the window goes on with whatever follows it.
-/
namespace TripletGeometry

variable {α β γ : Type}

/-! Runs. -/

namespace Run

/-- The run ends as the other does and puts the same together, so many elements further on. -/
structure Moves (k : Nat) (x y : Run α β) : Prop where
  cursor : y.cursor = x.cursor + k
  built : y.built = x.built
  result : y.result = x.result

namespace Moves

variable {k : Nat} {x y : Run α β}

theorem after (h : x.Moves k y) (events : List (Event α)) :
    (x.after events).Moves k (y.after events) where
  cursor := h.cursor
  built := by rw [built_after, built_after, h.built]
  result := h.result

theorem map (h : x.Moves k y) (f : β → γ) : (x.map f).Moves k (y.map f) :=
  ⟨h.cursor, h.built, congrArg (Except.map f) h.result⟩

theorem andThen (h : x.Moves k y) {next next' : Nat → β → Run α γ}
    (step : ∀ cursor b, (next cursor b).Moves k (next' (cursor + k) b)) :
    (x.andThen next).Moves k (y.andThen next') := by
  have built := h.built
  rw [Run.built_eq, Run.built_eq] at built
  cases ended : x.result with
  | error failure =>
    rw [andThen_of_error _ ended, andThen_of_error _ (h.result.trans ended)]
    exact ⟨h.cursor, built, rfl⟩
  | ok b =>
    have last := step x.cursor b
    rw [andThen_of_ok _ ended, andThen_of_ok _ (h.result.trans ended), h.cursor]
    refine ⟨last.cursor, ?_, last.result⟩
    rw [built_after, built_after, built, last.built]

end Moves

/-- The run begins with what a scan did that gave these parts, and goes on as the other does. -/
def Continues (scanned : Run α (List β)) (parts : List β) (rest run : Run α (List β)) : Prop :=
  ∃ events, Event.nodes events = scanned.built ∧ run = (rest.map (parts ++ ·)).after events

/-- A run that begins with one scan, goes on with another and then is over gives the parts of both.
-/
theorem Continues.join {x y z rest : Run α (List β)} {xs ys : List β} {cursor : Nat}
    (first : x.Continues xs rest z) (second : y.Continues ys (.done cursor []) rest) :
    z.result = .ok (xs ++ ys) ∧ z.built = x.built ++ y.built := by
  obtain ⟨events, same, rfl⟩ := second
  obtain ⟨earlier, same', rfl⟩ := first
  refine ⟨?_, ?_⟩
  · simp [map, done, Except.map]
  · rw [built_after, built_map, built_after, built_map, same, same']
    simp [done, built]

end Run

/-- A scan whose steps are taken by another one too, so many elements further on, is the beginning
of that one. -/
theorem Scan.resume {k : Nat} {stops : Nat → Prop}
    {reads : Nat → β → List (Event α) → Nat → Prop} {run : Nat → Run α (List β)}
    (each : ∀ i part events j, reads i part events j → ∃ others,
      Event.nodes others = Event.nodes events ∧
        run (i + k) = ((run (j + k)).map (part :: ·)).after others)
    {i j : Nat} {parts : List β} {events : List (Event α)}
    (scan : Scan stops reads i parts events j) : ∃ others,
      Event.nodes others = Event.nodes events ∧
        run (i + k) = ((run (j + k)).map (parts ++ ·)).after others := by
  induction scan with
  | stop ends =>
    refine ⟨[], rfl, ?_⟩
    obtain ⟨cursor, later, result⟩ := run _
    cases result <;> rfl
  | step first rest ih =>
    obtain ⟨earlier, same, step⟩ := each _ _ _ _ first
    obtain ⟨later, same', go⟩ := ih
    refine ⟨earlier ++ later, ?_, ?_⟩
    · rw [Event.nodes_append, Event.nodes_append, same, same']
    · rw [step, go]
      obtain ⟨cursor, further, result⟩ := run _
      cases result <;> simp [Run.map, Run.after, Except.map]

/-! Windows. -/

namespace Source

variable [Ordinate α]

/-- The elements look like those of the other source from an index on, where no hole follows. -/
structure Embeds (s t : Source α) (k : Nat) : Prop where
  alike : ∀ i, i < s.directory.count → s.AlikeAt t i (i + k)
  ends : t.holeAt (s.directory.count + k) = .ok none

namespace Embeds

variable {s t : Source α} {k i : Nat} (h : s.Embeds t k)
include h

/-- What is read inside the window is read in the same way further on. -/
theorem holeAt_ok (le : i ≤ s.directory.count) {hole : Option (Coordinates α)}
    (ok : s.holeAt i = .ok hole) : t.holeAt (i + k) = .ok hole := by
  rcases Nat.lt_or_eq_of_le le with inside | rfl
  · exact (h.alike i inside).agree_holeAt.eq_ok ok
  · have ended : s.holeAt s.directory.count = .ok none := by
      rw [holeAt, Directory.entryAt_of_count_le (Nat.le_refl _)]
      rfl
    rw [ended] at ok
    cases ok
    exact h.ends

/-- Holes are read in the same way; the scan ends there also where the window does. -/
theorem moves_holesFrom (le : i ≤ s.directory.count) {holes : List (Coordinates α)}
    (ok : (s.holesFrom i).result = .ok holes) : (s.holesFrom i).Moves k (t.holesFrom (i + k)) := by
  fun_induction holesFrom s i generalizing holes with
  | case1 => cases ok
  | case2 i ended =>
    rw [t.holesFrom_eq, h.holeAt_ok le ended]
    exact ⟨rfl, rfl, rfl⟩
  | case3 i ring read ih =>
    obtain ⟨rest, found, _⟩ := Run.result_map_eq_ok.mp (Run.result_after _ _ ▸ ok)
    have inside := lt_count_of_holeAt read
    rw [t.holesFrom_eq, h.holeAt_ok le read, Nat.add_right_comm]
    exact ((ih inside found).map _).after _

theorem moves_polygonAt (inside : i < s.directory.count) {polygon : Polygon α}
    (ok : (s.polygonAt i).result = .ok polygon) :
    (s.polygonAt i).Moves k (t.polygonAt (i + k)) := by
  obtain ⟨shell, holes, _⟩ := polygonAt_ok ok
  rw [polygonAt_eq, polygonAt_eq, shell, (h.alike i inside).agree_shellAt.eq_ok shell,
    Nat.add_right_comm]
  exact (((h.moves_holesFrom inside holes).map _).after _).andThen fun _ _ => ⟨rfl, rfl, rfl⟩

theorem moves_memberAt (inside : i < s.directory.count) {member : Shape α}
    (ok : (s.memberAt i).result = .ok member) :
    (s.memberAt i).Moves k (t.memberAt (i + k)) := by
  have alike := h.alike i inside
  unfold memberAt at ok ⊢
  rw [alike.code]
  split at ok
  · rename_i isShell
    obtain ⟨polygon, read, _⟩ := Run.result_map_eq_ok.mp ok
    rw [if_pos isShell, if_pos isShell]
    exact (h.moves_polygonAt inside read).map _
  · rename_i notShell
    obtain ⟨read, _⟩ := shapeAt_ok ok
    rw [if_neg notShell, if_neg notShell]
    simp only [shapeAt, read, alike.agree_loneMemberAt.eq_ok read]
    exact ⟨Nat.add_right_comm .., rfl, rfl⟩

theorem continues_linesFrom {lines : List (Coordinates α)}
    (ok : (s.linesFrom i).result = .ok lines) : (s.linesFrom i).Continues lines
      (t.linesFrom ((s.linesFrom i).cursor + k)) (t.linesFrom (i + k)) := by
  refine Scan.resume ?_ (scan_linesFrom ok)
  intro i line events j step
  obtain ⟨⟨isLine, read⟩, rfl, rfl⟩ := step
  have alike := h.alike i (Directory.lt_count_of_code_ne_finish (by rw [isLine]; decide))
  refine ⟨_, rfl, ?_⟩
  rw [t.linesFrom_eq, alike.code, if_pos isLine, alike.agree_lineAt.eq_ok read, Nat.add_right_comm]

theorem continues_polygonsFrom {polygons : List (Polygon α)}
    (ok : (s.polygonsFrom i).result = .ok polygons) : (s.polygonsFrom i).Continues polygons
      (t.polygonsFrom ((s.polygonsFrom i).cursor + k)) (t.polygonsFrom (i + k)) := by
  refine Scan.resume ?_ (scan_polygonsFrom ok)
  intro i polygon events j step
  obtain ⟨isShell, read⟩ := step
  have inside := Directory.lt_count_of_code_mem isShell (by decide)
  have moves := h.moves_polygonAt inside (by rw [read])
  rw [read] at moves
  refine ⟨_, moves.built, ?_⟩
  rw [t.polygonsFrom_eq, (h.alike i inside).code, if_pos isShell, moves.result, moves.cursor]

/-- A scan of the whole starts with the scan of the window. -/
theorem continues_membersFrom {members : List (Shape α)}
    (ok : (s.membersFrom i).result = .ok members) : (s.membersFrom i).Continues members
      (t.membersFrom ((s.membersFrom i).cursor + k)) (t.membersFrom (i + k)) := by
  refine Scan.resume ?_ (scan_membersFrom ok)
  intro i member events j step
  obtain ⟨remains, read⟩ := step
  have inside := Directory.lt_count_of_code_ne_finish remains
  have moves := h.moves_memberAt inside (by rw [read])
  rw [read] at moves
  refine ⟨_, moves.built, ?_⟩
  rw [t.membersFrom_eq, (h.alike i inside).code, if_pos remains, moves.result, moves.cursor]

end Embeds

end Source

end TripletGeometry
