import TripletGeometry.Proofs.Grammar
import TripletGeometry.Proofs.Preservation

/-!
Scans that recognize the grammar. A scan passes the elements that fit, and stops at the first that
does not, which it blames. Whether an element belongs to the member before it is settled where that
member ends.
-/
namespace TripletGeometry.Source

variable {α : Type} [Ordinate α]

/-! Runs. -/

/-- All elements that the run has passed fit. Either it ended well, or it stands at an element that
does not fit and blames it. -/
structure Recognizes {β : Type} (s : Source α) (i : Nat) (run : Run α β) : Prop where
  le_cursor : i ≤ run.cursor
  fits : ∀ k, i ≤ k → k < run.cursor → s.Fits k
  ends : (∃ value, run.result = .ok value) ∨
    (run.cursor < s.directory.count ∧ ¬ s.Fits run.cursor ∧
      s.directory.Refuses run.cursor run.result)

namespace Recognizes

variable {β γ : Type} {s : Source α} {i j : Nat} {run : Run α β}

theorem done (i : Nat) (value : β) : s.Recognizes i (Run.done i value : Run α β) where
  le_cursor := Nat.le_refl i
  fits _ low high := absurd high (Nat.not_lt.mpr low)
  ends := .inl ⟨value, rfl⟩

theorem fail {failure : Failure} (inside : i < s.directory.count) (unfit : ¬ s.Fits i)
    (refuses : s.directory.Refuses i (.error failure : Except Failure Unit)) :
    s.Recognizes i (Run.fail i failure : Run α β) where
  le_cursor := Nat.le_refl i
  fits _ low high := absurd high (Nat.not_lt.mpr low)
  ends := .inr ⟨inside, unfit, refuses.error⟩

/-- A run goes on where elements were passed that fit. -/
theorem behind (h : s.Recognizes j run) (le : i ≤ j) (before : ∀ k, i ≤ k → k < j → s.Fits k) :
    s.Recognizes i run where
  le_cursor := Nat.le_trans le h.le_cursor
  fits k low high := by
    by_cases early : k < j
    · exact before k low early
    · exact h.fits k (Nat.not_lt.mp early) high
  ends := h.ends

/-- A run that starts behind an element that fits may as well start at it. -/
theorem step (h : s.Recognizes (i + 1) run) (here : s.Fits i) : s.Recognizes i run := by
  refine h.behind (Nat.le_succ i) fun k low high => ?_
  have same : k = i := by omega
  exact same ▸ here

theorem after (h : s.Recognizes i run) (events : List (Event α)) :
    s.Recognizes i (run.after events) := ⟨h.le_cursor, h.fits, h.ends⟩

theorem single (here : s.Fits i) (events : List (Event α)) (value : β) :
    s.Recognizes i (⟨i + 1, events, .ok value⟩ : Run α β) :=
  step ⟨Nat.le_refl _, fun _ low high => absurd high (Nat.not_lt.mpr low), .inl ⟨value, rfl⟩⟩ here

/-- What comes after the last element that a run reads does not move it. -/
theorem andThen_still (h : s.Recognizes i run) {next : Nat → β → Run α γ}
    (still : ∀ cursor value, (next cursor value).cursor = cursor ∧
      ∃ last, (next cursor value).result = .ok last) : s.Recognizes i (run.andThen next) := by
  cases ended : run.result with
  | error failure =>
    rw [Run.andThen_of_error next ended]
    refine ⟨h.le_cursor, h.fits, .inr ?_⟩
    rcases h.ends with ⟨value, same⟩ | ⟨inside, unfit, refuses⟩
    · rw [ended] at same
      cases same
    · rw [ended] at refuses
      exact ⟨inside, unfit, refuses.error⟩
  | ok value =>
    obtain ⟨stays, ends⟩ := still run.cursor value
    rw [Run.andThen_of_ok next ended]
    refine ⟨?_, ?_, .inl ends⟩
    · rw [Run.cursor_after, stays]
      exact h.le_cursor
    · rw [Run.cursor_after, stays]
      exact h.fits

theorem map (h : s.Recognizes i run) (f : β → γ) : s.Recognizes i (run.map f) := by
  have same : run.map f = run.andThen fun cursor value => .done cursor (f value) := by
    obtain ⟨cursor, events, result⟩ := run
    cases result with
    | error failure => rfl
    | ok value => simp [Run.map, Run.andThen, Run.done, Run.after, Except.map]
  rw [same]
  exact h.andThen_still fun cursor value => ⟨rfl, _, rfl⟩

end Recognizes

/-- Putting the parts together passes no further element. -/
theorem recognizes_several {s : Source α} {i : Nat} {kind : Kind} {notes : Nat → List Note}
    {parts : Run α (Geometry α)} (nonempty : 0 < s.directory.count) (h : s.Recognizes i parts) :
    s.Recognizes i (s.several kind i notes parts) := by
  rw [several_of_nonempty nonempty]
  exact h.andThen_still fun cursor g => ⟨rfl, g, rfl⟩

/-! Scans. -/

section Scans

variable {s : Source α} {i : Nat}

/-- Behind a polygon no element is left that belongs to it. -/
theorem not_joins_of_holeAt (ended : s.holeAt i = .ok none) : ¬ s.Joins i := by
  rintro ⟨_, inner⟩
  exact absurd ((inner_iff_of_holeAt ended).mp inner) nofun

/-- Only a ring can be followed by an element that belongs to the same member. -/
theorem not_joins_of_loneMemberAt {shape : Shape α} (read : s.loneMemberAt i = .ok shape) :
    ¬ s.Joins (i + 1) := by
  rintro ⟨⟨j, next, ringed⟩, _⟩
  obtain rfl : i = j := Nat.succ.inj next
  refine not_mem_rings ?_ ringed
  rcases loneMemberAt_ok read with point | cluster | ⟨line, lined, _⟩
  · obtain ⟨⟨_, coded, _⟩, _⟩ := (s.judges_pointAt i).eq_ok_iff.mp point
    rw [List.mem_singleton.mp coded]
    decide
  · obtain ⟨⟨_, coded, _⟩, _⟩ := (s.judges_multiPointAt i).eq_ok_iff.mp cluster
    rw [List.mem_singleton.mp coded]
    decide
  · obtain ⟨⟨_, coded, _⟩, _⟩ := (s.judges_lineAt i).eq_ok_iff.mp lined
    rw [List.mem_singleton.mp coded]
    decide

theorem not_joins_of_polygonAt {polygon : Polygon α} (ok : (s.polygonAt i).result = .ok polygon) :
    ¬ s.Joins (s.polygonAt i).cursor := by
  obtain ⟨_, holes, last, _⟩ := polygonAt_ok ok
  rw [last]
  exact not_joins_of_holeAt (scan_holesFrom holes).stops_at_end

theorem not_joins_of_memberAt {shape : Shape α} (ok : (s.memberAt i).result = .ok shape) :
    ¬ s.Joins (s.memberAt i).cursor := by
  rcases memberAt_ok ok with ⟨polygon, read, _, stop, _⟩ | ⟨read, stop, _⟩
  · rw [stop]
    exact not_joins_of_polygonAt read
  · rw [stop]
    exact not_joins_of_loneMemberAt read

/-- A scan recognizes what each of its steps does. -/
theorem preserves_recognizes (s : Source α) (starts : Nat → Prop) :
    Preserves (α := α) starts s.Recognizes where
  done {_ i} value _ := .done i value
  map f h := h.map f
  stop h failed := by
    refine ⟨h.le_cursor, h.fits, .inr ?_⟩
    rcases h.ends with ⟨value, same⟩ | ⟨inside, unfit, refuses⟩
    · rw [failed] at same
      cases same
    · rw [failed] at refuses
      exact ⟨inside, unfit, refuses.error⟩
  chain h _ later := (later.after _).behind h.le_cursor h.fits

theorem preservesLines_recognizes (s : Source α) :
    s.PreservesLines (fun _ => True) s.Recognizes where
  toPreserves := preserves_recognizes s _
  line_fail {i failure} _ isLine failed := by
    obtain ⟨unread, refuses⟩ := (s.judges_lineAt i).of_error failed
    have inside := Directory.lt_count_of_code_ne_finish (by rw [isLine]; decide)
    refine .fail inside (fun fits => unread ?_) refuses
    obtain ⟨simple, two⟩ := (fits_iff_of_line isLine).mp fits
    exact ⟨inside, by simp [isLine], by simp [simple], by omega⟩
  line_read {i line} _ isLine read := by
    obtain ⟨⟨_, _, simple, two⟩, _⟩ := (s.judges_lineAt i).eq_ok_iff.mp read
    have fits := (fits_iff_of_line isLine).mpr ⟨List.mem_singleton.mp simple, by omega⟩
    exact ⟨trivial, .single fits _ line⟩

/-- Members are recognized from where none before goes on. A hole is looked for behind a ring; where
the holes have ended, or a member that is no polygon, nothing is left that joins it. -/
theorem preservesMembers_recognizes (planar : 2 ≤ s.coordinates.width) (capped : 2 ≤ s.cap) :
    s.PreservesMembers (fun i => ¬ s.Joins i) s.FollowsRing s.Recognizes s.Recognizes where
  toPreserves := preserves_recognizes s _
  hole_fail _ failed := by
    obtain ⟨inside, unfit, refuses⟩ := of_holeAt_error planar capped failed
    exact .fail inside unfit refuses
  hole_none {i} _ ended := ⟨not_joins_of_holeAt ended, .done i []⟩
  hole_read {i ring} follows read := by
    have found := ringAt_of_holeAt read
    obtain ⟨⟨_, coded⟩, _⟩ := ringAt_ok found
    have fits := (fits_iff_of_ring coded).mpr ⟨validRing_of_ringAt planar found, fun _ => follows⟩
    exact ⟨⟨i, rfl, coded⟩, fun rest => ((rest.map _).after _).step fits⟩
  shell_fail _ isShell failed := by
    have inside := Directory.lt_count_of_code_mem isShell (by decide)
    have coded := ElementCode.mem_rings_of_mem_shells isShell
    obtain ⟨ring, judged⟩ := judges_shellAt planar capped inside isShell
    obtain ⟨invalid, refuses⟩ := judged.of_error failed
    exact .fail inside (fun fits => invalid ((fits_iff_of_ring coded).mp fits).1) refuses
  polygon_read {i outer} _ isShell read := by
    have coded := ElementCode.mem_rings_of_mem_shells isShell
    have valid := validRing_of_ringAt planar (ringAt_of_shellAt read)
    have fits : s.Fits i := by
      refine (fits_iff_of_ring coded).mpr ⟨valid, fun hole => ?_⟩
      rw [hole] at isShell
      exact absurd isShell (by decide)
    refine ⟨⟨i, rfl, coded⟩, fun _ holes => ?_⟩
    exact (((holes.map _).after _).andThen_still fun cursor polygon => ⟨rfl, polygon, rfl⟩).step
      fits
  lone_fail starts remains alone failed := by
    have inside := Directory.lt_count_of_code_ne_finish remains
    obtain ⟨shape, judged⟩ := judges_loneMemberAt inside alone starts
    obtain ⟨unfit, refuses⟩ := judged.of_error failed
    exact .fail inside unfit refuses
  lone_read {i shape} starts remains alone read := by
    have inside := Directory.lt_count_of_code_ne_finish remains
    obtain ⟨_, judged⟩ := judges_loneMemberAt inside alone starts
    exact ⟨not_joins_of_loneMemberAt read, .single (judged.holds_of_ok read) _ shape⟩

end Scans

end TripletGeometry.Source
