import TripletGeometry.Proofs.Building

/-!
Properties of runs that the scans preserve. What the readers of single elements have to do with such
a property is asked of them one by one; the inductions over the scans are made here once. They go
over the steps of every run, also of one that fails. Along with the property goes what is known of
the index: that a part may start there, or that it follows a ring, where a hole is looked for.
-/
namespace TripletGeometry

namespace Source

variable {α : Type}

/-- A property of runs that begin at an index, for values of every type. -/
abbrev RunProperty (α : Type) : Type 1 := {β : Type} → Nat → Run α β → Prop

/-- A scan of parts preserves the property, however a part is read. -/
structure Preserves (starts : Nat → Prop) (P : RunProperty α) : Prop where
  done {β : Type} {i : Nat} (value : β) (here : starts i) : P i (.done i value)
  map {β γ : Type} {i : Nat} {run : Run α β} (f : β → γ) (h : P i run) : P i (run.map f)
  /-- A run that failed has failed for whatever was to be read. -/
  stop {β γ : Type} {i : Nat} {run : Run α β} {failure : Failure} (h : P i run)
    (failed : run.result = .error failure) :
    P i (⟨run.cursor, run.events, .error failure⟩ : Run α γ)
  chain {β γ : Type} {i : Nat} {first : Run α β} {value : β} {rest : Run α γ} (h : P i first)
    (ok : first.result = .ok value) (later : P first.cursor rest) : P i (rest.after first.events)

/-- A scan of lines preserves the property. -/
structure PreservesLines (s : Source α) (starts : Nat → Prop) (P : RunProperty α) : Prop extends
    Preserves starts P where
  line_fail {i : Nat} {failure : Failure} (here : starts i)
    (isLine : (s.directory.entryAt i).code = ElementCode.line)
    (failed : s.lineAt i = .error failure) : P i (.fail i failure : Run α (List (Coordinates α)))
  line_read {i : Nat} {line : Coordinates α} (here : starts i)
    (isLine : (s.directory.entryAt i).code = ElementCode.line) (read : s.lineAt i = .ok line) :
    starts (i + 1) ∧
      P i ⟨i + 1, [.built (.geometry (.shape (.lineString line)))], .ok line⟩

theorem PreservesLines.to_linesFrom {s : Source α} {starts : Nat → Prop} {P : RunProperty α}
    (h : s.PreservesLines starts P) {i : Nat} (here : starts i) : P i (s.linesFrom i) := by
  fun_induction linesFrom s i with
  | case1 i isLine failure failed => exact h.line_fail here isLine failed
  | case2 i isLine line read ih =>
    obtain ⟨next, one⟩ := h.line_read here isLine read
    exact h.chain one rfl (h.map _ (ih next))
  | case3 i => exact h.done [] here

variable [Ordinate α]

/-- A scan of polygons preserves the property `P`, and the scan of the holes of each the property
`Q`. -/
structure PreservesPolygons (s : Source α) (starts follows : Nat → Prop)
    (Q : Nat → Run α (List (Coordinates α)) → Prop) (P : RunProperty α) : Prop extends
    Preserves starts P where
  hole_fail {i : Nat} {failure : Failure} (here : follows i)
    (failed : s.holeAt i = .error failure) : Q i (.fail i failure)
  hole_none {i : Nat} (here : follows i) (ended : s.holeAt i = .ok none) :
    starts i ∧ Q i (.done i [])
  hole_read {i : Nat} {ring : Coordinates α} (here : follows i)
    (read : s.holeAt i = .ok (some ring)) : follows (i + 1) ∧
      ∀ {run : Run α (List (Coordinates α))}, Q (i + 1) run →
        Q i ((run.map (ring :: ·)).after [.built (.ring ring)])
  shell_fail {i : Nat} {failure : Failure} (here : starts i)
    (isShell : (s.directory.entryAt i).code ∈ ElementCode.shells)
    (failed : s.shellAt i = .error failure) : P i (.fail i failure : Run α (Polygon α))
  polygon_read {i : Nat} {outer : Coordinates α} (here : starts i)
    (isShell : (s.directory.entryAt i).code ∈ ElementCode.shells)
    (read : s.shellAt i = .ok outer) : follows (i + 1) ∧
      ∀ {run : Run α (List (Coordinates α))}, i < run.cursor → Q (i + 1) run →
        P i (((run.map (Polygon.mk outer)).after [.built (.ring outer)]).andThen (finishPolygon i))

namespace PreservesPolygons

variable {s : Source α} {starts follows : Nat → Prop}
  {Q : Nat → Run α (List (Coordinates α)) → Prop} {P : RunProperty α} {i : Nat}
  (h : s.PreservesPolygons starts follows Q P)
include h

/-- Holes are a scan of their own; it starts behind a shell. -/
theorem to_holesFrom (here : follows i) : Q i (s.holesFrom i) := by
  fun_induction holesFrom s i with
  | case1 i failure failed => exact h.hole_fail here failed
  | case2 i ended => exact (h.hole_none here ended).2
  | case3 i ring read ih =>
    obtain ⟨next, keeps⟩ := h.hole_read here read
    exact keeps (ih next)

/-- Where holes end a part starts. -/
theorem starts_of_holesFrom {holes : List (Coordinates α)} (here : follows i)
    (ok : (s.holesFrom i).result = .ok holes) : starts (s.holesFrom i).cursor := by
  have scan := scan_holesFrom ok
  clear ok
  generalize (s.holesFrom i).events = events, (s.holesFrom i).cursor = stop at scan
  induction scan with
  | stop ended => exact (h.hole_none here ended).1
  | step first rest ih =>
    obtain ⟨read, _, rfl⟩ := first
    exact ih (h.hole_read here read).1

theorem starts_of_polygonAt (here : starts i)
    (isShell : (s.directory.entryAt i).code ∈ ElementCode.shells) {polygon : Polygon α}
    (ok : (s.polygonAt i).result = .ok polygon) : starts (s.polygonAt i).cursor := by
  obtain ⟨shell, holes, last, _⟩ := polygonAt_ok ok
  rw [last]
  exact h.starts_of_holesFrom (h.polygon_read here isShell shell).1 holes

theorem to_polygonAt (here : starts i)
    (isShell : (s.directory.entryAt i).code ∈ ElementCode.shells) : P i (s.polygonAt i) := by
  rw [polygonAt_eq]
  cases shell : s.shellAt i with
  | error failure => exact h.shell_fail here isShell shell
  | ok outer =>
    obtain ⟨next, keeps⟩ := h.polygon_read here isShell shell
    exact keeps (le_cursor_holesFrom s (i + 1)) (h.to_holesFrom next)

/-- The induction is on the elements that are left: a polygon takes at least its shell. -/
theorem to_polygonsFrom (here : starts i) : P i (s.polygonsFrom i) := by
  fun_induction polygonsFrom s i with
  | case1 i isShell failure failed => exact h.stop (h.to_polygonAt here isShell) failed
  | case2 i isShell polygon read ih =>
    exact h.chain (h.to_polygonAt here isShell) read
      (h.map _ (ih (h.starts_of_polygonAt here isShell read)))
  | case3 i => exact h.done [] here

end PreservesPolygons

/-- A scan of members preserves the property. -/
structure PreservesMembers (s : Source α) (starts follows : Nat → Prop)
    (Q : Nat → Run α (List (Coordinates α)) → Prop) (P : RunProperty α) : Prop extends
    s.PreservesPolygons starts follows Q P where
  lone_fail {i : Nat} {failure : Failure} (here : starts i)
    (remains : (s.directory.entryAt i).code ≠ ElementCode.finish)
    (alone : (s.directory.entryAt i).code ∉ ElementCode.shells)
    (failed : s.loneMemberAt i = .error failure) : P i (.fail i failure : Run α (Shape α))
  lone_read {i : Nat} {shape : Shape α} (here : starts i)
    (remains : (s.directory.entryAt i).code ≠ ElementCode.finish)
    (alone : (s.directory.entryAt i).code ∉ ElementCode.shells)
    (read : s.loneMemberAt i = .ok shape) :
    starts (i + 1) ∧ P i ⟨i + 1, [.built (.geometry (.shape shape))], .ok shape⟩

namespace PreservesMembers

variable {s : Source α} {starts follows : Nat → Prop}
  {Q : Nat → Run α (List (Coordinates α)) → Prop} {P : RunProperty α} {i : Nat}
  (h : s.PreservesMembers starts follows Q P)
include h

theorem to_memberAt (here : starts i)
    (remains : (s.directory.entryAt i).code ≠ ElementCode.finish) : P i (s.memberAt i) := by
  unfold memberAt
  split
  · rename_i isShell
    exact h.map _ (h.to_polygonAt here isShell)
  · rename_i alone
    unfold shapeAt
    split
    · rename_i failure failed
      exact h.lone_fail here remains alone failed
    · rename_i shape read
      exact (h.lone_read here remains alone read).2

theorem starts_of_memberAt (here : starts i)
    (remains : (s.directory.entryAt i).code ≠ ElementCode.finish) {shape : Shape α}
    (ok : (s.memberAt i).result = .ok shape) : starts (s.memberAt i).cursor := by
  by_cases isShell : (s.directory.entryAt i).code ∈ ElementCode.shells
  · rw [memberAt, if_pos isShell] at ok ⊢
    obtain ⟨polygon, read, _⟩ := Run.result_map_eq_ok.mp ok
    exact h.starts_of_polygonAt here isShell read
  · rw [memberAt, if_neg isShell] at ok ⊢
    obtain ⟨read, ran⟩ := shapeAt_ok ok
    rw [ran]
    exact (h.lone_read here remains isShell read).1

/-- Members are a scan whose steps may be scans. -/
theorem to_membersFrom (here : starts i) : P i (s.membersFrom i) := by
  fun_induction membersFrom s i with
  | case1 i remains failure failed => exact h.stop (h.to_memberAt here remains) failed
  | case2 i remains member read ih =>
    exact h.chain (h.to_memberAt here remains) read
      (h.map _ (ih (h.starts_of_memberAt here remains read)))
  | case3 i => exact h.done [] here

end PreservesMembers

end Source

end TripletGeometry
