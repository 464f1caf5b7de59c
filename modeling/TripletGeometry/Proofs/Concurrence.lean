import TripletGeometry.Proofs.Building
import TripletGeometry.Proofs.Likeness

/-!
Building from two sources of which the second mirrors the first: its elements are read as those of
the first are, index by index, up to a change of all coordinates. Both move the cursor over the same
elements, note the same and put the same together, up to that change; they end with the same, up to
that change, or fail alike.
-/
namespace TripletGeometry

/-! Other coordinates. -/

section Coordinates

variable {α : Type}

def Shape.mapCoordinates (f : Coordinates α → Coordinates α) : Shape α → Shape α
  | .point c => .point (f c)
  | .lineString c => .lineString (f c)
  | .polygon p => .polygon (p.mapRings f)
  | .multiPoint c => .multiPoint (f c)

def Geometry.mapCoordinates (f : Coordinates α → Coordinates α) : Geometry α → Geometry α
  | .shape s => .shape (s.mapCoordinates f)
  | .multiLineString lines => .multiLineString (lines.map f)
  | .multiPolygon polygons => .multiPolygon (polygons.map (Polygon.mapRings f))
  | .collection members => .collection (members.map (Shape.mapCoordinates f))

def Node.mapCoordinates (f : Coordinates α → Coordinates α) : Node α → Node α
  | .ring c => .ring (f c)
  | .geometry g => .geometry (g.mapCoordinates f)

def Event.mapCoordinates (f : Coordinates α → Coordinates α) : Event α → Event α
  | .built node => .built (node.mapCoordinates f)
  | .noted note => .noted note

theorem Polygon.mapRings_id : Polygon.mapRings (α := α) id = id := by
  funext p
  rw [mapRings, List.map_id]
  rfl

theorem Shape.mapCoordinates_id : Shape.mapCoordinates (α := α) id = id := by
  funext s
  cases s with
  | polygon p => rw [mapCoordinates, Polygon.mapRings_id]; rfl
  | point | lineString | multiPoint => rfl

theorem Geometry.mapCoordinates_id : Geometry.mapCoordinates (α := α) id = id := by
  funext g
  cases g with
  | shape s => rw [mapCoordinates, Shape.mapCoordinates_id]; rfl
  | multiLineString lines => rw [mapCoordinates, List.map_id]; rfl
  | multiPolygon polygons => rw [mapCoordinates, Polygon.mapRings_id, List.map_id]; rfl
  | collection members => rw [mapCoordinates, Shape.mapCoordinates_id, List.map_id]; rfl

theorem Event.mapCoordinates_id : Event.mapCoordinates (α := α) id = id := by
  funext event
  rcases event with (ring | g) | note
  · rfl
  · rw [mapCoordinates, Node.mapCoordinates, Geometry.mapCoordinates_id]; rfl
  · rfl

/-- Notes name no coordinates. -/
theorem Event.map_noted (f : Coordinates α → Coordinates α) (notes : List Note) :
    (notes.map .noted).map (mapCoordinates f) = notes.map .noted := by
  simp [Function.comp_def, mapCoordinates]

end Coordinates

/-! Results. -/

/-- The results are values, the second of which is made from the first, or failures that are alike.
-/
inductive Matches {β : Type} (alike : Failure → Failure → Prop) (f : β → β) :
    Except Failure β → Except Failure β → Prop
  | ok (value : β) : Matches alike f (.ok value) (.ok (f value))
  | error {x y : Failure} (both : alike x y) : Matches alike f (.error x) (.error y)

namespace Matches

variable {β γ : Type} {alike : Failure → Failure → Prop} {f : β → β} {x y : Except Failure β}

theorem eq_ok (h : Matches alike f x y) {value : β} (ok : x = .ok value) : y = .ok (f value) := by
  cases h with
  | ok found =>
    cases ok
    rfl
  | error both => cases ok

theorem exists_error (h : Matches alike f x y) {failure : Failure} (failed : x = .error failure) :
    ∃ other, y = .error other ∧ alike failure other := by
  cases h with
  | ok found => cases failed
  | error both =>
    cases failed
    exact ⟨_, rfl, both⟩

theorem map (h : Matches alike f x y) {g : γ → γ} {k k' : β → γ}
    (commutes : ∀ b, g (k b) = k' (f b)) : Matches alike g (x.map k) (y.map k') := by
  cases h with
  | ok value =>
    rw [Except.map, Except.map, ← commutes]
    exact .ok (k value)
  | error both => exact .error both

theorem of_agree {alike' : Failure → Failure → Prop} (weaken : ∀ x y, alike x y → alike' x y)
    (same : f = id) (h : Agree alike x y) : Matches alike' f x y := by
  subst same
  cases h with
  | ok value => exact .ok value
  | error both => exact .error (weaken _ _ both)

theorem refl (same : ∀ failure, alike failure failure) (x : Except Failure β) :
    Matches alike id x x := by
  cases x with
  | error failure => exact .error (same failure)
  | ok value => exact .ok value

/-- Where alike means equal nothing but the change distinguishes the results. -/
theorem eq_iff : Matches Eq f x y ↔ y = x.map f := by
  constructor
  · intro h
    cases h with
    | ok value => rfl
    | error both => rw [both]; rfl
  · intro same
    subst same
    cases x with
    | error failure => exact .error rfl
    | ok value => exact .ok value

theorem agree (h : Matches alike id x y) : Agree alike x y := by
  cases h with
  | ok value => exact .ok value
  | error both => exact .error both

end Matches

/-! Runs. -/

namespace Run

variable {α β γ : Type}

/-- The runs stop at the same cursor, the same happened on the way, and their results match. -/
structure Matches (alike : Failure → Failure → Prop) (c : Coordinates α → Coordinates α)
    (f : β → β) (x y : Run α β) : Prop where
  cursor : y.cursor = x.cursor
  events : y.events = x.events.map (Event.mapCoordinates c)
  result : TripletGeometry.Matches alike f x.result y.result

namespace Matches

variable {alike : Failure → Failure → Prop} {c : Coordinates α → Coordinates α} {f : β → β}
  {g : γ → γ} {x y : Run α β}

theorem fail {failure other : Failure} (i : Nat) (both : alike failure other) :
    (Run.fail i failure : Run α β).Matches alike c f (.fail i other) := ⟨rfl, rfl, .error both⟩

theorem of_ok (i : Nat) (events : List (Event α)) (value : β) :
    Run.Matches alike c f ⟨i, events, .ok value⟩
      ⟨i, events.map (Event.mapCoordinates c), .ok (f value)⟩ := ⟨rfl, rfl, .ok value⟩

theorem after (h : x.Matches alike c f y) (events : List (Event α)) :
    (x.after events).Matches alike c f (y.after (events.map (Event.mapCoordinates c))) :=
  ⟨h.cursor, by rw [events_after, events_after, h.events, List.map_append], h.result⟩

theorem map (h : x.Matches alike c f y) {k k' : β → γ} (commutes : ∀ b, g (k b) = k' (f b)) :
    (x.map k).Matches alike c g (y.map k') := ⟨h.cursor, h.events, h.result.map commutes⟩

theorem cons {x y : Run α (List β)} (h : x.Matches alike c (List.map f) y) (b : β) :
    (x.map (b :: ·)).Matches alike c (List.map f) (y.map (f b :: ·)) := h.map fun _ => rfl

theorem andThen (h : x.Matches alike c f y) {next next' : Nat → β → Run α γ}
    (step : ∀ cursor b, (next cursor b).Matches alike c g (next' cursor (f b))) :
    (x.andThen next).Matches alike c g (y.andThen next') := by
  cases ended : x.result with
  | error failure =>
    obtain ⟨other, failed, both⟩ := h.result.exists_error ended
    rw [andThen_of_error next ended, andThen_of_error next' failed]
    exact ⟨h.cursor, h.events, .error both⟩
  | ok value =>
    rw [andThen_of_ok next ended, andThen_of_ok next' (h.result.eq_ok ended), h.cursor, h.events]
    exact (step _ value).after _

/-- A run that failed has failed alike for whatever was to be read. -/
theorem stop (h : x.Matches alike c f y) {failure : Failure} (failed : x.result = .error failure) :
    ∃ other, y.result = .error other ∧
      Run.Matches alike c g ⟨x.cursor, x.events, .error failure⟩
        ⟨y.cursor, y.events, .error other⟩ := by
  obtain ⟨other, failed', both⟩ := h.result.exists_error failed
  exact ⟨other, failed', h.cursor, h.events, .error both⟩

end Matches

end Run

/-! Sources. -/

namespace Source

variable {α : Type} [Ordinate α]

/-- The elements of the second source are read as those of the first, with other coordinates. -/
structure Mirrors (alike : Failure → Failure → Prop) (c : Coordinates α → Coordinates α)
    (s t : Source α) : Prop where
  count : t.directory.count = s.directory.count
  code : ∀ i, (t.directory.entryAt i).code = (s.directory.entryAt i).code
  bounds : ∀ kind, Matches alike id (s.directory.checkBounds 0 kind)
    (t.directory.checkBounds 0 kind)
  point : ∀ i, Matches alike (Shape.mapCoordinates c) (s.pointAt i) (t.pointAt i)
  multiPoint : ∀ i, Matches alike (Shape.mapCoordinates c) (s.multiPointAt i) (t.multiPointAt i)
  line : ∀ i, Matches alike c (s.lineAt i) (t.lineAt i)
  member : ∀ i, Matches alike (Shape.mapCoordinates c) (s.loneMemberAt i) (t.loneMemberAt i)
  shell : ∀ i, Matches alike c (s.shellAt i) (t.shellAt i)
  hole : ∀ i, Matches alike (Option.map c) (s.holeAt i) (t.holeAt i)

section Shapes

variable {alike : Failure → Failure → Prop} {c : Coordinates α → Coordinates α}

omit [Ordinate α] in
theorem matches_shapeAt {read read' : Nat → Except Failure (Shape α)} {i : Nat}
    (h : Matches alike (Shape.mapCoordinates c) (read i) (read' i)) :
    (shapeAt read i).Matches alike c (Shape.mapCoordinates c) (shapeAt read' i) := by
  simp only [shapeAt]
  generalize read i = x, read' i = y at h
  cases h with
  | ok shape => exact .of_ok _ _ _
  | error both => exact .fail i both

omit [Ordinate α] in
theorem matches_finishPolygon (i cursor : Nat) (polygon : Polygon α) :
    (finishPolygon i cursor polygon).Matches alike c (Polygon.mapRings c)
      (finishPolygon i cursor (polygon.mapRings c)) := by
  refine ⟨rfl, ?_, .ok polygon⟩
  have holes : (polygon.mapRings c).holes.length = polygon.holes.length := List.length_map _
  simp only [finishPolygon, holes]
  rfl

end Shapes

namespace Mirrors

variable {alike : Failure → Failure → Prop} {c : Coordinates α → Coordinates α} {s t : Source α}
  (h : s.Mirrors alike c t)
include h

/-- Both scans take the same steps, so the induction is on those of the first. -/
theorem matches_linesFrom (i : Nat) :
    (s.linesFrom i).Matches alike c (List.map c) (t.linesFrom i) := by
  fun_induction linesFrom s i with
  | case1 i isLine failure failed =>
    obtain ⟨other, failed', both⟩ := (h.line i).exists_error failed
    rw [t.linesFrom_eq, h.code, if_pos isLine, failed']
    exact .fail i both
  | case2 i isLine line read ih =>
    rw [t.linesFrom_eq, h.code, if_pos isLine, (h.line i).eq_ok read]
    exact (ih.cons line).after _
  | case3 i otherCode =>
    rw [t.linesFrom_eq, h.code, if_neg otherCode]
    exact .of_ok i [] []

/-- Holes are found at the same elements. The induction is that of the scan of the first source. -/
theorem matches_holesFrom (i : Nat) :
    (s.holesFrom i).Matches alike c (List.map c) (t.holesFrom i) := by
  fun_induction holesFrom s i with
  | case1 i failure failed =>
    obtain ⟨other, failed', both⟩ := (h.hole i).exists_error failed
    rw [t.holesFrom_eq, failed']
    exact .fail i both
  | case2 i ended =>
    rw [t.holesFrom_eq, (h.hole i).eq_ok ended]
    exact .of_ok i [] []
  | case3 i ring read ih =>
    rw [t.holesFrom_eq, (h.hole i).eq_ok read]
    exact (ih.cons ring).after _

theorem matches_polygonAt (i : Nat) :
    (s.polygonAt i).Matches alike c (Polygon.mapRings c) (t.polygonAt i) := by
  rw [polygonAt_eq, polygonAt_eq]
  cases shell : s.shellAt i with
  | error failure =>
    obtain ⟨other, failed', both⟩ := (h.shell i).exists_error shell
    rw [failed']
    exact .fail i both
  | ok outer =>
    rw [(h.shell i).eq_ok shell]
    have rings : ((s.holesFrom (i + 1)).map (Polygon.mk outer)).Matches alike c
        (Polygon.mapRings c) ((t.holesFrom (i + 1)).map (Polygon.mk (c outer))) :=
      (h.matches_holesFrom (i + 1)).map fun _ => rfl
    exact (rings.after _).andThen (matches_finishPolygon i)

theorem matches_polygonsFrom (i : Nat) : (s.polygonsFrom i).Matches alike c
    (List.map (Polygon.mapRings c)) (t.polygonsFrom i) := by
  fun_induction polygonsFrom s i with
  | case1 i isShell failure failed =>
    obtain ⟨other, failed', both⟩ := (h.matches_polygonAt i).stop failed
    rw [t.polygonsFrom_eq, h.code, if_pos isShell, failed']
    exact both
  | case2 i isShell polygon read ih =>
    have first := h.matches_polygonAt i
    rw [t.polygonsFrom_eq, h.code, if_pos isShell, first.result.eq_ok read, first.cursor,
      first.events]
    exact (ih.cons polygon).after _
  | case3 i otherCode =>
    rw [t.polygonsFrom_eq, h.code, if_neg otherCode]
    exact .of_ok i [] []

theorem matches_memberAt (i : Nat) :
    (s.memberAt i).Matches alike c (Shape.mapCoordinates c) (t.memberAt i) := by
  unfold memberAt
  rw [h.code]
  split
  · exact (h.matches_polygonAt i).map fun _ => rfl
  · exact matches_shapeAt (h.member i)

/-- Members match one by one, since the codes of both sources are the same. -/
theorem matches_membersFrom (i : Nat) : (s.membersFrom i).Matches alike c
    (List.map (Shape.mapCoordinates c)) (t.membersFrom i) := by
  fun_induction membersFrom s i with
  | case1 i remains failure failed =>
    obtain ⟨other, failed', both⟩ := (h.matches_memberAt i).stop failed
    rw [t.membersFrom_eq, h.code, if_pos remains, failed']
    exact both
  | case2 i remains member read ih =>
    have first := h.matches_memberAt i
    rw [t.membersFrom_eq, h.code, if_pos remains, first.result.eq_ok read, first.cursor,
      first.events]
    exact (ih.cons member).after _
  | case3 i finish =>
    rw [t.membersFrom_eq, h.code, if_neg finish]
    exact .of_ok i [] []

/-- What is left behind a building has the same index and the same code. -/
theorem unreadNotes_eq (kind : Kind) (i : Nat) : t.unreadNotes kind i = s.unreadNotes kind i := by
  simp only [unreadNotes, h.count, h.code]

theorem matches_single {x y : Run α (Shape α)} (kind : Kind)
    (same : x.Matches alike c (Shape.mapCoordinates c) y) :
    (s.single kind x).Matches alike c (Geometry.mapCoordinates c) (t.single kind y) := by
  refine same.andThen fun cursor shape => ?_
  rw [h.unreadNotes_eq]
  exact ⟨rfl, (Event.map_noted c _).symm, .ok _⟩

theorem matches_several {x y : Run α (Geometry α)} (kind : Kind) (i : Nat)
    {notes notes' : Nat → List Note} (noted : ∀ cursor, notes' cursor = notes cursor)
    (same : x.Matches alike c (Geometry.mapCoordinates c) y) :
    (s.several kind i notes x).Matches alike c (Geometry.mapCoordinates c)
      (t.several kind i notes' y) := by
  unfold several
  cases checked : s.directory.checkBounds 0 kind.name with
  | error failure =>
    obtain ⟨other, refused, both⟩ := (h.bounds kind.name).exists_error checked
    rw [refused]
    exact .fail i both
  | ok passed =>
    rw [(h.bounds kind.name).eq_ok checked]
    refine same.andThen fun cursor g => ?_
    rw [noted]
    refine ⟨rfl, ?_, .ok _⟩
    rw [List.map_append, Event.map_noted]
    rfl

/-- Of a descriptor only the topology matters, but for the type code that a refusal names. -/
theorem matches_build {d d' : TypeCode.Descriptor} (topology : d'.topology = d.topology)
    (refused : alike (.fault (.unsupportedType d.typeCode))
      (.fault (.unsupportedType d'.typeCode))) (i : Nat) :
    (s.build d i).Matches alike c (Geometry.mapCoordinates c) (t.build d' i) := by
  simp only [build, topology]
  cases d.topology with
  | point => exact h.matches_single _ (matches_shapeAt (h.point i))
  | line => exact h.matches_single _ (matches_shapeAt ((h.line i).map fun _ => rfl))
  | polygon => exact h.matches_single _ ((h.matches_polygonAt i).map fun _ => rfl)
  | multiPoint => exact h.matches_single _ (matches_shapeAt (h.multiPoint i))
  | multiLine =>
    exact h.matches_several _ i (h.unreadNotes_eq _) ((h.matches_linesFrom i).map fun _ => rfl)
  | multiPolygon =>
    exact h.matches_several _ i (h.unreadNotes_eq _) ((h.matches_polygonsFrom i).map fun _ => rfl)
  | collection =>
    exact h.matches_several _ i (fun _ => rfl) ((h.matches_membersFrom i).map fun _ => rfl)
  | unknown | solid | multiSolid => exact .fail i refused

end Mirrors

end Source

/-! Twins. -/

namespace Failure

/-- The failures are the same, or they are faults of one kind that know the same of the element to
blame. What their messages say besides may differ. -/
inductive Akin : Failure → Failure → Prop
  | same (failure : Failure) : Akin failure failure
  | fault {f g : Fault} (kind : g.kind? = f.kind?) (index : g.context.index = f.context.index)
      (elementType : g.context.elementType = f.context.elementType)
      (interpretation : g.context.interpretation = f.context.interpretation) :
      Akin (.fault f) (.fault g)

/-- Failures at the same index that are alike are akin. -/
theorem Alike.akin {i : Nat} (f g : Failure) (h : Alike i i f g) : Akin f g := by
  cases h with
  | same => exact .same _
  | fault kind here there elementType interpretation =>
    exact .fault kind (there.trans here.symm) elementType interpretation

end Failure

namespace Source

variable {α : Type} {s t : Source α}

/-- Every entry of the one source, sentinels included, looks like that of the other. -/
def Twins (s t : Source α) : Prop := ∀ i, s.AlikeAt t i i

namespace Twins

variable (h : s.Twins t)
include h

theorem count_eq : t.directory.count = s.directory.count := by
  have last := (h s.directory.count).inside
  have past := (h t.directory.count).inside
  omega

variable [Ordinate α]

theorem mirrors : s.Mirrors Failure.Akin id t where
  count := h.count_eq
  code i := (h i).code
  bounds kind := .of_agree Failure.Alike.akin rfl ((h 0).agree_checkBounds kind)
  point i := .of_agree Failure.Alike.akin Shape.mapCoordinates_id (h i).agree_pointAt
  multiPoint i := .of_agree Failure.Alike.akin Shape.mapCoordinates_id (h i).agree_multiPointAt
  line i := .of_agree Failure.Alike.akin rfl (h i).agree_lineAt
  member i := .of_agree Failure.Alike.akin Shape.mapCoordinates_id (h i).agree_loneMemberAt
  shell i := .of_agree Failure.Alike.akin rfl (h i).agree_shellAt
  hole i := .of_agree Failure.Alike.akin Option.map_id (h i).agree_holeAt

/-- Building from both sources is noted in the same way and ends in the same way, failures included.
-/
theorem agree_build {d d' : TypeCode.Descriptor} (topology : d'.topology = d.topology) (i : Nat) :
    (t.build d' i).events = (s.build d i).events ∧
      Agree Failure.Akin (s.build d i).result (t.build d' i).result := by
  have same := h.mirrors.matches_build topology (.fault rfl rfl rfl rfl) i
  have result := same.result
  rw [Geometry.mapCoordinates_id] at result
  exact ⟨by rw [same.events, Event.mapCoordinates_id, List.map_id], result.agree⟩

end Twins

end Source

end TripletGeometry
