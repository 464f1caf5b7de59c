import TripletGeometry.Proofs.Checks
import TripletGeometry.Source.Build

/-!
What a building that succeeds has done, topology by topology: which reader or which scan was run
from the cursor, what it gave, what happened on the way, and where it stopped. The four scans differ
in what stops them and in what one step of them reads; how the steps follow one another is the same,
so it is said once.
-/
namespace TripletGeometry

namespace Run

variable {α β γ : Type}

/-- A run that went on with another succeeded only if both did. -/
theorem andThen_result_eq_ok {run : Run α β} {next : Nat → β → Run α γ} {c : γ} :
    (run.andThen next).result = .ok c ↔
      ∃ b, run.result = .ok b ∧ (next run.cursor b).result = .ok c := by
  cases ended : run.result with
  | error failure => simp [andThen_of_error next ended]
  | ok b => simp [andThen_of_ok next ended]

end Run

namespace Source

variable {α : Type}

/-- A shape that was read takes one element and is put together at once. -/
theorem shapeAt_ok {read : Nat → Except Failure (Shape α)} {i : Nat} {shape : Shape α}
    (ok : (shapeAt read i).result = .ok shape) :
    read i = .ok shape ∧
      shapeAt read i = ⟨i + 1, [.built (.geometry (.shape shape))], .ok shape⟩ := by
  unfold shapeAt at ok ⊢
  cases reading : read i with
  | error failure =>
    rw [reading] at ok
    cases ok
  | ok found =>
    rw [reading] at ok
    cases ok
    exact ⟨rfl, rfl⟩

theorem single_ok {s : Source α} {kind : Kind} {run : Run α (Shape α)} {g : Geometry α}
    (ok : (s.single kind run).result = .ok g) :
    ∃ shape, run.result = .ok shape ∧ g = .shape shape ∧ (s.single kind run).cursor = run.cursor ∧
      (s.single kind run).events = run.events ++ (s.unreadNotes kind run.cursor).map .noted := by
  obtain ⟨shape, read, same⟩ := Run.andThen_result_eq_ok.mp ok
  refine ⟨shape, read, (Except.ok.inj same).symm, ?_⟩
  rw [single, Run.andThen_of_ok _ read]
  exact ⟨rfl, rfl⟩

section Several

variable {s : Source α} {kind : Kind} {i : Nat} {notes : Nat → List Note}
  {parts : Run α (Geometry α)}

/-- A geometry of several parts is refused where there are no elements. -/
theorem several_of_empty (empty : ¬ 0 < s.directory.count) :
    ∃ fault : Fault, s.several kind i notes parts = .fail i (.fault fault) := by
  obtain ⟨fault, refused, _⟩ := (s.directory.judges_checkBounds 0 kind.name).refuses empty
  have checked : s.directory.checkBounds 0 kind.name = .error (.fault fault) := refused
  exact ⟨fault, by rw [several, checked]⟩

theorem several_of_nonempty (nonempty : 0 < s.directory.count) :
    s.several kind i notes parts = parts.conclude notes .geometry := by
  have checked : s.directory.checkBounds 0 kind.name = .ok () :=
    (s.directory.judges_checkBounds 0 kind.name).passes nonempty
  rw [several, checked]

theorem several_ok {g : Geometry α} (ok : (s.several kind i notes parts).result = .ok g) :
    0 < s.directory.count ∧ parts.result = .ok g ∧
      (s.several kind i notes parts).cursor = parts.cursor ∧
      (s.several kind i notes parts).events =
        parts.events ++ ((notes parts.cursor).map .noted ++ [.built (.geometry g)]) := by
  by_cases nonempty : 0 < s.directory.count
  · rw [several_of_nonempty nonempty] at ok ⊢
    obtain ⟨_, read, same⟩ := Run.andThen_result_eq_ok.mp ok
    cases same
    refine ⟨nonempty, read, ?_⟩
    rw [Run.conclude, Run.andThen_of_ok _ read]
    exact ⟨rfl, rfl⟩
  · obtain ⟨fault, refused⟩ : ∃ fault : Fault,
        s.several kind i notes parts = .fail i (.fault fault) := several_of_empty nonempty
    rw [refused] at ok
    cases ok

end Several

/-- A member that takes one element is a point, several points or a line. -/
theorem loneMemberAt_ok {s : Source α} {i : Nat} {shape : Shape α}
    (ok : s.loneMemberAt i = .ok shape) :
    s.pointAt i = .ok shape ∨ s.multiPointAt i = .ok shape ∨
      ∃ line, s.lineAt i = .ok line ∧ shape = .lineString line := by
  simp only [loneMemberAt] at ok
  split at ok
  · split at ok
    · exact .inl ok
    split at ok
    · exact .inr (.inl ok)
    · exact absurd ok ((s.directory.refuses_rejectInterpretation i _).ne_ok shape)
  split at ok
  · obtain ⟨line, read, same⟩ := map_eq_ok.mp ok
    exact .inr (.inr ⟨line, read, same.symm⟩)
  split at ok
  · exact absurd ok ((s.directory.refuses_rejectElement i _ _).ne_ok shape)
  · exact absurd ok ((s.directory.refuses_rejectElement i _ _).ne_ok shape)

variable [Ordinate α]

/-- A polygon is its shell and the holes that are read behind the shell. -/
theorem polygonAt_ok {s : Source α} {i : Nat} {polygon : Polygon α}
    (ok : (s.polygonAt i).result = .ok polygon) :
    s.shellAt i = .ok polygon.outer ∧ (s.holesFrom (i + 1)).result = .ok polygon.holes ∧
      (s.polygonAt i).cursor = (s.holesFrom (i + 1)).cursor ∧
      (s.polygonAt i).events = .built (.ring polygon.outer) :: (s.holesFrom (i + 1)).events ++
        [.noted (.polygon i polygon.holes.length),
          .built (.geometry (.shape (.polygon polygon)))] := by
  unfold polygonAt at ok ⊢
  cases shell : s.shellAt i with
  | error failure =>
    rw [shell] at ok
    cases ok
  | ok outer =>
    rw [shell] at ok
    obtain ⟨_, read, same⟩ := Run.andThen_result_eq_ok.mp ok
    cases same
    obtain ⟨holes, found, rfl⟩ := Run.result_map_eq_ok.mp (Run.result_after _ _ ▸ read)
    refine ⟨rfl, found, ?_⟩
    simp only [Run.andThen_of_ok _ read]
    exact ⟨rfl, rfl⟩

/-- A member is a polygon with the holes that follow it, or stands alone. -/
theorem memberAt_ok {s : Source α} {i : Nat} {shape : Shape α}
    (ok : (s.memberAt i).result = .ok shape) :
    (∃ polygon, (s.polygonAt i).result = .ok polygon ∧ shape = .polygon polygon ∧
        (s.memberAt i).cursor = (s.polygonAt i).cursor ∧
        (s.memberAt i).events = (s.polygonAt i).events) ∨
      (s.loneMemberAt i = .ok shape ∧ (s.memberAt i).cursor = i + 1 ∧
        (s.memberAt i).events = [.built (.geometry (.shape shape))]) := by
  unfold memberAt at ok ⊢
  split at ok
  · rename_i isShell
    rw [if_pos isShell]
    obtain ⟨polygon, read, same⟩ := Run.result_map_eq_ok.mp ok
    exact .inl ⟨polygon, read, same.symm, rfl, rfl⟩
  · rename_i notShell
    rw [if_neg notShell]
    obtain ⟨read, ran⟩ := shapeAt_ok ok
    rw [ran]
    exact .inr ⟨read, rfl, rfl⟩

end Source

/-- A scan that ended well read parts one after the other, each from where the one before had left
the cursor, until it came to an entry that stops it. -/
inductive Scan {α β : Type} (stops : Nat → Prop) (reads : Nat → β → List (Event α) → Nat → Prop) :
    Nat → List β → List (Event α) → Nat → Prop
  | stop {i : Nat} (ends : stops i) : Scan stops reads i [] [] i
  | step {i j k : Nat} {part : β} {parts : List β} {events later : List (Event α)}
      (first : reads i part events j) (rest : Scan stops reads j parts later k) :
      Scan stops reads i (part :: parts) (events ++ later) k

namespace Scan

variable {α β : Type} {stops : Nat → Prop} {reads : Nat → β → List (Event α) → Nat → Prop}
  {i k : Nat} {parts : List β} {events : List (Event α)}

theorem stops_at_end (scan : Scan stops reads i parts events k) : stops k := by
  induction scan with
  | stop ends => exact ends
  | step first rest ih => exact ih

/-- A scan without parts has not moved. -/
theorem parts_eq_nil_iff (scan : Scan stops reads i parts events k)
    (moves : ∀ part later j, reads i part later j → ¬ stops i) : parts = [] ↔ stops i := by
  cases scan with
  | stop ends => exact ⟨fun _ => ends, fun _ => rfl⟩
  | step first rest => exact ⟨nofun, fun ends => absurd ends (moves _ _ _ first)⟩

/-- What holds of every event of a step holds of every event of the scan. -/
theorem forall_events {p : Event α → Prop}
    (each : ∀ i part later j, reads i part later j → ∀ event ∈ later, p event)
    (scan : Scan stops reads i parts events k) : ∀ event ∈ events, p event := by
  induction scan with
  | stop ends => exact fun event h => absurd h List.not_mem_nil
  | step first rest ih =>
    intro event h
    rcases List.mem_append.mp h with early | late
    · exact each _ _ _ _ first event early
    · exact ih event late

/-- What holds of the part of every step holds of every part of the scan. -/
theorem forall_parts {p : β → Prop} (each : ∀ i part later j, reads i part later j → p part)
    (scan : Scan stops reads i parts events k) : ∀ part ∈ parts, p part := by
  induction scan with
  | stop ends => exact fun part h => absurd h List.not_mem_nil
  | step first rest ih =>
    intro part h
    rcases List.mem_cons.mp h with rfl | later
    · exact each _ _ _ _ first
    · exact ih part later

end Scan

/-! One step of each scan. -/

namespace Source

variable {α : Type}

theorem linesFrom_eq (s : Source α) (i : Nat) : s.linesFrom i =
    if (s.directory.entryAt i).code = ElementCode.line then
      match s.lineAt i with
      | .error failure => .fail i failure
      | .ok line => ((s.linesFrom (i + 1)).map (line :: ·)).after
          [.built (.geometry (.shape (.lineString line)))]
    else .done i [] := by
  rw [linesFrom]
  rfl

variable [Ordinate α]

theorem holesFrom_eq (s : Source α) (i : Nat) : s.holesFrom i =
    match s.holeAt i with
    | .error failure => .fail i failure
    | .ok none => .done i []
    | .ok (some ring) =>
      ((s.holesFrom (i + 1)).map (ring :: ·)).after [.built (.ring ring)] := by
  rw [holesFrom]
  split <;> simp only [*]

omit [Ordinate α] in
def finishPolygon (index cursor : Nat) (polygon : Polygon α) : Run α (Polygon α) :=
  ⟨cursor, [.noted (.polygon index polygon.holes.length),
    .built (.geometry (.shape (.polygon polygon)))], .ok polygon⟩

theorem polygonAt_eq (s : Source α) (i : Nat) : s.polygonAt i =
    match s.shellAt i with
    | .error failure => .fail i failure
    | .ok outer => (((s.holesFrom (i + 1)).map (Polygon.mk outer)).after
        [.built (.ring outer)]).andThen (finishPolygon i) := rfl

/-- Polygons are read as long as a shell can start. -/
theorem polygonsFrom_eq (s : Source α) (i : Nat) : s.polygonsFrom i =
    if (s.directory.entryAt i).code ∈ ElementCode.shells then
      match (s.polygonAt i).result with
      | .error failure => ⟨(s.polygonAt i).cursor, (s.polygonAt i).events, .error failure⟩
      | .ok polygon => ((s.polygonsFrom (s.polygonAt i).cursor).map (polygon :: ·)).after
          (s.polygonAt i).events
    else .done i [] := by
  rw [polygonsFrom]
  split
  · split <;> simp only [*]
  · rfl

/-- Members are read up to the sentinel, or an element with its code. -/
theorem membersFrom_eq (s : Source α) (i : Nat) : s.membersFrom i =
    if (s.directory.entryAt i).code ≠ ElementCode.finish then
      match (s.memberAt i).result with
      | .error failure => ⟨(s.memberAt i).cursor, (s.memberAt i).events, .error failure⟩
      | .ok member => ((s.membersFrom (s.memberAt i).cursor).map (member :: ·)).after
          (s.memberAt i).events
    else .done i [] := by
  rw [membersFrom]
  split
  · split <;> simp only [*]
  · rfl

end Source

/-! The scans as a whole. -/

namespace Source

variable {α : Type}

def ReadsLine (s : Source α) (i : Nat) (line : Coordinates α) (events : List (Event α))
    (j : Nat) : Prop :=
  ((s.directory.entryAt i).code = ElementCode.line ∧ s.lineAt i = .ok line) ∧
    events = [.built (.geometry (.shape (.lineString line)))] ∧ j = i + 1

/-- Lines that were read are the steps of a scan. -/
theorem scan_linesFrom {s : Source α} {i : Nat} {lines : List (Coordinates α)}
    (ok : (s.linesFrom i).result = .ok lines) :
    Scan (fun i => (s.directory.entryAt i).code ≠ ElementCode.line) s.ReadsLine i lines
      (s.linesFrom i).events (s.linesFrom i).cursor := by
  fun_induction linesFrom s i generalizing lines with
  | case1 => cases ok
  | case2 i isLine line read ih =>
    obtain ⟨rest, found, rfl⟩ := Run.result_map_eq_ok.mp (Run.result_after _ _ ▸ ok)
    exact .step ⟨⟨isLine, read⟩, rfl, rfl⟩ (ih found)
  | case3 i otherCode =>
    cases ok
    exact .stop otherCode

variable [Ordinate α]

def ReadsHole (s : Source α) (i : Nat) (ring : Coordinates α) (events : List (Event α))
    (j : Nat) : Prop :=
  s.holeAt i = .ok (some ring) ∧ events = [.built (.ring ring)] ∧ j = i + 1

theorem scan_holesFrom {s : Source α} {i : Nat} {holes : List (Coordinates α)}
    (ok : (s.holesFrom i).result = .ok holes) :
    Scan (fun i => s.holeAt i = .ok none) s.ReadsHole i holes (s.holesFrom i).events
      (s.holesFrom i).cursor := by
  fun_induction holesFrom s i generalizing holes with
  | case1 => cases ok
  | case2 i noHole =>
    cases ok
    exact .stop noHole
  | case3 i ring read ih =>
    obtain ⟨rest, found, rfl⟩ := Run.result_map_eq_ok.mp (Run.result_after _ _ ▸ ok)
    exact .step ⟨read, rfl, rfl⟩ (ih found)

def ReadsPolygon (s : Source α) (i : Nat) (polygon : Polygon α) (events : List (Event α))
    (j : Nat) : Prop :=
  (s.directory.entryAt i).code ∈ ElementCode.shells ∧
    s.polygonAt i = ⟨j, events, .ok polygon⟩

theorem scan_polygonsFrom {s : Source α} {i : Nat} {polygons : List (Polygon α)}
    (ok : (s.polygonsFrom i).result = .ok polygons) :
    Scan (fun i => (s.directory.entryAt i).code ∉ ElementCode.shells) s.ReadsPolygon i polygons
      (s.polygonsFrom i).events (s.polygonsFrom i).cursor := by
  fun_induction polygonsFrom s i generalizing polygons with
  | case1 => cases ok
  | case2 i isShell polygon read ih =>
    obtain ⟨rest, found, rfl⟩ := Run.result_map_eq_ok.mp (Run.result_after _ _ ▸ ok)
    exact .step ⟨isShell, by rw [← read]⟩ (ih found)
  | case3 i otherCode =>
    cases ok
    exact .stop otherCode

/-- The element is no sentinel, and a member is read from it. -/
def ReadsMember (s : Source α) (i : Nat) (member : Shape α) (events : List (Event α))
    (j : Nat) : Prop :=
  (s.directory.entryAt i).code ≠ ElementCode.finish ∧ s.memberAt i = ⟨j, events, .ok member⟩

/-- Members that were read are the steps of a scan. Each of them may itself have been a scan over
holes. -/
theorem scan_membersFrom {s : Source α} {i : Nat} {members : List (Shape α)}
    (ok : (s.membersFrom i).result = .ok members) :
    Scan (fun i => (s.directory.entryAt i).code = ElementCode.finish) s.ReadsMember i members
      (s.membersFrom i).events (s.membersFrom i).cursor := by
  fun_induction membersFrom s i generalizing members with
  | case1 => cases ok
  | case2 i remains member read ih =>
    obtain ⟨rest, found, rfl⟩ := Run.result_map_eq_ok.mp (Run.result_after _ _ ▸ ok)
    exact .step ⟨remains, by rw [← read]⟩ (ih found)
  | case3 i finish =>
    cases ok
    exact .stop (Classical.not_not.mp finish)

end Source

/-- The kind of geometry that a topology announces, if geometries of it are built. -/
def Topology.kind? : Topology → Option Kind
  | point => some .point
  | line => some .lineString
  | polygon => some .polygon
  | multiPoint => some .multiPoint
  | multiLine => some .multiLineString
  | multiPolygon => some .multiPolygon
  | collection => some .geometryCollection
  | unknown | solid | multiSolid => none

namespace Source

variable {α : Type} [Ordinate α]

/-- The geometry of a topology is read from the one index up to the other. -/
inductive Yields (s : Source α) (i : Nat) : Topology → Geometry α → Nat → Prop
  | point {shape : Shape α} (read : s.pointAt i = .ok shape) :
      Yields s i .point (.shape shape) (i + 1)
  | line {line : Coordinates α} (read : s.lineAt i = .ok line) :
      Yields s i .line (.shape (.lineString line)) (i + 1)
  | polygon {polygon : Polygon α} (read : (s.polygonAt i).result = .ok polygon) :
      Yields s i .polygon (.shape (.polygon polygon)) (s.polygonAt i).cursor
  | multiPoint {shape : Shape α} (read : s.multiPointAt i = .ok shape) :
      Yields s i .multiPoint (.shape shape) (i + 1)
  | multiLine {lines : List (Coordinates α)} (nonempty : 0 < s.directory.count)
      (read : (s.linesFrom i).result = .ok lines) :
      Yields s i .multiLine (.multiLineString lines) (s.linesFrom i).cursor
  | multiPolygon {polygons : List (Polygon α)} (nonempty : 0 < s.directory.count)
      (read : (s.polygonsFrom i).result = .ok polygons) :
      Yields s i .multiPolygon (.multiPolygon polygons) (s.polygonsFrom i).cursor
  | collection {members : List (Shape α)} (nonempty : 0 < s.directory.count)
      (read : (s.membersFrom i).result = .ok members) :
      Yields s i .collection (.collection members) (s.membersFrom i).cursor

/-- A building that ends well has read its parts in one of these ways. -/
theorem yields_of_build {s : Source α} {d : TypeCode.Descriptor} {i : Nat} {g : Geometry α}
    (ok : (s.build d i).result = .ok g) :
    s.Yields i d.topology g (s.build d i).cursor := by
  unfold build at ok ⊢
  cases topology : d.topology with
  | point =>
    simp only [topology] at ok ⊢
    obtain ⟨shape, read, rfl, stop, _⟩ := single_ok ok
    obtain ⟨read, ran⟩ := shapeAt_ok read
    rw [stop, ran]
    exact .point read
  | line =>
    simp only [topology] at ok ⊢
    obtain ⟨shape, read, rfl, stop, _⟩ := single_ok ok
    obtain ⟨read, ran⟩ := shapeAt_ok read
    obtain ⟨line, found, rfl⟩ := map_eq_ok.mp read
    rw [stop, ran]
    exact .line found
  | polygon =>
    simp only [topology] at ok ⊢
    obtain ⟨shape, read, rfl, stop, _⟩ := single_ok ok
    obtain ⟨polygon, found, rfl⟩ := Run.result_map_eq_ok.mp read
    rw [stop]
    exact .polygon found
  | multiPoint =>
    simp only [topology] at ok ⊢
    obtain ⟨shape, read, rfl, stop, _⟩ := single_ok ok
    obtain ⟨read, ran⟩ := shapeAt_ok read
    rw [stop, ran]
    exact .multiPoint read
  | multiLine =>
    simp only [topology] at ok ⊢
    obtain ⟨nonempty, read, stop, _⟩ := several_ok ok
    obtain ⟨lines, found, rfl⟩ := Run.result_map_eq_ok.mp read
    rw [stop]
    exact .multiLine nonempty found
  | multiPolygon =>
    simp only [topology] at ok ⊢
    obtain ⟨nonempty, read, stop, _⟩ := several_ok ok
    obtain ⟨polygons, found, rfl⟩ := Run.result_map_eq_ok.mp read
    rw [stop]
    exact .multiPolygon nonempty found
  | collection =>
    simp only [topology] at ok ⊢
    obtain ⟨nonempty, read, stop, _⟩ := several_ok ok
    obtain ⟨members, found, rfl⟩ := Run.result_map_eq_ok.mp read
    rw [stop]
    exact .collection nonempty found
  | unknown | solid | multiSolid =>
    simp only [topology] at ok
    cases ok

end Source

end TripletGeometry
