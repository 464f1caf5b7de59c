import TripletGeometry.Proofs.Capacity
import TripletGeometry.Proofs.CompactPoints
import TripletGeometry.Proofs.Conservation

/-!
How many ordinates the coordinates of a reading have. They are as many as the settings ask for, as
far as coordinates can hold them. The type code and the settings are checked for x and y, but what
coordinates can hold is not: under a cap of one a geometry is given with x only, and a ring of which
y has to be looked at ends the reading with a failure that is no fault of the encoding.
-/
namespace TripletGeometry

variable {α β : Type}

/-! Failures. -/

/-- The failure of looking for y where there is x only. -/
def LacksY (failure : Failure) : Prop :=
  failure = .noSuchPosition ∨ ∃ axis, failure = .outOfBounds 1 axis 1

namespace Source

/-- The result is a value or a fault of the encoding, unless y was looked for in a ring. -/
def Narrow (s : Source α) (i : Nat) (result : Except Failure β) : Prop :=
  Decided result ∨ ((s.directory.entryAt i).code ∈ ElementCode.rings ∧
    ∃ failure, result = .error failure ∧ LacksY failure)

variable {γ : Type} {s : Source α} {i : Nat} {result : Except Failure β}

namespace Narrow

theorem bind (first : s.Narrow i result) {next : β → Except Failure γ}
    (second : ∀ value, result = .ok value → s.Narrow i (next value)) :
    s.Narrow i (result >>= next) := by
  rcases first with ⟨⟨value, rfl⟩ | ⟨fault, rfl⟩⟩ | ⟨coded, failure, rfl, lacks⟩
  · exact second value rfl
  · exact .inl (.inr ⟨fault, rfl⟩)
  · exact .inr ⟨coded, failure, rfl, lacks⟩

theorem map (h : s.Narrow i result) (f : β → γ) : s.Narrow i (result.map f) := by
  rcases h with decided | ⟨coded, failure, rfl, lacks⟩
  · exact .inl (decided.map f)
  · exact .inr ⟨coded, failure, rfl, lacks⟩

theorem of_error (h : s.Narrow i result) {failure : Failure} (failed : result = .error failure) :
    s.Narrow i (.error failure : Except Failure γ) := by
  subst failed
  rcases h with decided | ⟨coded, other, same, lacks⟩
  · exact .inl decided.error
  · cases same
    exact .inr ⟨coded, failure, rfl, lacks⟩

end Narrow

end Source

variable [Ordinate α]

/-! Leaves. -/

namespace Source

variable {s : Source α} {i start stop : Nat} {leaf : Leaf α} {leaves : List (Leaf α)}

theorem Carries.length_row (capped : s.coordinates.width ≤ s.cap.toNat) (h : s.Carries i leaf) :
    ∀ row ∈ leaf.coordinates.rows, row.length = s.coordinates.width := by
  intro row member
  obtain ⟨first, last, _, rows⟩ := h.rows
  unfold LeafRows at rows
  split at rows
  · obtain ⟨_, _, _, _, _, _, _, vertices⟩ := rows
    rw [vertices] at member
    obtain ⟨source, _, rfl⟩ := List.mem_map.mp member
    rw [length_fitRow]
    exact Nat.min_eq_right capped
  · rw [rows, List.extract_eq_take_drop] at member
    exact s.coordinates.uniform row (List.mem_of_mem_drop (List.mem_of_mem_take member))

theorem Spans.exists_carries (spans : s.Spans start stop leaves) (member : leaf ∈ leaves) :
    ∃ k, s.Carries k leaf := by
  obtain ⟨k, inside, rfl⟩ := List.getElem_of_mem member
  exact ⟨_, spans.carries k inside⟩

end Source

/-! Coordinates that have x only. -/

theorem Directory.checkClosed_of_narrow {d : Directory} {i : Nat} {ring : Coordinates α}
    {kind : String} (narrow : ring.width = 1) (nonempty : 0 < ring.size) :
    d.checkClosed i ring kind = .ok () ∨
      d.checkClosed i ring kind = .error (.outOfBounds 1 0 1) := by
  have filled := Coordinates.xy_ne_nil nonempty
  have single : ∀ row ∈ ring.xy, ∃ x, row = [x] := by
    intro row member
    obtain ⟨whole, source, rfl⟩ := List.mem_map.mp member
    obtain ⟨x, rfl⟩ := List.length_eq_one_iff.mp (narrow ▸ ring.uniform whole source)
    exact ⟨x, rfl⟩
  obtain ⟨firstX, first⟩ := single _ (List.head_mem filled)
  obtain ⟨lastX, last⟩ := single _ (List.getLast_mem filled)
  simp only [checkClosed, List.head?_eq_some_head filled, List.getLast?_eq_some_getLast filled,
    first, last]
  split
  · exact .inl rfl
  · exact .inr rfl

namespace Ring

variable {cap : Int} {corners ring : Coordinates α}

/-- A rectangle needs the y of its corners. -/
theorem rectangle_of_narrow (two : corners.size = 2) (narrow : corners.width = 1)
    (capped : 0 ≤ cap) : rectangle cap corners = .error .noSuchPosition := by
  obtain ⟨low, high, pair, lowAt, highAt⟩ := exists_corners two
  obtain ⟨x, rfl⟩ := List.length_eq_one_iff.mp (narrow ▸ corners.uniform low (by simp [pair]))
  have fits : Coordinates.cappedWidth cap corners.width = .ok (min cap.toNat corners.width) :=
    if_pos capped
  simp only [rectangle, lowAt, highAt, fits, bind, Except.bind, rectangleRows]

theorem isClockwise_of_narrow (narrow : ring.width = 1) :
    isClockwise ring = .error (.outOfBounds 1 1 1) := by
  obtain ⟨xs, first⟩ := ring.exists_column (j := 0) (by omega)
  have second : ring.column 1 = .error (.outOfBounds 1 1 1) := by
    simp [Coordinates.column, Coordinates.columnPosition, position?, narrow, Except.map]
  change ring.column 0 = .ok xs at first
  simp only [isClockwise, signedArea, first, second, bind, Except.bind, Except.map]

end Ring

namespace Source

variable {γ : Type} {s : Source α} {i : Nat}

section Readers

variable (narrow : s.coordinates.width = 1) (capped : 1 ≤ s.cap)
include narrow capped

/-- A ring is the only place where y is looked for. -/
theorem narrow_ringAt (i : Nat) : s.Narrow i (s.ringAt i) := by
  have width : (s.elementCoordinates i).width = 1 := by rwa [width_elementCoordinates]
  refine Narrow.bind (.inl (s.judges_checkRing i ElementCode.rings).decided) fun _ passed => ?_
  obtain ⟨⟨_, coded, _⟩, _⟩ := (s.judges_checkRing i _).eq_ok_iff.mp passed
  split
  · have judged := s.directory.judges_checkCount_exactly i (s.elementCoordinates i).size
      Kind.linearRing.name 2
    refine Narrow.bind (.inl judged.decided) fun _ counted =>
      .inr ⟨coded, .noSuchPosition, ?_, .inl rfl⟩
    obtain ⟨two, _⟩ := judged.eq_ok_iff.mp counted
    exact Ring.rectangle_of_narrow (by omega) width (by omega)
  · have judged := s.directory.judges_checkCount_atLeast i (s.elementCoordinates i).size
      Kind.linearRing.name 4
    refine Narrow.bind (.inl judged.decided) fun _ counted => ?_
    obtain ⟨four, _⟩ := judged.eq_ok_iff.mp counted
    refine Narrow.bind ?_ fun _ _ => .inl (.ok _)
    rcases Directory.checkClosed_of_narrow width (by omega) with closed | opens
    · exact .inl (.inl ⟨(), closed⟩)
    · exact .inr ⟨coded, _, opens, .inr ⟨0, rfl⟩⟩

theorem narrow_shellAt (i : Nat) : s.Narrow i (s.shellAt i) :=
  Narrow.bind (.inl (s.judges_checkRing i ElementCode.shells).decided)
    fun _ _ => narrow_ringAt narrow capped i

theorem narrow_holeAt (i : Nat) : s.Narrow i (s.holeAt i) := by
  simp only [holeAt]
  split
  · exact (narrow_ringAt narrow capped i).map _
  split
  · refine (narrow_ringAt narrow capped i).bind fun ring read => ?_
    obtain ⟨⟨_, coded⟩, _⟩ := ringAt_ok read
    have width : ring.width = 1 := by rw [width_of_ringAt (by omega) read, narrow]
    exact Narrow.bind (.inr ⟨coded, _, Ring.isClockwise_of_narrow width, .inr ⟨1, rfl⟩⟩)
      fun _ _ => .inl (.ok _)
  · exact .inl (.ok none)

theorem narrow_of_failsAt {failure : Failure} (fails : s.FailsAt i failure) :
    s.Narrow i (.error failure : Except Failure γ) := by
  cases fails with
  | bounds failed =>
    exact Narrow.of_error (.inl (s.directory.judges_checkBounds i _).decided) failed
  | point failed => exact Narrow.of_error (.inl (s.judges_pointAt i).decided) failed
  | multiPoint failed => exact Narrow.of_error (.inl (s.judges_multiPointAt i).decided) failed
  | line failed => exact Narrow.of_error (.inl (s.judges_lineAt i).decided) failed
  | member failed => exact Narrow.of_error (.inl (s.decided_loneMemberAt i)) failed
  | shell failed => exact (narrow_shellAt narrow capped i).of_error failed
  | hole failed => exact (narrow_holeAt narrow capped i).of_error failed

/-- Where coordinates have x only, a building is decided or stands at a ring and looks for y. -/
theorem narrow_build (d : TypeCode.Descriptor) :
    s.Narrow (s.build d 0).cursor (s.build d 0).result := by
  rcases concludes_build (Nat.zero_le s.directory.count) d with concludes | refused
  · cases ended : (s.build d 0).result with
    | error failure => exact narrow_of_failsAt narrow capped (concludes.fails ended)
    | ok g => exact .inl (.ok g)
  · rw [refused]
    exact .inl (.inr ⟨_, rfl⟩)

end Readers

end Source

/-! Readings. -/

namespace Reader

variable {r : Reader} {e : Encoding α}

/-- Every coordinate that is given has as many ordinates as the reader gives. -/
theorem length_row_of_run {tree : Geometry α} (ok : (r.run e).result = .ok tree) :
    ∃ d, TypeCode.interpret e.typeCode = .ok d ∧ ∀ leaf ∈ tree.leaves,
      ∀ row ∈ leaf.coordinates.rows, row.length = r.width d.dimension := by
  obtain ⟨d, interpreted, origin⟩ := origin_of_run ok
  obtain ⟨⟨planar, _⟩, _⟩ := TypeCode.interpret_ok interpreted
  refine ⟨d, interpreted, ?_⟩
  cases origin with
  | @wholePoint p c whole =>
    rw [run_of_wholePoint interpreted whole, Run.result_after, runPoint_eq] at ok
    split at ok
    · cases ok
    · rename_i assembled
      cases ok
      intro leaf member row present
      cases List.mem_singleton.mp member
      rw [c.uniform row present, Assembly.eq_of_assemble (by omega) assembled]
      rfl
  | @elements s _ spread source built =>
    have opens : r.Opens e d s := ⟨spread, interpreted, source⟩
    have width := opens.width_eq
    obtain ⟨_, _, dimension⟩ := source_ok source
    intro leaf member
    obtain ⟨k, carries⟩ :=
      (Source.spans_of_yields (by omega) (Source.yields_of_build built)).exists_carries member
    rw [← width]
    refine carries.length_row ?_
    rw [width, opens.cap_eq, Reader.width]
    omega

/-- All coordinates of a geometry are as long as the reader asks for. -/
theorem length_row_of_read (least : 1 ≤ r.cap) {placed : Placed (Geometry α)}
    (ok : (r.read .tree (some e)).result = .ok (some placed)) :
    ∃ d, TypeCode.interpret e.typeCode = .ok d ∧ ∀ leaf ∈ placed.geometry.leaves,
      ∀ row ∈ leaf.coordinates.rows,
        row.length = r.width d.dimension ∧ (2 ≤ row.length ↔ 2 ≤ r.cap) := by
  obtain ⟨tree, ran, rfl, _⟩ := read_ok ok
  obtain ⟨d, interpreted, lengths⟩ := length_row_of_run ran
  obtain ⟨⟨planar, _⟩, _⟩ := TypeCode.interpret_ok interpreted
  have asked := r.two_le_outputDimension planar
  refine ⟨d, interpreted, fun leaf member row present => ?_⟩
  have length := lengths leaf member row present
  refine ⟨length, ?_⟩
  rw [length, Reader.width]
  omega

/-- The reading is rejected, or every coordinate of the geometry that it gives has x and y. -/
def GivesXY (m : Machine) (r : Reader) (e : Encoding α) : Prop :=
  Rejected (r.readOn m .tree (some e)).result ∨
    ∃ placed, (r.readOn m .tree (some e)).result = .ok (some placed) ∧
      ∀ leaf ∈ placed.geometry.leaves, ∀ row ∈ leaf.coordinates.rows, 2 ≤ row.length

/-- A cap of two or more leaves x and y. -/
theorem givesXY_of_decided {m : Machine} (capped : 2 ≤ r.cap)
    (decided : Decided (r.readOn m .tree (some e)).result) : GivesXY m r e := by
  rcases decided with ⟨given, ok⟩ | rejected
  · obtain ⟨placed, _, rfl⟩ := map_eq_ok.mp ok
    obtain ⟨_, _, lengths⟩ := length_row_of_read (by omega) (read_of_readOn ok)
    exact .inr ⟨placed, ok, fun leaf member row present =>
      (lengths leaf member row present).2.mpr capped⟩
  · exact .inl rejected

/-- A compact point of two ordinates is given with x only. -/
theorem not_givesXY_of_narrow (narrow : r.cap = 1) (p : CompactPoint α) :
    ¬ GivesXY .ideal r (p.alone 2001 none) := by
  have interpreted : TypeCode.interpret 2001 = .ok ⟨2001, 2, 0, .point⟩ := by decide
  have asked := r.two_le_outputDimension (Int.le_refl 2)
  obtain ⟨c, ran, same⟩ := r.exists_runPoint p (Int.le_refl 2)
    (nonneg_of_cap (Int.le_refl 2) (by omega))
  have width : c.width = 1 := by
    rw [same]
    change (min (r.settings.outputDimension 2) r.cap).toNat = 1
    omega
  have size : c.rows.length = 1 := by
    rw [same]
    simp only [Coordinates.ofRows, List.length_map, Assembly.length_groups]
    change 3 / (min (2 : Int) 3).toNat = 1
    decide
  obtain ⟨row, alone⟩ := List.length_eq_one_iff.mp size
  have present : row ∈ c.rows := by
    rw [alone]
    exact List.mem_singleton_self row
  have read : (r.readOn .ideal .tree (some (p.alone 2001 none))).result =
      .ok (some ⟨.shape (.point c), none⟩) := by
    rw [result_readOn_ideal, result_read_tree,
      run_of_wholePoint (e := p.alone 2001 none) interpreted rfl, ran]
    rfl
  rintro (rejected | ⟨placed, ok, lengths⟩)
  · rw [read] at rejected
    exact not_rejected_ok rejected
  · rw [read] at ok
    cases ok
    have two := lengths ⟨.point, c⟩ (List.mem_singleton_self _) row present
    have one := c.uniform row present
    omega

theorem narrow_read (narrow : r.cap = 1) (e : Encoding α) :
    Decided (r.read .tree (some e)).result ∨ ∃ d s, r.Opens e d s ∧
      (s.directory.entryAt (r.run e).cursor).code ∈ ElementCode.rings ∧
      ∃ failure, (r.read .tree (some e)).result = .error failure ∧ LacksY failure := by
  rw [result_read_tree, decided_map_iff]
  cases interpreted : TypeCode.interpret e.typeCode with
  | error fault =>
    refine .inl (.inr ⟨fault, ?_⟩)
    simp only [run_eq, interpreted]
    rfl
  | ok d =>
    obtain ⟨⟨planar, _⟩, _⟩ := TypeCode.interpret_ok interpreted
    have least := nonneg_of_cap (r := r) planar (by omega)
    cases whole : e.wholePoint? with
    | some p =>
      obtain ⟨c, ran, _⟩ := r.exists_runPoint p planar least
      rw [run_of_wholePoint interpreted whole, ran]
      exact .inl (.ok _)
    | none =>
      have positive : 0 < d.dimension := by omega
      rcases decided_source (e := e) positive least with ⟨s, source⟩ | ⟨fault, refused⟩
      · have opens : r.Opens e d s := ⟨whole, interpreted, source⟩
        have asked := r.two_le_outputDimension planar
        have width : s.coordinates.width = 1 := by
          rw [opens.width_eq, Reader.width]
          omega
        have ran := opens.run_eq
        rcases Source.narrow_build width (by rw [opens.cap_eq]; omega) d with
          decided | ⟨coded, failure, failed, lacks⟩
        · rw [ran]
          exact .inl decided
        · refine .inr ⟨d, s, opens, by rw [ran]; exact coded, failure, ?_, lacks⟩
          rw [ran, Run.result_after, failed]
          rfl
      · rw [run_of_elements interpreted whole, runElements_eq, refused]
        exact .inl (.inr ⟨fault, rfl⟩)

/-- A reading gives x and y, whatever there is to be read and wherever the machine serves it,
exactly if coordinates can hold both; then only a limit of the machine can make it end otherwise.
All coordinates that are given have the ordinates that are asked for, as far as they can be held, so
under a cap of one they have x only; then a reading gives a geometry, or rejects the encoding, or
fails in looking for y in the ring at which it stands, or is stopped by a limit. -/
theorem gives_xy_iff (least : 1 ≤ r.cap) :
    ((∀ (m : Machine) (e : Encoding α), m.Serves r e → GivesXY m r e) ↔ 2 ≤ r.cap) ∧
      (2 ≤ r.cap → ∀ (m : Machine) (e : Encoding α),
        GivesXY m r e ∨ m.Stops (r.readOn m .tree (some e)).result) ∧
      (∀ (m : Machine) (e : Encoding α) placed,
        (r.readOn m .tree (some e)).result = .ok (some placed) →
        ∃ d, TypeCode.interpret e.typeCode = .ok d ∧ ∀ leaf ∈ placed.geometry.leaves,
          ∀ row ∈ leaf.coordinates.rows,
            row.length = r.width d.dimension ∧ (2 ≤ row.length ↔ 2 ≤ r.cap)) ∧
      (r.cap < 2 → ∀ (m : Machine) (e : Encoding α),
        Decided (r.readOn m .tree (some e)).result ∨
          (∃ d s, r.Opens e d s ∧ (s.directory.entryAt (r.run e).cursor).code ∈ ElementCode.rings ∧
            ∃ failure, (r.readOn m .tree (some e)).result = .error failure ∧ LacksY failure) ∨
          m.Stops (r.readOn m .tree (some e)).result) := by
  refine ⟨⟨fun gives => ?_, fun capped m e serves => ?_⟩, fun capped m e => ?_,
    fun m e placed ok => length_row_of_read least (read_of_readOn ok), fun narrow m e => ?_⟩
  · by_contra narrow
    exact not_givesXY_of_narrow (by omega) ⟨0, 0, none⟩ (gives .ideal _ (.ideal r _))
  · exact givesXY_of_decided capped (serves.decided_readOn capped)
  · exact (decided_or_stops_readOn m r e capped).imp_left (givesXY_of_decided capped)
  · rcases r.stops_or_readOn_eq m .tree e with stops | same
    · exact .inr (.inr stops)
    · rw [same]
      exact (narrow_read (by omega) e).imp_right .inl

def narrowest : Reader := { usual with cap := 1 }

def twoCorners : Encoding Exact where
  typeCode := 2003
  srid := none
  point := none
  elements := [⟨1, 1003, 3⟩]
  ordinates := [1, 2, 5, 6].map fun x => ⟨some x⟩

/-- With a cap of one the y of a ring is missing. -/
theorem gives_xy_iff_narrowest :
    1 ≤ usual.cap ∧ (∀ (m : Machine) (e : Encoding Exact), m.Serves usual e → GivesXY m usual e) ∧
      1 ≤ narrowest.cap ∧
      ¬ (∀ (m : Machine) (e : Encoding Exact), m.Serves narrowest e → GivesXY m narrowest e) ∧
      ∃ d s failure, narrowest.Opens twoCorners d s ∧
        (s.directory.entryAt (narrowest.run twoCorners).cursor).code ∈ ElementCode.rings ∧
        (narrowest.readOn .ideal .tree (some twoCorners)).result = .error failure ∧
        LacksY failure := by
  have least : 1 ≤ usual.cap := by decide
  have least' : 1 ≤ narrowest.cap := by decide
  obtain ⟨wide, _⟩ := gives_xy_iff (α := Exact) least
  obtain ⟨narrow, _, _, lacks⟩ := gives_xy_iff (α := Exact) least'
  refine ⟨least, wide.mpr (by decide), least', fun gives => ?_, ?_⟩
  · exact absurd (narrow.mp gives) (by decide)
  · have failed : failure? (narrowest.readOn .ideal .tree (some twoCorners)).result =
        some .noSuchPosition := by
      decide +kernel
    rcases lacks (by decide) .ideal twoCorners with
      decided | ⟨d, s, opens, coded, failure, failed', found⟩ | stops
    · rw [failure?_eq_some.mp failed] at decided
      rcases decided with ⟨_, same⟩ | ⟨_, same⟩
      · cases same
      · cases same
    · exact ⟨d, s, failure, opens, coded, failed', found⟩
    · exact absurd stops Machine.not_stops_ideal

/-- The point that is given has no y, and the rectangle is not rejected but looked past. -/
theorem not_givesXY_narrowest :
    ¬ GivesXY .ideal narrowest
        ((⟨⟨some 1⟩, ⟨some 2⟩, none⟩ : CompactPoint Exact).alone 2001 none) ∧
      ¬ GivesXY .ideal narrowest twoCorners ∧
      (narrowest.readOn .ideal .tree (some twoCorners)).result = .error .noSuchPosition := by
  have failed : (narrowest.readOn .ideal .tree (some twoCorners)).result = .error .noSuchPosition :=
    failure?_eq_some.mp (by decide +kernel)
  refine ⟨not_givesXY_of_narrow rfl _, ?_, failed⟩
  rintro (⟨_, rejected⟩ | ⟨_, ok, _⟩)
  · rw [failed] at rejected
    cases rejected
  · rw [failed] at ok
    cases ok

end Reader

end TripletGeometry
