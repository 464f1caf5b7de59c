import TripletGeometry.Ordinate.Exact
import TripletGeometry.Proofs.Capacity

/-!
Rings of a reading. Every ring that is put together was read from an element whose coordinates are
those of a ring or of a rectangle, so it is a closed ring unless the first corner of the rectangle
is not made of numbers. An element that should be a ring and is none is not passed: where a scan
comes to it the reading ends, and the element is malformed.
-/
namespace TripletGeometry

namespace Directory

variable {β γ : Type} {d : Directory} {i : Nat} {result : Except Failure β}

theorem Malforms.map (h : d.Malforms i result) (f : β → γ) : d.Malforms i (result.map f) := by
  obtain ⟨cause, refused⟩ := h
  rw [refused]
  exact ⟨cause, rfl⟩

/-- A failure blames the same entry whatever there was to be read. -/
theorem Malforms.error {failure : Failure}
    (h : d.Malforms i (.error failure : Except Failure β)) :
    d.Malforms i (.error failure : Except Failure γ) := by
  obtain ⟨cause, refused⟩ := h
  cases refused
  exact ⟨cause, rfl⟩

end Directory

namespace Source

variable {α β γ : Type}

/-- The run has not come past the element. If it stands there then the element is malformed, or the
run was allowed to end before it. -/
structure StopsAt (s : Source α) (k : Nat) (leaves : Prop) (run : Run α β) : Prop where
  cursor_le : run.cursor ≤ k
  blames : run.cursor = k →
    s.directory.Malforms k run.result ∨ ((∃ value, run.result = .ok value) ∧ leaves)

namespace StopsAt

variable {s : Source α} {k : Nat} {leaves further : Prop} {run : Run α β}

theorem of_lt (before : run.cursor < k) : s.StopsAt k leaves run where
  cursor_le := Nat.le_of_lt before
  blames here := absurd here (Nat.ne_of_lt before)

theorem of_malforms (here : run.cursor = k) (h : s.directory.Malforms k run.result) :
    s.StopsAt k leaves run where
  cursor_le := Nat.le_of_eq here
  blames _ := .inl h

theorem after (h : s.StopsAt k leaves run) (events : List (Event α)) :
    s.StopsAt k leaves (run.after events) := ⟨h.cursor_le, h.blames⟩

theorem map (h : s.StopsAt k leaves run) (f : β → γ) : s.StopsAt k leaves (run.map f) where
  cursor_le := h.cursor_le
  blames here := by
    rcases h.blames here with malformed | ⟨⟨value, ended⟩, allowed⟩
    · exact .inl (malformed.map f)
    · exact .inr ⟨⟨f value, Run.result_map_eq_ok.mpr ⟨value, ended, rfl⟩⟩, allowed⟩

/-- What comes after the last element that a run reads does not move it. -/
theorem andThen_still (h : s.StopsAt k leaves run) {next : Nat → β → Run α γ}
    (still : ∀ value, (next run.cursor value).cursor = run.cursor ∧
      ∃ last, (next run.cursor value).result = .ok last) :
    s.StopsAt k leaves (run.andThen next) := by
  cases ended : run.result with
  | error failure =>
    rw [Run.andThen_of_error next ended]
    refine ⟨h.cursor_le, fun here => .inl ?_⟩
    rcases h.blames here with malformed | ⟨⟨value, same⟩, _⟩
    · rw [ended] at malformed
      exact malformed.error
    · rw [ended] at same
      cases same
  | ok value =>
    obtain ⟨stays, last, ends⟩ := still value
    rw [Run.andThen_of_ok next ended]
    refine ⟨by rw [Run.cursor_after, stays]; exact h.cursor_le, fun here => .inr ?_⟩
    rw [Run.cursor_after, stays] at here
    rcases h.blames here with malformed | ⟨_, allowed⟩
    · exact absurd ended (malformed.refuses.ne_ok value)
    · exact ⟨⟨last, ends⟩, allowed⟩

/-- A run that failed has failed for the element, if it stands there. -/
theorem of_error (h : s.StopsAt k leaves run) {failure : Failure}
    (ended : run.result = .error failure) {events : List (Event α)} :
    s.StopsAt k further (⟨run.cursor, events, .error failure⟩ : Run α γ) where
  cursor_le := h.cursor_le
  blames here := by
    rcases h.blames here with malformed | ⟨⟨value, same⟩, _⟩
    · rw [ended] at malformed
      exact .inl malformed.error
    · rw [ended] at same
      cases same

/-- Less is allowed if only that much is made use of. -/
theorem weaken (h : s.StopsAt k leaves run)
    (used : ∀ value, run.result = .ok value → run.cursor = k → leaves → further) :
    s.StopsAt k further run where
  cursor_le := h.cursor_le
  blames here := (h.blames here).imp_right fun ended => by
    obtain ⟨⟨value, ok⟩, allowed⟩ := ended
    exact ⟨⟨value, ok⟩, used value ok here allowed⟩

theorem leaves_of_ok (h : s.StopsAt k leaves run) {value : β} (ended : run.result = .ok value)
    (here : run.cursor = k) : leaves := by
  rcases h.blames here with malformed | ⟨_, allowed⟩
  · exact absurd ended (malformed.refuses.ne_ok value)
  · exact allowed

end StopsAt

/-- The element has to be read as a ring by the scan that comes to it: it can start a polygon, or
it is a hole that follows a ring. -/
structure DueRing (s : Source α) (k : Nat) : Prop where
  inside : k < s.directory.count
  coded : (s.directory.entryAt k).code ∈ ElementCode.shells ∨
    ((s.directory.entryAt k).code = ElementCode.hole ∧
      ∃ j, k = j + 1 ∧ (s.directory.entryAt j).code ∈ ElementCode.rings)
  interpreted : (s.directory.entryAt k).interpretation ∈ Interpretation.rings

theorem DueRing.code_mem_rings {s : Source α} {k : Nat} (due : s.DueRing k) :
    (s.directory.entryAt k).code ∈ ElementCode.rings := by
  rcases due.coded with starts | ⟨hole, _⟩
  · exact ElementCode.mem_rings_of_mem_shells starts
  · rw [hole]
    decide

variable [Ordinate α] {s : Source α} {i k : Nat}

/-- The scan of holes looks at any ring that does not say that it starts a polygon. -/
theorem holeAt_of_malforms (malformed : s.directory.Malforms k (s.ringAt k)) :
    (s.holeAt k = .ok none ∧ (s.directory.entryAt k).code ∉ [ElementCode.ring, ElementCode.hole]) ∨
      s.directory.Malforms k (s.holeAt k) := by
  obtain ⟨cause, refused⟩ := malformed
  by_cases hole : (s.directory.entryAt k).code = ElementCode.hole
  · refine .inr ⟨cause, ?_⟩
    simp only [holeAt, if_pos hole, refused]
    rfl
  by_cases ring : (s.directory.entryAt k).code = ElementCode.ring
  · refine .inr ⟨cause, ?_⟩
    simp only [holeAt, if_neg hole, if_pos ring, refused]
    rfl
  · refine .inl ⟨?_, by simp [hole, ring]⟩
    simp only [holeAt, hole, ring, if_false]

/-- The scan is not past the element, which can start a part if the scan stands there. -/
def Reaches (s : Source α) (k i : Nat) : Prop :=
  i ≤ k ∧ (i = k → (s.directory.entryAt k).code ∈ ElementCode.shells)

omit [Ordinate α] in
theorem Reaches.lt (h : s.Reaches k i) (other : (s.directory.entryAt i).code ∉ ElementCode.shells) :
    i < k :=
  Nat.lt_of_le_of_ne h.1 fun same => other (same ▸ h.2 same)

omit [Ordinate α] in
/-- A scan that reaches the element does not get past it. -/
theorem preserves_stopsAt (s : Source α) (k : Nat) :
    Preserves (α := α) (s.Reaches k) fun _ run =>
      s.StopsAt k ((s.directory.entryAt k).code ∈ ElementCode.shells) run where
  done value here := ⟨here.1, fun same => .inr ⟨⟨value, rfl⟩, here.2 same⟩⟩
  map f h := h.map f
  stop h failed := h.of_error failed
  chain _ _ later := later.after _

omit [Ordinate α] in
/-- A member alone is no ring, so that a hole is not due behind it. -/
theorem not_mem_rings_of_loneMemberAt {shape : Shape α} (read : s.loneMemberAt i = .ok shape) :
    (s.directory.entryAt i).code ∉ ElementCode.rings := by
  rcases loneMemberAt_ok read with point | cluster | ⟨line, lined, _⟩
  · obtain ⟨⟨_, coded, _⟩, _⟩ := (s.judges_pointAt i).eq_ok_iff.mp point
    rw [List.mem_singleton.mp coded]
    decide
  · obtain ⟨⟨_, coded, _⟩, _⟩ := (s.judges_multiPointAt i).eq_ok_iff.mp cluster
    rw [List.mem_singleton.mp coded]
    decide
  · obtain ⟨⟨_, coded, _⟩, _⟩ := (s.judges_lineAt i).eq_ok_iff.mp lined
    rw [List.mem_singleton.mp coded]
    decide

section Scans

variable (malformed : s.directory.Malforms k (s.ringAt k)) (due : s.DueRing k)
include malformed

/-- The ring at the element is not read, so one that is read is another. -/
theorem ne_of_ringAt {ring : Coordinates α} (read : s.ringAt i = .ok ring) : i ≠ k := by
  intro same
  subst same
  exact malformed.refuses.ne_ok ring read

include due

/-- Holes end at the element only if it is a shell. -/
theorem shell_of_holeAt (ended : s.holeAt k = .ok none) :
    (s.directory.entryAt k).code = ElementCode.shell := by
  rcases holeAt_of_malforms malformed with ⟨_, other⟩ | refused
  · have coded := due.code_mem_rings
    simp only [List.mem_cons, List.not_mem_nil, or_false, not_or] at coded other
    tauto
  · exact absurd ended (refused.refuses.ne_ok none)

/-- Holes that end at the element leave it because it is a shell. Members go on at a shell, so they
do not leave it; a scan of either kind that reads the element as a ring is refused there. -/
theorem preservesMembers_stopsAt : s.PreservesMembers (s.Reaches k) (· ≤ k)
    (fun _ run => s.StopsAt k ((s.directory.entryAt k).code = ElementCode.shell) run)
    fun _ run => s.StopsAt k ((s.directory.entryAt k).code ∈ ElementCode.shells) run where
  toPreserves := preserves_stopsAt s k
  hole_fail {i failure} le failed := by
    rcases Nat.lt_or_eq_of_le le with before | rfl
    · exact .of_lt before
    · rcases holeAt_of_malforms malformed with ⟨ended, _⟩ | refused
      · rw [ended] at failed
        cases failed
      · rw [failed] at refused
        exact .of_malforms rfl refused.error
  hole_none {i} le ended := by
    have shell (here : i = k) := shell_of_holeAt malformed due (here ▸ ended)
    exact ⟨⟨le, fun here => by rw [shell here]; decide⟩, le,
      fun here => .inr ⟨⟨[], rfl⟩, shell here⟩⟩
  hole_read {i ring} le read := by
    have before := ne_of_ringAt malformed (ringAt_of_holeAt read)
    exact ⟨by omega, fun rest => (rest.map _).after _⟩
  shell_fail {i failure} here _ failed := by
    rcases Nat.lt_or_eq_of_le here.1 with before | rfl
    · exact .of_lt before
    · have checked := (s.judges_checkRing i ElementCode.shells).passes
        ⟨due.inside, here.2 rfl, due.interpreted⟩
      rw [shellAt, checked] at failed
      have refused := malformed
      change s.ringAt i = .error failure at failed
      rw [failed] at refused
      exact .of_malforms rfl refused.error
  polygon_read {i outer} here _ read := by
    have before := ne_of_ringAt malformed (ringAt_of_shellAt read)
    have le := here.1
    refine ⟨by omega, fun _ holes => ?_⟩
    refine (((holes.map _).after _).andThen_still fun polygon => ⟨rfl, polygon, rfl⟩).weaken
      fun _ _ _ shell => ?_
    rw [shell]
    decide
  lone_fail here _ alone _ := .of_lt (here.lt alone)
  lone_read {i shape} here _ alone read := by
    have before := here.lt alone
    have starts (next : i + 1 = k) : (s.directory.entryAt k).code ∈ ElementCode.shells := by
      rcases due.coded with starts | ⟨_, j, follows, ring⟩
      · exact starts
      · obtain rfl : j = i := by omega
        exact absurd ring (not_mem_rings_of_loneMemberAt read)
    exact ⟨⟨before, starts⟩, before, fun next => .inr ⟨⟨shape, rfl⟩, starts next⟩⟩

/-- A ring that says nothing of its part would have been read with the polygon. -/
theorem stopsAt_polygonAt (here : s.Reaches k i) :
    s.StopsAt k ((s.directory.entryAt k).code = ElementCode.shell) (s.polygonAt i) := by
  have members := preservesMembers_stopsAt malformed due
  by_cases isShell : (s.directory.entryAt i).code ∈ ElementCode.shells
  · refine (members.to_polygonAt here isShell).weaken fun polygon ok last _ => ?_
    obtain ⟨outer, holes, stop, _⟩ := polygonAt_ok ok
    have scanned := members.to_holesFrom (members.polygon_read here isShell outer).1
    exact scanned.leaves_of_ok holes (stop ▸ last)
  · refine .of_lt ?_
    rw [polygonAt_eq]
    cases shell : s.shellAt i with
    | error failure => exact here.lt isShell
    | ok outer => exact absurd (code_mem_shells_of_shellAt shell) isShell

theorem stopsAt_polygonsFrom (here : s.Reaches k i) : s.StopsAt k False (s.polygonsFrom i) :=
  ((preservesMembers_stopsAt malformed due).to_polygonsFrom here).weaken
    fun _ ok last starts => (scan_polygonsFrom ok).stops_at_end (last ▸ starts)

/-- Members do not end before the sentinel, so the scan cannot leave the ring. -/
theorem stopsAt_membersFrom (here : s.Reaches k i) : s.StopsAt k False (s.membersFrom i) := by
  refine ((preservesMembers_stopsAt malformed due).to_membersFrom here).weaken
    fun _ ok last _ => ?_
  have coded := due.code_mem_rings
  rw [← last, (scan_membersFrom ok).stops_at_end] at coded
  exact absurd coded (by decide)

end Scans

end Source

def Topology.ringed : List Topology := [polygon, multiPolygon, collection]

namespace Source

variable {α : Type} [Ordinate α] {s : Source α} {k : Nat} {d : TypeCode.Descriptor}

/-- A building ends at a malformed ring that is due, or before it; only a single polygon ends well
there, at the shell of another one. -/
theorem stopsAt_build (malformed : s.directory.Malforms k (s.ringAt k)) (due : s.DueRing k)
    (ringed : d.topology ∈ Topology.ringed) :
    s.StopsAt k (d.topology = .polygon ∧ (s.directory.entryAt k).code = ElementCode.shell)
      (s.build d 0) := by
  have nonempty : 0 < s.directory.count := Nat.zero_lt_of_lt due.inside
  have first : s.Reaches k 0 := by
    refine ⟨Nat.zero_le k, fun same => ?_⟩
    rcases due.coded with starts | ⟨_, j, follows, _⟩
    · exact starts
    · omega
  unfold build
  cases topology : d.topology with
  | polygon =>
    have stops := stopsAt_polygonAt malformed due first
    exact ((stops.map _).andThen_still fun shape => ⟨rfl, .shape shape, rfl⟩).weaken
      fun _ _ _ shell => ⟨rfl, shell⟩
  | multiPolygon =>
    have stops := stopsAt_polygonsFrom malformed due first
    simp only [several_of_nonempty nonempty]
    exact ((stops.map _).andThen_still fun g => ⟨rfl, g, rfl⟩).weaken fun _ _ _ never => never.elim
  | collection =>
    have stops := stopsAt_membersFrom malformed due first
    simp only [several_of_nonempty nonempty]
    exact ((stops.map _).andThen_still fun g => ⟨rfl, g, rfl⟩).weaken fun _ _ _ never => never.elim
  | unknown | point | line | multiPoint | multiLine | solid | multiSolid =>
    rw [topology] at ringed
    exact absurd ringed (by decide)

end Source

variable {α : Type}

def Node.ring? : Node α → Option (Coordinates α)
  | .ring c => some c
  | .geometry _ => none

theorem exists_ring_of_any {nodes : List (Node α)} {p : Coordinates α → Bool}
    (h : (nodes.filterMap Node.ring?).any p = true) :
    ∃ ring, .ring ring ∈ nodes ∧ p ring = true := by
  obtain ⟨ring, among, holds⟩ := List.any_eq_true.mp h
  obtain ⟨node, member, same⟩ := List.mem_filterMap.mp among
  cases node with
  | geometry g => cases same
  | ring other =>
    cases same
    exact ⟨_, member, holds⟩

namespace Reader

variable [Ordinate α] {r : Reader} {e : Encoding α}

/-- The failure of a run is that of the reading. -/
theorem malforms_read {d : Directory} {k : Nat} (h : d.Malforms k (r.run e).result) :
    d.Malforms k (r.read .tree (some e)).result := by
  rw [result_read_tree]
  exact h.map _

/-- A reading on a machine puts nothing together that the reading without limits does not. -/
theorem built_of_readOn {m : Machine} {form : Form} {node : Node α}
    (built : node ∈ (m.ofRun (form.render (runIn m.memory r e))).built) :
    node ∈ (r.run e).built := by
  have rendered := Run.mem_built.mp (m.built_ofRun built)
  have ran := form.mem_events_of_render rendered
  rcases r.runIn_cases m e with ⟨note, failure, stopped, _⟩ | same
  · rw [stopped] at ran
    cases List.mem_singleton.mp ran
  · rw [same] at ran
    exact Run.mem_built.mpr ran

/-- Every ring that a reading puts together, in whatever form, was read from an element that is a
valid ring, and has at least four coordinates; it is closed unless it is a rectangle whose first
corner is not made of numbers. Of an invalid ring none is made: where it is due the reading has
ended before it, or rejects it as malformed, or is of a single polygon and leaves the shell of
another one unread, or a limit of the machine stops the reading, if the machine does not serve it.
-/
theorem rings_of_reading (m : Machine) (capped : 2 ≤ r.cap) :
    (∀ (form : Form) ring, .ring ring ∈ (m.ofRun (form.render (runIn m.memory r e))).built →
        ∃ d s i, r.Opens e d s ∧ s.ringAt i = .ok ring ∧ s.ValidRing i ∧ 4 ≤ ring.size ∧
          (ring.Closes ↔ ¬ s.LacksCorner i)) ∧
      ∀ d s k, r.Opens e d s → d.topology ∈ Topology.ringed → s.DueRing k → ¬ s.ValidRing k →
        (∀ ring, s.ringAt k ≠ .ok ring) ∧ (r.run e).cursor ≤ k ∧
          ((r.run e).cursor = k →
            s.directory.Malforms k (r.readOn m .tree (some e)).result ∨
              (d.topology = .polygon ∧ (s.directory.entryAt k).code = ElementCode.shell) ∨
              (¬ m.Serves r e ∧ m.Stops (r.readOn m .tree (some e)).result)) := by
  constructor
  · intro form ring built
    obtain ⟨d, s, opens, i, read⟩ := opens_of_ring_built (built_of_readOn built)
    have planar := opens.two_le_width capped
    exact ⟨d, s, i, opens, read, Source.validRing_of_ringAt planar read,
      Source.four_le_size_of_ringAt read,
      Source.closes_iff_of_ringAt planar (opens.cap_eq ▸ capped) read⟩
  · intro d s k opens ringed due invalid
    have malformed := Source.malforms_ringAt (opens.two_le_width capped) due.inside
      due.code_mem_rings due.interpreted invalid
    have stops := Source.stopsAt_build malformed due ringed
    have ran := opens.run_eq
    refine ⟨malformed.refuses.ne_ok, by rw [ran]; exact stops.cursor_le, fun here => ?_⟩
    rw [ran] at here
    rcases stops.blames here with blamed | ⟨_, left⟩
    · have unlimited : s.directory.Malforms k (r.read .tree (some e)).result :=
        malforms_read (by rw [ran]; exact blamed)
      by_cases serves : m.Serves r e
      · rw [serves.result_readOn (by omega)]
        exact .inl unlimited
      · rcases r.stops_or_readOn_eq m .tree e with stopped | same
        · exact .inr (.inr ⟨serves, stopped⟩)
        · rw [same]
          exact .inl unlimited
    · exact .inr (.inl left)

def openHole : Encoding Exact where
  typeCode := 2003
  srid := none
  point := none
  elements := [⟨1, 1003, 1⟩, ⟨9, 2003, 1⟩]
  ordinates := [0, 0, 9, 0, 9, 9, 0, 0, 2, 1, 3, 1, 3, 2, 2, 2].map fun x => ⟨some x⟩

/-- A polygon whose hole does not close. -/
theorem rings_of_reading_openHole :
    2 ≤ usual.cap ∧ Machine.tight.Serves usual openHole ∧ ∃ ring,
      .ring ring ∈ (Machine.tight.ofRun (Form.tree.render
        (runIn Machine.tight.memory usual openHole))).built ∧
      (∃ d s i, usual.Opens openHole d s ∧ s.ringAt i = .ok ring ∧ s.ValidRing i ∧
        4 ≤ ring.size ∧ (ring.Closes ↔ ¬ s.LacksCorner i)) ∧
      ∃ d s, usual.Opens openHole d s ∧ d.topology ∈ Topology.ringed ∧ s.DueRing 1 ∧
        ¬ s.ValidRing 1 ∧ (usual.run openHole).cursor = 1 ∧
        s.directory.Malforms 1 (usual.readOn .tight .tree (some openHole)).result := by
  have capped : 2 ≤ usual.cap := by decide
  have serves : Machine.tight.Serves usual openHole :=
    ⟨by decide, by decide, by decide, by decide, by decide⟩
  obtain ⟨rings, rejects⟩ := rings_of_reading (e := openHole) .tight capped
  obtain ⟨ring, built, _⟩ := exists_ring_of_any (p := fun _ => true)
    (show ((Machine.tight.ofRun (Form.tree.render
      (runIn Machine.tight.memory usual openHole))).built.filterMap Node.ring?).any _ = true by
      decide +kernel)
  obtain ⟨s, source, facts⟩ := exists_of_any (x := usual.source openHole 2 2)
    (p := fun s => s.directory.count = 2 ∧ s.directory.entryAt 0 = ⟨1, 1003, 1⟩ ∧
      s.directory.entryAt 1 = ⟨9, 2003, 1⟩ ∧
      (s.directory.checkClosed (1 : Nat) (s.elementCoordinates 1) "").isOk = false)
    (by decide +kernel)
  obtain ⟨two, shell, hole, opens⟩ := of_decide_eq_true facts
  have reads : usual.Opens openHole ⟨2003, 2, 0, .polygon⟩ s := ⟨rfl, by decide, source⟩
  have due : s.DueRing 1 := by
    refine ⟨by omega, .inr ⟨by rw [hole], 0, rfl, ?_⟩, ?_⟩
    · rw [shell]
      decide
    · rw [hole]
      decide
  have invalid : ¬ s.ValidRing 1 := by
    intro valid
    rcases valid with ⟨_, ring⟩ | ⟨rectangular, _⟩
    · rw [Directory.checkClosed_of_closes "" ring.closes] at opens
      cases opens
    · rw [hole] at rectangular
      exact absurd rectangular (by decide)
  have here : (usual.run openHole).cursor = 1 := by decide +kernel
  obtain ⟨_, _, rejected⟩ := rejects _ s 1 reads (by decide) due invalid
  refine ⟨capped, serves, ring, built, rings .tree ring built, _, s, reads, by decide, due, invalid,
    here, ?_⟩
  rcases rejected here with malformed | ⟨_, other⟩ | ⟨unserved, _⟩
  · exact malformed
  · rw [hole] at other
    exact absurd other (by decide)
  · exact absurd serves unserved

/-- A rectangle of which x of the first corner is not a number. -/
def cornerless : Encoding Exact where
  typeCode := 2003
  srid := none
  point := none
  elements := [⟨1, 1003, 3⟩]
  ordinates := [⟨none⟩, ⟨some 1⟩, ⟨some 5⟩, ⟨some 5⟩]

/-- The ring of the rectangle is put together and given, though it is not closed. -/
theorem not_closes_of_built_cornerless :
    (∃ ring,
      .ring ring ∈ (Machine.tight.ofRun (runIn Machine.tight.memory usual cornerless)).built ∧
        ¬ ring.Closes) ∧
      ∃ placed, (usual.readOn .tight .tree (some cornerless)).result = .ok (some placed) := by
  obtain ⟨ring, built, cornered⟩ := exists_ring_of_any
    (p := fun ring => ring.xy.head? = some [⟨none⟩, ⟨some 1⟩])
    (show ((Machine.tight.ofRun
      (runIn Machine.tight.memory usual cornerless)).built.filterMap Node.ring?).any _ = true by
      decide +kernel)
  obtain ⟨placed, ok, _⟩ := exists_readOn (p := fun _ => true)
    (show (readEncodingOn .tight usual .tree cornerless).result.toOption.any _ = true by
      decide +kernel)
  refine ⟨⟨ring, built, ?_⟩, placed, ok⟩
  intro closes
  obtain ⟨x, _, _, _, first, _, agree, _⟩ := closes
  rw [of_decide_eq_true cornered] at first
  cases first
  cases agree

end Reader

end TripletGeometry
