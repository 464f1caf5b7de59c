import TripletGeometry.Proofs.Advance
import TripletGeometry.Proofs.Reading

/-!
The source that a reading opens. Its coordinates are the groups of the ordinates, each made to fit
the width that the settings ask for and the cap allows; an accepted reader whose cap allows x and
y never makes them narrower than that.
-/
namespace TripletGeometry

variable {α : Type} [Ordinate α]

namespace Assembly

/-- The coordinates of an assembly, whatever was checked before. -/
theorem eq_of_assemble {memory : Option Nat} {cap native output : Int} {ordinates : List α}
    {checkLength : Bool} {c : Coordinates α} (positive : 0 < native)
    (ok : assemble memory cap ordinates native output checkLength = .ok c) :
    c = .ofRows (min output cap).toNat
      (groups native.toNat (ordinates.length / native.toNat) ordinates) := by
  have nonzero : ¬ native = 0 := by omega
  simp only [assemble, nonzero, if_false] at ok
  split at ok
  · rename_i empty
    obtain ⟨blank, made, rfl⟩ := map_eq_ok.mp ok
    obtain ⟨_, rfl⟩ := Coordinates.make_eq_ok_iff.mp made
    rw [List.isEmpty_iff.mp empty, List.length_nil, Nat.zero_div]
    rfl
  split at ok
  · cases ok
  · obtain ⟨blank, made, ok⟩ := bind_eq_ok.mp ok
    obtain ⟨_, rfl⟩ := Coordinates.make_eq_ok_iff.mp made
    obtain ⟨_, _, ok⟩ := bind_eq_ok.mp ok
    obtain ⟨size, rfl⟩ := Int.eq_ofNat_of_zero_le (Int.le_of_lt positive)
    have counted : ((ordinates.length : Int).fdiv size).toNat = ordinates.length / size := by
      rw [← Int.ofNat_fdiv, Int.toNat_natCast]
    cases ok
    rw [counted]
    rfl

end Assembly

namespace Reader

def width (r : Reader) (native : Int) : Nat :=
  (min (r.settings.outputDimension native) r.cap).toNat

omit [Ordinate α] in
theorem two_le_width {r : Reader} {native : Int} (planar : 2 ≤ native) (capped : 2 ≤ r.cap) :
    2 ≤ r.width native := by
  have asked := r.two_le_outputDimension planar
  simp only [width]
  omega

/-- The reading of the encoding reads the source, as the type code describes it. -/
structure Opens (r : Reader) (e : Encoding α) (d : TypeCode.Descriptor) (s : Source α) : Prop where
  spread : e.wholePoint? = none
  interpreted : TypeCode.interpret e.typeCode = .ok d
  source : r.source e d.dimension (r.settings.outputDimension d.dimension) = .ok s

variable {r : Reader} {e : Encoding α} {d : TypeCode.Descriptor} {s : Source α}

namespace Opens

theorem run_eq (h : r.Opens e d s) :
    r.run e = (s.build d 0).after [.noted (.elements e.typeCode e.elements.length
      e.ordinates.length (r.settings.outputDimension d.dimension))] := by
  rw [run_of_elements h.interpreted h.spread, runElements_eq, h.source]

theorem cap_eq (h : r.Opens e d s) : s.cap = r.cap := by
  obtain ⟨_, _, ok⟩ := bind_eq_ok.mp h.source
  obtain ⟨_, _, ok⟩ := bind_eq_ok.mp ok
  cases ok
  rfl

/-- The coordinates of an open source are the ordinates in groups, fitted to the width. -/
theorem coordinates_eq (h : r.Opens e d s) :
    s.coordinates = .ofRows (r.width d.dimension)
      (Assembly.groups d.dimension.toNat (e.ordinates.length / d.dimension.toNat) e.ordinates) := by
  obtain ⟨planar, _⟩ := TypeCode.interpret_ok h.interpreted
  obtain ⟨coordinates, assembled, ok⟩ := bind_eq_ok.mp h.source
  obtain ⟨_, _, ok⟩ := bind_eq_ok.mp ok
  cases ok
  exact Assembly.eq_of_assemble (by omega) assembled

theorem width_eq (h : r.Opens e d s) : s.coordinates.width = r.width d.dimension := by
  rw [h.coordinates_eq]
  rfl

theorem two_le_width (h : r.Opens e d s) (capped : 2 ≤ r.cap) : 2 ≤ s.coordinates.width := by
  obtain ⟨planar, _⟩ := TypeCode.interpret_ok h.interpreted
  rw [h.width_eq]
  exact Reader.two_le_width planar.1 capped

end Opens

/-- A compact point is one coordinate. -/
theorem size_of_runPoint {p : CompactPoint α} {native output : Int} {c : Coordinates α}
    (planar : 2 ≤ native)
    (ok : Assembly.assemble none r.cap p.ordinates (min native 3) output false = .ok c) :
    c.size = 1 := by
  obtain ⟨size, same⟩ := Int.eq_ofNat_of_zero_le (show 0 ≤ min native 3 by omega)
  rw [Assembly.eq_of_assemble (by omega) ok, same, Coordinates.size, Coordinates.ofRows,
    List.length_map, Assembly.length_groups, Int.toNat_natCast]
  have three : p.ordinates.length = 3 := rfl
  rw [three]
  obtain rfl | rfl : size = 2 ∨ size = 3 := by omega
  · rfl
  · rfl

/-- What a reading puts together is a compact point, or was made from the source. -/
theorem makes_of_built {node : Node α} (built : .built node ∈ (r.run e).events) :
    ∃ d, TypeCode.interpret e.typeCode = .ok d ∧
      ((∃ c, node = .geometry (.shape (.point c)) ∧ c.size = 1 ∧ c.width = r.width d.dimension) ∨
        ∃ s, r.Opens e d s ∧ s.Makes node) := by
  cases interpreted : TypeCode.interpret e.typeCode with
  | error fault =>
    simp only [run_eq, interpreted, Run.fail] at built
    cases built
  | ok d =>
    obtain ⟨planar, _⟩ := TypeCode.interpret_ok interpreted
    refine ⟨d, rfl, ?_⟩
    cases whole : e.wholePoint? with
    | some p =>
      rw [run_of_wholePoint interpreted whole, runPoint_eq] at built
      split at built
      · simp [Run.fail] at built
      · rename_i c assembled
        have same : node = .geometry (.shape (.point c)) := by simpa using built
        refine .inl ⟨c, same, size_of_runPoint planar.1 assembled, ?_⟩
        rw [Assembly.eq_of_assemble (by omega) assembled]
        rfl
    | none =>
      cases source : r.source e d.dimension (r.settings.outputDimension d.dimension) with
      | error failure =>
        rw [run_of_elements interpreted whole, runElements_eq, source] at built
        simp [Run.fail] at built
      | ok s =>
        have opens : r.Opens e d s := ⟨whole, interpreted, source⟩
        rw [opens.run_eq, Run.events_after, List.singleton_append, List.mem_cons] at built
        rcases built with same | later
        · cases same
        · exact .inr ⟨s, opens, Source.makes_of_build d later⟩

/-- Only a reading of a source puts rings together. -/
theorem opens_of_ring_built {ring : Coordinates α} (built : .ring ring ∈ (r.run e).built) :
    ∃ d s, r.Opens e d s ∧ ∃ i, s.ringAt i = .ok ring := by
  obtain ⟨d, _, ⟨_, other, _⟩ | ⟨s, opens, made⟩⟩ := makes_of_built (Run.mem_built.mp built)
  · cases other
  · cases made with
    | ring read => exact ⟨d, s, opens, _, read⟩

end Reader

end TripletGeometry
