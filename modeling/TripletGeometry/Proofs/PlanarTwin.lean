import TripletGeometry.Ordinate.Exact
import TripletGeometry.Proofs.Concurrence
import TripletGeometry.Proofs.Grouping
import TripletGeometry.Proofs.Rendering
import TripletGeometry.Proofs.Truncation

/-!
The planar twin of an encoding: the same elements over coordinates of x and y only. Every offset is
rescaled, and with the offsets the sentinel, so that each element has the same range of coordinates
as before. A reader that is asked for two ordinates reads an encoding as its twin is read.
-/
namespace TripletGeometry

variable {α : Type}

/-! Twins. -/

/-- The element in front of the same coordinate, where every coordinate has x and y only. -/
def Element.planar (native : Int) (e : Element) : Element :=
  { e with offset := 2 * (e.offset - 1).fdiv native + 1 }

def Assembly.planar (size : Nat) (ordinates : List α) : List α :=
  (groups size (ordinates.length / size) ordinates).flatMap (·.take 2)

def Encoding.planar (e : Encoding α) : Encoding α :=
  let native := TypeCode.dimension e.typeCode
  { typeCode := 2000 + TypeCode.topologyCode e.typeCode
    srid := e.srid
    point := e.point
    elements := e.elements.map (Element.planar native)
    ordinates := Assembly.planar native.toNat e.ordinates }

namespace TypeCode

/-- Two ordinates have no place for a measure. -/
theorem interpret_planar {typeCode : Int} {d : Descriptor} (ok : interpret typeCode = .ok d) :
    interpret (2000 + topologyCode typeCode) =
      .ok ⟨2000 + topologyCode typeCode, 2, 0, d.topology⟩ := by
  have two : dimension (2000 + topologyCode typeCode) = 2 := by
    simp only [dimension, topologyCode]
    omega
  have unmeasured : measurePosition (2000 + topologyCode typeCode) = 0 := by
    simp only [measurePosition, topologyCode]
    omega
  have kept : topologyCode (2000 + topologyCode typeCode) = topologyCode typeCode := by
    simp only [topologyCode]
    omega
  simp only [interpret, two, unmeasured, kept, (digits_of_interpret ok).2]
  rfl

end TypeCode

/-! Coordinates. -/

namespace Assembly

variable {size : Nat} {ordinates : List α}

theorem length_take_of_mem_groups (wide : 2 ≤ size) {row : List α}
    (member : row ∈ (groups size (ordinates.length / size) ordinates).map (·.take 2)) :
    row.length = 2 := by
  obtain ⟨whole, source, rfl⟩ := List.mem_map.mp member
  have full := length_of_mem_groups (Nat.mul_div_le ..) source
  rw [List.length_take, full]
  omega

theorem length_planar (wide : 2 ≤ size) (ordinates : List α) :
    (planar size ordinates).length = 2 * (ordinates.length / size) := by
  have even : (groups size (ordinates.length / size) ordinates).map (List.length ∘ (·.take 2)) =
      List.replicate (ordinates.length / size) 2 := by
    refine List.eq_replicate_iff.mpr ⟨by rw [List.length_map, length_groups], ?_⟩
    intro length member
    obtain ⟨row, source, rfl⟩ := List.mem_map.mp member
    exact length_take_of_mem_groups wide (List.mem_map_of_mem source)
  simp only [planar, List.length_flatMap]
  rw [show (fun row : List α => (row.take 2).length) = List.length ∘ (·.take 2) from rfl, even,
    List.sum_replicate_nat, Nat.mul_comm]

/-- The coordinates of the twin are those of the original without z. -/
theorem groups_planar (wide : 2 ≤ size) :
    groups 2 (ordinates.length / size) (planar size ordinates) =
      (groups size (ordinates.length / size) ordinates).map (·.take 2) := by
  have even : ∀ row ∈ (groups size (ordinates.length / size) ordinates).map (·.take 2),
      row.length = 2 := fun row => length_take_of_mem_groups wide
  have back := groups_flatten even
  rwa [List.length_map, length_groups, ← List.flatMap_def] at back

theorem isEmpty_planar (wide : 2 ≤ size) (whole : size ∣ ordinates.length) :
    (planar size ordinates).isEmpty = ordinates.isEmpty := by
  have length := length_planar wide ordinates
  obtain ⟨n, counted⟩ := whole
  rw [counted, Nat.mul_div_cancel_left _ (by omega)] at length
  rw [Bool.eq_iff_iff, List.isEmpty_iff, List.isEmpty_iff, ← List.length_eq_zero_iff, length,
    ← List.length_eq_zero_iff, counted, Nat.mul_eq_zero, Nat.mul_eq_zero]
  omega

/-- Of coordinates with no more than two ordinates it does not matter what stood behind these. -/
theorem assemble_planar [Ordinate α] (memory : Option Nat) (cap : Int) (wide : 2 ≤ size)
    (whole : size ∣ ordinates.length) :
    assemble memory cap (planar size ordinates) (2 : Nat) 2 true =
      assemble memory cap ordinates size 2 true := by
  have length := length_planar wide ordinates
  have reach : ordinates = [] ∨ size ≤ ordinates.length := by
    rcases Nat.eq_zero_or_pos ordinates.length with empty | filled
    · exact .inl (List.eq_nil_of_length_eq_zero empty)
    · exact .inr (Nat.le_of_dvd filled whole)
  have reach' : planar size ordinates = [] ∨ 2 ≤ (planar size ordinates).length := by
    rcases Nat.eq_zero_or_pos (ordinates.length / size) with empty | filled
    · exact .inl (List.eq_nil_of_length_eq_zero (by omega))
    · exact .inr (by omega)
  rw [assemble_eq memory cap 2 (by omega) (fun _ => ⟨_, length⟩) reach',
    assemble_eq memory cap 2 (by omega) (fun _ => whole) reach, length,
    Nat.mul_div_cancel_left _ (by omega), groups_planar wide]
  cases made : (Coordinates.makeCapped memory cap ↑(ordinates.length / size) 2 :
      Except Failure (Coordinates α)) with
  | error failure => rfl
  | ok blank =>
    obtain ⟨_, rfl⟩ := Coordinates.make_eq_ok_iff.mp made
    have narrow : (min 2 cap).toNat ≤ 2 := by omega
    exact congrArg Except.ok (Coordinates.ofRows_map_take narrow _)

end Assembly

/-- The twin is a compact point just if the original is. -/
theorem Encoding.wholePoint?_planar (e : Encoding α) {d : TypeCode.Descriptor}
    (interpreted : TypeCode.interpret e.typeCode = .ok d)
    (whole : d.dimension ∣ (e.ordinates.length : Int)) :
    e.planar.wholePoint? = e.wholePoint? := by
  obtain ⟨⟨wide, _⟩, _⟩ := TypeCode.interpret_ok interpreted
  have native := (TypeCode.digits_of_interpret interpreted).1
  obtain ⟨size, sized⟩ := Int.eq_ofNat_of_zero_le (by omega : 0 ≤ d.dimension)
  rw [sized] at whole wide
  have empty := Assembly.isEmpty_planar (by omega : 2 ≤ size) (Int.natCast_dvd_natCast.mp whole)
  simp only [wholePoint?, planar, List.isEmpty_map, native, sized, Int.toNat_natCast, empty]

/-! Directories. -/

/-- Offsets that start a coordinate still do when they are rescaled, and in the same order. -/
theorem InPlace.planar {elements : List Element} {native : Int} {n : Nat} (positive : 0 < native)
    (h : InPlace elements (native * n) native) :
    InPlace (elements.map (Element.planar native)) (2 * n) 2 where
  ascending := by
    refine List.pairwise_map.mpr (h.ascending.imp ?_)
    intro a b le
    have mono : (a.offset - 1).fdiv native ≤ (b.offset - 1).fdiv native := by
      rw [Int.fdiv_eq_ediv_of_nonneg _ (by omega), Int.fdiv_eq_ediv_of_nonneg _ (by omega)]
      exact Int.ediv_le_ediv positive (by omega)
    simp only [Element.planar]
    omega
  inside := by
    intro e member
    obtain ⟨source, known, rfl⟩ := List.mem_map.mp member
    obtain ⟨low, high⟩ := h.inside source known
    obtain ⟨k, position⟩ := h.aligned source known
    have least : 0 ≤ k := Int.le_of_mul_le_mul_left (by omega : native * 0 ≤ native * k) positive
    have most : k < n := Int.lt_of_mul_lt_mul_left (by omega : native * k < native * n) (by omega)
    simp only [Element.planar, position, Int.mul_fdiv_cancel_left k (by omega : native ≠ 0)]
    omega
  aligned := by
    intro e member
    obtain ⟨source, _, rfl⟩ := List.mem_map.mp member
    exact ⟨(source.offset - 1).fdiv native, by simp [Element.planar]⟩

namespace Directory

def planar (d : Directory) (n : Nat) (positive : 0 < d.dimension)
    (whole : d.ordinateCount = d.dimension * n) : Directory where
  elements := d.elements.map (Element.planar d.dimension)
  ordinateCount := 2 * n
  dimension := 2
  inPlace := InPlace.planar positive (whole ▸ d.inPlace)

section Planar

variable {d : Directory} {n : Nat} {positive : 0 < d.dimension}
  {whole : d.ordinateCount = d.dimension * n}

/-- The sentinel is rescaled like the elements. -/
theorem entryAt_planar (i : Nat) :
    (d.planar n positive whole).entryAt i = (d.entryAt i).planar d.dimension := by
  have past : (d.planar n positive whole).sentinel = d.sentinel.planar d.dimension := by
    simp only [sentinel, Element.planar, planar, whole, Int.add_sub_cancel,
      Int.mul_fdiv_cancel_left (n : Int) (by omega : d.dimension ≠ 0)]
  simp only [entryAt, past, List.getD_eq_getElem?_getD]
  simp only [planar, List.getElem?_map, Option.getD_map]

theorem startAt_planar (i : Nat) : (d.planar n positive whole).startAt i = d.startAt i := by
  simp only [startAt, entryAt_planar]
  simp [Element.planar, planar]

end Planar

end Directory

theorem Source.twins_planar {d : Directory} {n : Nat} {positive : 0 < d.dimension}
    {whole : d.ordinateCount = d.dimension * n} (c : Coordinates α) (cap : Int) :
    Source.Twins ⟨d, c, cap⟩ ⟨d.planar n positive whole, c, cap⟩ := by
  intro i
  refine ⟨⟨?_, ?_, ?_⟩, ?_, rfl⟩
  · simp [Directory.count, Directory.planar]
  · rw [Directory.entryAt_planar]
    rfl
  · rw [Directory.entryAt_planar]
    rfl
  · simp only [elementCoordinates, Directory.startAt_planar]

/-! Readings. -/

variable [Ordinate α]

namespace Reader

variable {r q : Reader} {e e' : Encoding α} {d : TypeCode.Descriptor} {directory : Directory}

/-- Readings agree in every form if the same was put together and the runs agree. -/
theorem agree_read (form : Form) (srid : e'.srid = e.srid)
    (built : (q.run e').built = (r.run e).built)
    (agree : Agree Failure.Akin (r.run e).result (q.run e').result) :
    Agree Failure.Akin (r.read form (some e)).result (q.read form (some e')).result := by
  rw [result_read, result_read, built, srid]
  refine (Agree.bind ?_ fun g => .refl .same _).map some
  cases form with
  | tree => exact agree
  | planar =>
    simp only [Form.complete]
    split
    · exact .error (.same _)
    · exact agree.map _

/-- Both come to the same coordinates, or to none; what is left to compare are the elements. -/
theorem agree_runElements_planar (cap : q.cap = r.cap)
    (interpreted : TypeCode.interpret e.typeCode = .ok d)
    (whole : d.dimension ∣ (e.ordinates.length : Int))
    (accepted : Directory.ofElements e.elements e.ordinates.length d.dimension = .ok directory)
    (typeCode measurePosition : Int) :
    (q.runElements e.planar ⟨typeCode, 2, measurePosition, d.topology⟩ 2).events =
        (r.runElements e d 2).events ∧
      Agree Failure.Akin (r.runElements e d 2).result
        (q.runElements e.planar ⟨typeCode, 2, measurePosition, d.topology⟩ 2).result := by
  obtain ⟨elements, count, dimension⟩ := Directory.ofElements_ok accepted
  obtain ⟨⟨wide, _⟩, _⟩ := TypeCode.interpret_ok interpreted
  have native := (TypeCode.digits_of_interpret interpreted).1
  obtain ⟨size, sized⟩ := Int.eq_ofNat_of_zero_le (by omega : 0 ≤ d.dimension)
  rw [sized] at whole wide
  have least : 2 ≤ size := by omega
  obtain ⟨n, counted⟩ := Int.natCast_dvd_natCast.mp whole
  have positive : 0 < directory.dimension := by omega
  have filled : directory.ordinateCount = directory.dimension * n := by
    rw [count, dimension, sized, counted, Int.natCast_mul]
  have shortened : e.planar.ordinates = Assembly.planar size e.ordinates := by
    simp only [Encoding.planar, native, sized, Int.toNat_natCast]
  have accepted' : Directory.ofElements e.planar.elements e.planar.ordinates.length 2 =
      .ok (directory.planar n positive filled) := by
    have length : (e.planar.ordinates.length : Int) = 2 * n := by
      rw [shortened, Assembly.length_planar least, counted, Nat.mul_div_cancel_left _ (by omega)]
      rfl
    have rescaled : e.planar.elements = directory.elements.map (.planar directory.dimension) := by
      simp only [Encoding.planar, native, elements, dimension]
    rw [length, rescaled]
    exact Directory.ofElements_of_inPlace (by decide) _
  have assembled : Assembly.assemble none q.cap e.planar.ordinates 2 2 true =
      Assembly.assemble none r.cap e.ordinates d.dimension 2 true := by
    rw [cap, sized, shortened]
    exact Assembly.assemble_planar none r.cap least (Int.natCast_dvd_natCast.mp whole)
  rw [runElements_eq, runElements_eq, source_of_accepted accepted, source_of_accepted accepted',
    assembled, cap]
  cases Assembly.assemble none r.cap e.ordinates d.dimension 2 true with
  | error failure => exact ⟨rfl, .refl .same _⟩
  | ok c =>
    have twins :
        Source.Twins ⟨directory, c, r.cap⟩ ⟨directory.planar n positive filled, c, r.cap⟩ :=
      Source.twins_planar c r.cap
    have topology : (⟨typeCode, 2, measurePosition, d.topology⟩ : TypeCode.Descriptor).topology =
        d.topology := rfl
    exact twins.agree_build topology 0

/-- Reading an encoding with two ordinates asked for and reading its planar twin as it is give the
same geometry in the same reference system, or both fail with the same kind of failure, blaming the
same element with the same codes. -/
theorem read_planar_twin {form : Form} (spread : e.wholePoint? = none)
    (interpreted : TypeCode.interpret e.typeCode = .ok d)
    (whole : d.dimension ∣ (e.ordinates.length : Int))
    (accepted : Directory.ofElements e.elements e.ordinates.length d.dimension = .ok directory)
    (asked : r.settings.dimension = some 2) (unasked : q.settings.dimension = none)
    (cap : q.cap = r.cap) :
    Agree Failure.Akin (r.read form (some e)).result (q.read form (some e.planar)).result := by
  obtain ⟨⟨wide, _⟩, _⟩ := TypeCode.interpret_ok interpreted
  have interpreted' := TypeCode.interpret_planar interpreted
  have spread' : e.planar.wholePoint? = none := by
    rw [e.wholePoint?_planar interpreted whole, spread]
  have output : r.settings.outputDimension d.dimension = 2 := by
    simp only [Settings.outputDimension, asked]
    split <;> omega
  have output' : q.settings.outputDimension 2 = 2 := by
    simp only [Settings.outputDimension, unasked]
  have ran := run_of_elements (r := r) interpreted spread
  have ran' := run_of_elements (r := q) interpreted' spread'
  rw [output] at ran
  simp only [output'] at ran'
  have same := agree_runElements_planar cap interpreted whole accepted
    (2000 + TypeCode.topologyCode e.typeCode) 0
  refine agree_read form rfl ?_ ?_
  · rw [ran, ran', Run.built_after, Run.built_after, Run.built_eq, Run.built_eq, same.1]
    rfl
  · rw [ran, ran']
    exact same.2

def flat : Reader where
  settings := ⟨some 2, false⟩
  cap := usualCap
  accepted := by
    intro dimension asked
    cases asked
    decide

def holedTriangles : Encoding Exact where
  typeCode := 3007
  srid := some 4326
  point := none
  elements := [⟨1, 1003, 1⟩, ⟨13, 2003, 3⟩, ⟨19, 1003, 1⟩]
  ordinates := [0, 0, 5, 9, 0, 6, 9, 9, 7, 0, 0, 5, 6, 1, 3, 7, 2, 3,
    20, 0, 1, 30, 0, 1, 30, 9, 2, 20, 0, 1].map fun x => ⟨some x⟩

/-- Two triangles in space, one of them with a hole. -/
theorem read_planar_twin_holedTriangles :
    holedTriangles.wholePoint? = none ∧
      TypeCode.interpret holedTriangles.typeCode = .ok ⟨3007, 3, 0, .multiPolygon⟩ ∧
      (3 : Int) ∣ (holedTriangles.ordinates.length : Int) ∧
      holedTriangles.planar.elements = [⟨1, 1003, 1⟩, ⟨9, 2003, 3⟩, ⟨13, 1003, 1⟩] ∧
      flat.settings.dimension = some 2 ∧ usual.settings.dimension = none ∧ usual.cap = flat.cap ∧
      ∃ directory placed,
        Directory.ofElements holedTriangles.elements holedTriangles.ordinates.length 3 =
          .ok directory ∧
        placed.geometry.leaves.map (·.coordinates.width) = [2, 2, 2] ∧
        (flat.read .tree (some holedTriangles)).result = .ok (some placed) ∧
        (usual.read .tree (some holedTriangles.planar)).result = .ok (some placed) := by
  have interpreted :
      TypeCode.interpret holedTriangles.typeCode = .ok ⟨3007, 3, 0, .multiPolygon⟩ := by
    decide
  obtain ⟨directory, accepted⟩ := exists_of_isOk
    (show (Directory.ofElements holedTriangles.elements
      holedTriangles.ordinates.length 3).isOk = true by decide)
  obtain ⟨placed, ok, two⟩ := exists_read
    (p := fun placed => placed.geometry.leaves.map (·.coordinates.width) = [2, 2, 2])
    (show (flat.readEncoding .tree holedTriangles).result.toOption.any _ = true by decide +kernel)
  have agree : Agree Failure.Akin (flat.read .tree (some holedTriangles)).result
      (usual.read .tree (some holedTriangles.planar)).result :=
    read_planar_twin (by decide) interpreted (by decide) accepted rfl rfl rfl
  exact ⟨by decide, interpreted, by decide, by decide, rfl, rfl, rfl, directory, placed, accepted,
    of_decide_eq_true two, ok, agree.eq_ok ok⟩

end Reader

end TripletGeometry
