import TripletGeometry.Ordinate.Exact
import TripletGeometry.Proofs.Machines
import TripletGeometry.Proofs.Sources

/-!
Compact points. A compact point can be spelled out as an element with ordinates of its own; what a
coordinate of four ordinates has in the last place is missing. The two encodings come to their
coordinates in different ways, through groups of different sizes and other checks, and every reader
reads the same from both.
-/
namespace TripletGeometry

variable {α : Type} [Ordinate α]

namespace CompactPoint

def coordinate (p : CompactPoint α) (native : Int) : List α :=
  (p.ordinates ++ [Ordinate.missing]).take native.toNat

omit [Ordinate α] in
def alone (p : CompactPoint α) (typeCode : Int) (srid : Option Int) : Encoding α where
  typeCode := typeCode
  srid := srid
  point := some p
  elements := []
  ordinates := []

def spelled (p : CompactPoint α) (typeCode : Int) (srid : Option Int) : Encoding α where
  typeCode := typeCode
  srid := srid
  point := none
  elements := [⟨1, ElementCode.point, Interpretation.simple⟩]
  ordinates := p.coordinate (TypeCode.dimension typeCode)

theorem length_coordinate (p : CompactPoint α) {native : Int} (most : native ≤ 4) :
    (p.coordinate native).length = native.toNat := by
  simp only [coordinate, ordinates, List.length_take, List.length_append, List.length_cons,
    List.length_nil]
  omega

end CompactPoint

/-- To fill up a row is to add missing ordinates, so one that is there already makes no difference.
-/
theorem fitRow_append_missing (w : Nat) (row : List α) :
    fitRow w (row ++ [Ordinate.missing]) = fitRow w row := by
  have longer : [Ordinate.missing] ++ List.replicate w (Ordinate.missing : α) =
      List.replicate (w + 1) Ordinate.missing := List.replicate_succ.symm
  rw [fitRow, fitRow, List.append_assoc, longer, List.take_append, List.take_append,
    List.take_replicate, List.take_replicate]
  congr 2
  omega

namespace Assembly

/-- One group is all there is. -/
theorem assemble_group {memory : Option Nat} {cap output : Int} {size : Nat} {ordinates : List α}
    (checkLength : Bool) (positive : 0 < size)
    (whole : checkLength = true → size ∣ ordinates.length) (one : ordinates.length / size = 1) :
    assemble memory cap ordinates size output checkLength =
      (Coordinates.makeCapped (α := α) memory cap 1 output).map fun blank =>
        .ofRows blank.width [ordinates.take size] := by
  have reach : size ≤ ordinates.length := by
    have least := Nat.mul_div_le ordinates.length size
    rwa [one, Nat.mul_one] at least
  rw [assemble_eq memory cap output positive whole (.inr reach), one]
  rfl

/-- The ordinates of the point, of which there are at most three, are assembled to the same row as a
coordinate of the native dimension. -/
theorem assemble_compact (memory : Option Nat) (cap output : Int) (p : CompactPoint α)
    {native : Int} (least : 2 ≤ native) (most : native ≤ 4) :
    assemble memory cap p.ordinates (min native 3) output false =
      assemble memory cap (p.coordinate native) native output true := by
  obtain ⟨size, rfl⟩ := Int.eq_ofNat_of_zero_le (by omega : 0 ≤ native)
  have length : (p.coordinate size).length = size := p.length_coordinate most
  have three : p.ordinates.length = 3 := rfl
  have compact : p.ordinates.length / min size 3 = 1 := by
    rw [three]
    obtain rfl | rfl | rfl : size = 2 ∨ size = 3 ∨ size = 4 := by omega
    all_goals rfl
  have rows : ∀ w, fitRow w (p.ordinates.take (min size 3)) =
      fitRow w ((p.coordinate size).take size) := by
    intro w
    obtain rfl | rfl | rfl : size = 2 ∨ size = 3 ∨ size = 4 := by omega
    · rfl
    · rfl
    · exact (fitRow_append_missing w _).symm
  have counted : ((min size 3 : Nat) : Int) = min ↑size 3 := by omega
  rw [← counted, assemble_group false (by omega) nofun compact, assemble_group true (by omega)
    (fun _ => ⟨1, by rw [length, Nat.mul_one]⟩) (by rw [length, Nat.div_self (by omega)])]
  have same : ∀ w, Coordinates.ofRows w [p.ordinates.take (min size 3)] =
      Coordinates.ofRows w [(p.coordinate size).take size] := by
    intro w
    refine Coordinates.ext rfl ?_ rfl
    simp only [Coordinates.ofRows, List.map_cons, List.map_nil, rows]
  simp only [same]

end Assembly

/-! Readings. -/

/-- The only element of a source with one coordinate reaches from the first to the last of it. -/
theorem Source.build_of_lone {s : Source α} {d : TypeCode.Descriptor}
    (topology : d.topology = .point)
    (elements : s.directory.elements = [⟨1, ElementCode.point, Interpretation.simple⟩])
    (filled : s.directory.ordinateCount = s.directory.dimension)
    (positive : 0 < s.directory.dimension) (one : s.coordinates.size = 1) :
    s.build d 0 = ⟨1, [.built (.geometry (.shape (.point s.coordinates)))],
      .ok (.shape (.point s.coordinates))⟩ := by
  have count : s.directory.count = 1 := by rw [Directory.count, elements]; rfl
  have entry : s.directory.entryAt 0 = ⟨1, ElementCode.point, Interpretation.simple⟩ := by
    rw [Directory.entryAt, elements]
    rfl
  have first : s.directory.startAt 0 = 0 := by
    rw [Directory.startAt, entry]
    exact Int.zero_fdiv _
  have last : s.directory.startAt 1 = 1 := by
    rw [Directory.startAt, Directory.entryAt_of_count_le (by omega), Directory.sentinel, filled,
      Int.add_sub_cancel, Int.fdiv_self (by omega)]
  have whole : s.elementCoordinates 0 = s.coordinates := by
    rw [elementCoordinates, first, last, Coordinates.slice, if_pos]
    simp [Coordinates.isWhole, one]
  have read : s.pointAt 0 = .ok (.point s.coordinates) := by
    have judged := (s.judges_pointAt 0).passes
    rw [whole, entry, count, one] at judged
    exact judged (by simp)
  simp only [build, topology, single, shapeAt, read, unreadNotes, count]
  rfl

namespace Reader

variable {r : Reader} {p : CompactPoint α} {typeCode : Int} {d : TypeCode.Descriptor}

/-- Once the point is spelled out, the same is put together from it, if its coordinate can be made.
-/
theorem runElementsIn_spelled (memory : Option Nat) (srid : Option Int) (output : Int)
    (interpreted : TypeCode.interpret typeCode = .ok d) (topology : d.topology = .point) :
    (runElementsIn memory r (p.spelled typeCode srid) d output).events =
        (runPointIn memory r p d.dimension output).events ∧
      (runElementsIn memory r (p.spelled typeCode srid) d output).result =
        (runPointIn memory r p d.dimension output).result := by
  obtain ⟨⟨least, most⟩, _⟩ := TypeCode.interpret_ok interpreted
  have ordinates : (p.spelled typeCode srid).ordinates = p.coordinate d.dimension :=
    congrArg p.coordinate (TypeCode.digits_of_interpret interpreted).1
  have length := p.length_coordinate most
  obtain ⟨directory, accepted⟩ : ∃ directory,
      Directory.ofElements (p.spelled typeCode srid).elements
        (p.spelled typeCode srid).ordinates.length d.dimension = .ok directory := by
    rw [ordinates, length]
    refine ⟨_, Directory.ofElements_of_inPlace (by omega) ⟨List.pairwise_singleton .., ?_, ?_⟩⟩
    · intro e member
      rw [List.mem_singleton.mp member]
      refine ⟨Int.le_refl 1, ?_⟩
      change 1 ≤ (d.dimension.toNat : Int)
      omega
    · intro e member
      rw [List.mem_singleton.mp member]
      exact Int.dvd_zero d.dimension
  obtain ⟨elements, count, dimension⟩ := Directory.ofElements_ok accepted
  rw [runElementsIn, runPointIn, sourceIn_of_accepted accepted, ordinates,
    Assembly.assemble_compact memory r.cap _ p least most]
  cases assembled : Assembly.assemble memory r.cap (p.coordinate d.dimension) d.dimension output
      true with
  | error failure => exact ⟨rfl, rfl⟩
  | ok c =>
    have one : c.size = 1 := by
      rw [Assembly.eq_of_assemble (by omega) assembled]
      simp only [Coordinates.size, Coordinates.ofRows, List.length_map, Assembly.length_groups,
        length]
      exact Nat.div_self (by omega)
    have filled : directory.ordinateCount = directory.dimension := by
      rw [count, dimension, ordinates, length]
      omega
    have positive : 0 < directory.dimension := by omega
    have built : Source.build ⟨directory, c, r.cap⟩ d 0 = ⟨1, _, _⟩ :=
      Source.build_of_lone topology elements filled positive one
    simp only [Except.map, built, and_self]

def flatPoint : CompactPoint Exact := ⟨⟨some 3⟩, ⟨some 4⟩, none⟩

end Reader

end TripletGeometry
