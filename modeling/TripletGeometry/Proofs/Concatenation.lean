import TripletGeometry.Encoding
import TripletGeometry.Proofs.Windows
import TripletGeometry.Proofs.ElementReaders
import TripletGeometry.Proofs.Tally

/-!
Encodings one behind the other. Offsets of the second are shifted past the ordinates of the first,
so that both are windows of the whole: the last element of the first ends where the second begins
and no longer at the sentinel. A scan that comes to the end of the first goes on with the second,
unless a polygon at the end of the first takes the beginning of the second for its hole.
-/
namespace TripletGeometry

variable {α : Type}

def Element.shift (count : Int) (e : Element) : Element := { e with offset := e.offset + count }

def Encoding.append (a b : Encoding α) : Encoding α :=
  { a with
    elements := a.elements ++ b.elements.map (Element.shift a.ordinates.length)
    ordinates := a.ordinates ++ b.ordinates }

theorem Encoding.wholePoint?_append {a : Encoding α} (spread : a.wholePoint? = none)
    (b : Encoding α) : (a.append b).wholePoint? = none := by
  simp only [wholePoint?, append, Bool.and_eq_true, List.isEmpty_iff, List.append_eq_nil_iff]
    at spread ⊢
  split
  · rename_i empty
    rwa [if_pos ⟨empty.1.1, empty.2.1⟩] at spread
  · rfl

/-- Offsets in place stay so when they are moved behind ordinates that make up whole coordinates. -/
theorem InPlace.append {xs ys : List Element} {m n dimension : Int} (left : InPlace xs m dimension)
    (right : InPlace ys n dimension) (positive : 0 ≤ m) (positive' : 0 ≤ n)
    (whole : dimension ∣ m) :
    InPlace (xs ++ ys.map (Element.shift m)) (m + n) dimension where
  ascending := by
    refine List.pairwise_append.mpr ⟨left.ascending, List.pairwise_map.mpr ?_, ?_⟩
    · exact right.ascending.imp fun le => Int.add_le_add_right le m
    · intro e member f member'
      obtain ⟨source, known, rfl⟩ := List.mem_map.mp member'
      have here := left.inside e member
      have there := right.inside source known
      simp only [Element.shift]
      omega
  inside := by
    intro e member
    rcases List.mem_append.mp member with early | late
    · have here := left.inside e early
      omega
    · obtain ⟨source, known, rfl⟩ := List.mem_map.mp late
      have there := right.inside source known
      simp only [Element.shift]
      omega
  aligned := by
    intro e member
    rcases List.mem_append.mp member with early | late
    · exact left.aligned e early
    · obtain ⟨source, known, rfl⟩ := List.mem_map.mp late
      have sum := Int.dvd_add (right.aligned source known) whole
      have moved : source.offset - 1 + m = (source.shift m).offset - 1 := by
        simp only [Element.shift]
        omega
      rwa [moved] at sum

/-! Coordinates. -/

namespace Coordinates

variable [Ordinate α] {xs ys : List (List α)}

theorem slice_ofRows (w : Nat) (rows : List (List α)) (start stop : Nat) :
    (ofRows w rows).slice start stop = ofRows w (rows.extract start stop) := by
  refine ext (width_slice ..) ?_ ?_
  · rw [rows_slice_natCast]
    simp only [ofRows, List.extract_eq_take_drop, List.map_take, List.map_drop]
  · unfold slice
    split <;> rfl

theorem slice_ofRows_append_left (w : Nat) (ys : List (List α)) {start stop : Nat}
    (before : start ≤ xs.length) (within : stop ≤ xs.length) :
    (ofRows w (xs ++ ys)).slice start stop = (ofRows w xs).slice start stop := by
  rw [slice_ofRows, slice_ofRows, List.extract_eq_take_drop, List.extract_eq_take_drop,
    List.drop_append_of_le_length before, List.take_append_of_le_length]
  rw [List.length_drop]
  omega

theorem slice_ofRows_append_right (w : Nat) (xs ys : List (List α)) (start stop : Nat) :
    (ofRows w (xs ++ ys)).slice ↑(xs.length + start) ↑(xs.length + stop) =
      (ofRows w ys).slice start stop := by
  rw [slice_ofRows, slice_ofRows, List.extract_eq_take_drop, List.extract_eq_take_drop,
    List.drop_length_add_append, Nat.add_sub_add_left]

end Coordinates

/-! Sources. -/

theorem Directory.startAt_le {d : Directory} {n : Nat} (positive : 0 < d.dimension)
    (filled : d.ordinateCount = d.dimension * n) (i : Nat) : d.startAt i ≤ n := by
  have most : (d.entryAt i).offset ≤ d.ordinateCount + 1 := d.offset_le_sentinel i
  rw [startAt, Int.fdiv_eq_ediv_of_nonneg _ (Int.le_of_lt positive)]
  refine Int.ediv_le_of_le_mul positive ?_
  rw [Int.mul_comm, ← filled]
  omega

namespace Source

variable [Ordinate α]

/-- The source has the elements and the coordinates of the one, and behind them those of the other.
-/
structure Concatenates (s t u : Source α) (w : Nat) (xs ys : List (List α)) : Prop where
  elements : u.directory.elements = s.directory.elements ++
    t.directory.elements.map (Element.shift s.directory.ordinateCount)
  ordinateCount : u.directory.ordinateCount =
    s.directory.ordinateCount + t.directory.ordinateCount
  dimension : s.directory.dimension = u.directory.dimension ∧
    t.directory.dimension = u.directory.dimension
  positive : 0 < u.directory.dimension
  filled : s.directory.ordinateCount = s.directory.dimension * xs.length
  coordinates : s.coordinates = .ofRows w xs ∧ t.coordinates = .ofRows w ys ∧
    u.coordinates = .ofRows w (xs ++ ys)
  cap : u.cap = s.cap ∧ u.cap = t.cap

namespace Concatenates

variable {s t u : Source α} {w i : Nat} {xs ys : List (List α)}
  (h : s.Concatenates t u w xs ys)
include h

theorem count_eq : u.directory.count = s.directory.count + t.directory.count := by
  simp only [Directory.count, h.elements, List.length_append, List.length_map]

theorem entryAt_left (inside : i < s.directory.count) :
    u.directory.entryAt i = s.directory.entryAt i := by
  simp only [Directory.entryAt, List.getD_eq_getElem?_getD, h.elements]
  rw [List.getElem?_append_left inside, List.getElem?_eq_getElem inside]
  rfl

/-- The sentinel is shifted like the elements. -/
theorem entryAt_right (i : Nat) : u.directory.entryAt (i + s.directory.count) =
    (t.directory.entryAt i).shift s.directory.ordinateCount := by
  have past : u.directory.sentinel = t.directory.sentinel.shift s.directory.ordinateCount := by
    simp only [Directory.sentinel, Element.shift, h.ordinateCount, Element.mk.injEq, and_true]
    omega
  simp only [Directory.entryAt, List.getD_eq_getElem?_getD, h.elements, past, Directory.count]
  rw [List.getElem?_append_right (Nat.le_add_left ..), Nat.add_sub_cancel, List.getElem?_map,
    Option.getD_map]

theorem code_right (i : Nat) :
    (u.directory.entryAt (i + s.directory.count)).code = (t.directory.entryAt i).code := by
  rw [h.entryAt_right]
  rfl

/-- The coordinates of an element of the second source stand behind all coordinates of the first. -/
theorem startAt_right (i : Nat) :
    u.directory.startAt (i + s.directory.count) = xs.length + t.directory.startAt i := by
  have nonzero : u.directory.dimension ≠ 0 := by
    have positive := h.positive
    omega
  rw [Directory.startAt, h.entryAt_right, Element.shift, h.filled, h.dimension.1, Directory.startAt,
    h.dimension.2, Int.add_comm (xs.length : Int), ← Int.add_mul_fdiv_left _ _ nonzero]
  congr 1
  simp only
  omega

/-- The first element of the second part starts where the sentinel of the first part stood. -/
theorem startAt_left (first : (t.directory.entryAt 0).offset = 1) (le : i ≤ s.directory.count) :
    u.directory.startAt i = s.directory.startAt i := by
  rcases Nat.lt_or_eq_of_le le with inside | rfl
  · rw [Directory.startAt, Directory.startAt, h.entryAt_left inside, h.dimension.1]
  · have meet := h.entryAt_right 0
    rw [Nat.zero_add] at meet
    rw [Directory.startAt, Directory.startAt, meet, Element.shift, first, h.dimension.1,
      Directory.entryAt_of_count_le (Nat.le_refl _), Directory.sentinel, Int.add_comm 1]

/-- A scan of the first source is not misled by the second, whose first element is no hole. -/
theorem embeds_left (first : (t.directory.entryAt 0).offset = 1)
    (outer : (t.directory.entryAt 0).code ∉ [ElementCode.ring, ElementCode.hole]) :
    s.Embeds u 0 where
  alike i inside := by
    have positive : 0 < s.directory.dimension := h.dimension.1 ▸ h.positive
    have nonempty : 0 < s.directory.count := by omega
    obtain ⟨start, before⟩ := Int.eq_ofNat_of_zero_le
      (Directory.startAt_nonneg positive nonempty i)
    obtain ⟨stop, after⟩ := Int.eq_ofNat_of_zero_le
      (Directory.startAt_nonneg positive nonempty (i + 1))
    have low := Directory.startAt_le positive h.filled i
    have high := Directory.startAt_le positive h.filled (i + 1)
    have count := h.count_eq
    have same := h.entryAt_left inside
    refine ⟨⟨by omega, congrArg Element.code same, congrArg Element.interpretation same⟩, ?_,
      h.cap.1⟩
    rw [elementCoordinates, elementCoordinates, Nat.add_zero, h.startAt_left first (by omega),
      h.startAt_left first inside, before, after, h.coordinates.1, h.coordinates.2.2]
    exact Coordinates.slice_ofRows_append_left w ys (by omega) (by omega)
  ends := by
    have code := h.code_right 0
    rw [Nat.zero_add] at code
    simp only [List.mem_cons, List.not_mem_nil, or_false, not_or] at outer
    rw [Nat.add_zero, holeAt, code, if_neg outer.2, if_neg outer.1]

/-- A scan that has come to the second source goes on as it would there. -/
theorem embeds_right (nonempty : 0 < t.directory.count) :
    t.Embeds u s.directory.count where
  alike i inside := by
    have positive : 0 < t.directory.dimension := h.dimension.2 ▸ h.positive
    obtain ⟨start, before⟩ := Int.eq_ofNat_of_zero_le
      (Directory.startAt_nonneg positive nonempty i)
    obtain ⟨stop, after⟩ := Int.eq_ofNat_of_zero_le
      (Directory.startAt_nonneg positive nonempty (i + 1))
    have count := h.count_eq
    refine ⟨⟨by omega, h.code_right i, ?_⟩, ?_, h.cap.2⟩
    · rw [h.entryAt_right]
      rfl
    rw [elementCoordinates, elementCoordinates, Nat.add_right_comm, h.startAt_right,
      h.startAt_right, before, after, h.coordinates.2.1, h.coordinates.2.2]
    exact Coordinates.slice_ofRows_append_right w xs ys start stop
  ends := by
    have code := h.code_right t.directory.count
    rw [Directory.entryAt_of_count_le (Nat.le_refl _)] at code
    rw [Nat.add_comm, Nat.add_comm s.directory.count, holeAt, code]
    rfl

end Concatenates

/-! Building. -/

/-- Where several parts were built there was an element to start with. -/
theorem nonempty_of_build {s : Source α} {d : TypeCode.Descriptor} {g : Geometry α}
    (multi : d.topology ∈ [.multiLine, .multiPolygon, .collection])
    (ok : (s.build d 0).result = .ok g) : 0 < s.directory.count := by
  have yields := yields_of_build ok
  generalize (s.build d 0).cursor = stop at yields
  simp only [List.mem_cons, List.not_mem_nil, or_false] at multi
  rcases multi with topology | topology | topology
  all_goals
    rw [topology] at yields
    cases yields
    assumption

/-- Geometries of several parts whose scans are run one after the other. Nothing is put together
then that could be refused and was not put together before. -/
theorem several_join {β : Type} {s t u : Source α} {kind : Kind}
    {notes notes' notes'' : Nat → List Note} {wrap : List β → Geometry α} (part : β → Shape α)
    (parts : ∀ items, (wrap items).parts = items.map part)
    (plain : ∀ items, Planar.refusal? (.geometry (wrap items)) = none)
    {scan scan' scan'' : Nat → Run α (List β)} {g g' : Geometry α}
    (ok : (s.several kind 0 notes ((scan 0).map wrap)).result = .ok g)
    (ok' : (t.several kind 0 notes' ((scan' 0).map wrap)).result = .ok g')
    (begins : ∀ items, (scan 0).result = .ok items →
      (scan 0).Continues items (scan'' (scan 0).cursor) (scan'' 0))
    (goes : ∀ items, (scan' 0).result = .ok items → 0 < t.directory.count → ∃ cursor,
      (scan' 0).Continues items (.done cursor []) (scan'' (s.several kind 0 notes
        ((scan 0).map wrap)).cursor))
    (more : 0 < s.directory.count → 0 < u.directory.count) :
    ∃ joined, (u.several kind 0 notes'' ((scan'' 0).map wrap)).result = .ok joined ∧
      joined.parts = g.parts ++ g'.parts ∧
      ∀ node ∈ (u.several kind 0 notes'' ((scan'' 0).map wrap)).built,
        node ∈ (s.several kind 0 notes ((scan 0).map wrap)).built ∨
          node ∈ (t.several kind 0 notes' ((scan' 0).map wrap)).built ∨
          Planar.refusal? node = none := by
  rw [built_several ok, built_several ok']
  obtain ⟨nonempty, read, stop, _⟩ := several_ok ok
  obtain ⟨nonempty', read', _⟩ := several_ok ok'
  obtain ⟨items, found, rfl⟩ := Run.result_map_eq_ok.mp read
  obtain ⟨others, found', rfl⟩ := Run.result_map_eq_ok.mp read'
  obtain ⟨_, goesOn⟩ := goes others found' nonempty'
  rw [stop, Run.cursor_map] at goesOn
  obtain ⟨joined, built⟩ := (begins items found).join goesOn
  have result : (u.several kind 0 notes'' ((scan'' 0).map wrap)).result =
      .ok (wrap (items ++ others)) := by
    have whole : ((scan'' 0).map wrap).result = .ok (wrap (items ++ others)) :=
      Run.result_map_eq_ok.mpr ⟨_, joined, rfl⟩
    rw [several_of_nonempty (more nonempty), Run.conclude, Run.andThen_of_ok _ whole]
    rfl
  refine ⟨_, result, by simp only [parts, List.map_append], ?_⟩
  intro node member
  rw [built_several result, Run.built_map, built] at member
  rcases List.mem_append.mp member with either | last
  · rcases List.mem_append.mp either with early | late
    · exact .inl (List.mem_append_left _ early)
    · exact .inr (.inl (List.mem_append_left _ late))
  · rw [List.mem_singleton.mp last]
    exact .inr (.inr (plain _))

namespace Concatenates

variable {s t u : Source α} {w : Nat} {xs ys : List (List α)}

/-- A building that takes all elements of the first part is the beginning of a building from both
parts, and a building from the second part is the rest of it. -/
theorem build_concatenation (h : s.Concatenates t u w xs ys) {d : TypeCode.Descriptor}
    (multi : d.topology ∈ [.multiLine, .multiPolygon, .collection])
    (first : (t.directory.entryAt 0).offset = 1)
    (outer : (t.directory.entryAt 0).code ∉ [ElementCode.ring, ElementCode.hole])
    {g g' : Geometry α} (ok : (s.build d 0).result = .ok g) (ok' : (t.build d 0).result = .ok g')
    (consumed : (s.build d 0).cursor = s.directory.count) :
    ∃ joined, (u.build d 0).result = .ok joined ∧ joined.parts = g.parts ++ g'.parts ∧
      ∀ node ∈ (u.build d 0).built, node ∈ (s.build d 0).built ∨ node ∈ (t.build d 0).built ∨
        Planar.refusal? node = none := by
  have left := h.embeds_left first outer
  have more : 0 < s.directory.count → 0 < u.directory.count := by
    have count := h.count_eq
    omega
  simp only [List.mem_cons, List.not_mem_nil, or_false] at multi
  simp only [build] at ok ok' consumed ⊢
  rcases multi with topology | topology | topology
  · simp only [topology] at ok ok' consumed ⊢
    refine several_join .lineString (fun _ => rfl) (fun _ => rfl) ok ok'
      (fun _ => left.continues_linesFrom) (fun _ read nonempty => ?_) more
    have ends := (scan_linesFrom read).stops_at_end
    have goes := (h.embeds_right nonempty).continues_linesFrom read
    rw [u.linesFrom_eq, h.code_right, if_neg ends, Nat.zero_add, ← consumed] at goes
    exact ⟨_, goes⟩
  · simp only [topology] at ok ok' consumed ⊢
    refine several_join .polygon (fun _ => rfl) (fun _ => rfl) ok ok'
      (fun _ => left.continues_polygonsFrom) (fun _ read nonempty => ?_) more
    have ends := (scan_polygonsFrom read).stops_at_end
    have goes := (h.embeds_right nonempty).continues_polygonsFrom read
    rw [u.polygonsFrom_eq, h.code_right, if_neg ends, Nat.zero_add, ← consumed] at goes
    exact ⟨_, goes⟩
  · simp only [topology] at ok ok' consumed ⊢
    refine several_join id (fun _ => (List.map_id _).symm) (fun _ => rfl) ok ok'
      (fun _ => left.continues_membersFrom) (fun _ read nonempty => ?_) more
    have ends := (scan_membersFrom read).stops_at_end
    have goes := (h.embeds_right nonempty).continues_membersFrom read
    rw [u.membersFrom_eq, h.code_right, if_neg (not_not_intro ends), Nat.zero_add,
      ← consumed] at goes
    exact ⟨_, goes⟩

end Concatenates

end Source

end TripletGeometry
