import TripletGeometry.Proofs.ElementReaders

/-!
Which elements are rings. A ring has at least four coordinates and ends where it starts, in x and
y; a rectangle has two corners, whatever these are. The reader of a ring judges exactly this, and
what it finds wrong with the coordinates of a ring is malformed. A rectangle is expanded to a ring
that ends in the very corner it starts with, which still is no closed ring if x or y there is not
a number.
-/
namespace TripletGeometry

variable {α : Type}

/-- A row that is long enough starts with x and y. -/
theorem exists_cons_cons {row : List α} (two : 2 ≤ row.length) :
    ∃ x y rest, row = x :: y :: rest := by
  cases row with
  | nil => simp at two
  | cons x more =>
    cases more with
    | nil => simp at two
    | cons y rest => exact ⟨x, y, rest, rfl⟩

theorem take_two_fitRow [Ordinate α] {width : Nat} (planar : 2 ≤ width) (x y : α) (rest : List α) :
    (fitRow width (x :: y :: rest)).take 2 = [x, y] := by
  obtain ⟨more, rfl⟩ := Nat.exists_eq_add_of_le' planar
  simp [fitRow, List.take_take]

/-- What is not a number is not the same as itself. -/
def IsNumber [Ordinate α] (x : α) : Prop := Ordinate.same x x = true

instance [Ordinate α] : DecidablePred (IsNumber (α := α)) := fun x =>
  inferInstanceAs (Decidable (Ordinate.same x x = true))

/-! Closed rings. -/

namespace Coordinates

theorem exists_pair_of_mem_xy {c : Coordinates α} (planar : 2 ≤ c.width) {row : List α}
    (member : row ∈ c.xy) : ∃ x y, row = [x, y] := by
  obtain ⟨whole, source, rfl⟩ := List.mem_map.mp member
  obtain ⟨x, y, rest, rfl⟩ := exists_cons_cons (c.uniform whole source ▸ planar)
  exact ⟨x, y, rfl⟩

theorem xy_ne_nil {c : Coordinates α} (nonempty : 0 < c.size) : c.xy ≠ [] := by
  intro bare
  have length := congrArg List.length bare
  simp only [xy, List.length_map, List.length_nil] at length
  simp only [size] at nonempty
  omega

/-- Coordinates that have x and y have them at both ends. -/
theorem exists_ends {c : Coordinates α} (planar : 2 ≤ c.width) (nonempty : 0 < c.size) :
    ∃ firstX firstY lastX lastY,
      c.xy.head? = some [firstX, firstY] ∧ c.xy.getLast? = some [lastX, lastY] := by
  have listed := xy_ne_nil nonempty
  obtain ⟨firstX, firstY, first⟩ := exists_pair_of_mem_xy planar (List.head_mem listed)
  obtain ⟨lastX, lastY, last⟩ := exists_pair_of_mem_xy planar (List.getLast_mem listed)
  exact ⟨firstX, firstY, lastX, lastY, by rw [List.head?_eq_some_head listed, first],
    by rw [List.getLast?_eq_some_getLast listed, last]⟩

variable [Ordinate α]

def Closes (c : Coordinates α) : Prop :=
  ∃ firstX firstY lastX lastY,
    c.xy.head? = some [firstX, firstY] ∧ c.xy.getLast? = some [lastX, lastY] ∧
      Ordinate.same firstX lastX = true ∧ Ordinate.same firstY lastY = true

/-- Coordinates that a polygon can have for a ring. -/
structure IsRing (c : Coordinates α) : Prop where
  four : 4 ≤ c.size
  closes : c.Closes

end Coordinates

namespace Directory

variable {β : Type} {d : Directory} {i : Nat}

/-- The result blames the entry at the index for being malformed. -/
def Malforms (d : Directory) (i : Nat) (result : Except Failure β) : Prop :=
  ∃ cause, result = .error (.fault (.malformed cause (d.contextAt i)))

theorem malforms_malformed (d : Directory) (i : Nat) (cause : Malformation) :
    d.Malforms i (d.malformed (β := β) i cause) := by
  simp only [malformed, entry_natCast, Except.bind]
  exact ⟨cause, rfl⟩

theorem Malforms.refuses {result : Except Failure β} (h : d.Malforms i result) :
    d.Refuses i result := by
  obtain ⟨cause, refused⟩ := h
  exact ⟨_, refused, rfl⟩

theorem Malforms.bind {γ : Type} {result : Except Failure β} (h : d.Malforms i result)
    (next : β → Except Failure γ) : d.Malforms i (result >>= next) := by
  obtain ⟨cause, refused⟩ := h
  rw [refused]
  exact ⟨cause, rfl⟩

theorem malforms_checkCount_exactly {count required : Int} (kind : String)
    (missed : count ≠ required) :
    d.Malforms i (d.checkCount i count kind none (some required)) := by
  have differs : required ≠ count := missed.symm
  simp only [checkCount, Option.filter, ne_eq, differs, not_false_eq_true, decide_true, if_true]
  exact d.malforms_malformed i _

theorem malforms_checkCount_atLeast {count required : Int} (kind : String)
    (few : count < required) :
    d.Malforms i (d.checkCount i count kind (some required) none) := by
  simp only [checkCount, Option.filter, few, decide_true, if_true]
  exact d.malforms_malformed i _

variable [Ordinate α] {ring : Coordinates α}

/-- Closing is checked on x and y, and on nothing else. -/
theorem checkClosed_eq (kind : String) {firstX firstY lastX lastY : α}
    (first : ring.xy.head? = some [firstX, firstY])
    (last : ring.xy.getLast? = some [lastX, lastY]) :
    d.checkClosed i ring kind =
      if Ordinate.same firstX lastX = true ∧ Ordinate.same firstY lastY = true then .ok ()
      else d.malformed i (.openRing kind (Ordinate.text firstX) (Ordinate.text firstY)
        (Ordinate.text lastX) (Ordinate.text lastY)) := by
  simp only [checkClosed, first, last, sameRow, Bool.and_true, Bool.and_eq_true]

theorem checkClosed_of_closes (kind : String) (closes : ring.Closes) :
    d.checkClosed i ring kind = .ok () := by
  obtain ⟨_, _, _, _, first, last, agree⟩ := closes
  rw [checkClosed_eq kind first last, if_pos agree]

theorem malforms_checkClosed (kind : String) (planar : 2 ≤ ring.width) (nonempty : 0 < ring.size)
    (opens : ¬ ring.Closes) : d.Malforms i (d.checkClosed i ring kind) := by
  obtain ⟨_, _, _, _, first, last⟩ := Coordinates.exists_ends planar nonempty
  rw [checkClosed_eq kind first last, if_neg]
  · exact d.malforms_malformed i _
  · intro agree
    exact opens ⟨_, _, _, _, first, last, agree⟩

theorem closes_of_checkClosed {kind : String} (planar : 2 ≤ ring.width) (nonempty : 0 < ring.size)
    (ok : d.checkClosed i ring kind = .ok ()) : ring.Closes := by
  by_contra opens
  exact (malforms_checkClosed kind planar nonempty opens).refuses.ne_ok () ok

end Directory

/-! Rectangles. -/

namespace Ring

variable [Ordinate α] {cap : Int} {corners ring : Coordinates α}

theorem exists_rectangle (two : corners.size = 2) (planar : 2 ≤ corners.width) (capped : 0 ≤ cap) :
    ∃ ring, rectangle cap corners = .ok ring := by
  obtain ⟨low, high, pair, lowAt, highAt⟩ := exists_corners two
  have rows : ∃ rows, rectangleRows low high = .ok rows := by
    obtain ⟨_, _, _, rfl⟩ := exists_cons_cons (corners.uniform low (by simp [pair]) ▸ planar)
    obtain ⟨_, _, _, rfl⟩ := exists_cons_cons (corners.uniform high (by simp [pair]) ▸ planar)
    exact ⟨_, rfl⟩
  obtain ⟨rows, made⟩ := rows
  have fits : Coordinates.cappedWidth cap corners.width = .ok (min cap.toNat corners.width) :=
    if_pos capped
  exact ⟨_, bind_eq_ok.mpr ⟨low, lowAt, bind_eq_ok.mpr ⟨high, highAt, bind_eq_ok.mpr ⟨_, fits,
    bind_eq_ok.mpr ⟨rows, made, rfl⟩⟩⟩⟩⟩

theorem width_of_rectangle (ok : rectangle cap corners = .ok ring) :
    ring.width = min cap.toNat corners.width := by
  obtain ⟨_, _, ok⟩ := bind_eq_ok.mp ok
  obtain ⟨_, _, ok⟩ := bind_eq_ok.mp ok
  obtain ⟨width, fits, ok⟩ := bind_eq_ok.mp ok
  obtain ⟨_, _, ok⟩ := bind_eq_ok.mp ok
  cases ok
  unfold Coordinates.cappedWidth at fits
  split at fits
  · exact (Except.ok.inj fits).symm
  · cases fits

theorem size_of_rectangle (two : corners.size = 2) (ok : rectangle cap corners = .ok ring) :
    ring.size = 5 := by
  obtain ⟨_, _, _, _, _, _, _, rows⟩ := expands_of_rectangle two ok
  rw [Coordinates.size, rows]
  rfl

/-- The ring of a rectangle starts in the first corner and ends there. -/
theorem ends_of_rectangle (two : corners.size = 2) (planar : 2 ≤ corners.width) (capped : 2 ≤ cap)
    (ok : rectangle cap corners = .ok ring) :
    ring.xy.head? = corners.xy.head? ∧ ring.xy.getLast? = corners.xy.head? := by
  obtain ⟨lowX, lowY, highX, highY, low, high, pair, rows⟩ := expands_of_rectangle two ok
  have fits : 2 ≤ min cap.toNat corners.width := by omega
  constructor
  · simp [Coordinates.xy, rows, pair, take_two_fitRow fits]
  · simp [Coordinates.xy, rows, pair, take_two_fitRow fits]

/-- A rectangle closes unless its first corner is not made of numbers. -/
theorem closes_iff_of_rectangle (two : corners.size = 2) (planar : 2 ≤ corners.width)
    (capped : 2 ≤ cap) (ok : rectangle cap corners = .ok ring) :
    ring.Closes ↔ ∃ x y, corners.xy.head? = some [x, y] ∧ IsNumber x ∧ IsNumber y := by
  obtain ⟨first, last⟩ := ends_of_rectangle two planar capped ok
  rw [Coordinates.Closes, first, last]
  constructor
  · intro closes
    obtain ⟨x, y, _, _, head, final, agree⟩ := closes
    rw [head] at final
    cases final
    exact ⟨x, y, head, agree⟩
  · intro numbers
    obtain ⟨x, y, head, agree⟩ := numbers
    exact ⟨x, y, x, y, head, head, agree⟩

end Ring

/-! Readers. -/

theorem ElementCode.mem_rings_of_mem_shells {code : Int} (starts : code ∈ shells) :
    code ∈ rings := by
  rcases List.mem_cons.mp starts with ring | shell
  · rw [ring]
    decide
  · rw [List.mem_singleton.mp shell]
    decide

namespace Source

variable [Ordinate α] {s : Source α} {i : Nat}

/-- The coordinates of the element are those of a ring, or of a rectangle. -/
def ValidRing (s : Source α) (i : Nat) : Prop :=
  ((s.directory.entryAt i).interpretation = Interpretation.simple ∧
      (s.elementCoordinates i).IsRing) ∨
    ((s.directory.entryAt i).interpretation = Interpretation.rectangle ∧
      (s.elementCoordinates i).size = 2)

/-- The first corner of the element, which then is a rectangle, has no number for x or for y. -/
def LacksCorner (s : Source α) (i : Nat) : Prop :=
  (s.directory.entryAt i).interpretation = Interpretation.rectangle ∧
    ¬ ∃ x y, (s.elementCoordinates i).xy.head? = some [x, y] ∧ IsNumber x ∧ IsNumber y

/-- A ring whose coordinates are wrong is malformed. -/
theorem malforms_ringAt (planar : 2 ≤ s.coordinates.width) (inside : i < s.directory.count)
    (coded : (s.directory.entryAt i).code ∈ ElementCode.rings)
    (interpreted : (s.directory.entryAt i).interpretation ∈ Interpretation.rings)
    (invalid : ¬ s.ValidRing i) : s.directory.Malforms i (s.ringAt i) := by
  have wide : 2 ≤ (s.elementCoordinates i).width := by rwa [width_elementCoordinates]
  have checked := (s.judges_checkRing i ElementCode.rings).passes ⟨inside, coded, interpreted⟩
  simp only [ringAt, checked]
  change s.directory.Malforms i (if _ then _ else _)
  split
  · rename_i rectangular
    refine (Directory.malforms_checkCount_exactly _ ?_).bind _
    intro two
    exact invalid (.inr ⟨rectangular, by omega⟩)
  · rename_i plain
    have simple : (s.directory.entryAt i).interpretation = Interpretation.simple := by
      simpa [plain] using interpreted
    by_cases four : 4 ≤ (s.elementCoordinates i).size
    · have counted : s.directory.checkCount i (s.elementCoordinates i).size Kind.linearRing.name
          (some 4) none = .ok () :=
        (s.directory.judges_checkCount_atLeast i _ _ 4).passes (by omega)
      rw [counted]
      refine (Directory.malforms_checkClosed _ wide (by omega) ?_).bind _
      intro closes
      exact invalid (.inl ⟨simple, four, closes⟩)
    · exact (Directory.malforms_checkCount_atLeast _ (by omega)).bind _

theorem validRing_of_ringAt (planar : 2 ≤ s.coordinates.width) {ring : Coordinates α}
    (ok : s.ringAt i = .ok ring) : s.ValidRing i := by
  obtain ⟨_, ⟨rectangular, two, _⟩ | ⟨simple, four, closed, rfl⟩⟩ := ringAt_ok ok
  · exact .inr ⟨rectangular, two⟩
  · have wide : 2 ≤ (s.elementCoordinates i).width := by rwa [width_elementCoordinates]
    exact .inl ⟨simple, four, Directory.closes_of_checkClosed wide (by omega) closed⟩

/-- A ring that is one is read as it is. -/
theorem ringAt_of_isRing (inside : i < s.directory.count)
    (coded : (s.directory.entryAt i).code ∈ ElementCode.rings)
    (simple : (s.directory.entryAt i).interpretation = Interpretation.simple)
    (ring : (s.elementCoordinates i).IsRing) : s.ringAt i = .ok (s.elementCoordinates i) := by
  have interpreted : (s.directory.entryAt i).interpretation ∈ Interpretation.rings := by
    rw [simple]
    decide
  have checked := (s.judges_checkRing i ElementCode.rings).passes ⟨inside, coded, interpreted⟩
  have plain : ¬ (s.directory.entryAt i).interpretation = Interpretation.rectangle := by
    rw [simple]
    decide
  have four := ring.four
  refine bind_eq_ok.mpr ⟨(), checked, ?_⟩
  rw [if_neg plain]
  exact bind_eq_ok.mpr ⟨(), (s.directory.judges_checkCount_atLeast i _ _ 4).passes (by omega),
    bind_eq_ok.mpr ⟨(), Directory.checkClosed_of_closes _ ring.closes, rfl⟩⟩

/-- A rectangle is expanded from its corners. -/
theorem ringAt_of_rectangle (inside : i < s.directory.count)
    (coded : (s.directory.entryAt i).code ∈ ElementCode.rings)
    (rectangular : (s.directory.entryAt i).interpretation = Interpretation.rectangle)
    (two : (s.elementCoordinates i).size = 2) :
    s.ringAt i = Ring.rectangle s.cap (s.elementCoordinates i) := by
  have interpreted : (s.directory.entryAt i).interpretation ∈ Interpretation.rings := by
    rw [rectangular]
    decide
  have checked := (s.judges_checkRing i ElementCode.rings).passes ⟨inside, coded, interpreted⟩
  have counted := (s.directory.judges_checkCount_exactly i (s.elementCoordinates i).size
    Kind.linearRing.name 2).passes (by omega)
  rw [ringAt, checked]
  dsimp only [bind, Except.bind]
  rw [if_pos rectangular, counted]

theorem exists_ringAt_of_validRing (planar : 2 ≤ s.coordinates.width) (capped : 0 ≤ s.cap)
    (inside : i < s.directory.count) (coded : (s.directory.entryAt i).code ∈ ElementCode.rings)
    (valid : s.ValidRing i) : ∃ ring, s.ringAt i = .ok ring := by
  have wide : 2 ≤ (s.elementCoordinates i).width := by rwa [width_elementCoordinates]
  rcases valid with ⟨simple, ring⟩ | ⟨rectangular, two⟩
  · exact ⟨_, ringAt_of_isRing inside coded simple ring⟩
  · rw [ringAt_of_rectangle inside coded rectangular two]
    exact Ring.exists_rectangle two wide capped

/-- A rectangle has five coordinates, and any other ring four or more. -/
theorem four_le_size_of_ringAt {ring : Coordinates α} (ok : s.ringAt i = .ok ring) :
    4 ≤ ring.size := by
  obtain ⟨_, ⟨_, two, made⟩ | ⟨_, four, _, rfl⟩⟩ := ringAt_ok ok
  · have five := Ring.size_of_rectangle two made
    omega
  · exact four

/-- A ring that was read is closed, but for a rectangle without a first corner. -/
theorem closes_iff_of_ringAt (planar : 2 ≤ s.coordinates.width) (capped : 2 ≤ s.cap)
    {ring : Coordinates α} (ok : s.ringAt i = .ok ring) : ring.Closes ↔ ¬ s.LacksCorner i := by
  have wide : 2 ≤ (s.elementCoordinates i).width := by rwa [width_elementCoordinates]
  obtain ⟨_, ⟨rectangular, two, made⟩ | ⟨simple, four, closed, rfl⟩⟩ := ringAt_ok ok
  · rw [LacksCorner, ← Ring.closes_iff_of_rectangle two wide capped made, not_and_not_right]
    exact ⟨fun closes _ => closes, fun closes => closes rectangular⟩
  · refine iff_of_true (Directory.closes_of_checkClosed wide (by omega) closed) ?_
    intro lacks
    rw [LacksCorner, simple] at lacks
    exact absurd lacks.1 (by decide)

end Source

end TripletGeometry
