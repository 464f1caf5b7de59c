import TripletGeometry.Source.Polygon

/-!
Scans over several elements: the lines, the polygons or the members from the cursor on. A scan
goes on as long as the next element is of a type that it reads, so it never moves backwards, and
each step of it moves the cursor on.
-/
namespace TripletGeometry.Source

variable {α : Type}

def shapeAt (read : Nat → Except Failure (Shape α)) (index : Nat) : Run α (Shape α) :=
  match read index with
  | .error failure => .fail index failure
  | .ok shape => ⟨index + 1, [.built (.geometry (.shape shape))], .ok shape⟩

/-- A shape that was read takes an element with it, so a scan over shapes comes to an end. -/
theorem lt_cursor_shapeAt {read : Nat → Except Failure (Shape α)} {index : Nat} {shape : Shape α}
    (h : (shapeAt read index).result = .ok shape) : index < (shapeAt read index).cursor := by
  unfold shapeAt at h ⊢
  split at h
  · cases h
  · simp

def linesFrom (s : Source α) (index : Nat) : Run α (List (Coordinates α)) :=
  if _isLine : (s.directory.entryAt index).code = ElementCode.line then
    match s.lineAt index with
    | .error failure => .fail index failure
    | .ok line =>
      ((s.linesFrom (index + 1)).map (line :: ·)).after
        [.built (.geometry (.shape (.lineString line)))]
  else .done index []
termination_by s.directory.count - index
decreasing_by
  have inside := Directory.lt_count_of_code_ne_finish (by rw [_isLine]; decide)
  omega

/-- The member of a collection that the element at the index makes up alone, as its type says. A
point element is a single point or a cluster. -/
def loneMemberAt (s : Source α) (index : Nat) : Except Failure (Shape α) :=
  let e := s.directory.entryAt index
  let kind := Kind.geometryCollection.name
  if e.code = ElementCode.point then
    if e.interpretation = Interpretation.simple then s.pointAt index
    else if 1 < e.interpretation then s.multiPointAt index
    else s.directory.rejectInterpretation index kind
  else if e.code = ElementCode.line then (s.lineAt index).map .lineString
  else if e.code = ElementCode.hole then
    s.directory.rejectElement index kind
      (some "Polygon interior rings must follow their exterior ring")
  else
    s.directory.rejectElement index kind
      (some "Custom, compound and curved elements are not supported")

variable [Ordinate α]

def polygonsFrom (s : Source α) (index : Nat) : Run α (List (Polygon α)) :=
  if _isShell : (s.directory.entryAt index).code ∈ ElementCode.shells then
    match _read : (s.polygonAt index).result with
    | .error failure => ⟨(s.polygonAt index).cursor, (s.polygonAt index).events, .error failure⟩
    | .ok polygon =>
      ((s.polygonsFrom (s.polygonAt index).cursor).map (polygon :: ·)).after
        (s.polygonAt index).events
  else .done index []
termination_by s.directory.count - index
decreasing_by
  have inside := Directory.lt_count_of_code_ne_finish (d := s.directory) (i := index) (by
    intro finish
    rw [finish] at _isShell
    revert _isShell
    decide)
  have advance := lt_cursor_polygonAt _read
  omega

def memberAt (s : Source α) (index : Nat) : Run α (Shape α) :=
  if (s.directory.entryAt index).code ∈ ElementCode.shells then
    (s.polygonAt index).map .polygon
  else shapeAt s.loneMemberAt index

/-- A member that was read is behind the cursor. -/
theorem lt_cursor_memberAt {s : Source α} {index : Nat} {shape : Shape α}
    (h : (s.memberAt index).result = .ok shape) : index < (s.memberAt index).cursor := by
  unfold memberAt at h ⊢
  split at h
  · rename_i isShell
    rw [if_pos isShell]
    obtain ⟨polygon, read, _⟩ := Run.result_map_eq_ok.mp h
    exact lt_cursor_polygonAt read
  · rename_i notShell
    rw [if_neg notShell]
    exact lt_cursor_shapeAt h

/-- Members are read up to the first entry with the code of the sentinel. -/
def membersFrom (s : Source α) (index : Nat) : Run α (List (Shape α)) :=
  if _remains : (s.directory.entryAt index).code ≠ ElementCode.finish then
    match _read : (s.memberAt index).result with
    | .error failure => ⟨(s.memberAt index).cursor, (s.memberAt index).events, .error failure⟩
    | .ok shape =>
      ((s.membersFrom (s.memberAt index).cursor).map (shape :: ·)).after (s.memberAt index).events
  else .done index []
termination_by s.directory.count - index
decreasing_by
  have inside := Directory.lt_count_of_code_ne_finish _remains
  have advance := lt_cursor_memberAt _read
  omega

end TripletGeometry.Source
