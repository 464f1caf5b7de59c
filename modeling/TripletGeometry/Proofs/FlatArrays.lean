import TripletGeometry.Proofs.Admissions
import TripletGeometry.Proofs.Grouping

/-!
Elements as a flat array of integers, three to an element. An array of whole triplets is taken apart
into elements that make it up again, and any other is malformed. So an encoding comes back from its
own parts, and it does not matter whether its elements are given flat, as triplets or as records.
-/
namespace TripletGeometry

def Element.parts (t : Element) : List Int := [t.offset, t.code, t.interpretation]

def Element.triplet (t : Element) : Value := .list (t.parts.map .integer)

theorem Element.length_flatMap_parts (elements : List Element) :
    (elements.flatMap parts).length = 3 * elements.length := by
  induction elements with
  | nil => rfl
  | cons t rest ih =>
    have three : t.parts.length = 3 := rfl
    rw [List.flatMap_cons, List.length_append, three, ih, List.length_cons]
    omega

/-- Whole triplets are those of elements. -/
theorem Element.exists_flatMap_parts : ∀ {flat : List Int}, 3 ∣ flat.length →
    ∃ elements : List Element, elements.flatMap parts = flat
  | [], _ => ⟨[], rfl⟩
  | [_], whole => absurd whole (show ¬ 3 ∣ 1 by decide)
  | [_, _], whole => absurd whole (show ¬ 3 ∣ 2 by decide)
  | offset :: code :: interpretation :: rest, whole => by
    have later : 3 ∣ rest.length := by
      simp only [List.length_cons] at whole
      omega
    obtain ⟨elements, same⟩ := exists_flatMap_parts later
    exact ⟨⟨offset, code, interpretation⟩ :: elements, by rw [List.flatMap_cons, same]; rfl⟩

theorem Signature.check_eq_ok_iff {signature : Signature} {names : List String} :
    signature.check names = .ok () ↔ (∀ name ∈ names, signature.knows name = true) ∧
      ∀ name ∈ signature.required, name ∈ names := by
  unfold check
  cases stranger : names.find? (!signature.knows ·) with
  | some name =>
    refine iff_of_false nofun fun known => ?_
    have unknown := List.find?_some stranger
    rw [known.1 name (List.mem_of_find?_eq_some stranger)] at unknown
    cases unknown
  | none =>
    have known : ∀ name ∈ names, signature.knows name = true := by
      simpa using List.find?_eq_none.mp stranger
    rw [and_iff_right known]
    simp

namespace Encoding

variable {arrays : List (String × Value)} {flat : List Int} {e : Encoding Float}
  {elements : List Element}

/-- Triplets that are written one after the other are read back. -/
theorem triplets_of_elements (elements : List Element) :
    triplets ((elements.flatMap Element.parts).map .integer) =
      .ok (elements.map Element.triplet) := by
  have length := Element.length_flatMap_parts elements
  have rows : (elements.flatMap Element.parts).map Value.integer =
      (elements.map fun t => t.parts.map Value.integer).flatten := by
    rw [List.map_flatMap, List.flatMap_def]
  have even : ∀ row ∈ elements.map fun t => t.parts.map Value.integer, row.length = 3 := by
    intro row member
    obtain ⟨t, _, rfl⟩ := List.mem_map.mp member
    rfl
  have groups := Assembly.groups_flatten even
  rw [List.length_map] at groups
  rw [triplets, List.length_map, length, if_pos (Nat.mul_mod_right 3 _),
    Nat.mul_div_cancel_left _ (by decide), rows, groups, List.map_map]
  rfl

def IsMalformed (result : Except Refusal (Encoding Float)) : Prop :=
  ∃ cause context, result = .error (.failure (.fault (.malformed cause context)))

/-- The names of the arrays are known, the type code is among them, and the elements are given as
these integers. -/
structure Stores (arrays : List (String × Value)) (flat : List Int) : Prop where
  known : arraysSignature.check (arrays.map Prod.fst) = .ok ()
  elements : arrays.lookup flatElementsField = some (.list (flat.map .integer))

/-- All arrays but the elements are admitted, and these are the parts of the encoding. -/
def AdmitsArrays (arrays : List (String × Value)) (e : Encoding Float) : Prop :=
  ∃ point, pointTuple (given arrays pointField) = .ok point ∧ AdmitsRest arrays point e

/-- The record of what arrays give, with a point and elements that are taken apart already. -/
def spread (arrays : List (String × Value)) (point : Value) (elements : List Value) :
    List (String × Value) :=
  [(typeCodeField, given arrays typeCodeField), (sridField, given arrays sridField),
    (pointField, point), (elementsField, .list elements),
    (ordinatesField, given arrays ordinatesField)]

theorem admitsRest_spread_iff {point : Value} {values : List Value} :
    AdmitsRest (spread arrays point values) (given (spread arrays point values) pointField) e ↔
      AdmitsRest arrays point e := by
  constructor
  · rintro ⟨typeCode, srid, point, ordinates⟩
    exact ⟨typeCode, srid, point, ordinates⟩
  · rintro ⟨typeCode, srid, point, ordinates⟩
    exact ⟨typeCode, srid, point, ordinates⟩

theorem flatValues_list (values : List Value) : flatValues (.list values) = .ok values := by
  cases values <;> rfl

/-- A point that is no tuple cannot be gone through, which is no fault of the encoding. -/
theorem failure_of_pointTuple {value : Value} {failure : Failure}
    (failed : pointTuple value = .error failure) :
    ∃ typeName, failure = .notIterable typeName := by
  cases value with
  | absent | text | list | record => cases failed
  | flag | integer | number =>
    cases failed
    exact ⟨_, rfl⟩

/-- A point that a record is admitted with is a tuple already. -/
theorem pointTuple_of_admitted {value : Value} {point : Option (CompactPoint Float)}
    (admitted : Verdict.optional admitPoint value = .ok point) : pointTuple value = .ok value := by
  cases value with
  | absent | list => rfl
  | flag | integer | number | text | record => cases admitted

namespace Stores

theorem recordOfArrays_eq (stores : Stores arrays flat) : recordOfArrays arrays = (do
    let elements ← triplets (flat.map .integer)
    let point ← pointTuple (given arrays pointField)
    return spread arrays point elements) := by
  simp only [recordOfArrays, stores.known, stores.elements, Option.getD_some, flatValues_list]
  rfl

/-- What is left of a triplet is noticed before any of the other arrays is looked at. -/
theorem ofArrays_of_partial (stores : Stores arrays flat) (left : ¬ 3 ∣ flat.length) :
    ofArrays arrays =
      .error (.failure (.fault (.malformed (.partialTriplet flat.length 3) .unknown))) := by
  have uneven : ¬ (flat.map Value.integer).length % 3 = 0 := by
    rw [List.length_map]
    omega
  have refused : triplets (flat.map .integer) =
      .error (.fault (.malformed (.partialTriplet flat.length 3) .unknown)) := by
    rw [triplets, if_neg uneven, List.length_map]
  rw [ofArrays, stores.recordOfArrays_eq, refused]
  rfl

section Whole

variable (stores : Stores arrays (elements.flatMap Element.parts))
include stores

theorem ofArrays_of_point {point : Value}
    (taken : pointTuple (given arrays pointField) = .ok point) :
    ofArrays arrays = ofRecord (spread arrays point (elements.map Element.triplet)) := by
  rw [ofArrays, stores.recordOfArrays_eq, triplets_of_elements, taken]
  rfl

theorem ofArrays_of_no_point {failure : Failure}
    (failed : pointTuple (given arrays pointField) = .error failure) :
    ofArrays arrays = .error (.failure failure) := by
  rw [ofArrays, stores.recordOfArrays_eq, triplets_of_elements, failed]
  rfl

/-- Arrays of whole triplets are accepted just if the record of the triplets is. -/
theorem ofArrays_eq_ok_iff :
    ofArrays arrays = .ok e ↔ AdmitsArrays arrays e ∧ e.elements = elements := by
  have spells : ∀ t ∈ elements, Spells t t.triplet := fun _ _ => .triplet
  have spelled : admitElements (elements.map Element.triplet) = .ok elements :=
    admitElements_of_spells (List.forall₂_map_right_iff.mpr (List.forall₂_same.mpr spells))
  cases taken : pointTuple (given arrays pointField) with
  | error failure =>
    rw [stores.ofArrays_of_no_point taken]
    refine iff_of_false nofun ?_
    rintro ⟨⟨point, given, _⟩, _⟩
    rw [taken] at given
    cases given
  | ok point =>
    rw [stores.ofArrays_of_point taken, ofRecord_eq_ok_iff rfl, admitsRest_spread_iff, spelled,
      AdmitsArrays, taken]
    simp [eq_comm]

theorem not_isMalformed : ¬ IsMalformed (ofArrays arrays) := by
  rintro ⟨cause, context, refused⟩
  cases taken : pointTuple (given arrays pointField) with
  | error failure =>
    obtain ⟨typeName, rfl⟩ := failure_of_pointTuple taken
    rw [stores.ofArrays_of_no_point taken] at refused
    cases refused
  | ok point =>
    rw [stores.ofArrays_of_point taken] at refused
    exact ofRecord_ne_failure rfl _ refused

end Whole

section Flat

variable (stores : Stores arrays flat)
include stores

/-- The length of the flat array alone decides on this refusal. -/
theorem isMalformed_iff : IsMalformed (ofArrays arrays) ↔ ¬ 3 ∣ flat.length := by
  constructor
  · intro malformed whole
    obtain ⟨elements, rfl⟩ := Element.exists_flatMap_parts whole
    exact stores.not_isMalformed malformed
  · intro left
    exact ⟨_, _, stores.ofArrays_of_partial left⟩

theorem dvd_of_ok (ok : ofArrays arrays = .ok e) : 3 ∣ flat.length := by
  by_contra left
  rw [stores.ofArrays_of_partial left] at ok
  cases ok

/-- What is accepted has exactly the integers of the array. -/
theorem admits_of_ok (ok : ofArrays arrays = .ok e) :
    AdmitsArrays arrays e ∧ e.flatElements = flat := by
  obtain ⟨elements, rfl⟩ := Element.exists_flatMap_parts (stores.dvd_of_ok ok)
  obtain ⟨admits, rfl⟩ := stores.ofArrays_eq_ok_iff.mp ok
  exact ⟨admits, rfl⟩

theorem exists_ofArrays_iff :
    (∃ e, ofArrays arrays = .ok e) ↔ 3 ∣ flat.length ∧ ∃ e, AdmitsArrays arrays e := by
  constructor
  · rintro ⟨e, ok⟩
    exact ⟨stores.dvd_of_ok ok, e, (stores.admits_of_ok ok).1⟩
  · rintro ⟨whole, e, point, taken, typeCode, srid, pointed, ordinates⟩
    obtain ⟨elements, rfl⟩ := Element.exists_flatMap_parts whole
    exact ⟨{ e with elements }, stores.ofArrays_eq_ok_iff.mpr
      ⟨⟨point, taken, typeCode, srid, pointed, ordinates⟩, rfl⟩⟩

end Flat

end Stores

/-! The same elements, spelled in several ways. -/

section Rest

variable {rest : List (String × Value)} (admits : AdmitsRest rest (given rest pointField) e)
include admits

theorem ofRecord_of_spells {values : List Value}
    (spelled : List.Forall₂ Spells e.elements values) :
    ofRecord ((elementsField, .list values) :: rest) = .ok e :=
  (ofRecord_eq_ok_iff rfl).mpr
    ⟨⟨admits.typeCode, admits.srid, admits.point, admits.ordinates⟩,
      admitElements_of_spells spelled⟩

theorem ofArrays_of_rest (known : ∀ name ∈ rest.map Prod.fst, arraysSignature.knows name = true) :
    ofArrays ((flatElementsField, .list (e.flatElements.map .integer)) :: rest) = .ok e := by
  have typed : typeCodeField ∈ rest.map Prod.fst := by
    by_contra missing
    have admitted := admits.typeCode
    rw [given_of_notMem missing] at admitted
    cases admitted
  have stores : Stores ((flatElementsField, .list (e.flatElements.map .integer)) :: rest)
      (e.elements.flatMap Element.parts) := by
    refine ⟨Signature.check_eq_ok_iff.mpr ⟨?_, ?_⟩, rfl⟩
    · intro name member
      rcases List.mem_cons.mp member with rfl | other
      · exact (by decide : arraysSignature.knows flatElementsField = true)
      · exact known name other
    · intro name required
      rw [List.mem_singleton.mp required]
      exact List.mem_cons_of_mem _ typed
  refine stores.ofArrays_eq_ok_iff.mpr ⟨⟨given rest pointField, ?_, ?_⟩, rfl⟩
  · exact pointTuple_of_admitted admits.point
  · exact ⟨admits.typeCode, admits.srid, admits.point, admits.ordinates⟩

end Rest

/-! An encoding's own arrays. -/

def rest (e : Encoding Float) : List (String × Value) :=
  [(typeCodeField, .integer e.typeCode), (sridField, e.srid.elim .absent .integer),
    (pointField, e.point.elim .absent fun p =>
      .list [.number p.x, .number p.y, p.z.elim .absent .number]),
    (ordinatesField, .list (e.ordinates.map .number))]

def stored (e : Encoding Float) : List (String × Value) :=
  (flatElementsField, .list (e.flatElements.map .integer)) :: e.rest

theorem admitsRest_rest (e : Encoding Float) : AdmitsRest e.rest (given e.rest pointField) e where
  typeCode := rfl
  srid := by
    change Verdict.optional Verdict.ofInteger (e.srid.elim .absent .integer) = _
    cases e.srid <;> rfl
  point := by
    change Verdict.optional admitPoint (e.point.elim .absent _) = _
    cases e.point with
    | none => rfl
    | some p =>
      obtain ⟨x, y, z⟩ := p
      cases z <;> rfl
  ordinates := by
    change Verdict.items Verdict.ofNumber 0 (e.ordinates.map .number) = _
    have accepted : ∀ x : Float, Verdict.ofNumber (.number x) = .ok x := fun _ => rfl
    exact Verdict.items_map accepted 0 e.ordinates

theorem knows_of_mem_rest (e : Encoding Float) :
    ∀ name ∈ e.rest.map Prod.fst, arraysSignature.knows name = true := by
  change ∀ name ∈ [typeCodeField, sridField, pointField, ordinatesField], _
  decide

/-- An encoding that is stored in arrays is read back. -/
theorem ofArrays_stored (e : Encoding Float) : ofArrays e.stored = .ok e :=
  ofArrays_of_rest e.admitsRest_rest e.knows_of_mem_rest

/-- An array of elements is malformed if and only if it is not made of whole triplets; otherwise, if
all else is admitted, the elements that come of it make it up again. Triplets, records and a flat
array of the same elements give the same encoding, and every encoding comes back from its own
parts. -/
theorem arrays_invert_triplets :
    (∀ (arrays : List (String × Value)) (flat : List Int), Stores arrays flat →
      (IsMalformed (ofArrays arrays) ↔ ¬ 3 ∣ flat.length) ∧
      ((∃ e, ofArrays arrays = .ok e) ↔ 3 ∣ flat.length ∧ ∃ e, AdmitsArrays arrays e) ∧
      ∀ e, ofArrays arrays = .ok e → AdmitsArrays arrays e ∧ e.flatElements = flat) ∧
    (∀ (rest : List (String × Value)) (e : Encoding Float),
      AdmitsRest rest (given rest pointField) e →
      (∀ values, List.Forall₂ Spells e.elements values →
        ofRecord ((elementsField, .list values) :: rest) = .ok e) ∧
      ((∀ name ∈ rest.map Prod.fst, arraysSignature.knows name = true) →
        ofArrays ((flatElementsField, .list (e.flatElements.map .integer)) :: rest) = .ok e)) ∧
    ∀ e : Encoding Float, ∃ again, ofArrays e.stored = .ok again ∧ again = e ∧
      again.wholePoint?.isSome = e.wholePoint?.isSome := by
  refine ⟨fun arrays flat stores => ?_, fun rest e admits => ?_, fun e => ?_⟩
  · exact ⟨stores.isMalformed_iff, stores.exists_ofArrays_iff, fun e => stores.admits_of_ok⟩
  · exact ⟨fun values => ofRecord_of_spells admits, ofArrays_of_rest admits⟩
  · exact ⟨e, e.ofArrays_stored, rfl, rfl⟩

/-- A point without z, of which y is no number, and two elements, the second under the code of the
sentinel. There are no ordinates. -/
def pairWithoutY : Encoding Float :=
  ⟨-4, some 1, some ⟨0.5, 0 / 0, none⟩, [⟨1, 1003, 3⟩, ⟨5, -1, 0⟩], []⟩

/-- The point is a pair, the number of the reference system a flag. -/
def pairWithoutYRest : List (String × Value) :=
  [(ordinatesField, .absent), (pointField, .list [.number 0.5, .number (0 / 0)]),
    (typeCodeField, .integer (-4)), (sridField, .flag true)]

def pairWithoutYElements : List Value :=
  [.list [.integer 1, .integer 1003, .integer 3],
    .record [(interpretationField, .integer 0), ("label", .text "end"), (codeField, .integer (-1)),
      (offsetField, .integer 5)]]

/-- One triplet, and the same with an integer too many. -/
theorem arrays_invert_triplets_pairWithoutY :
    (∃ e,
      ofArrays ((flatElementsField, .list ([1, 1003, 3].map .integer)) :: pairWithoutYRest) =
          .ok e ∧
        e.flatElements = [1, 1003, 3]) ∧
    IsMalformed
      (ofArrays ((flatElementsField, .list ([1, 1003, 3, 5].map .integer)) :: pairWithoutYRest)) ∧
    ofRecord ((elementsField, .list pairWithoutYElements) :: pairWithoutYRest) = .ok pairWithoutY ∧
    ∃ again, ofArrays pairWithoutY.stored = .ok again ∧ again.wholePoint? = none := by
  obtain ⟨arrays, spellings, own⟩ := arrays_invert_triplets
  have admits : AdmitsRest pairWithoutYRest (given pairWithoutYRest pointField) pairWithoutY :=
    ⟨rfl, rfl, rfl, rfl⟩
  refine ⟨?_, ?_, ?_, ?_⟩
  · obtain ⟨_, accepted, kept⟩ := arrays
      ((flatElementsField, .list ([1, 1003, 3].map .integer)) :: pairWithoutYRest) [1, 1003, 3]
      ⟨rfl, rfl⟩
    obtain ⟨e, ok⟩ := accepted.mpr ⟨by decide, pairWithoutY, _, rfl, admits.typeCode, admits.srid,
      admits.point, admits.ordinates⟩
    exact ⟨e, ok, (kept e ok).2⟩
  · exact (arrays _ [1, 1003, 3, 5] ⟨rfl, rfl⟩).1.mpr (by decide)
  · have spelled : List.Forall₂ Spells pairWithoutY.elements pairWithoutYElements :=
      .cons .triplet (.cons (.record rfl rfl rfl) .nil)
    exact (spellings pairWithoutYRest pairWithoutY admits).1 pairWithoutYElements spelled
  · obtain ⟨again, ok, rfl, _⟩ := own pairWithoutY
    exact ⟨pairWithoutY, ok, rfl⟩

end Encoding

end TripletGeometry
