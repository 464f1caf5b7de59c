import Mathlib.Data.List.Forall2
import TripletGeometry.Encoding.Admission

/-!
Which records are admitted as an encoding. Each part is admitted by itself, and what is absent is
admitted as what stands in for a missing part. Elements may be spelled as triplets or as records of
their own, one beside the other, and however they are spelled they are admitted as the same.
-/
namespace TripletGeometry

def given (fields : List (String × Value)) (name : String) : Value :=
  (fields.lookup name).getD .absent

theorem given_of_notMem {fields : List (String × Value)} {name : String}
    (missing : name ∉ fields.map Prod.fst) : given fields name = .absent := by
  have absent : fields.lookup name = none := by
    refine List.lookup_eq_none_iff.mpr fun part member => ?_
    apply bne_iff_ne.mpr
    rintro rfl
    exact missing (List.mem_map_of_mem member)
  rw [given, absent, Option.getD_none]

namespace Verdict

variable {β : Type} {accept : Value → Verdict β} {b : β} {verdict : Verdict β}

theorem under_eq_ok {step : Step} : verdict.under step = .ok b ↔ verdict = .ok b := by
  cases verdict <;> simp [under]

/-- A field is admitted as what is given for it, if absence is admitted as the default. -/
theorem field_eq_ok {fields : List (String × Value)} {name : String} {default : Option β}
    (absence : ∀ b, default = some b ↔ accept .absent = .ok b) :
    field fields name default accept = .ok b ↔ accept (given fields name) = .ok b := by
  unfold field given
  rw [under_eq_ok]
  cases fields.lookup name with
  | some value => rfl
  | none =>
    rw [Option.getD_none, ← absence b]
    cases default with
    | some default => simp
    | none => simp [complain]

/-- A list of values that are accepted one by one is accepted as a whole. -/
theorem items_map {spell : β → Value} (accepted : ∀ b, accept (spell b) = .ok b) (index : Nat)
    (bs : List β) : items accept index (bs.map spell) = .ok bs := by
  induction bs generalizing index with
  | nil => rfl
  | cons b bs ih =>
    rw [List.map_cons, items, accepted b, ih (index + 1)]
    rfl

end Verdict

namespace Encoding

variable {fields : List (String × Value)} {e : Encoding Float}

/-! Elements. -/

/-- The ways to spell an element. A record of its own may have other fields as well. -/
inductive Spells (t : Element) : Value → Prop
  | triplet : Spells t (.list [.integer t.offset, .integer t.code, .integer t.interpretation])
  | record {fields : List (String × Value)}
      (offset : fields.lookup offsetField = some (.integer t.offset))
      (code : fields.lookup codeField = some (.integer t.code))
      (interpretation : fields.lookup interpretationField = some (.integer t.interpretation)) :
      Spells t (.record fields)

/-- An element record needs its three integers and nothing else. -/
theorem admitElement_of_lookup {t : Element}
    (offset : fields.lookup offsetField = some (.integer t.offset))
    (code : fields.lookup codeField = some (.integer t.code))
    (interpretation : fields.lookup interpretationField = some (.integer t.interpretation)) :
    admitElement fields = .ok t := by
  simp only [admitElement, Verdict.field, offset, code, interpretation]
  rfl

/-- An element that is spelled stands for a record that is admitted as the element. -/
theorem Spells.exists_record {t : Element} {value : Value} (h : Spells t value) :
    ∃ record, elementRecord? value = some record ∧ admitElement record = .ok t := by
  cases h with
  | triplet => exact ⟨_, rfl, admitElement_of_lookup rfl rfl rfl⟩
  | record offset code interpretation =>
    exact ⟨_, rfl, admitElement_of_lookup offset code interpretation⟩

theorem elementRecords_of_spells {elements : List Element} {values : List Value}
    (spelled : List.Forall₂ Spells elements values) (index : Nat) :
    ∃ records, elementRecords index values = .ok records ∧
      List.Forall₂ (fun t record => admitElement record = .ok t) elements records := by
  induction spelled generalizing index with
  | nil => exact ⟨[], rfl, .nil⟩
  | cons spells _ ih =>
    obtain ⟨record, stands, admitted⟩ := spells.exists_record
    obtain ⟨records, taken, all⟩ := ih (index + 1)
    refine ⟨record :: records, ?_, .cons admitted all⟩
    rw [elementRecords, stands, taken]
    rfl

theorem admitRecords_of_admitted {elements : List Element}
    {records : List (List (String × Value))}
    (admitted : List.Forall₂ (fun t record => admitElement record = .ok t) elements records)
    (index : Nat) : admitRecords index records = .ok elements := by
  induction admitted generalizing index with
  | nil => rfl
  | cons first _ ih =>
    rw [admitRecords, first, ih (index + 1)]
    rfl

/-- Every spelling of the elements, as triplets, as records or mixed, gives the elements. -/
theorem admitElements_of_spells {elements : List Element} {values : List Value}
    (spelled : List.Forall₂ Spells elements values) : admitElements values = .ok elements := by
  obtain ⟨records, taken, admitted⟩ := elementRecords_of_spells spelled 0
  rw [admitElements, taken]
  exact admitRecords_of_admitted admitted 0

/-! Records. -/

/-- What is given for all parts but the elements is admitted, the point from this value, and these
are the parts of the encoding. -/
structure AdmitsRest (fields : List (String × Value)) (point : Value) (e : Encoding Float) :
    Prop where
  typeCode : Verdict.ofInteger (given fields typeCodeField) = .ok e.typeCode
  srid : Verdict.optional Verdict.ofInteger (given fields sridField) = .ok e.srid
  point : Verdict.optional admitPoint point = .ok e.point
  ordinates : admitOrdinates (given fields ordinatesField) = .ok e.ordinates

def ofParts (parts : Int × Option Int × Option (CompactPoint Float) × List Element × List Float) :
    Encoding Float :=
  ⟨parts.1, parts.2.1, parts.2.2.1, parts.2.2.2.1, parts.2.2.2.2⟩

def verdict (fields : List (String × Value)) (values : List Value) :
    Verdict (Int × Option Int × Option (CompactPoint Float) × List Element × List Float) :=
  (Verdict.field fields typeCodeField none Verdict.ofInteger).both
    ((Verdict.field fields sridField (some none) (Verdict.optional Verdict.ofInteger)).both
      ((Verdict.field fields pointField (some none) (Verdict.optional admitPoint)).both
        (((admitElements values).under (.field elementsField)).both
          (Verdict.field fields ordinatesField (some []) admitOrdinates))))

/-- A record is accepted just if its elements are and the other parts are. -/
theorem verdict_eq_ok_iff {values : List Value} :
    verdict fields values = .ok (e.typeCode, e.srid, e.point, e.elements, e.ordinates) ↔
      AdmitsRest fields (given fields pointField) e ∧ admitElements values = .ok e.elements := by
  have typeCode : Verdict.field fields typeCodeField none Verdict.ofInteger = .ok e.typeCode ↔ _ :=
    Verdict.field_eq_ok fun b => by simp [Verdict.ofInteger, Verdict.complain]
  have srid : Verdict.field fields sridField (some none) (Verdict.optional Verdict.ofInteger) =
      .ok e.srid ↔ _ := Verdict.field_eq_ok fun b => by simp [Verdict.optional]
  have point : Verdict.field fields pointField (some none) (Verdict.optional admitPoint) =
      .ok e.point ↔ _ := Verdict.field_eq_ok fun b => by simp [Verdict.optional]
  have ordinates : Verdict.field fields ordinatesField (some []) admitOrdinates =
      .ok e.ordinates ↔ _ := Verdict.field_eq_ok fun b => by simp [admitOrdinates]
  simp only [verdict, Verdict.both_eq_ok, typeCode, srid, point, ordinates, Verdict.under_eq_ok]
  constructor
  · rintro ⟨typeCode, srid, point, elements, ordinates⟩
    exact ⟨⟨typeCode, srid, point, ordinates⟩, elements⟩
  · rintro ⟨⟨typeCode, srid, point, ordinates⟩, elements⟩
    exact ⟨typeCode, srid, point, elements, ordinates⟩

variable {values : List Value} (elements : elementValues fields = .ok values)
include elements

/-- Once the elements of a record can be gone through there are only verdicts on its parts. -/
theorem ofRecord_eq_verdict : ofRecord fields =
    ((verdict fields values).mapError (Refusal.issues title)).map ofParts := by
  rw [ofRecord, elements]
  dsimp only
  rw [← verdict]
  cases verdict fields values <;> rfl

/-- A record is admitted part by part. -/
theorem ofRecord_eq_ok_iff : ofRecord fields = .ok e ↔
    AdmitsRest fields (given fields pointField) e ∧ admitElements values = .ok e.elements := by
  rw [ofRecord_eq_verdict elements, ← verdict_eq_ok_iff]
  cases verdict fields values with
  | error issues => exact iff_of_false nofun nofun
  | ok parts =>
    obtain ⟨typeCode, srid, point, elements, ordinates⟩ := parts
    cases e
    simp [Except.mapError, Except.map, ofParts]

theorem ofRecord_ne_failure (failure : Failure) : ofRecord fields ≠ .error (.failure failure) := by
  rw [ofRecord_eq_verdict elements]
  cases verdict fields values <;> nofun

end Encoding

end TripletGeometry
