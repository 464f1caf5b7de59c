import TripletGeometry.Admission.Scalar
import TripletGeometry.Admission.Signature
import TripletGeometry.Assembly
import TripletGeometry.Encoding

/-!
Encodings from loosely typed values: from a record of their parts, in which each element may be a
triplet or a record of its own, and from the flat arrays in which they are stored.
-/
namespace TripletGeometry.Encoding

def title : String := "GeometryEncoding"

def typeCodeField : String := "gtype"
def sridField : String := "srid"
def pointField : String := "point"
def elementsField : String := "elements"
def ordinatesField : String := "ordinates"
def flatElementsField : String := "elem_info"

def offsetField : String := "starting_offset"
def codeField : String := "element_type"
def interpretationField : String := "interpretation"

def tupleItem {β : Type} (items : List Value) (index : Nat) (accept : Value → Verdict β) :
    Verdict β :=
  Verdict.under (.item index) <|
    match items[index]? with
    | some value => accept value
    | none => Verdict.complain .missing

/-- Two items stand for x and y; z is then absent. -/
def admitPoint : Value → Verdict (CompactPoint Float)
  | .list items =>
    let items := if items.length = 2 then items ++ [.absent] else items
    if 3 < items.length then Verdict.complain (.tooLong 3 items.length)
    else
      ((tupleItem items 0 Verdict.ofNumber).both
        ((tupleItem items 1 Verdict.ofNumber).both
          (tupleItem items 2 (Verdict.optional Verdict.ofNumber)))).map
        fun (x, y, z) => ⟨x, y, z⟩
  | _ => Verdict.complain .notTuple

def admitElement (fields : List (String × Value)) : Verdict Element :=
  ((Verdict.field fields offsetField none Verdict.ofInteger).both
    ((Verdict.field fields codeField none Verdict.ofInteger).both
      (Verdict.field fields interpretationField none Verdict.ofInteger))).map
    fun (offset, code, interpretation) => ⟨offset, code, interpretation⟩

def elementRecord? : Value → Option (List (String × Value))
  | .record fields => some fields
  | .list [offset, code, interpretation] =>
    some [(offsetField, offset), (codeField, code), (interpretationField, interpretation)]
  | _ => none

def notTriplet (index : Nat) (element : Value) : Complaint :=
  .unusable (s!"elements[{index}] must be a (starting_offset, element_type, interpretation) " ++
    "triplet, got " ++ element.printed)

/-- Every element has to stand for a record before any of the records is looked at. -/
def elementRecords (index : Nat) : List Value → Verdict (List (List (String × Value)))
  | [] => .ok []
  | element :: rest =>
    match elementRecord? element with
    | none => Verdict.complain (notTriplet index element)
    | some record => (elementRecords (index + 1) rest).map (record :: ·)

def admitRecords (index : Nat) : List (List (String × Value)) → Verdict (List Element)
  | [] => .ok []
  | record :: rest =>
    ((admitElement record).under (.item index)).both (admitRecords (index + 1) rest)
      |>.map fun (e, es) => e :: es

def admitElements (elements : List Value) : Verdict (List Element) :=
  (elementRecords 0 elements).bind (admitRecords 0)

def admitOrdinates : Value → Verdict (List Float)
  | .absent => .ok []
  | .list items => Verdict.items Verdict.ofNumber 0 items
  | _ => Verdict.complain .notTuple

def elementValues (fields : List (String × Value)) : Except Failure (List Value) :=
  match fields.lookup elementsField with
  | none | some .absent => .ok []
  | some value => value.parts

/-- The parts of an encoding from a record. Fields with other names are ignored. -/
def ofRecord (fields : List (String × Value)) : Except Refusal (Encoding Float) :=
  match elementValues fields with
  | .error failure => .error (.failure failure)
  | .ok elements =>
    let verdict :=
      (Verdict.field fields typeCodeField none Verdict.ofInteger).both
        ((Verdict.field fields sridField (some none) (Verdict.optional Verdict.ofInteger)).both
          ((Verdict.field fields pointField (some none) (Verdict.optional admitPoint)).both
            (((admitElements elements).under (.field elementsField)).both
              (Verdict.field fields ordinatesField (some []) admitOrdinates))))
    match verdict with
    | .error issues => .error (.issues title issues)
    | .ok (typeCode, srid, point, elements, ordinates) =>
      .ok ⟨typeCode, srid, point, elements, ordinates⟩

/-- The values of a flat array; nothing, zero and whatever is empty stand for none. -/
def flatValues (value : Value) : Except Failure (List Value) :=
  if value.isVoid then .ok [] else value.parts

def triplets (values : List Value) : Except Failure (List Value) :=
  if values.length % 3 = 0 then
    .ok ((Assembly.groups 3 (values.length / 3) values).map .list)
  else .error (.fault (.malformed (.partialTriplet values.length 3) .unknown))

/-- A point may be given as anything that has parts. -/
def pointTuple : Value → Except Failure Value
  | .absent => .ok .absent
  | value => value.parts.map .list

/-- The arrays that are stored; only the type code has to be among them. -/
def arraysSignature : Signature :=
  ⟨title ++ ".from_sdo()", [typeCodeField],
    [sridField, pointField, flatElementsField, ordinatesField]⟩

/-- The arrays are taken apart before the values in them are looked at, the elements first. -/
def recordOfArrays (arrays : List (String × Value)) :
    Except Failure (List (String × Value)) := do
  arraysSignature.check (arrays.map Prod.fst)
  let given (name : String) : Value := (arrays.lookup name).getD .absent
  let flat ← flatValues (given flatElementsField)
  let elements ← triplets flat
  let point ← pointTuple (given pointField)
  return [(typeCodeField, given typeCodeField), (sridField, given sridField), (pointField, point),
    (elementsField, .list elements), (ordinatesField, given ordinatesField)]

def ofArrays (arrays : List (String × Value)) : Except Refusal (Encoding Float) :=
  match recordOfArrays arrays with
  | .error failure => .error (.failure failure)
  | .ok fields => ofRecord fields

/-- No part of an encoding can be replaced. What is private is none of its parts: an encoding takes
it and stays as it is. -/
def assign (e : Encoding Float) (name : String) : Except Refusal (Encoding Float) :=
  if name.toList.head? = some '_' then .ok e else .error (.issues title [⟨[.field name], .frozen⟩])

end TripletGeometry.Encoding
