import TripletGeometry.Admission
import TripletGeometry.Decimal.Grouped
import TripletGeometry.Word

/-!
Admitting integers, numbers and flags, each from several types of value. Integers and numbers may be
given as they are typed in; flags may be given as one of a few words in any case. Integers as such
may be of any size, but doubles stand only for the integers inside the range of words.
-/
namespace TripletGeometry.Verdict

def isInsideWords (n : Int) : Bool := -wordLimit < n && n < wordLimit

def ofInteger : Value → Verdict Int
  | .integer n => .ok n
  | .flag b => .ok (if b then 1 else 0)
  | .number x =>
    let binary := Decimal.Binary.ofFloat x
    match binary.integer? with
    | some n => if isInsideWords n then .ok n else complain .oversized
    | none => complain (if binary.isFinite then .fractional else .notFinite)
  | .text s =>
    if Decimal.isOversized s.toList then complain .oversized
    else match Decimal.typedInteger? s.toList with
      | some n => .ok n
      | none => complain .integerText
  | _ => complain .notInteger

/-- Integers are rounded to the nearest double; those beyond all doubles are no numbers. -/
def ofNumber : Value → Verdict Float
  | .number x => .ok x
  | .integer n => match Decimal.nearest? n with
    | some x => .ok x
    | none => complain .notNumber
  | .flag b => .ok (if b then 1.0 else 0.0)
  | .text s => match Decimal.typedFloat? s.toList with
    | some x => .ok x
    | none => complain .numberText
  | _ => complain .notNumber

def trueWords : List String := ["1", "on", "t", "true", "y", "yes"]

def falseWords : List String := ["0", "off", "f", "false", "n", "no"]

/-- A number may be an unclear flag only if it is a word. -/
def ofFlagNumber (n : Int) : Verdict Bool :=
  if n = 0 then .ok false
  else if n = 1 then .ok true
  else complain (if IsWord n then .unclearFlag else .notFlag)

def ofFlag : Value → Verdict Bool
  | .flag b => .ok b
  | .integer n => ofFlagNumber n
  | .number x => match (Decimal.Binary.ofFloat x).integer? with
    | some n => if isInsideWords n then ofFlagNumber n else complain .notFlag
    | none => complain .notFlag
  | .text s =>
    let word := s.toLower
    if trueWords.contains word then .ok true
    else if falseWords.contains word then .ok false
    else complain .unclearFlag
  | _ => complain .notFlag

end TripletGeometry.Verdict
