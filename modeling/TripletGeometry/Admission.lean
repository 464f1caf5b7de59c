import TripletGeometry.Failure
import TripletGeometry.Value

/-!
Admitting loosely typed values as typed ones. A value that is not admitted draws issues, each with
a complaint and the place where it arose; the issues of several values are put together in their
order.
-/
namespace TripletGeometry

inductive Complaint where
  | missing
  | notInteger
  | integerText
  | oversized
  | fractional
  | notFinite
  | notNumber
  | numberText
  | notFlag
  | unclearFlag
  | notTuple
  | tooLong (limit given : Nat)
  | unusable (reason : String)
  | frozen
deriving DecidableEq, Repr

namespace Complaint

def code : Complaint → String
  | missing => "missing"
  | notInteger => "int_type"
  | integerText => "int_parsing"
  | oversized => "int_parsing_size"
  | fractional => "int_from_float"
  | notFinite => "finite_number"
  | notNumber => "float_type"
  | numberText => "float_parsing"
  | notFlag => "bool_type"
  | unclearFlag => "bool_parsing"
  | notTuple => "tuple_type"
  | tooLong .. => "too_long"
  | unusable _ => "value_error"
  | frozen => "frozen_instance"

def message : Complaint → String
  | missing => "Field required"
  | notInteger => "Input should be a valid integer"
  | integerText => "Input should be a valid integer, unable to parse string as an integer"
  | oversized => "Unable to parse input string as an integer, exceeded maximum size"
  | fractional => "Input should be a valid integer, got a number with a fractional part"
  | notFinite => "Input should be a finite number"
  | notNumber => "Input should be a valid number"
  | numberText => "Input should be a valid number, unable to parse string as a number"
  | notFlag => "Input should be a valid boolean"
  | unclearFlag => "Input should be a valid boolean, unable to interpret input"
  | notTuple => "Input should be a valid tuple"
  | tooLong limit given =>
    s!"Tuple should have at most {limit} items after validation, not {given}"
  | unusable reason => "Value error, " ++ reason
  | frozen => "Instance is frozen"

end Complaint

inductive Step where
  | field (name : String)
  | item (index : Nat)
deriving DecidableEq, Repr

structure Issue where
  place : List Step
  complaint : Complaint
deriving DecidableEq, Repr

/-- Why a whole record is not admitted: issues with its values, under the title of what it was
to be, or a failure before they could be looked at. -/
inductive Refusal where
  | issues (title : String) (issues : List Issue)
  | failure (failure : Failure)
deriving DecidableEq, Repr

abbrev Verdict (β : Type) := Except (List Issue) β

namespace Verdict

variable {β γ : Type}

def complain (complaint : Complaint) : Verdict β := .error [⟨[], complaint⟩]

def under (step : Step) : Verdict β → Verdict β
  | .ok value => .ok value
  | .error issues => .error (issues.map fun issue => { issue with place := step :: issue.place })

def issues : Verdict β → List Issue
  | .ok _ => []
  | .error issues => issues

def both (first : Verdict β) (second : Verdict γ) : Verdict (β × γ) :=
  match first, second with
  | .ok b, .ok c => .ok (b, c)
  | _, _ => .error (first.issues ++ second.issues)

theorem both_eq_ok {first : Verdict β} {second : Verdict γ} {values : β × γ} :
    first.both second = .ok values ↔ first = .ok values.1 ∧ second = .ok values.2 := by
  cases first <;> cases second <;> simp [both, Prod.ext_iff]

def items (accept : Value → Verdict β) (index : Nat) : List Value → Verdict (List β)
  | [] => .ok []
  | value :: rest =>
    ((accept value).under (.item index)).both (items accept (index + 1) rest)
      |>.map fun (b, bs) => b :: bs

/-- A field of a record, which is there unless a default stands in for it. -/
def field (fields : List (String × Value)) (name : String) (absent : Option β)
    (accept : Value → Verdict β) : Verdict β :=
  under (.field name) <|
    match fields.lookup name, absent with
    | some value, _ => accept value
    | none, some default => .ok default
    | none, none => complain .missing

def optional (accept : Value → Verdict β) : Value → Verdict (Option β)
  | .absent => .ok none
  | value => (accept value).map some

end Verdict

def Value.parts (value : Value) : Except Failure (List Value) :=
  match value.parts? with
  | some parts => .ok parts
  | none => .error (.notIterable value.typeName)

end TripletGeometry
