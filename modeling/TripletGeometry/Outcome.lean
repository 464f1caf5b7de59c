import TripletGeometry.Failure

/-!
The outcome of a decoding: a geometry, or the fault that stopped it. A geometry may also be absent
without a fault, for an absent encoding.
-/
namespace TripletGeometry

structure Outcome (γ : Type) where
  geometry : Option γ
  fault : Option Fault

namespace Outcome

variable {γ : Type}

def isValid (outcome : Outcome γ) : Bool := outcome.fault.isNone

def faultKind? (outcome : Outcome γ) : Option FaultKind := outcome.fault.bind Fault.kind?

/-- A fault goes before a geometry. -/
def unwrap (outcome : Outcome γ) : Except Failure (Option γ) :=
  match outcome.fault with
  | some fault => .error (.fault fault)
  | none => .ok outcome.geometry

def ofResult : Except Failure (Option γ) → Except Failure (Outcome γ)
  | .ok geometry => .ok ⟨geometry, none⟩
  | .error (.fault fault) => .ok ⟨none, some fault⟩
  | .error failure => .error failure

end Outcome

end TripletGeometry
