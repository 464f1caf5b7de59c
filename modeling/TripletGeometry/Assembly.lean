import TripletGeometry.Coordinates

/-!
From a flat list of ordinates to coordinates. The ordinates are taken in groups, one for each
coordinate; of a group as many ordinates are kept as the coordinates can hold, and the ordinates
for which the group has none are missing. A last group that is not complete is left out.
-/
namespace TripletGeometry.Assembly

variable {α : Type}

def groups (size : Nat) : Nat → List α → List (List α)
  | 0, _ => []
  | count + 1, ordinates => ordinates.take size :: groups size count (ordinates.drop size)

/-- There are as many groups as were asked for, also where the ordinates do not reach. -/
theorem length_groups (size count : Nat) (ordinates : List α) :
    (groups size count ordinates).length = count := by
  induction count generalizing ordinates with
  | zero => rfl
  | succ count ih => simp [groups, ih]

/-- The groups hold the ordinates in their order, as far as they reach. -/
theorem flatten_groups (size count : Nat) (ordinates : List α) :
    (groups size count ordinates).flatten = ordinates.take (size * count) := by
  induction count generalizing ordinates with
  | zero => simp [groups]
  | succ count ih =>
    rw [groups, List.flatten_cons, ih, Nat.mul_succ, Nat.add_comm, List.take_add]

/-- Groups that no ordinate is left for have to have a size all the same that a grid can have, where
memory is bounded. -/
def checkGroups (memory : Option Nat) (count native : Int) : Except Failure Unit :=
  if memory.isSome ∧ count = 0 then (Extent.bytes 0 native).map fun _ => () else .ok ()

/-- Without ordinates there is nothing to divide, so the group size does not matter. -/
def assemble [Ordinate α] (memory : Option Nat) (cap : Int) (ordinates : List α)
    (native output : Int) (checkLength : Bool) : Except Failure (Coordinates α) :=
  let length : Int := ordinates.length
  if ordinates.isEmpty then (Coordinates.makeCapped memory cap 0 output).map Coordinates.freeze
  else if native = 0 then .error (if checkLength then .zeroModulus else .zeroDivisor)
  else if checkLength ∧ ¬ native ∣ length then
    .error (.fault (.malformed (.partialCoordinate native ordinates.length) .unknown))
  else do
    let count := length.fdiv native
    let blank : Coordinates α ← Coordinates.makeCapped memory cap count output
    checkGroups memory count native
    return Coordinates.ofRows blank.width (groups native.toNat count.toNat ordinates)

end TripletGeometry.Assembly
