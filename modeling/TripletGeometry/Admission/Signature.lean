import TripletGeometry.Failure

/-!
Signatures of calls whose arguments are given by name: which arguments have to be there, and which
others may be. A name that is not known is noticed before one that is missing.
-/
namespace TripletGeometry

structure Signature where
  call : String
  required : List String
  optional : List String

def Signature.knows (signature : Signature) (name : String) : Bool :=
  (signature.required ++ signature.optional).contains name

def Signature.check (signature : Signature) (given : List String) : Except Failure Unit :=
  match given.find? (!signature.knows ·) with
  | some name => .error (.unexpectedArgument signature.call name)
  | none =>
    let missing := signature.required.filter (!given.contains ·)
    if missing.isEmpty then .ok () else .error (.missingArguments signature.call missing)

end TripletGeometry
