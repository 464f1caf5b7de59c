/-!
Element triplets: the 1-based offset of the element's first ordinate, the code of its type, and
its interpretation. Codes are any integers; the ones with a meaning have names.
-/
namespace TripletGeometry

structure Element where
  offset : Int
  code : Int
  interpretation : Int
deriving DecidableEq, Repr

namespace Element

def text (e : Element) : String := s!"{e.offset},{e.code},{e.interpretation}"

def numbers (e : Element) : List Int := [e.offset, e.code, e.interpretation]

def listText (elements : List Element) : String :=
  "(" ++ ", ".intercalate (elements.map text) ++ ")"

end Element

namespace ElementCode

abbrev finish : Int := -1
abbrev custom : Int := 0
abbrev point : Int := 1
abbrev line : Int := 2
abbrev ring : Int := 3
abbrev compoundLine : Int := 4
abbrev shell : Int := 1003
abbrev hole : Int := 2003
abbrev compoundShell : Int := 1005
abbrev compoundHole : Int := 2005

abbrev shells : List Int := [ring, shell]

abbrev rings : List Int := [ring, shell, hole]

end ElementCode

namespace Interpretation

abbrev finish : Int := -1
abbrev simple : Int := 1
abbrev arc : Int := 2
abbrev rectangle : Int := 3
abbrev circle : Int := 4

abbrev rings : List Int := [simple, rectangle]

end Interpretation

end TripletGeometry
