/-!
The kinds of geometry that are read, by the names used in messages.
-/
namespace TripletGeometry

inductive Kind where
  | point
  | lineString
  | linearRing
  | polygon
  | multiPoint
  | multiLineString
  | multiPolygon
  | geometryCollection
deriving DecidableEq, Repr

namespace Kind

def name : Kind → String
  | .point => "Point"
  | .lineString => "LineString"
  | .linearRing => "LinearRing"
  | .polygon => "Polygon"
  | .multiPoint => "MultiPoint"
  | .multiLineString => "MultiLineString"
  | .multiPolygon => "MultiPolygon"
  | .geometryCollection => "GeometryCollection"

end Kind

end TripletGeometry
