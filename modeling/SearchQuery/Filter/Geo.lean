import SearchQuery.Filter.Field

/-!
# Conditions on places

A place is a longitude and a latitude within the limits of the engine's
projection. A radius condition writes its numbers in shortest digits; a
box condition writes its corners with six places.
-/

namespace SearchQuery

/-- A unit of distance. -/
inductive GeoUnit where
  | metres
  | kilometres
  | miles
  | feet
deriving DecidableEq, Repr

namespace GeoUnit

/-- The canonical name. -/
def name : GeoUnit → String
  | metres => "m"
  | kilometres => "km"
  | miles => "mi"
  | feet => "ft"

instance : Keyword GeoUnit where
  kind := "geo unit"
  all := [metres, kilometres, miles, feet]
  name := name

/-- The unit of a name, which may have white space around it. -/
def read (s : String) : Except Invalid GeoUnit :=
  match Keyword.find? (Text.trim s) with
  | some unit => .ok unit
  | none => .error (.unknownKeyword (Keyword.kind GeoUnit) s)

end GeoUnit

namespace Filter

/-- The greatest longitude. -/
def maxLongitude : Double := Binary.ofInt 180

/-- The greatest latitude of the projection. -/
def maxLatitude : Double := Decimal.toBinary ⟨false, 8505112878, -8⟩

/-- A coordinate that does not pass its limit on either side. -/
def withinLimit (what : String) (limit x : Double) : Except Invalid Unit :=
  if limit.neg.le x && x.le limit then .ok () else .error (.outOfRange what (.beyondLimit x limit))

/-- A place that the engine knows. The longitude is checked first. -/
def checkPlace (lon lat : Double) : Except Invalid Unit := do
  withinLimit "longitude" maxLongitude lon
  withinLimit "latitude" maxLatitude lat

/-- A circle around a place. -/
def circle (ref : String) (lon lat radius : Double) (unit : GeoUnit) : Except Invalid String := do
  checkPlace lon lat
  if radius.isFinite && radius.isPositive then
    return ref ++ ":[" ++ Double.literal lon ++ " " ++ Double.literal lat ++ " "
      ++ Double.literal radius ++ " " ++ unit.name ++ "]"
  else throw (.outOfRange "geo radius" (.notDistance radius))

/-- The field is within a distance of a place. -/
def withinRadius (field : String) (lon lat radius : Double) (unit : GeoUnit) :
    Except Invalid Filter := do
  let ref ← fieldRef field
  let circle ← circle ref lon lat radius unit
  return leaf ⟨.geo, field, circle⟩

/-- The field is farther than a distance from a place. -/
def outsideRadius (field : String) (lon lat radius : Double) (unit : GeoUnit) :
    Except Invalid Filter := do
  let ref ← fieldRef field
  let circle ← circle ref lon lat radius unit
  return leaf ⟨.geo, field, "-" ++ circle⟩

/-- How many places the corners of a box have. -/
def boxPlaces : Nat := 6

/-- The field is inside a box, whose first corner does not pass its second
on either axis. -/
def withinBox (field : String) (minLon minLat maxLon maxLat : Double) : Except Invalid Filter := do
  let ref ← fieldRef field
  checkPlace minLon minLat
  checkPlace maxLon maxLat
  if maxLon.lt minLon || maxLat.lt minLat then
    throw (.outOfRange "geo box" .cornersSwapped)
  let corners := [minLon, minLat, maxLon, maxLat].map (Double.fixed boxPlaces)
  return leaf ⟨.geo, field, ref ++ ":[" ++ " ".intercalate corners ++ "]"⟩

end Filter

end SearchQuery
