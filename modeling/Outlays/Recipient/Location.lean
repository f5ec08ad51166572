import Outlays.Json.Reader

/-!
# Locations

The address and the congressional district of a recipient. Old records hold a country's name
where its code belongs, and write a district as `13`, `13.0` or `CA13`; cleaning up leaves the
code of the country and the number of the district.

## Main definitions

* `Location`, `Location.normalised`, `Location.countryToName`
-/

namespace Outlays

/-- An address and a congressional district; what is not known is `none`. -/
structure Location where
  addressLine1 : Option String := none
  addressLine2 : Option String := none
  addressLine3 : Option String := none
  foreignProvince : Option String := none
  cityName : Option String := none
  countyName : Option String := none
  stateCode : Option String := none
  zip : Option String := none
  zip4 : Option String := none
  foreignPostalCode : Option String := none
  countryName : Option String := none
  countryCode : Option String := none
  congressionalCode : Option String := none
  deriving DecidableEq, Repr

namespace Location

/-- The code of a country, where old records may hold a name. -/
def cleanCountry (code : String) : String := if code = "UNITED STATES" then "USA" else code

/-- The characters before the last point; all of them when there is none. -/
def beforeLastPoint (cs : List Char) : List Char :=
  if cs.contains '.' then ((cs.reverse.dropWhile (· != '.')).drop 1).reverse else cs

/-- The number of a congressional district, without a fraction and without the two letters of a
state in front. -/
def cleanDistrict (code : String) : String :=
  let whole := beforeLastPoint code.toList
  String.ofList (if whole.length = 4 then whole.drop 2 else whole)

/-- The location with its country code and its district cleaned up. -/
def normalised (l : Location) : Location :=
  { l with
    countryCode := l.countryCode.map cleanCountry
    congressionalCode := l.congressionalCode.map cleanDistrict }

/-- The country code whose name is missing, if there is one to look up. -/
def countryToName (l : Location) : Option String :=
  match l.countryCode, l.countryName with
  | some code, none => if code = "" then none else some code
  | _, _ => none

/-- The fields of a location with their names, in their usual order. -/
def fields (l : Location) : List (String × Option String) := [
  ("address_line1", l.addressLine1), ("address_line2", l.addressLine2),
  ("address_line3", l.addressLine3), ("foreign_province", l.foreignProvince),
  ("city_name", l.cityName), ("county_name", l.countyName), ("state_code", l.stateCode),
  ("zip", l.zip), ("zip4", l.zip4), ("foreign_postal_code", l.foreignPostalCode),
  ("country_name", l.countryName), ("country_code", l.countryCode),
  ("congressional_code", l.congressionalCode)]

/-- The location as JSON, every field present. -/
def toJson (l : Location) : Json := .obj (l.fields.map fun f => (f.1, .option .str f.2))

/-- The declared fields of a location. -/
def shape : Json.Shape :=
  ({} : Location).fields.map fun f => { name := f.1, absence := .null }

/-- Reads a location. -/
def read : Json.Reader Location := fun j => do
  let r ← Json.Record.read shape j
  let text (name : String) := r.may name Json.Reader.text
  return {
    addressLine1 := ← text "address_line1"
    addressLine2 := ← text "address_line2"
    addressLine3 := ← text "address_line3"
    foreignProvince := ← text "foreign_province"
    cityName := ← text "city_name"
    countyName := ← text "county_name"
    stateCode := ← text "state_code"
    zip := ← text "zip"
    zip4 := ← text "zip4"
    foreignPostalCode := ← text "foreign_postal_code"
    countryName := ← text "country_name"
    countryCode := ← text "country_code"
    congressionalCode := ← text "congressional_code" }

end Location

end Outlays
