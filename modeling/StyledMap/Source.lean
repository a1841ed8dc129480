import StyledMap.Fault
import StyledMap.Json.Fields

/-! # Sources

* `Source` declares where data comes from: its type, a link to metadata, and data or a link to it.
* `Source.ofJson?` and `Source.toJson` read and write one; other members are kept in `extra`.
* `Source.mergedWith` fills in what a source leaves open from fetched metadata.
-/

set_option autoImplicit false

namespace StyledMap

/-- A declared source. -/
structure Source where
  type : String
  url : Option String
  data : Option Json
  extra : Table Json

namespace Source

def fieldNames : List String := ["type", "url", "data"]

def ofMembers? (members : Table Json) : Option Source := do
  return {
    type := ← Json.required? Json.asString? members "type"
    url := ← Json.optional? Json.asString? members "url"
    data := ← Json.optional? some members "data"
    extra := members.without fieldNames }

def ofJson? (value : Json) : Option Source :=
  value.asMembers?.bind ofMembers?

def fields (s : Source) : List (String × Json) :=
  [("type", .string s.type)] ++ Json.field .string "url" s.url ++
    Json.field (fun v => v) "data" s.data

def members (s : Source) : Table Json :=
  s.extra.extend s.fields

def toJson (s : Source) : Json :=
  .object s.members

def isGeoJson (s : Source) : Bool :=
  s.type == "geojson"

/-- The source with the members of `info` that it does not have itself. -/
def mergedWith (s : Source) (info : Table Json) : Except Fault Source :=
  match ofMembers? (info.extend s.members) with
  | some merged => .ok merged
  | none => .error .malformedDocument

end Source

end StyledMap
