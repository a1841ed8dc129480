import StyledMap.Feature

/-! # Sample data

Features and stops that follow a simple pattern, for measurements and checks.

* `landuseFeatures` cycles through classes of land use.
* `numericStops` and `colorStops` are stops at equal distances.
-/

set_option autoImplicit false

namespace StyledMap.Sample

def classes : List String := ["park", "wood", "water", "residential", "industrial"]

/-- The feature of an index: a polygon with a class, a height and a name. -/
def landuseFeature (i : Nat) : Feature :=
  ⟨some (Json.natural i), .polygon, Table.ofList [
    ("class", .string (classes.getD (i % classes.length) "")),
    ("height", Json.natural (i * 7 % 200)),
    ("name", .string s!"feature-{i}")]⟩

def landuseFeatures (count : Nat) : List Feature :=
  (List.range count).map landuseFeature

def featureWith (geometry : Geometry) (properties : Table Json) : Feature :=
  ⟨none, geometry, properties⟩

/-- Stops at multiples of `step`; the output is the input times `scale`. -/
def numericStops (count : Nat) (step scale : Float) : Json :=
  .array ((List.range count).map fun i =>
    let x := Float.ofNat i * step
    .array [Json.ofFloat x, Json.ofFloat (x * scale)])

/-- Stops at multiples of `step` that alternate between black and white. -/
def colorStops (count : Nat) (step : Float) : Json :=
  .array ((List.range count).map fun i =>
    .array [Json.ofFloat (Float.ofNat i * step),
      .string (if i % 2 = 0 then "#000000" else "#ffffff")])

end StyledMap.Sample
