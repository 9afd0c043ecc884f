/-
# Solids

The built-in schemas of “3D solids”. Solids are made by one call, moved to their
position and appended.
-/

import DraftScript.Catalogue.Entry

namespace DraftScript
namespace Catalogue

/-- The category of solids. -/
def solids : String := "3D solids"

/-- The lines that make a solid by a call, move it to its position and append it. -/
def solid (entity create : String) : List String :=
  ["Solid3d " ++ entity ++ " = new Solid3d();",
   entity ++ "." ++ create ++ ";",
   entity ++ ".TransformBy(Matrix3d.Displacement(new Vector3d({position})));"] ++
  append entity

/-- The entries of `solids`. -/
def solidEntries : List Entry := [
  entry "BOX" solids "Rectangular box"
    [number "width" 1, number "height" 1, number "depth" 1, position]
    (solid "box" "CreateBox({width}, {height}, {depth})"),
  entry "SPHERE" solids "Sphere"
    [number "radius" 1, position]
    (solid "sphere" "CreateSphere({radius})"),
  entry "CYLINDER" solids "Cylinder along Z"
    [number "radius" 1, number "height" 1, position]
    (solid "cylinder" "CreateFrustum({height}, {radius}, {radius}, {radius})"),
  entry "CONE" solids "Cone along Z"
    [number "radius" 1, number "height" 1, position]
    (solid "cone" "CreateFrustum({height}, {radius}, {radius}, 0)"),
  entry "TORUS" solids "Torus"
    [number "majorRadius" 2, number "minorRadius" (1 / 2), position]
    (solid "torus" "CreateTorus({majorRadius}, {minorRadius})"),
  entry "WEDGE" solids "Wedge"
    [number "length" 2, number "width" 1, number "height" 1, position]
    (solid "wedge" "CreateWedge({length}, {width}, {height})"),
  entry "PYRAMID" solids "Regular pyramid"
    [number "radius" 1, number "height" 2, count "sides" 4, position]
    (solid "pyramid" "CreatePyramid({height}, {sides}, {radius}, 0)")]

end Catalogue
end DraftScript
