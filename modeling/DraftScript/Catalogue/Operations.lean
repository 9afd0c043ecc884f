/-
# Layers, transformations, boolean operations and views

The built-in schemas of “Organization”, “Transformations”, “Boolean operations” and
“Materials and visualization”.
-/

import DraftScript.Catalogue.Entry

namespace DraftScript
namespace Catalogue

/-- The category of layers and groups. -/
def organization : String := "Organization"

/-- The entries of `organization`. -/
def organizationEntries : List Entry := [
  entry "LAYER" organization "Create a layer if it does not exist"
    [text "name" "Layer1", color "color" 255 255 255]
    ["LayerTable lt = (LayerTable)tr.GetObject(db.LayerTableId, OpenMode.ForWrite);",
     "if (!lt.Has(\"{name}\"))",
     "\x7b\x7b",
     "    LayerTableRecord ltr = new LayerTableRecord();",
     "    ltr.Name = \"{name}\";",
     "    ltr.Color = Color.FromRgb({color});",
     "    lt.Add(ltr);",
     "    tr.AddNewlyCreatedDBObject(ltr, true);",
     "\x7d\x7d"],
  entry "GROUP" organization "Named group"
    [text "name" "Group1", text "description" "Generated Group"]
    ["Group group = new Group(\"{description}\", true);",
     "DBDictionary groupDict = (DBDictionary)tr.GetObject(db.GroupDictionaryId, OpenMode.ForWrite);",
     "groupDict.SetAt(\"{name}\", group);",
     "tr.AddNewlyCreatedDBObject(group, true);"]]

/-- The category of transformations. -/
def transformations : String := "Transformations"

/-- The entries of `transformations`. -/
def transformationEntries : List Entry := [
  derivedEntry "MOVE" transformations "Displacement matrix between two points"
    [origin "from", point "to" 1 1 0]
    ["Vector3d moveVector = new Vector3d({offset});",
     "Matrix3d moveMatrix = Matrix3d.Displacement(moveVector);",
     "// Apply to selected objects: entity.TransformBy(moveMatrix);"]
    [("offset", .displacement "from" "to")],
  derivedEntry "ROTATE" transformations "Rotation matrix about an axis"
    [origin "center", angle "angle" 0, vector "axis" 0 0 1]
    ["Point3d rotationCenter = new Point3d({center});",
     "Vector3d rotationAxis = new Vector3d({axis});",
     "Matrix3d rotationMatrix = Matrix3d.Rotation({angleRadians}, rotationAxis, rotationCenter);",
     "// Apply to selected objects: entity.TransformBy(rotationMatrix);"]
    [inRadians "angleRadians" "angle"],
  entry "SCALE" transformations "Uniform scaling matrix"
    [origin "center", number "factor" 1]
    ["Point3d scaleCenter = new Point3d({center});",
     "Matrix3d scaleMatrix = Matrix3d.Scaling({factor}, scaleCenter);",
     "// Apply to selected objects: entity.TransformBy(scaleMatrix);"],
  entry "MIRROR" transformations "Mirror matrix across a line"
    [origin "point1", point "point2" 1 0 0]
    ["Point3d mirrorPt1 = new Point3d({point1});",
     "Point3d mirrorPt2 = new Point3d({point2});",
     "Line3d mirrorLine = new Line3d(mirrorPt1, mirrorPt2);",
     "Matrix3d mirrorMatrix = Matrix3d.Mirroring(mirrorLine);",
     "// Apply to selected objects: entity.TransformBy(mirrorMatrix);"],
  entry "ARRAY_RECTANGULAR" transformations "Rectangular array offsets"
    [count "rows" 3, count "cols" 3, number "rowSpacing" 5, number "colSpacing" 5]
    ["// Rectangular array - repeat for each row and column",
     "for (int row = 0; row < {rows}; row++)",
     "\x7b\x7b",
     "    for (int col = 0; col < {cols}; col++)",
     "    \x7b\x7b",
     "        Vector3d offset = new Vector3d(col * {colSpacing}, row * {rowSpacing}, 0);",
     "        Matrix3d transform = Matrix3d.Displacement(offset);",
     "        // Clone and transform entity",
     "    \x7d\x7d",
     "\x7d\x7d"],
  derivedEntry "ARRAY_POLAR" transformations "Polar array rotations"
    [origin "center", count "count" 6, angle "angle" 360]
    ["Point3d arrayCenter = new Point3d({center});",
     "double angleStep = {angleRadians} / {count};",
     "for (int i = 0; i < {count}; i++)",
     "\x7b\x7b",
     "    double currentAngle = i * angleStep;",
     "    Matrix3d transform = Matrix3d.Rotation(currentAngle, Vector3d.ZAxis, arrayCenter);",
     "    // Clone and transform entity",
     "\x7d\x7d"]
    [inRadians "angleRadians" "angle"]]

/-- The category of boolean operations. -/
def booleans : String := "Boolean operations"

/-- The entries of `booleans`. -/
def booleanEntries : List Entry := [
  entry "UNION" booleans "Boolean union of two solids"
    []
    ["// Boolean Union - requires two Solid3d objects",
     "// solid1.BooleanOperation(BooleanOperationType.BoolUnite, solid2);"],
  entry "SUBTRACT" booleans "Boolean subtract of two solids"
    []
    ["// Boolean Subtract - requires two Solid3d objects",
     "// solid1.BooleanOperation(BooleanOperationType.BoolSubtract, solid2);"],
  entry "INTERSECT" booleans "Boolean intersect of two solids"
    []
    ["// Boolean Intersect - requires two Solid3d objects",
     "// solid1.BooleanOperation(BooleanOperationType.BoolIntersect, solid2);"]]

/-- The category of materials, lights and views. -/
def visualization : String := "Materials and visualization"

/-- The entries of `visualization`. -/
def visualizationEntries : List Entry := [
  entry "MATERIAL" visualization "Material with a diffuse color"
    [text "name" "CustomMaterial", color "color" 128 128 128]
    ["// Material creation",
     "Material material = new Material();",
     "material.Name = \"{name}\";",
     "material.Diffuse = new MaterialColor(Color.FromRgb({color}));"],
  entry "LIGHT" visualization "Point light"
    [point "position" 0 0 10, number "intensity" 1]
    (["Light light = new Light();",
      "light.Position = new Point3d({position});",
      "light.Intensity = {intensity};"] ++
      append "light"),
  entry "CAMERA" visualization "View looking at a target"
    [point "position" 0 0 10, origin "target"]
    ["// Camera setup",
     "ViewTableRecord view = new ViewTableRecord();",
     "view.CenterPoint = new Point2d({target.x}, {target.y});",
     "view.Target = new Point3d({target});"]]

end Catalogue
end DraftScript
