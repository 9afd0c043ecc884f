/-
# Surfaces, points, blocks and other entities

The built-in schemas of “Surfaces and regions”, “Points and blocks” and “Advanced
entities”.
-/

import DraftScript.Catalogue.Entry

namespace DraftScript
namespace Catalogue

/-- The category of surfaces and regions. -/
def surfaces : String := "Surfaces and regions"

/-- The entries of `surfaces`. -/
def surfaceEntries : List Entry := [
  derivedEntry "HATCH" surfaces "Pattern hatch (boundary added separately)"
    [text "pattern" "SOLID", number "scale" 1, angle "angle" 0]
    (["Hatch hatch = new Hatch();",
      "hatch.SetHatchPattern(HatchPatternType.PreDefined, \"{pattern}\");",
      "hatch.PatternScale = {scale};",
      "hatch.PatternAngle = {angleRadians};",
      "// Note: Boundary must be added after creation"] ++
      append "hatch")
    [inRadians "angleRadians" "angle"],
  entry "REGION" surfaces "Region from existing curves"
    []
    ["// Region creation requires existing curves",
     "// Use Region.CreateFromCurves() with curve collection"],
  entry "SURFACE" surfaces "Planar surface"
    [number "width" 10, number "height" 10, position]
    (["PlaneSurface surface = new PlaneSurface();",
      "surface.CreateByWidthHeight(new Point3d({position}),",
      "    Vector3d.XAxis, Vector3d.YAxis, {width}, {height});"] ++
      append "surface"),
  entry "MESH" surfaces "Subdivision mesh"
    [count "subdivisionLevel" 0]
    (["SubDMesh mesh = new SubDMesh();",
      "mesh.SubDivisionLevel = {subdivisionLevel};",
      "// Note: Vertices and faces must be added after creation"] ++
      append "mesh")]

/-- The category of points and block references. -/
def blocks : String := "Points and blocks"

/-- The entries of `blocks`. -/
def blockEntries : List Entry := [
  entry "POINT" blocks "Point entity"
    [position]
    (["DBPoint point = new DBPoint();",
      "point.Position = new Point3d({position});"] ++
      append "point"),
  derivedEntry "BLOCK_REF" blocks "Insert a reference to an existing block"
    [text "blockName" "TestBlock", position, number "scale" 1, angle "rotation" 0]
    ["// Block reference requires existing block definition",
     "BlockTable blockTable = (BlockTable)tr.GetObject(db.BlockTableId, OpenMode.ForRead);",
     "if (blockTable.Has(\"{blockName}\"))",
     "\x7b\x7b",
     "    BlockReference blockRef = new BlockReference(",
     "        new Point3d({position}), blockTable[\"{blockName}\"]);",
     "    blockRef.ScaleFactors = new Scale3d({scale});",
     "    blockRef.Rotation = {rotationRadians};",
     "    btr.AppendEntity(blockRef);",
     "    tr.AddNewlyCreatedDBObject(blockRef, true);",
     "\x7d\x7d"]
    [inRadians "rotationRadians" "rotation"]]

/-- The category of entities with several vertices. -/
def advanced : String := "Advanced entities"

/-- The entries of `advanced`. -/
def advancedEntries : List Entry := [
  entry "LEADER" advanced "Two-vertex leader"
    [origin "start", point "end" 5 5 0]
    (["Leader leader = new Leader();",
      "leader.AppendVertex(new Point3d({start}));",
      "leader.AppendVertex(new Point3d({end}));"] ++
      append "leader"),
  entry "MLEADER" advanced "Multileader with text"
    [position, text "text" "Leader Text"]
    (["MLeader mleader = new MLeader();",
      "mleader.SetDatabaseDefaults();",
      "// MLeader setup requires more complex configuration"] ++
      append "mleader"),
  entry "MLINE" advanced "Two-vertex multiline"
    [origin "start", point "end" 10 0 0]
    (["Mline mline = new Mline();",
      "mline.AppendVertex(new Point3d({start}));",
      "mline.AppendVertex(new Point3d({end}));"] ++
      append "mline"),
  entry "TRACE" advanced "Four-point trace"
    [origin "point1", point "point2" 1 0 0, point "point3" 1 1 0, point "point4" 0 1 0]
    (["Trace trace = new Trace();",
      "trace.SetPointAt(0, new Point3d({point1}));",
      "trace.SetPointAt(1, new Point3d({point2}));",
      "trace.SetPointAt(2, new Point3d({point3}));",
      "trace.SetPointAt(3, new Point3d({point4}));"] ++
      append "trace"),
  entry "SOLID" advanced "Four-point 2D solid fill"
    [origin "point1", point "point2" 1 0 0, point "point3" 1 1 0, point "point4" 0 1 0]
    (["Solid solid2d = new Solid();",
      "solid2d.SetPointAt(0, new Point3d({point1}));",
      "solid2d.SetPointAt(1, new Point3d({point2}));",
      "// Third and fourth vertices are swapped: SOLID fills in zig-zag order",
      "solid2d.SetPointAt(2, new Point3d({point4}));",
      "solid2d.SetPointAt(3, new Point3d({point3}));"] ++
      append "solid2d"),
  entry "FACE" advanced "Four-vertex 3D face"
    [origin "point1", point "point2" 1 0 0, point "point3" 1 1 0, point "point4" 0 1 0]
    (["Face face = new Face();",
      "face.SetVertexAt(0, new Point3d({point1}));",
      "face.SetVertexAt(1, new Point3d({point2}));",
      "face.SetVertexAt(2, new Point3d({point3}));",
      "face.SetVertexAt(3, new Point3d({point4}));"] ++
      append "face")]

end Catalogue
end DraftScript
