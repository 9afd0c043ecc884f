/-
# Curves and lines

The built-in schemas of “Curves and lines”. Angles are given in degrees and shown in
radians.
-/

import DraftScript.Catalogue.Entry

namespace DraftScript
namespace Catalogue

/-- The category of curves and lines. -/
def curves : String := "Curves and lines"

/-- The entries of `curves`. -/
def curveEntries : List Entry := [
  entry "LINE" curves "Line segment"
    [origin "start", point "end" 1 0 0]
    (["Line line = new Line();",
      "line.StartPoint = new Point3d({start});",
      "line.EndPoint = new Point3d({end});"] ++
      append "line"),
  entry "CIRCLE" curves "Circle"
    [number "radius" 1, origin "center", normal]
    (["Circle circle = new Circle();",
      "circle.Center = new Point3d({center});",
      "circle.Radius = {radius};",
      "circle.Normal = new Vector3d({normal});"] ++
      append "circle"),
  derivedEntry "ARC" curves "Circular arc"
    [number "radius" 1, origin "center", angle "startAngle" 0, angle "endAngle" 90, normal]
    (["Arc arc = new Arc();",
      "arc.Center = new Point3d({center});",
      "arc.Radius = {radius};",
      "arc.StartAngle = {startRadians};",
      "arc.EndAngle = {endRadians};",
      "arc.Normal = new Vector3d({normal});"] ++
      append "arc")
    [inRadians "startRadians" "startAngle", inRadians "endRadians" "endAngle"],
  entry "ELLIPSE" curves "Ellipse"
    [origin "center", vector "majorAxis" 2 0 0, number "radiusRatio" (1 / 2), normal]
    (["Ellipse ellipse = new Ellipse();",
      "ellipse.Center = new Point3d({center});",
      "ellipse.MajorAxis = new Vector3d({majorAxis});",
      "ellipse.RadiusRatio = {radiusRatio};",
      "ellipse.Normal = new Vector3d({normal});"] ++
      append "ellipse"),
  entry "SPLINE" curves "Fit-point spline through four points"
    [origin "start", point "end" 5 5 0, point "control1" 1 2 0, point "control2" 4 3 0]
    (["Point3dCollection fitPoints = new Point3dCollection();",
      "fitPoints.Add(new Point3d({start}));",
      "fitPoints.Add(new Point3d({control1}));",
      "fitPoints.Add(new Point3d({control2}));",
      "fitPoints.Add(new Point3d({end}));",
      "Spline spline = new Spline(fitPoints, 3, 0.0);"] ++
      append "spline"),
  entry "POLYLINE" curves "Two-vertex lightweight polyline"
    [origin "start", point "end" 1 1 0, number "width" 0]
    (["Polyline pline = new Polyline();",
      "pline.AddVertexAt(0, new Point2d({start.x}, {start.y}), 0, {width}, {width});",
      "pline.AddVertexAt(1, new Point2d({end.x}, {end.y}), 0, {width}, {width});"] ++
      append "pline"),
  entry "POLYLINE3D" curves "Two-vertex 3D polyline"
    [origin "start", point "end" 1 1 1]
    ["Polyline3d pline3d = new Polyline3d();",
     "btr.AppendEntity(pline3d);",
     "tr.AddNewlyCreatedDBObject(pline3d, true);",
     "PolylineVertex3d vertex1 = new PolylineVertex3d(new Point3d({start}));",
     "PolylineVertex3d vertex2 = new PolylineVertex3d(new Point3d({end}));",
     "pline3d.AppendVertex(vertex1);",
     "pline3d.AppendVertex(vertex2);",
     "tr.AddNewlyCreatedDBObject(vertex1, true);",
     "tr.AddNewlyCreatedDBObject(vertex2, true);"],
  entry "RAY" curves "Semi-infinite line"
    [origin "basePoint", vector "direction" 1 0 0]
    (["Ray ray = new Ray();",
      "ray.BasePoint = new Point3d({basePoint});",
      "ray.UnitDir = new Vector3d({direction}).GetNormal();"] ++
      append "ray"),
  entry "XLINE" curves "Infinite construction line"
    [origin "basePoint", vector "direction" 1 0 0]
    (["Xline xline = new Xline();",
      "xline.BasePoint = new Point3d({basePoint});",
      "xline.UnitDir = new Vector3d({direction}).GetNormal();"] ++
      append "xline")]

end Catalogue
end DraftScript
