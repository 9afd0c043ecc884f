/-
# Texts and dimensions

The built-in schemas of “Text and annotations” and “Dimensions”. Texts are shown between
quotes as they are.
-/

import DraftScript.Catalogue.Entry

namespace DraftScript
namespace Catalogue

/-- The category of texts. -/
def annotations : String := "Text and annotations"

/-- The entries of `annotations`. -/
def annotationEntries : List Entry := [
  derivedEntry "TEXT" annotations "Single-line text"
    [text "text" "Sample Text", position, number "height" 1, angle "rotation" 0]
    (["DBText dbText = new DBText();",
      "dbText.Position = new Point3d({position});",
      "dbText.Height = {height};",
      "dbText.TextString = \"{text}\";",
      "dbText.Rotation = {rotationRadians};"] ++
      append "dbText")
    [inRadians "rotationRadians" "rotation"],
  entry "MTEXT" annotations "Multi-line text"
    [text "text" "Sample MText", position, number "height" 1, number "width" 10]
    (["MText mtext = new MText();",
      "mtext.Location = new Point3d({position});",
      "mtext.TextHeight = {height};",
      "mtext.Width = {width};",
      "mtext.Contents = \"{text}\";"] ++
      append "mtext")]

/-- The category of dimensions. -/
def dimensions : String := "Dimensions"

/-- The entries of `dimensions`. -/
def dimensionEntries : List Entry := [
  entry "DIMENSION_LINEAR" dimensions "Aligned linear dimension"
    [origin "point1", point "point2" 5 0 0, point "dimLine" (5 / 2) 2 0]
    (["AlignedDimension dim = new AlignedDimension();",
      "dim.XLine1Point = new Point3d({point1});",
      "dim.XLine2Point = new Point3d({point2});",
      "dim.DimLinePoint = new Point3d({dimLine});"] ++
      append "dim"),
  entry "DIMENSION_ANGULAR" dimensions "Three-point angular dimension"
    [origin "center", point "point1" 5 0 0, point "point2" 0 5 0, point "arcPoint" 3 3 0]
    (["Point3AngularDimension angDim = new Point3AngularDimension();",
      "angDim.CenterPoint = new Point3d({center});",
      "angDim.XLine1Point = new Point3d({point1});",
      "angDim.XLine2Point = new Point3d({point2});",
      "angDim.ArcPoint = new Point3d({arcPoint});"] ++
      append "angDim"),
  entry "DIMENSION_RADIAL" dimensions "Radial dimension"
    [origin "center", point "chordPoint" 5 0 0, number "leaderLength" 2]
    (["RadialDimension radDim = new RadialDimension();",
      "radDim.Center = new Point3d({center});",
      "radDim.ChordPoint = new Point3d({chordPoint});",
      "radDim.LeaderLength = {leaderLength};"] ++
      append "radDim"),
  entry "DIMENSION_DIAMETRIC" dimensions "Diametric dimension"
    [point "chordPoint" 5 0 0, point "farChordPoint" (-5) 0 0, number "leaderLength" 2]
    (["DiametricDimension diamDim = new DiametricDimension();",
      "diamDim.ChordPoint = new Point3d({chordPoint});",
      "diamDim.FarChordPoint = new Point3d({farChordPoint});",
      "diamDim.LeaderLength = {leaderLength};"] ++
      append "diamDim")]

end Catalogue
end DraftScript
