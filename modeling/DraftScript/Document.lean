/-
# Documents

A document is a header, the blocks of the commands, and a footer. The default header
opens a namespace, a class, a method and a transaction, which the default footer closes.
A header or footer from the settings is taken as it is and must be a text; the header is
checked first, and both only after the blocks are rendered. The names in the default header
are described, as far as there is room for levels of data.
-/

import DraftScript.Block
import DraftScript.Settings.Basic

namespace DraftScript
namespace Document

/-- The header of a namespace, a class and a command method. -/
def defaultHeader (namespaceName className commandMethod : Chars) : Chars :=
  Chars.unlines [
    "using Autodesk.AutoCAD.ApplicationServices;",
    "using Autodesk.AutoCAD.DatabaseServices;",
    "using Autodesk.AutoCAD.EditorInput;",
    "using Autodesk.AutoCAD.Geometry;",
    "using Autodesk.AutoCAD.Runtime;",
    "using Autodesk.AutoCAD.Colors;",
    "",
    "namespace " ++ namespaceName,
    "\x7b",
    "    public class " ++ className,
    "    \x7b",
    "        [CommandMethod(\"" ++ commandMethod ++ "\")]",
    "        public void RunGenerated()",
    "        \x7b",
    "            Document doc = Application.DocumentManager.MdiActiveDocument;",
    "            Database db = doc.Database;",
    "            Editor ed = doc.Editor;",
    "",
    "            using (Transaction tr = db.TransactionManager.StartTransaction())",
    "            \x7b",
    "                BlockTable bt = (BlockTable)tr.GetObject(db.BlockTableId, OpenMode.ForRead);",
    "                BlockTableRecord btr = (BlockTableRecord)tr.GetObject(" ++
      "bt[BlockTableRecord.ModelSpace], OpenMode.ForWrite);",
    "",
    ""]

/-- The footer that closes the default header. -/
def defaultFooter : Chars :=
  Chars.unlines [
    "                tr.Commit();",
    "            \x7d",
    "        \x7d",
    "    \x7d",
    "\x7d",
    ""]

/-- A name in the default header. -/
def name (room : Nat) (d : Datum) : Except RenderFault Chars :=
  (d.describe? room).mapError .description

/-- The header that settings ask for. -/
def header (room : Nat) (s : Settings) : Except RenderFault Datum :=
  if s.header.isNull then do
    let a ← name room s.namespaceName
    let b ← name room s.className
    let c ← name room s.commandMethod
    return .text (defaultHeader a b c)
  else .ok s.header

/-- The footer that settings ask for. -/
def footer (s : Settings) : Datum :=
  if s.footer.isNull then .text defaultFooter else s.footer

/-- Header, body and footer as one text. -/
def join (header : Datum) (body : Chars) (footer : Datum) : Except RenderFault Chars :=
  match header.text?, footer.text? with
  | some h, some f => .ok (h ++ body ++ f)
  | none, _ => .error (.headerType header.typeName)
  | some _, none => .error (.footerType footer.typeName)

/-- Texts are joined in order. -/
theorem join_text (h body f : Chars) : join (.text h) body (.text f) = .ok (h ++ body ++ f) := rfl

/-- The document of commands. -/
def render (room : Nat) (s : Settings) (r : Registry) (cs : List Command) : Report Chars := do
  let body ← Block.renderAll r s.indent cs
  Report.ofExcept do join (← header room s) body (footer s)

end Document
end DraftScript
