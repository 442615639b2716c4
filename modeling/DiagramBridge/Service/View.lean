import DiagramBridge.Conversion.Session
import DiagramBridge.Json.Basic
import DiagramBridge.Mermaid.Precheck
import DiagramBridge.Mermaid.Template

/-!
# What answers show

Pages, issues, templates, results and sessions as JSON.
-/

namespace DiagramBridge

/-- A page in an answer. -/
def Drawio.Page.toJson (p : Drawio.Page) : Json :=
  .obj [("id", .str p.id), ("name", .str p.name), ("index", .int p.index)]

/-- An issue in an answer. -/
def Mermaid.Issue.toJson (i : Mermaid.Issue) : Json :=
  .obj [("line", .int i.line), ("message", .str i.message)]

/-- A template in an answer. -/
def Mermaid.Template.toJson (t : Mermaid.Template) : Json :=
  .obj [("id", .str t.id), ("name", .str t.name), ("description", .str t.description),
    ("code", .str t.code), ("type", .str Mermaid.Template.type)]

/-- A Mermaid text in an answer, with the page that it was made from. -/
def MermaidResult.toJson (r : MermaidResult) : Json :=
  .obj [("mermaid", .str r.mermaid), ("diagram_type", .str r.type.name),
    ("page_index", .int r.pageIndex), ("page_count", .int r.pageCount)]

/-- Pages in an answer. -/
def pagesJson (pages : List Drawio.Page) : Json :=
  .arr (pages.map Drawio.Page.toJson)

/-- The fields that show a session. -/
def Session.fields (s : Session) : List (String × Json) :=
  [("has_drawio", .bool s.drawing.isSome), ("has_mermaid", .bool s.mermaid.isSome),
    ("mermaid", (s.mermaid.map (.str ·.text)).getD .null), ("page_index", .int s.pageIndex),
    ("pages", pagesJson s.pages)]

/-- Whether a session can be sent. Of its texts, only the Mermaid text is. -/
def Session.isSendable (s : Session) : Bool :=
  s.mermaid.all LooseText.isWhole

/-- A session in an answer, with its id. -/
def Session.toJson (id : String) (s : Session) : Json :=
  .obj (("id", .str id) :: s.fields)

end DiagramBridge
