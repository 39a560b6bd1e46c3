import Sitemap.Json.Conversion
import Sitemap.Rows.Basic
import Sitemap.Timestamp.Text

/-!
# Encoded rows

Rows, tables and widgets as written JSON. Records are objects whose members come in a
fixed order, collections are objects in ascending order of keys, and what is absent is
`null`.

## Main definitions

- `Encoding.tables`, `Encoding.pageRow`, `Encoding.metadata`, `Encoding.storedWidget` —
  the stored records
- `Encoding.widget`, `Encoding.edition` — a placed widget and an edition on their own

## Design notes

A stored widget and a placed widget carry the same data under different names.
-/

namespace Sitemap

namespace Encoding

/-- A text. -/
def string (s : String) : Written :=
  .string (Quoted.ofString s)

/-- An integer. -/
def int (n : Int) : Written :=
  .number (Numeral.ofInt n)

/-- A JSON value. -/
def value (v : JsonValue) : Written :=
  v.tree.written

/-- What may be absent. -/
def option {α : Type} (encode : α → Written) : Option α → Written
  | some a => encode a
  | none => .null

/-- A record: values under the names of its fields. -/
def record (fields : List (String × Written)) : Written :=
  .object (fields.map fun (name, w) => (Quoted.ofString name, w))

/-- A collection filed under texts. -/
def keyed {α : Type} (encode : α → Written) (m : Keyed String α) : Written :=
  .object (m.entries.map fun (key, a) => (Quoted.ofString key, encode a))

/-- A frame as a key: its digits as a text. -/
def frameKey (frame : Int) : List Quoted.Piece :=
  (Numeral.ofInt frame).map fun c => .octet (Quoted.ascii c)

/-- A collection filed under frames. -/
def frames {α : Type} (encode : α → Written) (m : Keyed Int α) : Written :=
  .object (m.entries.map fun (frame, a) => (frameKey frame, encode a))

/-- A timestamp. -/
def timestamp (t : Timestamp) : Written :=
  string t.text

/-- An edition. -/
def edition : Edition → Written
  | .draft => string "Draft"
  | .online => string "Online"

/-- A placed widget. -/
def widget (w : Widget) : Written :=
  record [("type_code", string w.typeCode), ("config", option value w.config)]

/-- A stored widget. -/
def storedWidget (w : Widget) : Written :=
  record [("widget_code", string w.typeCode), ("config", option value w.config)]

/-- The stored place of a page. -/
def pageRow (row : PageRow) : Written :=
  record
    [("code", string row.code), ("parent_code", option string row.parent),
      ("pos", int row.position), ("group_code", string row.group)]

/-- Stored metadata. -/
def metadata (m : Metadata) : Written :=
  record
    [("titles", keyed string m.titles), ("model_code", string m.model),
      ("show_in_menu", .bool m.shown), ("extra_config", value m.extra),
      ("updated_at", option timestamp m.updatedAt)]

/-- The row tables. -/
def tables (t : Tables) : Written :=
  record
    [("pages", keyed pageRow t.pages), ("metadata_draft", keyed metadata t.metadata.draft),
      ("metadata_online", keyed metadata t.metadata.online),
      ("widgets_draft", keyed (frames storedWidget) t.widgets.draft),
      ("widgets_online", keyed (frames storedWidget) t.widgets.online)]

end Encoding

end Sitemap
