import Sitemap.Snapshot.Encoding

/-!
# Decoded rows

Reading rows, tables and widgets from written JSON. Every decoder takes the number of
arrays and objects that may still be opened around what it reads.

## Main definitions

- `Decoding.Decoder` — a reader of written JSON with a bound on the nesting
- `Decoding.fields?` — the fields of a record
- `Decoding.tables`, `Decoding.pageRow`, `Decoding.metadata`, `Decoding.storedWidget` —
  the stored records
- `Decoding.widget`, `Decoding.edition` — a placed widget and an edition on their own
- `Decoding.ofText?` — a whole text

## Design notes

A record may be written as an object or as an array of all its fields in order. In an
object the fields come in any order, unknown members are skipped, and a field that may
be absent may be left out; a field written twice is refused. In a collection a later
entry replaces an earlier one of the same key.

A skipped member must be well-formed JSON, and no more: it may nest deeper than the
bound and hold texts and numbers that have no value.
-/

namespace Sitemap

namespace Decoding

/-- A reader of written JSON; the number bounds the nesting of what it reads. -/
abbrev Decoder (α : Type) : Type := Nat → Written → Option α

/-- How deep arrays and objects of a text may nest. -/
def maxDepth : Nat := 127

-- ════════════════════════════════════════════════════════════════════════
-- Parts of records
-- ════════════════════════════════════════════════════════════════════════

/-- A text. -/
def string : Decoder String
  | _, .string pieces => Quoted.text? pieces
  | _, _ => none

/-- A truth value. -/
def bool : Decoder Bool
  | _, .bool b => some b
  | _, _ => none

/-- The integer of a numeral, if it fits in 32 bits with a sign. -/
def int32Of? (cs : List Char) : Option Int := do
  let n ← (← Numeral.ofChars? cs).int?
  if -2147483648 ≤ n ∧ n < 2147483648 then some n else none

/-- An integer of 32 bits. -/
def int : Decoder Int
  | _, .number text => int32Of? text
  | _, _ => none

/-- A JSON value. -/
def value : Decoder JsonValue := fun depth w => w.value? depth

/-- What may be absent, written as `null`. -/
def option {α : Type} (decode : Decoder α) : Decoder (Option α)
  | _, .null => some none
  | depth, w => (decode depth w).map some

/-- A timestamp. -/
def timestamp : Decoder Timestamp := fun depth w => (string depth w).bind Timestamp.ofText?

/-- The members of an object, under the texts of their keys. -/
def members? (members : List (List Quoted.Piece × Written)) : Option (List (String × Written)) :=
  members.mapM fun (key, w) => (Quoted.text? key).map (·, w)

/-- A collection filed under texts. -/
def keyed {α : Type} (decode : Decoder α) : Decoder (Keyed String α)
  | depth + 1, .object members => do
    let entries ← (← members? members).mapM fun (key, w) => (decode depth w).map (key, ·)
    return Keyed.ofList entries
  | _, _ => none

/-- The frame that a key names: digits, perhaps after a minus, written without escapes. -/
def frameOf? (key : List Quoted.Piece) : Option Int := do
  let cs ← key.mapM fun piece =>
    match piece with
    | .octet b => some (Char.ofNat b.toNat)
    | .unit _ => none
  int32Of? cs

/-- A collection filed under frames. -/
def frames {α : Type} (decode : Decoder α) : Decoder (Keyed Int α)
  | depth + 1, .object members => do
    let entries ← members.mapM fun (key, w) => do
      return (← frameOf? key, ← decode depth w)
    return Keyed.ofList entries
  | _, _ => none

-- ════════════════════════════════════════════════════════════════════════
-- Records
-- ════════════════════════════════════════════════════════════════════════

/-- The member of a name: absent, or written once. -/
def memberOf? (name : String) (members : List (String × Written)) : Option (Option Written) :=
  match members.filter fun m => m.1 = name with
  | [] => some none
  | [m] => some (some m.2)
  | _ :: _ :: _ => none

/-- The fields of a record by their names, each written once or absent, and the nesting
    left for them. -/
def fields? (names : List String) : Nat → Written → Option (List (Option Written) × Nat)
  | depth + 1, .array items =>
    if items.length = names.length then some (items.map some, depth) else none
  | depth + 1, .object members => do
    let members ← members? members
    let fields ← names.mapM fun name => memberOf? name members
    return (fields, depth)
  | _, _ => none

/-- A field that must be written. -/
def required {α : Type} (decode : Decoder α) (depth : Nat) : Option Written → Option α
  | some w => decode depth w
  | none => none

/-- A field that may be left out. -/
def optional {α : Type} (decode : Decoder α) (depth : Nat) : Option Written → Option (Option α)
  | some w => option decode depth w
  | none => some none

/-- A widget whose type stands under the given name. -/
def widgetNamed (name : String) : Decoder Widget := fun depth w => do
  match ← fields? [name, "config"] depth w with
  | ([typeCode, config], depth) =>
    return { typeCode := ← required string depth typeCode
             config := ← optional value depth config }
  | _ => none

/-- A placed widget. -/
def widget : Decoder Widget := widgetNamed "type_code"

/-- A stored widget. -/
def storedWidget : Decoder Widget := widgetNamed "widget_code"

/-- The edition of a name. -/
def editionOf? (name : String) : Option Edition :=
  if name = "Draft" then some .draft else if name = "Online" then some .online else none

/-- An edition: its name, or an object with `null` under its name. -/
def edition : Decoder Edition
  | _, .string pieces => (Quoted.text? pieces).bind editionOf?
  | _ + 1, .object [(key, .null)] => (Quoted.text? key).bind editionOf?
  | _, _ => none

/-- The stored place of a page. -/
def pageRow : Decoder PageRow := fun depth w => do
  match ← fields? ["code", "parent_code", "pos", "group_code"] depth w with
  | ([code, parent, position, group], depth) =>
    return { code := ← required string depth code
             parent := ← optional string depth parent
             position := ← required int depth position
             group := ← required string depth group }
  | _ => none

/-- Stored metadata. -/
def metadata : Decoder Metadata := fun depth w => do
  match ← fields? ["titles", "model_code", "show_in_menu", "extra_config", "updated_at"]
      depth w with
  | ([titles, model, shown, extra, updatedAt], depth) =>
    return { titles := ← required (keyed string) depth titles
             model := ← required string depth model
             shown := ← required bool depth shown
             extra := ← required value depth extra
             updatedAt := ← optional timestamp depth updatedAt }
  | _ => none

/-- The row tables. -/
def tables : Decoder Tables := fun depth w => do
  match ← fields? ["pages", "metadata_draft", "metadata_online", "widgets_draft",
      "widgets_online"] depth w with
  | ([pages, metadataDraft, metadataOnline, widgetsDraft, widgetsOnline], depth) =>
    return { pages := ← required (keyed pageRow) depth pages
             metadata :=
              { draft := ← required (keyed metadata) depth metadataDraft
                online := ← required (keyed metadata) depth metadataOnline }
             widgets :=
              { draft := ← required (keyed (frames storedWidget)) depth widgetsDraft
                online := ← required (keyed (frames storedWidget)) depth widgetsOnline } }
  | _ => none

/-- What a whole text describes. -/
def ofText? {α : Type} (decode : Decoder α) (text : Octets) : Option α :=
  (Written.read? text).bind (decode maxDepth)

end Decoding

end Sitemap
