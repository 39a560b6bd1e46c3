import Sitemap.Json.Numeral
import Sitemap.Json.Quoted

/-!
# Written JSON

A JSON text as it is written: members in the order of the text with every
repetition, numbers as numerals, texts as pieces. Typed readers work on this tree,
so that a part they skip needs to be well formed only.

## Main definitions

- `Written` — the tree of a JSON text
- `Written.render` — the compact text of a tree
- `Reader` — a machine that reads a text one octet at a time
- `Written.read?` — the tree of a text

## Design notes

The reader keeps a stack of the arrays and objects that are still open and works
through the text in a single pass, so it needs no bound on the nesting. How deep a
value may nest is a rule of the typed readers.

Bare words and numbers are gathered up to the next octet that cannot belong to
either, and judged as a whole.
-/

namespace Sitemap

/-- The tree of a JSON text. -/
inductive Written where
  /-- The word `null`. -/
  | null
  /-- The word `true` or `false`. -/
  | bool (value : Bool)
  /-- A numeral. -/
  | number (text : List Char)
  /-- A quoted text. -/
  | string (pieces : List Quoted.Piece)
  /-- A list of values. -/
  | array (items : List Written)
  /-- Members in the order of the text. -/
  | object (members : List (List Quoted.Piece × Written))

namespace Written

open Quoted (ascii)

-- ════════════════════════════════════════════════════════════════════════
-- Writing
-- ════════════════════════════════════════════════════════════════════════

/-- The octets of ASCII characters. -/
def asciiOctets (cs : List Char) : Octets :=
  cs.map ascii

/-- A quoted text with its quotation marks. -/
def quote (pieces : List Quoted.Piece) : Octets :=
  ascii '"' :: Quoted.render pieces ++ [ascii '"']

mutual

/-- The text of a tree, without any space. -/
def render : Written → Octets
  | .null => asciiOctets ['n', 'u', 'l', 'l']
  | .bool true => asciiOctets ['t', 'r', 'u', 'e']
  | .bool false => asciiOctets ['f', 'a', 'l', 's', 'e']
  | .number text => asciiOctets text
  | .string pieces => quote pieces
  | .array items => ascii '[' :: renderItems items ++ [ascii ']']
  | .object members => ascii '\x7b' :: renderMembers members ++ [ascii '\x7d']

/-- The items of an array, with commas between them. -/
def renderItems : List Written → Octets
  | [] => []
  | item :: rest =>
    match rest with
    | [] => render item
    | _ :: _ => render item ++ ascii ',' :: renderItems rest

/-- The members of an object, with commas between them. -/
def renderMembers : List (List Quoted.Piece × Written) → Octets
  | [] => []
  | member :: rest =>
    match rest with
    | [] => renderMember member
    | _ :: _ => renderMember member ++ ascii ',' :: renderMembers rest

/-- A member: its key, a colon and its value. -/
def renderMember : List Quoted.Piece × Written → Octets
  | (key, value) => quote key ++ ascii ':' :: render value

end

end Written

-- ════════════════════════════════════════════════════════════════════════
-- Reading
-- ════════════════════════════════════════════════════════════════════════

/-- An array or object that is still open. -/
inductive OpenValue where
  /-- An array with the items read so far, the last one first. -/
  | array (items : List Written)
  /-- An object with the members read so far, the last one first, while the value of
      `key` is being read. -/
  | object (members : List (List Quoted.Piece × Written)) (key : List Quoted.Piece)

/-- What the reader is in the middle of. -/
inductive ReaderMode where
  /-- A value must start; with `mayClose` the array just opened may close instead. -/
  | value (mayClose : Bool)
  /-- A member must start; with `mayClose` the object just opened may close instead. -/
  | member (members : List (List Quoted.Piece × Written)) (mayClose : Bool)
  /-- Inside a key; `escaped` after a backslash. The octets are held last one first. -/
  | key (members : List (List Quoted.Piece × Written)) (body : Octets) (escaped : Bool)
  /-- After a key: a colon must follow. -/
  | colon (members : List (List Quoted.Piece × Written)) (key : List Quoted.Piece)
  /-- Inside a quoted text; `escaped` after a backslash. The octets are held last one
      first. -/
  | text (body : Octets) (escaped : Bool)
  /-- Inside a bare word or number. The octets are held last one first. -/
  | word (body : Octets)
  /-- A value is complete. -/
  | done (value : Written)

/-- The state of reading a JSON text. -/
structure Reader where
  /-- What is being read. -/
  mode : ReaderMode
  /-- The arrays and objects around it, innermost first. -/
  within : List OpenValue

namespace Reader

open Quoted (ascii)

/-- Spaces, tabs and ends of line separate the parts of a text. -/
def isSpace (b : UInt8) : Bool :=
  b = 32 || b = 9 || b = 10 || b = 13

/-- An octet that ends a bare word or number. -/
def endsWord (b : UInt8) : Bool :=
  isSpace b || b = ascii ',' || b = ascii ':' || b = ascii '"' || b = ascii '[' || b = ascii ']'
    || b = ascii '\x7b' || b = ascii '\x7d'

/-- The value of a bare word or number. -/
def wordValue? (body : Octets) : Option Written :=
  let cs := body.map fun b => Char.ofNat b.toNat
  if cs = ['n', 'u', 'l', 'l'] then some .null
  else if cs = ['t', 'r', 'u', 'e'] then some (.bool true)
  else if cs = ['f', 'a', 'l', 's', 'e'] then some (.bool false)
  else (Numeral.ofChars? cs).map fun _ => .number cs

/-- The step after a complete value: a space, a comma, or the end of what is open. -/
def afterValue (value : Written) (within : List OpenValue) (b : UInt8) : Option Reader :=
  if isSpace b then some ⟨.done value, within⟩
  else
    match within with
    | [] => none
    | .array items :: outer =>
      if b = ascii ',' then some ⟨.value false, .array (value :: items) :: outer⟩
      else if b = ascii ']' then some ⟨.done (.array (value :: items).reverse), outer⟩
      else none
    | .object members key :: outer =>
      if b = ascii ',' then some ⟨.member ((key, value) :: members) false, outer⟩
      else if b = ascii '\x7d' then
        some ⟨.done (.object ((key, value) :: members).reverse), outer⟩
      else none

/-- The step where a value must start. -/
def beforeValue (mayClose : Bool) (within : List OpenValue) (b : UInt8) : Option Reader :=
  if isSpace b then some ⟨.value mayClose, within⟩
  else if b = ascii '"' then some ⟨.text [] false, within⟩
  else if b = ascii '[' then some ⟨.value true, .array [] :: within⟩
  else if b = ascii '\x7b' then some ⟨.member [] true, within⟩
  else if b = ascii ']' then
    match mayClose, within with
    | true, .array [] :: outer => some ⟨.done (.array []), outer⟩
    | _, _ => none
  else if endsWord b then none
  else some ⟨.word [b], within⟩

/-- Read one octet; `none` when no JSON text goes on like this. -/
def step (r : Reader) (b : UInt8) : Option Reader :=
  match r.mode with
  | .value mayClose => beforeValue mayClose r.within b
  | .member members mayClose =>
    if isSpace b then some r
    else if b = ascii '"' then some ⟨.key members [] false, r.within⟩
    else if b = ascii '\x7d' ∧ mayClose then some ⟨.done (.object members.reverse), r.within⟩
    else none
  | .key members body escaped =>
    if escaped then some ⟨.key members (b :: body) false, r.within⟩
    else if b = ascii '"' then
      (Quoted.pieces? body.reverse).map fun key => ⟨.colon members key, r.within⟩
    else some ⟨.key members (b :: body) (b = ascii '\\'), r.within⟩
  | .colon members key =>
    if isSpace b then some r
    else if b = ascii ':' then some ⟨.value false, .object members key :: r.within⟩
    else none
  | .text body escaped =>
    if escaped then some ⟨.text (b :: body) false, r.within⟩
    else if b = ascii '"' then
      (Quoted.pieces? body.reverse).map fun pieces => ⟨.done (.string pieces), r.within⟩
    else some ⟨.text (b :: body) (b = ascii '\\'), r.within⟩
  | .word body =>
    if endsWord b then do
      afterValue (← wordValue? body.reverse) r.within b
    else some ⟨.word (b :: body), r.within⟩
  | .done value => afterValue value r.within b

/-- The reader before the first octet. -/
def start : Reader := ⟨.value false, []⟩

/-- Read octets one after the other. -/
def run (r : Reader) (octets : Octets) : Option Reader :=
  octets.foldlM step r

/-- The tree that has been read, if the text may end here. -/
def result? (r : Reader) : Option Written :=
  match r.mode, r.within with
  | .done value, [] => some value
  | .word body, [] => wordValue? body.reverse
  | _, _ => none

end Reader

/-- The tree of a JSON text. -/
def Written.read? (text : Octets) : Option Written :=
  (Reader.start.run text).bind Reader.result?

end Sitemap
