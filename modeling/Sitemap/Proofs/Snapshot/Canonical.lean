import Sitemap.Proofs.Snapshot.RoundTrip

/-!
# Canonical texts

A value has many texts: records as arrays or as objects, fields in any order, members that are
passed over, keys that are written twice, spaces and escapes. Encoding a decoded value picks
one of them. Where every number of a text is an integer, the text that is picked has the same
value, so values can be compared by their texts.

## Main definitions

- `Decoding.canonical?` — the text that is picked for the value of a text
- `Decoding.Returns` — what is decoded from a tree is decoded from its encoded form
- `Decoding.Canonicalizes` — one text is picked for each value

## Main results

- `Decoding.Returns.keyed`, `Decoding.Returns.frames` — collections return when their values do
- `Decoding.Returns.canonicalizes` — what returns from trees has canonical texts
- `decoding_canonicalizes` — the stored and the placed data do

## Design notes

`Decoding.Returns` is about trees at any nesting, so it passes from the parts of a tree to the
whole. The conditions under which a value can be written never need to be named: whatever was
decoded satisfies them.

Values are compared as terms, which tells the two zeros of the floating-point format apart. It
makes no difference here: of these, texts with integers have the negative one only
(`Numeral.tree_of_isInteger`). The canonical text of it has a fraction, and so is not a text
with integers itself, but has a value all the same.
-/

namespace Sitemap

namespace Decoding

variable {α : Type} {decode : Decoder α} {encode : α → Written}

/-- Whether a text is well-formed, and every number in it is an integer. -/
def hasIntegers (text : Octets) : Bool :=
  (Written.read? text).any Written.hasIntegers

/-- The compact text of what a text describes. -/
def canonical? (decode : Decoder α) (encode : α → Written) (text : Octets) : Option Octets :=
  (ofText? decode text).map fun a => (encode a).render

/-- What is decoded from a tree with integers is decoded from its encoded form, too. -/
def Returns (decode : Decoder α) (encode : α → Written) : Prop :=
  ∀ ⦃depth : Nat⦄ ⦃w : Written⦄ ⦃a : α⦄, w.hasIntegers = true → decode depth w = some a →
    decode depth (encode a) = some a

/-- Encoding picks one text for each value that texts with integers have. -/
structure Canonicalizes (decode : Decoder α) (encode : α → Written) : Prop where
  /-- The text that is picked has the value. -/
  decoded : ∀ text a, hasIntegers text = true → ofText? decode text = some a →
    ofText? decode (encode a).render = some a
  /-- It is picked again for itself. -/
  idempotent : ∀ text picked, hasIntegers text = true →
    canonical? decode encode text = some picked → canonical? decode encode picked = some picked
  /-- The same text is picked for the same value only. -/
  unique : ∀ text text' a a', hasIntegers text = true → hasIntegers text' = true →
    ofText? decode text = some a → ofText? decode text' = some a' →
      (a = a' ↔ (encode a).render = (encode a').render)

/-- What returns from trees and can be written has canonical texts. -/
theorem Returns.canonicalizes (hreturns : Returns decode encode)
    (hspelled : ∀ a, (encode a).IsSpelled) : Canonicalizes decode encode := by
  have hdecoded : ∀ text a, hasIntegers text = true → ofText? decode text = some a →
      ofText? decode (encode a).render = some a := by
    intro text a hintegers ha
    obtain ⟨w, hread, hdecode⟩ := Option.bind_eq_some_iff.1 ha
    rw [hasIntegers, hread] at hintegers
    rw [ofText?, Written.read?_render (hspelled a), Option.bind_some]
    exact hreturns hintegers hdecode
  refine ⟨hdecoded, fun text picked hintegers hpicked => ?_, ?_⟩
  · obtain ⟨a, ha, rfl⟩ := Option.map_eq_some_iff.1 hpicked
    rw [canonical?, hdecoded text a hintegers ha, Option.map_some]
  · intro text text' a a' hintegers hintegers' ha ha'
    refine ⟨fun heq => heq ▸ rfl, fun hsame => ?_⟩
    have hback := hdecoded text a hintegers ha
    rw [hsame, hdecoded text' a' hintegers' ha'] at hback
    exact (Option.some.inj hback).symm

-- ════════════════════════════════════════════════════════════════════════
-- Values and collections
-- ════════════════════════════════════════════════════════════════════════

theorem returns_value : Returns value Encoding.value := by
  intro depth w v hintegers h
  exact Written.value?_eq_some_iff.2
    (Written.json?_written_of_json? w hintegers (Written.value?_eq_some_iff.1 h))

/-- A collection returns when its values do. -/
theorem Returns.keyed (hreturns : Returns decode encode) :
    Returns (Decoding.keyed decode) (Encoding.keyed encode) := by
  intro depth w m hintegers h
  obtain ⟨inner, rfl, hvalues⟩ := of_keyed h
  refine keyed_encoded fun key a ha => ?_
  obtain ⟨part, hpart, hdecode⟩ := hvalues key a ha
  exact hreturns (hpart.hasIntegers hintegers) hdecode

/-- A collection that is filed under frames returns when its values do. -/
theorem Returns.frames (hreturns : Returns decode encode) :
    Returns (Decoding.frames decode) (Encoding.frames encode) := by
  intro depth w m hintegers h
  obtain ⟨inner, rfl, hvalues⟩ := of_frames h
  refine frames_encoded fun frame a ha => ?_
  obtain ⟨hframe, part, hpart, hdecode⟩ := hvalues frame a ha
  exact ⟨hframe, hreturns (hpart.hasIntegers hintegers) hdecode⟩

-- ════════════════════════════════════════════════════════════════════════
-- Records
-- ════════════════════════════════════════════════════════════════════════

theorem returns_edition : Returns edition Encoding.edition := by
  intro depth w e _ _
  cases e with
  | draft | online =>
    simp only [Encoding.edition, Encoding.string, edition, Quoted.text?_ofString]
    rfl

theorem returns_pageRow : Returns pageRow Encoding.pageRow := by
  intro depth w row _ h
  obtain ⟨inner, rfl, hposition⟩ := of_pageRow h
  exact pageRow_encoded hposition inner

theorem returns_metadata : Returns metadata Encoding.metadata := by
  intro depth w m hintegers h
  obtain ⟨inner, rfl, hpositive, ⟨part, hpart, hextra⟩, htimes⟩ := of_metadata h
  exact metadata_encoded hpositive (returns_value (hpart.hasIntegers hintegers) hextra) htimes

/-- A widget returns under any name of its type. -/
theorem returns_widgetNamed {name : String} (hname : name ≠ "config") :
    Returns (widgetNamed name) fun x => Encoding.record
      [(name, Encoding.string x.typeCode), ("config", Encoding.option Encoding.value x.config)] := by
  intro depth w x hintegers h
  obtain ⟨inner, rfl, hconfig⟩ := of_widgetNamed h
  refine widgetNamed_encoded hname fun v hv => ?_
  obtain ⟨hnull, part, hpart, hvalue⟩ := hconfig v hv
  exact ⟨hnull, returns_value (hpart.hasIntegers hintegers) hvalue⟩

theorem returns_widget : Returns widget Encoding.widget :=
  returns_widgetNamed (by decide)

theorem returns_storedWidget : Returns storedWidget Encoding.storedWidget :=
  returns_widgetNamed (by decide)

theorem returns_tables : Returns tables Encoding.tables := by
  intro depth w t hintegers h
  obtain ⟨inner, rfl, ⟨part, hpart, hpages⟩, heditions⟩ := of_tables h
  refine tables_encoded (returns_pageRow.keyed (hpart.hasIntegers hintegers) hpages)
    (fun edition => ?_) fun edition => ?_
  · obtain ⟨⟨part, hpart, hmetadata⟩, -⟩ := heditions edition
    exact returns_metadata.keyed (hpart.hasIntegers hintegers) hmetadata
  · obtain ⟨-, part, hpart, hwidgets⟩ := heditions edition
    exact returns_storedWidget.frames.keyed (hpart.hasIntegers hintegers) hwidgets

end Decoding

open Decoding in
/-- **Canonical texts.** For placed widgets, editions, page rows, metadata, stored widgets and
    row tables, encoding a value that was decoded from a text with integers picks a text of the
    same value. Picking is idempotent, and two such texts have the same value exactly when the
    same text is picked for them. -/
theorem decoding_canonicalizes :
    Canonicalizes widget Encoding.widget ∧ Canonicalizes edition Encoding.edition ∧
      Canonicalizes pageRow Encoding.pageRow ∧ Canonicalizes metadata Encoding.metadata ∧
      Canonicalizes storedWidget Encoding.storedWidget ∧ Canonicalizes tables Encoding.tables :=
  ⟨returns_widget.canonicalizes Encoding.isSpelled_widget,
    returns_edition.canonicalizes Encoding.isSpelled_edition,
    returns_pageRow.canonicalizes Encoding.isSpelled_pageRow,
    returns_metadata.canonicalizes Encoding.isSpelled_metadata,
    returns_storedWidget.canonicalizes Encoding.isSpelled_storedWidget,
    returns_tables.canonicalizes Encoding.isSpelled_tables⟩

/-- Tables as they may be written by hand: fields in any order, one that is passed over and one
    that is left out, records as arrays, keys out of order and a key that is written twice, an
    escape, spaces, and a zero with a minus. -/
def Decoding.looseText : Octets :=
  ["\n\x7b \"widgets_online\": \x7b\x7d, \"metadata_online\": \x7b\x7d,",
    "\"pages\": \x7b \"home\": [\"home\", null, 1, \"free\"] \x7d, \"notes\": [[]],",
    "\"metadata_draft\": \x7b \"home\": \x7b \"model_code\": \"home\",",
    "\"titles\": \x7b \"fr\": \"b\", \"en\": \"a\" \x7d, \"show_in_menu\": true,",
    "\"extra_config\": \x7b \"z\": 1, \"a\": 2, \"z\": -0 \x7d \x7d \x7d,",
    "\"widgets_draft\": \x7b \"home\": \x7b \"1\": [\"me\\u006eu\", 3],",
    "\"0\": [\"text\", null] \x7d \x7d \x7d"].flatMap fun line =>
      Written.asciiOctets line.toList

/-- What was written by hand is decoded, and its canonical text is another text of the same
    tables, which is picked for itself. -/
theorem decoding_canonicalizes_sample :
    Decoding.hasIntegers Decoding.looseText = true ∧
      ∃ t picked, Decoding.ofText? Decoding.tables Decoding.looseText = some t ∧
        picked = (Encoding.tables t).render ∧ picked ≠ Decoding.looseText ∧
        Decoding.ofText? Decoding.tables picked = some t ∧
        Decoding.canonical? Decoding.tables Encoding.tables picked = some picked := by
  obtain ⟨-, -, -, -, -, htables⟩ := decoding_canonicalizes
  have hintegers : Decoding.hasIntegers Decoding.looseText = true := by decide +kernel
  have hdecoded : (Decoding.ofText? Decoding.tables Decoding.looseText).isSome = true := by
    decide +kernel
  obtain ⟨t, ht⟩ := Option.isSome_iff_exists.1 hdecoded
  have hpicked : Decoding.canonical? Decoding.tables Encoding.tables Decoding.looseText =
      some (Encoding.tables t).render := by rw [Decoding.canonical?, ht, Option.map_some]
  refine ⟨hintegers, t, _, ht, rfl, fun heq => ?_, htables.decoded _ t hintegers ht,
    htables.idempotent _ _ hintegers hpicked⟩
  -- a canonical text begins with a brace
  have hbrace : some (Quoted.ascii '\x7b') = Decoding.looseText.head? := congrArg List.head? heq
  revert hbrace
  decide +kernel

end Sitemap
