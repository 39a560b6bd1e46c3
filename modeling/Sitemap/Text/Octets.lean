/-!
# Texts as octets

Files hold octets, the library works with characters. This module is the
bridge: the UTF-8 octets of a text, and the text of a sequence of octets when
they are valid UTF-8.

## Main definitions

- `Octets` — a sequence of octets
- `Octets.ofString` — the UTF-8 form of a text
- `Octets.text?` — the text that some octets spell
- `Octets.ofCodePoint` — the UTF-8 form of one code point

## Main results

- `Octets.text?_ofString` — reading back the octets of a text gives the text
-/

namespace Sitemap

/-- A sequence of octets, as a file holds it. -/
abbrev Octets : Type := List UInt8

namespace Octets

/-- The UTF-8 form of a text. -/
def ofString (s : String) : Octets :=
  s.toUTF8.data.toList

/-- The text spelled by `octets`, if they are valid UTF-8. -/
def text? (octets : Octets) : Option String :=
  String.fromUTF8? ⟨octets.toArray⟩

/-- Reading back the octets of a text gives the text. -/
theorem text?_ofString (s : String) : text? (ofString s) = some s := by
  have h : (⟨(ofString s).toArray⟩ : ByteArray) = s.toByteArray := by
    simp [ofString]
  unfold text? String.fromUTF8?
  simp only [h]
  exact dif_pos s.isValidUTF8

/-- Octets that spell a text are the octets of that text. -/
theorem eq_ofString_of_text? {octets : Octets} {s : String} (h : text? octets = some s) :
    octets = ofString s := by
  unfold text? String.fromUTF8? at h
  split at h
  · cases h
    simp [ofString, String.fromUTF8]
  · cases h

/-- The UTF-8 form of a code point. -/
def ofCodePoint (n : Nat) : Octets :=
  ofString (Char.ofNat n).toString

end Octets

end Sitemap
