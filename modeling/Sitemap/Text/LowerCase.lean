import Sitemap.Text.CaseTable

/-!
# Lower case

The lower-case form of a text by the rules of Unicode that hold in every language. Almost
every character is mapped on its own. The one exception is the Greek capital sigma, which
has a form of its own at the end of a word.

## Main definitions

- `lowerChar` — the lower-case form of a character by itself
- `isFinalSigma` — whether a sigma between two texts ends a word
- `lower` — the lower-case form of a text
- `containsIgnoringCase` — whether one text stands in another, whatever the case
-/

namespace Sitemap

namespace CaseShift

/-- Whether a code point is one of the evenly spaced ones. -/
def covers (s : CaseShift) (n : Nat) : Bool :=
  s.first ≤ n && n ≤ s.last && (n - s.first) % s.stride = 0

/-- The code point at the distance of the shift. -/
def apply (s : CaseShift) (n : Nat) : Nat :=
  ((n : Int) + s.distance).toNat

end CaseShift

/-- The lower-case form of a character by itself. The capital I with a dot keeps the dot
    as a mark of its own; every other form is a single character. -/
def lowerChar (c : Char) : List Char :=
  if c = '\u0130' then ['i', '\u0307']
  else
    match caseShifts.find? fun s => s.covers c.toNat with
    | some s => [Char.ofNat (s.apply c.toNat)]
    | none => [c]

/-- The first character that has an influence on case is cased. -/
def startsCased (cs : List Char) : Bool :=
  match cs.dropWhile (inRanges caseIgnorableRanges) with
  | c :: _ => inRanges casedRanges c
  | [] => false

/-- Whether a sigma ends a word: a cased letter comes before it and none after it. The
    text before it is given from its last character backwards. -/
def isFinalSigma (before after : List Char) : Bool :=
  startsCased before && !startsCased after

/-- The lower-case form of a text that follows `before`, which is given backwards. -/
def lowerAfter (before : List Char) : List Char → List Char
  | [] => []
  | c :: after =>
    let here :=
      if c = '\u03a3' then [if isFinalSigma before after then '\u03c2' else '\u03c3']
      else lowerChar c
    here ++ lowerAfter (c :: before) after

/-- The lower-case form of a text. -/
def lower (s : String) : List Char :=
  lowerAfter [] s.toList

/-- Whether some characters stand next to each other in a text. -/
def occursIn (part : List Char) : List Char → Bool
  | [] => part.isEmpty
  | c :: rest => part.isPrefixOf (c :: rest) || occursIn part rest

/-- Whether `part` stands somewhere in `whole`, in lower or upper case. -/
def containsIgnoringCase (whole part : String) : Bool :=
  occursIn (lower part) (lower whole)

end Sitemap
