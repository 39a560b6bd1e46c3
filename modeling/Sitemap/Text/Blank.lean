/-!
# Blank characters

The characters with the Unicode property White_Space, which separate words in
every script.
-/

namespace Sitemap

/-- The ranges of code points that are blank. -/
def blankRanges : List (Nat × Nat) :=
  [(0x09, 0x0D), (0x20, 0x20), (0x85, 0x85), (0xA0, 0xA0), (0x1680, 0x1680), (0x2000, 0x200A),
    (0x2028, 0x2029), (0x202F, 0x202F), (0x205F, 0x205F), (0x3000, 0x3000)]

/-- Whether a character is blank. -/
def isBlank (c : Char) : Bool :=
  blankRanges.any fun (first, last) => first ≤ c.toNat && c.toNat ≤ last

/-- What follows the blank characters at the start of a text. -/
def skipBlanks (cs : List Char) : List Char :=
  cs.dropWhile isBlank

end Sitemap
