import Sitemap.Text.ShapelessTable

/-!
# Shown texts

A text as it is shown in descriptions: in quotes, with escapes for quotes, backslashes and
everything that has no shape of its own.

## Main definitions

- `showChar` — a character as it is shown
- `showText` — a text as it is shown
-/

namespace Sitemap

/-- A code point by its number: `\\u` and the hexadecimal digits in braces. -/
def showCodePoint (n : Nat) : String :=
  "\\u\x7b" ++ String.ofList (Nat.toDigits 16 n) ++ "\x7d"

/-- A character as it is shown in a text. -/
def showChar (c : Char) : String :=
  if c.toNat = 0 then "\\0"
  else if c = '\t' then "\\t"
  else if c = '\r' then "\\r"
  else if c = '\n' then "\\n"
  else if c = '\"' then "\\\""
  else if c = '\\' then "\\\\"
  else if inRanges shapelessRanges c then showCodePoint c.toNat
  else String.singleton c

/-- A text as it is shown. -/
def showText (s : String) : String :=
  "\"" ++ String.join (s.toList.map showChar) ++ "\""

end Sitemap
