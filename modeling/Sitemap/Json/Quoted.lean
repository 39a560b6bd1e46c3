import Sitemap.Text.Octets

/-!
# Quoted texts

The octets between the quotation marks of a JSON text. Reading happens in two
steps: the body is cut into pieces, which fails exactly on a malformed body, and
the pieces are joined to octets, which fails exactly on an unpaired surrogate.
A text that is only skipped needs the first step, a text that is used needs both.

A control character can only be written by an escape, so all its escapes are the same
piece. That makes cutting the inverse of writing.

## Main definitions

- `Quoted.Piece` — an octet, or a code unit written as four hexadecimal digits
- `Quoted.pieces?` — the pieces of a body
- `Quoted.join?` — the octets that pieces stand for, surrogates paired
- `Quoted.render` — the body that writes some pieces
- `Quoted.ofString`, `Quoted.text?` — pieces of a text, and the text of pieces
-/

namespace Sitemap

namespace Quoted

/-- A piece of a quoted text. -/
inductive Piece where
  /-- An octet of the text, written as itself or by a short escape, or a control character
      however it is escaped. -/
  | octet (value : UInt8)
  /-- Any other code unit of sixteen bits, written by four hexadecimal digits. -/
  | unit (value : Nat)
  deriving DecidableEq

/-- The piece that four hexadecimal digits write. -/
def Piece.ofUnit (n : Nat) : Piece :=
  if n < 32 then .octet (UInt8.ofNat n) else .unit n

/-- The octet of an ASCII character. -/
def ascii (c : Char) : UInt8 :=
  c.toNat.toUInt8

/-- The value of a hexadecimal digit, of either case. -/
def hexDigit? (b : UInt8) : Option Nat :=
  let n := b.toNat
  if 48 ≤ n ∧ n ≤ 57 then some (n - 48)
  else if 97 ≤ n ∧ n ≤ 102 then some (n - 87)
  else if 65 ≤ n ∧ n ≤ 70 then some (n - 55)
  else none

/-- The code unit of four hexadecimal digits. -/
def codeUnit? (a b c d : UInt8) : Option Nat := do
  let a ← hexDigit? a
  let b ← hexDigit? b
  let c ← hexDigit? c
  let d ← hexDigit? d
  return ((a * 16 + b) * 16 + c) * 16 + d

/-- The octet that a short escape stands for. -/
def shortEscape? (b : UInt8) : Option UInt8 :=
  if b = ascii '"' ∨ b = ascii '\\' ∨ b = ascii '/' then some b
  else if b = ascii 'b' then some 8
  else if b = ascii 't' then some 9
  else if b = ascii 'n' then some 10
  else if b = ascii 'f' then some 12
  else if b = ascii 'r' then some 13
  else none

/-- Cut the body of a quoted text into pieces. A control character and a malformed
    escape are refused. -/
def pieces? : Octets → Option (List Piece)
  | [] => some []
  | b :: rest =>
    if b = ascii '\\' then
      match rest with
      | [] => none
      | e :: rest =>
        if e = ascii 'u' then
          match rest with
          | h₁ :: h₂ :: h₃ :: h₄ :: rest =>
            match codeUnit? h₁ h₂ h₃ h₄ with
            | some n => (pieces? rest).map (Piece.ofUnit n :: ·)
            | none => none
          | _ => none
        else
          match shortEscape? e with
          | some v => (pieces? rest).map (.octet v :: ·)
          | none => none
    else if b < 32 then none
    else (pieces? rest).map (.octet b :: ·)

/-- A code unit that opens a surrogate pair. -/
def isLeading (n : Nat) : Bool :=
  0xD800 ≤ n && n ≤ 0xDBFF

/-- A code unit that closes a surrogate pair. -/
def isTrailing (n : Nat) : Bool :=
  0xDC00 ≤ n && n ≤ 0xDFFF

/-- The code point of a surrogate pair. -/
def pairCodePoint (leading trailing : Nat) : Nat :=
  0x10000 + (leading - 0xD800) * 0x400 + (trailing - 0xDC00)

/-- The octets that pieces stand for. An unpaired surrogate is refused. -/
def join? : List Piece → Option Octets
  | [] => some []
  | .octet b :: rest => (join? rest).map (b :: ·)
  | .unit n :: rest =>
    if isLeading n then
      match rest with
      | .unit m :: rest =>
        if isTrailing m then (join? rest).map (Octets.ofCodePoint (pairCodePoint n m) ++ ·)
        else none
      | _ => none
    else if isTrailing n then none
    else (join? rest).map (Octets.ofCodePoint n ++ ·)

/-- The text that pieces spell. -/
def text? (pieces : List Piece) : Option String :=
  (join? pieces).bind Octets.text?

/-- The pieces of a text: its octets. -/
def ofString (s : String) : List Piece :=
  (Octets.ofString s).map .octet

-- ════════════════════════════════════════════════════════════════════════
-- Writing
-- ════════════════════════════════════════════════════════════════════════

/-- The hexadecimal digit of a number below sixteen, in lower case. -/
def hexDigit (n : Nat) : UInt8 :=
  if n < 10 then UInt8.ofNat (n + 48) else UInt8.ofNat (n + 87)

/-- The escape of a code unit by four hexadecimal digits. -/
def unitEscape (n : Nat) : Octets :=
  [ascii '\\', ascii 'u', hexDigit (n / 4096 % 16), hexDigit (n / 256 % 16),
    hexDigit (n / 16 % 16), hexDigit (n % 16)]

/-- An octet inside quotation marks: quotation marks and backslashes are escaped, and
    so are control characters, by a short escape where there is one. -/
def octetText (b : UInt8) : Octets :=
  if b = ascii '"' ∨ b = ascii '\\' then [ascii '\\', b]
  else if 32 ≤ b then [b]
  else if b = 8 then [ascii '\\', ascii 'b']
  else if b = 9 then [ascii '\\', ascii 't']
  else if b = 10 then [ascii '\\', ascii 'n']
  else if b = 12 then [ascii '\\', ascii 'f']
  else if b = 13 then [ascii '\\', ascii 'r']
  else unitEscape b.toNat

/-- A piece inside quotation marks. -/
def Piece.render : Piece → Octets
  | .octet b => octetText b
  | .unit n => unitEscape n

/-- The body that writes some pieces. -/
def render (pieces : List Piece) : Octets :=
  pieces.flatMap Piece.render

end Quoted

end Sitemap
