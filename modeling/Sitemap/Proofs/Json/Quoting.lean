import Sitemap.Json.Quoted
import Mathlib.Tactic.SplitIfs
import Mathlib.Data.Bool.AllAny

/-!
# Quoted texts, read back

What is written between quotation marks is cut into the pieces it was written from, and it
contains neither a bare quotation mark nor a control character.

## Main definitions

- `Quoted.Piece.IsSpelled` — a piece that reading finds as it is
- `Quoted.scan` — whether octets end after a backslash; none may be a bare quotation mark

## Main results

- `Quoted.pieces?_render` — cutting is the inverse of writing
- `Quoted.text?_ofString` — the pieces of a text spell the text
- `Quoted.scan_render`, `Quoted.le_of_mem_render` — what a written body cannot contain
-/

namespace Sitemap

namespace Quoted

variable {n : Nat} {b : UInt8}

/-- A piece that reading finds as it is: a code unit of sixteen bits must not be that of a
    control character. -/
def Piece.IsSpelled : Piece → Prop
  | .octet _ => True
  | .unit n => 32 ≤ n ∧ n < 65536

-- ════════════════════════════════════════════════════════════════════════
-- Hexadecimal digits
-- ════════════════════════════════════════════════════════════════════════

theorem hexDigit?_hexDigit (h : n < 16) : hexDigit? (hexDigit n) = some n := by
  revert n
  decide

/-- Four hexadecimal digits denote the code unit that they were written for. -/
theorem codeUnit?_hexDigit (h : n < 65536) :
    codeUnit? (hexDigit (n / 4096 % 16)) (hexDigit (n / 256 % 16)) (hexDigit (n / 16 % 16))
      (hexDigit (n % 16)) = some n := by
  have hdigit : ∀ m, hexDigit? (hexDigit (m % 16)) = some (m % 16) :=
    fun m => hexDigit?_hexDigit (Nat.mod_lt m (by decide))
  simp only [codeUnit?, hdigit, Option.bind_eq_bind, Option.bind_some, Option.pure_def]
  congr 1
  omega

-- ════════════════════════════════════════════════════════════════════════
-- Pieces
-- ════════════════════════════════════════════════════════════════════════

theorem pieces?_unitEscape (h : n < 65536) (rest : Octets) :
    pieces? (unitEscape n ++ rest) = (pieces? rest).map (Piece.ofUnit n :: ·) := by
  show pieces? (ascii '\\' :: ascii 'u' :: _ :: _ :: _ :: _ :: rest) = _
  rw [pieces?, if_pos rfl]
  simp only [if_true, codeUnit?_hexDigit h]

theorem pieces?_shortEscape {e v : UInt8} (hunit : e ≠ ascii 'u') (h : shortEscape? e = some v)
    (rest : Octets) :
    pieces? (ascii '\\' :: e :: rest) = (pieces? rest).map (.octet v :: ·) := by
  rw [pieces?.eq_def]
  simp only [if_true, if_neg hunit, h]

theorem pieces?_octetText (b : UInt8) (rest : Octets) :
    pieces? (octetText b ++ rest) = (pieces? rest).map (.octet b :: ·) := by
  unfold octetText
  split
  · next hmark =>
    rcases hmark with rfl | rfl
    · exact pieces?_shortEscape (by decide) (by decide) rest
    · exact pieces?_shortEscape (by decide) (by decide) rest
  · next hmark =>
    split
    · next hprinted =>
      have hlow : ¬ b < 32 := UInt8.not_lt.2 hprinted
      have hbackslash : b ≠ ascii '\\' := fun h => hmark (.inr h)
      show pieces? (b :: rest) = _
      rw [pieces?.eq_def]
      simp only [if_neg hbackslash, if_neg hlow]
    · next hcontrol =>
      split_ifs with h8 h9 h10 h12 h13
      · rw [h8]
        exact pieces?_shortEscape (by decide) (by decide) rest
      · rw [h9]
        exact pieces?_shortEscape (by decide) (by decide) rest
      · rw [h10]
        exact pieces?_shortEscape (by decide) (by decide) rest
      · rw [h12]
        exact pieces?_shortEscape (by decide) (by decide) rest
      · rw [h13]
        exact pieces?_shortEscape (by decide) (by decide) rest
      · have hlow : b.toNat < 32 := UInt8.lt_iff_toNat_lt.1 (UInt8.not_le.1 hcontrol)
        rw [pieces?_unitEscape (by omega), Piece.ofUnit, if_pos hlow, UInt8.ofNat_toNat]

/-- Cutting is the inverse of writing. -/
theorem pieces?_render {pieces : List Piece} (h : ∀ p ∈ pieces, p.IsSpelled) :
    pieces? (render pieces) = some pieces := by
  induction pieces with
  | nil => rfl
  | cons p rest ih =>
    have hrest := ih fun q hq => h q (List.mem_cons_of_mem _ hq)
    show pieces? (p.render ++ render rest) = _
    cases p with
    | octet b =>
      rw [Piece.render, pieces?_octetText, hrest]
      rfl
    | unit n =>
      obtain ⟨hlow, hhigh⟩ : 32 ≤ n ∧ n < 65536 := h _ List.mem_cons_self
      rw [Piece.render, pieces?_unitEscape hhigh, hrest, Piece.ofUnit, if_neg (by omega)]
      rfl

theorem isSpelled_of_mem_ofString {s : String} {p : Piece} (h : p ∈ ofString s) :
    p.IsSpelled := by
  obtain ⟨b, -, rfl⟩ := List.mem_map.1 h
  trivial

theorem join?_octets (octets : Octets) : join? (octets.map .octet) = some octets := by
  induction octets with
  | nil => rfl
  | cons b rest ih =>
    rw [List.map_cons, join?, ih]
    rfl

theorem text?_ofString (s : String) : text? (ofString s) = some s := by
  rw [text?, ofString, join?_octets, Option.bind_some, Octets.text?_ofString]

-- ════════════════════════════════════════════════════════════════════════
-- What a written body cannot contain
-- ════════════════════════════════════════════════════════════════════════

/-- Go through octets between quotation marks, `escaped` after a backslash. A bare quotation
    mark is refused; otherwise it tells whether the octets end after a backslash. -/
def scan : Bool → Octets → Option Bool
  | escaped, [] => some escaped
  | true, _ :: rest => scan false rest
  | false, b :: rest => if b = ascii '"' then none else scan (b = ascii '\\') rest

/-- An octet that is neither a quotation mark nor a backslash is passed over. -/
theorem scan_cons (hquote : b ≠ ascii '"') (hbackslash : b ≠ ascii '\\') (rest : Octets) :
    scan false (b :: rest) = scan false rest := by
  rw [scan, if_neg hquote, decide_eq_false hbackslash]

theorem scan_hexDigit (h : n < 16) (rest : Octets) :
    scan false (hexDigit n :: rest) = scan false rest := by
  have hdigit : ∀ m, m < 16 → hexDigit m ≠ ascii '"' ∧ hexDigit m ≠ ascii '\\' := by decide
  exact scan_cons (hdigit n h).1 (hdigit n h).2 rest

theorem scan_unitEscape (n : Nat) (rest : Octets) :
    scan false (unitEscape n ++ rest) = scan false rest := by
  show scan false (_ :: _ :: _ :: _ :: rest) = _
  iterate 4 rw [scan_hexDigit (Nat.mod_lt _ (by decide))]

theorem scan_octetText (b : UInt8) (rest : Octets) :
    scan false (octetText b ++ rest) = scan false rest := by
  unfold octetText
  split
  · rfl
  · next hmark =>
    split_ifs
    · exact scan_cons (fun h => hmark (.inl h)) (fun h => hmark (.inr h)) rest
    · rfl
    · rfl
    · rfl
    · rfl
    · rfl
    · exact scan_unitEscape _ rest

/-- A written body has no bare quotation mark, and does not end after a backslash. -/
theorem scan_render (pieces : List Piece) : scan false (render pieces) = some false := by
  induction pieces with
  | nil => rfl
  | cons p rest ih =>
    show scan false (p.render ++ render rest) = _
    cases p with
    | octet b => rw [Piece.render, scan_octetText, ih]
    | unit n => rw [Piece.render, scan_unitEscape, ih]

theorem le_of_mem_unitEscape (h : b ∈ unitEscape n) : 32 ≤ b := by
  have hdigit : ∀ m, m < 16 → (32 : UInt8) ≤ hexDigit m := by decide
  have hmod : ∀ m, (32 : UInt8) ≤ hexDigit (m % 16) :=
    fun m => hdigit _ (Nat.mod_lt m (by decide))
  simp only [unitEscape, List.mem_cons, List.not_mem_nil, or_false] at h
  rcases h with rfl | rfl | rfl | rfl | rfl | rfl
  · decide
  · decide
  · exact hmod _
  · exact hmod _
  · exact hmod _
  · exact hmod _

theorem le_of_mem_octetText {c : UInt8} (h : b ∈ octetText c) : 32 ≤ b := by
  unfold octetText at h
  split_ifs at h with hmark hprinted
  · rcases hmark with rfl | rfl
    · exact List.all_iff_forall_prop.1 (by decide) b h
    · exact List.all_iff_forall_prop.1 (by decide) b h
  · obtain rfl := List.mem_singleton.1 h
    exact hprinted
  · exact List.all_iff_forall_prop.1 (by decide) b h
  · exact List.all_iff_forall_prop.1 (by decide) b h
  · exact List.all_iff_forall_prop.1 (by decide) b h
  · exact List.all_iff_forall_prop.1 (by decide) b h
  · exact List.all_iff_forall_prop.1 (by decide) b h
  · exact le_of_mem_unitEscape h

/-- A written body has no control character. -/
theorem le_of_mem_render {pieces : List Piece} (h : b ∈ render pieces) : 32 ≤ b := by
  obtain ⟨p, -, hp⟩ := List.mem_flatMap.1 h
  cases p with
  | octet c => exact le_of_mem_octetText hp
  | unit n => exact le_of_mem_unitEscape hp

end Quoted

end Sitemap
