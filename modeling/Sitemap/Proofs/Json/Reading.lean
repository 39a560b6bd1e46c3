import Sitemap.Json.Written
import Sitemap.Proofs.Json.Numerals
import Sitemap.Proofs.Json.Quoting
import Mathlib.Data.Bool.AllAny

/-!
# Written JSON, read back

Reading the compact text of a tree gives the tree. Of the text of an object, no part that
stops short can be read.

## Main definitions

- `Written.IsSpelled` — trees that can be written: numbers are numerals, texts are spelled
- `Reader.Gathers` — a mode of the reader between quotation marks
- `Reader.Holds` — a reader that has just come to the end of a value
- `Reader.IsOver` — a reader around which nothing is open, at or inside a value

## Main results

- `Written.read?_render` — reading is the inverse of writing
- `Written.read?_eq_none_of_append` — no proper beginning of the text of an object is a text
- `Written.le_of_mem_render` — written text has no control characters

## Design notes

A bare word has no end of its own: the reader takes it for complete when it sees the next
octet. So the text of a tree leads to one of two states, and both go on in the same way with
every octet that ends a word, which is what `Reader.Holds` says.
-/

namespace Sitemap

open Quoted (ascii)

-- ════════════════════════════════════════════════════════════════════════
-- Characters of numerals
-- ════════════════════════════════════════════════════════════════════════

/-- A character of a numeral is an ASCII character that does not end a word. -/
theorem Numeral.IsPart.ascii_spec {c : Char} (h : IsPart c) :
    Char.ofNat (ascii c).toNat = c ∧ Reader.endsWord (ascii c) = false ∧ 32 ≤ ascii c := by
  rcases h with hdigit | hmark
  · have hrange : 48 ≤ c.toNat ∧ c.toNat < 58 := by
      simp only [Char.isDigit, Bool.and_eq_true, decide_eq_true_eq] at hdigit
      exact ⟨UInt32.le_iff_toNat_le.1 hdigit.1,
        Nat.lt_succ_of_le (UInt32.le_iff_toNat_le.1 hdigit.2)⟩
    have hall : ∀ n, n < 58 → 48 ≤ n →
        Char.ofNat (ascii (Char.ofNat n)).toNat = Char.ofNat n ∧
          Reader.endsWord (ascii (Char.ofNat n)) = false ∧ 32 ≤ ascii (Char.ofNat n) := by
      decide
    have hc := hall c.toNat hrange.2 hrange.1
    rwa [Char.ofNat_toNat] at hc
  · have hmarks : ∀ c ∈ ['-', '+', '.', 'e', 'E'],
        Char.ofNat (ascii c).toNat = c ∧ Reader.endsWord (ascii c) = false ∧ 32 ≤ ascii c :=
      List.all_iff_forall_prop.1 (by decide)
    exact hmarks c hmark

namespace Written

-- ════════════════════════════════════════════════════════════════════════
-- Trees that can be written
-- ════════════════════════════════════════════════════════════════════════

mutual

/-- Every number is a numeral, and every text is spelled. -/
def IsSpelled : Written → Prop
  | .null | .bool _ => True
  | .number text => (Numeral.ofChars? text).isSome
  | .string pieces => ∀ p ∈ pieces, p.IsSpelled
  | .array items => ItemsSpelled items
  | .object members => MembersSpelled members

/-- Every item is spelled. -/
def ItemsSpelled : List Written → Prop
  | [] => True
  | item :: rest => IsSpelled item ∧ ItemsSpelled rest

/-- Every member is spelled. -/
def MembersSpelled : List (List Quoted.Piece × Written) → Prop
  | [] => True
  | member :: rest => MemberSpelled member ∧ MembersSpelled rest

/-- The key and the value of a member are spelled. -/
def MemberSpelled : List Quoted.Piece × Written → Prop
  | (key, value) => (∀ p ∈ key, p.IsSpelled) ∧ IsSpelled value

end

/-- Members are spelled when each of them is. -/
theorem membersSpelled_iff {members : List (List Quoted.Piece × Written)} :
    MembersSpelled members ↔ ∀ m ∈ members, (∀ p ∈ m.1, p.IsSpelled) ∧ m.2.IsSpelled := by
  induction members with
  | nil => simp [MembersSpelled]
  | cons m rest ih =>
    obtain ⟨key, value⟩ := m
    simp [MembersSpelled, MemberSpelled, ih]

end Written

-- ════════════════════════════════════════════════════════════════════════
-- Words and quoted texts
-- ════════════════════════════════════════════════════════════════════════

namespace Reader

variable {r r' : Reader} {within : List OpenValue} {value : Written} {b : UInt8}
  {octets body : Octets}

theorem run_cons (r : Reader) (b : UInt8) (octets : Octets) :
    r.run (b :: octets) = (r.step b).bind fun r => r.run octets := rfl

theorem run_append (r : Reader) (first second : Octets) :
    r.run (first ++ second) = (r.run first).bind fun r => r.run second :=
  List.foldlM_append

/-- A reader that has just come to the end of a value, with `within` open around it. -/
inductive Holds (within : List OpenValue) (value : Written) : Reader → Prop
  /-- The value has an end of its own. -/
  | done : Holds within value ⟨.done value, within⟩
  /-- The value is a bare word, which may still go on. -/
  | word {body : Octets} (h : wordValue? body.reverse = some value) :
    Holds within value ⟨.word body, within⟩

/-- An octet that ends words is read as what follows a complete value. -/
theorem Holds.step_eq (h : Holds within value r) (hends : endsWord b = true) :
    r.step b = afterValue value within b := by
  cases h with
  | done => rfl
  | word hword =>
    show (if endsWord b then _ else _) = _
    rw [if_pos hends, hword]
    rfl

theorem Holds.result? (h : Holds [] value r) : r.result? = some value := by
  cases h with
  | done => rfl
  | word hword => exact hword

theorem run_word (h : ∀ b ∈ octets, endsWord b = false) (body : Octets) :
    run ⟨.word body, within⟩ octets = some ⟨.word (octets.reverse ++ body), within⟩ := by
  induction octets generalizing body with
  | nil => rfl
  | cons b rest ih =>
    have hstep : step ⟨.word body, within⟩ b = some ⟨.word (b :: body), within⟩ := by
      show (if endsWord b then _ else _) = _
      rw [if_neg (by simp [h b List.mem_cons_self])]
    rw [run_cons, hstep, Option.bind_some, ih fun c hc => h c (List.mem_cons_of_mem _ hc)]
    simp

/-- An octet that does not end a word starts one. -/
theorem step_value_of_word (h : endsWord b = false) (mayClose : Bool) :
    step ⟨.value mayClose, within⟩ b = some ⟨.word [b], within⟩ := by
  have hends := h
  simp only [endsWord, Bool.or_eq_false_iff, decide_eq_false_iff_not] at h
  obtain ⟨⟨⟨⟨⟨⟨⟨hspace, -⟩, -⟩, hquote⟩, hopen⟩, hclose⟩, hbrace⟩, -⟩ := h
  show beforeValue mayClose within b = _
  simp only [beforeValue, hspace, hends, hquote, hopen, hclose, hbrace, Bool.false_eq_true,
    if_false]

/-- A bare word or number is read where a value must start. -/
theorem holds_of_word (hne : octets ≠ []) (h : ∀ b ∈ octets, endsWord b = false)
    (hvalue : wordValue? octets = some value) (mayClose : Bool) (within : List OpenValue) :
    ∃ r, run ⟨.value mayClose, within⟩ octets = some r ∧ Holds within value r := by
  obtain ⟨b, rest, rfl⟩ := List.exists_cons_of_ne_nil hne
  refine ⟨⟨.word (rest.reverse ++ [b]), within⟩, ?_, .word (by simpa using hvalue)⟩
  rw [run_cons, step_value_of_word (h b List.mem_cons_self), Option.bind_some,
    run_word fun c hc => h c (List.mem_cons_of_mem _ hc)]

/-- A mode of the reader between quotation marks. It gathers octets up to a bare quotation mark,
    and goes on with what they spell. -/
structure Gathers (mode : Octets → Bool → ReaderMode) (next : List Quoted.Piece → ReaderMode) :
    Prop where
  /-- Behind a backslash every octet is gathered. -/
  escaped : ∀ within body b,
    step ⟨mode body true, within⟩ b = some ⟨mode (b :: body) false, within⟩
  /-- Elsewhere all but quotation marks are. -/
  bare : ∀ within body b, b ≠ ascii '"' →
    step ⟨mode body false, within⟩ b = some ⟨mode (b :: body) (b = ascii '\\'), within⟩
  /-- A bare quotation mark ends the text. -/
  close : ∀ within body, step ⟨mode body false, within⟩ (ascii '"') =
    (Quoted.pieces? body.reverse).map fun pieces => ⟨next pieces, within⟩

/-- Texts are gathered. -/
theorem gathers_text : Gathers .text fun pieces => .done (.string pieces) where
  escaped _ _ _ := rfl
  bare _ _ _ hb := if_neg hb
  close _ _ := rfl

theorem gathers_key (members : List (List Quoted.Piece × Written)) :
    Gathers (.key members) (.colon members) where
  escaped _ _ _ := rfl
  bare _ _ _ hb := if_neg hb
  close _ _ := rfl

variable {mode : Octets → Bool → ReaderMode} {next : List Quoted.Piece → ReaderMode}

/-- Octets without a bare quotation mark are gathered. -/
theorem Gathers.run_body (hgathers : Gathers mode next) {escaped escaped' : Bool}
    (h : Quoted.scan escaped octets = some escaped') (body : Octets) :
    run ⟨mode body escaped, within⟩ octets =
      some ⟨mode (octets.reverse ++ body) escaped', within⟩ := by
  induction octets generalizing escaped body with
  | nil =>
    cases h
    rfl
  | cons b rest ih =>
    have hstep : ∃ left, step ⟨mode body escaped, within⟩ b =
        some ⟨mode (b :: body) left, within⟩ ∧ Quoted.scan left rest = some escaped' := by
      cases escaped with
      | true => exact ⟨false, hgathers.escaped within body b, h⟩
      | false =>
        rw [Quoted.scan] at h
        split at h
        · cases h
        · next hquote => exact ⟨b = ascii '\\', hgathers.bare within body b hquote, h⟩
    obtain ⟨left, hleft, hrest⟩ := hstep
    rw [run_cons, hleft, Option.bind_some, ih hrest]
    simp

/-- Spelled pieces and the quotation mark behind them are gathered. -/
theorem Gathers.run_render (hgathers : Gathers mode next) {pieces : List Quoted.Piece}
    (h : ∀ p ∈ pieces, p.IsSpelled) (within : List OpenValue) :
    run ⟨mode [] false, within⟩ (Quoted.render pieces ++ [ascii '"']) =
      some ⟨next pieces, within⟩ := by
  rw [run_append, hgathers.run_body (Quoted.scan_render pieces), Option.bind_some, run_cons,
    hgathers.close, List.append_nil, List.reverse_reverse, Quoted.pieces?_render h]
  rfl

end Reader

-- ════════════════════════════════════════════════════════════════════════
-- Reading what was written
-- ════════════════════════════════════════════════════════════════════════

namespace Written

open Reader (run step Holds)

theorem wordValue?_asciiOctets {text : List Char} (h : (Numeral.ofChars? text).isSome) :
    Reader.wordValue? (asciiOctets text) = some (.number text) := by
  obtain ⟨numeral, hnumeral⟩ := Option.isSome_iff_exists.1 h
  have hchars : (asciiOctets text).map (fun b => Char.ofNat b.toNat) = text := by
    rw [asciiOctets, List.map_map]
    exact (List.map_congr_left fun c hc =>
      (Numeral.isPart_of_ofChars? hnumeral c hc).ascii_spec.1).trans (List.map_id' text)
  have hword : ∀ word : List Char, Numeral.ofChars? word = none → text ≠ word := by
    rintro word hnone rfl
    rw [hnone] at hnumeral
    cases hnumeral
  show (if _ then _ else _) = _
  rw [hchars, if_neg (hword _ (by decide)), if_neg (hword _ (by decide)),
    if_neg (hword _ (by decide)), hnumeral]
  rfl

theorem endsWord_of_mem_asciiOctets {text : List Char} (h : (Numeral.ofChars? text).isSome) :
    ∀ b ∈ asciiOctets text, Reader.endsWord b = false := by
  obtain ⟨numeral, hnumeral⟩ := Option.isSome_iff_exists.1 h
  intro b hb
  obtain ⟨c, hc, rfl⟩ := List.mem_map.1 hb
  exact (Numeral.isPart_of_ofChars? hnumeral c hc).ascii_spec.2.1

theorem asciiOctets_ne_nil {text : List Char} (h : (Numeral.ofChars? text).isSome) :
    asciiOctets text ≠ [] := by
  intro hnil
  rw [List.map_eq_nil_iff.1 hnil] at h
  cases h

mutual

/-- The text of a tree leads to the end of that tree. -/
theorem exists_run_render : (w : Written) → w.IsSpelled → ∀ mayClose within,
    ∃ r, run ⟨.value mayClose, within⟩ w.render = some r ∧ Holds within w r
  | .null, _, mayClose, within =>
    Reader.holds_of_word (by decide) (List.all_iff_forall_prop.1 (by decide)) rfl mayClose within
  | .bool true, _, mayClose, within =>
    Reader.holds_of_word (by decide) (List.all_iff_forall_prop.1 (by decide)) rfl mayClose within
  | .bool false, _, mayClose, within =>
    Reader.holds_of_word (by decide) (List.all_iff_forall_prop.1 (by decide)) rfl mayClose within
  | .number _, h, mayClose, within =>
    Reader.holds_of_word (asciiOctets_ne_nil h) (endsWord_of_mem_asciiOctets h)
      (wordValue?_asciiOctets h) mayClose within
  | .string _, h, mayClose, within => ⟨_, Reader.gathers_text.run_render h within, .done⟩
  | .array [], _, _, _ => ⟨_, rfl, .done⟩
  | .array (item :: rest), h, _, within =>
    ⟨_, run_renderItems (item :: rest) h (List.cons_ne_nil _ _) true [] within, .done⟩
  | .object [], _, _, _ => ⟨_, rfl, .done⟩
  | .object (member :: rest), h, _, within =>
    ⟨_, run_renderMembers (member :: rest) h (List.cons_ne_nil _ _) true [] within, .done⟩

/-- The texts of items lead to the end of the array that they close. -/
theorem run_renderItems : (items : List Written) → ItemsSpelled items → items ≠ [] →
    ∀ mayClose sofar within, run ⟨.value mayClose, .array sofar :: within⟩
      (renderItems items ++ [ascii ']']) =
        some ⟨.done (.array (sofar.reverse ++ items)), within⟩
  | [], _, hne, _, _, _ => absurd rfl hne
  | [item], h, _, mayClose, sofar, within => by
    obtain ⟨r, hr, hholds⟩ := exists_run_render item h.1 mayClose (.array sofar :: within)
    show run _ (render item ++ [ascii ']']) = _
    rw [Reader.run_append, hr, Option.bind_some, Reader.run_cons, hholds.step_eq rfl]
    show some (Reader.mk (.done (.array (item :: sofar).reverse)) within) = _
    rw [List.reverse_cons]
  | item :: next :: rest, h, _, mayClose, sofar, within => by
    obtain ⟨r, hr, hholds⟩ := exists_run_render item h.1 mayClose (.array sofar :: within)
    have hrest := run_renderItems (next :: rest) h.2 (List.cons_ne_nil _ _) false
      (item :: sofar) within
    show run _ ((render item ++ ascii ',' :: renderItems (next :: rest)) ++ [ascii ']']) = _
    rw [List.append_assoc, Reader.run_append, hr, Option.bind_some, List.cons_append,
      Reader.run_cons, hholds.step_eq rfl]
    show run ⟨.value false, .array (item :: sofar) :: within⟩ _ = _
    rw [hrest, List.reverse_cons, List.append_assoc]
    rfl

/-- The texts of members lead to the end of the object that they close. -/
theorem run_renderMembers : (members : List (List Quoted.Piece × Written)) →
    MembersSpelled members → members ≠ [] →
    ∀ mayClose sofar within, run ⟨.member sofar mayClose, within⟩
      (renderMembers members ++ [ascii '\x7d']) =
        some ⟨.done (.object (sofar.reverse ++ members)), within⟩
  | [], _, hne, _, _, _ => absurd rfl hne
  | [member], h, _, mayClose, sofar, within => by
    obtain ⟨r, hr, hholds⟩ := exists_run_renderMember member h.1 mayClose sofar within
    show run _ (renderMember member ++ [ascii '\x7d']) = _
    rw [Reader.run_append, hr, Option.bind_some, Reader.run_cons, hholds.step_eq rfl]
    show some (Reader.mk (.done (.object (member :: sofar).reverse)) within) = _
    rw [List.reverse_cons]
  | member :: next :: rest, h, _, mayClose, sofar, within => by
    obtain ⟨r, hr, hholds⟩ := exists_run_renderMember member h.1 mayClose sofar within
    have hrest := run_renderMembers (next :: rest) h.2 (List.cons_ne_nil _ _) false
      (member :: sofar) within
    show run _ ((renderMember member ++ ascii ',' :: renderMembers (next :: rest)) ++ _) = _
    rw [List.append_assoc, Reader.run_append, hr, Option.bind_some, List.cons_append,
      Reader.run_cons, hholds.step_eq rfl]
    show run ⟨.member (member :: sofar) false, within⟩ _ = _
    rw [hrest, List.reverse_cons, List.append_assoc]
    rfl

/-- The text of a member leads to the end of its value, with the member still open. -/
theorem exists_run_renderMember : (member : List Quoted.Piece × Written) →
    MemberSpelled member → ∀ mayClose sofar within,
    ∃ r, run ⟨.member sofar mayClose, within⟩ (renderMember member) = some r ∧
      Holds (.object sofar member.1 :: within) member.2 r
  | (key, value), h, mayClose, sofar, within => by
    obtain ⟨r, hr, hholds⟩ := exists_run_render value h.2 false (.object sofar key :: within)
    have hkey : run ⟨.member sofar mayClose, within⟩ (quote key) =
        some ⟨.colon sofar key, within⟩ :=
      (Reader.gathers_key sofar).run_render h.1 within
    refine ⟨r, ?_, hholds⟩
    show run _ (quote key ++ ascii ':' :: render value) = _
    rw [Reader.run_append, hkey, Option.bind_some]
    exact hr

end

/-- Reading is the inverse of writing. -/
theorem read?_render {w : Written} (h : w.IsSpelled) : read? w.render = some w := by
  obtain ⟨r, hr, hholds⟩ := exists_run_render w h false []
  show (run ⟨.value false, []⟩ w.render).bind Reader.result? = _
  rw [hr, Option.bind_some, hholds.result?]

-- ════════════════════════════════════════════════════════════════════════
-- Characters of written text
-- ════════════════════════════════════════════════════════════════════════

theorem le_of_mem_quote {pieces : List Quoted.Piece} {b : UInt8} (h : b ∈ quote pieces) :
    32 ≤ b := by
  rcases List.mem_append.1 h with h | h
  · rcases List.mem_cons.1 h with rfl | h
    · decide
    · exact Quoted.le_of_mem_render h
  · obtain rfl := List.mem_singleton.1 h
    decide

mutual

/-- Written text has no control characters. -/
theorem le_of_mem_render {b : UInt8} : (w : Written) → w.IsSpelled → b ∈ w.render → 32 ≤ b
  | .null, _, h => by
    exact List.all_iff_forall_prop.1 (by decide) b h
  | .bool true, _, h => by
    exact List.all_iff_forall_prop.1 (by decide) b h
  | .bool false, _, h => by
    exact List.all_iff_forall_prop.1 (by decide) b h
  | .number _, hspelled, h => by
    obtain ⟨numeral, hnumeral⟩ := Option.isSome_iff_exists.1 hspelled
    obtain ⟨c, hc, rfl⟩ := List.mem_map.1 h
    exact (Numeral.isPart_of_ofChars? hnumeral c hc).ascii_spec.2.2
  | .string _, _, h => le_of_mem_quote h
  | .array items, hspelled, h => by
    rcases List.mem_append.1 h with h | h
    · rcases List.mem_cons.1 h with rfl | h
      · decide
      · exact le_of_mem_renderItems items hspelled h
    · obtain rfl := List.mem_singleton.1 h
      decide
  | .object members, hspelled, h => by
    rcases List.mem_append.1 h with h | h
    · rcases List.mem_cons.1 h with rfl | h
      · decide
      · exact le_of_mem_renderMembers members hspelled h
    · obtain rfl := List.mem_singleton.1 h
      decide

theorem le_of_mem_renderItems {b : UInt8} : (items : List Written) → ItemsSpelled items →
    b ∈ renderItems items → 32 ≤ b
  | [], _, h => absurd h List.not_mem_nil
  | [item], hspelled, h => le_of_mem_render item hspelled.1 h
  | item :: next :: rest, hspelled, h => by
    rcases List.mem_append.1 h with h | h
    · exact le_of_mem_render item hspelled.1 h
    · rcases List.mem_cons.1 h with rfl | h
      · decide
      · exact le_of_mem_renderItems (next :: rest) hspelled.2 h

theorem le_of_mem_renderMembers {b : UInt8} : (members : List (List Quoted.Piece × Written)) →
    MembersSpelled members → b ∈ renderMembers members → 32 ≤ b
  | [], _, h => absurd h List.not_mem_nil
  | [member], hspelled, h => le_of_mem_renderMember member hspelled.1 h
  | member :: next :: rest, hspelled, h => by
    rcases List.mem_append.1 h with h | h
    · exact le_of_mem_renderMember member hspelled.1 h
    · rcases List.mem_cons.1 h with rfl | h
      · decide
      · exact le_of_mem_renderMembers (next :: rest) hspelled.2 h

theorem le_of_mem_renderMember {b : UInt8} : (member : List Quoted.Piece × Written) →
    MemberSpelled member → b ∈ renderMember member → 32 ≤ b
  | (_, value), hspelled, h => by
    rcases List.mem_append.1 h with h | h
    · exact le_of_mem_quote h
    · rcases List.mem_cons.1 h with rfl | h
      · decide
      · exact le_of_mem_render value hspelled.2 h

end

end Written

-- ════════════════════════════════════════════════════════════════════════
-- Texts that are cut short
-- ════════════════════════════════════════════════════════════════════════

namespace Reader

variable {r r' : Reader} {b : UInt8} {octets : Octets}

/-- A reader around which nothing is open, at or inside a value: the text may be over. -/
inductive IsOver : Reader → Prop
  /-- After a value. -/
  | done (value : Written) : IsOver ⟨.done value, []⟩
  /-- Inside a bare word. -/
  | word (body : Octets) : IsOver ⟨.word body, []⟩

theorem isOver_of_result? {value : Written} (h : r.result? = some value) : IsOver r := by
  unfold result? at h
  split at h
  · next hmode hwithin =>
    obtain ⟨mode, within⟩ := r
    cases hmode
    cases hwithin
    exact .done _
  · next hmode hwithin =>
    obtain ⟨mode, within⟩ := r
    cases hmode
    cases hwithin
    exact .word _
  · cases h

/-- Only spaces can follow a complete text. -/
theorem eq_of_afterValue_nil {value : Written} (h : afterValue value [] b = some r) :
    r = ⟨.done value, []⟩ ∧ isSpace b = true := by
  unfold afterValue at h
  split at h
  · next hspace => exact ⟨(Option.some.inj h).symm, hspace⟩
  · cases h

/-- Nothing is opened any more once the text may be over. -/
theorem IsOver.step (h : IsOver r) (hstep : r.step b = some r') : IsOver r' := by
  cases h with
  | done value =>
    rw [(eq_of_afterValue_nil hstep).1]
    exact .done value
  | word body =>
    change (if endsWord b then _ else _) = _ at hstep
    split at hstep
    · obtain ⟨value, -, hvalue⟩ := Option.bind_eq_some_iff.1 hstep
      rw [(eq_of_afterValue_nil hvalue).1]
      exact .done value
    · cases hstep
      exact .word _

theorem IsOver.run (h : IsOver r) (hrun : r.run octets = some r') : IsOver r' := by
  induction octets generalizing r with
  | nil =>
    cases hrun
    exact h
  | cons b rest ih =>
    rw [run_cons] at hrun
    obtain ⟨next, hstep, hrest⟩ := Option.bind_eq_some_iff.1 hrun
    exact ih (h.step hstep) hrest

/-- No brace can close once the text may be over. -/
theorem IsOver.run_close (h : IsOver r) (octets : Octets) :
    r.run (octets ++ [ascii '\x7d']) = none := by
  rw [run_append]
  cases hrun : r.run octets with
  | none => rfl
  | some r' =>
    cases h.run hrun with
    | done value => rfl
    | word body =>
      show ((wordValue? body.reverse).bind _).bind _ = _
      cases wordValue? body.reverse with
      | none => rfl
      | some value => rfl

end Reader

namespace Written

open Reader (run start IsOver)

variable {octets rest : Octets} {b : UInt8}

/-- A proper beginning of a text that ends in a closing brace is not a text. -/
theorem read?_eq_none_of_append (h : (read? (octets ++ rest ++ [ascii '\x7d'])).isSome) :
    read? octets = none := by
  refine Option.eq_none_iff_forall_ne_some.2 fun value hvalue => ?_
  obtain ⟨r, hr, hresult⟩ := Option.bind_eq_some_iff.1 hvalue
  have hover := (Reader.isOver_of_result? hresult).run_close rest
  rw [read?, List.append_assoc, Reader.run_append, hr, Option.bind_some, hover] at h
  cases h

/-- A text that begins with a bare word cannot end in a closing brace. -/
theorem read?_eq_none_of_word (h : Reader.endsWord b = false) (octets : Octets) :
    read? (b :: (octets ++ [ascii '\x7d'])) = none := by
  show (run start (b :: _)).bind _ = _
  rw [Reader.run_cons, start, Reader.step_value_of_word h, Option.bind_some,
    (IsOver.word [b]).run_close]
  rfl

/-- An end of line before a text is passed over. -/
theorem read?_lineFeed (octets : Octets) : read? (10 :: octets) = read? octets := rfl

end Written

end Sitemap
