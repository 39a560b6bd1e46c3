import Sitemap.Keyed.Basic
import Sitemap.Number.Binary64

/-!
# JSON values

Extension data of a page and configurations of a widget are opaque JSON values:
the library stores them, compares them and hands them back.

## Main definitions

- `Json` — JSON values as trees
- `Json.IsCanonical` — keys of every object ascend, integers fit in 64 bits
- `JsonValue` — a JSON value in canonical form
- `JsonValue.Agrees` — equality of values as JSON data

## Design notes

An integer and a number written with a fraction are different values, even when
they are equal as numbers. Objects forget the order in which their members were
written; canonical form keeps the members in ascending order of keys, so that
equal objects are equal terms.

Zero and negative zero are one number with two texts. `JsonValue.Agrees`
identifies them, equality of terms does not.
-/

namespace Sitemap

/-- JSON values as trees. -/
inductive Json where
  /-- The value `null`. -/
  | null
  /-- A truth value. -/
  | bool (value : Bool)
  /-- A number written without fraction and exponent. -/
  | int (value : Int)
  /-- A number written with a fraction or an exponent, or too large for 64 bits. -/
  | fraction (value : Binary64)
  /-- A text. -/
  | string (value : String)
  /-- A list of values. -/
  | array (items : List Json)
  /-- Values under names. -/
  | object (members : List (String × Json))

namespace Json

-- ════════════════════════════════════════════════════════════════════════
-- Equality of terms
-- ════════════════════════════════════════════════════════════════════════

mutual

/-- Equality of trees is decidable. -/
def decEq : (a b : Json) → Decidable (a = b)
  | .null, .null => isTrue rfl
  | .bool x, .bool y => decidable_of_iff (x = y) (by simp)
  | .int x, .int y => decidable_of_iff (x = y) (by simp)
  | .fraction x, .fraction y => decidable_of_iff (x = y) (by simp)
  | .string x, .string y => decidable_of_iff (x = y) (by simp)
  | .array x, .array y =>
    match decEqItems x y with
    | isTrue h => isTrue (by simp [h])
    | isFalse h => isFalse (by simp [h])
  | .object x, .object y =>
    match decEqMembers x y with
    | isTrue h => isTrue (by simp [h])
    | isFalse h => isFalse (by simp [h])
  | .null, .bool _ | .null, .int _ | .null, .fraction _ | .null, .string _ | .null, .array _
  | .null, .object _ => isFalse (by simp)
  | .bool _, .null | .bool _, .int _ | .bool _, .fraction _ | .bool _, .string _
  | .bool _, .array _ | .bool _, .object _ => isFalse (by simp)
  | .int _, .null | .int _, .bool _ | .int _, .fraction _ | .int _, .string _ | .int _, .array _
  | .int _, .object _ => isFalse (by simp)
  | .fraction _, .null | .fraction _, .bool _ | .fraction _, .int _ | .fraction _, .string _
  | .fraction _, .array _ | .fraction _, .object _ => isFalse (by simp)
  | .string _, .null | .string _, .bool _ | .string _, .int _ | .string _, .fraction _
  | .string _, .array _ | .string _, .object _ => isFalse (by simp)
  | .array _, .null | .array _, .bool _ | .array _, .int _ | .array _, .fraction _
  | .array _, .string _ | .array _, .object _ => isFalse (by simp)
  | .object _, .null | .object _, .bool _ | .object _, .int _ | .object _, .fraction _
  | .object _, .string _ | .object _, .array _ => isFalse (by simp)

/-- Equality of lists of trees is decidable. -/
def decEqItems : (a b : List Json) → Decidable (a = b)
  | [], [] => isTrue rfl
  | [], _ :: _ | _ :: _, [] => isFalse (by simp)
  | x :: xs, y :: ys =>
    match decEq x y, decEqItems xs ys with
    | isTrue h, isTrue k => isTrue (by simp [h, k])
    | isFalse h, _ => isFalse (by simp [h])
    | _, isFalse h => isFalse (by simp [h])

/-- Equality of lists of members is decidable. -/
def decEqMembers : (a b : List (String × Json)) → Decidable (a = b)
  | [], [] => isTrue rfl
  | [], _ :: _ | _ :: _, [] => isFalse (by simp)
  | x :: xs, y :: ys =>
    match decEqMember x y, decEqMembers xs ys with
    | isTrue h, isTrue k => isTrue (by simp [h, k])
    | isFalse h, _ => isFalse (by simp [h])
    | _, isFalse h => isFalse (by simp [h])

/-- Equality of members is decidable. -/
def decEqMember : (a b : String × Json) → Decidable (a = b)
  | (k, x), (l, y) =>
    match decEq x y with
    | isTrue h => decidable_of_iff (k = l) (by simp [h])
    | isFalse h => isFalse (by simp [h])

end

instance : DecidableEq Json := decEq

-- ════════════════════════════════════════════════════════════════════════
-- Canonical form
-- ════════════════════════════════════════════════════════════════════════

mutual

/-- The keys of every object ascend, and every integer fits in 64 bits, signed or
    unsigned. -/
def IsCanonical : Json → Prop
  | .int n => -9223372036854775808 ≤ n ∧ n < 18446744073709551616
  | .array items => ItemsCanonical items
  | .object members => KeysAscend members ∧ MembersCanonical members
  | .null | .bool _ | .fraction _ | .string _ => True

/-- Every item is canonical. -/
def ItemsCanonical : List Json → Prop
  | [] => True
  | item :: rest => IsCanonical item ∧ ItemsCanonical rest

/-- The value of every member is canonical. -/
def MembersCanonical : List (String × Json) → Prop
  | [] => True
  | member :: rest => MemberCanonical member ∧ MembersCanonical rest

/-- The value of a member is canonical. -/
def MemberCanonical : String × Json → Prop
  | (_, value) => IsCanonical value

end

mutual

/-- Canonical form is decidable. -/
def decCanonical : (j : Json) → Decidable j.IsCanonical
  | .int n =>
    inferInstanceAs (Decidable (-9223372036854775808 ≤ n ∧ n < 18446744073709551616))
  | .array items => decItemsCanonical items
  | .object members =>
    match decMembersCanonical members with
    | isTrue h => decidable_of_iff (KeysAscend members) (by simp [IsCanonical, h])
    | isFalse h => isFalse fun canonical => h canonical.2
  | .null | .bool _ | .fraction _ | .string _ => isTrue trivial

/-- Canonical form of every item is decidable. -/
def decItemsCanonical : (items : List Json) → Decidable (ItemsCanonical items)
  | [] => isTrue trivial
  | item :: rest =>
    match decCanonical item, decItemsCanonical rest with
    | isTrue h, isTrue k => isTrue ⟨h, k⟩
    | isFalse h, _ => isFalse fun canonical => h canonical.1
    | _, isFalse h => isFalse fun canonical => h canonical.2

/-- Canonical form of the value of every member is decidable. -/
def decMembersCanonical : (members : List (String × Json)) → Decidable (MembersCanonical members)
  | [] => isTrue trivial
  | member :: rest =>
    match decMemberCanonical member, decMembersCanonical rest with
    | isTrue h, isTrue k => isTrue ⟨h, k⟩
    | isFalse h, _ => isFalse fun canonical => h canonical.1
    | _, isFalse h => isFalse fun canonical => h canonical.2

/-- Canonical form of the value of a member is decidable. -/
def decMemberCanonical : (member : String × Json) → Decidable (MemberCanonical member)
  | (_, value) => decCanonical value

end

instance : DecidablePred IsCanonical := decCanonical

-- ════════════════════════════════════════════════════════════════════════
-- Values as data
-- ════════════════════════════════════════════════════════════════════════

mutual

/-- The same data with every negative zero replaced by zero. -/
def unsignedZeros : Json → Json
  | .fraction x => .fraction (if x.isZero then .zero else x)
  | .array items => .array (itemsUnsignedZeros items)
  | .object members => .object (membersUnsignedZeros members)
  | .null => .null
  | .bool b => .bool b
  | .int n => .int n
  | .string s => .string s

/-- `unsignedZeros` on every item. -/
def itemsUnsignedZeros : List Json → List Json
  | [] => []
  | item :: rest => unsignedZeros item :: itemsUnsignedZeros rest

/-- `unsignedZeros` on the value of every member. -/
def membersUnsignedZeros : List (String × Json) → List (String × Json)
  | [] => []
  | member :: rest => memberUnsignedZeros member :: membersUnsignedZeros rest

/-- `unsignedZeros` on the value of a member. -/
def memberUnsignedZeros : String × Json → String × Json
  | (key, value) => (key, unsignedZeros value)

end

end Json

/-- A JSON value in canonical form. -/
structure JsonValue where
  /-- The value as a tree. -/
  tree : Json
  /-- Its objects are sorted and its integers fit in 64 bits. -/
  canonical : tree.IsCanonical

namespace JsonValue

instance : DecidableEq JsonValue := fun a b =>
  decidable_of_iff (a.tree = b.tree) (by cases a; cases b; simp)

/-- The value of a tree, if it is in canonical form. -/
def ofTree? (tree : Json) : Option JsonValue :=
  if h : tree.IsCanonical then some ⟨tree, h⟩ else none

/-- The value `null`. -/
def null : JsonValue := ⟨.null, trivial⟩

instance : Inhabited JsonValue := ⟨null⟩

/-- Whether the value is `null`. -/
def isNull (v : JsonValue) : Bool :=
  v.tree matches .null

/-- Two values are the same JSON data: they differ at most in the sign of zeros. -/
def Agrees (a b : JsonValue) : Prop :=
  a.tree.unsignedZeros = b.tree.unsignedZeros

instance (a b : JsonValue) : Decidable (a.Agrees b) :=
  inferInstanceAs (Decidable (_ = _))

theorem Agrees.refl (a : JsonValue) : a.Agrees a := rfl

theorem Agrees.symm {a b : JsonValue} (h : a.Agrees b) : b.Agrees a := Eq.symm h

theorem Agrees.trans {a b c : JsonValue} (h : a.Agrees b) (k : b.Agrees c) : a.Agrees c :=
  Eq.trans h k

/-- Optional values agree when both are absent or both are present and agree. -/
def OptionAgrees : Option JsonValue → Option JsonValue → Prop
  | none, none => True
  | some a, some b => a.Agrees b
  | none, some _ | some _, none => False

instance : (a b : Option JsonValue) → Decidable (OptionAgrees a b)
  | none, none => isTrue trivial
  | some a, some b => inferInstanceAs (Decidable (a.Agrees b))
  | none, some _ | some _, none => isFalse id

theorem OptionAgrees.refl : (a : Option JsonValue) → OptionAgrees a a
  | none => trivial
  | some a => Agrees.refl a

theorem OptionAgrees.trans : {a b c : Option JsonValue} →
    OptionAgrees a b → OptionAgrees b c → OptionAgrees a c
  | none, none, none, _, _ => trivial
  | some _, some _, some _, h, k => Agrees.trans h k

end JsonValue

end Sitemap
