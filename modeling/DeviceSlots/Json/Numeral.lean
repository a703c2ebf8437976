import DeviceSlots.Json.Binary64

/-!
# Numerals

A JSON number as it is written: a sign, digits, perhaps a fraction, perhaps an exponent. A numeral
without fraction and exponent is an integer as long as it fits a 64-bit word; every other numeral is
a floating-point number.
-/

namespace DeviceSlots.Json

/-- A number as it is written. Digits are decimal, most significant first. -/
structure Numeral where
  negative : Bool
  whole : List Char
  /-- The digits after the point. -/
  fraction : Option (List Char)
  /-- The sign of the exponent, true if it is negative, and its digits. -/
  exponent : Option (Bool × List Char)
  deriving DecidableEq, Repr

/-- What a numeral denotes. -/
inductive Quantity
  /-- A number below `2 ^ 64`. -/
  | natural (n : Nat)
  /-- The negative of a number from 1 to `2 ^ 63`. -/
  | negative (n : Nat)
  /-- A floating-point number. -/
  | real (negative : Bool) (magnitude : Binary64)
  deriving DecidableEq, Repr

namespace Numeral

/-! ## Reading -/

/-- The digits at the front of a text, and what follows them. -/
def digits (text : List Char) : List Char × List Char :=
  (text.takeWhile Char.isDigit, text.dropWhile Char.isDigit)

/-- A nonempty row of digits at the front of a text. -/
def digits1? (text : List Char) : Option (List Char × List Char) :=
  match digits text with
  | ([], _) => none
  | found => some found

/-- The digits of a whole number at the front of a text: a lone zero, or digits without a leading
zero. -/
def whole? (text : List Char) : Option (List Char × List Char) := do
  let (ds, rest) ← digits1? text
  if ds.head? = some '0' && ds.length > 1 then none else some (ds, rest)

/-- The fraction at the front of a text, if there is one. -/
def fraction? : List Char → Option (Option (List Char) × List Char)
  | '.' :: rest => (digits1? rest).map fun (ds, rest') => (some ds, rest')
  | text => some (none, text)

/-- The sign of an exponent, true if it is negative, and what follows it. -/
def exponentSign : List Char → Bool × List Char
  | '+' :: rest => (false, rest)
  | '-' :: rest => (true, rest)
  | text => (false, text)

/-- The exponent at the front of a text, if there is one. -/
def exponent? : List Char → Option (Option (Bool × List Char) × List Char)
  | [] => some (none, [])
  | c :: rest =>
    if c = 'e' || c = 'E' then
      let (negative, rest') := exponentSign rest
      (digits1? rest').map fun (ds, rest'') => (some (negative, ds), rest'')
    else
      some (none, c :: rest)

/-- The sign at the front of a text, true if there is one, and what follows it. -/
def sign : List Char → Bool × List Char
  | '-' :: rest => (true, rest)
  | text => (false, text)

/-- The longest numeral at the front of a text, and what follows it. -/
def scan? (text : List Char) : Option (Numeral × List Char) := do
  let (negative, rest) := sign text
  let (whole, rest) ← whole? rest
  let (fraction, rest) ← fraction? rest
  let (exponent, rest) ← exponent? rest
  return ({ negative, whole, fraction, exponent }, rest)

/-! ## Writing -/

/-- The numeral of a natural number. -/
def ofNat (n : Nat) : Numeral := ⟨false, Nat.toDigits 10 n, none, none⟩

/-- The text of a numeral. -/
def text (x : Numeral) : List Char :=
  (if x.negative then ['-'] else []) ++ x.whole ++
    (match x.fraction with
    | some ds => '.' :: ds
    | none => []) ++
    (match x.exponent with
    | some (negative, ds) => 'e' :: (if negative then ['-'] else []) ++ ds
    | none => [])

/-! ## Meaning -/

/-- The greatest significand that is kept. -/
def maxSignificand : Nat := UInt64.size - 1

/-- The greatest exponent that is kept. -/
def maxExponent : Nat := UInt32.size / 2 - 1

/-- Appends digits to a significand as long as it stays within its bound. Gives the significand and
the digits that were left out. -/
def absorb (significand : Nat) : List Char → Nat × List Char
  | [] => (significand, [])
  | d :: ds =>
    let next := significand * 10 + (d.toNat - '0'.toNat)
    if next ≤ maxSignificand then absorb next ds else (significand, d :: ds)

/-- The magnitude of a floating-point numeral, or `none` if it is beyond the greatest one. Digits
that do not fit the significand count as zeros before the point and as nothing after it. -/
def magnitude? (x : Numeral) : Option Binary64 :=
  let (head, dropped) := absorb 0 x.whole
  let (significand, shift) :=
    match x.fraction with
    | none => (head, (dropped.length : Int))
    | some ds =>
      let (all, left) := absorb head ds
      (all, (dropped.length : Int) - ((ds.length - left.length : Nat) : Int))
  match x.exponent with
  | none => Binary64.ofDecimal? significand shift
  | some (negative, ds) =>
    let power := Nat.ofDigitChars 10 ds 0
    if power > maxExponent then
      if significand ≠ 0 && !negative then none else some .zero
    else
      let signed : Int := if negative then -(power : Int) else power
      Binary64.ofDecimal? significand (shift + signed)

/-- What the numeral denotes, or `none` if it is too large. -/
def quantity? (x : Numeral) : Option Quantity :=
  let n := Nat.ofDigitChars 10 x.whole 0
  if x.fraction.isSome || x.exponent.isSome || n > maxSignificand then
    x.magnitude?.map (.real x.negative)
  else if !x.negative then
    some (.natural n)
  else if 0 < n && n ≤ UInt64.size / 2 then
    some (.negative n)
  else
    (Binary64.ofDecimal? n 0).map (.real true)

theorem length_of_digits1? {text ds rest : List Char} (h : digits1? text = some (ds, rest)) :
    rest.length < text.length := by
  have hsplit : (digits text).1 ++ (digits text).2 = text := List.takeWhile_append_dropWhile
  unfold digits1? at h
  split at h
  · contradiction
  · rename_i hne
    have heq : digits text = (ds, rest) := Option.some.inj h
    rw [heq] at hsplit
    cases ds with
    | nil => exact absurd heq (hne rest)
    | cons d ds => subst hsplit; simp only [List.length_append, List.length_cons]; omega

theorem length_of_whole? {text ds rest : List Char} (h : whole? text = some (ds, rest)) :
    rest.length < text.length := by
  unfold whole? at h
  cases hd : digits1? text with
  | none => simp [hd] at h
  | some found =>
    simp only [hd, Option.bind_eq_bind, Option.bind_some] at h
    split at h
    · contradiction
    · have heq : found = (ds, rest) := Option.some.inj h
      exact length_of_digits1? (heq ▸ hd)

theorem length_of_fraction? {text rest : List Char} {ds : Option (List Char)}
    (h : fraction? text = some (ds, rest)) : rest.length ≤ text.length := by
  unfold fraction? at h
  split at h
  · rename_i rest'
    cases hd : digits1? rest' with
    | none => simp [hd] at h
    | some found =>
      simp only [hd, Option.map_some, Option.some.injEq, Prod.mk.injEq] at h
      have := length_of_digits1? hd
      simp only [← h.2, List.length_cons]
      omega
  · simp_all

theorem length_exponentSign_le (text : List Char) :
    (exponentSign text).2.length ≤ text.length := by
  unfold exponentSign
  split <;> simp

theorem length_of_exponent? {text rest : List Char} {e : Option (Bool × List Char)}
    (h : exponent? text = some (e, rest)) : rest.length ≤ text.length := by
  unfold exponent? at h
  split at h
  · simp_all
  · rename_i c rest'
    split at h
    · cases hd : digits1? (exponentSign rest').2 with
      | none => simp [hd] at h
      | some found =>
        simp only [hd, Option.map_some, Option.some.injEq, Prod.mk.injEq] at h
        have hlen := length_of_digits1? hd
        have hsign := length_exponentSign_le rest'
        simp only [← h.2, List.length_cons]
        omega
    · simp_all

theorem length_sign_le (text : List Char) : (sign text).2.length ≤ text.length := by
  unfold sign
  split <;> simp

/-- A numeral takes at least one character. -/
theorem length_of_scan? {text rest : List Char} {x : Numeral}
    (h : scan? text = some (x, rest)) : rest.length < text.length := by
  unfold scan? at h
  have hsign := length_sign_le text
  cases hw : whole? (sign text).2 with
  | none => simp [hw] at h
  | some w =>
    have h1 := length_of_whole? hw
    cases hf : fraction? w.2 with
    | none => simp [hw, hf] at h
    | some f =>
      have h2 := length_of_fraction? hf
      cases he : exponent? f.2 with
      | none => simp [hw, hf, he] at h
      | some e =>
        have h3 := length_of_exponent? he
        simp only [hw, hf, he, Option.bind_eq_bind, Option.bind_some, Option.pure_def,
          Option.some.injEq, Prod.mk.injEq] at h
        rw [← h.2]
        omega

end Numeral

end DeviceSlots.Json
