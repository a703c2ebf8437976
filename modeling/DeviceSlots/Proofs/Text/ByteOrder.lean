/-!
# The order of texts

Texts are compared by their code points. Their UTF-8 bytes compare the same way: the bytes of a
smaller character come first, whatever follows them, since a longer encoding has a larger first byte
and the bytes of encodings of one length are the digits of the code point.
-/

namespace DeviceSlots.Text

/-- The bytes of a text in UTF-8. -/
def utf8 (text : String) : List UInt8 := text.toUTF8.data.toList

theorem utf8_eq (text : String) : utf8 text = text.toList.flatMap String.utf8EncodeChar := by
  rw [utf8, String.toUTF8, ← String.utf8Encode_toList, List.utf8Encode, List.toList_data_toByteArray]

/-- Numbers with the same digits before the last compare by the last. -/
theorem digits_lt {m n : Nat} (h : m < n) :
    m / 64 < n / 64 ∨ m / 64 = n / 64 ∧ m % 64 < n % 64 := by
  omega

/-- Texts that differ in a character compare by its bytes, whatever comes after them. -/
theorem utf8EncodeChar_append_lt {c d : Char} (h : c < d) (xs ys : List UInt8) :
    String.utf8EncodeChar c ++ xs < String.utf8EncodeChar d ++ ys := by
  have hlt : c.val.toNat < d.val.toNat := h
  have hd : d.val.toNat < 0x110000 := by
    rcases d.valid with h | ⟨-, h⟩ <;> omega
  -- the first byte of each length, and the bytes that continue, are all less than 256
  have hcontinued : ∀ x, (x % 64 + 0x80) % 256 = x % 64 + 0x80 := by omega
  have hfirstOfTwo : ∀ x, (x % 32 + 0xc0) % 256 = x % 32 + 0xc0 := by omega
  have hfirstOfThree : ∀ x, (x % 16 + 0xe0) % 256 = x % 16 + 0xe0 := by omega
  have hfirstOfFour : ∀ x, (x % 8 + 0xf0) % 256 = x % 8 + 0xf0 := by omega
  have htwice : ∀ x, x / 4096 = x / 64 / 64 := by omega
  have hthrice : ∀ x, x / 262144 = x / 64 / 64 / 64 := by omega
  simp only [String.utf8EncodeChar]
  generalize c.val.toNat = m at hlt
  generalize d.val.toNat = n at hlt hd
  have hlast := digits_lt hlt
  have hmiddle : m / 64 < n / 64 → _ := digits_lt
  have hfirst : m / 64 / 64 < n / 64 / 64 → _ := digits_lt
  repeat' split
  all_goals
    simp only [List.cons_append, List.nil_append, List.cons_lt_cons_iff, UInt8.lt_iff_toNat_lt,
      ← UInt8.toNat_inj, UInt8.toNat_ofNat', Nat.reducePow, hcontinued, hfirstOfTwo, hfirstOfThree,
      hfirstOfFour, htwice, hthrice]
    clear hcontinued hfirstOfTwo hfirstOfThree hfirstOfFour htwice hthrice
    omega

theorem flatMap_utf8EncodeChar_lt {cs ds : List Char} (h : cs < ds) :
    cs.flatMap String.utf8EncodeChar < ds.flatMap String.utf8EncodeChar := by
  induction ds generalizing cs with
  | nil => exact absurd h (List.not_lt_nil cs)
  | cons d ds ih =>
    cases cs with
    | nil =>
      obtain ⟨byte, rest, hbytes⟩ := List.exists_cons_of_ne_nil (String.utf8EncodeChar_ne_nil (c := d))
      rw [List.flatMap_cons, hbytes]
      exact List.nil_lt_cons byte _
    | cons c cs =>
      rw [List.flatMap_cons, List.flatMap_cons]
      rcases List.cons_lt_cons_iff.mp h with hlt | ⟨rfl, hrest⟩
      · exact utf8EncodeChar_append_lt hlt _ _
      · exact List.append_left_lt (ih hrest)

/-- Texts are in the order of their bytes. -/
theorem utf8_lt_utf8_iff (a b : String) : utf8 a < utf8 b ↔ a < b := by
  have hforward : ∀ {a b : String}, a < b → utf8 a < utf8 b := by
    intro a b h
    rw [utf8_eq, utf8_eq]
    exact flatMap_utf8EncodeChar_lt h
  refine ⟨fun h => ?_, hforward⟩
  apply Decidable.byContradiction
  intro hnot
  by_cases heq : b = a
  · subst heq
    exact List.lt_irrefl _ h
  · exact List.lt_asymm h (hforward (Std.lt_of_le_of_ne (String.not_lt.mp hnot) heq))

end DeviceSlots.Text
