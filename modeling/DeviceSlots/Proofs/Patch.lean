import DeviceSlots.Proofs.Buffer

/-!
# Patches

A patch replaces the least significant bytes of a word, which come first. Where a word stands in a
buffer between other bytes, it is read from its start, and a patch that is written there replaces
bytes of this word only.
-/

namespace DeviceSlots

/-! ## Patched words -/

namespace Word

/-- The word with the given bytes in place of as many of its least significant ones. -/
def patch (word : UInt64) (bytes : List UInt8) : UInt64 :=
  let base := Nat.pow 256 bytes.length
  UInt64.ofNat (ofLittleEndian bytes + base * (word.toNat / base))

theorem littleEndian_mod (width n : Nat) :
    littleEndian width (n % Nat.pow 256 width) = littleEndian width n := by
  induction width generalizing n with
  | zero => rfl
  | succ width ih =>
    have hpow : Nat.pow 256 (width + 1) = 256 * Nat.pow 256 width := Nat.pow_succ'
    have hbyte : UInt8.ofNat (n % (256 * Nat.pow 256 width)) = UInt8.ofNat n := by
      apply UInt8.toNat_inj.mp
      rw [UInt8.toNat_ofNat', UInt8.toNat_ofNat']
      exact Nat.mod_mul_right_mod n 256 _
    rw [hpow, littleEndian, littleEndian, hbyte, Nat.mod_mul_right_div_self, ih]

/-- The bytes of a number whose least significant bytes are given. -/
theorem littleEndian_append (bytes : List UInt8) (width n : Nat) :
    littleEndian (bytes.length + width) (ofLittleEndian bytes + Nat.pow 256 bytes.length * n) =
      bytes ++ littleEndian width n := by
  induction bytes with
  | nil => simp [ofLittleEndian]
  | cons byte rest ih =>
    have hpow : Nat.pow 256 (rest.length + 1) = 256 * Nat.pow 256 rest.length := Nat.pow_succ'
    have hbyte : byte.toNat < 256 := byte.toNat_lt
    rw [ofLittleEndian, List.length_cons, Nat.add_right_comm, hpow, Nat.mul_assoc,
      Nat.add_assoc byte.toNat, ← Nat.mul_add, List.cons_append, ← ih]
    generalize ofLittleEndian rest + Nat.pow 256 rest.length * n = high
    have hlow : UInt8.ofNat (byte.toNat + 256 * high) = byte := by
      apply UInt8.toNat_inj.mp
      rw [UInt8.toNat_ofNat']
      omega
    have hhigh : (byte.toNat + 256 * high) / 256 = high := by omega
    rw [littleEndian, hlow, hhigh]

theorem drop_littleEndian (count width n : Nat) :
    (littleEndian (count + width) n).drop count =
      littleEndian width (n / Nat.pow 256 count) := by
  induction count generalizing n with
  | zero => simp
  | succ count ih =>
    have hpow : Nat.pow 256 (count + 1) = 256 * Nat.pow 256 count := Nat.pow_succ'
    rw [Nat.add_right_comm, littleEndian, List.drop_succ_cons, ih, hpow, Nat.div_div_eq_div_mul]

/-- A patch replaces the first bytes of the word and keeps the others. -/
theorem toBytes_patch {bytes : List UInt8} (h : bytes.length ≤ slotSize) (word : UInt64) :
    toBytes (patch word bytes) = bytes ++ (toBytes word).drop bytes.length := by
  obtain ⟨width, hwidth⟩ := Nat.exists_eq_add_of_le h
  have hvalue : (patch word bytes).toNat =
      (ofLittleEndian bytes +
        Nat.pow 256 bytes.length * (word.toNat / Nat.pow 256 bytes.length)) %
          Nat.pow 256 slotSize :=
    UInt64.toNat_ofNat'
  rw [toBytes, hvalue, littleEndian_mod, toBytes, hwidth, littleEndian_append, drop_littleEndian]

/-- A patch of all bytes leaves nothing of the word. -/
theorem patch_toBytes (word new : UInt64) : patch word (toBytes new) = new := by
  have hnew : toBytes (patch word (toBytes new)) = toBytes new := by
    have hall : (toBytes word).length ≤ (toBytes new).length :=
      Nat.le_of_eq ((length_toBytes word).trans (length_toBytes new).symm)
    rw [toBytes_patch (Nat.le_of_eq (length_toBytes new)), List.drop_of_length_le hall,
      List.append_nil]
  rw [← ofBytes_toBytes (patch word (toBytes new)), hnew, ofBytes_toBytes]

end Word

/-! ## Words in a row of bytes -/

section

variable {before middle after patch : List UInt8} (word : UInt64)

theorem overwrite_middle (h : patch.length ≤ middle.length) :
    overwrite (before ++ middle ++ after) before.length patch =
      before ++ (patch ++ middle.drop patch.length) ++ after := by
  rw [overwrite, List.append_assoc before, List.take_left', ← List.drop_drop, List.drop_left',
    List.drop_append_of_le_length h]
  · simp only [List.append_assoc]
  · rfl
  · rfl

namespace Buffer

/-- A slot that lies between the bytes before and after it lies within the buffer. -/
theorem slotPointer_word :
    slotPointer ⟨before ++ Word.toBytes word ++ after⟩ before.length = .ok before.length := by
  apply slotPointer_eq_ok
  simp only [Buffer.size, List.length_append, Word.length_toBytes]
  omega

theorem readSlot_word :
    readSlot ⟨before ++ Word.toBytes word ++ after⟩ before.length = .ok word := by
  have hbytes : ((before ++ Word.toBytes word ++ after).drop before.length).take slotSize =
      Word.toBytes word := by
    rw [List.append_assoc, List.drop_left' rfl, List.take_left' (Word.length_toBytes word)]
  rw [readSlot, slotPointer_word]
  simp only [bind, Except.bind, pure, Except.pure, hbytes, Word.ofBytes_toBytes]

theorem patchSlot_word (patch : List UInt8) :
    patchSlot ⟨before ++ Word.toBytes word ++ after⟩ before.length patch =
      .ok ⟨before ++ Word.toBytes (Word.patch word (patch.take slotSize)) ++ after⟩ := by
  have hlength : (patch.take slotSize).length ≤ slotSize := List.length_take_le _ _
  have hmiddle : (patch.take slotSize).length ≤ (Word.toBytes word).length := by
    rw [Word.length_toBytes]
    exact hlength
  rw [patchSlot_eq, slotPointer_word, Except.map, overwrite_middle hmiddle,
    Word.toBytes_patch hlength]

/-- Storing an address is a patch of all bytes. -/
theorem writeSlot_word (address : UInt64) :
    writeSlot ⟨before ++ Word.toBytes word ++ after⟩ before.length address =
      .ok ⟨before ++ Word.toBytes address ++ after⟩ := by
  have hwhole : (Word.toBytes address).take slotSize = Word.toBytes address :=
    List.take_of_length_le (Nat.le_of_eq (Word.length_toBytes address))
  have hpatch := @patchSlot_word before after word (Word.toBytes address)
  rw [hwhole, Word.patch_toBytes] at hpatch
  rw [← hpatch, patchSlot_eq, hwhole, writeSlot_eq]

/-- A snapshot that is long enough takes the place of the environment region, and of nothing
behind it. -/
theorem writeEnvironment_append {environment snapshot : List UInt8}
    (h : environment.length ≤ snapshot.length) :
    writeEnvironment ⟨environment ++ after⟩ snapshot environment.length =
      .ok ⟨snapshot.take environment.length ++ after⟩ := by
  have hlength : (snapshot.take environment.length).length = environment.length := by
    rw [List.length_take, Nat.min_eq_left h]
  rw [writeEnvironment_eq_ok_iff]
  refine ⟨h, by simp [Buffer.size], ?_⟩
  rw [overwrite, hlength, List.take_zero, List.nil_append, Nat.zero_add, List.drop_left' rfl]

end Buffer

end

end DeviceSlots
