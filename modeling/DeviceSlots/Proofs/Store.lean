import DeviceSlots.Proofs.Patch

/-!
# Stores at any offset

A word may be stored at any offset, also across words that were stored before. What a buffer holds
after a row of writes is known byte by byte: each byte is the one that the last write over its place
has put there. A write that fails puts no byte anywhere.
-/

namespace DeviceSlots

/-! ## Bytes of words -/

namespace Word

/-- The byte of a word with as many less significant ones as `index` says. -/
def byte (word : UInt64) (index : Nat) : UInt8 := UInt8.ofNat (word.toNat / Nat.pow 256 index)

theorem getElem?_littleEndian (width n index : Nat) :
    (littleEndian width n)[index]? =
      if index < width then some (UInt8.ofNat (n / Nat.pow 256 index)) else none := by
  induction width generalizing n index with
  | zero => rfl
  | succ width ih =>
    cases index with
    | zero => simp [littleEndian]
    | succ index =>
      have hpow : Nat.pow 256 (index + 1) = 256 * Nat.pow 256 index := Nat.pow_succ'
      rw [littleEndian, List.getElem?_cons_succ, ih, hpow, Nat.div_div_eq_div_mul]
      simp only [Nat.add_lt_add_iff_right]

theorem getElem?_toBytes (word : UInt64) (index : Nat) :
    (toBytes word)[index]? = if index < slotSize then some (byte word index) else none :=
  getElem?_littleEndian slotSize word.toNat index

end Word

/-! ## Writes -/

/-- A write to the bytes of a buffer. -/
inductive Write
  /-- Stores an address at an offset. -/
  | slot (offset : Nat) (address : UInt64)
  /-- Copies the first `capacity` bytes of a snapshot to the start of the buffer. -/
  | environment (snapshot : List UInt8) (capacity : Nat)

namespace Write

/-- The method that makes the write. -/
def method : Write → Method Buffer Unit
  | slot offset address => Buffer.storeSlot offset address
  | environment snapshot capacity => Buffer.storeEnvironment snapshot capacity

theorem atomic_method (write : Write) : write.method.Atomic := by
  cases write with
  | slot offset address => exact Buffer.atomic_storeSlot offset address
  | environment snapshot capacity => exact Buffer.atomic_storeEnvironment snapshot capacity

/-- The byte that the write puts at a place of a buffer of the given size, if it puts one there. -/
def byteAt? (size place : Nat) : Write → Option UInt8
  | slot offset address =>
    if offset + slotSize ≤ size ∧ offset ≤ place ∧ place < offset + slotSize then
      some (Word.byte address (place - offset))
    else none
  | environment snapshot capacity =>
    if capacity ≤ snapshot.length ∧ capacity ≤ size ∧ place < capacity then snapshot[place]?
    else none

/-- The byte that the last of the writes over a place puts there, if there is such a write. -/
def lastByte? (size place : Nat) (writes : List Write) : Option UInt8 :=
  writes.reverse.findSome? (byteAt? size place)

theorem lastByte?_cons (size place : Nat) (write : Write) (writes : List Write) :
    lastByte? size place (write :: writes) =
      (lastByte? size place writes).or (write.byteAt? size place) := by
  simp [lastByte?, List.findSome?_append, List.findSome?_singleton]

end Write

namespace Buffer

variable {buffer buffer' : Buffer}

/-- The buffer that a write leaves. The write may fail. -/
def after (buffer : Buffer) (write : Write) : Buffer := Method.left (write.method buffer)

/-- The buffer after a row of writes. -/
def run (buffer : Buffer) (writes : List Write) : Buffer := writes.foldl after buffer

theorem after_of_ok {write : Write} (h : write.method.leaves buffer = .ok buffer') :
    buffer.after write = buffer' :=
  Method.left_of_leaves h

theorem after_of_error {write : Write} {e : Error} (h : write.method.leaves buffer = .error e) :
    buffer.after write = buffer := by
  rw [after, write.atomic_method.left_eq, h]

/-! ## One write -/

theorem writeSlot_eq_error {offset : Nat} (address : UInt64) (h : ¬ offset + slotSize ≤ buffer.size) :
    buffer.writeSlot offset address = .error (.slotOutside offset) := by
  rw [writeSlot_eq, slotPointer_eq_error h]
  rfl

theorem readSlot_eq_ok {offset : Nat} (h : offset + slotSize ≤ buffer.size) :
    buffer.readSlot offset = .ok (Word.ofBytes ((buffer.bytes.drop offset).take slotSize)) := by
  rw [readSlot, slotPointer_eq_ok h]
  rfl

theorem readSlot_eq_error {offset : Nat} (h : ¬ offset + slotSize ≤ buffer.size) :
    buffer.readSlot offset = .error (.slotOutside offset) := by
  rw [readSlot, slotPointer_eq_error h]
  rfl

theorem writeEnvironment_eq_error {snapshot : List UInt8} {capacity : Nat}
    (h : snapshot.length < capacity) :
    buffer.writeEnvironment snapshot capacity =
      .error (.shortSnapshot snapshot.length capacity) := by
  rw [writeEnvironment_eq, if_pos h]

/-- A copy that is longer than the buffer is refused as a whole. -/
theorem writeEnvironment_eq_error_of_size {snapshot : List UInt8} {capacity : Nat}
    (hlong : capacity ≤ snapshot.length) (h : buffer.size < capacity) :
    buffer.writeEnvironment snapshot capacity = .error (.regionOutside capacity buffer.size) := by
  rw [writeEnvironment_eq, if_neg (Nat.not_lt.mpr hlong), if_pos h]

theorem after_slot {offset : Nat} (address : UInt64) (h : offset + slotSize ≤ buffer.size) :
    buffer.after (.slot offset address) =
      ⟨overwrite buffer.bytes offset (Word.toBytes address)⟩ :=
  after_of_ok (writeSlot_eq_ok_iff.mpr ⟨h, rfl⟩)

theorem after_environment {snapshot : List UInt8} {capacity : Nat}
    (hlong : capacity ≤ snapshot.length) (hfits : capacity ≤ buffer.size) :
    buffer.after (.environment snapshot capacity) =
      ⟨overwrite buffer.bytes 0 (snapshot.take capacity)⟩ :=
  after_of_ok (writeEnvironment_eq_ok_iff.mpr ⟨hlong, hfits, rfl⟩)

theorem after_environment_of_not {snapshot : List UInt8} {capacity : Nat}
    (h : ¬ (capacity ≤ snapshot.length ∧ capacity ≤ buffer.size)) :
    buffer.after (.environment snapshot capacity) = buffer := by
  by_cases hlong : capacity ≤ snapshot.length
  · have hsize : buffer.size < capacity := Nat.lt_of_not_le fun hfits => h ⟨hlong, hfits⟩
    exact after_of_error (writeEnvironment_eq_error_of_size hlong hsize)
  · exact after_of_error (writeEnvironment_eq_error (Nat.lt_of_not_le hlong))

/-- A write keeps the size, puts its own bytes in their places, and keeps all others. -/
theorem after_spec (write : Write) :
    (buffer.after write).size = buffer.size ∧
      ∀ place, (buffer.after write).bytes[place]? =
        (write.byteAt? buffer.size place).or buffer.bytes[place]? := by
  cases write with
  | slot offset address =>
    by_cases hfits : offset + slotSize ≤ buffer.size
    · have hpatch : offset + (Word.toBytes address).length ≤ buffer.bytes.length := by
        rw [Word.length_toBytes]
        exact hfits
      rw [after_slot address hfits]
      refine ⟨length_overwrite hpatch, ?_⟩
      intro place
      rw [getElem?_overwrite hpatch, Word.length_toBytes, Write.byteAt?]
      by_cases hplace : offset ≤ place ∧ place < offset + slotSize
      · have hindex : place - offset < slotSize := by omega
        rw [if_pos hplace, if_pos ⟨hfits, hplace⟩, Word.getElem?_toBytes, if_pos hindex,
          Option.some_or]
      · rw [if_neg hplace, if_neg fun hall => hplace hall.2, Option.none_or]
    · have hafter : buffer.after (.slot offset address) = buffer :=
        after_of_error (writeSlot_eq_error address hfits)
      rw [hafter]
      refine ⟨rfl, ?_⟩
      intro place
      rw [Write.byteAt?, if_neg fun hall => hfits hall.1, Option.none_or]
  | environment snapshot capacity =>
    by_cases hcopied : capacity ≤ snapshot.length ∧ capacity ≤ buffer.size
    · obtain ⟨hlong, hfits⟩ := hcopied
      have hlength : (snapshot.take capacity).length = capacity := by
        rw [List.length_take, Nat.min_eq_left hlong]
      have hpatch : 0 + (snapshot.take capacity).length ≤ buffer.bytes.length := by
        rw [hlength, Nat.zero_add]
        exact hfits
      rw [after_environment hlong hfits]
      refine ⟨length_overwrite hpatch, ?_⟩
      intro place
      rw [getElem?_overwrite hpatch, hlength, Write.byteAt?]
      by_cases hplace : place < capacity
      · have hinside : place < snapshot.length := by omega
        rw [if_pos ⟨Nat.zero_le _, by omega⟩, if_pos ⟨hlong, hfits, hplace⟩, Nat.sub_zero,
          List.getElem?_take_of_lt hplace, List.getElem?_eq_getElem hinside, Option.some_or]
      · rw [if_neg (by omega), if_neg fun hall => hplace hall.2.2, Option.none_or]
    · rw [after_environment_of_not hcopied]
      refine ⟨rfl, ?_⟩
      intro place
      rw [Write.byteAt?, if_neg fun hall => hcopied ⟨hall.1, hall.2.1⟩, Option.none_or]

/-! ## Rows of writes -/

/-- After a row of writes, each byte is the one of the last write over its place. -/
theorem run_spec (buffer : Buffer) (writes : List Write) :
    (buffer.run writes).size = buffer.size ∧
      ∀ place, (buffer.run writes).bytes[place]? =
        (Write.lastByte? buffer.size place writes).or buffer.bytes[place]? := by
  induction writes generalizing buffer with
  | nil => exact ⟨rfl, fun _ => rfl⟩
  | cons write writes ih =>
    obtain ⟨hsize, hbytes⟩ := buffer.after_spec write
    obtain ⟨hsize', hbytes'⟩ := ih (buffer.after write)
    refine ⟨hsize'.trans hsize, ?_⟩
    intro place
    have hrun : buffer.run (write :: writes) = (buffer.after write).run writes := rfl
    rw [hrun, hbytes', hbytes, hsize, Write.lastByte?_cons, Option.or_assoc]

/-! ## Reading -/

/-- A read looks at the size of the buffer and at the bytes of its slot, and at nothing else. -/
theorem readSlot_congr {offset : Nat} (hsize : buffer'.size = buffer.size)
    (hbytes : ∀ index < slotSize, buffer'.bytes[offset + index]? = buffer.bytes[offset + index]?) :
    buffer'.readSlot offset = buffer.readSlot offset := by
  by_cases hfits : offset + slotSize ≤ buffer.size
  · have hslot : (buffer'.bytes.drop offset).take slotSize =
        (buffer.bytes.drop offset).take slotSize := by
      apply List.ext_getElem?
      intro index
      rw [List.getElem?_take, List.getElem?_take, List.getElem?_drop, List.getElem?_drop]
      split
      · exact hbytes index ‹_›
      · rfl
    rw [readSlot_eq_ok hfits, readSlot_eq_ok (hsize ▸ hfits), hslot]
  · rw [readSlot_eq_error hfits, readSlot_eq_error (hsize ▸ hfits)]

/-- A read gives the word whose bytes stand in the slot. -/
theorem readSlot_eq_ok_of_bytes {offset : Nat} {word : UInt64}
    (hfits : offset + slotSize ≤ buffer.size)
    (hbytes : ∀ index < slotSize, buffer.bytes[offset + index]? = some (Word.byte word index)) :
    buffer.readSlot offset = .ok word := by
  have hslot : (buffer.bytes.drop offset).take slotSize = Word.toBytes word := by
    apply List.ext_getElem?
    intro index
    rw [List.getElem?_take, List.getElem?_drop, Word.getElem?_toBytes]
    split
    · exact hbytes index ‹_›
    · rfl
  rw [readSlot_eq_ok hfits, hslot, Word.ofBytes_toBytes]

/-! ## Local stores -/

/-- What a store at an offset does: it puts the bytes of the address there, least significant first,
and leaves everything else. -/
structure Stored (buffer : Buffer) (offset : Nat) (address : UInt64) (buffer' : Buffer) : Prop where
  size : buffer'.size = buffer.size
  read : buffer'.readSlot offset = .ok address
  inside : ∀ index < slotSize, buffer'.bytes[offset + index]? = some (Word.byte address index)
  outside : ∀ place, place < offset ∨ offset + slotSize ≤ place →
    buffer'.bytes[place]? = buffer.bytes[place]?
  apart : ∀ other, other + slotSize ≤ offset ∨ offset + slotSize ≤ other →
    buffer'.readSlot other = buffer.readSlot other

theorem stored_of_writeSlot {offset : Nat} {address : UInt64}
    (h : buffer.writeSlot offset address = .ok buffer') : Stored buffer offset address buffer' := by
  obtain ⟨hfits, -⟩ := writeSlot_eq_ok_iff.mp h
  have hafter : buffer.after (.slot offset address) = buffer' := after_of_ok h
  obtain ⟨hsize, hbytes⟩ := buffer.after_spec (.slot offset address)
  rw [hafter] at hsize hbytes
  have hinside : ∀ index < slotSize,
      buffer'.bytes[offset + index]? = some (Word.byte address index) := by
    intro index hindex
    have hplace : offset ≤ offset + index ∧ offset + index < offset + slotSize := by omega
    rw [hbytes, Write.byteAt?, if_pos ⟨hfits, hplace⟩, Nat.add_sub_cancel_left, Option.some_or]
  have houtside : ∀ place, place < offset ∨ offset + slotSize ≤ place →
      buffer'.bytes[place]? = buffer.bytes[place]? := by
    intro place hplace
    rw [hbytes, Write.byteAt?, if_neg (by omega), Option.none_or]
  exact {
    size := hsize
    read := readSlot_eq_ok_of_bytes (hsize ▸ hfits) hinside
    inside := hinside
    outside := houtside
    apart := fun other hother =>
      readSlot_congr hsize fun index hindex => houtside (other + index) (by omega) }

/-- Slots are stored to and read at every offset where eight bytes lie within the buffer, and nowhere
else. A store is local and can be read back. After any row of writes, each byte is the one of the last
write over its place, so that of two stores that overlap the later one has the bytes they share; a
write that fails, as one with a short snapshot does, leaves the buffer as it was. -/
theorem store_is_local (buffer : Buffer) (offset : Nat) (address : UInt64) :
    (((∃ buffer', buffer.writeSlot offset address = .ok buffer') ↔
          offset + slotSize ≤ buffer.size) ∧
        ((∃ word, buffer.readSlot offset = .ok word) ↔ offset + slotSize ≤ buffer.size) ∧
        ((∃ start, buffer.slotPointer offset = .ok start) ↔ offset + slotSize ≤ buffer.size)) ∧
      (∀ buffer', buffer.writeSlot offset address = .ok buffer' →
        Stored buffer offset address buffer') ∧
      (∀ snapshot capacity, snapshot.length < capacity →
        buffer.writeEnvironment snapshot capacity =
          .error (.shortSnapshot snapshot.length capacity)) ∧
      (∀ write e left, Write.method write buffer = .error e left → left = buffer) ∧
      ∀ writes,
        (buffer.run writes).size = buffer.size ∧
          ∀ place, (buffer.run writes).bytes[place]? =
            (Write.lastByte? buffer.size place writes).or buffer.bytes[place]? := by
  refine ⟨?_, ?_, ?_, ?_, ?_⟩
  · by_cases hfits : offset + slotSize ≤ buffer.size
    · have hwrite : ∃ buffer', buffer.writeSlot offset address = .ok buffer' :=
        ⟨_, writeSlot_eq_ok_iff.mpr ⟨hfits, rfl⟩⟩
      simp [hfits, hwrite, readSlot_eq_ok hfits, slotPointer_eq_ok hfits]
    · simp [hfits, writeSlot_eq_error address hfits, readSlot_eq_error hfits,
        slotPointer_eq_error hfits]
  · intro buffer' h
    exact stored_of_writeSlot h
  · intro snapshot capacity h
    exact writeEnvironment_eq_error h
  · intro write e left h
    exact write.atomic_method buffer e left h
  · intro writes
    exact buffer.run_spec writes

/-- A buffer of two slots. -/
def twoSlots : Buffer := ⟨List.replicate 16 0⟩

/-- Two stores that overlap, one that ends behind the buffer, and a copy of a short snapshot. -/
def crossing : List Write :=
  [.slot 3 0x1122334455667788, .slot 7 0x99aabbccddeeff00, .slot 9 1, .environment [5] 8]

theorem store_is_local_crossing :
    (∃ buffer', twoSlots.writeSlot 3 0x1122334455667788 = .ok buffer' ∧
        Stored twoSlots 3 0x1122334455667788 buffer') ∧
      twoSlots.writeEnvironment [5] 8 = .error (.shortSnapshot 1 8) ∧
      Method.left (Write.method (.slot 9 1) twoSlots) = twoSlots ∧
      (twoSlots.run crossing).bytes[2]? = some 0 ∧
      (twoSlots.run crossing).bytes[6]? = some 0x55 ∧
      (twoSlots.run crossing).bytes[7]? = some 0x00 ∧
      (twoSlots.run crossing).bytes[14]? = some 0x99 := by
  obtain ⟨⟨hwrites, -⟩, hstored, hshort, hfailing, hrun⟩ :=
    store_is_local twoSlots 3 0x1122334455667788
  obtain ⟨-, hbytes⟩ := hrun crossing
  have houtside : Write.method (.slot 9 1) twoSlots = .error (.slotOutside 9) _ := rfl
  obtain ⟨buffer', hbuffer⟩ := hwrites.mpr (by decide)
  refine ⟨⟨buffer', hbuffer, hstored buffer' hbuffer⟩, hshort [5] 8 (by decide),
    hfailing _ _ _ houtside, ?_, ?_, ?_, ?_⟩
  · rw [hbytes]
    decide
  · rw [hbytes]
    decide
  · rw [hbytes]
    decide
  · rw [hbytes]
    decide

end Buffer

end DeviceSlots
