import DeviceSlots.Config
import DeviceSlots.Method

/-!
# The host buffer

A buffer is a row of bytes. Its first bytes are the environment region, and device addresses are
stored in it as words of eight bytes, least significant first. A write that does not lie within the
buffer fails.
-/

namespace DeviceSlots

/-! ## Words -/

namespace Word

/-- The `width` least significant bytes of a number, least significant first. -/
def littleEndian : (width : Nat) → Nat → List UInt8
  | 0, _ => []
  | width + 1, n => UInt8.ofNat n :: littleEndian width (n / 256)

/-- The number with the given bytes, least significant first. -/
def ofLittleEndian : List UInt8 → Nat
  | [] => 0
  | byte :: rest => byte.toNat + 256 * ofLittleEndian rest

/-- The eight bytes of a word. -/
def toBytes (word : UInt64) : List UInt8 := littleEndian slotSize word.toNat

/-- The word with the given bytes. -/
def ofBytes (bytes : List UInt8) : UInt64 := UInt64.ofNat (ofLittleEndian bytes)

@[simp] theorem length_littleEndian (width n : Nat) : (littleEndian width n).length = width := by
  induction width generalizing n with
  | zero => rfl
  | succ width ih => simp [littleEndian, ih]

@[simp] theorem length_toBytes (word : UInt64) : (toBytes word).length = slotSize := by
  simp [toBytes]

theorem ofLittleEndian_littleEndian (width n : Nat) :
    ofLittleEndian (littleEndian width n) = n % Nat.pow 256 width := by
  induction width generalizing n with
  | zero => simp [littleEndian, ofLittleEndian, Nat.mod_one]
  | succ width ih =>
    have hpow : Nat.pow 256 (width + 1) = 256 * Nat.pow 256 width := Nat.mul_comm _ _
    have hbyte : (UInt8.ofNat n).toNat = n % 256 := UInt8.toNat_ofNat'
    rw [littleEndian, ofLittleEndian, ih, hbyte, hpow, Nat.mod_mul]

@[simp] theorem ofBytes_toBytes (word : UInt64) : ofBytes (toBytes word) = word := by
  have h : word.toNat < Nat.pow 256 slotSize := word.toNat_lt
  rw [ofBytes, toBytes, ofLittleEndian_littleEndian, Nat.mod_eq_of_lt h, UInt64.ofNat_toNat]

end Word

/-! ## Rows of bytes -/

/-- Replaces the bytes from `offset` on by a patch. The row keeps its length where the patch lies
within it. -/
def overwrite (bytes : List UInt8) (offset : Nat) (patch : List UInt8) : List UInt8 :=
  bytes.take offset ++ patch ++ bytes.drop (offset + patch.length)

theorem length_overwrite {bytes patch : List UInt8} {offset : Nat}
    (h : offset + patch.length ≤ bytes.length) :
    (overwrite bytes offset patch).length = bytes.length := by
  simp only [overwrite, List.length_append, List.length_take, List.length_drop]
  omega

theorem getElem?_overwrite {bytes patch : List UInt8} {offset : Nat}
    (h : offset + patch.length ≤ bytes.length) (i : Nat) :
    (overwrite bytes offset patch)[i]? =
      if offset ≤ i ∧ i < offset + patch.length then patch[i - offset]? else bytes[i]? := by
  simp only [overwrite, List.append_assoc, List.getElem?_append, List.getElem?_take,
    List.getElem?_drop, List.length_take]
  grind

/-! ## Buffers -/

/-- The buffer whose copy on the device the generated accessors read. -/
structure Buffer where
  bytes : List UInt8
  deriving DecidableEq

namespace Buffer

/-- The number of bytes. -/
def size (buffer : Buffer) : Nat := buffer.bytes.length

/-- A buffer of zero bytes. -/
def allocate (size : Nat) : Except Error Buffer :=
  if size = 0 then .error .emptyBuffer else .ok ⟨List.replicate size 0⟩

/-- Copies the first `capacity` bytes of a snapshot to the start of the buffer, which has to hold as
many. -/
def storeEnvironment (snapshot : List UInt8) (capacity : Nat) : Method Buffer Unit := do
  if snapshot.length < capacity then throw (.shortSnapshot snapshot.length capacity)
  let held := (← get).size
  if held < capacity then throw (.regionOutside capacity held)
  modify fun buffer => ⟨overwrite buffer.bytes 0 (snapshot.take capacity)⟩

/-- The buffer with a snapshot in its first `capacity` bytes. -/
def writeEnvironment (buffer : Buffer) (snapshot : List UInt8) (capacity : Nat) :
    Except Error Buffer :=
  (storeEnvironment snapshot capacity).leaves buffer

/-- Accepts the offset of a slot that lies within the buffer, and gives it back. -/
def slotPointer (buffer : Buffer) (offset : Nat) : Except Error Nat :=
  if offset + slotSize ≤ buffer.size then .ok offset else .error (.slotOutside offset)

/-- Stores an address in the slot at an offset. -/
def storeSlot (offset : Nat) (address : UInt64) : Method Buffer Unit := do
  let start ← ofExcept ((← get).slotPointer offset)
  modify fun buffer => ⟨overwrite buffer.bytes start (Word.toBytes address)⟩

/-- The buffer with an address in the slot at an offset. -/
def writeSlot (buffer : Buffer) (offset : Nat) (address : UInt64) : Except Error Buffer :=
  (storeSlot offset address).leaves buffer

/-- The address in the slot at an offset. -/
def readSlot (buffer : Buffer) (offset : Nat) : Except Error UInt64 := do
  let start ← buffer.slotPointer offset
  return Word.ofBytes ((buffer.bytes.drop start).take slotSize)

/-- Stores up to eight bytes at the start of the slot at an offset; further bytes are ignored. -/
def storePatch (offset : Nat) (patch : List UInt8) : Method Buffer Unit := do
  let start ← ofExcept ((← get).slotPointer offset)
  modify fun buffer => ⟨overwrite buffer.bytes start (patch.take slotSize)⟩

/-- The buffer with up to eight bytes at the start of the slot at an offset. -/
def patchSlot (buffer : Buffer) (offset : Nat) (patch : List UInt8) : Except Error Buffer :=
  (storePatch offset patch).leaves buffer

end Buffer

end DeviceSlots
