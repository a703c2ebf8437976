import DeviceSlots.Buffer
import DeviceSlots.Proofs.Method

/-!
# Writes to the buffer

A write that succeeds is an overwrite within the buffer, so that the buffer keeps its size. A write
that fails leaves the buffer as it was.
-/

namespace DeviceSlots.Buffer

variable {buffer buffer' : Buffer} {offset : Nat}

theorem slotPointer_eq_ok (h : offset + slotSize ≤ buffer.size) :
    buffer.slotPointer offset = .ok offset := by
  simp [slotPointer, h]

theorem slotPointer_eq_error (h : ¬ offset + slotSize ≤ buffer.size) :
    buffer.slotPointer offset = .error (.slotOutside offset) := by
  simp [slotPointer, h]

/-! ## What the methods do -/

section

open Method

/-- The place of a slot is checked before anything is stored there. -/
theorem atomic_storeSlot (offset : Nat) (address : UInt64) : (storeSlot offset address).Atomic :=
  inspects_get.bind_atomic fun _ => (inspects_ofExcept _).bind_atomic fun _ => atomic_modify _

theorem atomic_storePatch (offset : Nat) (patch : List UInt8) : (storePatch offset patch).Atomic :=
  inspects_get.bind_atomic fun _ => (inspects_ofExcept _).bind_atomic fun _ => atomic_modify _

theorem atomic_storeEnvironment (snapshot : List UInt8) (capacity : Nat) :
    (storeEnvironment snapshot capacity).Atomic := by
  refine .ite (atomic_throw_bind _ _) (inspects_get.bind_atomic fun _ => ?_)
  exact .ite (atomic_throw_bind _ _) (atomic_modify _)

theorem writeSlot_eq (buffer : Buffer) (offset : Nat) (address : UInt64) :
    buffer.writeSlot offset address =
      (buffer.slotPointer offset).map fun start =>
        ⟨overwrite buffer.bytes start (Word.toBytes address)⟩ := by
  cases h : buffer.slotPointer offset <;>
    simp [writeSlot, leaves, outcome, storeSlot, run_bind, h, Except.map]

theorem patchSlot_eq (buffer : Buffer) (offset : Nat) (patch : List UInt8) :
    buffer.patchSlot offset patch =
      (buffer.slotPointer offset).map fun start =>
        ⟨overwrite buffer.bytes start (patch.take slotSize)⟩ := by
  cases h : buffer.slotPointer offset <;>
    simp [patchSlot, leaves, outcome, storePatch, run_bind, h, Except.map]

theorem writeEnvironment_eq (buffer : Buffer) (snapshot : List UInt8) (capacity : Nat) :
    buffer.writeEnvironment snapshot capacity =
      if snapshot.length < capacity then .error (.shortSnapshot snapshot.length capacity)
      else if buffer.size < capacity then .error (.regionOutside capacity buffer.size)
      else .ok ⟨overwrite buffer.bytes 0 (snapshot.take capacity)⟩ := by
  by_cases hshort : snapshot.length < capacity
  · simp [writeEnvironment, leaves, outcome, storeEnvironment, run_bind, hshort, Except.map]
  · by_cases houtside : buffer.size < capacity <;>
      simp [writeEnvironment, leaves, outcome, storeEnvironment, run_bind, hshort, houtside,
        Except.map]

end

theorem writeSlot_eq_ok_iff {address : UInt64} :
    buffer.writeSlot offset address = .ok buffer' ↔
      offset + slotSize ≤ buffer.size ∧
      buffer' = ⟨overwrite buffer.bytes offset (Word.toBytes address)⟩ := by
  rw [writeSlot_eq]
  by_cases h : offset + slotSize ≤ buffer.size
  · simp [slotPointer_eq_ok h, h, Except.map, eq_comm]
  · simp [slotPointer_eq_error h, h, Except.map]

theorem patchSlot_eq_ok_iff {patch : List UInt8} :
    buffer.patchSlot offset patch = .ok buffer' ↔
      offset + slotSize ≤ buffer.size ∧
      buffer' = ⟨overwrite buffer.bytes offset (patch.take slotSize)⟩ := by
  rw [patchSlot_eq]
  by_cases h : offset + slotSize ≤ buffer.size
  · simp [slotPointer_eq_ok h, h, Except.map, eq_comm]
  · simp [slotPointer_eq_error h, h, Except.map]

theorem writeEnvironment_eq_ok_iff {snapshot : List UInt8} {capacity : Nat} :
    buffer.writeEnvironment snapshot capacity = .ok buffer' ↔
      capacity ≤ snapshot.length ∧ capacity ≤ buffer.size ∧
      buffer' = ⟨overwrite buffer.bytes 0 (snapshot.take capacity)⟩ := by
  rw [writeEnvironment_eq]
  by_cases hshort : snapshot.length < capacity
  · simp [hshort, Nat.not_le_of_lt hshort]
  · by_cases houtside : buffer.size < capacity
    · simp [hshort, houtside, Nat.not_le_of_lt houtside]
    · simp [hshort, houtside, Nat.le_of_not_lt hshort, Nat.le_of_not_lt houtside, eq_comm]

theorem allocate_eq_ok_iff {size : Nat} :
    allocate size = .ok buffer ↔ size ≠ 0 ∧ buffer = ⟨List.replicate size 0⟩ := by
  by_cases h : size = 0 <;> simp [allocate, h, eq_comm]

/-! ## Sizes -/

theorem size_allocate {size : Nat} (h : allocate size = .ok buffer) : buffer.size = size := by
  obtain ⟨-, rfl⟩ := allocate_eq_ok_iff.mp h
  simp [Buffer.size]

theorem size_writeSlot {address : UInt64} (h : buffer.writeSlot offset address = .ok buffer') :
    buffer'.size = buffer.size := by
  obtain ⟨hle, rfl⟩ := writeSlot_eq_ok_iff.mp h
  apply length_overwrite
  rw [Word.length_toBytes]
  exact hle

theorem size_patchSlot {patch : List UInt8} (h : buffer.patchSlot offset patch = .ok buffer') :
    buffer'.size = buffer.size := by
  obtain ⟨hle, rfl⟩ := patchSlot_eq_ok_iff.mp h
  apply length_overwrite
  have hlen : (patch.take slotSize).length ≤ slotSize := by
    rw [List.length_take]
    exact Nat.min_le_left _ _
  exact Nat.le_trans (Nat.add_le_add_left hlen offset) hle

theorem size_writeEnvironment {snapshot : List UInt8} {capacity : Nat}
    (h : buffer.writeEnvironment snapshot capacity = .ok buffer') : buffer'.size = buffer.size := by
  obtain ⟨hlong, hfits, rfl⟩ := writeEnvironment_eq_ok_iff.mp h
  apply length_overwrite
  rw [List.length_take, Nat.min_eq_left hlong, Nat.zero_add]
  exact hfits

end DeviceSlots.Buffer
