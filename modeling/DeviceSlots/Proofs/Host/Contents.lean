import DeviceSlots.Proofs.Host.Coherence
import DeviceSlots.Proofs.Layout.Tiling
import DeviceSlots.Proofs.Patch

/-!
# Contents of the buffer

What a buffer stands for is an image of the environment and a value for every variable. Its bytes are
those of the image followed by the words of the values, in the order of the slots. A write to a slot
sets one value, a patch replaces its first bytes, a refresh replaces the image, and no other call
changes anything.
-/

namespace DeviceSlots

/-! ## Rows of registries with slots -/

namespace Registries

theorem row_eraseSlots (r : Registries) : r.eraseSlots.row = r.row := by
  apply row_eq_of_names
  intro kind
  simp [get_tables_eraseSlots, NameMap.names, NameMap.map]

theorem row_placeSlots (offsets : SectionOffsets) (owners : List (Kind × OrdinalEntry))
    (r : Registries) : (placeSlots offsets owners r).row = r.row := by
  rw [← row_eraseSlots, eraseSlots_placeSlots, row_eraseSlots]

end Registries

/-- Whether a call leaves the buffer alone. -/
def Host.Call.silent : Host.Call → Bool
  | .patchSlot .. | .writeSlot .. | .refreshEnvironment .. => false
  | _ => true

/-! ## Contents and their bytes -/

/-- What a buffer stands for. -/
structure Contents where
  /-- The image of the environment. -/
  environment : List UInt8
  /-- The value of every variable. -/
  value : Kind → String → UInt64

namespace Contents

variable {r : Registries} {kind : Kind} {name : String}

/-- What a buffer stands for at first. -/
def initial (capacity : Nat) : Contents where
  environment := List.replicate capacity 0
  value := fun _ _ => 0

/-- The contents with another value for one variable. -/
def setValue (contents : Contents) (kind : Kind) (name : String) (word : UInt64) : Contents where
  environment := contents.environment
  value := fun k n => if k = kind ∧ n = name then word else contents.value k n

/-- The bytes of a variable's value. -/
def slot (contents : Contents) (owner : Kind × String) : List UInt8 :=
  Word.toBytes (contents.value owner.1 owner.2)

/-- The image of the environment, and after it the bytes of all values in the order of the slots. -/
def bytes (contents : Contents) (r : Registries) : List UInt8 :=
  contents.environment ++ r.row.flatMap contents.slot

theorem setValue_value (contents : Contents) (kind : Kind) (name : String) :
    contents.setValue kind name (contents.value kind name) = contents := by
  have hvalue : (contents.setValue kind name (contents.value kind name)).value = contents.value := by
    funext k n
    simp only [setValue]
    split
    · rename_i howner
      rw [howner.1, howner.2]
    · rfl
  exact congrArg (Contents.mk contents.environment) hvalue

theorem length_slots (contents : Contents) (owners : List (Kind × String)) :
    (owners.flatMap contents.slot).length = slotSize * owners.length := by
  induction owners with
  | nil => rfl
  | cons owner rest ih =>
    rw [List.flatMap_cons, List.length_append, ih, slot, Word.length_toBytes, List.length_cons,
      Nat.mul_succ, Nat.add_comm]

/-- A new value changes no other slot. -/
theorem slots_setValue (contents : Contents) (word : UInt64) {owners : List (Kind × String)}
    (h : (kind, name) ∉ owners) :
    owners.flatMap (contents.setValue kind name word).slot = owners.flatMap contents.slot := by
  rw [List.flatMap_def, List.flatMap_def]
  congr 1
  apply List.map_congr_left
  intro owner hmem
  have hother : ¬ (owner.1 = kind ∧ owner.2 = name) := by
    rintro ⟨rfl, rfl⟩
    exact h hmem
  simp only [slot, setValue, if_neg hother]

/-- The bytes at the place of a variable are those of its value, and the bytes around them do not
depend on it. -/
theorem bytes_split (contents : Contents) {i : Nat} (hi : r.row[i]? = some (kind, name)) :
    ∃ before after, before.length = contents.environment.length + slotSize * i ∧
      ∀ word, (contents.setValue kind name word).bytes r = before ++ Word.toBytes word ++ after := by
  have hsplit : ∃ first last, r.row = first ++ (kind, name) :: last ∧ first.length = i := by
    obtain ⟨hlt, hget⟩ := List.getElem?_eq_some_iff.mp hi
    refine ⟨r.row.take i, r.row.drop (i + 1), ?_, List.length_take_of_le (Nat.le_of_lt hlt)⟩
    rw [← hget, List.getElem_cons_drop, List.take_append_drop]
  obtain ⟨first, last, hrow, rfl⟩ := hsplit
  have hnodup := r.nodup_row
  rw [hrow, List.nodup_middle, List.nodup_cons, List.mem_append, not_or] at hnodup
  obtain ⟨⟨hfirst, hlast⟩, -⟩ := hnodup
  refine ⟨contents.environment ++ first.flatMap contents.slot, last.flatMap contents.slot, ?_, ?_⟩
  · rw [List.length_append, length_slots]
  · intro word
    have hword : (contents.setValue kind name word).slot (kind, name) = Word.toBytes word := by
      simp [slot, setValue]
    rw [bytes, hrow, List.flatMap_append, List.flatMap_cons, slots_setValue contents word hfirst,
      slots_setValue contents word hlast, hword]
    simp only [setValue, List.append_assoc]

/-- Where no value has been set, the slots are zero. -/
theorem slots_initial (capacity : Nat) (owners : List (Kind × String)) :
    owners.flatMap (initial capacity).slot = List.replicate (slotSize * owners.length) 0 := by
  have hzero : Word.toBytes 0 = List.replicate slotSize 0 := by decide
  apply List.eq_replicate_iff.mpr
  refine ⟨length_slots _ _, ?_⟩
  intro byte hmem
  obtain ⟨owner, -, hbyte⟩ := List.mem_flatMap.mp hmem
  rw [slot, initial, hzero] at hbyte
  exact List.eq_of_mem_replicate hbyte

theorem bytes_initial (capacity : Nat) (r : Registries) :
    (initial capacity).bytes r = List.replicate (capacity + slotSize * r.row.length) 0 := by
  rw [bytes, slots_initial, initial, List.replicate_append_replicate]

/-! ## What calls do to contents -/

/-- The contents after a call. A write to a variable that is not registered and a refresh from a
snapshot that is too short are refused. A patch has at most the bytes of a slot; further ones are
ignored. -/
def after (contents : Contents) (capacity : Nat) (r : Registries) : Host.Call → Contents
  | .writeSlot kind name address =>
    if (r.findVariable? kind name).isSome then contents.setValue kind name address else contents
  | .patchSlot kind name patch =>
    if (r.findVariable? kind name).isSome then
      contents.setValue kind name (Word.patch (contents.value kind name) (patch.take slotSize))
    else contents
  | .refreshEnvironment (some snapshot) =>
    if capacity ≤ snapshot.length then { contents with environment := snapshot.take capacity }
    else contents
  | _ => contents

/-- The contents after a row of calls. -/
def run (contents : Contents) (capacity : Nat) (r : Registries) (calls : List Host.Call) :
    Contents :=
  calls.foldl (fun contents call => contents.after capacity r call) contents

theorem after_silent (contents : Contents) {call : Host.Call} (hcall : call.silent = true)
    (capacity : Nat) (r : Registries) : contents.after capacity r call = contents := by
  cases call with
  | patchSlot => contradiction
  | writeSlot => contradiction
  | refreshEnvironment => contradiction
  | _ => rfl

theorem length_environment_after {contents : Contents} {capacity : Nat}
    (h : contents.environment.length = capacity) (r : Registries) (call : Host.Call) :
    (contents.after capacity r call).environment.length = capacity := by
  unfold after
  split
  · split <;> exact h
  · split <;> exact h
  · split
    · rename_i hle
      exact List.length_take_of_le hle
    · exact h
  · exact h

end Contents

end DeviceSlots
