import Mathlib.Algebra.GroupWithZero.Nat
import DeviceSlots.Proofs.Registry.Slots

/-!
# Slots of a layout

The table of a layout lists every registered variable once, and its numbers stay below the number of
variables of the kind. So a name leads to one entry. Where the whole buffer has addresses, no offset
wraps around, and every slot lies within the buffer, after the environment region.
-/

namespace DeviceSlots

/-! ## Numbered entries -/

namespace OrdinalTable

theorem map_name_number (first : Nat) (list : List (String × Variable)) :
    (number first list).map (·.name) = list.map Prod.fst := by
  induction list generalizing first with
  | nil => rfl
  | cons x rest ih => simp [number, ih]

theorem length_number (first : Nat) (list : List (String × Variable)) :
    (number first list).length = list.length := by
  induction list generalizing first with
  | nil => rfl
  | cons x rest ih => simp [number, ih]

theorem mem_number {first : Nat} {list : List (String × Variable)} {e : OrdinalEntry}
    (h : e ∈ number first list) :
    (e.name, e.details) ∈ list ∧ e.ordinal < first + list.length := by
  induction list generalizing first with
  | nil => simp [number] at h
  | cons x rest ih =>
    obtain ⟨name, v⟩ := x
    simp only [number, List.mem_cons] at h
    rcases h with rfl | h
    · simp
    · obtain ⟨hmem, hlt⟩ := ih h
      refine ⟨List.mem_cons_of_mem _ hmem, ?_⟩
      simp only [List.length_cons]
      omega

theorem exists_mem_number {name : String} {v : Variable} (first : Nat)
    {list : List (String × Variable)} (h : (name, v) ∈ list) :
    ∃ e ∈ number first list, e.name = name ∧ e.details = v := by
  induction list generalizing first with
  | nil => simp at h
  | cons x rest ih =>
    rcases List.mem_cons.mp h with rfl | h
    · exact ⟨⟨name, first, v⟩, by simp [number], rfl, rfl⟩
    · obtain ⟨e, he, hname, hv⟩ := ih (first + 1) h
      exact ⟨e, List.mem_cons_of_mem _ he, hname, hv⟩

theorem get_ofRegistries (r : Registries) (kind : Kind) :
    (ofRegistries r).get kind = number 0 (r.tables.get kind).toList := by
  simp [ofRegistries]

theorem pairwise_names (r : Registries) (kind : Kind) :
    (((ofRegistries r).get kind).map (·.name)).Pairwise (· < ·) := by
  rw [get_ofRegistries, map_name_number]
  exact (r.tables.get kind).pairwise_names

theorem nodup_names (r : Registries) (kind : Kind) :
    (((ofRegistries r).get kind).map (·.name)).Nodup := by
  rw [get_ofRegistries, map_name_number]
  exact (r.tables.get kind).nodup_names

theorem mem_ofRegistries {r : Registries} {kind : Kind} {e : OrdinalEntry}
    (h : e ∈ (ofRegistries r).get kind) :
    r.findVariable? kind e.name = some e.details ∧ e.ordinal < (r.tables.get kind).size := by
  rw [get_ofRegistries] at h
  obtain ⟨hmem, hlt⟩ := mem_number h
  rw [Nat.zero_add] at hlt
  exact ⟨((r.tables.get kind).find?_eq_some_iff _ _).mpr hmem, hlt⟩

theorem exists_entry {r : Registries} {kind : Kind} {name : String} {v : Variable}
    (h : r.findVariable? kind name = some v) :
    ∃ e ∈ (ofRegistries r).get kind, e.name = name ∧ e.details = v := by
  rw [get_ofRegistries]
  exact exists_mem_number 0 (((r.tables.get kind).find?_eq_some_iff _ _).mp h)

end OrdinalTable

/-! ## Layouts of registries -/

namespace SectionOffsets

variable {capacity : Nat} {count : Kind → Nat} {offsets : SectionOffsets}

/-- The whole buffer has addresses: an environment region, and a slot for each variable. -/
def Addressable (capacity : Nat) (count : Kind → Nat) : Prop :=
  capacity + slotSize * (Kind.sections.map count).sum < addressLimit

instance (capacity : Nat) (count : Kind → Nat) : Decidable (Addressable capacity count) :=
  inferInstanceAs (Decidable (_ < _))

/-- Where the whole buffer has addresses, the sections follow each other without wrapping around. -/
theorem eq_of_compute (h : compute capacity count = .ok offsets)
    (hfits : Addressable capacity count) :
    offsets = {
      environmentCapacity := capacity
      agent := capacity
      messageOut := capacity + count .agent * slotSize
      messageIn := capacity + (count .agent + count .messageOut) * slotSize
      newAgent := capacity + (count .agent + count .messageOut + count .messageIn) * slotSize
      total := capacity +
        (count .agent + count .messageOut + count .messageIn + count .newAgent) * slotSize } := by
  simp only [Addressable, Kind.sections, List.map_cons, List.map_nil, List.sum_cons, List.sum_nil,
    slotSize] at hfits
  unfold compute at h
  split at h
  · contradiction
  · cases h
    have hmessageOut : wrap (capacity + count .agent * slotSize) =
        capacity + count .agent * slotSize := wrap_of_lt (by simp only [slotSize]; omega)
    have hmessageIn : wrap (capacity + count .agent * slotSize + count .messageOut * slotSize) =
        capacity + (count .agent + count .messageOut) * slotSize := by
      rw [Nat.add_mul, ← Nat.add_assoc]
      exact wrap_of_lt (by simp only [slotSize]; omega)
    have hnewAgent : wrap (capacity + (count .agent + count .messageOut) * slotSize +
        count .messageIn * slotSize) =
        capacity + (count .agent + count .messageOut + count .messageIn) * slotSize := by
      rw [Nat.add_mul _ (count .messageIn), ← Nat.add_assoc]
      exact wrap_of_lt (by simp only [slotSize]; omega)
    have htotal : wrap (capacity + (count .agent + count .messageOut + count .messageIn) * slotSize +
        count .newAgent * slotSize) =
        capacity +
          (count .agent + count .messageOut + count .messageIn + count .newAgent) * slotSize := by
      rw [Nat.add_mul _ (count .newAgent), ← Nat.add_assoc]
      exact wrap_of_lt (by simp only [slotSize]; omega)
    simp only [hmessageOut, hmessageIn, hnewAgent, htotal]

/-- Where the buffer ends is a word, whatever it wraps around on the way. -/
theorem total_eq_wrap (h : compute capacity count = .ok offsets) :
    offsets.total = wrap (capacity + slotSize * (Kind.sections.map count).sum) := by
  unfold compute at h
  split at h
  · contradiction
  · cases h
    simp only [wrap, addressLimit, UInt64.size, slotSize, Kind.sections, List.map_cons,
      List.map_nil, List.sum_cons, List.sum_nil]
    omega

theorem total_lt (h : compute capacity count = .ok offsets) : offsets.total < addressLimit := by
  rw [total_eq_wrap h]
  exact wrap_lt _

theorem total_eq (h : compute capacity count = .ok offsets) (hfits : Addressable capacity count) :
    offsets.total = capacity + slotSize * (Kind.sections.map count).sum := by
  rw [total_eq_wrap h, wrap_of_lt hfits]

/-- The slots of a section follow each other, and the last of them ends within the buffer. -/
theorem slotOffset_eq (h : compute capacity count = .ok offsets)
    (hfits : Addressable capacity count) {kind : Kind} {ordinal : Nat} (hlt : ordinal < count kind) :
    offsets.slotOffset kind ordinal = offsets.start kind + ordinal * slotSize ∧
      offsets.slotOffset kind ordinal + slotSize ≤ offsets.total := by
  have hwithin : offsets.start kind + ordinal * slotSize + slotSize ≤ offsets.total := by
    rw [eq_of_compute h hfits]
    cases kind <;> simp only [start, slotSize] <;> omega
  have hlimit := total_lt h
  have hoffset : offsets.slotOffset kind ordinal = offsets.start kind + ordinal * slotSize :=
    wrap_of_lt (by omega)
  exact ⟨hoffset, hoffset ▸ hwithin⟩

theorem capacity_le_total (h : compute capacity count = .ok offsets)
    (hfits : Addressable capacity count) : capacity ≤ offsets.total := by
  rw [total_eq h hfits]
  exact Nat.le_add_right _ _

end SectionOffsets

/-- The whole buffer of registries has addresses. -/
def Registries.Addressable (r : Registries) (capacity : Nat) : Prop :=
  SectionOffsets.Addressable capacity fun kind => (r.tables.get kind).size

instance (r : Registries) (capacity : Nat) : Decidable (r.Addressable capacity) :=
  inferInstanceAs (Decidable (SectionOffsets.Addressable _ _))

/-- Where the buffer ends depends on the numbers of variables only. -/
theorem Registries.addressable_eraseSlots {r : Registries} {capacity : Nat} :
    r.eraseSlots.Addressable capacity ↔ r.Addressable capacity := by
  simp [Addressable, get_tables_eraseSlots]

namespace Layout

variable {capacity : Nat} {r : Registries} {layout : Layout}

/-- Properties are accepted where they all end within the environment region. -/
theorem checkExtents_eq_ok_iff {properties : List (String × Property)} :
    checkExtents capacity properties = .ok () ↔
      ∀ x ∈ properties, ∃ finish, x.2.end? = some finish ∧ finish ≤ capacity := by
  induction properties with
  | nil => simp [checkExtents]
  | cons x rest ih =>
    obtain ⟨name, p⟩ := x
    cases hend : p.end? with
    | none => simp [checkExtents, hend]
    | some finish =>
      by_cases hle : finish ≤ capacity <;> simp [checkExtents, hend, hle, ih]

/-- The first property that does not end within the environment region is reported. -/
theorem checkExtents_eq_error {properties : List (String × Property)} {e : Error}
    (h : checkExtents capacity properties = .error e) :
    ∃ before name p after, properties = before ++ (name, p) :: after ∧
      checkExtents capacity before = .ok () ∧
      (p.end? = none ∧ e = .extentOverflow name p.offset ∨
        ∃ finish, p.end? = some finish ∧ capacity < finish ∧
          e = .beyondCapacity name p.offset finish capacity) := by
  induction properties with
  | nil => contradiction
  | cons x rest ih =>
    obtain ⟨name, p⟩ := x
    rw [checkExtents] at h
    cases hend : p.end? with
    | none =>
      simp only [hend] at h
      cases h
      exact ⟨[], name, p, rest, rfl, rfl, .inl ⟨hend, rfl⟩⟩
    | some finish =>
      simp only [hend] at h
      by_cases hle : finish ≤ capacity
      · rw [if_pos hle] at h
        obtain ⟨before, name', p', after, rfl, hbefore, hcause⟩ := ih h
        refine ⟨(name, p) :: before, name', p', after, rfl, ?_, hcause⟩
        simp only [checkExtents, hend, if_pos hle, hbefore]
      · rw [if_neg hle] at h
        cases h
        exact ⟨[], name, p, rest, rfl, rfl, .inr ⟨finish, hend, Nat.lt_of_not_le hle, rfl⟩⟩

theorem compute_eq_ok_iff :
    compute capacity r = .ok layout ↔
      checkExtents capacity r.environment.toList = .ok () ∧
      layout.ordinals = OrdinalTable.ofRegistries r ∧
      SectionOffsets.compute capacity (fun kind => (r.tables.get kind).size) =
        .ok layout.offsets := by
  have hcount : (fun kind => ((OrdinalTable.ofRegistries r).get kind).length) =
      fun kind => (r.tables.get kind).size := by
    funext kind
    rw [OrdinalTable.get_ofRegistries, OrdinalTable.length_number]
    rfl
  obtain ⟨offsets, ordinals⟩ := layout
  simp only [compute, hcount]
  cases checkExtents capacity r.environment.toList with
  | error e => simp [bind, Except.bind]
  | ok u =>
    cases SectionOffsets.compute capacity fun kind => (r.tables.get kind).size with
    | error e => simp [bind, Except.bind]
    | ok offsets' =>
      simp [bind, Except.bind, pure, Except.pure, eq_comm, and_comm]

theorem slotOffset?_of_mem (h : compute capacity r = .ok layout) {kind : Kind} {e : OrdinalEntry}
    (he : e ∈ layout.ordinals.get kind) :
    layout.slotOffset? kind e.name = some (layout.offsets.slotOffset kind e.ordinal) := by
  have hnames : ((layout.ordinals.get kind).map (·.name)).Nodup := by
    rw [(compute_eq_ok_iff.mp h).2.1]
    exact OrdinalTable.nodup_names r kind
  simp only [slotOffset?, OrdinalTable.ordinal?, find?_of_nodup hnames he, Option.map_some]

/-- The entry of a registered variable. -/
theorem exists_entry (h : compute capacity r = .ok layout) {kind : Kind} {name : String}
    {v : Variable} (hv : r.findVariable? kind name = some v) :
    ∃ e ∈ layout.ordinals.get kind, e.name = name ∧ e.details = v := by
  rw [(compute_eq_ok_iff.mp h).2.1]
  exact OrdinalTable.exists_entry hv

/-- The variable of an entry. -/
theorem find?_of_mem (h : compute capacity r = .ok layout) {kind : Kind} {e : OrdinalEntry}
    (he : e ∈ layout.ordinals.get kind) : r.findVariable? kind e.name = some e.details := by
  rw [(compute_eq_ok_iff.mp h).2.1] at he
  exact (OrdinalTable.mem_ofRegistries he).1

theorem slotOffset_add_le_total (h : compute capacity r = .ok layout)
    (hfits : r.Addressable capacity) {kind : Kind} {e : OrdinalEntry}
    (he : e ∈ layout.ordinals.get kind) :
    layout.offsets.slotOffset kind e.ordinal + slotSize ≤ layout.offsets.total := by
  obtain ⟨-, hordinals, hoffsets⟩ := compute_eq_ok_iff.mp h
  rw [hordinals] at he
  exact (SectionOffsets.slotOffset_eq hoffsets hfits (OrdinalTable.mem_ofRegistries he).2).2

/-- A slot lies within the buffer. -/
theorem slotOffset?_add_le_total (h : compute capacity r = .ok layout)
    (hfits : r.Addressable capacity) {kind : Kind} {name : String} {offset : Nat}
    (hoffset : layout.slotOffset? kind name = some offset) :
    offset + slotSize ≤ layout.offsets.total := by
  simp only [slotOffset?, OrdinalTable.ordinal?, Option.map_map, Option.map_eq_some_iff] at hoffset
  obtain ⟨e, he, rfl⟩ := hoffset
  exact slotOffset_add_le_total h hfits (List.mem_of_find?_eq_some he)

/-- The properties of registries that have a layout lie within the environment region, and end at an
address. -/
theorem property_within (h : compute capacity r = .ok layout) {name : String} {p : Property}
    (hp : r.findProperty? name = some p) :
    p.offset + p.typeSize * p.elements ≤ capacity ∧
      p.offset + p.typeSize * p.elements < addressLimit := by
  obtain ⟨hextents, -, -⟩ := compute_eq_ok_iff.mp h
  have hmem : (name, p) ∈ r.environment.toList := (r.environment.find?_eq_some_iff name p).mp hp
  obtain ⟨finish, hend, hle⟩ := checkExtents_eq_ok_iff.mp hextents _ hmem
  obtain ⟨hfinish, hlimit⟩ := extentEnd?_eq_some_iff.mp hend
  rw [hfinish]
  exact ⟨hle, hlimit⟩

end Layout

end DeviceSlots
