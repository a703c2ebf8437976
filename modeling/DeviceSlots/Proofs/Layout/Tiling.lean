import Mathlib.Algebra.GroupWithZero.Nat
import Mathlib.Data.List.Nodup
import DeviceSlots.Proofs.Layout.Slots
import DeviceSlots.Proofs.Registry.Slots
import DeviceSlots.Proofs.Text.ByteOrder

/-!
# Tiling

The variables of all kinds stand in one row, section by section and in ascending order of the names,
and the slot of a variable is at its place in the row. So a slot's offset is found by counting the
variables before it, and the slots tile the buffer from the end of the environment region on.
-/

namespace DeviceSlots

/-! ## The row of variables -/

/-- The kinds whose sections come before that of a kind. -/
def Kind.before (kind : Kind) : List Kind := sections.takeWhile fun k => k ≠ kind

theorem Kind.sections_eq (kind : Kind) : ∃ after, sections = kind.before ++ kind :: after := by
  cases kind <;> exact ⟨_, rfl⟩

namespace Registries

variable {r : Registries} {kind : Kind} {name : String}

/-- The variables of a kind in the order of their slots. -/
def rowOf (r : Registries) (kind : Kind) : List (Kind × String) :=
  (r.tables.get kind).names.map fun name => (kind, name)

/-- The variables of all kinds in the order of their slots. -/
def row (r : Registries) : List (Kind × String) := Kind.sections.flatMap r.rowOf

theorem length_rowOf (r : Registries) (kind : Kind) :
    (r.rowOf kind).length = (r.tables.get kind).size := by
  simp [rowOf, NameMap.names, NameMap.size]

/-- The number of variables in the sections before that of a kind. -/
def countBefore (r : Registries) (kind : Kind) : Nat :=
  (kind.before.map fun k => (r.tables.get k).size).sum

/-- The number of variables of a kind whose names are less than a name, byte by byte. -/
def rank (r : Registries) (kind : Kind) (name : String) : Nat :=
  ((r.tables.get kind).names.filter fun n => Text.utf8 n < Text.utf8 name).length

theorem mem_names_iff : name ∈ (r.tables.get kind).names ↔
    ∃ v, r.findVariable? kind name = some v := by
  simp only [NameMap.names, List.mem_map, findVariable?, NameMap.find?_eq_some_iff]
  constructor
  · rintro ⟨⟨n, v⟩, hmem, rfl⟩
    exact ⟨v, hmem⟩
  · rintro ⟨v, hmem⟩
    exact ⟨(name, v), hmem, rfl⟩

theorem mem_row_iff : (kind, name) ∈ r.row ↔ ∃ v, r.findVariable? kind name = some v := by
  rw [← mem_names_iff]
  simp [row, rowOf, Kind.mem_sections]

/-- No variable stands in the row twice. -/
theorem nodup_row (r : Registries) : r.row.Nodup := by
  rw [row, List.nodup_flatMap]
  constructor
  · intro kind _
    exact (r.tables.get kind).nodup_names.map fun _ _ h => congrArg Prod.snd h
  · apply Kind.nodup_sections.imp
    intro kind kind' hne owner hmem hmem'
    obtain ⟨name, -, rfl⟩ := List.mem_map.mp hmem
    obtain ⟨name', -, heq⟩ := List.mem_map.mp hmem'
    exact hne (congrArg Prod.fst heq).symm

/-- The row depends on the names only, not on what is registered under them. -/
theorem row_eq_of_names {r' : Registries}
    (h : ∀ kind, (r'.tables.get kind).names = (r.tables.get kind).names) : r'.row = r.row := by
  have hrow : r'.rowOf = r.rowOf := by
    funext kind
    rw [rowOf, rowOf, h]
  rw [row, row, hrow]

theorem length_row (r : Registries) :
    r.row.length = (Kind.sections.map fun kind => (r.tables.get kind).size).sum := by
  simp only [row, List.length_flatMap, length_rowOf]

/-- The variables of a kind stand together, after those of the sections before. -/
theorem row_split (r : Registries) (kind : Kind) :
    ∃ before after, r.row = before ++ r.rowOf kind ++ after ∧ before.length = r.countBefore kind := by
  obtain ⟨later, hsections⟩ := kind.sections_eq
  refine ⟨kind.before.flatMap r.rowOf, later.flatMap r.rowOf, ?_, ?_⟩
  · rw [row, hsections, List.flatMap_append, List.flatMap_cons, List.append_assoc]
  · simp only [countBefore, List.length_flatMap, length_rowOf]

end Registries

/-! ## Numbers of variables -/

/-- In an ordered list, an element's index is the number of elements that come before it. -/
theorem length_filter_before {α : Type} {before : α → α → Bool} {list : List α}
    (h : list.Pairwise fun x y => before x y = true ∧ before y x = false)
    (hself : ∀ x, before x x = false) {a : α} {i : Nat} (hi : list[i]? = some a) :
    (list.filter fun x => before x a).length = i := by
  induction list generalizing i with
  | nil => simp at hi
  | cons x rest ih =>
    obtain ⟨hhead, htail⟩ := List.pairwise_cons.mp h
    cases i with
    | zero =>
      obtain rfl : x = a := by simpa using hi
      have hnone : rest.filter (fun y => before y x) = [] := by
        rw [List.filter_eq_nil_iff]
        intro y hy
        rw [(hhead y hy).2]
        exact Bool.false_ne_true
      simp [hself, hnone]
    | succ i =>
      rw [List.getElem?_cons_succ] at hi
      obtain ⟨hbefore, -⟩ := hhead a (List.mem_of_getElem? hi)
      simp [hbefore, ih htail hi]

theorem Registries.rank_eq {r : Registries} {kind : Kind} {name : String} {i : Nat}
    (h : (r.tables.get kind).names[i]? = some name) : r.rank kind name = i := by
  refine @length_filter_before _ (fun x y => Text.utf8 x < Text.utf8 y) _ ?_ ?_ _ _ h
  · apply (r.tables.get kind).pairwise_names.imp
    intro x y hlt
    have hbytes := (Text.utf8_lt_utf8_iff x y).mpr hlt
    exact ⟨decide_eq_true hbytes, decide_eq_false (List.lt_asymm hbytes)⟩
  · intro x
    exact decide_eq_false (List.lt_irrefl _)

namespace OrdinalTable

theorem getElem?_number (first : Nat) (list : List (String × Variable)) (i : Nat) :
    (number first list)[i]? = (list[i]?).map fun x => ⟨x.1, first + i, x.2⟩ := by
  induction list generalizing first i with
  | nil => simp [number]
  | cons x rest ih =>
    cases i with
    | zero => simp [number]
    | succ i => simp [number, ih, Nat.add_comm 1 i, Nat.add_assoc]

/-- A variable's number is its index among the names of its kind. -/
theorem ordinal?_eq_some {r : Registries} {kind : Kind} {name : String} {i : Nat}
    (h : (r.tables.get kind).names[i]? = some name) :
    (ofRegistries r).ordinal? kind name = some i := by
  rw [NameMap.names, List.getElem?_map] at h
  obtain ⟨x, hx, rfl⟩ := Option.map_eq_some_iff.mp h
  have hentry : ((ofRegistries r).get kind)[i]? = some ⟨x.1, i, x.2⟩ := by
    rw [get_ofRegistries, getElem?_number, Nat.zero_add, NameMap.toList, hx, Option.map_some]
  have hfind := find?_of_nodup (nodup_names r kind) (List.mem_of_getElem? hentry)
  simp only [ordinal?, hfind, Option.map_some]

end OrdinalTable

/-! ## Offsets -/

namespace SectionOffsets

variable {capacity : Nat} {count : Kind → Nat} {offsets : SectionOffsets}

/-- A section starts after the variables of the sections before. -/
theorem start_eq (h : compute capacity count = .ok offsets) (hfits : Addressable capacity count)
    (kind : Kind) : offsets.start kind = capacity + slotSize * (kind.before.map count).sum := by
  rw [eq_of_compute h hfits]
  cases kind <;> simp [start, Kind.before, Kind.sections, Nat.mul_comm slotSize, Nat.add_assoc]

theorem slotSize_dvd_capacity (h : compute capacity count = .ok offsets) :
    slotSize ∣ capacity := by
  unfold compute at h
  split at h
  · contradiction
  · rename_i haligned
    exact Nat.dvd_of_mod_eq_zero (Decidable.not_not.mp haligned)

end SectionOffsets

namespace Layout

variable {capacity : Nat} {r : Registries} {layout : Layout} {kind : Kind} {name : String}
  {offset : Nat}

/-- A name has a slot exactly if it is registered. -/
theorem slotOffset?_isSome_iff (h : compute capacity r = .ok layout) :
    (∃ offset, layout.slotOffset? kind name = some offset) ↔
      ∃ v, r.findVariable? kind name = some v := by
  constructor
  · rintro ⟨offset, hoffset⟩
    simp only [slotOffset?, OrdinalTable.ordinal?, Option.map_map] at hoffset
    obtain ⟨e, he, -⟩ := Option.map_eq_some_iff.mp hoffset
    have hname : e.name = name := by simpa using List.find?_some he
    exact ⟨e.details, hname ▸ find?_of_mem h (List.mem_of_find?_eq_some he)⟩
  · rintro ⟨v, hv⟩
    obtain ⟨e, he, rfl, -⟩ := exists_entry h hv
    exact ⟨_, slotOffset?_of_mem h he⟩

/-- The slot of a variable comes after those of the sections before, and after those of the lesser
names of its kind. -/
theorem slotOffset?_eq_rank (h : compute capacity r = .ok layout) (hfits : r.Addressable capacity)
    {v : Variable} (hv : r.findVariable? kind name = some v) :
    layout.slotOffset? kind name =
      some (capacity + slotSize * (r.countBefore kind + r.rank kind name)) := by
  obtain ⟨-, hordinals, hoffsets⟩ := compute_eq_ok_iff.mp h
  obtain ⟨i, hi⟩ := List.mem_iff_getElem?.mp (Registries.mem_names_iff.mpr ⟨v, hv⟩)
  have hlt : i < (r.tables.get kind).size := by
    obtain ⟨hlt, -⟩ := List.getElem?_eq_some_iff.mp hi
    simpa [NameMap.names, NameMap.size] using hlt
  rw [slotOffset?, hordinals, OrdinalTable.ordinal?_eq_some hi, Registries.rank_eq hi,
    Option.map_some, (SectionOffsets.slotOffset_eq hoffsets hfits hlt).1,
    SectionOffsets.start_eq hoffsets hfits]
  simp only [Registries.countBefore]
  rw [Nat.mul_add, Nat.add_assoc, Nat.mul_comm i]

theorem getElem?_row {v : Variable} (hv : r.findVariable? kind name = some v) :
    r.row[r.countBefore kind + r.rank kind name]? = some (kind, name) := by
  obtain ⟨before, after, hrow, hbefore⟩ := r.row_split kind
  obtain ⟨i, hi⟩ := List.mem_iff_getElem?.mp (Registries.mem_names_iff.mpr ⟨v, hv⟩)
  obtain ⟨hlt, -⟩ := List.getElem?_eq_some_iff.mp hi
  rw [hrow, Registries.rank_eq hi, ← hbefore, List.append_assoc,
    List.getElem?_append_right (Nat.le_add_right _ _), Nat.add_sub_cancel_left,
    List.getElem?_append_left (by simpa [Registries.rowOf] using hlt), Registries.rowOf,
    List.getElem?_map, hi, Option.map_some]

/-- A slot's offset is its place in the row. -/
theorem slotOffset?_eq_some_iff (h : compute capacity r = .ok layout)
    (hfits : r.Addressable capacity) :
    layout.slotOffset? kind name = some offset ↔
      ∃ i, r.row[i]? = some (kind, name) ∧ offset = capacity + slotSize * i := by
  constructor
  · intro hoffset
    obtain ⟨v, hv⟩ := (slotOffset?_isSome_iff h).mp ⟨offset, hoffset⟩
    rw [slotOffset?_eq_rank h hfits hv] at hoffset
    exact ⟨_, getElem?_row hv, (Option.some.inj hoffset).symm⟩
  · rintro ⟨i, hi, rfl⟩
    obtain ⟨v, hv⟩ := Registries.mem_row_iff.mp (List.mem_of_getElem? hi)
    have hplace := getElem?_row hv
    have hsame : r.countBefore kind + r.rank kind name = i := by
      obtain ⟨hlt, hget⟩ := List.getElem?_eq_some_iff.mp hplace
      obtain ⟨hlt', hget'⟩ := List.getElem?_eq_some_iff.mp hi
      exact r.nodup_row.getElem_inj_iff.mp (hget.trans hget'.symm)
    rw [slotOffset?_eq_rank h hfits hv, hsame]

theorem total_eq_wrap (h : compute capacity r = .ok layout) :
    layout.offsets.total = wrap (capacity + slotSize * r.row.length) := by
  rw [SectionOffsets.total_eq_wrap (compute_eq_ok_iff.mp h).2.2, Registries.length_row]

/-- The buffer ends with the last slot of the row. -/
theorem total_eq (h : compute capacity r = .ok layout) (hfits : r.Addressable capacity) :
    layout.offsets.total = capacity + slotSize * r.row.length := by
  rw [SectionOffsets.total_eq (compute_eq_ok_iff.mp h).2.2 hfits, Registries.length_row]

/-! ## Tiling -/

/-- The slots of a layout fill the bytes from `first` up to `last`, without gaps and overlaps, and
start at multiples of their size. -/
structure Tiles (layout : Layout) (first last : Nat) : Prop where
  aligned : ∀ kind name offset, layout.slotOffset? kind name = some offset → slotSize ∣ offset
  disjoint : ∀ kind name offset kind' name' offset',
    layout.slotOffset? kind name = some offset → layout.slotOffset? kind' name' = some offset' →
    (kind, name) ≠ (kind', name') → offset + slotSize ≤ offset' ∨ offset' + slotSize ≤ offset
  covers : ∀ i, first ≤ i ∧ i < last ↔
    ∃ kind name offset, layout.slotOffset? kind name = some offset ∧
      offset ≤ i ∧ i < offset + slotSize

theorem tiles (h : compute capacity r = .ok layout) (hfits : r.Addressable capacity) :
    layout.Tiles capacity layout.offsets.total where
  aligned := by
    intro kind name offset hoffset
    obtain ⟨i, -, rfl⟩ := (slotOffset?_eq_some_iff h hfits).mp hoffset
    have hcapacity := SectionOffsets.slotSize_dvd_capacity (compute_eq_ok_iff.mp h).2.2
    exact Nat.dvd_add hcapacity (Nat.dvd_mul_right _ _)
  disjoint := by
    intro kind name offset kind' name' offset' hoffset hoffset' hne
    obtain ⟨i, hi, rfl⟩ := (slotOffset?_eq_some_iff h hfits).mp hoffset
    obtain ⟨j, hj, rfl⟩ := (slotOffset?_eq_some_iff h hfits).mp hoffset'
    have hij : i ≠ j := by
      rintro rfl
      exact hne (Option.some.inj (hi.symm.trans hj))
    simp only [slotSize]
    omega
  covers := by
    intro i
    rw [total_eq h hfits]
    constructor
    · rintro ⟨hle, hlt⟩
      -- the byte lies in the slot whose place it has been counted past
      have hplace : (i - capacity) / slotSize < r.row.length :=
        Nat.div_lt_of_lt_mul (by omega)
      have hrow := List.getElem?_eq_getElem hplace
      refine ⟨_, _, _, (slotOffset?_eq_some_iff h hfits).mpr ⟨_, hrow, rfl⟩, ?_⟩
      simp only [slotSize]
      omega
    · rintro ⟨kind, name, offset, hoffset, hle, hlt⟩
      obtain ⟨j, hj, rfl⟩ := (slotOffset?_eq_some_iff h hfits).mp hoffset
      obtain ⟨hj, -⟩ := List.getElem?_eq_some_iff.mp hj
      simp only [slotSize] at hle hlt ⊢
      omega

/-- Where the whole buffer has addresses, a registered variable's slot is found by counting the
variables before it, whatever their types and sizes are; other names have no slot; and the slots tile
the buffer after the environment region. -/
theorem slots_tile (h : compute capacity r = .ok layout) (hfits : r.Addressable capacity) :
    (∀ kind name v, r.findVariable? kind name = some v →
      layout.slotOffset? kind name =
        some (capacity + slotSize * r.countBefore kind + slotSize * r.rank kind name)) ∧
    (∀ kind name, r.findVariable? kind name = none → layout.slotOffset? kind name = none) ∧
    (∀ r' layout', compute capacity r' = .ok layout' →
      (∀ kind, (r'.tables.get kind).names = (r.tables.get kind).names) →
      ∀ kind name, layout'.slotOffset? kind name = layout.slotOffset? kind name) ∧
    layout.Tiles capacity layout.offsets.total := by
  refine ⟨?_, ?_, ?_, tiles h hfits⟩
  · intro kind name v hv
    rw [slotOffset?_eq_rank h hfits hv, Nat.mul_add, Nat.add_assoc]
  · intro kind name hnone
    apply Option.eq_none_iff_forall_ne_some.mpr
    intro offset hoffset
    obtain ⟨v, hv⟩ := (slotOffset?_isSome_iff h).mp ⟨offset, hoffset⟩
    rw [hnone] at hv
    contradiction
  · intro r' layout' h' hnames kind name
    apply Option.ext
    intro offset
    have hfits' : r'.Addressable capacity := by
      have hsize (kind : Kind) : (r'.tables.get kind).size = (r.tables.get kind).size :=
        by simpa [NameMap.names, NameMap.size] using congrArg List.length (hnames kind)
      simp only [Registries.Addressable, hsize]
      exact hfits
    rw [slotOffset?_eq_some_iff h hfits, slotOffset?_eq_some_iff h' hfits',
      Registries.row_eq_of_names hnames]

/-- Registries with one name in two kinds, and with a name outside ASCII. -/
def sharedNames : Registries :=
  let scalar : VariableDecl := { name := "x", typeName := "float", typeSize := 4 }
  let array : VariableDecl :=
    { name := "é", typeName := "int", typeSize := 4, elements := 3, write := false }
  (Registries.ofVariable .messageIn "x" scalar.register).setTable .agent
    ((NameMap.empty.insert "é" array.register).insert "x" scalar.register)

theorem slots_tile_sharedNames :
    sharedNames.Addressable 16 ∧ ∃ layout, compute 16 sharedNames = .ok layout ∧
      layout.slotOffset? .agent "é" = some 24 ∧ layout.slotOffset? .messageIn "x" = some 32 ∧
      layout.Tiles 16 40 := by
  have hfits : sharedNames.Addressable 16 := by decide
  obtain ⟨hslot, -, -, htiles⟩ := @slots_tile 16 sharedNames _ rfl hfits
  exact ⟨hfits, _, rfl, hslot .agent "é" _ rfl, hslot .messageIn "x" _ rfl, htiles⟩

end Layout

end DeviceSlots
