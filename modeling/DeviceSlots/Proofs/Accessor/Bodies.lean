import DeviceSlots.Accessor.Generator
import DeviceSlots.Proofs.Layout.Slots

/-!
# Blocks of generated bodies

The body of an access has one block for each registered variable that the access fits, and no other
block; so has an access to the environment for its properties. What is in a block is read from the
registry and from the layout.
-/

namespace DeviceSlots.Generator

variable {capacity : Nat} {r : Registries} {layout : Layout}

/-- The blocks of a body are in ascending order of their names. -/
theorem pairwise_variableBody (h : Layout.compute capacity r = .ok layout) (config : Config)
    (kind : Kind) (access : Access) :
    ((variableBody config layout kind access).blocks.map (·.name)).Pairwise (· < ·) := by
  have hnames : ((layout.ordinals.get kind).map (·.name)).Pairwise (· < ·) := by
    rw [(Layout.compute_eq_ok_iff.mp h).2.1]
    exact OrdinalTable.pairwise_names r kind
  have hblock : (fun block : Block => block.name) ∘ variableBlock config layout kind access =
      fun entry => entry.name := rfl
  rw [variableBody, List.map_map, hblock]
  exact hnames.sublist (List.filter_sublist.map _)

/-- The blocks of a body have different names. -/
theorem nodup_variableBody (h : Layout.compute capacity r = .ok layout) (config : Config)
    (kind : Kind) (access : Access) :
    ((variableBody config layout kind access).blocks.map (·.name)).Nodup := by
  apply (pairwise_variableBody h config kind access).imp
  intro a b hlt heq
  exact String.lt_irrefl b (heq ▸ hlt)

/-- A variable that the access fits has a block, with the offset of its own slot. -/
theorem exists_variableBlock (h : Layout.compute capacity r = .ok layout) (config : Config)
    {kind : Kind} {access : Access} {name : String} {v : Variable}
    (hv : r.findVariable? kind name = some v)
    (hadmits : access.admits v config.vectorTypes = true) :
    ∃ offset, layout.slotOffset? kind name = some offset ∧
      { name, checks := variableChecks config access v,
        action := variableAction config access v offset } ∈
        (variableBody config layout kind access).blocks := by
  obtain ⟨entry, hentry, rfl, rfl⟩ := Layout.exists_entry h hv
  refine ⟨_, Layout.slotOffset?_of_mem h hentry, ?_⟩
  exact List.mem_map.mpr ⟨entry, List.mem_filter.mpr ⟨hentry, hadmits⟩, rfl⟩

/-- A block is that of a registered variable that the access fits. -/
theorem findVariable?_of_mem_blocks (h : Layout.compute capacity r = .ok layout) {config : Config}
    {kind : Kind} {access : Access} {block : Block}
    (hb : block ∈ (variableBody config layout kind access).blocks) :
    ∃ v, r.findVariable? kind block.name = some v ∧
      access.admits v config.vectorTypes = true := by
  obtain ⟨entry, hentry, rfl⟩ := List.mem_map.mp hb
  obtain ⟨hmem, hadmits⟩ := List.mem_filter.mp hentry
  exact ⟨entry.details, Layout.find?_of_mem h hmem, hadmits⟩

/-- What an access does uses the slot of the variable, and nothing else of the buffer. -/
theorem variableAction_cases (config : Config) (access : Access) (v : Variable) (offset : Nat) :
    variableAction config access v offset = .store offset (variableElement access v) ∨
    variableAction config access v offset = .load offset (variableElement access v) ∨
    variableAction config access v offset = .loadCached offset (variableElement access v) := by
  unfold variableAction
  split
  · exact .inl rfl
  · split
    · exact .inr (.inr rfl)
    · exact .inr (.inl rfl)

/-! ## Environment properties -/

theorem nodup_environmentBody (config : Config) (environment : NameMap Property)
    (access : PropertyAccess) :
    ((environmentBody config environment access).blocks.map (·.name)).Nodup := by
  have hblock : (fun block : Block => block.name) ∘ propertyBlock config access = Prod.fst := rfl
  rw [environmentBody, List.map_map, hblock]
  exact environment.nodup_names.sublist (List.filter_sublist.map _)

/-- The block that answers to a name is that of the property registered under it, if the access fits
the property. -/
theorem find?_environmentBody (config : Config) (environment : NameMap Property)
    (access : PropertyAccess) (name : String) :
    (environmentBody config environment access).blocks.find? (fun block => block.name = name) =
      ((environment.find? name).filter (access.admits · config.vectorTypes)).map
        fun p => propertyBlock config access (name, p) := by
  cases hfound : (environment.find? name).filter (access.admits · config.vectorTypes) with
  | some p =>
    obtain ⟨hp, hadmits⟩ := Option.filter_eq_some_iff.mp hfound
    have hmem : (name, p) ∈ environment.toList := (environment.find?_eq_some_iff name p).mp hp
    have hblock : propertyBlock config access (name, p) ∈
        (environmentBody config environment access).blocks :=
      List.mem_map_of_mem (List.mem_filter.mpr ⟨hmem, hadmits⟩)
    exact find?_of_nodup (nodup_environmentBody config environment access) hblock
  | none =>
    rw [Option.map_none, List.find?_eq_none]
    intro block hb hname
    obtain ⟨⟨n, p⟩, hentry, rfl⟩ := List.mem_map.mp hb
    obtain ⟨hmem, hadmits⟩ := List.mem_filter.mp hentry
    obtain rfl : n = name := of_decide_eq_true hname
    have hp : environment.find? n = some p := (environment.find?_eq_some_iff n p).mpr hmem
    rw [hp, Option.filter_some, if_pos hadmits] at hfound
    exact absurd hfound (Option.some_ne_none p)

end DeviceSlots.Generator
