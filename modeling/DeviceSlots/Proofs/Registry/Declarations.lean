import DeviceSlots.Proofs.Registry.History

/-!
# Declarations of all registries

The five registries work alike: each is a map from names to entries. A declaration is registered if
it is in shape, its bytes have addresses and its name is free, and otherwise it is refused for the
first of these rules that it breaks. A removal takes out the entry that it hands back. So all that
is ever registered comes from declarations that keep the rules.
-/

namespace DeviceSlots

/-- A request to register something in one of the five registries. -/
inductive Declaration
  | ofVariable (kind : Kind) (decl : VariableDecl)
  | ofProperty (decl : PropertyDecl)
  deriving DecidableEq

/-- Something that is registered. -/
inductive Entry
  | ofVariable (v : Variable)
  | ofProperty (p : Property)
  deriving DecidableEq

/-- A variable is stored for a declaration: with the canonical name of its type, with its sizes and
flags as they were declared, and without a slot. -/
structure VariableDecl.Stores (decl : VariableDecl) (v : Variable) : Prop where
  typeName : v.typeName = TypeName.canonical decl.typeName
  typeSize : v.typeSize = decl.typeSize
  elements : v.elements = decl.elements
  read : v.read = decl.read
  write : v.write = decl.write
  slot : v.slot = none

/-- A property is stored for a declaration: with the canonical name of its type, and with its sizes
and its place as they were declared. -/
structure PropertyDecl.Stores (decl : PropertyDecl) (p : Property) : Prop where
  typeName : p.typeName = TypeName.canonical decl.typeName
  typeSize : p.typeSize = decl.typeSize
  elements : p.elements = decl.elements
  offset : p.offset = decl.offset

theorem VariableDecl.stores_iff {decl : VariableDecl} {v : Variable} :
    decl.Stores v ↔ decl.register = v := by
  constructor
  · rintro ⟨htype, hsize, helements, hread, hwrite, hslot⟩
    rw [register, ← htype, ← hsize, ← helements, ← hread, ← hwrite, ← hslot]
  · rintro rfl
    constructor <;> rw [register]

theorem PropertyDecl.stores_iff {decl : PropertyDecl} {p : Property} :
    decl.Stores p ↔ decl.register = p := by
  constructor
  · rintro ⟨htype, hsize, helements, hoffset⟩
    rw [register, ← htype, ← hsize, ← helements, ← hoffset]
  · rintro rfl
    constructor <;> rw [register]

/-- What may be wrong with what is asked for: it is in no shape, or its name is taken. -/
def Objection (e : Error) : Prop := e.category = .invalidConfig ∨ e.category = .alreadyExists

namespace Declaration

/-- The registry that the declaration is for. -/
def subject : Declaration → Subject
  | .ofVariable kind _ => .variable kind
  | .ofProperty _ => .environment

def name : Declaration → String
  | .ofVariable _ decl => decl.name
  | .ofProperty decl => decl.name

def typeSize : Declaration → Nat
  | .ofVariable _ decl => decl.typeSize
  | .ofProperty decl => decl.typeSize

def elements : Declaration → Nat
  | .ofVariable _ decl => decl.elements
  | .ofProperty decl => decl.elements

/-- What the declaration registers. -/
def entry : Declaration → Entry
  | .ofVariable _ decl => .ofVariable decl.register
  | .ofProperty decl => .ofProperty decl.register

/-- An entry is stored for a declaration: a variable for one of a variable, a property for one of a
property, with all that was declared. -/
inductive Stores : Declaration → Entry → Prop
  | ofVariable {kind : Kind} {decl : VariableDecl} {v : Variable} (h : decl.Stores v) :
      Stores (.ofVariable kind decl) (.ofVariable v)
  | ofProperty {decl : PropertyDecl} {p : Property} (h : decl.Stores p) :
      Stores (.ofProperty decl) (.ofProperty p)

theorem stores_iff {decl : Declaration} {a : Entry} : decl.Stores a ↔ decl.entry = a := by
  constructor
  · intro h
    cases h with
    | ofVariable h => exact congrArg Entry.ofVariable (VariableDecl.stores_iff.mp h)
    | ofProperty h => exact congrArg Entry.ofProperty (PropertyDecl.stores_iff.mp h)
  · rintro rfl
    cases decl with
    | ofVariable kind decl => exact .ofVariable (VariableDecl.stores_iff.mpr rfl)
    | ofProperty decl => exact .ofProperty (PropertyDecl.stores_iff.mpr rfl)

/-! ## Rules for declarations -/

/-- A declaration has a name, a type of some size, and an element. -/
structure InShape (decl : Declaration) : Prop where
  named : decl.name ≠ ""
  sized : decl.typeSize ≠ 0
  counted : decl.elements ≠ 0

/-- A property's end is an address. Variables are given their places later. -/
def Addressable : Declaration → Prop
  | .ofVariable .. => True
  | .ofProperty decl => decl.offset + decl.typeSize * decl.elements < addressLimit

/-- What is asked of a declaration on its own. -/
structure Admissible (decl : Declaration) : Prop where
  inShape : decl.InShape
  addressable : decl.Addressable

/-- Why a declaration is refused: the first rule that it breaks. That its name has to be free is the
last of the rules, and `taken` says that the name is not. -/
inductive Refused (taken : Prop) : Declaration → Error → Prop
  | unnamed {decl : Declaration} (h : decl.name = "") :
      Refused taken decl (.emptyName decl.subject)
  | unsized {decl : Declaration} (hname : decl.name ≠ "") (h : decl.typeSize = 0) :
      Refused taken decl (.zeroSize decl.subject decl.name)
  | uncounted {decl : Declaration} (hname : decl.name ≠ "") (hsize : decl.typeSize ≠ 0)
      (h : decl.elements = 0) : Refused taken decl (.zeroElements decl.subject decl.name)
  | unaddressable {decl : PropertyDecl} (hshape : (ofProperty decl).InShape)
      (h : addressLimit ≤ decl.offset + decl.typeSize * decl.elements) :
      Refused taken (ofProperty decl) (.extentOverflow decl.name decl.offset)
  | duplicate {decl : Declaration} (hadmissible : decl.Admissible) (h : taken) :
      Refused taken decl (.alreadyRegistered decl.subject decl.name)

variable {taken : Prop} {decl : Declaration} {e : Error}

theorem Refused.objection (h : decl.Refused taken e) : Objection e := by
  cases h with
  | unnamed | unsized | uncounted | unaddressable => exact .inl rfl
  | duplicate => exact .inr rfl

/-- A declaration that keeps the rules is accepted, and any other is refused. -/
theorem refused_or_admissible (taken : Prop) (decl : Declaration) :
    (∃ e, decl.Refused taken e) ∨ decl.Admissible ∧ ¬ taken := by
  by_cases hname : decl.name = ""
  · exact .inl ⟨_, .unnamed hname⟩
  by_cases hsize : decl.typeSize = 0
  · exact .inl ⟨_, .unsized hname hsize⟩
  by_cases helements : decl.elements = 0
  · exact .inl ⟨_, .uncounted hname hsize helements⟩
  have hshape : decl.InShape := ⟨hname, hsize, helements⟩
  by_cases hend : decl.Addressable
  · by_cases htaken : taken
    · exact .inl ⟨_, .duplicate ⟨hshape, hend⟩ htaken⟩
    · exact .inr ⟨⟨hshape, hend⟩, htaken⟩
  · cases decl with
    | ofVariable kind decl => exact absurd trivial hend
    | ofProperty decl => exact .inl ⟨_, .unaddressable hshape (Nat.not_lt.mp hend)⟩

theorem InShape.checkShape (h : decl.InShape) :
    checkShape decl.subject decl.name decl.typeSize decl.elements = .ok () :=
  checkShape_eq_ok_iff.mpr ⟨h.named, h.sized, h.counted⟩

end Declaration

namespace Registries

variable {r r' : Registries} {s s' : Subject} {name name' : String} {a : Entry}
  {decl : Declaration}

/-! ## Registries as maps -/

/-- The map of one registry. -/
def table (r : Registries) : Subject → NameMap Entry
  | .variable kind => (r.tables.get kind).map .ofVariable
  | .environment => r.environment.map .ofProperty

theorem find?_table_variable {kind : Kind} {v : Variable} :
    (r.table (.variable kind)).find? name = some (.ofVariable v) ↔
      r.findVariable? kind name = some v := by
  simp [table, NameMap.find?_map, findVariable?]

theorem find?_table_environment {p : Property} :
    (r.table .environment).find? name = some (.ofProperty p) ↔ r.findProperty? name = some p := by
  simp [table, NameMap.find?_map, findProperty?]

@[simp] theorem find?_table_empty : (empty.table s).find? name = none := by
  cases s <;> simp [table, empty, NameMap.find?_map]

@[simp] theorem size_table_empty (s : Subject) : (empty.table s).size = 0 := by
  cases s <;> simp [table, empty]

/-- The registries with the entry of a declaration. -/
def put (r : Registries) : Declaration → Registries
  | .ofVariable kind decl => r.setTable kind ((r.tables.get kind).insert decl.name decl.register)
  | .ofProperty decl => { r with environment := r.environment.insert decl.name decl.register }

/-- The registries without the entry of a name. -/
def remove (r : Registries) : Subject → String → Registries
  | .variable kind, name => r.setTable kind ((r.tables.get kind).erase name)
  | .environment, name => { r with environment := r.environment.erase name }

theorem table_setTable (kind : Kind) (t : NameMap Variable) :
    (r.setTable kind t).table s =
      if s = .variable kind then t.map .ofVariable else r.table s := by
  rcases s with kind' | _
  · by_cases hkind : kind' = kind <;> simp [table, setTable, ByKind.get_set, hkind]
  · rfl

theorem table_put (decl : Declaration) :
    (r.put decl).table s =
      if s = decl.subject then (r.table s).insert decl.name decl.entry else r.table s := by
  cases decl with
  | ofVariable kind decl =>
    rw [put, table_setTable, NameMap.map_insert]
    split
    · rename_i hs
      subst hs
      exact (if_pos rfl).symm
    · rename_i hs
      exact (if_neg hs).symm
  | ofProperty decl =>
    rcases s with kind | _
    · rfl
    · exact NameMap.map_insert _ _ _ _

theorem table_remove :
    (r.remove s' name).table s = if s = s' then (r.table s).erase name else r.table s := by
  rcases s' with kind | _
  · rw [remove, table_setTable, NameMap.map_erase]
    split
    · rename_i hs
      subst hs
      rfl
    · rfl
  · rcases s with kind | _
    · rfl
    · exact NameMap.map_erase _ _ _

theorem find?_put (decl : Declaration) :
    ((r.put decl).table s).find? name =
      if s = decl.subject ∧ name = decl.name then some decl.entry
      else (r.table s).find? name := by
  rw [table_put]
  by_cases hs : s = decl.subject <;> simp [hs, NameMap.find?_insert]

theorem find?_remove :
    ((r.remove s' name').table s).find? name =
      if s = s' ∧ name = name' then none else (r.table s).find? name := by
  rw [table_remove]
  by_cases hs : s = s' <;> simp [hs, NameMap.find?_erase]

/-! ## Registering -/

/-- Registers what is declared. -/
def add : Declaration → Method Registries Unit
  | .ofVariable kind decl => addVariable kind decl
  | .ofProperty decl => addProperty decl

/-- The registries with what is declared. -/
def register (r : Registries) (decl : Declaration) : Except Error Registries := (add decl).leaves r

theorem atomic_add (decl : Declaration) : (add decl).Atomic := by
  cases decl with
  | ofVariable kind decl => exact atomic_addVariable kind decl
  | ofProperty decl => exact atomic_addProperty decl

theorem register_ofVariable (r : Registries) (kind : Kind) (decl : VariableDecl) :
    r.register (.ofVariable kind decl) = r.registerVariable kind decl := rfl

theorem register_ofProperty (r : Registries) (decl : PropertyDecl) :
    r.register (.ofProperty decl) = r.registerProperty decl := rfl

/-- The name of a declaration has an entry in its registry. -/
def Taken (r : Registries) (decl : Declaration) : Prop :=
  ∃ a, (r.table decl.subject).find? decl.name = some a

theorem not_taken_variable_iff {kind : Kind} {decl : VariableDecl} :
    ¬ r.Taken (.ofVariable kind decl) ↔ r.findVariable? kind decl.name = none := by
  simp [Taken, table, NameMap.find?_map, findVariable?, Declaration.subject, Declaration.name,
    Option.eq_none_iff_forall_ne_some]

theorem not_taken_property_iff {decl : PropertyDecl} :
    ¬ r.Taken (.ofProperty decl) ↔ r.findProperty? decl.name = none := by
  simp [Taken, table, NameMap.find?_map, findProperty?, Declaration.subject, Declaration.name,
    Option.eq_none_iff_forall_ne_some]

theorem register_eq_ok_iff :
    r.register decl = .ok r' ↔ decl.Admissible ∧ ¬ r.Taken decl ∧ r' = r.put decl := by
  cases decl with
  | ofVariable kind decl =>
    rw [register_ofVariable, registerVariable_eq_ok_iff, not_taken_variable_iff, checkShape_eq_ok_iff]
    constructor
    · rintro ⟨⟨hname, hsize, helements⟩, hfree, rfl⟩
      exact ⟨⟨⟨hname, hsize, helements⟩, trivial⟩, hfree, rfl⟩
    · rintro ⟨⟨hshape, -⟩, hfree, rfl⟩
      exact ⟨⟨hshape.named, hshape.sized, hshape.counted⟩, hfree, rfl⟩
  | ofProperty decl =>
    rw [register_ofProperty, registerProperty_eq_ok_iff, not_taken_property_iff, checkShape_eq_ok_iff]
    simp only [Property.end?, extentEnd?_eq_some_iff]
    constructor
    · rintro ⟨⟨hname, hsize, helements⟩, ⟨_, rfl, hend⟩, hfree, rfl⟩
      exact ⟨⟨⟨hname, hsize, helements⟩, hend⟩, hfree, rfl⟩
    · rintro ⟨⟨hshape, hend⟩, hfree, rfl⟩
      exact ⟨⟨hshape.named, hshape.sized, hshape.counted⟩, ⟨_, rfl, hend⟩, hfree, rfl⟩

theorem register_of_checkShape {e : Error}
    (h : checkShape decl.subject decl.name decl.typeSize decl.elements = .error e) :
    r.register decl = .error e := by
  cases decl with
  | ofVariable kind decl =>
    have hshape : checkShape (.variable kind) decl.name decl.typeSize decl.elements = .error e := h
    rw [register_ofVariable, registerVariable_eq, hshape, error_bind]
  | ofProperty decl =>
    have hshape : checkShape .environment decl.name decl.typeSize decl.elements = .error e := h
    rw [register_ofProperty, registerProperty_eq, hshape, error_bind]

theorem register_of_unaddressable {decl : PropertyDecl}
    (hshape : (Declaration.ofProperty decl).InShape)
    (h : addressLimit ≤ decl.offset + decl.typeSize * decl.elements) :
    r.register (.ofProperty decl) = .error (.extentOverflow decl.name decl.offset) := by
  have hcheck : checkShape .environment decl.name decl.typeSize decl.elements = .ok () :=
    hshape.checkShape
  have hend : extentEnd? decl.offset decl.typeSize decl.elements = none := if_neg (Nat.not_lt.mpr h)
  simp only [register_ofProperty, registerProperty_eq, hcheck, hend]
  rfl

theorem register_of_taken (hadmissible : decl.Admissible) (h : r.Taken decl) :
    r.register decl = .error (.alreadyRegistered decl.subject decl.name) := by
  cases decl with
  | ofVariable kind decl =>
    have hcheck : checkShape (.variable kind) decl.name decl.typeSize decl.elements = .ok () :=
      hadmissible.inShape.checkShape
    have hcontains : (r.tables.get kind).contains decl.name = true :=
      Option.isSome_iff_ne_none.mpr fun hnone => not_taken_variable_iff.mpr hnone h
    simp only [register_ofVariable, registerVariable_eq, hcheck, hcontains]
    rfl
  | ofProperty decl =>
    have hcheck : checkShape .environment decl.name decl.typeSize decl.elements = .ok () :=
      hadmissible.inShape.checkShape
    have hend : extentEnd? decl.offset decl.typeSize decl.elements = some _ :=
      if_pos hadmissible.addressable
    have hcontains : r.environment.contains decl.name = true :=
      Option.isSome_iff_ne_none.mpr fun hnone => not_taken_property_iff.mpr hnone h
    simp only [register_ofProperty, registerProperty_eq, hcheck, hend, hcontains]
    rfl

theorem register_of_refused {e : Error} (h : decl.Refused (r.Taken decl) e) :
    r.register decl = .error e := by
  cases h with
  | unnamed h => exact register_of_checkShape (by simp [checkShape, h])
  | unsized hname h => exact register_of_checkShape (by simp [checkShape, hname, h])
  | uncounted hname hsize h => exact register_of_checkShape (by simp [checkShape, hname, hsize, h])
  | unaddressable hshape h => exact register_of_unaddressable hshape h
  | duplicate hadmissible h => exact register_of_taken hadmissible h

/-- A declaration that is not registered is refused for the first rule that it breaks. -/
theorem register_eq_error_iff {e : Error} :
    r.register decl = .error e ↔ decl.Refused (r.Taken decl) e := by
  refine ⟨fun h => ?_, register_of_refused⟩
  rcases decl.refused_or_admissible (r.Taken decl) with ⟨e', hrefused⟩ | ⟨hadmissible, hfree⟩
  · have he : e' = e := by
      rw [register_of_refused hrefused] at h
      exact Except.error.inj h
    exact he ▸ hrefused
  · rw [register_eq_ok_iff.mpr ⟨hadmissible, hfree, rfl⟩] at h
    contradiction

theorem objection_register (r : Registries) (decl : Declaration) :
    FailsOnly Objection (r.register decl) :=
  fun _ h => (register_eq_error_iff.mp h).objection

/-! ## Removing -/

/-- Takes an entry out of a registry. -/
def take : Subject → String → Method Registries Entry
  | .variable kind, name => Entry.ofVariable <$> removeVariable kind name
  | .environment, name => Entry.ofProperty <$> removeProperty name

/-- An entry, and the registries without it. -/
def unregister (r : Registries) (s : Subject) (name : String) : Except Error (Entry × Registries) :=
  (take s name).outcome r

/-- What has an entry can be taken out, and is handed back. What has none is missed, and nothing
goes. -/
theorem run_take (s : Subject) (name : String) (r : Registries) :
    take s name r =
      match (r.table s).find? name with
      | some a => .ok a (r.remove s name)
      | none => .error (.notRegistered s name) r := by
  rcases s with kind | _
  · simp only [take, Method.run_map, run_removeVariable, table, NameMap.find?_map, findVariable?]
    cases (r.tables.get kind).find? name <;> rfl
  · simp only [take, Method.run_map, run_removeProperty, table, NameMap.find?_map, findProperty?]
    cases r.environment.find? name <;> rfl

theorem atomic_take (s : Subject) (name : String) : (take s name).Atomic := by
  intro r e left h
  rw [run_take] at h
  split at h
  · contradiction
  · cases h
    rfl

theorem unregister_eq (r : Registries) (s : Subject) (name : String) :
    r.unregister s name =
      match (r.table s).find? name with
      | some a => .ok (a, r.remove s name)
      | none => .error (.notRegistered s name) := by
  rw [unregister, Method.outcome, run_take]
  cases (r.table s).find? name <;> rfl

theorem unregister_eq_ok_iff :
    r.unregister s name = .ok (a, r') ↔
      (r.table s).find? name = some a ∧ r' = r.remove s name := by
  rw [unregister_eq]
  cases (r.table s).find? name <;> simp [eq_comm]

/-! ## What has been registered -/

/-- An edit puts the entry of an admissible declaration under a free name, or removes an entry. -/
theorem Edit.cases (h : r.Edit r') :
    (∃ decl : Declaration, decl.Admissible ∧ ¬ r.Taken decl ∧ r' = r.put decl) ∨
      ∃ s name, r' = r.remove s name := by
  cases h with
  | @registerVariable kind decl _ h =>
    exact .inl ⟨.ofVariable kind decl, register_eq_ok_iff.mp h⟩
  | @unregisterVariable kind name _ _ h =>
    exact .inr ⟨.variable kind, name, (unregisterVariable_eq_ok_iff.mp h).2⟩
  | @registerProperty decl _ h => exact .inl ⟨.ofProperty decl, register_eq_ok_iff.mp h⟩
  | @unregisterProperty name _ _ h =>
    exact .inr ⟨.environment, name, (unregisterProperty_eq_ok_iff.mp h).2⟩

/-- All entries are those of admissible declarations. -/
theorem Built.declared (h : Built r) (hfind : (r.table s).find? name = some a) :
    ∃ decl : Declaration, decl.Admissible ∧ decl.subject = s ∧ decl.name = name ∧
      decl.entry = a := by
  induction h with
  | empty => simp at hfind
  | edit _ hedit ih =>
    rcases hedit.cases with ⟨decl, hadmissible, -, rfl⟩ | ⟨s', name', rfl⟩
    · rw [find?_put] at hfind
      split at hfind
      · rename_i hthis
        exact ⟨decl, hadmissible, hthis.1.symm, hthis.2.symm, Option.some.inj hfind⟩
      · exact ih hfind
    · rw [find?_remove] at hfind
      split at hfind
      · contradiction
      · exact ih hfind

/-- Properties are registered by admissible declarations. -/
theorem Built.property_declared (h : Built r) {p : Property} (hp : r.findProperty? name = some p) :
    ∃ decl : PropertyDecl, (Declaration.ofProperty decl).Admissible ∧ decl.name = name ∧
      decl.register = p := by
  obtain ⟨decl, hadmissible, hsubject, hname, hentry⟩ :=
    h.declared (find?_table_environment.mpr hp)
  cases decl with
  | ofVariable kind decl => contradiction
  | ofProperty decl => exact ⟨decl, hadmissible, hname, Entry.ofProperty.inj hentry⟩

/-- Every registered property takes up at least one byte. -/
theorem Built.occupied (h : Built r) : r.Occupied := by
  intro name p hp
  obtain ⟨decl, hadmissible, -, rfl⟩ := h.property_declared hp
  exact Nat.mul_pos (Nat.pos_of_ne_zero hadmissible.inShape.sized)
    (Nat.pos_of_ne_zero hadmissible.inShape.counted)

end Registries

end DeviceSlots
