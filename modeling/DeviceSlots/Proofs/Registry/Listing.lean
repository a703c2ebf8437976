import DeviceSlots.Proofs.Registry.Declarations

/-!
# Registering rows

A row of declarations is registered from the first to the last. This succeeds if each of them is
admissible and no two are for one name of one registry; the registries then hold what is declared,
in whatever order it stands. Otherwise the first declaration that is refused is reported.
-/

namespace DeviceSlots

/-- The declarations are for one name of one registry. -/
def Declaration.Clashes (decl other : Declaration) : Prop :=
  decl.subject = other.subject ∧ decl.name = other.name

namespace Registries

variable {r r' : Registries} {s : Subject} {name : String} {a : Entry} {decls : List Declaration}

/-! ## Success -/

/-- Registers declarations in order. -/
def registerAll (r : Registries) (decls : List Declaration) : Except Error Registries :=
  decls.foldlM register r

/-- Declarations that keep the rules, each on its own and all together. -/
structure Accepted (decls : List Declaration) : Prop where
  admissible : ∀ decl ∈ decls, decl.Admissible
  distinct : decls.Pairwise fun decl other => ¬ decl.Clashes other

theorem taken_put (decl other : Declaration) :
    (r.put decl).Taken other ↔ decl.Clashes other ∨ r.Taken other := by
  have hclashes : decl.Clashes other ↔ other.subject = decl.subject ∧ other.name = decl.name := by
    rw [Declaration.Clashes, eq_comm (a := decl.subject), eq_comm (a := decl.name)]
  rw [hclashes, Taken, Taken, find?_put]
  split
  · rename_i hthis
    exact iff_of_true ⟨_, rfl⟩ (.inl hthis)
  · rename_i hthis
    exact ⟨.inr, fun h => h.resolve_left hthis⟩

/-- A row is registered if its declarations are accepted and their names are free. -/
theorem registerAll_succeeds_iff :
    (∃ r', r.registerAll decls = .ok r') ↔ Accepted decls ∧ ∀ decl ∈ decls, ¬ r.Taken decl := by
  induction decls generalizing r with
  | nil =>
    exact iff_of_true ⟨r, rfl⟩ ⟨⟨by simp, .nil⟩, by simp⟩
  | cons decl rest ih =>
    have hfirst : (∃ r', r.registerAll (decl :: rest) = .ok r') ↔
        decl.Admissible ∧ ¬ r.Taken decl ∧ ∃ r', (r.put decl).registerAll rest = .ok r' := by
      simp only [registerAll, List.foldlM_cons, bind_eq_ok_iff, register_eq_ok_iff]
      constructor
      · rintro ⟨r', _, ⟨hadmissible, hfree, rfl⟩, hrest⟩
        exact ⟨hadmissible, hfree, r', hrest⟩
      · rintro ⟨hadmissible, hfree, r', hrest⟩
        exact ⟨r', _, ⟨hadmissible, hfree, rfl⟩, hrest⟩
    rw [hfirst, ih]
    simp only [taken_put, not_or]
    constructor
    · rintro ⟨hadmissible, hfree, haccepted, hothers⟩
      refine ⟨⟨List.forall_mem_cons.mpr ⟨hadmissible, haccepted.admissible⟩, ?_⟩,
        List.forall_mem_cons.mpr ⟨hfree, fun d hd => (hothers d hd).2⟩⟩
      exact .cons (fun d hd => (hothers d hd).1) haccepted.distinct
    · rintro ⟨haccepted, hfree⟩
      obtain ⟨hclash, hrest⟩ := List.pairwise_cons.mp haccepted.distinct
      obtain ⟨hadmissible, hadmissible'⟩ := List.forall_mem_cons.mp haccepted.admissible
      obtain ⟨hfree, hfree'⟩ := List.forall_mem_cons.mp hfree
      exact ⟨hadmissible, hfree, ⟨hadmissible', hrest⟩, fun d hd => ⟨hclash d hd, hfree' d hd⟩⟩

/-- A row that is registered adds its entries to those that are there. -/
theorem find?_registerAll (h : r.registerAll decls = .ok r') :
    (r'.table s).find? name = some a ↔
      (r.table s).find? name = some a ∨
        ∃ decl ∈ decls, decl.subject = s ∧ decl.name = name ∧ decl.entry = a := by
  induction decls generalizing r with
  | nil =>
    cases h
    simp
  | cons decl rest ih =>
    rw [registerAll, List.foldlM_cons, bind_eq_ok_iff] at h
    obtain ⟨r₁, hfirst, hrest⟩ := h
    obtain ⟨-, hfree, rfl⟩ := register_eq_ok_iff.mp hfirst
    rw [ih hrest, find?_put]
    simp only [List.mem_cons, or_and_right, exists_or, exists_eq_left]
    by_cases hthis : s = decl.subject ∧ name = decl.name
    · obtain ⟨rfl, rfl⟩ := hthis
      have hnone : (r.table decl.subject).find? decl.name ≠ some a := fun h => hfree ⟨a, h⟩
      simp [hnone]
    · have hother : ¬ (decl.subject = s ∧ decl.name = name ∧ decl.entry = a) :=
        fun h => hthis ⟨h.1.symm, h.2.1.symm⟩
      rw [if_neg hthis, or_iff_right hother]

/-- In a row that has been registered, the names of its declarations are taken. -/
theorem taken_of_registerAll (h : empty.registerAll decls = .ok r) (decl : Declaration) :
    r.Taken decl ↔ ∃ d ∈ decls, d.Clashes decl := by
  simp only [Taken, find?_registerAll h, find?_table_empty, reduceCtorEq, false_or]
  constructor
  · rintro ⟨_, d, hd, hsubject, hname, -⟩
    exact ⟨d, hd, hsubject, hname⟩
  · rintro ⟨d, hd, hsubject, hname⟩
    exact ⟨_, d, hd, hsubject, hname, rfl⟩

theorem registerAll_empty_succeeds_iff :
    (∃ r, empty.registerAll decls = .ok r) ↔ Accepted decls := by
  rw [registerAll_succeeds_iff, and_iff_left_of_imp]
  rintro - decl - ⟨a, hfind⟩
  rw [find?_table_empty] at hfind
  contradiction

/-- A declaration of the row is refused, and those before it are accepted. -/
def FirstRefused (decls : List Declaration) (e : Error) : Prop :=
  ∃ before decl later, decls = before ++ decl :: later ∧ Accepted before ∧
    decl.Refused (∃ d ∈ before, d.Clashes decl) e

/-- A row that is not registered is reported for its first declaration that is refused. -/
theorem registerAll_empty_eq_error_iff {e : Error} :
    empty.registerAll decls = .error e ↔ FirstRefused decls e := by
  rw [registerAll, foldlM_eq_error_iff]
  constructor
  · rintro ⟨before, decl, later, r, hsplit, hbefore, hdecl⟩
    have htaken := propext (taken_of_registerAll hbefore decl)
    exact ⟨before, decl, later, hsplit, registerAll_empty_succeeds_iff.mp ⟨r, hbefore⟩,
      htaken ▸ register_eq_error_iff.mp hdecl⟩
  · rintro ⟨before, decl, later, hsplit, haccepted, hrefused⟩
    obtain ⟨r, hbefore⟩ := registerAll_empty_succeeds_iff.mpr haccepted
    have htaken := propext (taken_of_registerAll hbefore decl)
    exact ⟨before, decl, later, r, hsplit, hbefore,
      register_eq_error_iff.mpr (htaken ▸ hrefused)⟩

/-! ## Order -/

/-- Registries that show the same entries are the same. -/
theorem ext_find? (h : ∀ s name, (r.table s).find? name = (r'.table s).find? name) : r = r' := by
  have hvariable (x y : Variable) (hxy : Entry.ofVariable x = .ofVariable y) : x = y :=
    Entry.ofVariable.inj hxy
  have hproperty (x y : Property) (hxy : Entry.ofProperty x = .ofProperty y) : x = y :=
    Entry.ofProperty.inj hxy
  obtain ⟨tables, environment⟩ := r
  obtain ⟨tables', environment'⟩ := r'
  have htables : tables = tables' := by
    apply ByKind.ext_get
    intro kind
    apply NameMap.ext_find?
    intro name
    have hfind := h (.variable kind) name
    simp only [table, NameMap.find?_map] at hfind
    exact Option.map_inj_right hvariable |>.mp hfind
  have henvironment : environment = environment' := by
    apply NameMap.ext_find?
    intro name
    have hfind := h .environment name
    simp only [table, NameMap.find?_map] at hfind
    exact Option.map_inj_right hproperty |>.mp hfind
  rw [htables, henvironment]

theorem Accepted.perm {decls' : List Declaration} (h : Accepted decls) (hperm : decls.Perm decls') :
    Accepted decls' where
  admissible := fun decl hdecl => h.admissible decl (hperm.mem_iff.mpr hdecl)
  distinct := by
    refine (hperm.pairwise_iff ?_).mp h.distinct
    intro decl other hclash hsame
    exact hclash ⟨hsame.1.symm, hsame.2.symm⟩

/-- The order of a row does not matter to what is registered. -/
theorem registerAll_perm {decls' : List Declaration} (hperm : decls.Perm decls')
    (h : empty.registerAll decls = .ok r) : empty.registerAll decls' = .ok r := by
  have haccepted : Accepted decls := registerAll_empty_succeeds_iff.mp ⟨r, h⟩
  obtain ⟨r', h'⟩ := registerAll_empty_succeeds_iff.mpr (haccepted.perm hperm)
  have hsame : r' = r := by
    apply ext_find?
    intro s name
    apply Option.ext
    intro a
    rw [find?_registerAll h, find?_registerAll h']
    simp only [hperm.mem_iff]
  rw [h', hsame]

/-! ## Sizes -/

/-- A row that is registered adds as many entries to a registry as it has declarations for it. -/
theorem size_registerAll (h : r.registerAll decls = .ok r') (s : Subject) :
    (r'.table s).size = (r.table s).size + decls.countP (·.subject = s) := by
  induction decls generalizing r with
  | nil =>
    cases h
    rfl
  | cons decl rest ih =>
    rw [registerAll, List.foldlM_cons, bind_eq_ok_iff] at h
    obtain ⟨r₁, hfirst, hrest⟩ := h
    obtain ⟨-, hfree, rfl⟩ := register_eq_ok_iff.mp hfirst
    rw [ih hrest, table_put]
    by_cases hs : s = decl.subject
    · subst hs
      have hnone : (r.table decl.subject).find? decl.name = none :=
        Option.eq_none_iff_forall_ne_some.mpr (not_exists.mp hfree)
      rw [if_pos rfl, NameMap.size_insert hnone, List.countP_cons_of_pos (by simp)]
      omega
    · rw [if_neg hs, List.countP_cons_of_neg (by simpa using Ne.symm hs)]

end Registries

end DeviceSlots
