import DeviceSlots.Proofs.Registry.Declarations
import DeviceSlots.Proofs.Text.ByteOrder

/-!
# Histories of calls

Registries that are called over and over are five finite maps. A name has the entry that the last
successful call about it left: that of a registration, or none after a removal. Calls that fail, and
calls to other registries, leave no trace.
-/

namespace DeviceSlots.Registries

/-! ## Calls -/

/-- A call that registers or removes something. -/
inductive Call
  | register (decl : Declaration)
  | unregister (s : Subject) (name : String)
  deriving DecidableEq

namespace Call

/-- The registry that is called. -/
def subject : Call → Subject
  | register decl => decl.subject
  | unregister s _ => s

/-- The name that the call is about. -/
def name : Call → String
  | register decl => decl.name
  | unregister _ name => name

/-- What the name has after the call, if the call succeeds. -/
def entry? : Call → Option Entry
  | register decl => some decl.entry
  | unregister .. => none

/-- What is called, without its result. -/
def method : Call → Method Registries Unit
  | register decl => add decl
  | unregister s name => discard (take s name)

/-- The registries that a call gives, or why it fails. -/
def apply (r : Registries) (call : Call) : Except Error Registries := call.method.leaves r

theorem atomic_method (call : Call) : call.method.Atomic := by
  cases call with
  | register decl => exact atomic_add decl
  | unregister s name => exact (atomic_take s name).discard

end Call

/-- The registries that a call leaves, whether it succeeds or fails. -/
def after (r : Registries) (call : Call) : Registries := Method.left (call.method r)

/-- The registries after a row of calls. -/
def run (r : Registries) (calls : List Call) : Registries := calls.foldl after r

/-- The registries that a row of calls makes of those without entries. -/
def ofCalls (calls : List Call) : Registries := run empty calls

/-- The calls of a row that succeed. -/
def successes (r : Registries) : List Call → List Call
  | [] => []
  | call :: rest =>
    match call.method r with
    | .ok _ left => call :: successes left rest
    | .error _ left => successes left rest

/-- The last of some calls that is about a name of a registry. -/
def lastAbout (s : Subject) (name : String) (calls : List Call) : Option Call :=
  (calls.filter fun call => call.subject = s ∧ call.name = name).getLast?

/-! ## What calls do to entries -/

variable {r r' : Registries} {s : Subject} {name : String} {a : Entry} {call : Call}

/-- A call is known by what it gives: where it fails, it leaves the registries as they were. -/
theorem run_method (r : Registries) (call : Call) :
    call.method r =
      match call.apply r with
      | .ok r' => .ok () r'
      | .error e => .error e r := by
  rw [call.atomic_method.run_eq_leaves, Call.apply]
  cases call.method.leaves r <;> rfl

/-- What a successful call leaves: registries with one entry more, or with one less. -/
theorem left_of_apply (h : call.apply r = .ok r') :
    r' = match call with
      | .register decl => r.put decl
      | .unregister s name => r.remove s name := by
  cases call with
  | register decl => exact (register_eq_ok_iff.mp h).2.2
  | unregister s name =>
    rw [Call.apply, Call.method, Method.leaves_discard, Method.outcome, run_take] at h
    cases hfind : (r.table s).find? name with
    | none => simp [hfind, Except.map] at h
    | some a =>
      rw [hfind] at h
      exact (Except.ok.inj h).symm

/-- A successful call changes the entry of the name that it is about, and no other. -/
theorem find?_of_apply (h : call.apply r = .ok r') :
    (r'.table s).find? name =
      if call.subject = s ∧ call.name = name then call.entry? else (r.table s).find? name := by
  rw [left_of_apply h]
  cases call with
  | register decl =>
    rw [find?_put]
    simp only [Call.subject, Call.name, Call.entry?, eq_comm]
  | unregister s' name' =>
    rw [find?_remove]
    simp only [Call.subject, Call.name, Call.entry?, eq_comm]

/-- A call changes no registry but the one that is called. -/
theorem table_after (h : s ≠ call.subject) : (r.after call).table s = r.table s := by
  rw [after, run_method]
  cases hcall : call.apply r with
  | error e => rfl
  | ok r' =>
    simp only [Method.left, left_of_apply hcall]
    cases call with
    | register decl => exact (table_put decl).trans (if_neg h)
    | unregister s' name' => exact table_remove.trans (if_neg h)

theorem lastAbout_cons (call : Call) (calls : List Call) :
    lastAbout s name (call :: calls) =
      (lastAbout s name calls).or
        (if call.subject = s ∧ call.name = name then some call else none) := by
  unfold lastAbout
  by_cases habout : call.subject = s ∧ call.name = name
  · simp [habout, List.getLast?_cons]
  · simp [habout]

/-! ## What rows of calls do -/

/-- A name has the entry that the last successful call about it left. -/
theorem find?_run (r : Registries) (calls : List Call) :
    ((r.run calls).table s).find? name =
      match lastAbout s name (r.successes calls) with
      | some call => call.entry?
      | none => (r.table s).find? name := by
  induction calls generalizing r with
  | nil => rfl
  | cons call rest ih =>
    rw [run, List.foldl_cons, ← run, ih]
    cases hcall : call.apply r with
    | error e => simp only [after, successes, run_method, hcall, Method.left]
    | ok r' =>
      simp only [after, successes, run_method, hcall, Method.left, lastAbout_cons,
        find?_of_apply hcall]
      cases lastAbout s name (successes r' rest) with
      | some last => rfl
      | none => by_cases habout : call.subject = s ∧ call.name = name <;> simp [habout]

/-- An entry comes from the last successful call about its name, which is a registration. -/
theorem find?_ofCalls_eq_some_iff {calls : List Call} :
    ((ofCalls calls).table s).find? name = some a ↔
      ∃ decl, lastAbout s name (successes empty calls) = some (.register decl) ∧
        decl.Stores a := by
  simp only [Declaration.stores_iff]
  rw [ofCalls, find?_run]
  cases hlast : lastAbout s name (successes empty calls) with
  | none => simp
  | some call => cases call <;> simp [Call.entry?]

theorem ofCalls_concat (calls : List Call) (call : Call) :
    ofCalls (calls ++ [call]) = (ofCalls calls).after call := by
  rw [ofCalls, run, List.foldl_append]
  rfl

/-- What registries show of the calls that have been made: five finite maps. -/
structure ActAsMaps (calls : List Call) : Prop where
  /-- A declaration is registered if it keeps the rules and its name is free at that moment. -/
  registers_iff : ∀ decl, (∃ r, (ofCalls calls).register decl = .ok r) ↔
    decl.Admissible ∧ ((ofCalls calls).table decl.subject).find? decl.name = none
  /-- A name is removed if it has an entry at that moment. -/
  unregisters_iff : ∀ s name, (∃ a r, (ofCalls calls).unregister s name = .ok (a, r)) ↔
    ∃ a, ((ofCalls calls).table s).find? name = some a
  /-- A removal hands back what the latest successful registration stored. -/
  handsBack : ∀ s name a r, (ofCalls calls).unregister s name = .ok (a, r) →
    ∃ decl, lastAbout s name (successes empty calls) = some (.register decl) ∧ decl.Stores a
  /-- A name has what its latest registration stored, if no removal has succeeded since. -/
  find?_iff : ∀ s name a, ((ofCalls calls).table s).find? name = some a ↔
    ∃ decl, lastAbout s name (successes empty calls) = some (.register decl) ∧ decl.Stores a
  /-- A call that fails changes nothing. -/
  failed : ∀ call e left, Call.method call (ofCalls calls) = .error e left →
    left = ofCalls calls ∧ ofCalls (calls ++ [call]) = ofCalls calls
  /-- A call changes nothing in the other registries. -/
  others : ∀ call s, s ≠ call.subject →
    (ofCalls (calls ++ [call])).table s = (ofCalls calls).table s
  /-- Listing a registry goes through its names once each, in ascending order of their bytes. -/
  ascending : ∀ s, (((ofCalls calls).table s).toList.map fun x => Text.utf8 x.1).Pairwise (· < ·)
  listed_iff : ∀ s name a, (name, a) ∈ ((ofCalls calls).table s).toList ↔
    ((ofCalls calls).table s).find? name = some a
  length_listed : ∀ s, ((ofCalls calls).table s).toList.length = ((ofCalls calls).table s).size

/-- Whatever calls are made, in whatever order and with whatever success, the registries act as five
finite maps that do not see each other. -/
theorem calls_act_on_maps (calls : List Call) : ActAsMaps calls where
  registers_iff := by
    intro decl
    rw [Option.eq_none_iff_forall_ne_some, ← not_exists]
    constructor
    · rintro ⟨r, hregister⟩
      obtain ⟨hadmissible, hfree, -⟩ := register_eq_ok_iff.mp hregister
      exact ⟨hadmissible, hfree⟩
    · rintro ⟨hadmissible, hfree⟩
      exact ⟨_, register_eq_ok_iff.mpr ⟨hadmissible, hfree, rfl⟩⟩
  unregisters_iff := by
    intro s name
    simp only [unregister_eq_ok_iff, exists_and_left, exists_eq, and_true]
  handsBack := by
    intro s name a r hunregister
    exact find?_ofCalls_eq_some_iff.mp (unregister_eq_ok_iff.mp hunregister).1
  find?_iff := fun _ _ _ => find?_ofCalls_eq_some_iff
  failed := by
    intro call e left hfailed
    have hleft : left = ofCalls calls := call.atomic_method _ _ _ hfailed
    rw [ofCalls_concat, after, hfailed]
    exact ⟨hleft, hleft⟩
  others := by
    intro call s hother
    rw [ofCalls_concat, table_after hother]
  ascending := by
    intro s
    rw [List.pairwise_map]
    exact ((ofCalls calls).table s).ascending.imp (Text.utf8_lt_utf8_iff _ _).mpr
  listed_iff := fun _ _ _ => (NameMap.find?_eq_some_iff _ _ _).symm
  length_listed := fun _ => rfl

/-- A name that is registered in two kinds, and then removed from one and registered anew. -/
def comingBack : List Call :=
  let narrow : VariableDecl := { name := "x", typeName := "float", typeSize := 4 }
  let wide : VariableDecl := { name := "x", typeName := "double", typeSize := 8, elements := 2 }
  [.register (.ofVariable .agent narrow), .register (.ofVariable .agent wide),
    .register (.ofVariable .messageIn narrow), .unregister (.variable .agent) "x",
    .unregister (.variable .agent) "x", .register (.ofVariable .agent wide)]

theorem calls_act_on_maps_comingBack :
    (successes empty comingBack).length = 4 ∧
      (∃ a, ((ofCalls comingBack).table (.variable .agent)).find? "x" = some (.ofVariable a) ∧
        a.typeSize = 8) ∧
      ∃ a, ((ofCalls comingBack).table (.variable .messageIn)).find? "x" = some (.ofVariable a) ∧
        a.typeSize = 4 := by
  have hstores (decl : Declaration) : decl.Stores decl.entry := Declaration.stores_iff.mpr rfl
  exact ⟨rfl, ⟨_, ((calls_act_on_maps comingBack).find?_iff _ _ _).mpr ⟨_, rfl, hstores _⟩, rfl⟩,
    ⟨_, ((calls_act_on_maps comingBack).find?_iff _ _ _).mpr ⟨_, rfl, hstores _⟩, rfl⟩⟩

end DeviceSlots.Registries
