import DeviceSlots.Device
import DeviceSlots.Proofs.Failing
import DeviceSlots.Proofs.Method
import DeviceSlots.Proofs.NameMap
import Mathlib.Data.List.Nodup
import Mathlib.Data.List.Pairwise

/-!
# Addresses of a device module

Globals are laid out one behind the other, each in whole units of the alignment, and the place of a
global that is gone is not used again. So no address is given out twice, whatever the order of
declarations and copies, and a copy to an address reaches one global at most.
-/

namespace DeviceSlots

namespace Global

variable (address : Nat) (bytes : List UInt8) (g : Global)

@[simp] theorem name_receive : (g.receive address bytes).name = g.name := by
  unfold receive
  split <;> rfl

@[simp] theorem address_receive : (g.receive address bytes).address = g.address := by
  unfold receive
  split <;> rfl

theorem length_receive (h : g.address = address → bytes.length ≤ g.bytes.length) :
    (g.receive address bytes).bytes.length = g.bytes.length := by
  unfold receive
  split
  · rename_i haddress
    have hle := h haddress
    simp only [List.length_append, List.length_drop]
    omega
  · rfl

end Global

namespace DeviceModule

variable {m m' : DeviceModule} {name : String} {symbol : DeviceSymbol}

/-! ## Calls and runs -/

/-- A call on a module, with its arguments. -/
inductive Call
  | declare (name : String) (size : Nat)
  | push (name : String) (bytes : List UInt8)
  | copyTo (address : Nat) (bytes : List UInt8)

/-- The method that is called, without its result. -/
def Call.method : Call → Method DeviceModule Unit
  | declare name size => modify fun m => (m.declare name size).2
  | push name bytes => discard (pushBytes name bytes)
  | copyTo address bytes => copyBytes address bytes

/-- The module that a call leaves. The call may fail. -/
def after (m : DeviceModule) (call : Call) : DeviceModule := Method.left (call.method m)

/-- The module after a row of calls. -/
def run (m : DeviceModule) (calls : List Call) : DeviceModule := calls.foldl after m

/-- The module that a row of calls makes of a new one. -/
def ofCalls (calls : List Call) : DeviceModule := run {} calls

/-- The address that a call gives out, if it declares a global. -/
def Call.given (m : DeviceModule) : Call → List Nat
  | declare name size => [(m.declare name size).1.address]
  | _ => []

/-- The addresses that the declarations in a row of calls give out. -/
def addressesGiven (m : DeviceModule) : List Call → List Nat
  | [] => []
  | call :: rest => call.given m ++ (m.after call).addressesGiven rest

/-! ## What the methods do -/

section

open Method

/-- A global is looked for, and its size is checked, before anything is copied. -/
theorem atomic_copyBytes (address : Nat) (bytes : List UInt8) : (copyBytes address bytes).Atomic := by
  refine inspects_get.bind_atomic fun m => ?_
  split
  · exact (inspects_throw _).atomic
  · exact .ite (atomic_throw_bind _ _) (atomic_modify _)

theorem atomic_pushBytes (name : String) (bytes : List UInt8) : (pushBytes name bytes).Atomic := by
  refine inspects_get.bind_atomic fun m => (inspects_ofExcept _).bind_atomic fun symbol => ?_
  exact .ite (atomic_throw_bind _ _) ((atomic_copyBytes _ bytes).bind_pure _)

theorem atomic_method (call : Call) : call.method.Atomic := by
  cases call with
  | declare name size => exact atomic_modify _
  | push name bytes => exact (atomic_pushBytes name bytes).discard
  | copyTo address bytes => exact atomic_copyBytes address bytes

theorem copyTo_eq (m : DeviceModule) (address : Nat) (bytes : List UInt8) :
    m.copyTo address bytes =
      match m.globals.find? fun g => g.address = address with
      | none => .error (.noGlobalAt address)
      | some g =>
        if g.bytes.length < bytes.length then .error (.copyOverrun bytes.length address)
        else .ok (m.receive address bytes) := by
  cases hfind : m.globals.find? fun g => g.address = address with
  | none => simp [copyTo, leaves, outcome, copyBytes, run_bind, hfind, Except.map]
  | some g =>
    by_cases hlong : g.bytes.length < bytes.length <;>
      simp [copyTo, leaves, outcome, copyBytes, run_bind, hfind, hlong, Except.map]

theorem push_eq (m : DeviceModule) (name : String) (bytes : List UInt8) :
    m.push name bytes = m.resolve name >>= fun symbol =>
      if symbol.size < bytes.length then .error (.symbolTooSmall name symbol.size bytes.length)
      else (m.copyTo symbol.address bytes).map fun m' => (symbol, m') := by
  cases hresolve : m.resolve name with
  | error e => simp [push, outcome, pushBytes, run_bind, hresolve]
  | ok symbol =>
    by_cases hlong : symbol.size < bytes.length
    · simp [push, outcome, pushBytes, run_bind, hresolve, hlong]
    · simp only [push, outcome, pushBytes, run_bind, run_get, hresolve, run_ofExcept_ok, hlong,
        if_false, ok_bind, copyTo, leaves]
      cases copyBytes symbol.address bytes m <;> rfl

end

theorem copyTo_eq_ok_iff {address : Nat} {bytes : List UInt8} :
    m.copyTo address bytes = .ok m' ↔
      ∃ g, m.globals.find? (fun g => g.address = address) = some g ∧
        bytes.length ≤ g.bytes.length ∧ m' = m.receive address bytes := by
  rw [copyTo_eq]
  cases m.globals.find? fun g => g.address = address with
  | none => simp
  | some g =>
    by_cases hle : bytes.length ≤ g.bytes.length
    · simp [hle, Nat.not_lt.mpr hle, eq_comm]
    · simp [hle, Nat.lt_of_not_le hle]

theorem resolve_eq_ok_iff :
    m.resolve name = .ok symbol ↔
      ∃ g, m.find? name = some g ∧ symbol = ⟨g.address, g.bytes.length⟩ := by
  unfold resolve
  cases m.find? name with
  | none => simp
  | some g => simp [eq_comm]

theorem push_eq_ok_iff {bytes : List UInt8} :
    m.push name bytes = .ok (symbol, m') ↔
      m.resolve name = .ok symbol ∧ bytes.length ≤ symbol.size ∧
        m.copyTo symbol.address bytes = .ok m' := by
  rw [push_eq, bind_eq_ok_iff]
  constructor
  · rintro ⟨found, hresolve, h⟩
    split at h
    · contradiction
    · rename_i hle
      obtain ⟨copied, hcopy, hpair⟩ := map_eq_ok_iff.mp h
      cases hpair
      exact ⟨hresolve, Nat.not_lt.mp hle, hcopy⟩
  · rintro ⟨hresolve, hle, hcopy⟩
    refine ⟨symbol, hresolve, ?_⟩
    rw [if_neg (Nat.not_lt.mpr hle), hcopy]
    rfl

/-! ## What a call does -/

theorem after_push (m : DeviceModule) (name : String) (bytes : List UInt8) :
    m.after (.push name bytes) =
      match m.push name bytes with
      | .ok (_, m') => m'
      | .error _ => m := by
  rw [after, (atomic_method _).left_eq, Call.method, Method.leaves_discard, ← push]
  cases m.push name bytes <;> rfl

theorem after_copyTo (m : DeviceModule) (address : Nat) (bytes : List UInt8) :
    m.after (.copyTo address bytes) =
      match m.copyTo address bytes with
      | .ok m' => m'
      | .error _ => m := by
  rw [after, (atomic_method _).left_eq, Call.method, ← copyTo]
  cases m.copyTo address bytes <;> rfl

/-- A call declares a global, copies bytes to the start of a global that holds them, or changes
nothing. -/
theorem after_cases (m : DeviceModule) (call : Call) :
    (∃ name size, call = .declare name size ∧ m.after call = (m.declare name size).2) ∨
      (∀ name size, call ≠ .declare name size) ∧
        (m.after call = m ∨
          ∃ g ∈ m.globals, ∃ bytes, bytes.length ≤ g.bytes.length ∧
            m.after call = m.receive g.address bytes) := by
  have hcopied {address : Nat} {bytes : List UInt8} {m' : DeviceModule}
      (h : m.copyTo address bytes = .ok m') :
      ∃ g ∈ m.globals, ∃ bytes, bytes.length ≤ g.bytes.length ∧
        m' = m.receive g.address bytes := by
    obtain ⟨g, hfind, hle, rfl⟩ := copyTo_eq_ok_iff.mp h
    have haddress : g.address = address := by simpa using List.find?_some hfind
    exact ⟨g, List.mem_of_find?_eq_some hfind, bytes, hle, by rw [haddress]⟩
  cases call with
  | declare name size => exact .inl ⟨name, size, rfl, rfl⟩
  | push name bytes =>
    refine .inr ⟨nofun, ?_⟩
    rw [after_push]
    cases hpush : m.push name bytes with
    | error e => exact .inl rfl
    | ok result => exact .inr (hcopied (push_eq_ok_iff.mp hpush).2.2)
  | copyTo address bytes =>
    refine .inr ⟨nofun, ?_⟩
    rw [after_copyTo]
    cases hcopy : m.copyTo address bytes with
    | error e => exact .inl rfl
    | ok copied => exact .inr (hcopied hcopy)

/-! ## The invariant -/

theorem alignment_dvd_footprint (size : Nat) : alignment ∣ footprint size := by
  unfold footprint
  exact Nat.dvd_mul_left _ _

theorem le_footprint (size : Nat) : max size 1 ≤ footprint size := by
  unfold footprint alignment
  omega

/-- The globals of a module lie one behind the other, each at an aligned address. -/
structure Laid (m : DeviceModule) : Prop where
  names : (m.globals.map Global.name).Nodup
  aligned : ∀ g ∈ m.globals, alignment ∣ g.address
  ascending : m.globals.Pairwise fun g h => g.address + footprint g.bytes.length ≤ h.address
  below : ∀ g ∈ m.globals, g.address + footprint g.bytes.length ≤ m.nextAddress
  next : alignment ∣ m.nextAddress

theorem laid_empty : Laid {} := by
  refine ⟨?_, ?_, ?_, ?_, by decide⟩ <;> simp

namespace Laid

theorem nodup_addresses (h : m.Laid) : (m.globals.map Global.address).Nodup := by
  refine List.pairwise_map.mpr (h.ascending.imp ?_)
  intro g g' hle hsame
  have hpos := le_footprint g.bytes.length
  omega

theorem eq_of_address (h : m.Laid) {g g' : Global} (hg : g ∈ m.globals) (hg' : g' ∈ m.globals)
    (haddress : g.address = g'.address) : g = g' :=
  List.inj_on_of_nodup_map h.nodup_addresses hg hg' haddress

theorem find?_address (h : m.Laid) {g : Global} (hg : g ∈ m.globals) :
    m.globals.find? (fun g' => g'.address = g.address) = some g :=
  find?_of_nodup h.nodup_addresses hg

theorem find?_name (h : m.Laid) {g : Global} (hg : g ∈ m.globals) : m.find? g.name = some g :=
  find?_of_nodup h.names hg

theorem declare (h : m.Laid) (name : String) (size : Nat) : (m.declare name size).2.Laid where
  names := by
    have hothers := h.names.sublist
      ((List.filter_sublist (p := fun g => g.name ≠ name) (l := m.globals)).map Global.name)
    simp only [DeviceModule.declare, List.map_append, List.map_cons, List.map_nil]
    refine hothers.append (List.nodup_singleton name) ?_
    intro other hmem hname
    obtain ⟨g, hg, rfl⟩ := List.mem_map.mp hmem
    have hother := (List.mem_filter.mp hg).2
    rw [List.mem_singleton.mp hname] at hother
    simp at hother
  aligned := by
    intro g hg
    simp only [DeviceModule.declare, List.mem_append, List.mem_filter, List.mem_singleton] at hg
    rcases hg with ⟨hg, -⟩ | rfl
    · exact h.aligned g hg
    · exact h.next
  ascending := by
    simp only [DeviceModule.declare]
    refine List.pairwise_append.mpr
      ⟨h.ascending.sublist List.filter_sublist, List.pairwise_singleton _ _, ?_⟩
    intro g hg g' hg'
    rw [List.mem_singleton.mp hg']
    exact h.below g (List.mem_filter.mp hg).1
  below := by
    intro g hg
    simp only [DeviceModule.declare, List.mem_append, List.mem_filter, List.mem_singleton] at hg ⊢
    rcases hg with ⟨hg, -⟩ | rfl
    · exact Nat.le_trans (h.below g hg) (Nat.le_add_right _ _)
    · simp
  next := Nat.dvd_add h.next (alignment_dvd_footprint size)

/-- A copy to a global keeps the places and the sizes of all. -/
theorem length_receive (h : m.Laid) {g : Global} (hg : g ∈ m.globals) {bytes : List UInt8}
    (hle : bytes.length ≤ g.bytes.length) {g' : Global} (hg' : g' ∈ m.globals) :
    (g'.receive g.address bytes).bytes.length = g'.bytes.length := by
  apply Global.length_receive
  intro haddress
  rw [h.eq_of_address hg' hg haddress]
  exact hle

theorem receive (h : m.Laid) {g : Global} (hg : g ∈ m.globals) {bytes : List UInt8}
    (hle : bytes.length ≤ g.bytes.length) : (m.receive g.address bytes).Laid where
  names := by
    have hnames : Global.name ∘ Global.receive g.address bytes = Global.name := by
      funext g'
      exact Global.name_receive _ _ g'
    rw [DeviceModule.receive, List.map_map, hnames]
    exact h.names
  aligned := by
    simpa [DeviceModule.receive] using h.aligned
  ascending := by
    refine List.pairwise_map.mpr (h.ascending.imp_of_mem ?_)
    intro g₁ g₂ hg₁ _ hle'
    simpa [h.length_receive hg hle hg₁] using hle'
  below := by
    intro g' hg'
    obtain ⟨g₁, hg₁, rfl⟩ := List.mem_map.mp hg'
    simpa [DeviceModule.receive, h.length_receive hg hle hg₁] using h.below g₁ hg₁
  next := h.next

theorem after (h : m.Laid) (call : Call) : (m.after call).Laid := by
  rcases m.after_cases call with ⟨name, size, -, hafter⟩ | ⟨-, hafter | ⟨g, hg, bytes, hle, hafter⟩⟩
  · rw [hafter]
    exact h.declare name size
  · rw [hafter]
    exact h
  · rw [hafter]
    exact h.receive hg hle

theorem run (h : m.Laid) (calls : List Call) : (m.run calls).Laid := by
  induction calls generalizing m with
  | nil => exact h
  | cons call rest ih => exact ih (h.after call)

end Laid

/-! ## Addresses that were given out -/

theorem given_cases (m : DeviceModule) (call : Call) :
    call.given m = [m.nextAddress] ∧ m.nextAddress < (m.after call).nextAddress ∨
      call.given m = [] ∧ (m.after call).nextAddress = m.nextAddress := by
  rcases m.after_cases call with
    ⟨name, size, rfl, hafter⟩ | ⟨hcall, hafter⟩
  · have hpos := le_footprint size
    left
    refine ⟨rfl, ?_⟩
    rw [hafter]
    simp only [declare]
    omega
  · right
    refine ⟨?_, ?_⟩
    · cases call with
      | declare name size => exact absurd rfl (hcall name size)
      | _ => rfl
    · rcases hafter with hafter | ⟨g, -, bytes, -, hafter⟩ <;> rw [hafter]
      rfl

/-- Addresses are given out in ascending order. -/
theorem addressesGiven_ascending (m : DeviceModule) (calls : List Call) :
    (m.addressesGiven calls).Pairwise (· < ·) ∧ ∀ a ∈ m.addressesGiven calls, m.nextAddress ≤ a := by
  induction calls generalizing m with
  | nil => simp [addressesGiven]
  | cons call rest ih =>
    obtain ⟨hrest, hbound⟩ := ih (m.after call)
    rw [addressesGiven]
    rcases m.given_cases call with ⟨hgiven, hnext⟩ | ⟨hgiven, hnext⟩
    · rw [hgiven, List.singleton_append]
      refine ⟨List.pairwise_cons.mpr ⟨fun a ha => ?_, hrest⟩, List.forall_mem_cons.mpr ⟨?_, ?_⟩⟩
      · exact Nat.lt_of_lt_of_le hnext (hbound a ha)
      · exact Nat.le_refl _
      · exact fun a ha => Nat.le_trans (Nat.le_of_lt hnext) (hbound a ha)
    · rw [hgiven, List.nil_append]
      exact ⟨hrest, fun a ha => hnext ▸ hbound a ha⟩

theorem nodup_addressesGiven (m : DeviceModule) (calls : List Call) :
    (m.addressesGiven calls).Nodup :=
  (m.addressesGiven_ascending calls).1.imp Nat.ne_of_lt

/-! ## Look-ups -/

theorem find?_declare (m : DeviceModule) (name other : String) (size : Nat) :
    (m.declare name size).2.find? other =
      if other = name then some ⟨name, m.nextAddress, List.replicate size 0⟩ else m.find? other := by
  simp only [find?, declare, List.find?_append]
  by_cases hother : other = name
  · subst hother
    have hgone : (m.globals.filter fun g => g.name ≠ other).find? (fun g => g.name = other) = none :=
      List.find?_eq_none.mpr fun g hg => by simpa using (List.mem_filter.mp hg).2
    rw [hgone, if_pos rfl]
    simp
  · have hkept : (m.globals.filter fun g => g.name ≠ name).find? (fun g => g.name = other) =
        m.globals.find? fun g => g.name = other := by
      rw [List.find?_filter]
      congr 1
      funext g
      by_cases hg : g.name = other <;> simp [hg, hother]
    rw [hkept, if_neg hother]
    simp [Ne.symm hother]

theorem find?_receive (m : DeviceModule) (address : Nat) (bytes : List UInt8) (name : String) :
    (m.receive address bytes).find? name = (m.find? name).map (Global.receive address bytes) := by
  have hname : (fun g : Global => decide (g.name = name)) ∘ Global.receive address bytes =
      fun g => decide (g.name = name) := by
    funext g
    simp
  rw [find?, receive, List.find?_map, hname]
  rfl

theorem mem_of_find? {g : Global} (h : m.find? name = some g) : g ∈ m.globals ∧ g.name = name :=
  ⟨List.mem_of_find?_eq_some h, by simpa using List.find?_some h⟩

/-! ## Symbols over time -/

/-- What is declared is what its name stands for. -/
theorem resolve_declare (m : DeviceModule) (name : String) (size : Nat) :
    (m.declare name size).2.resolve name = .ok (m.declare name size).1 := by
  have hfind := m.find?_declare name name size
  rw [if_pos rfl] at hfind
  exact resolve_eq_ok_iff.mpr ⟨_, hfind, by simp [declare]⟩

/-- An address that was given out, and that no global has any more. -/
def Vacant (m : DeviceModule) (address : Nat) : Prop :=
  address < m.nextAddress ∧ ∀ g ∈ m.globals, g.address ≠ address

theorem Vacant.copyTo {address : Nat} (h : m.Vacant address) (bytes : List UInt8) :
    m.copyTo address bytes = .error (.noGlobalAt address) := by
  have hnone : m.globals.find? (fun g => g.address = address) = none :=
    List.find?_eq_none.mpr fun g hg => by simpa using h.2 g hg
  rw [copyTo_eq, hnone]

theorem Vacant.after {address : Nat} (h : m.Vacant address) (call : Call) :
    (m.after call).Vacant address := by
  obtain ⟨hlt, hnone⟩ := h
  rcases m.after_cases call with
    ⟨name, size, -, hafter⟩ | ⟨-, hafter | ⟨g, -, bytes, -, hafter⟩⟩ <;> rw [hafter]
  · refine ⟨Nat.lt_of_lt_of_le hlt (Nat.le_add_right _ _), ?_⟩
    intro g hg
    simp only [declare, List.mem_append, List.mem_filter, List.mem_singleton] at hg
    rcases hg with ⟨hg, -⟩ | rfl
    · exact hnone g hg
    · exact Nat.ne_of_gt hlt
  · exact ⟨hlt, hnone⟩
  · refine ⟨hlt, ?_⟩
    intro g' hg'
    obtain ⟨g₁, hg₁, rfl⟩ := List.mem_map.mp hg'
    rw [Global.address_receive]
    exact hnone g₁ hg₁

theorem Vacant.run {address : Nat} (h : m.Vacant address) (calls : List Call) :
    (m.run calls).Vacant address := by
  induction calls generalizing m with
  | nil => exact h
  | cons call rest ih => exact ih (h.after call)

namespace Laid

/-- A symbol stands while its name is not declared anew. -/
theorem resolve_after (h : m.Laid) (hsymbol : m.resolve name = .ok symbol) {call : Call}
    (hcall : ∀ size, call ≠ .declare name size) : (m.after call).resolve name = .ok symbol := by
  obtain ⟨g, hg, rfl⟩ := resolve_eq_ok_iff.mp hsymbol
  rcases m.after_cases call with
    ⟨other, size, rfl, hafter⟩ | ⟨-, hafter | ⟨g₁, hg₁, bytes, hle, hafter⟩⟩ <;> rw [hafter]
  · have hother : name ≠ other := fun hsame => hcall size (by rw [hsame])
    refine resolve_eq_ok_iff.mpr ⟨g, ?_, rfl⟩
    rw [find?_declare, if_neg hother, hg]
  · exact hsymbol
  · refine resolve_eq_ok_iff.mpr ⟨_, by rw [find?_receive, hg, Option.map_some], ?_⟩
    rw [Global.address_receive, h.length_receive hg₁ hle (mem_of_find? hg).1]

theorem resolve_run (h : m.Laid) (hsymbol : m.resolve name = .ok symbol) {calls : List Call}
    (hcalls : ∀ size, .declare name size ∉ calls) : (m.run calls).resolve name = .ok symbol := by
  induction calls generalizing m with
  | nil => exact hsymbol
  | cons call rest ih =>
    have hcall : ∀ size, call ≠ .declare name size := by
      rintro size rfl
      exact hcalls size List.mem_cons_self
    exact ih (h.after call) (h.resolve_after hsymbol hcall)
      fun size hmem => hcalls size (List.mem_cons_of_mem call hmem)

/-- Once its name is declared anew, a symbol leads nowhere. -/
theorem vacant_declare (h : m.Laid) (hsymbol : m.resolve name = .ok symbol) (size : Nat) :
    (m.declare name size).2.Vacant symbol.address := by
  obtain ⟨g, hfind, rfl⟩ := resolve_eq_ok_iff.mp hsymbol
  obtain ⟨hg, hname⟩ := mem_of_find? hfind
  have hlt : g.address < m.nextAddress := by
    have hbelow := h.below g hg
    have hpos := le_footprint g.bytes.length
    omega
  refine ⟨Nat.lt_of_lt_of_le hlt (Nat.le_add_right _ _), ?_⟩
  intro g' hg'
  simp only [DeviceModule.declare, List.mem_append, List.mem_filter, List.mem_singleton] at hg'
  rcases hg' with ⟨hg', hother⟩ | rfl
  · intro haddress
    rw [h.eq_of_address hg' hg haddress] at hother
    simp [hname] at hother
  · exact Nat.ne_of_gt hlt

theorem vacant_run (h : m.Laid) (hsymbol : m.resolve name = .ok symbol) {calls : List Call}
    {size : Nat} (hcalls : .declare name size ∈ calls) : (m.run calls).Vacant symbol.address := by
  induction calls generalizing m with
  | nil => contradiction
  | cons call rest ih =>
    by_cases hcall : ∃ size, call = .declare name size
    · obtain ⟨size', rfl⟩ := hcall
      have hvacant : (m.after (.declare name size')).Vacant symbol.address :=
        h.vacant_declare hsymbol size'
      exact hvacant.run rest
    · have hlater : .declare name size ∈ rest := by
        rcases List.mem_cons.mp hcalls with hhead | hrest
        · exact absurd ⟨size, hhead.symm⟩ hcall
        · exact hrest
      exact ih (h.after call) (h.resolve_after hsymbol (not_exists.mp hcall)) hlater

end Laid

end DeviceModule

end DeviceSlots
