import DeviceSlots.Method

/-!
# Runs of methods

What the steps of a method do to its object. A method that only looks at its object keeps it, and a
method that looks before it makes its one change keeps it where it fails.
-/

namespace DeviceSlots.Method

variable {σ τ α β : Type}

/-! ## Steps -/

section

variable (object : σ)

@[simp] theorem run_pure (a : α) : (pure a : Method σ α) object = .ok a object := rfl

@[simp] theorem run_throw (e : Error) : (throw e : Method σ α) object = .error e object := rfl

@[simp] theorem run_get : (get : Method σ σ) object = .ok object object := rfl

@[simp] theorem run_modify (f : σ → σ) : (modify f : Method σ Unit) object = .ok () (f object) := rfl

@[simp] theorem run_ofExcept_ok (a : α) :
    (ofExcept (.ok a : Except Error α) : Method σ α) object = .ok a object := rfl

@[simp] theorem run_ofExcept_error (e : Error) :
    (ofExcept (.error e : Except Error α) : Method σ α) object = .error e object := rfl

theorem run_bind (x : Method σ α) (f : α → Method σ β) :
    (x >>= f) object =
      match x object with
      | .ok a left => f a left
      | .error e left => .error e left := by
  simp only [bind, EStateM.bind]
  cases x object <;> rfl

theorem run_map (x : Method σ α) (f : α → β) :
    (f <$> x) object =
      match x object with
      | .ok a left => .ok (f a) left
      | .error e left => .error e left := by
  simp only [Functor.map, EStateM.map]
  cases x object <;> rfl

theorem run_discard (x : Method σ α) :
    (discard x : Method σ Unit) object =
      match x object with
      | .ok _ left => .ok () left
      | .error e left => .error e left := by
  simp only [discard, Functor.discard, Functor.mapConst, Function.comp, EStateM.map]
  cases x object <;> rfl

end

theorem left_of_leaves {x : Method σ Unit} {object object' : σ} (h : x.leaves object = .ok object') :
    left (x object) = object' := by
  rw [leaves, outcome] at h
  cases hrun : x object with
  | ok u left' =>
    rw [hrun] at h
    exact Except.ok.inj h
  | error e left' =>
    rw [hrun] at h
    contradiction

theorem leaves_bind (x y : Method σ Unit) (object : σ) :
    (do x; y).leaves object = x.leaves object >>= y.leaves := by
  rw [leaves, leaves, outcome, outcome, run_bind]
  cases x object <;> rfl

theorem leaves_discard (x : Method σ α) (object : σ) :
    (discard x : Method σ Unit).leaves object = (x.outcome object).map Prod.snd := by
  rw [leaves, outcome, outcome, run_discard]
  cases x object <;> rfl

theorem discard_on (x : Method σ α) (part : τ → σ) (replace : τ → σ → τ) :
    discard (x.on part replace) = (discard x : Method σ Unit).on part replace := by
  funext object
  rw [run_discard, on, on, run_discard]
  cases x (part object) <;> rfl

theorem left_discard (x : Method σ α) (object : σ) :
    left ((discard x : Method σ Unit) object) = left (x object) := by
  rw [run_discard]
  cases x object <;> rfl

theorem result_discard (x : Method σ α) (object : σ) :
    result ((discard x : Method σ Unit) object) = (result (x object)).map fun _ => () := by
  rw [run_discard]
  cases x object <;> rfl

theorem outcome_ofExcept_bind (x : Except Error α) (f : α → Method σ β) (object : σ) :
    (do f (← ofExcept x)).outcome object = x >>= fun a => (f a).outcome object := by
  cases x <;> rfl

/-! ## Methods that change nothing -/

/-- A method that changes nothing. -/
def Inspects (x : Method σ α) : Prop := ∀ object, left (x object) = object

theorem inspects_get : (get : Method σ σ).Inspects := fun _ => rfl

theorem inspects_throw (e : Error) : (throw e : Method σ α).Inspects := fun _ => rfl

theorem inspects_ofExcept (x : Except Error α) : (ofExcept x : Method σ α).Inspects := by
  intro object
  cases x <;> rfl

section

variable (f : σ → Except Error α) (object : σ)

theorem left_inspect :
    left ((do discard (ofExcept (f (← get)) : Method σ α) : Method σ Unit) object) = object := by
  rw [run_bind, run_get]
  simp only [left_discard]
  exact inspects_ofExcept (f object) object

theorem result_inspect :
    result ((do discard (ofExcept (f (← get)) : Method σ α) : Method σ Unit) object) =
      (f object).map fun _ => () := by
  rw [run_bind, run_get]
  simp only [result_discard]
  cases f object <;> rfl

end

/-! ## Methods that fail without a trace -/

/-- A method that changes nothing where it fails. -/
def Atomic (x : Method σ α) : Prop := ∀ object e left, x object = .error e left → left = object

theorem Inspects.atomic {x : Method σ α} (h : x.Inspects) : x.Atomic := by
  intro object e left' hfailed
  have hleft := h object
  rw [hfailed] at hleft
  exact hleft

theorem atomic_modify (f : σ → σ) : (modify f : Method σ Unit).Atomic := fun _ _ _ => nofun

/-- A method may look at its object for as long as it changes nothing. -/
theorem Inspects.bind_atomic {x : Method σ α} {f : α → Method σ β} (hx : x.Inspects)
    (hf : ∀ a, (f a).Atomic) : (x >>= f).Atomic := by
  intro object e left' hfailed
  have hleft := hx object
  rw [run_bind] at hfailed
  cases hrun : x object with
  | ok a object' =>
    rw [hrun] at hfailed hleft
    rw [← hleft]
    exact hf a object' e left' hfailed
  | error e' object' =>
    rw [hrun] at hfailed hleft
    cases hfailed
    exact hleft

/-- What would come after a failure does not matter. -/
theorem atomic_throw_bind (e : Error) (f : α → Method σ β) : (throw e >>= f).Atomic := by
  intro object e' left' hfailed
  cases hfailed
  rfl

namespace Atomic

variable {x : Method σ α}

theorem map (hx : x.Atomic) (f : α → β) : (f <$> x).Atomic := by
  intro object e left' hfailed
  rw [run_map] at hfailed
  cases hrun : x object with
  | ok a object' =>
    rw [hrun] at hfailed
    contradiction
  | error e' object' =>
    rw [hrun] at hfailed
    cases hfailed
    exact hx object _ _ hrun

theorem discard (hx : x.Atomic) : (Functor.discard x : Method σ Unit).Atomic :=
  hx.map fun _ => ()

theorem ite {p : Prop} [Decidable p] {y : Method σ α} (hx : x.Atomic) (hy : y.Atomic) :
    (if p then x else y).Atomic := by
  split
  · exact hx
  · exact hy

/-- After its one change a method may go on, but not fail. -/
theorem bind_pure (hx : x.Atomic) (f : α → β) : (x >>= fun a => pure (f a)).Atomic := by
  rw [bind_pure_comp]
  exact hx.map f

/-- Its outcome says all about such a method. -/
theorem run_eq (hx : x.Atomic) (object : σ) :
    x object =
      match x.outcome object with
      | .ok (a, left) => .ok a left
      | .error e => .error e object := by
  cases hrun : x object with
  | ok a left => simp [outcome, hrun]
  | error e left =>
    obtain rfl := hx object e left hrun
    simp [outcome, hrun]

theorem run_eq_leaves {x : Method σ Unit} (hx : x.Atomic) (object : σ) :
    x object =
      match x.leaves object with
      | .ok left => .ok () left
      | .error e => .error e object := by
  rw [hx.run_eq, leaves]
  cases x.outcome object <;> rfl

theorem left_eq {x : Method σ Unit} (hx : x.Atomic) (object : σ) :
    left (x object) =
      match x.leaves object with
      | .ok left => left
      | .error _ => object := by
  rw [hx.run_eq_leaves]
  cases x.leaves object <;> rfl

/-- A part that is left as it was makes no difference to the whole. -/
theorem run_on (hx : x.Atomic) {part : τ → σ} {replace : τ → σ → τ} {object : τ}
    (hreplace : replace object (part object) = object) :
    x.on part replace object =
      match x.outcome (part object) with
      | .ok (a, left) => .ok a (replace object left)
      | .error e => .error e object := by
  rw [on, hx.run_eq]
  cases x.outcome (part object) with
  | ok result => rfl
  | error e => simp only [hreplace]

end Atomic

end DeviceSlots.Method
