import DeviceSlots.Error

/-!
# Computations that may fail

A computation in steps succeeds if all its steps do, and fails as the first step that does not. So
where no step fails for a cause of some sort, neither does the whole.
-/

namespace DeviceSlots

@[simp] theorem ok_bind {ε α β : Type} (a : α) (f : α → Except ε β) :
    ((.ok a : Except ε α) >>= f) = f a := rfl

@[simp] theorem error_bind {ε α β : Type} (e : ε) (f : α → Except ε β) :
    ((.error e : Except ε α) >>= f) = .error e := rfl

theorem bind_eq_ok_iff {ε α β : Type} {x : Except ε α} {f : α → Except ε β} {b : β} :
    (x >>= f) = .ok b ↔ ∃ a, x = .ok a ∧ f a = .ok b := by
  cases x with
  | error e => simp [bind, Except.bind]
  | ok a => simp [bind, Except.bind]

theorem map_eq_ok_iff {ε α β : Type} {x : Except ε α} {f : α → β} {b : β} :
    x.map f = .ok b ↔ ∃ a, x = .ok a ∧ f a = b := by
  cases x with
  | error e => simp [Except.map]
  | ok a => simp [Except.map]

/-- What every step keeps, a run of steps keeps. -/
theorem foldlM_keeps {α β : Type} {P : β → Prop} {f : β → α → Except Error β}
    (hstep : ∀ b a b', P b → f b a = .ok b' → P b') {list : List α} {b last : β} (hb : P b)
    (h : list.foldlM f b = .ok last) : P last := by
  induction list generalizing b with
  | nil =>
    cases h
    exact hb
  | cons a rest ih =>
    rw [List.foldlM_cons, bind_eq_ok_iff] at h
    obtain ⟨b', hfirst, hrest⟩ := h
    exact ih (hstep b a b' hb hfirst) hrest

/-- A run of steps fails as the first step that does, and the steps after it are not taken. -/
theorem foldlM_eq_error_iff {α β : Type} {f : β → α → Except Error β} {list : List α} {b : β}
    {e : Error} :
    list.foldlM f b = .error e ↔ ∃ before a after b', list = before ++ a :: after ∧
      before.foldlM f b = .ok b' ∧ f b' a = .error e := by
  constructor
  · intro h
    induction list generalizing b with
    | nil => contradiction
    | cons x rest ih =>
      rw [List.foldlM_cons] at h
      cases hx : f b x with
      | error e' =>
        rw [hx, error_bind] at h
        exact ⟨[], x, rest, b, rfl, rfl, hx.trans h⟩
      | ok b₁ =>
        rw [hx, ok_bind] at h
        obtain ⟨before, a, after, b', rfl, hbefore, ha⟩ := ih h
        refine ⟨x :: before, a, after, b', rfl, ?_, ha⟩
        rw [List.foldlM_cons, hx, ok_bind, hbefore]
  · rintro ⟨before, a, after, b', rfl, hbefore, ha⟩
    rw [List.foldlM_append, hbefore, ok_bind, List.foldlM_cons, ha, error_bind]

/-! ## Causes of failure -/

/-- A computation that fails, if at all, for causes of one sort. -/
def FailsOnly {α : Type} (P : Error → Prop) (x : Except Error α) : Prop := ∀ e, x = .error e → P e

namespace FailsOnly

variable {α β : Type} {P : Error → Prop} {x : Except Error α}

theorem ok (a : α) : FailsOnly P (.ok a : Except Error α) := by
  intro e h
  contradiction

theorem error {e : Error} (h : P e) : FailsOnly P (.error e : Except Error α) := by
  intro e' h'
  cases h'
  exact h

theorem bind {f : α → Except Error β} (hx : FailsOnly P x)
    (hf : ∀ a, x = .ok a → FailsOnly P (f a)) : FailsOnly P (x >>= f) := by
  cases x with
  | error e => exact error (hx e rfl)
  | ok a => exact hf a rfl

theorem mono {Q : Error → Prop} (hx : FailsOnly P x) (h : ∀ e, P e → Q e) : FailsOnly Q x :=
  fun e he => h e (hx e he)

theorem map (hx : FailsOnly P x) (f : α → β) : FailsOnly P (x.map f) := by
  cases x with
  | error e => exact error (hx e rfl)
  | ok a => exact ok (f a)

theorem foldlM {f : β → α → Except Error β} (hf : ∀ b a, FailsOnly P (f b a)) (list : List α)
    (b : β) : FailsOnly P (list.foldlM f b) := by
  induction list generalizing b with
  | nil => exact ok b
  | cons a rest ih => exact bind (hf b a) fun b' _ => ih b'

end FailsOnly

end DeviceSlots
