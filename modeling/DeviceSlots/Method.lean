import DeviceSlots.Error

/-!
# Methods

A method works on an object, and gives a value or fails. Either way it leaves the object behind, with
whatever it has done to it by then: that a failure leaves the object as it was is a property of a
method, and has to be shown of it.
-/

namespace DeviceSlots

/-- A step on an object of type `σ` that may fail. -/
abbrev Method (σ α : Type) := EStateM Error σ α

namespace Method

variable {σ τ α : Type}

/-- The object that a run leaves behind. -/
def left : EStateM.Result Error σ α → σ
  | .ok _ left => left
  | .error _ left => left

/-- What a run gives: a value, or the cause of its failure. -/
def result : EStateM.Result Error σ α → Except Error α
  | .ok a _ => .ok a
  | .error e _ => .error e

/-- What a method gives and leaves where it succeeds, or the cause of its failure. -/
def outcome (x : Method σ α) (object : σ) : Except Error (α × σ) :=
  match x object with
  | .ok a left => .ok (a, left)
  | .error e _ => .error e

/-- What a method leaves where it succeeds, or the cause of its failure. -/
def leaves (x : Method σ Unit) (object : σ) : Except Error σ := (x.outcome object).map Prod.snd

/-- Runs a method on a part of an object. What it leaves of the part takes its place. -/
def on (part : τ → σ) (replace : τ → σ → τ) (x : Method σ α) : Method τ α := fun object =>
  match x (part object) with
  | .ok a left => .ok a (replace object left)
  | .error e left => .error e (replace object left)

end Method

end DeviceSlots
