/-!
# Kinds of variables

Variables live in four kinds of registry. Two orders matter: slots are laid out section by section
in `Kind.sections`, while reports list the kinds in `Kind.all`.
-/

namespace DeviceSlots

/-- The kind of registry that a variable belongs to. -/
inductive Kind
  | agent | messageIn | messageOut | newAgent
  deriving DecidableEq, Repr

namespace Kind

/-- All kinds, in the order of reports. -/
def all : List Kind := [.agent, .messageIn, .messageOut, .newAgent]

/-- All kinds, in the order of their sections in the host buffer. -/
def sections : List Kind := [.agent, .messageOut, .messageIn, .newAgent]

/-- The key of the kind in manifests and reports. -/
def key : Kind → String
  | .agent => "agent"
  | .messageIn => "message_in"
  | .messageOut => "message_out"
  | .newAgent => "new_agent"

/-- What a variable of the kind is called in error messages. -/
def label : Kind → String
  | .agent => "agent variable"
  | .messageIn => "message input variable"
  | .messageOut => "message output variable"
  | .newAgent => "new agent variable"

/-- The kind with the given key. -/
def ofKey? (key : String) : Option Kind := all.find? fun k => k.key = key

theorem mem_all (k : Kind) : k ∈ all := by cases k <;> decide

theorem mem_sections (k : Kind) : k ∈ sections := by cases k <;> decide

theorem nodup_sections : sections.Nodup := by decide

end Kind

/-- One value for each kind. -/
structure ByKind (α : Type) where
  agent : α
  messageIn : α
  messageOut : α
  newAgent : α
  deriving DecidableEq

namespace ByKind

variable {α β : Type}

/-- The value of a kind. -/
def get (table : ByKind α) : Kind → α
  | .agent => table.agent
  | .messageIn => table.messageIn
  | .messageOut => table.messageOut
  | .newAgent => table.newAgent

/-- The table whose value at each kind is given by a function. -/
def ofFn (f : Kind → α) : ByKind α := ⟨f .agent, f .messageIn, f .messageOut, f .newAgent⟩

/-- Replaces the value of one kind. -/
def set (table : ByKind α) (k : Kind) (a : α) : ByKind α :=
  ofFn fun k' => if k' = k then a else table.get k'

/-- Applies a function to every value. -/
def map (f : α → β) (table : ByKind α) : ByKind β := ofFn fun k => f (table.get k)

@[simp] theorem get_ofFn (f : Kind → α) (k : Kind) : (ofFn f).get k = f k := by cases k <;> rfl

@[simp] theorem get_map (f : α → β) (table : ByKind α) (k : Kind) :
    (table.map f).get k = f (table.get k) := by simp [map]

theorem get_set (table : ByKind α) (k k' : Kind) (a : α) :
    (table.set k a).get k' = if k' = k then a else table.get k' := by simp [set]

@[simp] theorem get_set_self (table : ByKind α) (k : Kind) (a : α) :
    (table.set k a).get k = a := by simp [get_set]

theorem ext_get {s t : ByKind α} (h : ∀ k, s.get k = t.get k) : s = t := by
  obtain ⟨a, b, c, d⟩ := s
  obtain ⟨a', b', c', d'⟩ := t
  have ha : a = a' := h .agent
  have hb : b = b' := h .messageIn
  have hc : c = c' := h .messageOut
  have hd : d = d' := h .newAgent
  subst ha hb hc hd
  rfl

end ByKind

/-- What a registration is about: a variable of some kind, or an environment property. -/
inductive Subject
  | variable (kind : Kind)
  | environment
  deriving DecidableEq, Repr

/-- What the subject is called in error messages. -/
def Subject.label : Subject → String
  | .variable kind => kind.label
  | .environment => "environment property"

end DeviceSlots
