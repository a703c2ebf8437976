import DeviceSlots.Host

/-!
# Manifests

A manifest describes a model: the generator's configuration, the variables of each kind, and the
environment properties. From a manifest a host is built with everything registered that the manifest
lists.
-/

namespace DeviceSlots

/-- The description of a model. -/
structure Manifest where
  config : Config := {}
  agent : List VariableDecl := []
  messageIn : List VariableDecl := []
  messageOut : List VariableDecl := []
  newAgent : List VariableDecl := []
  environment : List PropertyDecl := []
  deriving DecidableEq, Repr

namespace Manifest

/-- The variables of a kind. -/
def declarations (m : Manifest) : Kind → List VariableDecl
  | .agent => m.agent
  | .messageIn => m.messageIn
  | .messageOut => m.messageOut
  | .newAgent => m.newAgent

/-! ## Building a host -/

/-- Registers variables of a kind in order. -/
def registerVariables (kind : Kind) : List VariableDecl → Operation Unit
  | [] => return ()
  | decl :: rest => do
    Host.registerVariable kind decl
    registerVariables kind rest

/-- Registers the variables of the given kinds in order. -/
def registerKinds (m : Manifest) : List Kind → Operation Unit
  | [] => return ()
  | kind :: rest => do
    registerVariables kind (m.declarations kind)
    m.registerKinds rest

/-- Registers environment properties in order. -/
def registerProperties : List PropertyDecl → Operation Unit
  | [] => return ()
  | decl :: rest => do
    Host.registerProperty decl
    registerProperties rest

/-- Registers everything that the manifest lists, section by section. -/
def register (m : Manifest) : Operation Unit := do
  m.registerKinds Kind.sections
  registerProperties m.environment

/-- A fresh host with everything registered that the manifest lists. -/
def buildHost (m : Manifest) : Except Error Host := do
  let host ← Host.create m.config
  match m.register host with
  | .ok _ built => return built
  | .error e _ => throw e

end Manifest

end DeviceSlots
