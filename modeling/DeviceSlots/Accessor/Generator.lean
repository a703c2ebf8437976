import DeviceSlots.Accessor.Block
import DeviceSlots.Header.Document
import DeviceSlots.Layout

/-!
# Generating accessors

The bodies of all accessors, from a configuration, a layout, and the environment registry that the
layout was computed with. A body has a block for each variable or property that its access fits, in
ascending order of the names; the offsets in the blocks are those of the layout.
-/

namespace DeviceSlots

/-- Whether an access fits a variable: the variable is open to it, and has as many elements as the
access expects. -/
def Access.admits (access : Access) (v : Variable) (vectorTypes : Bool) : Bool :=
  (if access.isGet then v.read else v.write) &&
    (if access.isArray then v.elements > 1 else vectorTypes || v.elements = 1)

/-- Whether an access fits an environment property. -/
def PropertyAccess.admits (access : PropertyAccess) (p : Property) (vectorTypes : Bool) : Bool :=
  match access with
  | .get => vectorTypes || p.elements = 1
  | .getArray => p.elements > 1
  | .contains => true

namespace Generator

/-- How far the blocks of variable accessors are indented. -/
def variableMargin : Nat := 8

/-- How far the blocks of environment accessors are indented. -/
def environmentMargin : Nat := 4

/-- The number of bytes that a scalar access moves: one element, or all of them as one aggregate. The
product is a word; nothing bounds it for variables. -/
def scalarSize (vectorTypes : Bool) (typeSize elements : Nat) : Nat :=
  if vectorTypes then wrap (typeSize * elements) else typeSize

/-! ## Variables -/

/-- The checks of an access to a variable. -/
def variableChecks (config : Config) (access : Access) (v : Variable) : List Check :=
  if access.isArray then
    [.size v.typeSize, .length v.elements, .bound "array_index" v.elements]
  else
    [.size (scalarSize config.vectorTypes v.typeSize v.elements)]

/-- The element that an access to a variable acts on. -/
def variableElement (access : Access) (v : Variable) : Element :=
  if access.isArray then .array v.elements else .scalar

/-- What an access does with the variable whose slot is at an offset. Aggregates are never loaded
through the read-only cache. -/
def variableAction (config : Config) (access : Access) (v : Variable) (offset : Nat) : Action :=
  let element := variableElement access v
  if !access.isGet then .store offset element
  else if access.isCached && !config.vectorTypes then .loadCached offset element
  else .load offset element

/-- The block of an access for a variable of the layout. -/
def variableBlock (config : Config) (layout : Layout) (kind : Kind) (access : Access)
    (entry : OrdinalEntry) : Block where
  name := entry.name
  checks := variableChecks config access entry.details
  action := variableAction config access entry.details
    (layout.offsets.slotOffset kind entry.ordinal)

/-- The body of an access to the variables of a kind. -/
def variableBody (config : Config) (layout : Layout) (kind : Kind) (access : Access) : Body where
  margin := variableMargin
  subject := kind.deviceSubject access.isArray
  operation := some (if access.isGet then "getVariable()" else "setVariable()")
  leave := if access.isGet then leaveWithZero else leaveEmpty
  blocks := ((layout.ordinals.get kind).filter fun entry =>
    access.admits entry.details config.vectorTypes).map (variableBlock config layout kind access)
  closing := .notFound access.isGet

/-! ## Environment properties -/

/-- The checks of an access to an environment property. -/
def propertyChecks (config : Config) (access : PropertyAccess) (p : Property) : List Check :=
  match access with
  | .get => [.size (scalarSize config.vectorTypes p.typeSize p.elements)]
  | .getArray => [.size p.typeSize, .bound "index" p.elements]
  | .contains => []

/-- What an access does with an environment property. -/
def propertyAction (access : PropertyAccess) (p : Property) : Action :=
  match access with
  | .get => .fetch p.offset
  | .getArray => .fetchIndexed p.offset
  | .contains => .affirm

/-- The block of an access for an environment property. -/
def propertyBlock (config : Config) (access : PropertyAccess) (entry : String × Property) :
    Block where
  name := entry.1
  checks := propertyChecks config access entry.2
  action := propertyAction access entry.2

/-- The body of an access to the environment properties. -/
def environmentBody (config : Config) (environment : NameMap Property) (access : PropertyAccess) :
    Body where
  margin := environmentMargin
  subject :=
    if access = .getArray then "Environment array property" else "Environment property"
  operation := none
  leave := leaveWithZero
  blocks := (environment.toList.filter fun entry =>
    access.admits entry.2 config.vectorTypes).map (propertyBlock config access)
  closing := if access = .contains then .deny else .notFound true

/-! ## The header -/

/-- The line that declares the device buffer. -/
def declaration (config : Config) (layout : Layout) : String :=
  s!"__constant__ char {config.symbolName}[{layout.offsets.total}];"

variable (config : Config) (layout : Layout) (environment : NameMap Property)

/-- The lines of a fill point. -/
def lines : FillPoint → List String
  | .declaration => [declaration config layout]
  | .environment access => (environmentBody config environment access).lines config
  | .accessor kind access => (variableBody config layout kind access).lines config

/-- The text of a fill point. -/
def text (point : FillPoint) : String := Text.unlines (lines config layout environment point)

/-- Fills the given points of a document. -/
def fillAll : List FillPoint → Method Document Unit
  | [] => return ()
  | point :: rest => do
    Document.fillPoint point (text config layout environment point)
    fillAll rest

/-- The text of the header. -/
def header : Except Error String := do
  let doc ← (fillAll config layout environment FillPoint.all).leaves {}
  doc.render

end Generator

end DeviceSlots
