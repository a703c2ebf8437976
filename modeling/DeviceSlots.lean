import DeviceSlots.Main
import DeviceSlots.Proofs.NameMap
import DeviceSlots.Proofs.Config
import DeviceSlots.Proofs.Buffer
import DeviceSlots.Proofs.Json.Tokens
import DeviceSlots.Proofs.Json.Scan
import DeviceSlots.Proofs.Registry.Slots
import DeviceSlots.Proofs.Registry.Declarations
import DeviceSlots.Proofs.Registry.Calls
import DeviceSlots.Proofs.Layout.Slots
import DeviceSlots.Proofs.Text.Lines
import DeviceSlots.Proofs.Text.Code
import DeviceSlots.Proofs.Text.Marks
import DeviceSlots.Proofs.Text.Numbers
import DeviceSlots.Proofs.Accessor.Literal
import DeviceSlots.Proofs.Accessor.Fault
import DeviceSlots.Proofs.Accessor.Shape
import DeviceSlots.Proofs.Accessor.WrittenOffset
import DeviceSlots.Proofs.Accessor.Bodies
import DeviceSlots.Proofs.Accessor.Syntax
import DeviceSlots.Proofs.Accessor.Reading
import DeviceSlots.Proofs.Accessor.Program
import DeviceSlots.Proofs.Accessor.Running
import DeviceSlots.Proofs.Accessor.Meaning
import DeviceSlots.Proofs.Accessor.Accesses
import DeviceSlots.Proofs.Accessor.EnvironmentAccesses
import DeviceSlots.Proofs.Accessor.Comparisons
import DeviceSlots.Proofs.Header.Assembly
import DeviceSlots.Proofs.Header.Filling
import DeviceSlots.Proofs.Header.Reading
import DeviceSlots.Proofs.Header.Conditional
import DeviceSlots.Proofs.Host.Run
import DeviceSlots.Proofs.Host.Transition
import DeviceSlots.Proofs.Host.SlotAgreement
import DeviceSlots.Proofs.Provenance
import DeviceSlots.Proofs.Layout.Tiling
import DeviceSlots.Proofs.Layout.Existence
import DeviceSlots.Proofs.Host.Lifecycle
import DeviceSlots.Proofs.Host.Failure
import DeviceSlots.Proofs.Host.Freeze
import DeviceSlots.Proofs.Host.Contents
import DeviceSlots.Proofs.Host.Refinement
import DeviceSlots.Proofs.Host.Defects
import DeviceSlots.Proofs.Registry.Listing
import DeviceSlots.Proofs.Manifest.Building
import DeviceSlots.Proofs.Manifest.ListingOrder
import DeviceSlots.Proofs.Json.Reading
import DeviceSlots.Proofs.Manifest.Encoding
import DeviceSlots.Proofs.Manifest.Decoding
import DeviceSlots.Proofs.TypeName.Canonical
import DeviceSlots.Proofs.TypeName.Tidy
import DeviceSlots.Proofs.Device.Delivery
import DeviceSlots.Proofs.Manifest.Acceptance
import DeviceSlots.Proofs.Manifest.Registered
import DeviceSlots.Proofs.Command.Outcome
import DeviceSlots.Proofs.Store
import DeviceSlots.Proofs.Header.Capture
import DeviceSlots.Proofs.Json.Rows
import DeviceSlots.Proofs.Json.Exact
import DeviceSlots.Proofs.Json.Members
import DeviceSlots.Proofs.Json.Grammar
import DeviceSlots.Proofs.Json.Soundness
import DeviceSlots.Proofs.Json.Changes
import DeviceSlots.Proofs.Manifest.ForeignMembers
