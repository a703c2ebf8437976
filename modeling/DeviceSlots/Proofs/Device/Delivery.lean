import DeviceSlots.Proofs.Device.Addresses
import DeviceSlots.Proofs.Host.Coherence

/-!
# Delivery to the device

A push of the host's buffer reaches one global, the one with the buffer's name, and changes nothing
else on the device. This holds whatever has been declared before, also over again, and whatever has
been copied.
-/

namespace DeviceSlots

namespace DeviceModule

variable {m m' : DeviceModule} {g : Global} {name : String} {symbol : DeviceSymbol}
  {bytes : List UInt8}

/-- Bytes have been put at the start of a global, and nothing else has changed. -/
structure Delivered (m : DeviceModule) (g : Global) (bytes : List UInt8) (m' : DeviceModule) :
    Prop where
  target : m'.find? g.name = some { g with bytes := bytes ++ g.bytes.drop bytes.length }
  others : ∀ name, name ≠ g.name → m'.find? name = m.find? name
  copies : m'.copies = m.copies + 1
  nextAddress : m'.nextAddress = m.nextAddress

namespace Laid

theorem delivered_receive (h : m.Laid) (hg : g ∈ m.globals) (bytes : List UInt8) :
    m.Delivered g bytes (m.receive g.address bytes) where
  target := by
    rw [find?_receive, h.find?_name hg, Option.map_some, Global.receive, if_pos rfl]
  others := by
    intro name hname
    rw [find?_receive]
    cases hfind : m.find? name with
    | none => rfl
    | some g' =>
      obtain ⟨hg', rfl⟩ := mem_of_find? hfind
      have haddress : g'.address ≠ g.address := by
        intro hsame
        exact hname (by rw [h.eq_of_address hg' hg hsame])
      rw [Option.map_some, Global.receive, if_neg haddress]
  copies := rfl
  nextAddress := rfl

/-- A copy reaches the one global at its address, if that holds it. -/
theorem copyTo_iff (h : m.Laid) {address : Nat} :
    m.copyTo address bytes = .ok m' ↔
      ∃ g ∈ m.globals, g.address = address ∧ bytes.length ≤ g.bytes.length ∧
        m' = m.receive address bytes := by
  rw [copyTo_eq_ok_iff]
  constructor
  · rintro ⟨g, hfind, hle, rfl⟩
    exact ⟨g, List.mem_of_find?_eq_some hfind, by simpa using List.find?_some hfind, hle, rfl⟩
  · rintro ⟨g, hg, rfl, hle, rfl⟩
    exact ⟨g, h.find?_address hg, hle, rfl⟩

/-- A push reaches the global with its name, if that holds it: the two checks of the size agree. -/
theorem push_iff (h : m.Laid) :
    m.push name bytes = .ok (symbol, m') ↔
      ∃ g, m.find? name = some g ∧ symbol = ⟨g.address, g.bytes.length⟩ ∧
        bytes.length ≤ g.bytes.length ∧ m' = m.receive g.address bytes := by
  rw [push_eq_ok_iff, resolve_eq_ok_iff]
  constructor
  · rintro ⟨⟨g, hfind, rfl⟩, hle, hcopy⟩
    obtain ⟨-, -, -, -, rfl⟩ := h.copyTo_iff.mp hcopy
    exact ⟨g, hfind, rfl, hle, rfl⟩
  · rintro ⟨g, hfind, rfl, hle, rfl⟩
    exact ⟨⟨g, hfind, rfl⟩, hle, h.copyTo_iff.mpr ⟨g, (mem_of_find? hfind).1, rfl, hle, rfl⟩⟩

/-- A push to a global that has just been declared with the size of the bytes leaves it with them. -/
theorem push_declare (h : m.Laid) (name : String) (bytes : List UInt8) :
    ∃ symbol m', (m.declare name bytes.length).2.push name bytes = .ok (symbol, m') ∧
      m'.contents? name = some bytes := by
  have hlaid := h.declare name bytes.length
  have hfind := m.find?_declare name name bytes.length
  rw [if_pos rfl] at hfind
  refine ⟨_, _, hlaid.push_iff.mpr ⟨_, hfind, rfl, by simp, rfl⟩, ?_⟩
  have htarget := (hlaid.delivered_receive (mem_of_find? hfind).1 bytes).target
  rw [contents?, htarget]
  simp

end Laid

/-! ## What holds of every module -/

/-- No two globals share a name, an address or a byte, and every address is a multiple of the
alignment. -/
structure Apart (m : DeviceModule) : Prop where
  names : (m.globals.map Global.name).Nodup
  addresses : (m.globals.map Global.address).Nodup
  aligned : ∀ g ∈ m.globals, 256 ∣ g.address
  bytes : m.globals.Pairwise fun g g' =>
    ∀ i < g.bytes.length, ∀ j < g'.bytes.length, g.address + i ≠ g'.address + j

theorem Laid.apart (h : m.Laid) : m.Apart where
  names := h.names
  addresses := h.nodup_addresses
  aligned := h.aligned
  bytes := by
    refine h.ascending.imp ?_
    intro g g' hle i hi j _
    have hsize := le_footprint g.bytes.length
    omega

/-- A symbol stands for its global until the name is declared anew, and from then on for none. -/
structure Faithful (m : DeviceModule) : Prop where
  declared : ∀ name size, (m.declare name size).2.resolve name = .ok (m.declare name size).1
  stands : ∀ name symbol calls, m.resolve name = .ok symbol →
    (∀ size, .declare name size ∉ calls) → (m.run calls).resolve name = .ok symbol
  lost : ∀ name symbol calls size bytes, m.resolve name = .ok symbol →
    .declare name size ∈ calls →
    (m.run calls).copyTo symbol.address bytes = .error (.noGlobalAt symbol.address)

theorem Laid.faithful (h : m.Laid) : m.Faithful where
  declared := m.resolve_declare
  stands := fun _ _ _ hsymbol hcalls => h.resolve_run hsymbol hcalls
  lost := fun _ _ _ _ bytes hsymbol hcalls => (h.vacant_run hsymbol hcalls).copyTo bytes

/-- A copy or a push succeeds if its global is there and holds the bytes, which are then delivered to
that global; else the module stays as it is. -/
structure Delivers (m : DeviceModule) : Prop where
  copy : ∀ address bytes, (∃ m', m.copyTo address bytes = .ok m') ↔
    ∃ g ∈ m.globals, g.address = address ∧ bytes.length ≤ g.bytes.length
  copied : ∀ g bytes m', g ∈ m.globals → m.copyTo g.address bytes = .ok m' →
    m.Delivered g bytes m'
  push : ∀ name bytes, (∃ symbol m', m.push name bytes = .ok (symbol, m')) ↔
    ∃ g, m.find? name = some g ∧ bytes.length ≤ g.bytes.length
  pushed : ∀ name bytes symbol m', m.push name bytes = .ok (symbol, m') →
    ∃ g, m.find? name = some g ∧ symbol = ⟨g.address, g.bytes.length⟩ ∧ m.Delivered g bytes m'
  failed : ∀ call e left, Call.method call m = .error e left →
    (∀ name, left.contents? name = m.contents? name) ∧ left.copies = m.copies

theorem Laid.delivers (h : m.Laid) : m.Delivers where
  copy := by
    intro address bytes
    constructor
    · rintro ⟨m', hcopy⟩
      obtain ⟨g, hg, haddress, hle, -⟩ := h.copyTo_iff.mp hcopy
      exact ⟨g, hg, haddress, hle⟩
    · rintro ⟨g, hg, haddress, hle⟩
      exact ⟨_, h.copyTo_iff.mpr ⟨g, hg, haddress, hle, rfl⟩⟩
  copied := by
    intro g bytes m' hg hcopy
    obtain ⟨-, -, -, -, rfl⟩ := h.copyTo_iff.mp hcopy
    exact h.delivered_receive hg bytes
  push := by
    intro name bytes
    constructor
    · rintro ⟨symbol, m', hpush⟩
      obtain ⟨g, hfind, -, hle, -⟩ := h.push_iff.mp hpush
      exact ⟨g, hfind, hle⟩
    · rintro ⟨g, hfind, hle⟩
      exact ⟨_, _, h.push_iff.mpr ⟨g, hfind, rfl, hle, rfl⟩⟩
  pushed := by
    intro name bytes symbol m' hpush
    obtain ⟨g, hfind, hsymbol, -, rfl⟩ := h.push_iff.mp hpush
    exact ⟨g, hfind, hsymbol, h.delivered_receive (mem_of_find? hfind).1 bytes⟩
  failed := by
    intro call e left hfailed
    rw [atomic_method call m e left hfailed]
    exact ⟨fun _ => rfl, rfl⟩

end DeviceModule

/-! ## Pushes of hosts -/

namespace Host

open DeviceModule

theorem deviceSymbol_eq (config : Config) : config.deviceSymbol = "curve_rtc::" ++ config.symbolName :=
  rfl

theorem push_eq {host : Host} {buffer : Buffer} (hbuffer : host.buffer = some buffer)
    (m : DeviceModule) : host.push m = m.push host.config.deviceSymbol buffer.bytes := by
  rw [push_eq_bind, requireBuffer_eq_ok_iff.mpr hbuffer, ok_bind]

theorem atomic_pushBuffer (host : Host) : host.pushBuffer.Atomic :=
  (Method.inspects_ofExcept _).bind_atomic fun _ => atomic_pushBytes _ _

/-- A push of the host's buffer reaches the global with its name, if that is there and holds the
buffer, and nothing else. -/
structure Pushes (host : Host) (buffer : Buffer) (m : DeviceModule) : Prop where
  succeeds : (∃ symbol m', host.push m = .ok (symbol, m')) ↔
    ∃ g, m.find? ("curve_rtc::" ++ host.config.symbolName) = some g ∧
      buffer.size ≤ g.bytes.length
  delivered : ∀ symbol m', host.push m = .ok (symbol, m') →
    ∃ g, m.find? ("curve_rtc::" ++ host.config.symbolName) = some g ∧
      symbol = ⟨g.address, g.bytes.length⟩ ∧ m.Delivered g buffer.bytes m'
  failed : ∀ e left, host.pushBuffer m = .error e left → left = m

/-- Whatever was called on a module from the start, its globals lie apart, no address has been given
out twice, and symbols stay faithful. So whatever is pushed is delivered to one global, or nothing is
changed. -/
theorem push_delivers (calls : List DeviceModule.Call) :
    (ofCalls calls).Apart ∧ (addressesGiven {} calls).Nodup ∧ (ofCalls calls).Faithful ∧
      (ofCalls calls).Delivers ∧
      ∀ (host : Host) (buffer : Buffer), host.buffer = some buffer →
        host.Pushes buffer (ofCalls calls) := by
  have hlaid : (ofCalls calls).Laid := laid_empty.run calls
  refine ⟨hlaid.apart, nodup_addressesGiven _ _, hlaid.faithful, hlaid.delivers, ?_⟩
  intro host buffer hbuffer
  refine ⟨?_, ?_, host.atomic_pushBuffer _⟩
  · rw [push_eq hbuffer, deviceSymbol_eq]
    exact hlaid.delivers.push _ _
  · rw [push_eq hbuffer, deviceSymbol_eq]
    exact hlaid.delivers.pushed _ _

/-- A host whose buffer is eight bytes of environment. -/
def eightBytes : Host :=
  Host.run { config := { environmentCapacity := 8 } } [
    .dynamicHeader,
    .refreshEnvironment (some [1, 2, 3, 4, 5, 6, 7, 8, 9])]

/-- A device whose buffer was declared too small at first, with calls that fail on it. -/
def declaredAnew : List DeviceModule.Call := [
  .declare "curve_rtc::curve_rtc_data" 4,
  .declare "other" 0,
  .push "curve_rtc::curve_rtc_data" [1, 1, 1, 1, 1],
  .declare "curve_rtc::curve_rtc_data" 10,
  .copyTo 0x1000 [1]]

theorem push_delivers_declaredAnew :
    eightBytes.buffer = some ⟨[1, 2, 3, 4, 5, 6, 7, 8]⟩ ∧
      ∃ m', eightBytes.push (ofCalls declaredAnew) = .ok (⟨0x1200, 10⟩, m') ∧
        m'.contents? "curve_rtc::curve_rtc_data" = some [1, 2, 3, 4, 5, 6, 7, 8, 0, 0] ∧
        m'.contents? "other" = some [] ∧ m'.copies = 1 := by
  have hbuffer : eightBytes.buffer = some ⟨[1, 2, 3, 4, 5, 6, 7, 8]⟩ := rfl
  have htarget : (ofCalls declaredAnew).find? "curve_rtc::curve_rtc_data" =
      some ⟨"curve_rtc::curve_rtc_data", 0x1200, List.replicate 10 0⟩ := rfl
  obtain ⟨-, -, -, -, hpushes⟩ := push_delivers declaredAnew
  obtain ⟨hsucceeds, hdelivered, -⟩ := hpushes eightBytes _ hbuffer
  obtain ⟨symbol, m', hpush⟩ := hsucceeds.mpr ⟨_, htarget, by decide⟩
  obtain ⟨g, hg, rfl, hdevice⟩ := hdelivered symbol m' hpush
  cases htarget.symm.trans hg
  refine ⟨hbuffer, m', hpush, ?_, ?_, hdevice.copies⟩
  · rw [contents?, hdevice.target]
    rfl
  · rw [contents?, hdevice.others "other" (by decide)]
    rfl

end Host

end DeviceSlots
