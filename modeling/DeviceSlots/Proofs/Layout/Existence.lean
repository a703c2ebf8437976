import DeviceSlots.Proofs.Layout.Slots
import DeviceSlots.Proofs.Registry.Declarations
import DeviceSlots.Proofs.Text.ByteOrder

/-!
# Existence of layouts

Registries have a layout if the environment region is a whole number of slots and every property
ends within it. Where there is none, the error is about the least name whose property ends beyond
the region, and about the region's size only if there is no such name. That a property's end is an
address has been settled when it was registered.
-/

namespace DeviceSlots

/-- One past the property's last byte. -/
def Property.finish (p : Property) : Nat := p.offset + p.typeSize * p.elements

namespace Registries

variable {r : Registries} {capacity : Nat} {name : String} {p : Property}

/-- The end of a registered property is an address. -/
theorem Built.end?_eq (h : Built r) (hp : r.findProperty? name = some p) :
    p.end? = some p.finish := by
  obtain ⟨decl, hadmissible, -, rfl⟩ := h.property_declared hp
  exact extentEnd?_eq_some_iff.mpr ⟨rfl, hadmissible.addressable⟩

/-- Every property ends within the environment region. -/
def Fits (r : Registries) (capacity : Nat) : Prop :=
  ∀ name p, r.findProperty? name = some p → p.finish ≤ capacity

/-- A property ends beyond the environment region, and those with lesser names, byte by byte, end
within it. -/
structure FirstBeyond (r : Registries) (capacity : Nat) (name : String) (p : Property) : Prop where
  registered : r.findProperty? name = some p
  beyond : capacity < p.finish
  first : ∀ other q, r.findProperty? other = some q → Text.utf8 other < Text.utf8 name →
    q.finish ≤ capacity

end Registries

namespace Layout

open Registries

variable {r : Registries} {capacity : Nat}

theorem checkExtents_eq_ok_iff_fits (h : Built r) :
    checkExtents capacity r.environment.toList = .ok () ↔ r.Fits capacity := by
  rw [checkExtents_eq_ok_iff]
  constructor
  · intro hall name p hp
    obtain ⟨finish, hend, hle⟩ := hall _ ((r.environment.find?_eq_some_iff name p).mp hp)
    rw [h.end?_eq hp] at hend
    exact Option.some.inj hend ▸ hle
  · rintro hfits ⟨name, p⟩ hmem
    have hp : r.findProperty? name = some p := (r.environment.find?_eq_some_iff name p).mpr hmem
    exact ⟨p.finish, h.end?_eq hp, hfits name p hp⟩

/-- Properties are checked in ascending order of their names, so the first that is found to end
beyond the environment region has the least name. -/
theorem firstBeyond_of_checkExtents (h : Built r) {e : Error}
    (herror : checkExtents capacity r.environment.toList = .error e) :
    ∃ name p, r.FirstBeyond capacity name p ∧
      e = .beyondCapacity name p.offset p.finish capacity := by
  obtain ⟨before, name, p, after, hsplit, hbefore, hcause⟩ := checkExtents_eq_error herror
  have hmem : (name, p) ∈ r.environment.toList := by simp [hsplit]
  have hp : r.findProperty? name = some p := (r.environment.find?_eq_some_iff name p).mpr hmem
  have hend := h.end?_eq hp
  rcases hcause with ⟨hnone, -⟩ | ⟨finish, hfinish, hlt, he⟩
  · rw [hend] at hnone
    contradiction
  · obtain rfl : p.finish = finish := Option.some.inj (hend.symm.trans hfinish)
    refine ⟨name, p, ⟨hp, hlt, ?_⟩, he⟩
    intro other q hq hless
    have hother : (other, q) ∈ before :=
      NameMap.mem_before_of_lt hsplit ((r.environment.find?_eq_some_iff other q).mp hq)
        ((Text.utf8_lt_utf8_iff other name).mp hless)
    obtain ⟨finish, hfinish, hle⟩ := checkExtents_eq_ok_iff.mp hbefore _ hother
    rw [h.end?_eq hq] at hfinish
    exact Option.some.inj hfinish ▸ hle

theorem compute_of_not_fits (h : Built r) (hnot : ¬ r.Fits capacity) :
    ∃ name p, r.FirstBeyond capacity name p ∧
      compute capacity r = .error (.beyondCapacity name p.offset p.finish capacity) := by
  cases hextents : checkExtents capacity r.environment.toList with
  | ok u => exact absurd ((checkExtents_eq_ok_iff_fits h).mp hextents) hnot
  | error e =>
    obtain ⟨name, p, hfirst, rfl⟩ := firstBeyond_of_checkExtents h hextents
    refine ⟨name, p, hfirst, ?_⟩
    rw [compute, hextents]
    rfl

theorem compute_of_misaligned (h : Built r) (hfits : r.Fits capacity)
    (hmisaligned : ¬ slotSize ∣ capacity) :
    compute capacity r = .error (.misalignedCapacity capacity) := by
  have hextents := (checkExtents_eq_ok_iff_fits h).mpr hfits
  have hoffsets (count : Kind → Nat) :
      SectionOffsets.compute capacity count = .error (.misalignedCapacity capacity) :=
    if_pos fun hmod => hmisaligned (Nat.dvd_of_mod_eq_zero hmod)
  simp only [compute, hextents, hoffsets]
  rfl

theorem compute_of_fits (h : Built r) (hfits : r.Fits capacity) (haligned : slotSize ∣ capacity) :
    ∃ layout, compute capacity r = .ok layout := by
  have hextents := (checkExtents_eq_ok_iff_fits h).mpr hfits
  have hoffsets (count : Kind → Nat) :
      ∃ offsets, SectionOffsets.compute capacity count = .ok offsets :=
    ⟨_, if_neg (not_not_intro (Nat.mod_eq_zero_of_dvd haligned))⟩
  obtain ⟨offsets, hoffsets⟩ := hoffsets fun kind => (r.tables.get kind).size
  exact ⟨⟨offsets, _⟩, compute_eq_ok_iff.mpr ⟨hextents, rfl, hoffsets⟩⟩

/-- Properties that end beyond the tenth byte, in descending order of their names. -/
def cramped : List PropertyDecl := [
  { name := "width", offset := 8, typeName := "float", typeSize := 4 },
  { name := "height", offset := 4, typeName := "float", typeSize := 4, elements := 2 }]

/-- Registries with these properties. -/
def crampedRegistries : Registries := cramped.foldl (fun r decl => r.put (.ofProperty decl)) .empty

end Layout

end DeviceSlots
