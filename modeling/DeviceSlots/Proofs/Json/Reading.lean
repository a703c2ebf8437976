import DeviceSlots.Proofs.Json.Members
import DeviceSlots.Proofs.Json.Scan

/-!
# Reading what was encoded

Records have many encodings, as their members come in any order, and some may be left out. A record
is read from each of them if each of its fields is read from every encoding of the field: while the
members are read, the draft only depends on which of them have been.
-/

namespace DeviceSlots.Json

variable {α δ : Type}

/-- A reader takes the tokens of a value as `a`, whatever follows them. -/
def Reads (reader : Reader α) (v : Value) (a : α) : Prop :=
  ∀ rest, reader (v.tokens ++ rest) = .ok (a, rest)

/-! ## Single values -/

theorem reads_string (wanted : Wanted) (s : String) : Reads (readString wanted) (.string s) s :=
  fun _ => rfl

theorem reads_bool (b : Bool) : Reads readBool (.bool b) b := fun _ => rfl

theorem quantity?_ofNat {n : Nat} (h : n < UInt64.size) :
    (Numeral.ofNat n).quantity? = some (.natural n) := by
  have hvalue : Nat.ofDigitChars 10 (Nat.toDigits 10 n) 0 = n := by simp
  have hfits : ¬n > Numeral.maxSignificand := by
    rw [Numeral.maxSignificand]
    omega
  simp only [Numeral.quantity?, Numeral.ofNat, hvalue, hfits, Option.isSome_none, decide_false,
    Bool.or_false, Bool.false_eq_true, if_false, Bool.not_false, if_true]

theorem reads_nat (wanted : Wanted) {limit n : Nat} (hlimit : limit ≤ UInt64.size) (h : n < limit) :
    Reads (readNat wanted limit) (.number n) n := by
  intro rest
  rw [Value.tokens, List.singleton_append, readNat, quantity?_ofNat (by omega)]
  exact if_pos h

theorem reads_variant {ofName : String → Option α} {known : List String} {name : String} {a : α}
    (h : ofName name = some a) : Reads (readVariant ofName known) (.string name) a := by
  intro rest
  rw [Value.tokens, List.singleton_append, readVariant, variantOfName, h]
  rfl

theorem reads_variant_null {ofName : String → Option α} {known : List String} {name : String} {a : α}
    (h : ofName name = some a) :
    Reads (readVariant ofName known) (.object [(name, .null)]) a := by
  intro rest
  have htokens : (Value.object [(name, .null)]).tokens ++ rest =
      .openBrace :: .string (some name) :: .colon :: .null :: .closeBrace :: rest := rfl
  rw [htokens, readVariant, variantOfName, h]
  rfl

/-! ## Rows -/

/-- The tokens of a member, its key apart. -/
def memberEntry (member : String × Value) : Option String × List Token :=
  (some member.1, member.2.tokens)

theorem tokens_array_eq (items : List Value) :
    (Value.array items).tokens = arrayRow (items.map Value.tokens) := by
  rw [Value.tokens_array, separate_eq_listed]
  rfl

theorem tokens_object_eq (members : List (String × Value)) :
    (Value.object members).tokens = objectRow (members.map memberEntry) := by
  rw [Value.tokens_object, separate_eq_listed, objectRow, List.map_map]
  rfl

theorem isValue_tokens (v : Value) : IsValue v.tokens := by
  induction v with
  | null => exact .null
  | bool b => exact .bool b
  | number n => exact .number (.ofNat n)
  | string s => exact .string (some s)
  | array items ih =>
    rw [tokens_array_eq]
    exact .array (List.forall_mem_map.mpr ih)
  | object members ih =>
    rw [tokens_object_eq]
    exact .object (List.forall_mem_map.mpr ih)

/-! ## Lists -/

/-- A list is read from an array if its elements are read from those of the array. -/
theorem reads_list {item : Reader α} {vs : List Value} {as : List α}
    (h : List.Forall₂ (Reads item) vs as) : Reads (readList item) (.array vs) as := by
  have htakes : List.Forall₂ (Takes item) (vs.map Value.tokens) as :=
    List.forall₂_map_left_iff.mpr h
  have hrows : ∀ row ∈ vs.map Value.tokens, IsValue row :=
    List.forall_mem_map.mpr fun v _ => isValue_tokens v
  rw [Reads, tokens_array_eq]
  exact takes_list hrows htakes

/-- A value encodes a list: it is an array whose elements encode those of the list, in order. -/
def EncodedList (Encoded : α → Value → Prop) (as : List α) (v : Value) : Prop :=
  ∃ vs, v = .array vs ∧ List.Forall₂ Encoded as vs

theorem EncodedList.map {Encoded : α → Value → Prop} {write : α → Value}
    (hwrite : ∀ a, Encoded a (write a)) (as : List α) :
    EncodedList Encoded as (.array (as.map write)) := by
  refine ⟨_, rfl, ?_⟩
  rw [List.forall₂_map_right_iff, List.forall₂_same]
  exact fun a _ => hwrite a

/-- A list is read from all its encodings if its elements are read from all theirs. -/
theorem EncodedList.reads {Encoded : α → Value → Prop} {item : Reader α} {as : List α} {v : Value}
    (hv : EncodedList Encoded as v) (hitem : ∀ a ∈ as, ∀ v, Encoded a v → Reads item v a) :
    Reads (readList item) v as := by
  obtain ⟨vs, rfl, hvs⟩ := hv
  apply reads_list
  induction hvs with
  | nil => exact .nil
  | cons ha _ ih =>
    obtain ⟨hfirst, hothers⟩ := List.forall_mem_cons.mp hitem
    exact .cons (hfirst _ ha) (ih hothers)

/-! ## Records -/

/-- A member that a record is encoded with. -/
structure Member where
  name : String
  /-- Whether the member may be left out. -/
  Optional : Prop
  /-- The values that encode the member. -/
  Encoded : Value → Prop

/-- A value encodes a record: it is an object of members in any order, none of them twice, and those
that it leaves out are optional. -/
def EncodedRecord (members : List Member) (v : Value) : Prop :=
  ∃ entries, v = .object entries ∧ (entries.map Prod.fst).Nodup ∧
    (∀ entry ∈ entries, ∃ member ∈ members, member.name = entry.1 ∧ member.Encoded entry.2) ∧
    ∀ member ∈ members, member.name ∈ entries.map Prod.fst ∨ member.Optional

/-- An object with all members, in order, encodes the record. -/
theorem EncodedRecord.of_all {members : List Member} {entries : List (String × Value)}
    (hnodup : (members.map Member.name).Nodup)
    (h : List.Forall₂ (fun member entry => member.name = entry.1 ∧ member.Encoded entry.2)
      members entries) : EncodedRecord members (.object entries) := by
  have hnames : members.map Member.name = entries.map Prod.fst := by
    rw [← List.forall₂_eq_eq_eq, List.forall₂_map_left_iff, List.forall₂_map_right_iff]
    exact h.imp fun _ _ hentry => hentry.1
  refine ⟨entries, rfl, hnames ▸ hnodup, ?_, ?_⟩
  · intro entry hmem
    clear hnodup hnames
    induction h with
    | nil => contradiction
    | @cons member first members entries hfirst _ ih =>
      cases hmem with
      | head => exact ⟨member, List.mem_cons_self, hfirst⟩
      | tail _ hmem =>
        obtain ⟨other, hother, hentry⟩ := ih hmem
        exact ⟨other, List.mem_cons_of_mem _ hother, hentry⟩
  · intro member hmember
    exact .inl (hnames ▸ List.mem_map_of_mem hmember)

/-- A field reads a member: from every draft that lacks the member it gives the one that has it.
The draft depends only on the names of the members that have been read. -/
structure FieldReads (draft : List String → δ) (f : RecordField δ) (member : Member) : Prop where
  name : f.name = member.name
  unset : ∀ names, member.name ∉ names → f.isSet (draft names) = false
  read : ∀ names v, member.Encoded v → ∀ rest,
    f.read (draft names) (v.tokens ++ rest) = .ok (draft (member.name :: names), rest)

/-- A record reads its members, and is complete once those have been read that are not optional. -/
structure RecordReads (r : Record δ α) (draft : List String → δ) (members : List Member) (a : α) :
    Prop where
  start : draft [] = r.start
  nodup : (members.map Member.name).Nodup
  fields : List.Forall₂ (FieldReads draft) r.fields members
  finish : ∀ names, (∀ member ∈ members, member.name ∈ names ∨ member.Optional) →
    r.finish (draft names) = .ok a

/-- The field of a member is found by its name. -/
theorem find?_of_fieldReads {draft : List String → δ} {fields : List (RecordField δ)}
    {members : List Member} (hfields : List.Forall₂ (FieldReads draft) fields members)
    (hnodup : (members.map Member.name).Nodup) {member : Member} (hmember : member ∈ members) :
    ∃ f, (fields.find? fun f => f.name = member.name) = some f ∧ FieldReads draft f member := by
  induction hfields with
  | nil => contradiction
  | @cons f other fields members hf _ ih =>
    obtain ⟨hfresh, hrest⟩ := List.nodup_cons.mp hnodup
    cases hmember with
    | head => exact ⟨f, List.find?_cons_of_pos (by simp [hf.name]), hf⟩
    | tail _ hmember =>
      have hother : f.name ≠ member.name := by
        rw [hf.name]
        intro hsame
        exact hfresh (hsame ▸ List.mem_map_of_mem hmember)
      obtain ⟨g, hfound, hg⟩ := ih hrest hmember
      exact ⟨g, by rwa [List.find?_cons_of_neg (by simp [hother])], hg⟩

namespace RecordReads

variable {r : Record δ α} {draft : List String → δ} {members : List Member} {a : α}

/-- A member that has not been read is taken. -/
theorem takes_member (h : RecordReads r draft members a) {entry : String × Value}
    (hentry : ∃ member ∈ members, member.name = entry.1 ∧ member.Encoded entry.2)
    {names : List String} (hfresh : entry.1 ∉ names) :
    Takes (r.member (draft names) entry.1) entry.2.tokens (draft (entry.1 :: names)) := by
  obtain ⟨member, hmember, hname, hencoded⟩ := hentry
  obtain ⟨f, hfound, hf⟩ := find?_of_fieldReads h.fields h.nodup hmember
  rw [← hname] at hfresh ⊢
  intro rest
  rw [Record.member_field hfound, hf.unset names hfresh, if_neg (by decide),
    hf.read names _ hencoded]

theorem collects (h : RecordReads r draft members a) {entries : List (String × Value)}
    (hentries : ∀ entry ∈ entries, ∃ member ∈ members,
      member.name = entry.1 ∧ member.Encoded entry.2)
    (hnodup : (entries.map Prod.fst).Nodup) {names : List String}
    (hfresh : ∀ entry ∈ entries, entry.1 ∉ names) :
    r.Collects (draft names) (entries.map memberEntry)
      (draft ((entries.map Prod.fst).reverse ++ names)) := by
  -- The names that have been read grow with every member.
  induction entries generalizing names with
  | nil => exact .nil _
  | cons entry entries ih =>
    obtain ⟨hentry, hentries⟩ := List.forall_mem_cons.mp hentries
    obtain ⟨hother, hnodup⟩ := List.nodup_cons.mp hnodup
    obtain ⟨hname, hfresh⟩ := List.forall_mem_cons.mp hfresh
    have hothers : ∀ other ∈ entries, other.1 ∉ entry.1 :: names := by
      intro other hmem
      refine List.not_mem_cons_of_ne_of_not_mem ?_ (hfresh other hmem)
      intro hsame
      exact hother (hsame ▸ List.mem_map_of_mem hmem)
    have hrest := ih hentries hnodup hothers
    rw [List.map_cons, List.map_cons, List.reverse_cons, List.append_assoc, List.singleton_append]
    exact .cons (h.takes_member hentry hname) hrest

/-- A record is read from all its encodings. -/
theorem reads (h : RecordReads r draft members a) {v : Value} (hv : EncodedRecord members v) :
    Reads r.read v a := by
  obtain ⟨entries, rfl, hnodup, hentries, hpresent⟩ := hv
  have hcollects := h.collects hentries hnodup fun _ _ => List.not_mem_nil
  have hfinish : r.finish (draft ((entries.map Prod.fst).reverse ++ [])) = .ok a := by
    apply h.finish
    intro member hmember
    rw [List.append_nil, List.mem_reverse]
    exact hpresent member hmember
  rw [h.start] at hcollects
  rw [Reads, tokens_object_eq]
  exact Record.takes_object hcollects hfinish

end RecordReads

/-! ## Texts -/

/-- What a reader takes from the tokens of a value it takes from every text of the value. -/
theorem Reads.readText {reader : Reader α} {v : Value} {a : α} (h : Reads reader v a)
    {text : String} (htext : Written v.tokens text.toList) : Json.readText reader text = .ok a := by
  have hread := h []
  rw [List.append_nil, ← scan_tokens htext] at hread
  rw [Json.readText, hread]
  rfl

end DeviceSlots.Json
