import DeviceSlots.Proofs.Json.Exact

/-!
# Members of records

What is read from an object depends only on what is read from its members. One that is no field may
be put anywhere among them, unless the record is strict: then it is refused.
-/

namespace DeviceSlots.Json

variable {α δ : Type}

/-! ## Members -/

namespace Record

variable (r : Record δ α)

/-- Reads what stands behind a key, after its colon. -/
def member (draft : δ) (key : String) : Reader δ :=
  fun tokens => r.readMember draft key (.colon :: tokens)

/-- The readers of the fields are exact. -/
def FieldsExact : Prop := ∀ f ∈ r.fields, ∀ draft, Exact (f.read draft)

variable {r} {draft : δ} {key : String}

theorem member_field {f : RecordField δ}
    (hfield : (r.fields.find? fun f => f.name = key) = some f) (tokens : List Token) :
    r.member draft key tokens =
      if f.isSet draft then .error (.mismatch (.duplicateField key)) else f.read draft tokens := by
  simp only [member, readMember, hfield]
  split <;> rfl

/-- The fields are found by their names. -/
theorem find?_eq_none_iff :
    (r.fields.find? fun f => f.name = key) = none ↔ key ∉ r.fieldNames := by
  rw [List.find?_eq_none, fieldNames, List.mem_map, not_exists]
  constructor
  · rintro h f ⟨hf, hname⟩
    exact h f hf (decide_eq_true hname)
  · intro h f hf hname
    exact h f ⟨hf, of_decide_eq_true hname⟩

/-- What stands behind a key that is no field is skipped. -/
theorem member_foreign (hkey : key ∉ r.fieldNames) (hstrict : r.strict = false)
    (tokens : List Token) :
    r.member draft key tokens = (skip tokens).map fun (_, rest) => (draft, rest) := by
  simp only [member, readMember, find?_eq_none_iff.mpr hkey, hstrict, Bool.false_eq_true, if_false]
  change (skip tokens >>= _) = _
  cases skip tokens <;> rfl

/-- A strict record refuses every key that is no field, whatever stands behind it. -/
theorem readMember_foreign (hkey : key ∉ r.fieldNames) (hstrict : r.strict = true)
    (rest : List Token) :
    r.readMember draft key rest = .error (.mismatch (.unknownField key r.fieldNames)) := by
  simp only [readMember, find?_eq_none_iff.mpr hkey, hstrict, if_true]
  rfl

/-- A member is read from behind its colon. -/
theorem readMember_eq_ok {tokens rest : List Token} {next : δ}
    (h : r.readMember draft key tokens = .ok (next, rest)) :
    ∃ after, tokens = .colon :: after ∧ r.member draft key after = .ok (next, rest) := by
  have hread := h
  unfold readMember at h
  split at h
  · split at h
    · cases h
    · obtain ⟨⟨_, after⟩, hcolon, -⟩ := bind_eq_ok_iff.mp h
      obtain rfl := expect_eq_ok hcolon
      exact ⟨after, rfl, hread⟩
  · split at h
    · cases h
    · obtain ⟨⟨_, after⟩, hcolon, -⟩ := bind_eq_ok_iff.mp h
      obtain rfl := expect_eq_ok hcolon
      exact ⟨after, rfl, hread⟩

theorem exact_member (hfields : r.FieldsExact) : Exact (r.member draft key) := by
  intro tokens rest next h
  cases hfield : r.fields.find? fun f => f.name = key with
  | some f =>
    rw [member_field hfield] at h
    split at h
    · cases h
    · rename_i hunset
      obtain ⟨row, hrow, rfl, htakes⟩ := hfields f (List.mem_of_find?_eq_some hfield) draft h
      refine ⟨row, hrow, rfl, ?_⟩
      intro rest
      rw [member_field hfield, if_neg hunset, htakes]
  | none =>
    have hkey := find?_eq_none_iff.mp hfield
    cases hstrict : r.strict with
    | true =>
      rw [member, readMember_foreign hkey hstrict] at h
      cases h
    | false =>
      rw [member_foreign hkey hstrict] at h
      cases hskip : skip tokens with
      | error e =>
        rw [hskip] at h
        cases h
      | ok found =>
        rw [hskip] at h
        cases h
        obtain ⟨row, hrow, rfl, htakes⟩ := exact_skip hskip
        refine ⟨row, hrow, rfl, ?_⟩
        intro rest
        rw [member_foreign hkey hstrict, skip_row hrow]
        rfl

/-! ## Objects -/

variable (r) in
/-- The draft from which another one comes by reading members one after the other. -/
inductive Collects : δ → List (Option String × List Token) → δ → Prop
  | nil (draft : δ) : Collects draft [] draft
  | cons {key : String} {row : List Token} {draft next last : δ}
      {entries : List (Option String × List Token)} (hmember : Takes (r.member draft key) row next)
      (h : Collects next entries last) : Collects draft ((some key, row) :: entries) last

theorem readMembers_succ (fuel : Nat) (first : Bool) (draft : δ) {tokens : List Token}
    (h : ∀ rest, tokens ≠ .closeBrace :: rest) :
    r.readMembers (fuel + 1) first draft tokens = (do
      let rest ← separated first tokens
      match rest with
      | .string (some key) :: rest => do
        let (draft, rest) ← r.readMember draft key rest
        r.readMembers fuel false draft rest
      | _ => .error .malformed) := by
  rw [readMembers]
  · cases first <;> rfl
  · exact h

/-- Where a member stands, an object does not end. -/
theorem entry_ne (entry : Option String × List Token) (first : Bool) (ts us : List Token) :
    (if first then [] else [.comma]) ++ (entryRow entry ++ ts) ≠ .closeBrace :: us := by
  cases first <;> exact fun heq => nomatch heq

/-- Reading members goes on with the one that stands first. -/
theorem readMembers_entry (draft : δ) (key : String) (row : List Token) (fuel : Nat) (first : Bool)
    (rest : List Token) :
    r.readMembers (fuel + 1) first draft
        ((if first then [] else [.comma]) ++ (entryRow (some key, row) ++ rest)) = (do
      let (draft, rest) ← r.member draft key (row ++ rest)
      r.readMembers fuel false draft rest) := by
  rw [readMembers_succ fuel first draft fun _ => entry_ne _ first _ _, separated_append]
  rfl

theorem Collects.append {left right : List (Option String × List Token)} {draft mid last : δ}
    (hleft : r.Collects draft left mid) (hright : r.Collects mid right last) :
    r.Collects draft (left ++ right) last := by
  induction hleft with
  | nil => exact hright
  | cons hmember _ ih => exact .cons hmember (ih hright)

theorem Collects.split {left right : List (Option String × List Token)} {draft last : δ}
    (h : r.Collects draft (left ++ right) last) :
    ∃ mid, r.Collects draft left mid ∧ r.Collects mid right last := by
  induction left generalizing draft with
  | nil => exact ⟨draft, .nil draft, h⟩
  | cons entry left ih =>
    cases h with
    | cons hmember h =>
      obtain ⟨mid, hleft, hright⟩ := ih h
      exact ⟨mid, .cons hmember hleft, hright⟩

/-- Members that are taken are read, and reading goes on behind them. -/
theorem Collects.readMembers {entries : List (Option String × List Token)} {draft last : δ}
    (h : r.Collects draft entries last) (fuel : Nat) (first : Bool) (rest : List Token) :
    r.readMembers (entries.length + fuel) first draft
        (listed first (entries.map entryRow) ++ rest) =
      r.readMembers fuel (first && entries.isEmpty) last rest := by
  induction h generalizing first with
  | nil => simp [listed]
  | @cons key row draft next last entries hmember _ ih =>
    rw [List.length_cons, Nat.add_right_comm, List.map_cons, listed, List.append_assoc,
      List.append_assoc, readMembers_entry, hmember]
    simp only [ok_bind, ih, Bool.false_and, List.isEmpty_cons, Bool.and_false]

/-- Members that are read are those of an object, and each of them is taken. -/
theorem readMembers_eq_ok (hfields : r.FieldsExact) {fuel : Nat} {first : Bool} {draft last : δ}
    {tokens rest : List Token} (h : r.readMembers fuel first draft tokens = .ok (last, rest)) :
    ∃ (entries : List (Option String × List Token)) (after : List Token),
      (∀ entry ∈ entries, IsValue entry.2) ∧ rest = .closeBrace :: after ∧
      tokens = listed first (entries.map entryRow) ++ rest ∧ r.Collects draft entries last := by
  induction fuel generalizing first draft tokens with
  | zero =>
    by_cases hclose : ∃ after, tokens = .closeBrace :: after
    · obtain ⟨after, rfl⟩ := hclose
      cases h
      exact ⟨[], after, by simp, rfl, rfl, .nil _⟩
    · rw [Record.readMembers] at h
      · cases h
      · exact not_exists.mp hclose
  | succ fuel ih =>
    by_cases hclose : ∃ after, tokens = .closeBrace :: after
    · obtain ⟨after, rfl⟩ := hclose
      cases h
      exact ⟨[], after, by simp, rfl, rfl, .nil _⟩
    · rw [readMembers_succ fuel first draft (not_exists.mp hclose)] at h
      obtain ⟨front, hfront, h⟩ := bind_eq_ok_iff.mp h
      split at h
      · rename_i key later
        obtain ⟨⟨next, _⟩, hmember, hothers⟩ := bind_eq_ok_iff.mp h
        obtain ⟨behind, rfl, hvalue⟩ := readMember_eq_ok hmember
        obtain ⟨row, hrow, rfl, htakes⟩ := exact_member hfields hvalue
        obtain ⟨entries, after, hentries, rfl, hlater, hcollects⟩ := ih hothers
        refine ⟨(some key, row) :: entries, after, List.forall_mem_cons.mpr ⟨hrow, hentries⟩, rfl, ?_,
          .cons htakes hcollects⟩
        rw [separated_eq_ok hfront, hlater, List.map_cons, listed, List.append_assoc,
          List.append_assoc]
        rfl
      · cases h

theorem read_object (entries : List (Option String × List Token)) (rest : List Token) :
    r.read (objectRow entries ++ rest) = (do
      let (draft, rest) ← r.readMembers
        (listed true (entries.map entryRow) ++ .closeBrace :: rest).length true r.start
        (listed true (entries.map entryRow) ++ .closeBrace :: rest)
      match r.finish draft with
      | .error field => .error (.mismatch (.missingField field))
      | .ok a => do
        let (_, rest) ← expect .closeBrace rest
        return (a, rest)) := by
  rw [objectRow_append]
  rfl

/-- With a closing brace behind them, members take at least a token each. -/
theorem length_entries (entries : List (Option String × List Token)) (rest : List Token) :
    ∃ fuel, (listed true (entries.map entryRow) ++ .closeBrace :: rest).length =
      entries.length + fuel := by
  have hlength := length_le_length_listed true (entries.map entryRow)
  rw [if_pos rfl, List.length_map] at hlength
  apply Nat.exists_eq_add_of_le
  rw [List.length_append, List.length_cons]
  omega

/-- A record is taken from an object if its members are taken and complete it. -/
theorem takes_object {entries : List (Option String × List Token)} {draft : δ} {a : α}
    (h : r.Collects r.start entries draft) (hfinish : r.finish draft = .ok a) :
    Takes r.read (objectRow entries) a := by
  intro rest
  obtain ⟨fuel, hfuel⟩ := length_entries entries rest
  rw [read_object, hfuel, h.readMembers]
  have hend : ∀ first, r.readMembers fuel first draft (.closeBrace :: rest) =
      .ok (draft, .closeBrace :: rest) := by
    intro first
    cases fuel <;> rfl
  simp only [hend, ok_bind, hfinish]
  rfl

/-- A record that is read from an object is taken from it, member by member. -/
theorem read_object_eq_ok (hfields : r.FieldsExact) {tokens rest : List Token} {a : α}
    (h : r.read (.openBrace :: tokens) = .ok (a, rest)) :
    ∃ entries draft, (∀ entry ∈ entries, IsValue entry.2) ∧
      .openBrace :: tokens = objectRow entries ++ rest ∧ r.Collects r.start entries draft ∧
      r.finish draft = .ok a := by
  rw [Record.read] at h
  obtain ⟨⟨draft, _⟩, hmembers, hread⟩ := bind_eq_ok_iff.mp h
  obtain ⟨entries, after, hvalues, rfl, rfl, hcollects⟩ := readMembers_eq_ok hfields hmembers
  cases hfinish : r.finish draft with
  | error field =>
    simp only [hfinish] at hread
    cases hread
  | ok b =>
    simp only [hfinish] at hread
    cases hread
    exact ⟨entries, draft, hvalues, (objectRow_append entries _).symm, hcollects, hfinish⟩

/-- A record is taken from an object if its members are taken and complete it, and only then. -/
theorem takes_object_iff (hfields : r.FieldsExact) {entries : List (Option String × List Token)}
    (hvalues : ∀ entry ∈ entries, IsValue entry.2) {a : α} :
    Takes r.read (objectRow entries) a ↔
      ∃ draft, r.Collects r.start entries draft ∧ r.finish draft = .ok a := by
  constructor
  · intro h
    have hread := h []
    obtain ⟨entries', draft, hvalues', heq, hcollects, hfinish⟩ := read_object_eq_ok hfields hread
    have hrow : objectRow entries = objectRow entries' := List.append_cancel_right heq
    rw [objectRow_inj hvalues hvalues' hrow]
    exact ⟨draft, hcollects, hfinish⟩
  · rintro ⟨draft, hcollects, hfinish⟩
    exact takes_object hcollects hfinish

/-! ## Arrays -/

theorem readElements_cons (f : RecordField δ) (fields : List (RecordField δ)) {count : Nat}
    {first : Bool} (hfirst : first = decide (count = 0)) (draft : δ) {tokens : List Token}
    (h : ∀ rest, tokens ≠ .closeBracket :: rest) :
    readElements (f :: fields) count draft tokens = (do
      let rest ← separated first tokens
      let (draft, rest) ← f.read draft rest
      readElements fields (count + 1) draft rest) := by
  rw [readElements]
  · cases first with
    | true =>
      have hcount := of_decide_eq_true hfirst.symm
      simp only [hcount, if_true]
      rfl
    | false =>
      have hcount := of_decide_eq_false hfirst.symm
      simp only [hcount, if_false]
      rfl
  · exact h

/-- Reading fields goes on with the element that stands first. -/
theorem readElements_row (f : RecordField δ) (fields : List (RecordField δ)) {count : Nat}
    {first : Bool} (hfirst : first = decide (count = 0)) (draft : δ) {row : List Token}
    (h : IsValue row) (rest : List Token) :
    readElements (f :: fields) count draft
        ((if first then [] else [.comma]) ++ (row ++ rest)) = (do
      let (draft, rest) ← f.read draft (row ++ rest)
      readElements fields (count + 1) draft rest) := by
  rw [readElements_cons f fields hfirst draft fun _ => h.element_ne first _ _, separated_append]
  rfl

/-- Fields that are read are those of elements, and from these they are read whatever follows the
array. -/
theorem readElements_eq_ok {fields : List (RecordField δ)}
    (hfields : ∀ f ∈ fields, ∀ draft, Exact (f.read draft)) {count : Nat} {first : Bool}
    (hfirst : first = decide (count = 0)) {tokens rest : List Token} {draft : δ} {found : Nat × δ}
    (h : readElements fields count draft tokens = .ok (found, rest)) :
    ∃ rows, (∀ row ∈ rows, IsValue row) ∧ tokens = listed first rows ++ rest ∧
      ∀ after, readElements fields count draft (listed first rows ++ .closeBracket :: after) =
        .ok (found, .closeBracket :: after) := by
  induction fields generalizing count first draft tokens with
  | nil =>
    cases h
    exact ⟨[], by simp, rfl, fun _ => rfl⟩
  | cons f fields ih =>
    obtain ⟨hf, hothers⟩ := List.forall_mem_cons.mp hfields
    by_cases hclose : ∃ after, tokens = .closeBracket :: after
    · obtain ⟨after, rfl⟩ := hclose
      cases h
      exact ⟨[], by simp, rfl, fun _ => rfl⟩
    · rw [readElements_cons f fields hfirst draft (not_exists.mp hclose)] at h
      obtain ⟨front, hfront, h⟩ := bind_eq_ok_iff.mp h
      obtain ⟨⟨next, _⟩, hnext, hread⟩ := bind_eq_ok_iff.mp h
      obtain ⟨row, hrow, rfl, htakes⟩ := hf draft hnext
      have hcount : false = decide (count + 1 = 0) := rfl
      obtain ⟨rows, hrows, hlater, helements⟩ := ih hothers hcount hread
      refine ⟨row :: rows, List.forall_mem_cons.mpr ⟨hrow, hrows⟩, ?_, ?_⟩
      · rw [separated_eq_ok hfront, hlater, listed, List.append_assoc, List.append_assoc]
      · intro after
        rw [listed, List.append_assoc, List.append_assoc, readElements_row f fields hfirst _ hrow,
          htakes]
        exact helements after

theorem exact_read (hfields : r.FieldsExact) : Exact r.read := by
  intro tokens rest a h
  unfold Record.read at h
  split at h
  · obtain ⟨entries, draft, hvalues, hrow, hcollects, hfinish⟩ := read_object_eq_ok hfields h
    exact ⟨objectRow entries, .object hvalues, hrow, takes_object hcollects hfinish⟩
  · rename_i after
    obtain ⟨⟨⟨count, draft⟩, _⟩, helements, hread⟩ := bind_eq_ok_iff.mp h
    have hfirst : true = decide ((0 : Nat) = 0) := rfl
    obtain ⟨rows, hrows, rfl, hsame⟩ := readElements_eq_ok hfields hfirst helements
    cases hfinish : r.finish draft with
    | error field =>
      simp only [hfinish] at hread
      cases hread
    | ok b =>
      simp only [hfinish] at hread
      obtain ⟨⟨_, _⟩, hclose, hread⟩ := bind_eq_ok_iff.mp hread
      cases hread
      obtain rfl := expect_eq_ok hclose
      refine ⟨arrayRow rows, .array hrows, (arrayRow_append rows _).symm, ?_⟩
      intro rest
      rw [arrayRow_append, Record.read, hsame]
      simp only [ok_bind, hfinish]
      rfl
  · cases h

/-! ## Changing a part -/

variable {left right : List (Option String × List Token)}

/-- A member that is no field may be put anywhere into an object. -/
theorem keeps_foreign (hfields : r.FieldsExact) (hkey : key ∉ r.fieldNames)
    (hstrict : r.strict = false) (hvalues : ∀ entry ∈ left ++ right, IsValue entry.2)
    {row : List Token} (hrow : IsValue row) :
    Keeps r.read (objectRow (left ++ right)) (objectRow (left ++ (some key, row) :: right)) := by
  intro a htakes
  obtain ⟨last, hcollects, hfinish⟩ := (takes_object_iff hfields hvalues).mp htakes
  obtain ⟨draft, hleft, hright⟩ := hcollects.split
  have hforeign : Takes (r.member draft key) row draft := by
    intro rest
    rw [member_foreign hkey hstrict, skip_row hrow]
    rfl
  exact takes_object (hleft.append (.cons hforeign hright)) hfinish

/-- A strict record refuses an object with a member that is no field, once all members in front of
it have been taken. -/
theorem read_foreign (hfields : r.FieldsExact) (hkey : key ∉ r.fieldNames) (hstrict : r.strict = true)
    (hvalues : ∀ entry ∈ left ++ right, IsValue entry.2) {a : α}
    (h : Takes r.read (objectRow (left ++ right)) a) (row rest : List Token) :
    r.read (objectRow (left ++ (some key, row) :: right) ++ rest) =
      .error (.mismatch (.unknownField key r.fieldNames)) := by
  obtain ⟨last, hcollects, -⟩ := (takes_object_iff hfields hvalues).mp h
  obtain ⟨draft, hleft, -⟩ := hcollects.split
  obtain ⟨fuel, hfuel⟩ := length_entries (left ++ (some key, row) :: right) rest
  have hlength : (left ++ (some key, row) :: right).length + fuel =
      left.length + (right.length + fuel + 1) := by
    rw [List.length_append, List.length_cons]
    omega
  rw [read_object, hfuel, hlength, List.map_append, listed_append, List.append_assoc,
    hleft.readMembers, List.isEmpty_map, List.map_cons, listed, List.append_assoc,
    List.append_assoc, readMembers_entry, member, readMember_foreign hkey hstrict]
  rfl

/-- The value of a member may be changed to one that its field takes as before. -/
theorem keeps_member (hfields : r.FieldsExact) {f : RecordField δ}
    (hfield : (r.fields.find? fun f => f.name = key) = some f)
    {row row' : List Token} (hvalues : ∀ entry ∈ left ++ (some key, row) :: right, IsValue entry.2)
    (h : ∀ draft, Keeps (f.read draft) row row') :
    Keeps r.read (objectRow (left ++ (some key, row) :: right))
      (objectRow (left ++ (some key, row') :: right)) := by
  intro a htakes
  obtain ⟨last, hcollects, hfinish⟩ := (takes_object_iff hfields hvalues).mp htakes
  obtain ⟨draft, hleft, hright⟩ := hcollects.split
  cases hright with
  | @cons _ _ _ next _ _ hmember hright =>
    refine takes_object (hleft.append (.cons ?_ hright)) hfinish
    -- The field has not been set, or the member would not have been taken.
    cases hset : f.isSet draft with
    | true =>
      have hmember := hmember []
      rw [member_field hfield, hset, if_pos rfl] at hmember
      cases hmember
    | false =>
      have hsame : ∀ tokens, r.member draft key tokens = f.read draft tokens := by
        intro tokens
        rw [member_field hfield, hset, if_neg (by decide)]
      intro rest
      rw [hsame]
      refine h draft next ?_ rest
      intro rest
      rw [← hsame]
      exact hmember rest

end Record

end DeviceSlots.Json
