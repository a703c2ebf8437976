import DeviceSlots.Proofs.Json.Grammar
import DeviceSlots.Proofs.Json.Members

/-!
# Changing texts

What becomes of a text that is read if a part of it changes: an element of an array, the value of a
member, or the members of an object, of which there may be one more.
-/

namespace DeviceSlots.Json

variable {α δ : Type}

/-! ## Changes -/

/-- A text changes, and the blanks around it stay. -/
inductive Around (Change : List Char → List Char → Prop) : List Char → List Char → Prop
  | mk {before text text' after : List Char} (hbefore : Blank before) (h : Change text text')
      (hafter : Blank after) :
      Around Change (before ++ (text ++ after)) (before ++ (text' ++ after))

theorem Around.of_change {Change : List Char → List Char → Prop} {text text' : List Char}
    (h : Change text text') : Around Change text text' := by
  simpa using Around.mk blank_nil h blank_nil

/-- An element of an array changes. -/
inductive InElement (Change : List Char → List Char → Prop) : List Char → List Char → Prop
  | mk {left right : List (List Char)} {item item' : List Char}
      (hothers : ∀ other ∈ left ++ right, ValueText other) (h : Change item item') :
      InElement Change (arrayText [] (left ++ item :: right)) (arrayText [] (left ++ item' :: right))

/-- In an object, the value of a member of the given name changes. -/
inductive InMember (name : String) (Change : List Char → List Char → Prop) :
    List Char → List Char → Prop
  | mk {left right : List (List Char × List Char)} {key value value' : List Char}
      (hothers : ∀ other ∈ left ++ right, IsMember other)
      (hkey : KeyText (SpellsAll name.toList) key) (h : Change value value') :
      InMember name Change (objectText [] (left ++ (key, value) :: right))
        (objectText [] (left ++ (key, value') :: right))

/-- An object gets a further member anywhere, whose name is none of those given. -/
inductive MemberAdded (names : List String) (name : String) : List Char → List Char → Prop
  | mk {gap : List Char} {left right : List (List Char × List Char)} {key value : List Char}
      (hname : name ∉ names) (hgap : Blank gap) (hothers : ∀ other ∈ left ++ right, IsMember other)
      (hkey : KeyText (SpellsAll name.toList) key) (hvalue : ValueText value) :
      MemberAdded names name (objectText gap (left ++ right))
        (objectText gap (left ++ (key, value) :: right))

/-! ## Rows -/

/-- Two texts are those of values, and the rows of their tokens are related. -/
def Lifted (Related : List Token → List Token → Prop) (text text' : List Char) : Prop :=
  ∃ row row', Denotes text row ∧ Denotes text' row' ∧ Related row row'

theorem Around.lifted {Change : List Char → List Char → Prop}
    {Related : List Token → List Token → Prop}
    (hchange : ∀ {text text'}, Change text text' → Lifted Related text text')
    {text text' : List Char} (h : Around Change text text') : Lifted Related text text' := by
  obtain ⟨hbefore, h, hafter⟩ := h
  obtain ⟨row, row', hrow, hrow', hrelated⟩ := hchange h
  exact ⟨row, row', hrow.blanks hbefore hafter, hrow'.blanks hbefore hafter, hrelated⟩

/-- The rows at the sides of a place. -/
theorem exists_sides {β γ : Type} {R : β → γ → Prop} {left right : List β}
    (h : ∀ b ∈ left ++ right, ∃ c, R b c) :
    ∃ left' right', List.Forall₂ R left left' ∧ List.Forall₂ R right right' := by
  obtain ⟨hleft, hright⟩ := List.forall_mem_append.mp h
  obtain ⟨left', hleft⟩ := exists_forall₂ hleft
  obtain ⟨right', hright⟩ := exists_forall₂ hright
  exact ⟨left', right', hleft, hright⟩

/-- Texts of values denote rows that are values. -/
theorem values_of_denotes {texts : List (List Char)} {rows : List (List Token)}
    (h : List.Forall₂ Denotes texts rows) : ∀ row ∈ rows, IsValue row :=
  forall_mem_of_forall₂ h fun _ _ hrow => hrow.value

theorem values_of_memberDenotes {members : List (List Char × List Char)}
    {entries : List (Option String × List Token)} (h : List.Forall₂ MemberDenotes members entries) :
    ∀ entry ∈ entries, IsValue entry.2 :=
  forall_mem_of_forall₂ h fun _ _ hentry => hentry.value.value

/-- A list is read as before if the element that changes is. -/
theorem InElement.lifted {Change : List Char → List Char → Prop} {item : Reader α}
    (hitem : Exact item)
    (hchange : ∀ {text text'}, Change text text' → Lifted (Keeps item) text text')
    {text text' : List Char} (h : InElement Change text text') :
    Lifted (Keeps (readList item)) text text' := by
  obtain ⟨hothers, h⟩ := h
  obtain ⟨row, row', hrow, hrow', hkeeps⟩ := hchange h
  obtain ⟨left, right, hleft, hright⟩ := exists_sides fun other hmem => (hothers other hmem).denotes
  have hrows := List.rel_append hleft (.cons hrow hright)
  have hrows' := List.rel_append hleft (.cons hrow' hright)
  refine ⟨_, _, .array blank_nil hrows, .array blank_nil hrows', ?_⟩
  apply keeps_list hitem (values_of_denotes hrows) (values_of_denotes hrows')
  have hsame : ∀ rows, List.Forall₂ (Keeps item) rows rows :=
    fun rows => List.forall₂_same.mpr fun row _ => .refl item row
  exact List.rel_append (hsame left) (.cons hkeeps (hsame right))

section Objects

variable {r : Record δ α} {name : String} {text text' : List Char}

theorem exists_entries_of_isMember {left right : List (List Char × List Char)}
    (h : ∀ other ∈ left ++ right, IsMember other) :
    ∃ left' right', List.Forall₂ MemberDenotes left left' ∧
      List.Forall₂ MemberDenotes right right' := by
  obtain ⟨hleft, hright⟩ := List.forall_mem_append.mp h
  obtain ⟨left', hleft⟩ := exists_entries (fun other hmem => (hleft other hmem).1)
    fun other hmem => (hleft other hmem).2.denotes
  obtain ⟨right', hright⟩ := exists_entries (fun other hmem => (hright other hmem).1)
    fun other hmem => (hright other hmem).2.denotes
  exact ⟨left', right', hleft, hright⟩

theorem memberDenotes_of_key {key value : List Char} {row : List Token}
    (hkey : KeyText (SpellsAll name.toList) key) (hvalue : Denotes value row) :
    MemberDenotes (key, value) (some name, row) :=
  ⟨scan_spelledKey hkey, hvalue⟩

/-- A record is read as before if the value of a member that changes is read as before by its
field. -/
theorem InMember.lifted {Change : List Char → List Char → Prop} (hfields : r.FieldsExact)
    {f : RecordField δ} (hfield : (r.fields.find? fun f => f.name = name) = some f)
    {β : Type} {reader : Reader β}
    (hread : ∀ {row row'}, IsValue row → Keeps reader row row' →
      ∀ draft, Keeps (f.read draft) row row')
    (hchange : ∀ {text text'}, Change text text' → Lifted (Keeps reader) text text')
    (h : InMember name Change text text') : Lifted (Keeps r.read) text text' := by
  obtain ⟨hothers, hkey, h⟩ := h
  obtain ⟨row, row', hrow, hrow', hkeeps⟩ := hchange h
  obtain ⟨left, right, hleft, hright⟩ := exists_entries_of_isMember hothers
  have hentries := List.rel_append hleft (.cons (memberDenotes_of_key hkey hrow) hright)
  have hentries' := List.rel_append hleft (.cons (memberDenotes_of_key hkey hrow') hright)
  refine ⟨_, _, .object blank_nil hentries, .object blank_nil hentries', ?_⟩
  exact Record.keeps_member hfields hfield (values_of_memberDenotes hentries)
    (hread hrow.value hkeeps)

/-- A further member that is no field is an entry of its own anywhere in the object. -/
theorem MemberAdded.exists_entries (h : MemberAdded r.fieldNames name text text') :
    ∃ left right row, Denotes text (objectRow (left ++ right)) ∧
      Denotes text' (objectRow (left ++ (some name, row) :: right)) ∧ name ∉ r.fieldNames ∧
      (∀ entry ∈ left ++ right, IsValue entry.2) ∧ IsValue row := by
  obtain ⟨hname, hgap, hothers, hkey, hvalue⟩ := h
  obtain ⟨row, hrow⟩ := hvalue.denotes
  obtain ⟨left, right, hleft, hright⟩ := exists_entries_of_isMember hothers
  have hentries := List.rel_append hleft hright
  have hentries' := List.rel_append hleft (.cons (memberDenotes_of_key hkey hrow) hright)
  exact ⟨left, right, row, .object hgap hentries, .object hgap hentries', hname,
    values_of_memberDenotes hentries, hrow.value⟩

/-- A record that is not strict is read as before with a further member that is no field. -/
theorem MemberAdded.lifted (hfields : r.FieldsExact) (hstrict : r.strict = false)
    (h : MemberAdded r.fieldNames name text text') : Lifted (Keeps r.read) text text' := by
  obtain ⟨left, right, row, hobject, hobject', hname, hvalues, hrow⟩ := h.exists_entries
  exact ⟨_, _, hobject, hobject', Record.keeps_foreign hfields hname hstrict hvalues hrow⟩

/-- What is read is refused with a member of the given name. -/
def Refuses (r : Record δ α) (name : String) (row row' : List Token) : Prop :=
  ∀ a, Takes r.read row a → ∀ rest,
    r.read (row' ++ rest) = .error (.mismatch (.unknownField name r.fieldNames))

/-- A strict record is refused with a further member that is no field. -/
theorem MemberAdded.refused (hfields : r.FieldsExact) (hstrict : r.strict = true)
    (h : MemberAdded r.fieldNames name text text') : Lifted (Refuses r name) text text' := by
  obtain ⟨left, right, row, hobject, hobject', hname, hvalues, -⟩ := h.exists_entries
  refine ⟨_, _, hobject, hobject', ?_⟩
  exact fun _ htakes => Record.read_foreign hfields hname hstrict hvalues htakes row

end Objects

/-! ## Reading -/

theorem Denotes.scan_eq {text : List Char} {row : List Token} (h : Denotes text row) :
    scan text = row := by
  have hend : Stops [] := by simp [Stops]
  have hscan := h.scans [] hend
  rwa [List.append_nil, scan, List.append_nil] at hscan

/-- What is read from a text is taken from its row. -/
theorem takes_of_readText {reader : Reader α} (hreader : Exact reader) {text : String}
    {row : List Token} (hrow : Denotes text.toList row) {a : α}
    (h : readText reader text = .ok a) : Takes reader row a := by
  rw [readText, hrow.scan_eq, bind_eq_ok_iff] at h
  obtain ⟨⟨b, rest⟩, hread, h⟩ := h
  rw [← List.append_nil row] at hread
  obtain ⟨rfl, htakes⟩ := hreader.takes hrow.value hread
  cases h
  exact htakes

theorem readText_of_lifted {reader : Reader α} (hreader : Exact reader) {text text' : String}
    (h : Lifted (Keeps reader) text.toList text'.toList) {a : α}
    (hread : readText reader text = .ok a) : readText reader text' = .ok a := by
  obtain ⟨row, row', hrow, hrow', hkeeps⟩ := h
  have htakes := hkeeps a (takes_of_readText hreader hrow hread) []
  rw [List.append_nil, ← hrow'.scan_eq] at htakes
  rw [readText, htakes]
  rfl

theorem readText_of_refuses {r : Record δ α} (hfields : r.FieldsExact) {name : String}
    {text text' : String} (h : Lifted (Refuses r name) text.toList text'.toList) {a : α}
    (hread : readText r.read text = .ok a) :
    readText r.read text' = .error (.mismatch (.unknownField name r.fieldNames)) := by
  obtain ⟨row, row', hrow, hrow', hrefuses⟩ := h
  have hrefused := hrefuses a (takes_of_readText (Record.exact_read hfields) hrow hread) []
  rw [List.append_nil, ← hrow'.scan_eq] at hrefused
  rw [readText, hrefused]
  rfl

end DeviceSlots.Json
