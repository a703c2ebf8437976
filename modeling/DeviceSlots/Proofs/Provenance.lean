import DeviceSlots.Proofs.Host.Transition
import DeviceSlots.Proofs.Json.Scan
import DeviceSlots.Provenance

/-!
# What a fingerprint tells

The text behind a layout fingerprint holds all of a model: the configuration and the registries can
be told from it, and so can everything that is generated from them.
-/

namespace DeviceSlots

open Json (Value scan)

/-! ## Values of models -/

theorem Seatbelts.key_inj {s t : Seatbelts} (h : s.key = t.key) : s = t := by
  have hs := ofKey?_key s
  rw [h, ofKey?_key] at hs
  exact (Option.some.inj hs).symm

theorem Config.toJson_inj {c d : Config} (h : c.toJson = d.toJson) : c = d := by
  obtain ⟨capacity, seatbelts, vectorTypes, symbolName, faultMacro⟩ := c
  obtain ⟨capacity', seatbelts', vectorTypes', symbolName', faultMacro'⟩ := d
  simp only [toJson, Value.object.injEq, List.cons.injEq, Prod.mk.injEq, Value.number.injEq,
    Value.string.injEq, Value.bool.injEq, true_and, and_true] at h
  obtain ⟨rfl, hkey, rfl, rfl, rfl⟩ := h
  rw [Seatbelts.key_inj hkey]

theorem Variable.toJson_inj {v w : Variable} (h : v.toJson = w.toJson) :
    v.eraseSlot = w.eraseSlot := by
  simp only [toJson, Value.object.injEq, List.cons.injEq, Prod.mk.injEq, Value.number.injEq,
    Value.string.injEq, Value.bool.injEq, true_and, and_true] at h
  obtain ⟨htype, hsize, helements, hread, hwrite⟩ := h
  simp only [eraseSlot, htype, hsize, helements, hread, hwrite]

theorem Property.toJson_inj {p q : Property} (h : p.toJson = q.toJson) : p = q := by
  obtain ⟨typeName, typeSize, elements, offset⟩ := p
  obtain ⟨typeName', typeSize', elements', offset'⟩ := q
  simp only [toJson, Value.object.injEq, List.cons.injEq, Prod.mk.injEq, Value.number.injEq,
    Value.string.injEq, true_and, and_true] at h
  obtain ⟨rfl, rfl, rfl, rfl⟩ := h
  rfl

/-- Maps with the same JSON have the same names, with values that no entry tells apart. -/
theorem NameMap.toJson_inj {α β : Type} {entry : α → Value} {f : α → β}
    (hentry : ∀ {a b}, entry a = entry b → f a = f b) {m m' : NameMap α}
    (h : m.toJson entry = m'.toJson entry) : m.map f = m'.map f := by
  have hlists : ∀ list list' : List (String × α),
      list.map (fun x => (x.1, entry x.2)) = list'.map (fun x => (x.1, entry x.2)) →
      list.map (fun x => (x.1, f x.2)) = list'.map (fun x => (x.1, f x.2)) := by
    intro list
    induction list with
    | nil =>
      intro list' hsame
      rw [List.map_nil, eq_comm, List.map_eq_nil_iff] at hsame
      rw [hsame]
    | cons x rest ih =>
      intro list' hsame
      cases list' with
      | nil => contradiction
      | cons y rest' =>
        obtain ⟨hhead, htail⟩ := List.cons.inj hsame
        obtain ⟨hname, hvalue⟩ := Prod.mk.inj hhead
        rw [List.map_cons, List.map_cons, hname, hentry hvalue, ih rest' htail]
  exact ext_toList (hlists m.toList m'.toList (Value.object.inj h))

theorem Registries.toJson_inj {r r' : Registries} (h : r.toJson = r'.toJson) :
    r.eraseSlots = r'.eraseSlots := by
  have hmembers := Value.object.inj h
  simp only [Kind.all, List.map_cons, List.map_nil, List.cons_append, List.nil_append,
    List.cons.injEq, Prod.mk.injEq, true_and, and_true] at hmembers
  obtain ⟨hagent, hin, hout, hnew, henvironment⟩ := hmembers
  have htables : r.eraseSlots.tables = r'.eraseSlots.tables := by
    apply ByKind.ext_get
    intro kind
    rw [get_tables_eraseSlots, get_tables_eraseSlots]
    apply NameMap.toJson_inj Variable.toJson_inj
    cases kind with
    | agent => exact hagent
    | messageIn => exact hin
    | messageOut => exact hout
    | newAgent => exact hnew
  have hsame : r.environment.map id = r'.environment.map id :=
    NameMap.toJson_inj Property.toJson_inj henvironment
  rw [NameMap.map_eq_self id _ fun _ _ _ => rfl, NameMap.map_eq_self id _ fun _ _ _ => rfl] at hsame
  calc r.eraseSlots = ⟨r.eraseSlots.tables, r.environment⟩ := rfl
    _ = ⟨r'.eraseSlots.tables, r'.environment⟩ := by rw [htables, hsame]
    _ = r'.eraseSlots := rfl

/-! ## The text of a fingerprint -/

namespace Provenance

/-- The text of a fingerprint has the tokens of the registries and those of the configuration. -/
theorem scan_layoutText (host : Host) :
    scan (layoutText host).toList = host.registries.toJson.tokens ++ host.config.toJson.tokens := by
  have htext : (layoutText host).toList = host.registries.toJson.compact.toList ++
      '\n' :: (host.config.toJson.compact.toList ++ []) := by
    simp [layoutText, Registries.canonicalJson]
  have hline : Json.Stops ('\n' :: (host.config.toJson.compact.toList ++ [])) := by
    intro c hc
    cases hc
    decide
  have hend : Json.Stops [] := by simp [Json.Stops]
  rw [htext, Json.scan_compact _ hline, Json.scan_space rfl, Json.scan_compact _ hend, Json.scan,
    List.append_nil]

/-- The text of a fingerprint identifies the configuration and what is registered, whatever calls led
to the hosts; so it identifies layouts and headers. -/
theorem layoutText_identifies {host other : Host} (hhost : host.Reachable) (hother : other.Reachable)
    (h : (layoutText host).toUTF8 = (layoutText other).toUTF8) :
    host.config = other.config ∧ host.registries.eraseSlots = other.registries.eraseSlots ∧
      (∀ layout layout', host.layout = some layout → other.layout = some layout' →
        layout = layout') ∧
      ∀ header header', host.header = some header → other.header = some header' →
        header.toUTF8 = header'.toUTF8 := by
  have htokens := congrArg (fun text => scan text.toList) (String.toByteArray_inj.mp h)
  simp only [scan_layoutText] at htokens
  obtain ⟨hregistries, hrest⟩ := Value.tokens_append_inj _ _ _ _ htokens
  have hconfig : host.config = other.config := by
    rw [← List.append_nil host.config.toJson.tokens,
      ← List.append_nil other.config.toJson.tokens] at hrest
    exact Config.toJson_inj (Value.tokens_append_inj _ _ _ _ hrest).1
  have hmodel := Registries.toJson_inj hregistries
  have henvironment := congrArg Registries.environment hmodel
  rw [Registries.environment_eraseSlots, Registries.environment_eraseSlots] at henvironment
  have hlayouts : ∀ layout layout', host.layout = some layout → other.layout = some layout' →
      layout = layout' := by
    intro layout layout' hlayout hlayout'
    have hcompute := hhost.coherent.layout layout hlayout
    rw [hconfig, hmodel, hother.coherent.layout layout' hlayout'] at hcompute
    exact (Except.ok.inj hcompute).symm
  refine ⟨hconfig, hmodel, hlayouts, ?_⟩
  intro header header' hheader hheader'
  obtain ⟨layout, hlayout, rfl⟩ := hhost.coherent.header header hheader
  obtain ⟨layout', hlayout', rfl⟩ := hother.coherent.header header' hheader'
  rw [hconfig, henvironment, hlayouts layout layout' hlayout hlayout']

/-- A host with variables that were registered in order. -/
def registered (names : List String) : Host :=
  names.foldl (fun host name =>
    host.after (.registerVariable .agent { name, typeName := "float", typeSize := 4 }))
    { config := {} }

theorem reachable_registered (names : List String) : (registered names).Reachable := by
  have hall : ∀ host : Host, host.Reachable → (names.foldl (fun host name =>
      host.after (.registerVariable .agent { name, typeName := "float", typeSize := 4 }))
      host).Reachable := by
    induction names with
    | nil =>
      intro host h
      exact h
    | cons name rest ih =>
      intro host h
      exact ih _ (.after h _)
  exact hall _ (@Host.Reachable.created {} _ rfl)

/-- The order of registration does not matter, nor does the stage. -/
theorem layoutText_identifies_any_order :
    let host := (registered ["x", "y"]).after .dynamicHeader
    let other := (registered ["y", "x"]).after .generateHeader
    host.config = other.config ∧ host.registries.eraseSlots = other.registries.eraseSlots ∧
      (∀ layout layout', host.layout = some layout → other.layout = some layout' →
        layout = layout') ∧
      ∀ header header', host.header = some header → other.header = some header' →
        header.toUTF8 = header'.toUTF8 :=
  layoutText_identifies (.after (reachable_registered _) _) (.after (reachable_registered _) _) rfl

end Provenance

end DeviceSlots
