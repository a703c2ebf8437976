import DeviceSlots.Proofs.Command.Emission

/-!
# How a command ends

A request whose output goes to the standard output ends in one of three ways. It is refused where its
files give no model from which a host can be built, or not the snapshot that it names; it fails where
the model or the snapshot is at fault; and else it prints what it is asked for. Nothing is printed
before all of it is there.
-/

namespace DeviceSlots.Command

variable {folder : Folder} {options : Options} {m m' : Manifest}
  {snapshot snapshot' : Option (List UInt8)}

/-! ## What the files give -/

/-- The file at a path holds the text of a manifest. -/
def Loads (folder : Folder) (path : String) (m : Manifest) : Prop :=
  ∃ bytes text, folder.read path = .ok bytes ∧
    String.fromUTF8? ⟨bytes.toArray⟩ = some text ∧ Manifest.ofJson text = .ok m

/-- Why a request is refused before anything is generated. -/
inductive Refused (folder : Folder) (options : Options) : Prop
  /-- There is no file to read the manifest from. -/
  | unreadable {e : FileError} (hread : folder.read options.manifest = .error e)
  /-- The file is not UTF-8. -/
  | notText {bytes : List UInt8} (hread : folder.read options.manifest = .ok bytes)
      (htext : String.fromUTF8? ⟨bytes.toArray⟩ = none)
  /-- The text is not that of a manifest. -/
  | malformed {bytes : List UInt8} {text : String} {e : Json.ReadError}
      (hread : folder.read options.manifest = .ok bytes)
      (htext : String.fromUTF8? ⟨bytes.toArray⟩ = some text)
      (hjson : Manifest.ofJson text = .error e)
  /-- No host can be built from the manifest, once the options have been applied to it. -/
  | unbuildable {listed : Manifest} {e : Error} (hloads : Loads folder options.manifest listed)
      (hbuild : (options.override listed).buildHost = .error e)
  /-- A snapshot is named, and there is no file to read it from. -/
  | noSnapshot {path : String} {e : FileError} (hpath : options.snapshot = some path)
      (hread : folder.read path = .error e)

/-- What a request works on: the manifest with the options applied to it, from which a host can be
built, and the bytes of the snapshot if one is named. -/
structure Supplied (folder : Folder) (options : Options) (m : Manifest)
    (snapshot : Option (List UInt8)) : Prop where
  loads : ∃ listed, Loads folder options.manifest listed ∧ m = options.override listed
  builds : ∃ host, m.buildHost = .ok host
  reads : options.snapshot.map folder.read = snapshot.map .ok

theorem Loads.unique {path : String} (h : Loads folder path m) (h' : Loads folder path m') :
    m = m' := by
  obtain ⟨bytes, text, hread, htext, hjson⟩ := h
  obtain ⟨bytes', text', hread', htext', hjson'⟩ := h'
  cases hread.symm.trans hread'
  cases htext.symm.trans htext'
  cases hjson.symm.trans hjson'
  rfl

theorem Supplied.unique (h : Supplied folder options m snapshot)
    (h' : Supplied folder options m' snapshot') : m = m' ∧ snapshot = snapshot' := by
  obtain ⟨listed, hloads, rfl⟩ := h.loads
  obtain ⟨listed', hloads', rfl⟩ := h'.loads
  rw [hloads.unique hloads']
  refine ⟨rfl, Option.map_injective ?_ (h.reads.symm.trans h'.reads)⟩
  exact fun _ _ heq => Except.ok.inj heq

/-- A request that is supplied with all it needs is not refused. -/
theorem Supplied.not_refused (h : Supplied folder options m snapshot) :
    ¬ Refused folder options := by
  obtain ⟨listed, hloads, rfl⟩ := h.loads
  obtain ⟨host, hbuild⟩ := h.builds
  have hreads := h.reads
  intro hrefused
  cases hrefused with
  | unreadable hread =>
    obtain ⟨bytes, text, hread', -⟩ := hloads
    cases hread.symm.trans hread'
  | notText hread htext =>
    obtain ⟨bytes, text, hread', htext', -⟩ := hloads
    cases hread.symm.trans hread'
    cases htext.symm.trans htext'
  | malformed hread htext hjson =>
    obtain ⟨bytes, text, hread', htext', hjson'⟩ := hloads
    cases hread.symm.trans hread'
    cases htext.symm.trans htext'
    cases hjson.symm.trans hjson'
  | unbuildable hloads' hbuild' =>
    cases hloads.unique hloads'
    cases hbuild.symm.trans hbuild'
  | noSnapshot hpath hread =>
    rw [hpath, Option.map_some, hread] at hreads
    cases snapshot <;> cases hreads

/-! ## What is generated -/

/-- A manifest is loaded, or there is none to be loaded. -/
theorem load_cases (folder : Folder) (options : Options) :
    (Refused folder options ∧
        ∃ e, Manifest.load options.manifest (folder.read options.manifest) = .error e) ∨
      ∃ listed, Loads folder options.manifest listed ∧
        Manifest.load options.manifest (folder.read options.manifest) = .ok listed := by
  cases hread : folder.read options.manifest with
  | error e => exact .inl ⟨.unreadable hread, _, rfl⟩
  | ok bytes =>
    simp only [Manifest.load]
    cases htext : String.fromUTF8? ⟨bytes.toArray⟩ with
    | none => exact .inl ⟨.notText hread htext, _, rfl⟩
    | some text =>
      simp only
      cases hjson : Manifest.ofJson text with
      | error e => exact .inl ⟨.malformed hread htext hjson, _, rfl⟩
      | ok listed => exact .inr ⟨listed, ⟨bytes, text, hread, htext, hjson⟩, rfl⟩

/-- A snapshot that is named is read, or there is none to be read. -/
theorem snapshot_cases (folder : Folder) (named : Option String) :
    (∃ path e, named = some path ∧ folder.read path = .error e) ∨
      ∃ snapshot : Option (List UInt8), named.map folder.read = snapshot.map .ok := by
  cases named with
  | none => exact .inr ⟨none, rfl⟩
  | some path =>
    cases hread : folder.read path with
    | error e => exact .inl ⟨path, e, rfl, hread⟩
    | ok bytes => exact .inr ⟨some bytes, by rw [Option.map_some, hread]; rfl⟩

section

variable {contents : Except FileError (List UInt8)} {listed : Manifest}

theorem generate_of_built {host : Host} (hload : Manifest.load options.manifest contents = .ok listed)
    (hbuild : (options.override listed).buildHost = .ok host) (snapshot : Option (List UInt8)) :
    generate options contents (snapshot.map .ok) =
      (Method.result (emit snapshot options.output host)).mapError .generation := by
  cases snapshot <;>
    simp only [generate, hload, hbuild, Except.mapError, bind, Except.bind, Option.map_some,
      Option.map_none, pure, Except.pure]
  all_goals
    cases emit _ options.output host <;> rfl

theorem generate_of_unbuildable {e : Error}
    (hload : Manifest.load options.manifest contents = .ok listed)
    (hbuild : (options.override listed).buildHost = .error e)
    (read : Option (Except FileError (List UInt8))) :
    generate options contents read = .error (.model e) := by
  simp only [generate, hload, hbuild, Except.mapError, bind, Except.bind]

theorem generate_of_noSnapshot {host : Host} {path : String} {e : FileError}
    (hload : Manifest.load options.manifest contents = .ok listed)
    (hbuild : (options.override listed).buildHost = .ok host)
    (hpath : options.snapshot = some path) :
    generate options contents (some (.error e)) = .error (.snapshot path e) := by
  simp only [generate, hload, hbuild, hpath, Except.mapError, bind, Except.bind, Option.getD_some]
  rfl

end

/-- A request is refused, or it is supplied with all it needs and comes down to an output of a
host. -/
theorem generate_cases (folder : Folder) (options : Options) :
    (Refused folder options ∧ ∃ failure,
        generate options (folder.read options.manifest) (options.snapshot.map folder.read) =
          .error failure ∧
        failure.exitCode = 2 ∧ (∀ e, failure ≠ .generation e) ∧
        ∀ e, failure = .model e → e.category ≠ .device) ∨
      ∃ m snapshot host, Supplied folder options m snapshot ∧ m.buildHost = .ok host ∧
        generate options (folder.read options.manifest) (options.snapshot.map folder.read) =
          (Method.result (emit snapshot options.output host)).mapError .generation := by
  obtain ⟨hrefused, e, hload⟩ | ⟨listed, hloads, hload⟩ := load_cases folder options
  · refine .inl ⟨hrefused, .load e, ?_, rfl, nofun, nofun⟩
    rw [generate, hload]
    rfl
  cases hbuild : (options.override listed).buildHost with
  | error e =>
    refine .inl ⟨.unbuildable hloads hbuild, .model e, generate_of_unbuildable hload hbuild _, rfl,
      nofun, ?_⟩
    intro e' he'
    cases he'
    rcases Manifest.objection_buildHost _ e hbuild with h | h <;> rw [h] <;> nofun
  | ok host =>
    obtain ⟨path, e, hpath, hread⟩ | ⟨snapshot, hreads⟩ := snapshot_cases folder options.snapshot
    · refine .inl ⟨.noSnapshot hpath hread, .snapshot path e, ?_, rfl, nofun, nofun⟩
      rw [hpath, Option.map_some, hread]
      exact generate_of_noSnapshot hload hbuild hpath
    · refine .inr ⟨options.override listed, snapshot, host,
        ⟨⟨listed, hloads, rfl⟩, ⟨host, hbuild⟩, hreads⟩, hbuild, ?_⟩
      rw [hreads]
      exact generate_of_built hload hbuild snapshot

/-! ## Outcomes -/

/-- How a request ends whose output goes to the standard output. -/
structure Ends (folder : Folder) (options : Options) (outcome : Outcome) : Prop where
  refused : outcome.exitCode = 2 ↔ Refused folder options
  failed : outcome.exitCode = 1 ↔
    ∃ m snapshot e, Supplied folder options m snapshot ∧ Fails m snapshot options.output e
  succeeded : outcome.exitCode = 0 ↔
    ¬ Refused folder options ∧
      ¬ ∃ m snapshot e, Supplied folder options m snapshot ∧ Fails m snapshot options.output e
  silent : outcome.exitCode ≠ 0 → outcome.printed = []
  /-- A buffer is the image of the environment with zeros after it. -/
  pushed : outcome.exitCode = 0 → options.output = .buffer →
    ∃ m snapshot, Supplied folder options m snapshot ∧
      outcome.printed.length = m.config.environmentCapacity + slotSize * m.variableCount ∧
      outcome.printed = image m.config.environmentCapacity snapshot ++
        List.replicate (slotSize * m.variableCount) 0
  /-- The cause that is reported is one that there is. -/
  cause : ∀ e, outcome.failure = some (.generation e) →
    ∃ m snapshot, Supplied folder options m snapshot ∧ Fails m snapshot options.output e
  /-- The device is never at fault. -/
  device : ∀ e, outcome.failure = some (.model e) ∨ outcome.failure = some (.generation e) →
    e.category ≠ .device

theorem Fails.category_ne {output : Output} {e : Error} (h : Fails m snapshot output e) :
    e.category ≠ .device := by
  cases h <;> nofun

/-- Where the model and the snapshot are sound, there are no others that are not. -/
theorem Supplied.no_fault (h : Supplied folder options m snapshot)
    (hsound : ∀ e, ¬ Fails m snapshot options.output e) :
    ¬ ∃ m snapshot e, Supplied folder options m snapshot ∧ Fails m snapshot options.output e := by
  rintro ⟨m', snapshot', e, h', hfails⟩
  obtain ⟨rfl, rfl⟩ := h.unique h'
  exact hsound e hfails

theorem ends_of_refused (hrefused : Refused folder options) {failure : Failure}
    (hcode : failure.exitCode = 2) (hgeneration : ∀ e, failure ≠ .generation e)
    (hmodel : ∀ e, failure = .model e → e.category ≠ .device) :
    Ends folder options { exitCode := failure.exitCode, failure := some failure, folder } where
  refused := iff_of_true hcode hrefused
  failed := by
    refine iff_of_false (by simp [hcode]) ?_
    rintro ⟨m, snapshot, e, hsupplied, -⟩
    exact hsupplied.not_refused hrefused
  succeeded := iff_of_false (by simp [hcode]) fun h => h.1 hrefused
  silent := fun _ => rfl
  pushed := by simp [hcode]
  cause := fun e he => absurd (Option.some.inj he) (hgeneration e)
  device := by
    rintro e (he | he)
    · exact hmodel e (Option.some.inj he)
    · exact absurd (Option.some.inj he) (hgeneration e)

theorem ends_of_fails (hsupplied : Supplied folder options m snapshot) {e : Error}
    (hfails : Fails m snapshot options.output e) :
    Ends folder options { exitCode := 1, failure := some (.generation e), folder } where
  refused := iff_of_false (by simp) hsupplied.not_refused
  failed := iff_of_true rfl ⟨m, snapshot, e, hsupplied, hfails⟩
  succeeded := iff_of_false (by simp) fun h => h.2 ⟨m, snapshot, e, hsupplied, hfails⟩
  silent := fun _ => rfl
  pushed := by simp
  cause := by
    intro e' he'
    cases he'
    exact ⟨m, snapshot, hsupplied, hfails⟩
  device := by
    rintro e' (he' | he') <;> cases he'
    exact hfails.category_ne

theorem ends_of_output (hsupplied : Supplied folder options m snapshot)
    (hsound : ∀ e, ¬ Fails m snapshot options.output e) {bytes : List UInt8}
    (hbytes : options.output = .buffer → bytes = image m.config.environmentCapacity snapshot ++
      List.replicate (slotSize * m.variableCount) 0) :
    Ends folder options { exitCode := 0, printed := bytes, folder } where
  refused := iff_of_false (by simp) hsupplied.not_refused
  failed := iff_of_false (by simp) (hsupplied.no_fault hsound)
  succeeded := iff_of_true rfl ⟨hsupplied.not_refused, hsupplied.no_fault hsound⟩
  silent := fun h => absurd rfl h
  pushed := by
    intro _ hbuffer
    refine ⟨m, snapshot, hsupplied, ?_, hbytes hbuffer⟩
    have hlong : ∀ given, snapshot = some given → m.config.environmentCapacity ≤ given.length := by
      intro given hgiven
      by_contra hshort
      exact hsound _ (.short hbuffer hgiven (Nat.lt_of_not_le hshort))
    rw [hbytes hbuffer, List.length_append, length_image hlong, List.length_replicate]
  cause := nofun
  device := by rintro e (he | he) <;> cases he

/-- A request for a buffer with an environment region of eight bytes. -/
def bufferOptions : Options where
  manifest := "model.json"
  output := .buffer
  capacity := some 8
  snapshot := some "state.bin"

/-- The arguments that ask for it. -/
def bufferArguments : List String :=
  ["model.json", "--emit=buffer", "--env-capacity", "8", "--env-snapshot", "state.bin"]

/-- A model of one variable. -/
def oneFloat : Manifest where
  agent := [{ name := "x", typeName := "float", typeSize := 4 }]

/-- The text of it. -/
def oneFloatText : String :=
  "\x7b\"agent\":[\x7b\"name\":\"x\",\"type\":\"float\",\"size\":4\x7d]\x7d"

/-- A folder with the text and a snapshot. -/
def oneFloatFolder (state : List UInt8) : Folder where
  files := [(["model.json"], utf8 oneFloatText), (["state.bin"], state)]

theorem supplied_oneFloat (state : List UInt8) :
    Supplied (oneFloatFolder state) bufferOptions (bufferOptions.override oneFloat) (some state) := by
  have hmodel : (oneFloatFolder state).read "model.json" = .ok (utf8 oneFloatText) := by
    have hstart : "model.json".startsWith "/" = false := by decide +kernel
    simp [Folder.read, Folder.resolve, Folder.start, Folder.maxPath, hstart, bind, Except.bind]
    rfl
  have hstate : (oneFloatFolder state).read "state.bin" = .ok state := by
    have hstart : "state.bin".startsWith "/" = false := by decide +kernel
    simp [Folder.read, Folder.resolve, Folder.start, Folder.maxPath, hstart, bind, Except.bind]
    rfl
  have htext : String.fromUTF8? ⟨(utf8 oneFloatText).toArray⟩ = some oneFloatText := by decide +kernel
  have hjson : Manifest.ofJson oneFloatText = .ok oneFloat := by decide +kernel
  refine ⟨⟨oneFloat, ⟨_, _, hmodel, htext, hjson⟩, rfl⟩, ⟨_, rfl⟩, ?_⟩
  exact congrArg some hstate

theorem addressable_oneFloat {state : List UInt8}
    (h : Supplied (oneFloatFolder state) bufferOptions m snapshot) :
    m.config.environmentCapacity + slotSize * m.variableCount < addressLimit := by
  obtain ⟨rfl, -⟩ := h.unique (supplied_oneFloat state)
  decide

end DeviceSlots.Command
