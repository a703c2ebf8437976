import DeviceSlots.Proofs.Accessor.Bodies
import DeviceSlots.Proofs.Accessor.WrittenOffset
import DeviceSlots.Proofs.Header.Assembly
import DeviceSlots.Proofs.Registry.Slots

/-!
# Captured names

The bodies of a header write addresses as the buffer's name and an offset. The name is that of the
buffer unless the signature in front of the body declares the same name for a parameter: then the
parameter captures it, and the address is not one in the buffer.

A configuration is accepted whatever identifier it has for the buffer, so that each name that a
signature declares can be captured. The main statement says in which bodies that happens.
-/

namespace DeviceSlots

open Text

/-! ## Names that a signature declares -/

/-- The words that stand right before a comma, a closing parenthesis or a closing angle bracket, with
what has been read of the first word. -/
def endedWords (word : List Char) : List Char → List String
  | [] => []
  | c :: rest =>
    if c.isAlphanum || c = '_' then endedWords (word ++ [c]) rest
    else if !word.isEmpty && [',', ')', '>'].contains c then
      String.ofList word :: endedWords [] rest
    else endedWords [] rest

/-- The names that a line of a signature declares, for types, values and parameters. In a list of
declarations, a name is the last word of each. -/
def declaredNames (line : String) : List String := endedWords [] line.toList

/-- The word that a text leaves open at its end, after what has been read of the first word. -/
def openWord (word : List Char) : List Char → List Char
  | [] => word
  | c :: rest => if c.isAlphanum || c = '_' then openWord (word ++ [c]) rest else openWord [] rest

theorem endedWords_append (word first rest : List Char) :
    endedWords word (first ++ rest) =
      endedWords word first ++ endedWords (openWord word first) rest := by
  induction first generalizing word with
  | nil => rfl
  | cons c first ih =>
    rw [List.cons_append, endedWords, endedWords, openWord]
    split
    · exact ih _
    · split
      · rw [ih, List.cons_append]
      · exact ih _

/-- An identifier is one word. -/
theorem endedWords_identifier {text : String} (h : isIdentifier text = true) (word : List Char)
    (rest : List Char) :
    endedWords word (text.toList ++ rest) = endedWords (word ++ text.toList) rest := by
  obtain ⟨-, -, -, -, hall⟩ := isIdentifier_chars h
  generalize text.toList = chars at hall
  induction chars generalizing word with
  | nil => rw [List.append_nil, List.nil_append]
  | cons c chars ih =>
    obtain ⟨hc, hchars⟩ := List.forall_mem_cons.mp hall
    rw [List.cons_append, endedWords, if_pos (by simpa using hc), ih _ hchars, List.append_assoc,
      List.singleton_append]

namespace Template

/-- The two lines in front of a fill point: template parameters, and the function with its own. -/
def signatureIn (point : FillPoint) : List Segment → List String
  | [] => []
  | .fixed ls :: rest =>
    if rest.head? = some (.fill point) then ls.drop (ls.length - 2) else signatureIn point rest
  | .fill _ :: rest => signatureIn point rest

/-- The signature whose body a fill point is. -/
def signature (point : FillPoint) : List String := signatureIn point segments

/-- The names that are declared in front of a body. -/
def parameters (point : FillPoint) : List String := (signature point).flatMap declaredNames

end Template

/-- The names of the parameters of an accessor, those of its template first. -/
def FillPoint.parameterNames : FillPoint → List String
  | declaration => []
  | environment .get => ["T", "M", "name"]
  | environment .getArray => ["T", "M", "name", "index"]
  | environment .contains => ["M", "name"]
  | accessor _ access =>
    ["T"] ++ (if access.isArray then ["N"] else []) ++ ["M", "name"] ++
      (if access.isGet then [] else ["value"]) ++ ["index"] ++
        (if access.isArray then ["array_index"] else [])

theorem FillPoint.parameterNames_ne_nil {point : FillPoint} (h : point ≠ .declaration) :
    point.parameterNames ≠ [] := by
  cases point with
  | declaration => contradiction
  | environment access => cases access <;> exact List.cons_ne_nil _ _
  | accessor kind access => exact List.cons_ne_nil _ _

theorem declaredNames_append {first : String} (h : openWord [] first.toList = []) (rest : String) :
    declaredNames (first ++ rest) = declaredNames first ++ declaredNames rest := by
  rw [declaredNames, declaredNames, declaredNames, String.toList_append, endedWords_append, h]

/-- The name of a function is no declared name of its signature, as a list of parameters opens behind
it. -/
theorem declaredNames_function {before function opening : String}
    (hbefore : openWord [] before.toList = []) (hfunction : isIdentifier function = true)
    (hopening : opening.toList.head? = some '(') (hopen : openWord [] opening.toList = [])
    (parameters ending : String) :
    declaredNames (before ++ function ++ opening ++ parameters ++ ending) =
      declaredNames before ++ (declaredNames opening ++ declaredNames (parameters ++ ending)) := by
  obtain ⟨chars, hchars⟩ := List.head?_eq_some_iff.mp hopening
  have hskip : ∀ rest, declaredNames (function ++ (opening ++ rest)) =
      declaredNames (opening ++ rest) := by
    intro rest
    have hword := endedWords_identifier hfunction [] ('(' :: (chars ++ rest.toList))
    rw [declaredNames, declaredNames, String.toList_append, String.toList_append, hchars,
      List.cons_append, hword, List.nil_append]
    simp [endedWords]
  simp only [String.append_assoc]
  rw [declaredNames_append hbefore, hskip, declaredNames_append hopen]

namespace Template

theorem declaredNames_getter {function : String} (h : isIdentifier function = true)
    (parameters : String) :
    declaredNames (getter function parameters) =
      ["name"] ++ declaredNames (parameters ++ ") \x7b") :=
  declaredNames_function (by decide) h (by decide) (by decide) parameters ") \x7b"

theorem declaredNames_setter {function : String} (h : isIdentifier function = true)
    (parameters : String) :
    declaredNames (setter function parameters) =
      ["name", "value"] ++ declaredNames (parameters ++ ") \x7b") :=
  declaredNames_function (by decide) h (by decide) (by decide) parameters ") \x7b"

theorem declaredNames_scalarIndex : declaredNames (scalarIndex ++ ") \x7b") = ["index"] := by
  decide

theorem declaredNames_arrayIndex :
    declaredNames (arrayIndex ++ ") \x7b") = ["index", "array_index"] := by
  decide

theorem declaredNames_scalarParameters : declaredNames scalarParameters = ["T", "M"] := by
  decide

theorem declaredNames_arrayParameters : declaredNames arrayParameters = ["T", "N", "M"] := by
  decide

/-- The signatures of the accessors to variables. -/
theorem signature_accessor {kind : Kind} {access : Access}
    (h : .accessor kind access ∈ points) :
    ∃ function, isIdentifier function = true ∧
      signature (.accessor kind access) =
        [if access.isArray then arrayParameters else scalarParameters,
          (if access.isGet then getter else setter) function
            (if access.isArray then arrayIndex else scalarIndex)] := by
  cases kind <;> cases access <;>
    first
    | exact ⟨_, by decide, rfl⟩
    | exact absurd h (by decide)

/-- What is read off the signatures is what accessors have for parameters. -/
theorem parameters_eq {point : FillPoint} (h : point ∈ points) (hbody : point ≠ .declaration) :
    parameters point = point.parameterNames := by
  cases point with
  | declaration => contradiction
  | environment access => cases access <;> decide +kernel
  | accessor kind access =>
    obtain ⟨function, hfunction, hsignature⟩ := signature_accessor h
    rw [parameters, hsignature, List.flatMap_cons, List.flatMap_cons, List.flatMap_nil,
      List.append_nil]
    cases access <;>
      simp only [Access.isArray, Access.isGet, ↓reduceIte, Bool.false_eq_true,
        declaredNames_getter hfunction, declaredNames_setter hfunction,
        declaredNames_scalarIndex, declaredNames_arrayIndex, declaredNames_scalarParameters,
        declaredNames_arrayParameters] <;>
      rfl

/-- The signature of a fill point ends the fixed lines in front of it. -/
theorem lines_of_signatureIn (fill : FillPoint → List String) {point : FillPoint}
    {segments : List Segment} (h : signatureIn point segments ≠ []) :
    ∃ before after, segments.flatMap (Segment.lines fill) =
      before ++ (signatureIn point segments ++ fill point) ++ after := by
  induction segments with
  | nil => exact absurd rfl h
  | cons segment rest ih =>
    cases segment with
    | fixed ls =>
      rw [signatureIn] at h ⊢
      split at h
      · rename_i hhead
        obtain ⟨later, rfl⟩ := List.head?_eq_some_iff.mp hhead
        refine ⟨ls.take (ls.length - 2), later.flatMap (Segment.lines fill), ?_⟩
        have hsplit := List.take_append_drop (ls.length - 2) ls
        simp only [List.flatMap_cons, Segment.lines, if_pos hhead]
        rw [← List.append_assoc (ls.take _), hsplit, List.append_assoc]
      · rename_i hhead
        obtain ⟨before, after, hlines⟩ := ih h
        refine ⟨ls ++ before, after, ?_⟩
        simp only [List.flatMap_cons, Segment.lines, if_neg hhead, hlines, List.append_assoc]
    | fill other =>
      obtain ⟨before, after, hlines⟩ := ih h
      refine ⟨fill other ++ before, after, ?_⟩
      simp only [signatureIn, List.flatMap_cons, Segment.lines, hlines, List.append_assoc]

end Template

/-! ## Captured addresses -/

namespace Generator

variable (config : Config) (layout : Layout) (environment : NameMap Property)

/-- The body at a fill point. -/
def body? : FillPoint → Option Body
  | .declaration => none
  | .environment access => some (environmentBody config environment access)
  | .accessor kind access => some (variableBody config layout kind access)

/-- A parameter captures the addresses of the body at a fill point: there are some, and the signature
in front of them declares the buffer's name. -/
structure Captured (point : FillPoint) : Prop where
  declared : config.symbolName ∈ Template.parameters point
  written : ∃ body, body? config layout environment point = some body ∧
    ∃ block ∈ body.blocks,
      writtenOffsets config.symbolName body.margin block.name (body.code config) ≠ []

variable {config layout environment}

variable {capacity : Nat} {r : Registries}

/-- A body is legible, and its blocks have different names. -/
theorem legible_of_body (hcompute : Layout.compute capacity r = .ok layout) {point : FillPoint}
    {body : Body} (h : body? config layout environment point = some body) :
    body.Legible ∧ (body.blocks.map (·.name)).Nodup := by
  cases point with
  | declaration => cases h
  | environment access =>
    cases h
    exact ⟨legible_environmentBody config environment access,
      nodup_environmentBody config environment access⟩
  | accessor kind access =>
    cases h
    exact ⟨legible_variableBody config layout kind access,
      nodup_variableBody hcompute config kind access⟩

/-- In a header, each body stands right behind its signature. Where the body has an address, a
parameter captures it if the buffer's name is one of the parameter names of the accessor, and only
then; and each of these names is accepted as the buffer's. -/
theorem captured_iff (hvalid : config.validate = .ok ())
    (hcompute : Layout.compute capacity r = .ok layout) (environment : NameMap Property)
    {point : FillPoint} (hpoint : point ∈ Template.points) (hbody : point ≠ .declaration) :
    (∃ before after, headerLines config layout environment =
        before ++ (Template.signature point ++ lines config layout environment point) ++ after) ∧
      (Captured config layout environment point ↔
        config.symbolName ∈ point.parameterNames ∧
          ∃ body, body? config layout environment point = some body ∧
            ∃ block ∈ body.blocks, block.action.offset?.isSome) ∧
      ∀ name ∈ point.parameterNames, { config with symbolName := name }.validate = .ok () := by
  have hparameters := Template.parameters_eq hpoint hbody
  refine ⟨?_, ?_, ?_⟩
  · apply Template.lines_of_signatureIn
    intro hnone
    rw [Template.parameters, Template.signature, hnone] at hparameters
    exact FillPoint.parameterNames_ne_nil hbody hparameters.symm
  · constructor
    · rintro ⟨hdeclared, body, hsome, block, hblock, hwritten⟩
      obtain ⟨hlegible, hnodup⟩ := legible_of_body hcompute hsome
      rw [Body.writtenOffsets_code hlegible hvalid hnodup hblock] at hwritten
      refine ⟨hparameters ▸ hdeclared, body, hsome, block, hblock, ?_⟩
      cases hoffset : block.action.offset? with
      | none => exact absurd (by rw [hoffset]; rfl) hwritten
      | some offset => rfl
    · rintro ⟨hname, body, hsome, block, hblock, hoffset⟩
      obtain ⟨hlegible, hnodup⟩ := legible_of_body hcompute hsome
      refine ⟨hparameters ▸ hname, body, hsome, block, hblock, ?_⟩
      obtain ⟨offset, hoffset⟩ := Option.isSome_iff_exists.mp hoffset
      rw [Body.writtenOffsets_code hlegible hvalid hnodup hblock, hoffset]
      exact List.cons_ne_nil _ _
  · intro name hname
    have hall : ∀ point ∈ Template.points, ∀ name ∈ point.parameterNames,
        isIdentifier name = true := by decide
    obtain ⟨hcapacity, -, hmacro⟩ := config.validate_eq_ok_iff.mp hvalid
    exact (Config.validate_eq_ok_iff _).mpr ⟨hcapacity, hall point hpoint name hname, hmacro⟩

/-- A configuration in which the buffer is called as accessors call the index of an element. -/
def indexNamed : Config := { environmentCapacity := 64, symbolName := "index" }

/-- A model with one variable. -/
def scalarModel : Registries :=
  .ofVariable .agent "x"
    { typeName := "float", typeSize := 4, elements := 1, read := true, write := true }

/-- Loading the variable, its index captures the address of its slot. -/
theorem captured_iff_index :
    ∃ layout, indexNamed.validate = .ok () ∧ Layout.compute 64 scalarModel = .ok layout ∧
      .accessor .agent .get ∈ Template.points ∧
      Captured indexNamed layout .empty (.accessor .agent .get) := by
  have hvalid : indexNamed.validate = .ok () := by decide
  have hlayout : Layout.compute 64 scalarModel = .ok ⟨_, _⟩ := rfl
  have hpoint : .accessor .agent .get ∈ Template.points := by decide
  obtain ⟨-, hiff, -⟩ := captured_iff hvalid hlayout .empty hpoint (by decide)
  refine ⟨_, hvalid, hlayout, hpoint, hiff.mpr ⟨by decide, _, rfl, ?_⟩⟩
  exact ⟨_, List.mem_cons_self, rfl⟩

/-- The configuration is accepted, and the line that loads the variable takes its address from the
index. -/
theorem index_captured :
    indexNamed.validate = .ok () ∧
      (∃ layout, Layout.compute 64 scalarModel = .ok layout ∧
        indented 12 "return (*static_cast<T**>(static_cast<void*>(index + 64)))[index];" ∈
          lines indexNamed layout .empty (.accessor .agent .get)) ∧
      "index" ∈ Template.parameters (.accessor .agent .get) ∧
      ¬ ∀ config : Config, config.validate = .ok () → ∀ point ∈ Template.points,
        point ≠ .declaration → config.symbolName ∉ Template.parameters point := by
  have hvalid : indexNamed.validate = .ok () := by decide
  have hdeclared : "index" ∈ Template.parameters (.accessor .agent .get) := by decide +kernel
  refine ⟨hvalid, ⟨_, rfl, by decide +kernel⟩, hdeclared, ?_⟩
  intro hall
  exact hall indexNamed hvalid (.accessor .agent .get) (by decide) (by decide) hdeclared

end Generator

end DeviceSlots
