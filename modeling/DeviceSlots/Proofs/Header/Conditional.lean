import DeviceSlots.Proofs.Header.Reading
import DeviceSlots.Proofs.Host.Run
import DeviceSlots.Proofs.Registry.Slots

/-!
# Resolving the groups of checks

A header with both forms of its checks leaves the choice to the compilation. To resolve the choice is
to go through the lines, keep those of the chosen form, and drop those of the other form and the
directives around them. What is left is the header that has only the chosen form, because no line but
the directives of checks can be taken for a directive that matters.
-/

namespace DeviceSlots

/-! ## Directives and groups -/

/-- A line that opens, turns or ends a group of lines. -/
inductive Directive
  /-- The start of a group. Groups of checks are the ones whose condition is that of checks. -/
  | opens (checks : Bool)
  | turns
  | closes
  deriving DecidableEq, Repr

/-- The directive that a line is: after blanks comes its sign, and after blanks again its word. -/
def directive? (line : String) : Option Directive :=
  match line.toList.dropWhile fun c => c = ' ' || c = '\t' with
  | '#' :: rest =>
    match String.ofList ((rest.dropWhile fun c => c = ' ' || c = '\t').takeWhile Char.isAlpha) with
    | "if" | "ifdef" | "ifndef" => some (.opens (line = checksOpen))
    | "else" => some .turns
    | "endif" => some .closes
    | _ => none
  | _ => none

/-- A group that a line lies in: one of checks, with the form that the line belongs to, or another. -/
inductive Group
  | checks (form : Bool)
  | other
  deriving DecidableEq, Repr

/-- Whether a group keeps its lines when checks are resolved to a form. -/
def Group.keeps (choice : Bool) : Group → Bool
  | .checks form => form = choice
  | .other => true

/-- The line, if all the groups around it keep it. -/
def kept (choice : Bool) (groups : List Group) (line : String) : List String :=
  if groups.all (Group.keeps choice) then [line] else []

/-- Resolves one line. Gives the groups around the next line and what is left of this one. -/
def resolveLine (choice : Bool) (groups : List Group) (line : String) :
    List Group × List String :=
  match directive? line, groups with
  | some (.opens true), _ => (.checks true :: groups, [])
  | some .turns, .checks _ :: outer => (.checks false :: outer, [])
  | some .closes, .checks _ :: outer => (outer, [])
  | some (.opens false), _ => (.other :: groups, kept choice groups line)
  | some .closes, .other :: outer => (outer, kept choice groups line)
  | _, _ => (groups, kept choice groups line)

/-- Resolves lines in order, from the given groups on. -/
def resolveLines (choice : Bool) (groups : List Group) : List String → List Group × List String
  | [] => (groups, [])
  | line :: rest =>
    let (groups', first) := resolveLine choice groups line
    let (groups'', others) := resolveLines choice groups' rest
    (groups'', first ++ others)

/-- Resolves all groups of checks of a text. -/
def resolve (choice : Bool) (text : String) : String :=
  Text.unlines (resolveLines choice [] (Text.lines text)).2

open Text

/-! ## Runs -/

variable {choice : Bool} {groups : List Group}

theorem resolveLines_append (first second : List String) :
    resolveLines choice groups (first ++ second) =
      ((resolveLines choice (resolveLines choice groups first).1 second).1,
        (resolveLines choice groups first).2 ++
          (resolveLines choice (resolveLines choice groups first).1 second).2) := by
  induction first generalizing groups with
  | nil => rfl
  | cons line rest ih => simp [resolveLines, ih]

/-- Lines between two states of the groups come out as other lines. -/
theorem resolveLines_append_of {groups' groups'' : List Group} {first second out out' : List String}
    (hfirst : resolveLines choice groups first = (groups', out))
    (hsecond : resolveLines choice groups' second = (groups'', out')) :
    resolveLines choice groups (first ++ second) = (groups'', out ++ out') := by
  rw [resolveLines_append, hfirst, hsecond]

theorem resolveLines_flatMap {α : Type} {f g : α → List String} {list : List α}
    (h : ∀ a ∈ list, resolveLines choice groups (f a) = (groups, g a)) :
    resolveLines choice groups (list.flatMap f) = (groups, list.flatMap g) := by
  induction list with
  | nil => rfl
  | cons a rest ih =>
    exact resolveLines_append_of (h a List.mem_cons_self)
      (ih fun b hb => h b (List.mem_cons_of_mem _ hb))

/-- Lines that are no directives stay as a whole or go as a whole. -/
theorem resolveLines_inert {ls : List String} (h : ∀ line ∈ ls, directive? line = none) :
    resolveLines choice groups ls =
      (groups, if groups.all (Group.keeps choice) then ls else []) := by
  induction ls with
  | nil => simp [resolveLines]
  | cons line rest ih =>
    have hline : resolveLine choice groups line = (groups, kept choice groups line) := by
      simp [resolveLine, h line List.mem_cons_self]
    simp only [resolveLines, hline, ih fun l hl => h l (List.mem_cons_of_mem _ hl)]
    by_cases hkeeps : groups.all (Group.keeps choice) <;> simp [kept, hkeeps]

theorem resolveLines_kept {ls : List String} (hkeeps : groups.all (Group.keeps choice))
    (h : ∀ line ∈ ls, directive? line = none) : resolveLines choice groups ls = (groups, ls) := by
  rw [resolveLines_inert h, if_pos hkeeps]

theorem resolveLines_checksOpen :
    resolveLines choice groups [checksOpen] = (.checks true :: groups, []) := by
  have h : directive? checksOpen = some (.opens true) := by decide
  simp [resolveLines, resolveLine, h]

theorem resolveLines_checksElse (form : Bool) :
    resolveLines choice (.checks form :: groups) [checksElse] = (.checks false :: groups, []) := by
  have h : directive? checksElse = some .turns := by decide
  simp [resolveLines, resolveLine, h]

theorem resolveLines_checksClose (form : Bool) :
    resolveLines choice (.checks form :: groups) [checksClose] = (groups, []) := by
  have h : directive? checksClose = some .closes := by decide
  simp [resolveLines, resolveLine, h]

/-- Resolving a guarded part leaves the form that was chosen. -/
theorem resolveLines_guarded {checked unchecked : List String}
    (hchecked : ∀ line ∈ checked, directive? line = none)
    (hunchecked : ∀ line ∈ unchecked, directive? line = none)
    (hkeeps : groups.all (Group.keeps choice)) :
    resolveLines choice groups (Seatbelts.preprocessor.guarded checked unchecked) =
      (groups, (Seatbelts.only choice).guarded checked unchecked) := by
  have hfirst : resolveLines choice groups ([checksOpen] ++ checked) =
      (.checks true :: groups, if choice then checked else []) := by
    rw [resolveLines_append_of resolveLines_checksOpen (resolveLines_inert hchecked)]
    cases choice <;> simp [Group.keeps, hkeeps]
  have hsecond : resolveLines choice (.checks true :: groups)
      ((if unchecked.isEmpty then [] else [checksElse] ++ unchecked) ++ [checksClose]) =
      (groups, if choice then [] else unchecked) := by
    by_cases hempty : unchecked.isEmpty
    · have hnil := List.isEmpty_iff.mp hempty
      simp [hnil, resolveLines_checksClose]
    · rw [if_neg hempty, List.append_assoc]
      rw [resolveLines_append_of (resolveLines_checksElse true)
        (resolveLines_append_of (resolveLines_inert hunchecked) (resolveLines_checksClose false))]
      cases choice <;> simp [Group.keeps, hkeeps]
  by_cases hempty : checked.isEmpty && unchecked.isEmpty
  · have hnil := Bool.and_eq_true _ _ ▸ hempty
    rw [List.isEmpty_iff, List.isEmpty_iff] at hnil
    cases choice <;> simp [Seatbelts.guarded, Seatbelts.only, resolveLines, hnil]
  · have hboth := resolveLines_append_of hfirst hsecond
    rw [← List.append_assoc] at hboth
    rw [Seatbelts.guarded, if_neg hempty, hboth]
    cases choice <;> simp [Seatbelts.guarded, Seatbelts.only]

/-! ## Lines without directives -/

theorem directive?_of_lacks {line : String} (h : Lacks '#' line) : directive? line = none := by
  unfold directive?
  split
  · rename_i rest hlist
    exact absurd ((List.dropWhile_sublist _).subset (hlist ▸ List.mem_cons_self)) h
  · rfl

theorem directive?_of_isCode {line : String} (h : IsCode 0 line) : directive? line = none := by
  obtain ⟨margin, code, -, rfl, ⟨c, hhead, hc⟩, -⟩ := h
  obtain ⟨rest, hcode⟩ := List.head?_eq_some_iff.mp hhead
  simp only [List.mem_cons, List.not_mem_nil, or_false, not_or] at hc
  have hdrop : (indented margin code).toList.dropWhile (fun c => c = ' ' || c = '\t') =
      c :: rest := by
    rw [toList_indented, List.dropWhile_append_of_pos (by simp), hcode]
    simp [hc]
  unfold directive?
  rw [hdrop]
  split
  · rename_i hsign
    cases hsign
    exact absurd rfl hc.2.2
  · rfl

/-! ## Bodies and headers -/

/-- The configuration with another policy. -/
def Config.withSeatbelts (config : Config) (policy : Seatbelts) : Config :=
  { config with seatbelts := policy }

namespace Body

variable {config : Config} {body : Body}

/-- A body that writes only one form of checks has no directives. -/
theorem directive?_of_mem (h : body.Legible) (hvalid : config.validate = .ok ()) (form : Bool)
    (line : String) (hline : line ∈ body.lines (config.withSeatbelts (.only form))) :
    directive? line = none := by
  have hvalid' : (config.withSeatbelts (.only form)).validate = .ok () := hvalid
  rcases line_isCode h hvalid' hline with ⟨hpolicy, -⟩ | hcode
  · cases form <;> contradiction
  · exact directive?_of_isCode hcode

theorem resolveLines_checkLines {block : Block}
    (hinert : ∀ form, ∀ line ∈ body.checkLines (config.withSeatbelts (.only form)) block,
      directive? line = none) (hkeeps : groups.all (Group.keeps choice)) :
    resolveLines choice groups (body.checkLines (config.withSeatbelts .preprocessor) block) =
      (groups, body.checkLines (config.withSeatbelts (.only choice)) block) :=
  resolveLines_guarded (hinert true) (hinert false) hkeeps

theorem resolveLines_blockLines {block : Block}
    (hinert : ∀ form, ∀ line ∈ body.blockLines (config.withSeatbelts (.only form)) block,
      directive? line = none) (hkeeps : groups.all (Group.keeps choice)) :
    resolveLines choice groups (body.blockLines (config.withSeatbelts .preprocessor) block) =
      (groups, body.blockLines (config.withSeatbelts (.only choice)) block) := by
  simp only [blockLines_eq, List.mem_append, or_imp, forall_and] at hinert ⊢
  obtain ⟨hhead, ⟨hchecks, hstatements⟩, hclose⟩ := hinert
  have hinner := resolveLines_append_of (resolveLines_checkLines hchecks hkeeps)
    (resolveLines_kept hkeeps (hstatements true))
  exact resolveLines_append_of (resolveLines_kept hkeeps (hhead true))
    (resolveLines_append_of hinner (resolveLines_kept hkeeps (hclose true)))

theorem resolveLines_closingLines
    (hinert : ∀ form, ∀ line ∈ body.closingLines (config.withSeatbelts (.only form)),
      directive? line = none) (hkeeps : groups.all (Group.keeps choice)) :
    resolveLines choice groups (body.closingLines (config.withSeatbelts .preprocessor)) =
      (groups, body.closingLines (config.withSeatbelts (.only choice))) := by
  unfold closingLines at hinert ⊢
  cases hclosing : body.closing with
  | notFound hasResult =>
    simp only [hclosing, List.mem_append, or_imp, forall_and] at hinert ⊢
    exact resolveLines_append_of (resolveLines_guarded (hinert.1 true) (hinert.1 false) hkeeps)
      (resolveLines_kept hkeeps (hinert.2 true))
  | deny =>
    simp only [hclosing] at hinert ⊢
    exact resolveLines_kept hkeeps (hinert true)

/-- Resolving a body with both forms leaves the body with the form that was chosen. -/
theorem resolveLines_lines (h : body.Legible) (hvalid : config.validate = .ok ())
    (hkeeps : groups.all (Group.keeps choice)) :
    resolveLines choice groups (body.lines (config.withSeatbelts .preprocessor)) =
      (groups, body.lines (config.withSeatbelts (.only choice))) := by
  have hinert := directive?_of_mem h hvalid
  simp only [lines, List.mem_append, List.mem_flatMap, or_imp, forall_and] at hinert
  apply resolveLines_append_of _ (resolveLines_closingLines hinert.2 hkeeps)
  apply resolveLines_flatMap
  intro block hb
  apply resolveLines_blockLines _ hkeeps
  intro form line hline
  exact hinert.1 form line ⟨block, hb, hline⟩

end Body

namespace Generator

variable {config : Config} (layout : Layout) (environment : NameMap Property)

theorem directive?_declaration (hvalid : config.validate = .ok ()) :
    directive? (declaration config layout) = none := by
  obtain ⟨-, hsymbol, -⟩ := config.validate_eq_ok_iff.mp hvalid
  apply directive?_of_lacks
  unfold declaration
  simp only [lacks_append]
  exact ⟨⟨⟨⟨by decide, lacks_of_isIdentifier hsymbol (by decide) (by decide)⟩, by decide⟩,
    lacks_repr (by decide) _⟩, by decide⟩

theorem resolveLines_lines (hvalid : config.validate = .ok ())
    (hkeeps : groups.all (Group.keeps choice)) (point : FillPoint) :
    resolveLines choice groups (lines (config.withSeatbelts .preprocessor) layout environment point) =
      (groups, lines (config.withSeatbelts (.only choice)) layout environment point) := by
  cases point with
  | declaration =>
    exact resolveLines_kept hkeeps
      (List.forall_mem_singleton.mpr (directive?_declaration layout hvalid))
  | environment access =>
    exact Body.resolveLines_lines (legible_environmentBody config environment access) hvalid hkeeps
  | accessor kind access =>
    exact Body.resolveLines_lines (legible_variableBody config layout kind access) hvalid hkeeps

theorem resolveLines_headerLines (hvalid : config.validate = .ok ()) :
    resolveLines choice [] (headerLines (config.withSeatbelts .preprocessor) layout environment) =
      ([], headerLines (config.withSeatbelts (.only choice)) layout environment) := by
  have hkeeps : [Group.other].all (Group.keeps choice) = true := rfl
  have hstart : resolveLines choice [] Template.start = ([.other], Template.start) := by
    cases choice <;> decide
  have hfinish : resolveLines choice [.other] [Template.finish] = ([], [Template.finish]) := by
    cases choice <;> decide
  have hinner : resolveLines choice [.other]
      (Template.inner.flatMap
        (Segment.lines (lines (config.withSeatbelts .preprocessor) layout environment))) =
      ([.other], Template.inner.flatMap
        (Segment.lines (lines (config.withSeatbelts (.only choice)) layout environment))) := by
    apply resolveLines_flatMap
    intro segment hsegment
    cases segment with
    | fixed ls =>
      apply resolveLines_kept hkeeps
      intro line hline
      have hinert := Template.inert_inner line (List.mem_flatMap.mpr ⟨_, hsegment, hline⟩)
      exact directive?_of_lacks hinert.lacks_sign
    | fill point => exact resolveLines_lines layout environment hvalid hkeeps point
  rw [headerLines, headerLines, Template.lines_eq, Template.lines_eq]
  exact resolveLines_append_of (resolveLines_append_of hstart hinner) hfinish

end Generator

/-! ## Generated headers -/

/-- Generation on a fresh host with these registries gives this header. -/
def Host.Generates (config : Config) (registries : Registries) (text : String) : Prop :=
  ∃ left, generateHeader { config, registries } = .ok text left

theorem Host.generates_iff {config : Config} {registries : Registries} {layout : Layout}
    (hlayout : Layout.compute config.environmentCapacity registries = .ok layout) (text : String) :
    Generates config registries text ↔
      text = Text.unlines (Generator.headerLines config layout registries.environment) := by
  simp only [Generates, run_generateHeader, hlayout, if_true]
  constructor
  · rintro ⟨left, heq⟩
    cases heq
    rfl
  · rintro rfl
    exact ⟨_, rfl⟩

/-- The header that leaves the choice of checks to the compilation is both other headers. -/
theorem generates_resolve {config : Config} {registries : Registries} {layout : Layout}
    (hvalid : config.validate = .ok ())
    (hlayout : Layout.compute config.environmentCapacity registries = .ok layout) :
    ∃ text, Host.Generates (config.withSeatbelts .preprocessor) registries text ∧
      Host.Generates (config.withSeatbelts .enabled) registries (resolve true text) ∧
      Host.Generates (config.withSeatbelts .disabled) registries (resolve false text) := by
  have hresolve : ∀ choice, resolve choice (Text.unlines (Generator.headerLines
      (config.withSeatbelts .preprocessor) layout registries.environment)) =
      Text.unlines (Generator.headerLines
        (config.withSeatbelts (.only choice)) layout registries.environment) := by
    intro choice
    have hvalid' : (config.withSeatbelts .preprocessor).validate = .ok () := hvalid
    rw [resolve, Generator.lines_header _ _ hvalid',
      Generator.resolveLines_headerLines layout registries.environment hvalid]
  have hgenerates : ∀ policy text, Host.Generates (config.withSeatbelts policy) registries text ↔
      text = Text.unlines (Generator.headerLines
        (config.withSeatbelts policy) layout registries.environment) :=
    fun policy text => @Host.generates_iff (config.withSeatbelts policy) _ _ hlayout text
  exact ⟨_, (hgenerates _ _).mpr rfl, (hgenerates _ _).mpr (hresolve true),
    (hgenerates _ _).mpr (hresolve false)⟩

/-- A name with a directive in it changes nothing. -/
theorem generates_resolve_directive_name :
    let registries := Registries.ofVariable .agent "x\n#endif" ⟨"float", 4, 3, true, true, none⟩
    ∃ text, Host.Generates (Config.withSeatbelts {} .preprocessor) registries text ∧
      Host.Generates (Config.withSeatbelts {} .enabled) registries (resolve true text) ∧
      Host.Generates (Config.withSeatbelts {} .disabled) registries (resolve false text) :=
  @generates_resolve _ _ ⟨_, _⟩ rfl rfl

end DeviceSlots
