import DeviceSlots.Proofs.Accessor.Fault
import DeviceSlots.Proofs.Accessor.Syntax
import DeviceSlots.Proofs.Text.Code

/-!
# Reading generated code

What is written for a condition, a report or a statement is read back as that, whatever follows on
its line. A macro may have any name, so a line is read as a report only where the macro is called.
-/

namespace DeviceSlots

open Text

namespace Reading

/-! ## Conditions -/

theorem strip?_append (front : String) (rest : List Char) :
    strip? front (front.toList ++ rest) = some rest := by
  rw [strip?, if_pos (List.isPrefixOf_iff_prefix.mpr (List.prefix_append _ _)), List.drop_left]

@[simp] theorem ends?_self {α : Type} (tail : String) (result : α) :
    ends? tail tail.toList result = some result := if_pos rfl

theorem eq_append_of_strip? {front : String} {text rest : List Char}
    (h : strip? front text = some rest) : text = front.toList ++ rest := by
  unfold strip? at h
  split at h
  · rename_i hstarts
    cases h
    exact (List.prefix_iff_eq_append.mp (List.isPrefixOf_iff_prefix.mp hstarts)).symm
  · contradiction

theorem number?_repr (n : Nat) (rest : List Char) (h : ∀ c ∈ rest.head?, c.isDigit = false) :
    number? ((Nat.repr n).toList ++ rest) = some (n, rest) := by
  have hdigits : ∀ c ∈ (Nat.repr n).toList, c.isDigit = true := by
    intro c hc
    rw [Nat.toList_repr] at hc
    exact Nat.isDigit_of_mem_toDigits (by decide) (by decide) hc
  have hrest : rest.dropWhile Char.isDigit = rest := by
    cases rest with
    | nil => rfl
    | cons c rest => simp [h c rfl]
  rw [number?, leadingNumber?_repr n h, List.dropWhile_append_of_pos hdigits, hrest]
  rfl

theorem head?_ofList {c : Char} {chars rest : List Char} :
    ((String.ofList (c :: chars)).toList ++ rest).head? = some c := by
  rw [String.toList_ofList]
  rfl

theorem counter?_name (counter : Counter) (rest : List Char) :
    counter? (counter.name.toList ++ rest) = some (counter, rest) := by
  cases counter with
  | index =>
    have hhead : ("index".toList ++ rest).head? = some 'i' := head?_ofList
    rw [counter?, Counter.name, hhead, strip?_append]
    rfl
  | arrayIndex =>
    have hhead : ("array_index".toList ++ rest).head? = some 'a' := head?_ofList
    rw [counter?, Counter.name, hhead, strip?_append]
    rfl

theorem condition?_text (condition : Condition) (rest : List Char)
    (h : ∀ c ∈ rest.head?, c.isDigit = false) :
    condition? (condition.text.toList ++ rest) = some (condition, rest) := by
  cases condition with
  | named name =>
    have htext : (Condition.named name).text.toList ++ rest = "names_equal(name, ".toList ++
        ((Literal.quote name).toList ++ (")".toList ++ rest)) := by
      unfold Condition.text
      simp only [String.toList_append, List.append_assoc]
    have hhead : ("names_equal(name, ".toList ++
        ((Literal.quote name).toList ++ (")".toList ++ rest))).head? = some 'n' := head?_ofList
    rw [condition?, htext, hhead]
    simp only [strip?_append, Option.bind_eq_bind, Option.bind_some, Literal.read?_quote]
    rfl
  | size bytes =>
    have htext : (Condition.size bytes).text.toList ++ rest = "sizeof(T) != ".toList ++
        ((Nat.repr bytes).toList ++ rest) := by
      unfold Condition.text
      simp only [String.toList_append, List.append_assoc]
    have hhead : ("sizeof(T) != ".toList ++ ((Nat.repr bytes).toList ++ rest)).head? = some 's' :=
      head?_ofList
    rw [condition?, htext, hhead]
    simp only [strip?_append, Option.bind_eq_bind, Option.bind_some, number?_repr bytes rest h]
    rfl
  | length elements =>
    have htext : (Condition.length elements).text.toList ++ rest = "N != ".toList ++
        ((Nat.repr elements).toList ++ rest) := by
      unfold Condition.text
      simp only [String.toList_append, List.append_assoc]
    have hhead : ("N != ".toList ++ ((Nat.repr elements).toList ++ rest)).head? = some 'N' :=
      head?_ofList
    rw [condition?, htext, hhead]
    simp only [strip?_append, Option.bind_eq_bind, Option.bind_some, number?_repr elements rest h]
    rfl
  | bound counter limit =>
    have htext : (Condition.bound counter limit).text.toList ++ rest = counter.name.toList ++
        (" >= ".toList ++ ((Nat.repr limit).toList ++ rest)) := by
      unfold Condition.text
      simp only [String.toList_append, List.append_assoc]
    have hhead : (counter.name.toList ++
        (" >= ".toList ++ ((Nat.repr limit).toList ++ rest))).head? = some 'i' ∨
        (counter.name.toList ++
        (" >= ".toList ++ ((Nat.repr limit).toList ++ rest))).head? = some 'a' := by
      cases counter with
      | index => exact .inl head?_ofList
      | arrayIndex => exact .inr head?_ofList
    rw [condition?, htext]
    rcases hhead with hhead | hhead <;> rw [hhead] <;>
      simp only [counter?_name, strip?_append, Option.bind_eq_bind, Option.bind_some,
        number?_repr limit rest h] <;> rfl

/-! ## Statements -/

theorem address?_append {symbol : String} (offset : Nat) {rest : List Char}
    (h : ∀ c ∈ rest.head?, c.isDigit = false) :
    address? symbol (symbol.toList ++ (" + ".toList ++ ((Nat.repr offset).toList ++ rest))) =
      some (offset, rest) := by
  simp only [address?, strip?_append, Option.bind_eq_bind, Option.bind_some, number?_repr offset rest h]

/-- The text of a slot's address, in parts. -/
theorem slot_toList (symbol : String) (offset : Nat) (rest : List Char) :
    (Action.statements.slot symbol offset).toList ++ rest =
      "(*static_cast<T**>(static_cast<void*>(".toList ++ (symbol.toList ++ (" + ".toList ++
        ((Nat.repr offset).toList ++ (")))".toList ++ rest)))) := by
  unfold Action.statements.slot
  simp only [toString_self, String.toList_append, List.append_assoc]
  rfl

theorem slot?_append {symbol : String} (offset : Nat) (rest : List Char) :
    slot? symbol ((Action.statements.slot symbol offset).toList ++ rest) = some (offset, rest) := by
  rw [slot_toList]
  simp only [slot?, strip?_append, Option.bind_eq_bind, Option.bind_some]
  rw [address?_append offset (by simp)]
  simp only [Option.bind_some, strip?_append]
  rfl

theorem element?_expression (element : Element) {rest : List Char}
    (h : ∀ c ∈ rest.head?, c ≠ ' ') :
    element? (element.expression.toList ++ rest) = some (element, rest) := by
  unfold element?
  cases element with
  | scalar =>
    rw [Element.expression, strip?_append]
    cases rest with
    | nil => rfl
    | cons c rest =>
      have hc := h c rfl
      simp only [Option.bind_eq_bind, Option.bind_some]
      split
      · rename_i heq
        cases heq
        contradiction
      · rfl
  | array elements =>
    have hexpression : (Element.array elements).expression.toList ++ rest =
        "index".toList ++ (" * ".toList ++ ((Nat.repr elements).toList ++
          (" + array_index".toList ++ rest))) := by
      unfold Element.expression
      simp only [toString_self, String.toList_append, List.append_assoc]
      rfl
    rw [hexpression, strip?_append]
    simp only [Option.bind_eq_bind, Option.bind_some]
    rw [strip?_append " * "]
    simp only [Option.bind_some, number?_repr elements (" + array_index".toList ++ rest)
      (by simp), strip?_append]
    rfl

theorem take_ofList {chars rest : List Char} {k : Nat} (h : k ≤ chars.length) :
    ((String.ofList chars).toList ++ rest).take k = chars.take k := by
  rw [String.toList_ofList, List.take_append_of_le_length h]

theorem store?_append {symbol : String} (offset : Nat) (element : Element) :
    store? symbol ((Action.statements.slot symbol offset).toList ++ ("[".toList ++
      (element.expression.toList ++ "] = (T) value;".toList))) =
      some (.act (.store offset element)) := by
  simp only [store?, slot?_append, strip?_append, Option.bind_eq_bind, Option.bind_some]
  rw [element?_expression element (by simp)]
  simp only [Option.bind_some, ends?_self]

theorem load?_append {symbol : String} (offset : Nat) (element : Element) :
    load? symbol (" ".toList ++ ((Action.statements.slot symbol offset).toList ++ ("[".toList ++
      (element.expression.toList ++ "];".toList)))) = some (.act (.load offset element)) := by
  simp only [load?, slot?_append, strip?_append, Option.bind_eq_bind, Option.bind_some]
  rw [element?_expression element (by simp)]
  simp only [Option.bind_some, ends?_self]

theorem loadCached?_append {symbol : String} (offset : Nat) (element : Element) :
    loadCached? symbol (" (T) __ldg(".toList ++ ((Action.statements.slot symbol offset).toList ++
      (" + (".toList ++ (element.expression.toList ++ "));".toList)))) =
      some (.act (.loadCached offset element)) := by
  simp only [loadCached?, slot?_append, strip?_append, Option.bind_eq_bind, Option.bind_some]
  rw [element?_expression element (by simp)]
  simp only [Option.bind_some, ends?_self]

theorem fetch?_append {symbol : String} (offset : Nat) :
    fetch? symbol (" *reinterpret_cast<const T*>(".toList ++ (symbol.toList ++ (" + ".toList ++
      ((Nat.repr offset).toList ++ ");".toList)))) = some (.act (.fetch offset)) := by
  simp only [fetch?, strip?_append, Option.bind_eq_bind, Option.bind_some]
  rw [address?_append offset (by simp)]
  simp only [Option.bind_some, ends?_self]

theorem fetchIndexed?_append {symbol : String} (offset : Nat) :
    fetchIndexed? symbol (" reinterpret_cast<const T*>(".toList ++ (symbol.toList ++ (" + ".toList ++
      ((Nat.repr offset).toList ++ ")[index];".toList)))) = some (.act (.fetchIndexed offset)) := by
  simp only [fetchIndexed?, strip?_append, Option.bind_eq_bind, Option.bind_some]
  rw [address?_append offset (by simp)]
  simp only [Option.bind_some, ends?_self]

theorem statement?_return {symbol : String} (text : List Char) :
    statement? symbol ("return".toList ++ text) = returned? symbol text := by
  have hhead : ("return".toList ++ text).head? = some 'r' := head?_ofList
  rw [statement?, hhead, strip?_append]
  rfl

theorem statement?_leave {symbol : String} : statement? symbol "return;".toList = some .leave :=
  statement?_return [';']

theorem statement?_leaveWithZero {symbol : String} :
    statement? symbol "return \x7b\x7d;".toList = some .leaveWithZero :=
  statement?_return " \x7b\x7d;".toList

theorem statement?_deny {symbol : String} : statement? symbol "return false;".toList = some .deny :=
  statement?_return " false;".toList

theorem statement?_affirm {symbol : String} :
    statement? symbol "return true;".toList = some (.act .affirm) :=
  statement?_return " true;".toList

section

variable (symbol : String) (offset : Nat) (element : Element)

theorem statement?_store :
    statement? symbol (s!"{Action.statements.slot symbol offset}[{element.expression}] = (T) value;"
      ).toList = some (.act (.store offset element)) := by
  have htext : (s!"{Action.statements.slot symbol offset}[{element.expression}] = (T) value;"
      ).toList = (Action.statements.slot symbol offset).toList ++ ("[".toList ++
        (element.expression.toList ++ "] = (T) value;".toList)) := by
    simp only [toString_self, String.toList_append, List.append_assoc]
  have hhead : ((Action.statements.slot symbol offset).toList ++ ("[".toList ++
      (element.expression.toList ++ "] = (T) value;".toList))).head? = some '(' := by
    rw [slot_toList]
    exact head?_ofList
  rw [htext, statement?, hhead]
  exact store?_append offset element

theorem statement?_load :
    statement? symbol (s!"return {Action.statements.slot symbol offset}[{element.expression}];"
      ).toList = some (.act (.load offset element)) := by
  have htext : (s!"return {Action.statements.slot symbol offset}[{element.expression}];").toList =
      "return".toList ++ (" ".toList ++ ((Action.statements.slot symbol offset).toList ++
        ("[".toList ++ (element.expression.toList ++ "];".toList)))) := by
    simp only [toString_self, String.toList_append, List.append_assoc]
    rfl
  have hpeek : (" ".toList ++ ((Action.statements.slot symbol offset).toList ++ ("[".toList ++
      (element.expression.toList ++ "];".toList)))).take 3 = [' ', '(', '*'] := by
    rw [slot_toList]
    exact congrArg (' ' :: ·) (take_ofList (k := 2) (by decide))
  rw [htext, statement?_return, returned?, hpeek]
  exact load?_append offset element

theorem statement?_loadCached :
    statement? symbol
      (s!"return (T) __ldg({Action.statements.slot symbol offset} + ({element.expression}));"
      ).toList = some (.act (.loadCached offset element)) := by
  have htext : (s!"return (T) __ldg({Action.statements.slot symbol offset} + ({element.expression}));"
      ).toList = "return".toList ++ (" (T) __ldg(".toList ++
        ((Action.statements.slot symbol offset).toList ++ (" + (".toList ++
          (element.expression.toList ++ "));".toList)))) := by
    simp only [toString_self, String.toList_append, List.append_assoc]
    rfl
  have hpeek : (" (T) __ldg(".toList ++ ((Action.statements.slot symbol offset).toList ++
      (" + (".toList ++ (element.expression.toList ++ "));".toList)))).take 3 = [' ', '(', 'T'] :=
    take_ofList (by decide)
  rw [htext, statement?_return, returned?, hpeek]
  exact loadCached?_append offset element

theorem statement?_fetch :
    statement? symbol (s!"return *reinterpret_cast<const T*>({symbol} + {offset});").toList =
      some (.act (.fetch offset)) := by
  have htext : (s!"return *reinterpret_cast<const T*>({symbol} + {offset});").toList =
      "return".toList ++ (" *reinterpret_cast<const T*>(".toList ++ (symbol.toList ++
        (" + ".toList ++ ((Nat.repr offset).toList ++ ");".toList)))) := by
    simp only [toString_self, String.toList_append, List.append_assoc]
    rfl
  have hpeek : (" *reinterpret_cast<const T*>(".toList ++ (symbol.toList ++ (" + ".toList ++
      ((Nat.repr offset).toList ++ ");".toList)))).take 3 = [' ', '*', 'r'] :=
    take_ofList (by decide)
  rw [htext, statement?_return, returned?, hpeek]
  exact fetch?_append offset

theorem statement?_fetchIndexed :
    statement? symbol (s!"return reinterpret_cast<const T*>({symbol} + {offset})[index];").toList =
      some (.act (.fetchIndexed offset)) := by
  have htext : (s!"return reinterpret_cast<const T*>({symbol} + {offset})[index];").toList =
      "return".toList ++ (" reinterpret_cast<const T*>(".toList ++ (symbol.toList ++
        (" + ".toList ++ ((Nat.repr offset).toList ++ ")[index];".toList)))) := by
    simp only [toString_self, String.toList_append, List.append_assoc]
    rfl
  have hpeek : (" reinterpret_cast<const T*>(".toList ++ (symbol.toList ++ (" + ".toList ++
      ((Nat.repr offset).toList ++ ")[index];".toList)))).take 3 = [' ', 'r', 'e'] :=
    take_ofList (by decide)
  rw [htext, statement?_return, returned?, hpeek]
  exact fetchIndexed?_append offset

end

/-- The statements that the lines of an action are. -/
def program (action : Action) : List Statement :=
  match action with
  | .store .. => [.act action, .leave]
  | _ => [.act action]

/-- What is written for an action is read as the action. -/
theorem statement?_statements (symbol : String) (action : Action) :
    (action.statements symbol).map (fun text => statement? symbol text.toList) =
      (program action).map some := by
  cases action with
  | store offset element =>
    simp only [Action.statements, program, List.map_cons, List.map_nil, statement?_store,
      statement?_leave]
  | load offset element =>
    simp only [Action.statements, program, List.map_cons, List.map_nil, statement?_load]
  | loadCached offset element =>
    simp only [Action.statements, program, List.map_cons, List.map_nil, statement?_loadCached]
  | fetch offset =>
    simp only [Action.statements, program, List.map_cons, List.map_nil, statement?_fetch]
  | fetchIndexed offset =>
    simp only [Action.statements, program, List.map_cons, List.map_nil, statement?_fetchIndexed]
  | affirm => simp only [Action.statements, program, List.map_cons, List.map_nil, statement?_affirm]

/-! ## Reports -/

/-- The text is spelled as itself in a literal. -/
def Spelled (text : String) : Prop := ∀ c ∈ text.toList, Literal.escape c = [c]

instance (text : String) : Decidable (Spelled text) :=
  List.decidableBAll (fun c => Literal.escape c = [c]) text.toList

theorem flatMap_escape_of_spelled {chars : List Char} (h : ∀ c ∈ chars, Literal.escape c = [c]) :
    chars.flatMap Literal.escape = chars := by
  induction chars with
  | nil => rfl
  | cons c rest ih =>
    rw [List.flatMap_cons, h c List.mem_cons_self, ih fun d hd => h d (List.mem_cons_of_mem _ hd)]
    rfl

/-- A message is read from its literal. -/
theorem read?_message {text : String} (h : Spelled text) (rest : List Char) :
    Literal.read? ("\"".toList ++ (text.toList ++ (".\\n\"".toList ++ rest))) =
      some (text ++ ".\n", rest) := by
  have hquote : "\"".toList ++ (text.toList ++ (".\\n\"".toList ++ rest)) =
      (Literal.quote (text ++ ".\n")).toList ++ rest := by
    rw [Literal.quote, String.toList_ofList, String.toList_append, List.flatMap_append,
      flatMap_escape_of_spelled h]
    simp [Literal.escape, Literal.isControl]
  rw [hquote, Literal.read?_quote]

theorem spelled_append {s t : String} (hs : Spelled s) (ht : Spelled t) : Spelled (s ++ t) := by
  intro c hc
  rw [String.toList_append, List.mem_append] at hc
  exact hc.elim (hs c) (ht c)

theorem about?_append (complaint : String) (fault : Fault) (rest : List Char) :
    about? complaint fault (complaint.toList ++ rest) ", name);".toList = some fault := by
  simp only [about?, strip?_append, ends?_self]
  rfl

theorem aboutCounter?_append (counter : Counter) (rest : List Char) :
    aboutCounter? (", index %d is out of bounds".toList ++ rest)
      (", name, ".toList ++ (counter.name.toList ++ ");".toList)) =
      some (.outOfBounds counter.name) := by
  simp only [aboutCounter?, strip?_append, counter?_name, Option.bind_eq_bind, Option.bind_some,
    ends?_self]
  rfl

/-- A message and its arguments are read as the fault. -/
theorem fault?_message {fault : Fault} {subject : String} (hsubject : Lacks '%' subject)
    (hcounter : ∀ index, fault = .outOfBounds index → ∃ counter, index = Counter.name counter)
    (rest : List Char) :
    fault? (subject.toList ++ (" '%s'".toList ++ (fault.complaint.toList ++ rest)))
      fault.arguments.toList = some fault := by
  have hdrop : (subject.toList ++ (" '%s'".toList ++ (fault.complaint.toList ++ rest))).dropWhile
      (· ≠ '%') = "%s'".toList ++ (fault.complaint.toList ++ rest) := by
    have hpass : ∀ c ∈ subject.toList, decide (c ≠ '%') = true := by
      intro c hc
      exact decide_eq_true fun heq => hsubject (heq ▸ hc)
    rw [List.dropWhile_append_of_pos hpass]
    rfl
  rw [fault?, hdrop, strip?_append]
  cases fault with
  | typeMismatch =>
    have hpeek : (" type mismatch".toList ++ rest).take 2 = [' ', 't'] := take_ofList (by decide)
    simp only [Fault.complaint, Option.bind_eq_bind, Option.bind_some, hpeek]
    exact about?_append " type mismatch" .typeMismatch rest
  | lengthMismatch =>
    have hpeek : (" length mismatch".toList ++ rest).take 2 = [' ', 'l'] := take_ofList (by decide)
    simp only [Fault.complaint, Option.bind_eq_bind, Option.bind_some, hpeek]
    exact about?_append " length mismatch" .lengthMismatch rest
  | notFound =>
    have hpeek : (" was not found".toList ++ rest).take 2 = [' ', 'w'] := take_ofList (by decide)
    simp only [Fault.complaint, Option.bind_eq_bind, Option.bind_some, hpeek]
    exact about?_append " was not found" .notFound rest
  | outOfBounds index =>
    obtain ⟨counter, rfl⟩ := hcounter index rfl
    have hpeek : (", index %d is out of bounds".toList ++ rest).take 2 = [',', ' '] :=
      take_ofList (by decide)
    have harguments : (Fault.arguments (.outOfBounds counter.name)).toList =
        ", name, ".toList ++ (counter.name.toList ++ ");".toList) := by
      unfold Fault.arguments
      simp only [String.toList_append]
    simp only [Fault.complaint, Option.bind_eq_bind, Option.bind_some, hpeek, harguments]
    exact aboutCounter?_append counter rest

/-- What is written for a fault is read as the fault. -/
theorem report?_report {fault : Fault} {faultMacro subject : String} {operation : Option String}
    (hsubject : Spelled subject ∧ Lacks '%' subject)
    (hoperation : ∀ name ∈ operation, Spelled name)
    (hcounter : ∀ index, fault = .outOfBounds index → ∃ counter, index = Counter.name counter) :
    report? faultMacro (fault.report faultMacro subject operation).toList = some fault := by
  have hcomplaint : Spelled fault.complaint := by
    cases fault with
    | typeMismatch => exact (by decide : Spelled " type mismatch")
    | lengthMismatch => exact (by decide : Spelled " length mismatch")
    | outOfBounds index => exact (by decide : Spelled ", index %d is out of bounds")
    | notFound => exact (by decide : Spelled " was not found")
  have hcircumstance : Spelled (Fault.circumstance operation) := by
    cases operation with
    | none => decide
    | some name => exact spelled_append (by decide) (hoperation name rfl)
  have htext : Spelled (subject ++ (" '%s'" ++ (fault.complaint ++ Fault.circumstance operation))) :=
    spelled_append hsubject.1 (spelled_append (by decide) (spelled_append hcomplaint hcircumstance))
  have hread := read?_message htext fault.arguments.toList
  simp only [String.toList_append, List.append_assoc] at hread
  rw [report?, Fault.report_eq]
  simp only [String.toList_append, List.append_assoc, strip?_append, Option.bind_eq_bind,
    Option.bind_some, hread]
  exact fault?_message hsubject.2 hcounter _

/-! ## Lines -/

/-- A text that begins with another word, or with no word, is no report. -/
theorem report?_eq_none {faultMacro : String} (hidentifier : isIdentifier faultMacro = true)
    (word : List Char) (c : Char) (rest : List Char)
    (hword : word.all fun d => d.isAlphanum || d = '_')
    (hc : c.isAlphanum = false ∧ c ≠ '_') (hopen : c = '(' → word = []) :
    report? faultMacro (word ++ c :: rest) = none := by
  cases h : report? faultMacro (word ++ c :: rest) with
  | none => rfl
  | some fault =>
    exfalso
    simp only [report?, Option.bind_eq_bind, Option.bind_eq_some_iff] at h
    obtain ⟨behind, hfront, behind', hparen, -⟩ := h
    obtain ⟨first, others, hlist, -, hall⟩ := isIdentifier_chars hidentifier
    have heq := eq_append_of_strip? hfront
    rw [eq_append_of_strip? hparen] at heq
    have hsplit := congrArg (List.takeWhile fun d => d.isAlphanum || d = '_') heq
    have hstop : ∀ text : List Char,
        (c :: text).takeWhile (fun d => d.isAlphanum || d = '_') = [] ∧
        ("(".toList ++ text).takeWhile (fun d => d.isAlphanum || d = '_') = [] := by
      intro text
      exact ⟨by simp [hc], rfl⟩
    rw [List.takeWhile_append_of_pos (List.all_eq_true.mp hword),
      List.takeWhile_append_of_pos (by simpa using hall), (hstop _).1, (hstop _).2,
      List.append_nil, List.append_nil] at hsplit
    rw [← hsplit] at heq
    have hsame : c = '(' := (List.cons.inj (List.append_cancel_left heq)).1
    have hempty := hopen hsame
    rw [hsplit, hlist] at hempty
    contradiction

/-- What is read behind the word for returning begins with a blank, or ends the statement. -/
theorem begins_of_returned? {symbol : String} {text : List Char} {statement : Statement}
    (h : returned? symbol text = some statement) :
    ∃ c rest, text = c :: rest ∧ (c = ' ' ∨ c = ';') := by
  have hfirst : ∀ {c : Char} {l : List Char}, text.take 3 = c :: l → ∃ rest, text = c :: rest := by
    intro c l hl
    cases text with
    | nil => contradiction
    | cons d rest =>
      rw [List.take_succ_cons] at hl
      exact ⟨rest, by rw [(List.cons.inj hl).1]⟩
  unfold returned? at h
  split at h
  · rename_i htake
    obtain ⟨rest, hrest⟩ := hfirst htake
    exact ⟨';', rest, hrest, .inr rfl⟩
  case h_8 =>
    simp only [load?, Option.bind_eq_bind, Option.bind_eq_some_iff] at h
    obtain ⟨rest, hrest, -⟩ := h
    exact ⟨' ', rest, eq_append_of_strip? hrest, .inl rfl⟩
  all_goals
    rename_i htake
    obtain ⟨rest, hrest⟩ := hfirst htake
    exact ⟨' ', rest, hrest, .inl rfl⟩

/-- What is read as a statement begins with a bracket, or with the word for returning. -/
theorem begins_of_statement? {symbol : String} {text : List Char} {statement : Statement}
    (h : statement? symbol text = some statement) :
    (∃ rest, text = '(' :: rest) ∨
      ∃ c rest, text = "return".toList ++ c :: rest ∧ (c = ' ' ∨ c = ';') := by
  unfold statement? at h
  split at h
  · rename_i hhead
    obtain ⟨rest, rfl⟩ := List.head?_eq_some_iff.mp hhead
    exact .inl ⟨rest, rfl⟩
  · obtain ⟨rest, hstrip, hreturned⟩ := Option.bind_eq_some_iff.mp h
    obtain ⟨c, others, rfl, hc⟩ := begins_of_returned? hreturned
    exact .inr ⟨c, others, eq_append_of_strip? hstrip, hc⟩

section

variable (symbol : String) {faultMacro : String} (hidentifier : isIdentifier faultMacro = true)
  (margin : Nat)

theorem line?_indented {code : String} (h : BeginsCode code) :
    line? symbol faultMacro (indented margin code) =
      match report? faultMacro code.toList with
      | some fault => some (.statement (.report fault))
      | none => syntax? symbol code.toList := by
  obtain ⟨c, hhead, hc⟩ := h
  obtain ⟨rest, hcode⟩ := List.head?_eq_some_iff.mp hhead
  have hblank : c ≠ ' ' := by
    intro heq
    exact hc (heq ▸ List.mem_cons_self)
  have hdrop : (indented margin code).toList.dropWhile (fun d => decide (d = ' ')) = code.toList := by
    rw [toList_indented, List.dropWhile_append_of_pos (by simp), hcode]
    simp [hblank]
  exact congrArg (fun text =>
    match report? faultMacro text with
    | some fault => some (Line.statement (.report fault))
    | none => syntax? symbol text) hdrop

include hidentifier

theorem line?_opens (condition : Condition) :
    line? symbol faultMacro (indented margin ("if (" ++ condition.text ++ ") \x7b")) =
      some (.opens condition) := by
  have htext : ("if (" ++ condition.text ++ ") \x7b").toList =
      "if (".toList ++ (condition.text.toList ++ ") \x7b".toList) := by
    simp only [String.toList_append, List.append_assoc]
  have hsilent := report?_eq_none hidentifier "if".toList ' '
    ("(".toList ++ (condition.text.toList ++ ") \x7b".toList)) (by decide) (by decide) (by decide)
  have hread : syntax? symbol ("if (".toList ++ (condition.text.toList ++ ") \x7b".toList)) =
      some (.opens condition) := by
    have hhead : ("if (".toList ++ (condition.text.toList ++ ") \x7b".toList)).head? = some 'i' :=
      head?_ofList
    rw [syntax?, hhead, strip?_append]
    have hcondition := condition?_text condition ") \x7b".toList (by simp)
    simp only [Option.bind_eq_bind, Option.bind_some, hcondition, ends?_self]
  have hsame : "if".toList ++ ' ' :: ("(".toList ++ (condition.text.toList ++ ") \x7b".toList)) =
      "if (".toList ++ (condition.text.toList ++ ") \x7b".toList) := rfl
  rw [line?_indented symbol margin (beginsCode_append (beginsCode_append (by decide) _) _), htext,
    ← hsame, hsilent, hsame]
  exact hread

theorem line?_turns (condition : Condition) :
    line? symbol faultMacro (indented margin ("\x7d else if (" ++ condition.text ++ ") \x7b")) =
      some (.turns condition) := by
  have htext : ("\x7d else if (" ++ condition.text ++ ") \x7b").toList =
      "\x7d else if (".toList ++ (condition.text.toList ++ ") \x7b".toList) := by
    simp only [String.toList_append, List.append_assoc]
  have hsilent := report?_eq_none hidentifier [] '\x7d'
    (" else if (".toList ++ (condition.text.toList ++ ") \x7b".toList)) (by decide) (by decide)
    (by decide)
  have hsame : [] ++ '\x7d' :: (" else if (".toList ++ (condition.text.toList ++ ") \x7b".toList)) =
      "\x7d else if (".toList ++ (condition.text.toList ++ ") \x7b".toList) := rfl
  have hread : syntax? symbol ("\x7d else if (".toList ++ (condition.text.toList ++
      ") \x7b".toList)) = some (.turns condition) := by
    have hhead : ("\x7d else if (".toList ++ (condition.text.toList ++ ") \x7b".toList)).head? =
        some '\x7d' := head?_ofList
    have hlong : "\x7d else if (".toList ++ (condition.text.toList ++ ") \x7b".toList) ≠
        ['\x7d'] := by simp
    have hcondition := condition?_text condition ") \x7b".toList (by simp)
    rw [syntax?, hhead]
    simp only [if_neg hlong, strip?_append, Option.bind_eq_bind, Option.bind_some, hcondition,
      ends?_self]
  rw [line?_indented symbol margin (beginsCode_append (beginsCode_append (by decide) _) _), htext,
    ← hsame, hsilent, hsame]
  exact hread

theorem line?_closes : line? symbol faultMacro (indented margin "\x7d") = some .closes := by
  have hsilent := report?_eq_none hidentifier [] '\x7d' [] (by decide) (by decide) (by decide)
  have hsame : [] ++ '\x7d' :: [] = "\x7d".toList := rfl
  rw [line?_indented symbol margin (by decide), ← hsame, hsilent]
  rfl

theorem line?_statement {text : String} {statement : Statement}
    (h : statement? symbol text.toList = some statement) :
    line? symbol faultMacro (indented margin text) = some (.statement statement) := by
  have hread : syntax? symbol text.toList = (statement? symbol text.toList).map .statement := by
    rcases begins_of_statement? h with ⟨rest, htext⟩ | ⟨c, rest, htext, -⟩ <;> rw [htext] <;> rfl
  have hbegins : BeginsCode text := by
    rcases begins_of_statement? h with ⟨rest, htext⟩ | ⟨c, rest, htext, -⟩
    · exact ⟨'(', by rw [htext]; rfl, by decide⟩
    · exact ⟨'r', by rw [htext]; rfl, by decide⟩
  have hsilent : report? faultMacro text.toList = none := by
    rcases begins_of_statement? h with ⟨rest, htext⟩ | ⟨c, rest, htext, hc⟩ <;> rw [htext]
    · exact report?_eq_none hidentifier [] '(' rest (by decide) (by decide) (by decide)
    · refine report?_eq_none hidentifier "return".toList c rest (by decide) ?_ ?_ <;>
        rcases hc with rfl | rfl <;> decide
  rw [line?_indented symbol margin hbegins, hsilent, hread, h]
  rfl

end

end Reading

end DeviceSlots
