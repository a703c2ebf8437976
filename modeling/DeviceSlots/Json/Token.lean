import DeviceSlots.Json.Numeral
import DeviceSlots.Text.Radix

/-!
# JSON tokens

A JSON text is a row of tokens with blanks between them. Where the text stops being JSON, the row
ends with the token `malformed`, so that a reader meets everything before that place first.

An escaped code point outside the basic plane is written as a pair of surrogates. A string with a
surrogate out of a pair is a token all the same, but one without content.
-/

namespace DeviceSlots.Json

/-- A token of a JSON text. -/
inductive Token
  | openBrace | closeBrace | openBracket | closeBracket | comma | colon
  | null
  | bool (b : Bool)
  | number (x : Numeral)
  /-- A string; it has no content if a surrogate in it is out of a pair. -/
  | string (content : Option String)
  /-- The place where the text is no JSON. -/
  | malformed
  deriving DecidableEq, Repr

/-! ## Strings -/

/-- A part of a string as it is written: a character, or a code unit given by four digits. -/
inductive Piece
  | char (c : Char)
  | unit (code : Nat)
  deriving DecidableEq, Repr

/-- The value of a hexadecimal digit. -/
def hexValue? (c : Char) : Option Nat :=
  if c.isDigit then some (c.toNat - '0'.toNat)
  else if 'a' ≤ c && c ≤ 'f' then some (c.toNat - 'a'.toNat + 10)
  else if 'A' ≤ c && c ≤ 'F' then some (c.toNat - 'A'.toNat + 10)
  else none

/-- The code unit that four hexadecimal digits denote. -/
def codeUnit? (a b c d : Char) : Option Nat := do
  return (((← hexValue? a) * 16 + (← hexValue? b)) * 16 + (← hexValue? c)) * 16 + (← hexValue? d)

/-- The character that an escape of one letter stands for. -/
def simpleEscape? : Char → Option Char
  | '"' => some '"'
  | '\\' => some '\\'
  | '/' => some '/'
  | 'b' => some '\x08'
  | 'f' => some '\x0c'
  | 'n' => some '\n'
  | 'r' => some '\r'
  | 't' => some '\t'
  | _ => none

/-- The pieces of a string from after its opening quote, and what follows its closing quote. Control
characters have to be escaped. -/
def pieces? : List Char → Option (List Piece × List Char)
  | [] => none
  | '"' :: rest => some ([], rest)
  | '\\' :: 'u' :: a :: b :: c :: d :: rest =>
    match codeUnit? a b c d with
    | some code => (pieces? rest).map fun (ps, after) => (.unit code :: ps, after)
    | none => none
  | '\\' :: e :: rest =>
    match simpleEscape? e with
    | some c => (pieces? rest).map fun (ps, after) => (.char c :: ps, after)
    | none => none
  | c :: rest =>
    if c = '\\' || c.toNat < 32 then none
    else (pieces? rest).map fun (ps, after) => (.char c :: ps, after)

/-- Whether a code unit is the first of a pair. -/
def isLeading (code : Nat) : Bool := 0xD800 ≤ code && code < 0xDC00

/-- Whether a code unit is the second of a pair. -/
def isTrailing (code : Nat) : Bool := 0xDC00 ≤ code && code < 0xE000

/-- The character outside the basic plane that a pair of code units stands for. -/
def joined (high low : Nat) : Char :=
  Char.ofNat (0x10000 + (high - 0xD800) * 0x400 + (low - 0xDC00))

/-- The characters of a row of pieces, unless a surrogate is out of a pair. -/
def content? : List Piece → Option (List Char)
  | [] => some []
  | .char c :: rest => (content? rest).map (c :: ·)
  | .unit high :: rest =>
    if isTrailing high then none
    else if isLeading high then
      match rest with
      | .unit low :: rest' =>
        if isTrailing low then
          (content? rest').map (joined high low :: ·)
        else none
      | _ => none
    else (content? rest).map (Char.ofNat high :: ·)

theorem rest_of_map_cons {found : Option (List Piece × List Char)} {p : Piece}
    {ps : List Piece} {after : List Char}
    (h : (found.map fun (ps, after) => (p :: ps, after)) = some (ps, after)) :
    ∃ qs, found = some (qs, after) := by
  cases found with
  | none => contradiction
  | some pair =>
    obtain ⟨qs, after'⟩ := pair
    simp only [Option.map_some, Option.some.injEq, Prod.mk.injEq] at h
    exact ⟨qs, by rw [h.2]⟩

/-- A string takes at least its closing quote. -/
theorem length_of_pieces? {text after : List Char} {ps : List Piece}
    (h : pieces? text = some (ps, after)) : after.length < text.length := by
  fun_induction pieces? text generalizing ps after with
  | case1 => contradiction
  | case2 rest =>
    simp only [Option.some.injEq, Prod.mk.injEq] at h
    simp [h.2]
  | case3 a b c d rest code hcode ih =>
    obtain ⟨qs, hqs⟩ := rest_of_map_cons h
    have := ih hqs
    simp only [List.length_cons]
    omega
  | case5 e rest hne c hc ih =>
    obtain ⟨qs, hqs⟩ := rest_of_map_cons h
    have := ih hqs
    simp only [List.length_cons]
    omega
  | case8 c rest _ _ _ hc ih =>
    obtain ⟨qs, hqs⟩ := rest_of_map_cons h
    have := ih hqs
    simp only [List.length_cons]
    omega
  | case4 => contradiction
  | case6 => contradiction
  | case7 => contradiction

/-! ## Reading -/

/-- The blanks between tokens. -/
def isSpace (c : Char) : Bool := c = ' ' || c = '\n' || c = '\t' || c = '\r'

/-- The tokens that are one character. -/
def mark? : Char → Option Token
  | '\x7b' => some .openBrace
  | '\x7d' => some .closeBrace
  | '[' => some .openBracket
  | ']' => some .closeBracket
  | ',' => some .comma
  | ':' => some .colon
  | _ => none

/-- The word at the front of a text, if it is one of the three that JSON knows. -/
def word? : List Char → Option (Token × List Char)
  | 'n' :: 'u' :: 'l' :: 'l' :: rest => some (.null, rest)
  | 't' :: 'r' :: 'u' :: 'e' :: rest => some (.bool true, rest)
  | 'f' :: 'a' :: 'l' :: 's' :: 'e' :: rest => some (.bool false, rest)
  | _ => none

/-- The token at the front of a text that starts with no blank, and what follows it. -/
def token? (text : List Char) : Option (Token × List Char) :=
  match text with
  | [] => none
  | c :: rest =>
    match mark? c with
    | some token => some (token, rest)
    | none =>
      if c = '"' then
        (pieces? rest).map fun (ps, after) => (.string ((content? ps).map String.ofList), after)
      else if c = '-' || c.isDigit then
        (Numeral.scan? text).map fun (x, after) => (.number x, after)
      else
        word? text

theorem length_of_word? {text after : List Char} {token : Token}
    (h : word? text = some (token, after)) : after.length < text.length := by
  unfold word? at h
  split at h <;> simp_all <;> omega

theorem length_of_token? {text after : List Char} {token : Token}
    (h : token? text = some (token, after)) : after.length < text.length := by
  unfold token? at h
  split at h
  · contradiction
  · rename_i c rest
    split at h
    · simp only [Option.some.injEq, Prod.mk.injEq] at h
      simp [h.2]
    · split at h
      · cases hp : pieces? rest with
        | none => simp [hp] at h
        | some found =>
          simp only [hp, Option.map_some, Option.some.injEq, Prod.mk.injEq] at h
          have := length_of_pieces? hp
          simp only [← h.2, List.length_cons]
          omega
      · split at h
        · cases hn : Numeral.scan? (c :: rest) with
          | none => simp [hn] at h
          | some found =>
            simp only [hn, Option.map_some, Option.some.injEq, Prod.mk.injEq] at h
            have := Numeral.length_of_scan? hn
            rw [← h.2]
            exact this
        · exact length_of_word? h

/-- The tokens of a text. -/
def scan (text : List Char) : List Token :=
  match text with
  | [] => []
  | c :: rest =>
    if isSpace c then scan rest
    else
      match _h : token? (c :: rest) with
      | some (token, after) => token :: scan after
      | none => [.malformed]
  termination_by text.length
  decreasing_by
    · simp
    · exact length_of_token? _h

/-! ## Writing -/

/-- The spelling of a character in a string. Quotes, backslashes and control characters are escaped,
all others stand for themselves. -/
def escape (c : Char) : List Char :=
  if c = '"' then ['\\', '"']
  else if c = '\\' then ['\\', '\\']
  else if c = '\x08' then ['\\', 'b']
  else if c = '\t' then ['\\', 't']
  else if c = '\n' then ['\\', 'n']
  else if c = '\x0c' then ['\\', 'f']
  else if c = '\r' then ['\\', 'r']
  else if c.toNat < 32 then '\\' :: 'u' :: Text.hexadecimal 4 c.toNat
  else [c]

/-- The spelling of a string. -/
def quote (s : String) : List Char := '"' :: s.toList.flatMap escape ++ ['"']

/-- The spelling of a token. -/
def Token.text : Token → List Char
  | .openBrace => ['\x7b']
  | .closeBrace => ['\x7d']
  | .openBracket => ['[']
  | .closeBracket => [']']
  | .comma => [',']
  | .colon => [':']
  | .null => "null".toList
  | .bool true => "true".toList
  | .bool false => "false".toList
  | .number x => x.text
  | .string content => quote (content.getD "")
  | .malformed => []

end DeviceSlots.Json
