/-!
# Tokens of a type name

A raw type name is cut into tokens, always taking the longest token that starts at the front. Blanks
between tokens are skipped, and a character that starts no token is one of its own.
-/

namespace DeviceSlots.TypeName

/-- Keywords that may precede a type name without changing the type. -/
inductive Qualifier
  | classWord | structWord | enumWord | unionWord
  deriving DecidableEq

/-- The keyword as it is written. -/
def Qualifier.keyword : Qualifier → String
  | .classWord => "class"
  | .structWord => "struct"
  | .enumWord => "enum"
  | .unionWord => "union"

/-- All qualifiers. -/
def Qualifier.all : List Qualifier := [.classWord, .structWord, .enumWord, .unionWord]

/-- The keyword of the 64-bit integer type that only some platforms know. -/
def platformInt64 : String := "__int64"

/-- A token of a raw type name. -/
inductive Token
  /-- One of the keywords `class`, `struct`, `enum`, `union`. -/
  | qualifier (keyword : Qualifier)
  /-- The keyword `__int64`. -/
  | int64
  /-- Any other identifier or keyword. -/
  | word (text : List Char)
  /-- Decimal digits and the letters of a literal suffix. -/
  | number (text : List Char)
  /-- The mark `::`. -/
  | scope
  /-- A comma. -/
  | comma
  /-- A bracket, a star or an ampersand. -/
  | mark (c : Char)
  /-- A character that starts no token. -/
  | stray (c : Char)
  deriving DecidableEq

/-- The blanks that separate tokens. -/
def isSeparator (c : Char) : Bool := c = ' ' || c = '\t' || c = '\r' || c = '\n'

/-- The characters that may start a word: ASCII letters and the underscore. -/
def isWordStart (c : Char) : Bool := c.isAlpha || c = '_'

/-- The characters that may continue a word: ASCII letters, digits and the underscore. -/
def isWordPart (c : Char) : Bool := c.isAlphanum || c = '_'

/-- The letters of a literal suffix such as `ull`. -/
def isSuffixLetter (c : Char) : Bool := c = 'u' || c = 'U' || c = 'l' || c = 'L'

/-- The marks that stand for themselves. -/
def isMark (c : Char) : Bool := ['<', '>', '(', ')', '[', ']', '*', '&'].contains c

/-- The token of a whole word: a keyword if it is one. -/
def wordToken (text : List Char) : Token :=
  match Qualifier.all.find? fun q => q.keyword.toList = text with
  | some q => .qualifier q
  | none => if text = platformInt64.toList then .int64 else .word text

theorem length_dropWhile_le (p : Char → Bool) (text : List Char) :
    (text.dropWhile p).length ≤ text.length :=
  (List.dropWhile_sublist p).length_le

/-- The tokens of a text, longest first at every position. -/
def scan : List Char → List Token
  | [] => []
  | c :: rest =>
    if isSeparator c then
      scan rest
    else if isWordStart c then
      wordToken (c :: rest.takeWhile isWordPart) :: scan (rest.dropWhile isWordPart)
    else if c.isDigit then
      let afterDigits := rest.dropWhile Char.isDigit
      .number (c :: rest.takeWhile Char.isDigit ++ afterDigits.takeWhile isSuffixLetter) ::
        scan (afterDigits.dropWhile isSuffixLetter)
    else if c = ':' && rest.head? = some ':' then
      .scope :: scan rest.tail
    else if c = ',' then
      .comma :: scan rest
    else if isMark c then
      .mark c :: scan rest
    else
      .stray c :: scan rest
  termination_by text => text.length
  decreasing_by
    all_goals simp only [List.length_cons, List.length_tail]
    case _ => omega
    case _ => exact Nat.lt_succ_of_le (length_dropWhile_le _ _)
    case _ =>
      exact Nat.lt_succ_of_le (Nat.le_trans (length_dropWhile_le _ _) (length_dropWhile_le _ _))
    all_goals omega

end DeviceSlots.TypeName
