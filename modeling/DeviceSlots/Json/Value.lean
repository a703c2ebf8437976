import DeviceSlots.Json.Token

/-!
# Writing JSON

Values, their tokens, and two texts of them. The compact text is the tokens without blanks. The
indented text has each element and each member on a line of its own, two columns further in than the
line of the bracket around them.
-/

namespace DeviceSlots.Json

/-- A JSON value whose numbers are natural. -/
inductive Value
  | null
  | bool (b : Bool)
  | number (n : Nat)
  | string (s : String)
  | array (items : List Value)
  | object (members : List (String × Value))

namespace Value

/-! ## Tokens and compact text -/

/-- Puts commas between rows of tokens. -/
def separate : List (List Token) → List Token
  | [] => []
  | [row] => row
  | row :: rest => row ++ .comma :: separate rest

mutual

/-- The tokens of a value. -/
def tokens : Value → List Token
  | null => [.null]
  | bool b => [.bool b]
  | number n => [.number (.ofNat n)]
  | string s => [.string (some s)]
  | array items => .openBracket :: separate (itemTokens items) ++ [.closeBracket]
  | object members => .openBrace :: separate (memberTokens members) ++ [.closeBrace]

/-- The tokens of each value. -/
def itemTokens : List Value → List (List Token)
  | [] => []
  | v :: rest => v.tokens :: itemTokens rest

/-- The tokens of each member. -/
def memberTokens : List (String × Value) → List (List Token)
  | [] => []
  | (key, v) :: rest => (.string (some key) :: .colon :: v.tokens) :: memberTokens rest

end

/-- The text of a value without blanks. -/
def compact (v : Value) : String := String.ofList (v.tokens.flatMap Token.text)

/-! ## Indented text -/

/-- Lines with a comma after each but the last group. -/
def commas : List (List Char) → List Char
  | [] => []
  | [line] => line
  | line :: rest => line ++ ',' :: commas rest

/-- A line feed and the columns of a depth. -/
def newline (depth : Nat) : List Char := '\n' :: List.replicate (2 * depth) ' '

/-- Parts between brackets, each on a line of its own. -/
def enclose (depth : Nat) (left right : Char) (parts : List (List Char)) : List Char :=
  if parts.isEmpty then [left, right]
  else left :: commas (parts.map (newline (depth + 1) ++ ·)) ++ newline depth ++ [right]

mutual

/-- The indented text of a value inside brackets of the given depth. -/
def indentedAt (depth : Nat) : Value → List Char
  | array items => enclose depth '[' ']' (indentedItems depth items)
  | object members => enclose depth '\x7b' '\x7d' (indentedMembers depth members)
  | null => Token.null.text
  | bool b => (Token.bool b).text
  | number n => (Token.number (.ofNat n)).text
  | string s => quote s

/-- The indented text of each value. -/
def indentedItems (depth : Nat) : List Value → List (List Char)
  | [] => []
  | v :: rest => indentedAt (depth + 1) v :: indentedItems depth rest

/-- The indented text of each member. -/
def indentedMembers (depth : Nat) : List (String × Value) → List (List Char)
  | [] => []
  | (key, v) :: rest =>
    (quote key ++ [':', ' '] ++ indentedAt (depth + 1) v) :: indentedMembers depth rest

end

/-- The text of a value with one element or member a line. -/
def indented (v : Value) : String := String.ofList (v.indentedAt 0)

end Value

end DeviceSlots.Json
