import GridPuzzle.Yaml.Basic
import GridPuzzle.Yaml.Stamp

/-!
# Tags of plain scalars

A plain scalar is a truth value, a number, a date, null or a text, by its spelling alone. Integers
are written in base two, eight, ten or sixteen, or as sexagesimal parts between colons;
floating-point numbers need a point, and the sign of their exponent is written. Underscores may
stand between digits. Two spellings have a tag of their own and no value: the one that merges
mappings, and the equals sign.
-/

namespace GridPuzzle.Yaml

def textTag : String := standardTag "str"

def nullTag : String := standardTag "null"

def boolTag : String := standardTag "bool"

def intTag : String := standardTag "int"

def floatTag : String := standardTag "float"

def stampTag : String := standardTag "timestamp"

/-- The tag of a key that merges mappings. -/
def mergeTag : String := standardTag "merge"

/-- The tag of the equals sign. -/
def valueTag : String := standardTag "value"

/-! ## Words -/

def boolWords : List String :=
  ["yes", "Yes", "YES", "true", "True", "TRUE", "on", "On", "ON",
    "no", "No", "NO", "false", "False", "FALSE", "off", "Off", "OFF"]

def nullWords : List String := ["", "~", "null", "Null", "NULL"]

/-! ## Integers -/

def isDigitOrUnderscore (c : Char) : Bool := c.isDigit || c == '_'

/-- The text behind the sign of a number. -/
def behindSign (s : List Char) : List Char :=
  if s.head? == some '-' || s.head? == some '+' then s.drop 1 else s

def isBinaryDigit (c : Char) : Bool := c == '0' || c == '1'

def isOctalDigit (c : Char) : Bool := '0' ≤ c && c ≤ '7'

def isHexDigit (c : Char) : Bool :=
  c.isDigit || ('a' ≤ c && c ≤ 'f') || ('A' ≤ c && c ≤ 'F')

/-- A digit other than zero, then digits and underscores. -/
def isDecimal (s : List Char) : Bool :=
  match s with
  | c :: rest => '1' ≤ c && c ≤ '9' && rest.all isDigitOrUnderscore
  | [] => false

/-- A part of a sexagesimal number behind the first: at most two digits, below sixty. -/
def isSixtieth (s : List Char) : Bool :=
  match s with
  | [c] => c.isDigit
  | [c, d] => '0' ≤ c && c ≤ '5' && d.isDigit
  | _ => false

/-- Whether a number is sexagesimal: its first part is of a kind, and there are more. -/
def isSexagesimal (isFirst : List Char → Bool) (s : List Char) : Bool :=
  match s.splitOn ':' with
  | first :: second :: rest => isFirst first && (second :: rest).all isSixtieth
  | _ => false

/-- Digits and underscores, at least one of either. -/
def areDigits (isDigit : Char → Bool) (s : List Char) : Bool :=
  !s.isEmpty && s.all fun c ↦ isDigit c || c == '_'

/-- The spelling of an integer without its sign. -/
def isNatural (s : List Char) : Bool :=
  match s with
  | ['0'] => true
  | '0' :: 'b' :: digits => areDigits isBinaryDigit digits
  | '0' :: 'x' :: digits => areDigits isHexDigit digits
  | '0' :: digits => areDigits isOctalDigit digits
  | _ => isDecimal s || isSexagesimal isDecimal s

def isInteger (s : List Char) : Bool := isNatural (behindSign s)

/-! ## Floating-point numbers -/

/-- The exponent at the end of a number: a letter, a sign and digits, or nothing. -/
def isExponent : List Char → Bool
  | [] => true
  | e :: sign :: digits =>
    (e == 'e' || e == 'E') && (sign == '-' || sign == '+') && !digits.isEmpty
      && digits.all Char.isDigit
  | _ => false

/-- A digit, then digits and underscores. -/
def isNumeral (s : List Char) : Bool := s.head?.any Char.isDigit && s.all isDigitOrUnderscore

/-- A number with a point in it, without its sign. -/
def isFraction (s : List Char) : Bool :=
  let whole := s.takeWhile (· != '.')
  match s.dropWhile (· != '.') with
  | [] => false
  | _ :: behind =>
    let rest := behind.dropWhile isDigitOrUnderscore
    (isNumeral whole && isExponent rest) || (isSexagesimal isNumeral whole && rest.isEmpty)

/-- The spelling of a floating-point number. One that starts with its point has no sign. -/
def isFloat (s : List Char) : Bool :=
  [".inf", ".Inf", ".INF"].contains (String.ofList (behindSign s))
    || [".nan", ".NaN", ".NAN"].contains (String.ofList s)
    || match s with
      | '.' :: digits =>
        isNumeral (digits.takeWhile isDigitOrUnderscore)
          && isExponent (digits.dropWhile isDigitOrUnderscore)
      | _ => isFraction (behindSign s)

/-! ## Tags -/

/-- The text without one line feed at its end, unless it is nothing else. -/
def beforeFinalBreak (s : List Char) : List Char :=
  if s.length > 1 && s.getLast? == some '\n' then s.dropLast else s

/-- The tag that the spelling of a scalar implies. One line feed at its end does not count. -/
def implicitTag (text : String) : String :=
  let s := beforeFinalBreak text.toList
  let word := String.ofList s
  if boolWords.contains word then boolTag
  else if isFloat s then floatTag
  else if isInteger s then intTag
  else if word == "<<" then mergeTag
  else if nullWords.contains word then nullTag
  else if isStamp s then stampTag
  else if word == "=" then valueTag
  else textTag

end GridPuzzle.Yaml
