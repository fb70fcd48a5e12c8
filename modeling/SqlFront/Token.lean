import SqlFront.Text.Alphabetic
import SqlFront.Text.Numeric
import SqlFront.Text.Blank
import SqlFront.Text.Capital
import SqlFront.Vocabulary

/-!
# SqlFront.Token

Classes of tokens. A token is any text; each class is a test on it, and the tests are defined on
every text, also on those that no query is cut into.
-/

namespace SqlFront
namespace Token

/-! ## Characters -/

/-- The mark at both ends of a literal. -/
def quote : Char := '\x27'

/-- A character that starts a word. -/
def startsWord (c : Char) : Bool := Text.isAlphabetic c || c == '_'

/-- A character that continues a word. -/
def continuesWord (c : Char) : Bool := Text.isAlphabetic c || Text.isNumeric c || c == '_'

/-! ## Classes -/

def isKeyword (token : String) : Bool := Vocabulary.keywords.contains token

def isSymbol (token : String) : Bool := Vocabulary.symbols.contains token

def isComparisonOperator (token : String) : Bool := Vocabulary.comparisonOperators.contains token

def isLiteralKeyword (token : String) : Bool := Vocabulary.literalKeywords.contains token

/-- A token that names something. Only its first character is looked at. -/
def isIdentifier (token : String) : Bool :=
  token.toList.head?.any startsWord && !isKeyword token

/-- A built-in data type, in letters of any case. -/
def isBuiltinType (token : String) : Bool :=
  Vocabulary.dataTypes.any fun name => Text.sameLetters name token

/-- A built-in data type or one that the user names. -/
def isTypeName (token : String) : Bool := isBuiltinType token || isIdentifier token

/-- Decimal digits, at least one. -/
def isNumericLiteral (token : String) : Bool :=
  !token.toList.isEmpty && token.toList.all Char.isDigit

/-- A quoted literal, closed or not. -/
def isStringLiteral (token : String) : Bool := token.toList.head? == some quote

/-- A token that may stand in a list of values or on either side of a comparison. -/
def isValue (token : String) : Bool :=
  isIdentifier token || isNumericLiteral token || isStringLiteral token || isLiteralKeyword token

/-- A column of a `SELECT`: a name, or the star for all columns. -/
def isSelectable (token : String) : Bool := token == "*" || isIdentifier token

/-- A name of the grammar, written `<like_this>`. No token is one. -/
def isNonTerminal (label : String) : Bool :=
  decide (2 < label.toList.length) && label.toList.head? == some '<' &&
    label.toList.getLast? == some '>'

/-! ## Reserved words -/

/-- A word as a token: in capitals if these are a reserved word, and as it is written otherwise. -/
def ofWord (word : String) : String :=
  if isKeyword (Text.capitals word) then Text.capitals word else word

end Token
end SqlFront
