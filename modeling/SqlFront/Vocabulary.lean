/-!
# SqlFront.Vocabulary

The words and signs of the language, in the order in which they are listed to the user.
-/

namespace SqlFront
namespace Vocabulary

/-- Reserved words, in capitals. Names of data types are not reserved. -/
def keywords : List String :=
  ["SELECT", "FROM", "WHERE", "INSERT", "INTO", "VALUES", "CREATE", "TABLE",
   "AND", "OR", "NOT", "NULL", "TRUE", "FALSE"]

/-- Reserved signs of one or two characters. -/
def symbols : List String :=
  ["<>", "!=", "<=", ">=", ",", ";", "(", ")", "*", "=", "<", ">", "+", "-", "/", "."]

/-- The signs that may stand between the two operands of a condition. -/
def comparisonOperators : List String := ["=", "<>", "!=", "<", ">", "<=", ">="]

/-- Built-in data types. -/
def dataTypes : List String :=
  ["INT", "INTEGER", "BIGINT", "SMALLINT", "FLOAT", "REAL", "DOUBLE", "DECIMAL", "CHAR",
   "VARCHAR", "TEXT", "BOOLEAN", "DATE", "TIMESTAMP"]

/-- Reserved words that stand for a value. -/
def literalKeywords : List String := ["NULL", "TRUE", "FALSE"]

end Vocabulary
end SqlFront
