import SqlFront.Event
import SqlFront.Reader
import SqlFront.Statement

/-!
# SqlFront.Statement.Grammar

The grammar as readers of tokens. A rule looks at most one token ahead and the first mismatch ends
the reading, so a refusal is about the first token that fits no statement.
-/

namespace SqlFront

/-- Why a statement is refused: the fault, and what the log notes at its place. -/
structure Refusal where
  fault : Fault
  notes : List Event

namespace Grammar

/-- A rule reads tokens or refuses them. -/
abbrev Rule (α : Type) : Type := Reader String Refusal α

/-! ## Refusals -/

/-- The next token is not what the rule wants. -/
def mismatch (what : String) (c : Cursor String) : Refusal where
  fault := .expected what c.rest.head? c.position
  notes := [.ruleFailed what c.rest.head? c.position]

/-- A token follows the end of the statement. -/
def leftover (c : Cursor String) : Refusal where
  fault := .expected Fault.endOfInput c.rest.head? c.position
  notes := [.trailing c.rest.head? c.position]

/-- Refuses without a note. -/
def refuse {α : Type} (fault : Fault) : Rule α := .fail fun _ => ⟨fault, []⟩

/-! ## Tokens -/

/-- A token of the class, called `what` in a refusal. -/
def tokenOf (what : String) (test : String → Bool) : Rule (TokenOf test) :=
  .accept test (mismatch what)

/-- This token and no other. -/
def exactly (token : String) : Rule Unit := do
  let _ ← tokenOf token (· == token)

/-- A name, called `what` in a refusal. -/
def name (what : String) : Rule Name := tokenOf what Token.isIdentifier

/-! ## Lists -/

/-- One item, and one more after each comma. -/
def listed {α : Type} (item : Rule α) : Rule (Listed α) := do
  let head ← item
  let tail ← Reader.loop (fun rest => rest.head? == some ",") fun _ => item
  return ⟨head, tail⟩

/-- The list before a closing parenthesis. A list without elements is refused as such. -/
def enclosed {α : Type} (element context : String) (item : Rule α) : Rule (Listed α) := do
  if (← Reader.peek?) == some ")" then refuse (.missing element context) else listed item

/-- A list in parentheses. -/
def parenthesized {α : Type} (element context : String) (item : Rule α) : Rule (Listed α) := do
  exactly "("
  let items ← enclosed element context item
  exactly ")"
  return items

/-- The columns of a `SELECT`. A list without elements is refused as such. -/
def selectColumns : Rule (Listed (TokenOf Token.isSelectable)) := do
  match ← Reader.peek? with
  | none | some "FROM" => refuse (.missing "column name" "after SELECT")
  | some _ => listed (tokenOf "column name" Token.isSelectable)

/-! ## Clauses -/

/-- One comparison; conditions are not combined. -/
def condition : Rule Condition := do
  let left ← tokenOf "left operand" Token.isValue
  let operator ← tokenOf "comparison operator" Token.isComparisonOperator
  let right ← tokenOf "right operand" Token.isValue
  return { left, operator, right }

/-- A condition after the word for it, or nothing. -/
def optionalWhere : Rule (Option Condition) := do
  if (← Reader.peek?) == some "WHERE" then
    exactly "WHERE"
    let condition ← condition
    return some condition
  else return none

/-- The size of a data type in parentheses, or nothing. -/
def size : Rule (Option (TokenOf Token.isNumericLiteral)) := do
  if (← Reader.peek?) == some "(" then
    exactly "("
    let size ← tokenOf "size" Token.isNumericLiteral
    exactly ")"
    return some size
  else return none

/-- The name of a column, its type and, if one is given, its size. -/
def definition : Rule Definition := do
  let name ← name "column name"
  let type ← tokenOf "data type" Token.isTypeName
  let size ← size
  return { name, type, size }

/-! ## Statements

Each rule reads what follows the first word of its statement. -/

def select : Rule Statement := do
  let columns ← selectColumns
  exactly "FROM"
  let table ← name "table name"
  let condition ← optionalWhere
  exactly ";"
  return .select columns table condition

def insert : Rule Statement := do
  exactly "INTO"
  let table ← name "table name"
  let columns ← parenthesized "column name" "in INSERT" (name "column name")
  exactly "VALUES"
  let values ← parenthesized "value" "in VALUES" (tokenOf "value" Token.isValue)
  exactly ";"
  return .insert table columns values

def createTable : Rule Statement := do
  exactly "TABLE"
  let table ← name "table name"
  let definitions ← parenthesized "column definition" "in CREATE TABLE" definition
  exactly ";"
  return .createTable table definitions

/-- The rest of the statement that the token starts. -/
def statementFrom (leading : String) : Rule Statement :=
  match leading with
  | "SELECT" => select
  | "INSERT" => insert
  | "CREATE" => createTable
  | _ => refuse (.unrecognized leading)

/-- Nothing may follow a statement. -/
def finish : Rule Unit := do
  if (← Reader.peek?).isSome then .fail leftover else return ()

end Grammar

namespace Statement

/-- The one statement that the tokens are, or why they are none. -/
def ofTokensLogged (tokens : List String) : Logged (Except Fault Statement) :=
  match tokens with
  | [] => .silent (.error .empty)
  | leading :: rest =>
    let reading : Grammar.Rule Statement := do
      let statement ← Grammar.statementFrom leading
      Grammar.finish
      return statement
    match reading.run ⟨1, rest⟩ with
    | .ok (statement, _) => ⟨.ok statement, [.parsing leading tokens.length]⟩
    | .error refusal =>
      ⟨.error refusal.fault,
       .parsing leading tokens.length :: refusal.notes ++ [.parseFailed refusal.fault]⟩

def ofTokens (tokens : List String) : Except Fault Statement := (ofTokensLogged tokens).value

end Statement

/-- The grammar tree of the statement that the tokens are. -/
def parse (tokens : List String) : Except Fault Tree :=
  (Statement.ofTokens tokens).map Statement.tree

end SqlFront
