import SqlFront.Label
import SqlFront.Token
import SqlFront.Tree

/-!
# SqlFront.Statement

The statements of the language, and two ways to write one: as the list of its tokens and as its
grammar tree.

    SELECT c, ..., c FROM t [WHERE v op v] ;
    INSERT INTO t ( c, ..., c ) VALUES ( v, ..., v ) ;
    CREATE TABLE t ( c type [( size )], ..., c type [( size )] ) ;

Names, values and the like carry the proof that they are tokens of their class, so every statement
is well formed.
-/

namespace SqlFront

/-- A token of a class. -/
abbrev TokenOf (test : String → Bool) : Type := { token : String // test token = true }

/-- The name of a table or a column. -/
abbrev Name : Type := TokenOf Token.isIdentifier

/-- A list that is not empty. -/
structure Listed (α : Type) where
  head : α
  tail : List α
deriving DecidableEq

def Listed.toList {α : Type} (items : Listed α) : List α := items.head :: items.tail

/-- A comparison of two values. -/
structure Condition where
  left : TokenOf Token.isValue
  operator : TokenOf Token.isComparisonOperator
  right : TokenOf Token.isValue
deriving DecidableEq

/-- A column of a new table. -/
structure Definition where
  name : Name
  type : TokenOf Token.isTypeName
  size : Option (TokenOf Token.isNumericLiteral)
deriving DecidableEq

inductive Statement where
  | select (columns : Listed (TokenOf Token.isSelectable)) (table : Name)
      (condition : Option Condition)
  | insert (table : Name) (columns : Listed Name) (values : Listed (TokenOf Token.isValue))
  | createTable (table : Name) (definitions : Listed Definition)
deriving DecidableEq

/-! ## Tokens -/

/-- The parts with a comma between each two. -/
def Listed.tokens {α : Type} (part : α → List String) (items : Listed α) : List String :=
  part items.head ++ items.tail.flatMap fun item => "," :: part item

def Condition.tokens (condition : Condition) : List String :=
  [condition.left.val, condition.operator.val, condition.right.val]

def Definition.tokens (definition : Definition) : List String :=
  [definition.name.val, definition.type.val] ++
    match definition.size with
    | some size => ["(", size.val, ")"]
    | none => []

namespace Statement

/-- The tokens of the statement, in order. -/
def tokens : Statement → List String
  | .select columns table condition =>
    ["SELECT"] ++ columns.tokens (fun column => [column.val]) ++ ["FROM", table.val] ++
      (match condition with
       | some condition => "WHERE" :: condition.tokens
       | none => []) ++ [";"]
  | .insert table columns values =>
    ["INSERT", "INTO", table.val, "("] ++ columns.tokens (fun column => [column.val]) ++
      [")", "VALUES", "("] ++ values.tokens (fun value => [value.val]) ++ [")", ";"]
  | .createTable table definitions =>
    ["CREATE", "TABLE", table.val, "("] ++ definitions.tokens Definition.tokens ++ [")", ";"]

end Statement

/-! ## Grammar trees -/

/-- The rest of a list after its first element. The node is there even if nothing is left. -/
def tailTree (tailLabel : String) : List Tree → Tree
  | [] => .plain tailLabel []
  | item :: items => .plain tailLabel [.token ",", item, tailTree tailLabel items]

/-- A list as the grammar has it: the first element, then the rest. -/
def Listed.tree {α : Type} (label tailLabel : String) (part : α → Tree) (items : Listed α) : Tree :=
  .plain label [part items.head, tailTree tailLabel (items.tail.map part)]

def Condition.tree (condition : Condition) : Tree :=
  .plain Label.condition
    [.token condition.left.val, .token condition.operator.val, .token condition.right.val]

def Definition.tree (definition : Definition) : Tree :=
  .plain Label.columnDef
    [.token definition.name.val,
     .plain Label.dataType
       (.token definition.type.val ::
         match definition.size with
         | some size => [.token "(", .token size.val, .token ")"]
         | none => [])]

namespace Statement

/-- A token below the name that the grammar gives it. -/
def wrapped (label : String) (token : String) : Tree := .plain label [.token token]

/-- The grammar tree of the statement. -/
def tree : Statement → Tree
  | .select columns table condition =>
    .plain Label.query
      [.token "SELECT",
       columns.tree Label.columnList Label.columnListTail fun column =>
         wrapped Label.columnName column.val,
       .token "FROM",
       wrapped Label.tableName table.val,
       .plain Label.optionalWhere
         (match condition with
          | some condition => [.token "WHERE", condition.tree]
          | none => []),
       .token ";"]
  | .insert table columns values =>
    .plain Label.query
      [.token "INSERT",
       .token "INTO",
       wrapped Label.tableName table.val,
       .token "(",
       columns.tree Label.columnList Label.columnListTail fun column =>
         wrapped Label.columnName column.val,
       .token ")",
       .token "VALUES",
       .token "(",
       values.tree Label.valueList Label.valueListTail fun value => wrapped Label.value value.val,
       .token ")",
       .token ";"]
  | .createTable table definitions =>
    .plain Label.query
      [.token "CREATE",
       .token "TABLE",
       wrapped Label.tableName table.val,
       .token "(",
       definitions.tree Label.columnDefsList Label.columnDefsListTail Definition.tree,
       .token ")",
       .token ";"]

end Statement
end SqlFront
