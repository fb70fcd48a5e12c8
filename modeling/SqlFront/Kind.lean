/-!
# SqlFront.Kind

The role of a node in an abstract tree.
-/

namespace SqlFront

inductive Kind where
  | select
  | createTable
  | insert
  | columnList
  | tableName
  | binaryPredicate
  | valueList
  | columnDefinitions
  | columnDefinition
  | dataType
  | constraint
  | identifier
  | value
  | leftOperand
  | operator
  | rightOperand
deriving DecidableEq, Repr

namespace Kind

def name : Kind → String
  | .select => "select"
  | .createTable => "create-table"
  | .insert => "insert"
  | .columnList => "column-list"
  | .tableName => "table-name"
  | .binaryPredicate => "binary-predicate"
  | .valueList => "value-list"
  | .columnDefinitions => "column-definitions"
  | .columnDefinition => "column-definition"
  | .dataType => "data-type"
  | .constraint => "constraint"
  | .identifier => "identifier"
  | .value => "value"
  | .leftOperand => "left-operand"
  | .operator => "operator"
  | .rightOperand => "right-operand"

/-- Every kind, statements first, then clauses, then leaves. -/
def all : List Kind :=
  [.select, .createTable, .insert, .columnList, .tableName, .binaryPredicate, .valueList,
   .columnDefinitions, .columnDefinition, .dataType, .constraint, .identifier, .value,
   .leftOperand, .operator, .rightOperand]

theorem mem_all (kind : Kind) : kind ∈ all := by
  cases kind <;> decide

/-- The kind of that name, if there is one. -/
def ofName? (name : String) : Option Kind :=
  all.find? fun kind => kind.name == name

@[simp] theorem ofName?_name (kind : Kind) : ofName? kind.name = some kind := by
  cases kind <;> decide

/-- The kinds of a whole statement. -/
def isStatement : Kind → Bool
  | .select | .createTable | .insert => true
  | _ => false

/-- The kinds of nodes that stand for a single token. -/
def isLeafRole : Kind → Bool
  | .identifier | .value | .leftOperand | .operator | .rightOperand => true
  | _ => false

end Kind
end SqlFront
