import SqlFront.Event
import SqlFront.Label
import SqlFront.Token
import SqlFront.Tree

/-!
# SqlFront.Reduction

The reduction of a grammar tree to an abstract tree. A table says by label what becomes of a node:
keywords and punctuation disappear, the clauses get a kind, and everything else passes through:
wrappers hand their content to the node above, and tokens become leaves.

The reduction is defined on every tree, also on those that belong to no statement.
-/

namespace SqlFront
namespace Reduction

/-! ## The table -/

inductive Rule where
  | delete
  | relabel (kind : Kind)
  | passThrough
deriving DecidableEq, Repr

/-- The labels that do not simply pass through. -/
def table : List (String × Rule) :=
  [(Label.columnList, .relabel .columnList),
   (Label.tableName, .relabel .tableName),
   (Label.optionalWhere, .relabel .binaryPredicate),
   (Label.valueList, .relabel .valueList),
   (Label.columnDefsList, .relabel .columnDefinitions),
   (Label.columnDef, .relabel .columnDefinition),
   (Label.dataType, .relabel .dataType),
   (Label.constraint, .relabel .constraint),
   ("SELECT", .delete),
   ("FROM", .delete),
   ("WHERE", .delete),
   ("INSERT", .delete),
   ("INTO", .delete),
   ("VALUES", .delete),
   ("CREATE", .delete),
   ("TABLE", .delete),
   (",", .delete),
   (";", .delete),
   ("(", .delete),
   (")", .delete)]

/-- What becomes of a node with the label. -/
def ruleFor (label : String) : Rule := (table.lookup label).getD .passThrough

/-- The kind of statement that the word announces. -/
def statementKind? : String → Option Kind
  | "SELECT" => some .select
  | "CREATE" => some .createTable
  | "INSERT" => some .insert
  | _ => none

/-! ## Parts -/

/-- A data type and the values in its parentheses, from the children of its node. -/
def dataType : List Tree → List Tree
  | [] => [.tagged .dataType []]
  | name :: rest =>
    .leaf name.label .dataType ::
      (rest.filter fun part => part.label != "(" && part.label != ")").map fun part =>
        .leaf part.label .value

/-- What a part of a column definition after the name becomes. -/
def definitionPart (part : Tree) : List Tree :=
  match ruleFor part.label with
  | .relabel .dataType => dataType part.children
  | .relabel .constraint => [part.withKind .constraint]
  | _ => []

/-- A column definition, from the children of its node. The first of them is the name of the
column, whatever its label. -/
def definition : List Tree → Tree
  | [] => .tagged .columnDefinition []
  | name :: parts =>
    .tagged .columnDefinition (.leaf name.label .identifier :: parts.flatMap definitionPart)

mutual

/-- What is left of a node inside a clause. A token becomes a leaf of the kind that the clause
gives to its leaves. -/
def survivors (leafKind : Kind) : Tree → List Tree
  | ⟨label, kind, children⟩ =>
    match ruleFor label with
    | .delete => []
    | .relabel .columnDefinition => [definition children]
    | .relabel .dataType => dataType children
    | .relabel .constraint => [Tree.withKind ⟨label, kind, children⟩ .constraint]
    | .relabel _ => survivorsAll leafKind children
    | .passThrough =>
      if Token.isNonTerminal label then survivorsAll leafKind children
      else [.leaf label leafKind]

def survivorsAll (leafKind : Kind) : List Tree → List Tree
  | [] => []
  | tree :: trees => survivors leafKind tree ++ survivorsAll leafKind trees

end

/-! ## Clauses -/

/-- The leaves of a list of values are values; those of any other clause name something. -/
def leafKindOf : Kind → Kind
  | .valueList => .value
  | _ => .identifier

/-- A table name is one leaf, labelled with the name. -/
def tableName : List Tree → Tree
  | [] => .tagged .tableName []
  | name :: _ => .leaf name.label .tableName

/-- A condition has exactly three parts. An absent one leaves nothing. -/
def predicate : List Tree → Except Fault (List Tree)
  | [] => .ok []
  | children =>
    match survivorsAll .identifier children with
    | [left, operator, right] =>
      .ok [.tagged .binaryPredicate
        [left.withKind .leftOperand, operator.withKind .operator, right.withKind .rightOperand]]
    | parts => .error (.malformedPredicate parts.length)

/-- What a child of the root becomes. -/
def clause (tree : Tree) : Except Fault (List Tree) :=
  match ruleFor tree.label with
  | .delete => .ok []
  | .relabel .tableName => .ok [tableName tree.children]
  | .relabel .binaryPredicate => predicate tree.children
  | .relabel kind => .ok [.tagged kind (survivorsAll (leafKindOf kind) tree.children)]
  | .passThrough =>
    if Token.isNonTerminal tree.label then .ok (survivorsAll .identifier tree.children)
    else .ok [.leaf tree.label .identifier]

/-- What the children of the root become. The first fault is the one that counts. -/
def clauses : List Tree → Except Fault (List Tree)
  | [] => .ok []
  | tree :: trees =>
    match clause tree with
    | .error fault => .error fault
    | .ok parts =>
      match clauses trees with
      | .error fault => .error fault
      | .ok rest => .ok (parts ++ rest)

end Reduction

namespace Tree

/-- The abstract tree. Its kind is that of the first child of the root that announces a
statement. -/
def toAstLogged (tree : Tree) : Logged (Except Fault Tree) :=
  match tree.children.findSome? fun child => Reduction.statementKind? child.label with
  | none =>
    .silent (.error (.unrecognized ((tree.children.head?.map Tree.label).getD "")))
  | some kind =>
    match Reduction.clauses tree.children with
    | .error fault => .silent (.error fault)
    | .ok children => ⟨.ok (.tagged kind children), [.builtAst kind children.length]⟩

def toAst (tree : Tree) : Except Fault Tree := tree.toAstLogged.value

end Tree
end SqlFront
