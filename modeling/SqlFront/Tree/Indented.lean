import SqlFront.Tree

/-!
# SqlFront.Tree.Indented

Trees as indented text: one node to a line, two spaces to a level. A kind is written in brackets,
before the label.
-/

namespace SqlFront
namespace Tree

/-- What a line shows of its node. -/
def caption (label : String) : Option Kind → String
  | some kind =>
    if label.isEmpty then "[" ++ kind.name ++ "]" else "[" ++ kind.name ++ "] " ++ label
  | none => label

/-- The white space before a node of the given depth. -/
def margin (depth : Nat) : String := String.ofList (List.replicate (2 * depth) ' ')

mutual

/-- The lines of a tree whose root has the given depth. -/
def indented (depth : Nat) : Tree → String
  | ⟨label, kind, children⟩ =>
    margin depth ++ caption label kind ++ "\n" ++ indentedAll (depth + 1) children

def indentedAll (depth : Nat) : List Tree → String
  | [] => ""
  | tree :: trees => indented depth tree ++ indentedAll depth trees

end

/-- The whole tree, its root at the margin. -/
def pretty (tree : Tree) : String := tree.indented 0

end Tree
end SqlFront
