import SqlFront.Text.Json
import SqlFront.Tree

/-!
# SqlFront.Tree.Encoded

Trees as JSON values. A node is an object with the fields `label`, `kind` and `children`, in this
order; an absent kind and an empty list of children have no field.
-/

namespace SqlFront
namespace Tree

/-- The field of a kind, if there is one. -/
def kindField (kind : Option Kind) : List (String × Json) :=
  match kind with
  | some kind => [("kind", .text kind.name)]
  | none => []

/-- The field of the encoded children, if there are any. -/
def childrenField (children : List Json) : List (String × Json) :=
  match children with
  | [] => []
  | _ => [("children", .array children)]

mutual

/-- The object of a node. -/
def toJson : Tree → Json
  | ⟨label, kind, children⟩ =>
    .object (("label", .text label) :: kindField kind ++ childrenField (toJsonAll children))

def toJsonAll : List Tree → List Json
  | [] => []
  | tree :: trees => toJson tree :: toJsonAll trees

end

end Tree
end SqlFront
