import SqlFront.Kind

/-!
# SqlFront.Tree

Labelled trees. A grammar tree has the names of the grammar (`<column_list>`) and the tokens as
labels and no kinds; an abstract tree has kinds, and labels only where a node stands for a token.
-/

namespace SqlFront

/-- A node: its label, its kind if it has one, and its children in order. -/
structure Tree where
  label : String := ""
  kind : Option Kind := none
  children : List Tree := []

namespace Tree

instance : Inhabited Tree := ⟨{}⟩

/-! ## Construction -/

/-- A node without kind. -/
def plain (label : String) (children : List Tree) : Tree := ⟨label, none, children⟩

/-- A node without kind and children. -/
def token (label : String) : Tree := plain label []

/-- A node of the kind, without children. -/
def leaf (label : String) (kind : Kind) : Tree := ⟨label, some kind, []⟩

/-- A node of the kind, without label. -/
def tagged (kind : Kind) (children : List Tree) : Tree := ⟨"", some kind, children⟩

/-- The node with another kind. -/
def withKind (tree : Tree) (kind : Kind) : Tree := { tree with kind := some kind }

/-- The node with one more child, after the others. -/
def addChild (tree child : Tree) : Tree := { tree with children := tree.children ++ [child] }

/-! ## Questions -/

def isLeaf (tree : Tree) : Bool := tree.children.isEmpty

/-- The first child of the kind. -/
def childOfKind? (tree : Tree) (kind : Kind) : Option Tree :=
  tree.children.find? fun child => child.kind == some kind

mutual

/-- The number of nodes. -/
def size : Tree → Nat
  | ⟨_, _, children⟩ => 1 + sizes children

def sizes : List Tree → Nat
  | [] => 0
  | tree :: trees => size tree + sizes trees

end

mutual

/-- The nodes in preorder, each with its depth below the root of the whole tree. -/
def rows (depth : Nat) : Tree → List (Nat × Option Kind × String)
  | ⟨label, kind, children⟩ => (depth, kind, label) :: rowsOf (depth + 1) children

def rowsOf (depth : Nat) : List Tree → List (Nat × Option Kind × String)
  | [] => []
  | tree :: trees => rows depth tree ++ rowsOf depth trees

end

/-! ## Equality -/

mutual

def decideEq : (s t : Tree) → Decidable (s = t)
  | ⟨label, kind, children⟩, ⟨label', kind', children'⟩ =>
    if hlabel : label = label' then
      if hkind : kind = kind' then
        match decideEqAll children children' with
        | isTrue hchildren => isTrue (by rw [hlabel, hkind, hchildren])
        | isFalse h => isFalse fun heq => h (Tree.mk.inj heq).2.2
      else isFalse fun heq => hkind (Tree.mk.inj heq).2.1
    else isFalse fun heq => hlabel (Tree.mk.inj heq).1

def decideEqAll : (ss ts : List Tree) → Decidable (ss = ts)
  | [], [] => isTrue rfl
  | [], _ :: _ => isFalse nofun
  | _ :: _, [] => isFalse nofun
  | s :: ss, t :: ts =>
    match decideEq s t with
    | isFalse h => isFalse fun heq => h (List.cons.inj heq).1
    | isTrue hhead =>
      match decideEqAll ss ts with
      | isTrue htail => isTrue (by rw [hhead, htail])
      | isFalse h => isFalse fun heq => h (List.cons.inj heq).2

end

instance : DecidableEq Tree := decideEq

end Tree
end SqlFront
