import SqlFront.Analysis
import SqlFront.Proofs.Json.Read

/-!
# SqlFront.Proofs.Analysis.Encoded

Trees and analyses from their JSON texts.

A node whose kind or children are left out is decoded as one that has none. The decoder looks the
fields up by their keys, so it needs nothing from their order.

* `ofJson?_toJson`: a tree from its value, by induction on the tree.
* `compact_decodes`: trees and analyses from their texts.
-/

namespace SqlFront

namespace Json

def text? : Json → Option String
  | .text value => some value
  | _ => none

def texts? : Json → Option (List String)
  | .array items => items.mapM text?
  | _ => none

theorem texts?_array (values : List String) : (array (values.map .text)).texts? = some values := by
  rw [texts?, List.mapM_map]
  induction values with
  | nil => rfl
  | cons value values ih => simp_all [text?]

end Json

/-! ## Trees -/

namespace Tree

/-- The kind that the fields give, if they give one. -/
def kindOf? (fields : List (String × Json)) : Option (Option Kind) :=
  match fields.lookup "kind" with
  | none => some none
  | some json => do
    let name ← json.text?
    let kind ← Kind.ofName? name
    return some kind

mutual

/-- The tree of a value, if it is the value of one. -/
def ofJson? : Json → Option Tree
  | .object fields => do
    let label ← fields.lookup "label" >>= Json.text?
    let kind ← kindOf? fields
    let children ← childrenOf? fields
    return ⟨label, kind, children⟩
  | _ => none

/-- The children that the fields give. -/
def childrenOf? : List (String × Json) → Option (List Tree)
  | [] => some []
  | ("children", .array items) :: _ => ofJsonAll? items
  | ("children", _) :: _ => none
  | _ :: fields => childrenOf? fields

def ofJsonAll? : List Json → Option (List Tree)
  | [] => some []
  | json :: jsons => do
    let tree ← ofJson? json
    let trees ← ofJsonAll? jsons
    return tree :: trees

end

/-! ### One node -/

variable (label : String) (kind : Option Kind) (children : List Json)

theorem lookup_label :
    (("label", .text label) :: kindField kind ++ childrenField children).lookup "label" =
      some (.text label) := rfl

theorem kindOf?_fields :
    kindOf? (("label", .text label) :: kindField kind ++ childrenField children) = some kind := by
  have hchildren : (childrenField children).lookup "kind" = none := by
    cases children <;> rfl
  cases kind with
  | none => simp [kindOf?, kindField, List.lookup_cons, hchildren]
  | some kind => simp [kindOf?, kindField, List.lookup_cons, Json.text?]

theorem childrenOf?_fields :
    childrenOf? (("label", .text label) :: kindField kind ++ childrenField children) =
      ofJsonAll? children := by
  have hchildren : childrenOf? (childrenField children) = ofJsonAll? children := by
    cases children <;> simp [childrenField, childrenOf?, ofJsonAll?]
  cases kind <;> simp [kindField, childrenOf?, hchildren]

/-! ### Whole trees -/

mutual

theorem ofJson?_toJson : ∀ tree : Tree, ofJson? tree.toJson = some tree
  | ⟨label, kind, children⟩ => by
    rw [toJson, ofJson?, lookup_label, kindOf?_fields, childrenOf?_fields,
      ofJsonAll?_toJsonAll children]
    rfl

theorem ofJsonAll?_toJsonAll : ∀ trees : List Tree, ofJsonAll? (toJsonAll trees) = some trees
  | [] => rfl
  | tree :: trees => by
    rw [toJsonAll, ofJsonAll?, ofJson?_toJson tree, ofJsonAll?_toJsonAll trees]
    rfl

end

end Tree

/-! ## Analyses -/

namespace Analysis

/-- The analysis of a value, if it is the value of one. -/
def ofJson? : Json → Option Analysis
  | .object fields => do
    let tokens ← fields.lookup "tokens" >>= Json.texts?
    let cst ← fields.lookup "cst" >>= Tree.ofJson?
    let ast ← fields.lookup "ast" >>= Tree.ofJson?
    return { tokens, cst, ast }
  | _ => none

theorem ofJson?_toJson (analysis : Analysis) : ofJson? analysis.toJson = some analysis := by
  simp [toJson, ofJson?, List.lookup_cons, Json.texts?_array, Tree.ofJson?_toJson]

end Analysis

/-- The compact text of a tree is decoded to this tree and the text of an analysis to this analysis,
whatever labels and tokens they have. So no two of them have the same text. -/
theorem compact_decodes :
    (∀ tree : Tree, (Json.ofText? tree.toJson.compact).bind Tree.ofJson? = some tree) ∧
    Function.Injective (fun tree : Tree => tree.toJson.compact) ∧
    (∀ analysis : Analysis,
      (Json.ofText? analysis.toJson.compact).bind Analysis.ofJson? = some analysis) ∧
    Function.Injective (fun analysis : Analysis => analysis.toJson.compact) := by
  have htree : ∀ tree : Tree,
      (Json.ofText? tree.toJson.compact).bind Tree.ofJson? = some tree := by
    simp [Tree.ofJson?_toJson]
  have hanalysis : ∀ analysis : Analysis,
      (Json.ofText? analysis.toJson.compact).bind Analysis.ofJson? = some analysis := by
    simp [Analysis.ofJson?_toJson]
  refine ⟨htree, ?_, hanalysis, ?_⟩
  · intro s t (heq : s.toJson.compact = t.toJson.compact)
    rw [← Option.some.injEq, ← htree s, heq, htree t]
  · intro a b (heq : a.toJson.compact = b.toJson.compact)
    rw [← Option.some.injEq, ← hanalysis a, heq, hanalysis b]

end SqlFront
