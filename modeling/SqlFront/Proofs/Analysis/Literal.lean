import SqlFront.Proofs.Segment.Append
import SqlFront.Proofs.Statement.Classes
import SqlFront.Proofs.Statement.Mirror
import SqlFront.Proofs.Tree.Place

/-!
# SqlFront.Proofs.Analysis.Literal

What stands in a literal matters to nothing but the literal itself.

A query with a literal and the same query with other contents are cut into the same tokens but
for this one. The two literals are alike, so the tokens are read alike, and the labels of the two
trees in preorder tell where the literal is: at one and the same place.

* `analyze_literal`: the two queries are analysed alike, with trees that differ at one place.
-/

namespace SqlFront

/-! ## The kinds of labels -/

variable {R : String → String → Prop}

theorem Label.fixesOthers_isToken : FixesOthers Label.isToken (Label.Alike R) := by
  rintro x y (rfl | ⟨-, hx, hy⟩)
  · exact ⟨rfl, fun _ => rfl⟩
  · simp [Label.isToken, hx, hy]

theorem Label.fixesOthers_isWritten (hR : FixesOthers Label.isWritten R) :
    FixesOthers Label.isWritten (Label.Alike R) := by
  rintro x y (rfl | ⟨hxy, -, -⟩)
  · exact ⟨rfl, fun _ => rfl⟩
  · exact hR x y hxy

/-! ## One literal for another -/

namespace Token

theorem isStringLiteral_literal (contents : String) :
    isStringLiteral (literal contents) = true := by
  simp [isStringLiteral, toList_literal]

/-- The same token, or the two literals. -/
def Exchanged (s s' x y : String) : Prop := x = y ∨ (x = literal s ∧ y = literal s')

variable {s s' : String}

theorem Exchanged.alike {x y : String} (h : Exchanged s s' x y) : Alike x y := by
  rcases h with rfl | ⟨rfl, rfl⟩
  · exact .refl x
  · exact alike_of_isStringLiteral (isStringLiteral_literal s) (isStringLiteral_literal s')

theorem exchanged_tokens (before after : List String) :
    List.Forall₂ (Exchanged s s') (before ++ literal s :: after)
      (before ++ literal s' :: after) := by
  have hsame : ∀ tokens : List String, List.Forall₂ (Exchanged s s') tokens tokens :=
    fun tokens => List.forall₂_same.mpr fun _ _ => .inl rfl
  exact List.rel_append (hsame before) (.cons (.inr ⟨rfl, rfl⟩) (hsame after))

theorem isWritten_literal (contents : String) : Label.isWritten (literal contents) = true := by
  rw [Label.isWritten, bne_iff_ne]
  intro h
  have hchars := congrArg String.toList h
  rw [toList_literal] at hchars
  cases hchars

theorem fixesOthers_exchanged : FixesOthers Label.isWritten (Exchanged s s') := by
  rintro x y (rfl | ⟨rfl, rfl⟩)
  · exact ⟨rfl, fun _ => rfl⟩
  · simp [isWritten_literal]

end Token

/-! ## The place of the literal -/

namespace Statement

variable {s s' : String} {statement statement' : Statement} {before after : List String}

theorem exists_place_tree (h : statement.Alike (Token.Exchanged s s') statement')
    (hs : statement.tokens = before ++ Token.literal s :: after)
    (hs' : statement'.tokens = before ++ Token.literal s' :: after) :
    ∃ place : Tree.Place, statement.tree = place.fill (Token.literal s) ∧
      statement'.tree = place.fill (Token.literal s') ∧
      place.before.filter Label.isToken = before := by
  rw [← labels_tree] at hs hs'
  exact (tree_alike h).exists_place_of_filter Label.fixesOthers_isToken hs hs'

theorem exists_place_ast (h : statement.Alike (Token.Exchanged s s') statement')
    (hs : statement.tokens = before ++ Token.literal s :: after)
    (hs' : statement'.tokens = before ++ Token.literal s' :: after) :
    ∃ place : Tree.Place, statement.ast = place.fill (Token.literal s) ∧
      statement'.ast = place.fill (Token.literal s') ∧
      place.before.filter Label.isWritten = before.filter Reduction.isKept := by
  have hkeeps := fun contents =>
    Reduction.keeps_of_stringLiteral (Token.isStringLiteral_literal contents)
  have hlabels := statement.labels_ast
  have hlabels' := statement'.labels_ast
  rw [hs, List.filter_append, Reduction.filter_kept_of_keeps (hkeeps s)] at hlabels
  rw [hs', List.filter_append, Reduction.filter_kept_of_keeps (hkeeps s')] at hlabels'
  have hfixes := Label.fixesOthers_isWritten (@Token.fixesOthers_exchanged s s')
  exact (ast_alike h).exists_place_of_filter hfixes hlabels hlabels'

end Statement

/-- The contents of a literal are opaque. After an even number of quotes the literal is one token
between those of the texts around it. Whatever its contents, the query is either analysed, with
trees that differ in the label at one place, the place of this token, or refused for the same reason
at the same position. -/
theorem analyze_literal {a s s' : String} (b : String)
    (hquotes : a.toList.count Token.quote % 2 = 0) (hs : Token.quote ∉ s.toList)
    (hs' : Token.quote ∉ s'.toList) :
    tokenize (a ++ Token.literal s ++ b) = tokenize a ++ Token.literal s :: tokenize b ∧
    ((∃ cst ast : Tree.Place,
        cst.before.filter Label.isToken = tokenize a ∧
        ast.before.filter Label.isWritten = (tokenize a).filter Reduction.isKept ∧
        analyze (a ++ Token.literal s ++ b) =
          .ok ⟨tokenize a ++ Token.literal s :: tokenize b, cst.fill (Token.literal s),
            ast.fill (Token.literal s)⟩ ∧
        analyze (a ++ Token.literal s' ++ b) =
          .ok ⟨tokenize a ++ Token.literal s' :: tokenize b, cst.fill (Token.literal s'),
            ast.fill (Token.literal s')⟩) ∨
      ∃ fault fault', analyze (a ++ Token.literal s ++ b) = .error fault ∧
        analyze (a ++ Token.literal s' ++ b) = .error fault' ∧
        Fault.Alike (Token.Exchanged s s') fault fault') := by
  have htokens := tokenize_append_literal b hquotes hs
  have htokens' := tokenize_append_literal b hquotes hs'
  refine ⟨htokens, ?_⟩
  have hexchanged : List.Forall₂ (Token.Exchanged s s')
      (tokenize a ++ Token.literal s :: tokenize b)
      (tokenize a ++ Token.literal s' :: tokenize b) :=
    Token.exchanged_tokens (tokenize a) (tokenize b)
  have hread := Statement.ofTokens_alike (fun _ _ => Token.Exchanged.alike) hexchanged
  rw [analyze_eq_map, analyze_eq_map, htokens, htokens']
  generalize hx : Statement.ofTokens (tokenize a ++ Token.literal s :: tokenize b) = x at hread ⊢
  generalize hy : Statement.ofTokens (tokenize a ++ Token.literal s' :: tokenize b) = y at hread ⊢
  cases hread with
  | ok halike =>
    have hwritten := Statement.ofTokens_eq_ok_iff.mp hx
    have hwritten' := Statement.ofTokens_eq_ok_iff.mp hy
    obtain ⟨cst, htree, htree', hcst⟩ := Statement.exists_place_tree halike hwritten hwritten'
    obtain ⟨ast, hast, hast', hbefore⟩ := Statement.exists_place_ast halike hwritten hwritten'
    refine .inl ⟨cst, ast, hcst, hbefore, ?_, ?_⟩
    · rw [Except.map, htree, hast]
    · rw [Except.map, htree', hast']
  | @error fault fault' hfaults => exact .inr ⟨fault, fault', rfl, rfl, hfaults⟩

/-- A literal made up of reserved words and a name of the grammar, and the empty one. -/
theorem analyze_literal_reserved :
    let a := "insert into t (c) values (";
    let s := "<column_def>; FROM";
    let b := ", 'x');";
    (a.toList.count Token.quote % 2 = 0 ∧ Token.quote ∉ s.toList ∧ Token.quote ∉ "".toList) ∧
      ∃ cst ast : Tree.Place,
        cst.before.filter Label.isToken = tokenize a ∧
        ast.before.filter Label.isWritten = (tokenize a).filter Reduction.isKept ∧
        analyze (a ++ Token.literal s ++ b) =
          .ok ⟨tokenize a ++ Token.literal s :: tokenize b, cst.fill (Token.literal s),
            ast.fill (Token.literal s)⟩ ∧
        analyze (a ++ Token.literal "" ++ b) =
          .ok ⟨tokenize a ++ Token.literal "" :: tokenize b, cst.fill (Token.literal ""),
            ast.fill (Token.literal "")⟩ := by
  intro a s b
  have hquotes : a.toList.count Token.quote % 2 = 0 := by decide +kernel
  have hs : Token.quote ∉ s.toList := by decide +kernel
  have hempty : Token.quote ∉ "".toList := by decide +kernel
  refine ⟨⟨hquotes, hs, hempty⟩, (analyze_literal b hquotes hs hempty).2.resolve_right ?_⟩
  rintro ⟨fault, fault', hfault, -⟩
  have hanalysed : (analyze (a ++ Token.literal s ++ b)).isOk = true := by decide +kernel
  rw [hfault] at hanalysed
  cases hanalysed

end SqlFront
