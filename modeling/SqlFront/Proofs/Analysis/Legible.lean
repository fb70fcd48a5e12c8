import SqlFront.Proofs.Analysis.Single
import SqlFront.Proofs.Reduction.Spelling
import SqlFront.Proofs.Statement.Labels
import SqlFront.Proofs.Statement.Mirror
import SqlFront.Proofs.Tree.Indented

/-!
# SqlFront.Proofs.Analysis.Legible

The printed trees of a query tell what the query is.

The labels of both trees are the tokens, the names of the grammar and nothing at all. A token is
legible unless it is a literal that is left open, and a query with such a literal is refused: it
ends with the literal, not with a semicolon.

* `legible_of_complete`: tokens that end by themselves.
* `legibleAll_of_analyze`: the two trees of a query.
* `pretty_inj`: what can be read off printed trees.
-/

namespace SqlFront

namespace Tree

/-- A label that may stand anywhere. -/
theorem Legible.of_none {label : String} (h : Legible none label) (kind : Option Kind) :
    Legible kind label :=
  ⟨h.closed, h.oneLine, fun _ => h.bare rfl⟩

theorem legibleAll_of_labels {tree : Tree} (h : ∀ label ∈ tree.labels, Legible none label) :
    tree.LegibleAll := by
  intro node hnode
  rw [← map_label_nodes] at h
  exact (h node.label (List.mem_map_of_mem hnode)).of_none node.kind

/-- A label that begins with neither a quote, a space nor a bracket, on one line. -/
def isPlainLabel (label : String) : Bool :=
  label.toList.head? != some Token.quote && label.toList.head? != some ' ' &&
    label.toList.head? != some '[' && !label.toList.contains '\n'

theorem legible_of_isPlainLabel {label : String} (h : isPlainLabel label = true) :
    Legible none label := by
  simp only [isPlainLabel, Bool.and_eq_true, bne_iff_ne, Bool.not_eq_true',
    List.contains_eq_mem, decide_eq_false_iff_not] at h
  obtain ⟨⟨⟨hquote, hspace⟩, hbracket⟩, hline⟩ := h
  exact ⟨fun hhead => absurd hhead hquote, fun _ => hline, fun _ => ⟨hspace, hbracket⟩⟩

end Tree

namespace Token

open SqlFront.Tree (Legible isPlainLabel legible_of_isPlainLabel)

/-! ## Tokens -/

theorem isPlainLabel_of_continuesWord {token : String}
    (h : ∀ c ∈ token.toList, continuesWord c = true) : isPlainLabel token = true := by
  have hother : ∀ c, continuesWord c = false → c ∉ token.toList := by
    intro c hc hmem
    rw [h c hmem] at hc
    cases hc
  have hhead : ∀ c, c ∉ token.toList → token.toList.head? ≠ some c := by
    intro c hc heq
    exact hc (List.mem_of_mem_head? heq)
  have hline : '\n' ∉ token.toList := hother '\n' (by decide +kernel)
  have hspace := hhead ' ' (hother ' ' (by decide +kernel))
  have hbracket := hhead '[' (hother '[' (by decide +kernel))
  have hquote := hhead quote (hother quote continuesWord_quote)
  simp [isPlainLabel, hline, hspace, hbracket, hquote]

theorem legible_of_complete {token : String} (h : Complete token) : Legible none token := by
  have hsymbols : ∀ symbol ∈ Vocabulary.symbols, isPlainLabel symbol = true := by decide
  have hkeywords : ∀ keyword ∈ Vocabulary.keywords, isPlainLabel keyword = true := by decide
  cases h with
  | symbol hsymbol => exact legible_of_isPlainLabel (hsymbols _ (List.contains_iff_mem.mp hsymbol))
  | keyword hkeyword =>
    exact legible_of_isPlainLabel (hkeywords _ (List.contains_iff_mem.mp hkeyword))
  | word hstart hrun =>
    refine legible_of_isPlainLabel (isPlainLabel_of_continuesWord ?_)
    rw [String.toList_ofList]
    exact List.forall_mem_cons.mpr ⟨continuesWord_of_startsWord hstart, hrun⟩
  | number hnumber =>
    simp only [isNumericLiteral, Bool.and_eq_true, List.all_eq_true] at hnumber
    refine legible_of_isPlainLabel (isPlainLabel_of_continuesWord fun c hc => ?_)
    exact continuesWord_of_isDigit (hnumber.2 c hc)
  | @literal body hbody =>
    have hhead : (quote :: body ++ [quote]).head? = some quote := rfl
    constructor <;> rw [String.toList_ofList]
    · exact fun _ => ⟨body, hbody, rfl⟩
    · exact fun hne => absurd hhead hne
    · rw [hhead]
      decide

/-- Only the last token can be a literal that is left open. -/
theorem Written.complete {tokens : List String} (h : Written tokens) {token : String}
    (hlast : tokens.getLast? = some token) (hclosed : isStringLiteral token = false) :
    ∀ t ∈ tokens, Complete t := by
  induction h with
  | nil => nofun
  | unclosed _ =>
    cases hlast
    simp [isStringLiteral] at hclosed
  | @cons first rest hfirst _ ih =>
    refine List.forall_mem_cons.mpr ⟨hfirst, ?_⟩
    cases rest with
    | nil => nofun
    | cons second rest => exact ih (by rwa [List.getLast?_cons_cons] at hlast)

end Token

/-! ## Labels of the two trees -/

namespace Grammar

mutual

/-- The tree of a derivation is labelled with its tokens and names of the grammar. -/
theorem Derives.mem_labels : ∀ {symbol : Symbol} {ts : List String} {tree : Tree},
    Derives symbol ts tree → ∀ label ∈ tree.labels,
      label ∈ ts ∨ ∃ name : Part, label = name.label
  | _, _, _, .word token, label, hlabel => .inl (by simpa [Tree.token, Tree.plain, Tree.labels,
      Tree.labelsAll] using hlabel)
  | _, _, _, .oneOf _, label, hlabel => .inl (by simpa [Tree.token, Tree.plain, Tree.labels,
      Tree.labelsAll] using hlabel)
  | _, _, _, @Derives.part name _ _ _ _ hall, label, hlabel => by
    rw [Tree.plain, Tree.labels] at hlabel
    rcases List.mem_cons.mp hlabel with rfl | hlabel
    · exact .inr ⟨name, rfl⟩
    · exact hall.mem_labels label hlabel

theorem DerivesAll.mem_labels : ∀ {symbols : List Symbol} {ts : List String}
    {trees : List Tree}, DerivesAll symbols ts trees → ∀ label ∈ Tree.labelsAll trees,
      label ∈ ts ∨ ∃ name : Part, label = name.label
  | _, _, _, .nil, label, hlabel => nomatch hlabel
  | _, _, _, .cons hsymbol hall, label, hlabel => by
    rw [Tree.labelsAll, List.mem_append] at hlabel
    rw [List.mem_append]
    rcases hlabel with hlabel | hlabel
    · exact (hsymbol.mem_labels label hlabel).imp_left .inl
    · exact (hall.mem_labels label hlabel).imp_left .inr

end

theorem Part.legible_label (name : Part) : Tree.Legible none name.label := by
  apply Tree.legible_of_isPlainLabel
  cases name <;> rw [Part.label] <;> decide

end Grammar

namespace Statement

variable {statement : Statement}

theorem legibleAll_tree (h : ∀ token ∈ statement.tokens, Tree.Legible none token) :
    statement.tree.LegibleAll := by
  have hderives : Grammar.Derives (.part .query) statement.tokens statement.tree :=
    (Grammar.spells_query _ _).mpr ⟨statement, rfl, rfl⟩
  refine Tree.legibleAll_of_labels fun label hlabel => ?_
  rcases hderives.mem_labels label hlabel with htoken | ⟨name, rfl⟩
  · exact h label htoken
  · exact name.legible_label

theorem legibleAll_ast (h : ∀ token ∈ statement.tokens, Tree.Legible none token) :
    statement.ast.LegibleAll := by
  refine Tree.legibleAll_of_labels fun label hlabel => ?_
  by_cases hempty : label = ""
  · exact Tree.legible_of_isPlainLabel (by rw [hempty]; decide)
  · have hwritten : label ∈ statement.ast.labels.filter Label.isWritten :=
      List.mem_filter.mpr ⟨hlabel, by simpa [Label.isWritten] using hempty⟩
    rw [labels_ast] at hwritten
    exact h label (List.mem_filter.mp hwritten).1

end Statement

theorem legible_of_analyze {query : String} {statement : Statement}
    (h : statement.tokens = tokenize query) :
    ∀ token ∈ statement.tokens, Tree.Legible none token := by
  have hwritten : Token.Written statement.tokens := h ▸ written_tokenize query
  intro token htoken
  exact Token.legible_of_complete
    (hwritten.complete statement.getLast?_tokens (by decide) token htoken)

/-- Legible trees with the same text are equal. Both trees of an accepted query are legible; so the
text of the abstract tree alone tells the tokens. -/
theorem pretty_inj :
    (∀ s t : Tree, s.LegibleAll → t.LegibleAll → s.pretty = t.pretty → s = t) ∧
    (∀ query analysis, analyze query = .ok analysis →
      analysis.cst.LegibleAll ∧ analysis.ast.LegibleAll) ∧
    ∀ query query' analysis analysis', analyze query = .ok analysis →
      analyze query' = .ok analysis' → analysis.ast.pretty = analysis'.ast.pretty →
      tokenize query = tokenize query' := by
  refine ⟨fun s t hs ht => Tree.indented_inj hs ht, ?_, ?_⟩
  · intro query analysis h
    obtain ⟨statement, htokens, rfl⟩ := exists_statement_of_analyze h
    have hlegible := legible_of_analyze htokens
    exact ⟨statement.legibleAll_tree hlegible, statement.legibleAll_ast hlegible⟩
  · intro query query' analysis analysis' h h' heq
    obtain ⟨statement, htokens, rfl⟩ := exists_statement_of_analyze h
    obtain ⟨statement', htokens', rfl⟩ := exists_statement_of_analyze h'
    have hast := Tree.indented_inj
      (Statement.legibleAll_ast (legible_of_analyze htokens))
      (Statement.legibleAll_ast (legible_of_analyze htokens')) heq
    rw [← htokens, ← htokens', ← statement.spelling_ast, hast, statement'.spelling_ast]

/-- Two spellings of a query with a literal that reads like a further line of the tree. -/
theorem pretty_inj_lookalike :
    let query := "SELECT a FROM t WHERE b = '\n  [table-name] u';"
    let query' := "select a\nfrom t where b='\n  [table-name] u' ;"
    ∃ analysis analysis', analyze query = .ok analysis ∧ analyze query' = .ok analysis' ∧
      analysis.ast.LegibleAll ∧ analysis'.ast.LegibleAll ∧
      analysis.ast.pretty = analysis'.ast.pretty ∧
      analysis.ast = analysis'.ast ∧ tokenize query = tokenize query' := by
  intro query query'
  have htexts : (analyze query).map (fun a => a.ast.pretty) =
      (analyze query').map (fun a => a.ast.pretty) := by
    decide +kernel
  have hanalysed : (analyze query).isOk = true := by decide +kernel
  cases h : analyze query with
  | error fault => rw [h] at hanalysed; cases hanalysed
  | ok analysis =>
    cases h' : analyze query' with
    | error fault => rw [h, h'] at htexts; cases htexts
    | ok analysis' =>
      rw [h, h'] at htexts
      have hpretty : analysis.ast.pretty = analysis'.ast.pretty := Except.ok.inj htexts
      have hlegible := (pretty_inj.2.1 query analysis h).2
      have hlegible' := (pretty_inj.2.1 query' analysis' h').2
      exact ⟨analysis, analysis', rfl, rfl, hlegible, hlegible', hpretty,
        pretty_inj.1 _ _ hlegible hlegible' hpretty,
        pretty_inj.2.2 query query' analysis analysis' h h' hpretty⟩

end SqlFront
