import SqlFront.Proofs.Reduction.Meaning
import SqlFront.Proofs.Segment.Cover
import SqlFront.Proofs.Segment.Respelled
import SqlFront.Proofs.Statement.Classes
import SqlFront.Proofs.Token.Recased

/-!
# SqlFront.Proofs.Analysis.Case

The case of letters is a matter of spelling.

In capitals both queries are the same text, and capitals move no border between segments. So the
segments correspond, sort by sort and letter by letter. A word is the same reserved word in both or
in neither; nothing else that is cut off is reserved.

* `tokenize_recased`: the tokens of two queries that differ in case only.
* `analyze_recased`: their analyses, or the reasons why there are none.
-/

namespace SqlFront

namespace Segment

/-- Only words are reserved. -/
theorem Fits.isKeyword_of_token? {segment : Segment} {rest : List Char} {token : String}
    (h : Fits segment rest) (htoken : segment.token? = some token)
    (hword : ∀ run, segment ≠ .word run) : Token.isKeyword token = false := by
  have hsymbols : ∀ symbol ∈ Vocabulary.symbols, Token.isKeyword symbol = false := by
    decide
  have hdigits : ∀ keyword ∈ Vocabulary.keywords, Token.isNumericLiteral keyword = false := by
    decide
  cases h with
  | blank _ _ _ => cases htoken
  | closed _ | unclosed _ =>
    cases htoken
    refine (Token.isReserved_of_isStringLiteral ?_).1
    simp [Token.isStringLiteral]
  | pair hsymbol | single hsymbol _ =>
    cases htoken
    exact hsymbols _ (List.contains_iff_mem.mp hsymbol)
  | word _ _ _ => exact absurd rfl (hword _)
  | number hne hrun _ =>
    cases htoken
    rw [Bool.eq_false_iff]
    intro hkeyword
    have hnumeric := hdigits _ (List.contains_iff_mem.mp hkeyword)
    simp [Token.isNumericLiteral, hne] at hnumeric
    obtain ⟨c, hc, hdigit⟩ := hnumeric
    rw [hrun c hc] at hdigit
    cases hdigit

theorem Stands.isKeyword_of_token? {segment : Segment} {rest : List Char} {token : String}
    (h : Stands segment rest) (htoken : segment.token? = some token)
    (hword : ∀ run, segment ≠ .word run) : Token.isKeyword token = false := by
  cases h with
  | fits hfits => exact hfits.isKeyword_of_token? htoken hword
  | stray _ => cases htoken

theorem Stands.rel_token? {s t : Segment} {rest rest' : List Char} (hs : Stands s rest)
    (ht : Stands t rest') (hst : s.map Char.toUpper = t.map Char.toUpper) :
    Option.Rel Token.Recased s.token? t.token? := by
  have hletters : ∀ {cs cs' : List Char}, cs.map Char.toUpper = cs'.map Char.toUpper →
      Text.sameLetters (String.ofList cs) (String.ofList cs') = true := by
    intro cs cs' hcs
    rwa [Text.sameLetters_iff, String.toList_ofList, String.toList_ofList]
  -- a segment of another sort is never the same in capitals
  cases s with
  | blank _ | stray _ =>
    cases t
    any_goals cases hst
    exact .none
  | word _ =>
    cases t
    any_goals cases hst
    injection hst with hchars
    exact .some (Token.recased_ofWord (hletters hchars))
  | literal _ | symbol _ | number _ =>
    cases t
    any_goals cases hst
    injection hst with hchars
    exact .some (Token.recased_of_not_keyword (hletters hchars)
      (hs.isKeyword_of_token? rfl nofun) (ht.isKeyword_of_token? rfl nofun))

theorem Covers.recased {segments segments' : List Segment} {cs cs' : List Char}
    (h : Covers segments cs) (h' : Covers segments' cs')
    (hsame : segments.map (map Char.toUpper) = segments'.map (map Char.toUpper)) :
    List.Forall₂ Token.Recased (segments.filterMap token?) (segments'.filterMap token?) := by
  induction h generalizing segments' cs' with
  | nil =>
    cases h' with
    | nil => exact .nil
    | cons _ _ => cases hsame
  | @cons segment segments rest hstands _ ih =>
    cases h' with
    | nil => cases hsame
    | @cons segment' segments' rest' hstands' hcovers' =>
      injection hsame with hfirst hothers
      have htokens := ih hcovers' hothers
      have htoken := hstands.rel_token? hstands' hfirst
      rw [List.filterMap_cons, List.filterMap_cons]
      generalize segment.token? = token at htoken
      generalize segment'.token? = token' at htoken
      cases htoken with
      | none => exact htokens
      | some htoken => exact .cons htoken htokens

end Segment

theorem tokenize_recased {query query' : String} (h : Text.sameLetters query query' = true) :
    List.Forall₂ Token.Recased (tokenize query) (tokenize query') := by
  refine (Segment.covers_cut query.toList).recased (Segment.covers_cut query'.toList) ?_
  rw [← Segment.cut_map Token.respellsWords_toUpper, ← Segment.cut_map Token.respellsWords_toUpper,
    Text.sameLetters_iff.mp h]

/-- The same tokens, and the same trees, up to the case of letters. -/
structure Analysis.Recased (analysis analysis' : Analysis) : Prop where
  tokens : List.Forall₂ Token.Recased analysis.tokens analysis'.tokens
  cst : Tree.Alike Token.Recased analysis.cst analysis'.cst
  ast : Tree.Alike Token.Recased analysis.ast analysis'.ast

theorem Label.Alike.recased {label label' : String} (h : Label.Alike Token.Recased label label') :
    Token.Recased label label' := by
  rcases h with rfl | ⟨h, -, -⟩
  · exact .refl label
  · exact h

/-- The case of letters never changes structure. Two queries that differ in it only have tokens that
differ in it only, with the same reserved words. Both are analysed, with trees that have the same
shape, the same kinds and the same labels up to case, or both are refused, for the same reason at
the same position. -/
theorem analyze_recased {query query' : String} (h : Text.sameLetters query query' = true) :
    List.Forall₂ Token.Recased (tokenize query) (tokenize query') ∧
      OutcomesAlike (Fault.Alike Token.Recased) Analysis.Recased (analyze query)
        (analyze query') := by
  have htokens := tokenize_recased h
  have hread := Statement.ofTokens_alike (fun _ _ => Token.Recased.alike) htokens
  refine ⟨htokens, ?_⟩
  rw [analyze_eq_map, analyze_eq_map]
  exact hread.map fun statement statement' hstatements =>
    { tokens := htokens
      cst := (Statement.tree_alike hstatements).imp fun _ _ => Label.Alike.recased
      ast := (Statement.ast_alike hstatements).imp fun _ _ => Label.Alike.recased }

/-- Reserved words with a dotless letter, and a literal in other letters. -/
theorem analyze_recased_dotless :
    let query := "\u0131nsert \u0131nTo T (c) values (False, 'aB');"
    let query' := "\u0131NSERT \u0131nto t (C) VALUES (faLse, 'Ab');"
    Text.sameLetters query query' = true ∧
      ∃ analysis analysis', analyze query = .ok analysis ∧ analyze query' = .ok analysis' ∧
        analysis.Recased analysis' := by
  intro query query'
  have hletters : Text.sameLetters query query' = true := by decide
  have hanalysed : (analyze query).isOk = true := by decide +kernel
  have hread := (analyze_recased hletters).2
  refine ⟨hletters, ?_⟩
  generalize analyze query = x at hread hanalysed ⊢
  generalize analyze query' = y at hread ⊢
  cases hread with
  | @ok analysis analysis' hrecased => exact ⟨analysis, analysis', rfl, rfl, hrecased⟩
  | error _ => cases hanalysed

end SqlFront
