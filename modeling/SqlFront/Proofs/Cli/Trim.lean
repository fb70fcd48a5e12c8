import SqlFront.Proofs.Analysis.Single
import SqlFront.Proofs.Cli.Session
import SqlFront.Proofs.Statement.Alike

/-!
# SqlFront.Proofs.Cli.Trim

The blanks at the two ends of a query do not matter, so a session may leave them out.

Blanks in front give no token, and those at the end give none either unless a literal is left open.
Then they belong to this literal, which is the last token; but a statement ends with a semicolon, so
such a query is refused in any case. The two refusals are for the same reason at the same place, and
only where they show the literal they show it with the blanks and without.

* `tokens_trim`: the tokens of a text and of the trimmed one.
* `analyze_trimmed`: the analyses of the two, and what a run writes for them.
-/

namespace SqlFront

/-! ## Trimmed texts -/

theorem Text.exists_trim (cs : List Char) :
    ∃ front back, cs = front ++ (trim cs ++ back) ∧ (∀ c ∈ front, isBlank c = true) ∧
      ∀ c ∈ back, isBlank c = true := by
  refine ⟨cs.takeWhile isBlank, ((cs.dropWhile isBlank).reverse.takeWhile isBlank).reverse, ?_,
    fun c hc => Segment.of_mem_takeWhile hc, ?_⟩
  · rw [trim, ← List.reverse_append, List.takeWhile_append_dropWhile, List.reverse_reverse,
      List.takeWhile_append_dropWhile]
  · intro c hc
    rw [List.mem_reverse] at hc
    exact Segment.of_mem_takeWhile hc

namespace Segment

/-- A text has the tokens of the trimmed one, but for the blanks in a literal that is left open. -/
theorem tokens_trim (cs : List Char) :
    (cut cs).filterMap token? = (cut (Text.trim cs)).filterMap token? ∨
    ∃ tokens body blanks, Token.quote ∉ body ∧ (∀ c ∈ blanks, Text.isBlank c = true) ∧
      (cut cs).filterMap token? = tokens ++ [String.ofList (Token.quote :: (body ++ blanks))] ∧
      (cut (Text.trim cs)).filterMap token? = tokens ++ [String.ofList (Token.quote :: body)] := by
  obtain ⟨front, back, hcs, hfront, hback⟩ := Text.exists_trim cs
  have htokens : (cut cs).filterMap token? = (cut (Text.trim cs ++ back)).filterMap token? := by
    conv_lhs => rw [hcs]
    exact tokens_blank_append hfront _
  rw [htokens]
  by_cases hquotes : (Text.trim cs).count Token.quote % 2 = 0
  · left
    by_cases hne : back = []
    · rw [hne, List.append_nil]
    · have happend := tokens_append_blanks hquotes hne hback []
      rwa [List.append_nil, cut, List.filterMap_nil, List.append_nil] at happend
  · right
    obtain ⟨before, body, hopen, hbody, heven⟩ := exists_open_of_odd_quotes hquotes
    have hquote : Token.quote ∉ body ++ back := by
      rw [List.mem_append]
      rintro (hmem | hmem)
      · exact hbody hmem
      · exact absurd (hback _ hmem) (by decide)
    refine ⟨(cut before).filterMap token?, body, back, hbody, hback, ?_, ?_⟩
    · rw [hopen, List.append_assoc, List.cons_append, tokens_open heven hquote]
    · rw [hopen, tokens_open heven hbody]

end Segment

/-! ## Literals with blanks at their end -/

/-- The same token, or a literal that is left open, with more blanks at its end and without. -/
inductive Token.Padded : String → String → Prop where
  | same (token : String) : Token.Padded token token
  | opened {body blanks : List Char} : quote ∉ body → (∀ c ∈ blanks, Text.isBlank c = true) →
      Token.Padded (String.ofList (quote :: (body ++ blanks))) (String.ofList (quote :: body))

theorem Token.Padded.alike {s t : String} (h : Padded s t) : Alike s t := by
  cases h with
  | same => exact .refl s
  | opened _ _ => apply alike_of_isStringLiteral <;> simp [isStringLiteral]

/-- The same fault but for such a literal, put into words that differ there only. -/
structure Fault.Padded (fault fault' : Fault) : Prop where
  alike : fault.Alike Token.Padded fault'
  message : ∃ before s t after, Token.Padded s t ∧ fault.message = before ++ s ++ after ∧
    fault'.message = before ++ t ++ after

theorem Fault.Padded.refl {fault : Fault} (h : fault.Alike Token.Padded fault) :
    fault.Padded fault :=
  ⟨h, fault.message, "", "", "", .same "", by simp, by simp⟩

theorem Fault.Alike.padded {fault fault' : Fault} (h : fault.Alike Token.Padded fault') :
    fault.Padded fault' := by
  refine ⟨h, ?_⟩
  -- `message` is opened by `delta`: its equations take too long to generate
  cases h with
  | empty => exact (Padded.refl .empty).message
  | missing => exact (Padded.refl .missing).message
  | @unrecognized s t hst =>
    delta Fault.message
    exact ⟨_, s, t, _, hst, rfl, rfl⟩
  | @expected what _ _ position hfound =>
    cases hfound with
    | none => exact (Padded.refl (.expected .none)).message
    | @some s t hst =>
      refine ⟨"expected '" ++ what ++ "' but got '", s, t,
        "' (token " ++ Nat.repr position ++ ")", hst, ?_, ?_⟩ <;>
      · delta Fault.message
        simp only [Option.getD_some, String.append_assoc]

/-! ## Queries and lines -/

open Cli (oneShot)
open Cli.Session (trimmed)

/-- A query has the tokens of the trimmed one but for such a literal, and if its tokens are those of
a statement they are the same. -/
theorem tokenize_trimmed (query : String) :
    List.Forall₂ Token.Padded (tokenize query) (tokenize (trimmed query)) ∧
    ∀ statement : Statement, statement.tokens = tokenize query →
      tokenize query = tokenize (trimmed query) := by
  have hsame : ∀ tokens : List String, List.Forall₂ Token.Padded tokens tokens :=
    fun tokens => List.forall₂_same.mpr fun token _ => .same token
  have htrimmed : tokenize (trimmed query) =
      (Segment.cut (Text.trim query.toList)).filterMap Segment.token? := by
    rw [tokenize, trimmed, String.toList_ofList]
  rw [htrimmed, tokenize]
  rcases Segment.tokens_trim query.toList with
    heq | ⟨tokens, body, blanks, hbody, hblanks, hopened, hclosed⟩
  · exact ⟨heq ▸ hsame _, fun _ _ => heq⟩
  · constructor
    · rw [hopened, hclosed]
      exact List.rel_append (hsame tokens) (.cons (.opened hbody hblanks) .nil)
    · -- a statement ends with a semicolon, not with a literal
      intro statement hstatement
      have hlast := statement.getLast?_tokens
      rw [hstatement, hopened, List.getLast?_concat, Option.some.injEq] at hlast
      have hchars := congrArg String.toList hlast
      rw [String.toList_ofList] at hchars
      cases hchars

/-- The blanks around a query never matter. It is analysed as the trimmed one is, and refused where
that is refused: for the same cause at the same place, with words that differ at most in the blanks
at the end of a literal that is left open. So a run ends in the same way and writes the same
report. -/
theorem analyze_trimmed (query : String) :
    OutcomesAlike Fault.Padded Eq (analyze query) (analyze (trimmed query)) ∧
    ∀ display config,
      (oneShot display config query).1 = (oneShot display config (trimmed query)).1 ∧
      (oneShot display config query).2.stdout =
        (oneShot display config (trimmed query)).2.stdout := by
  obtain ⟨htokens, hstatement⟩ := tokenize_trimmed query
  have hread := Statement.ofTokens_alike (fun _ _ => Token.Padded.alike) htokens
  have hanalysed : OutcomesAlike Fault.Padded Eq (analyze query) (analyze (trimmed query)) := by
    cases hquery : Statement.ofTokens (tokenize query) with
    | ok statement =>
      have hsame := hstatement statement (Statement.ofTokens_eq_ok_iff.mp hquery)
      rw [analyze_eq_map, analyze_eq_map, ← hsame, hquery]
      exact .ok rfl
    | error fault =>
      rw [hquery] at hread
      rw [analyze_eq_map, analyze_eq_map, hquery]
      cases htrimmed : Statement.ofTokens (tokenize (trimmed query)) with
      | ok statement => rw [htrimmed] at hread; cases hread
      | error fault' =>
        rw [htrimmed] at hread
        cases hread with
        | error hfaults => exact .error hfaults.padded
  refine ⟨hanalysed, fun display config => ?_⟩
  rw [Cli.Session.stdout_oneShot_eq, Cli.Session.stdout_oneShot_eq, oneShot, oneShot]
  generalize analyze query = outcome at hanalysed ⊢
  generalize analyze (trimmed query) = outcome' at hanalysed ⊢
  cases hanalysed with
  | ok heq => rw [heq]; exact ⟨rfl, rfl⟩
  | error _ => exact ⟨rfl, rfl⟩

/-- A literal that is left open keeps the blanks at its end, a wide one among them. -/
example :
    let query := " insert 'it \u3000"
    analyze query = .error (.expected "INTO" (some "'it \u3000") 1) ∧
      analyze (trimmed query) = .error (.expected "INTO" (some "'it") 1) := by
  decide +kernel

end SqlFront
