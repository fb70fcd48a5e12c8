import SqlFront.Proofs.Segment.Append

/-!
# SqlFront.Proofs.Segment.Blank

Two texts with blanks between them.

Blanks in front of a text give no token, however many there are. Blanks after a text end whatever
stands before them, and at most make a run of blanks longer; only a literal that was left open
takes them in, and then the number of quotes is odd.

* `Covers.tokens_append_blank`: a text with an even number of quotes, before one that starts with
  a blank.
* `tokens_append_blanks`, `tokens_append_blanks_ne`: whether blanks keep the tokens of two texts
  apart.
* `tokenize_append_blanks_iff`: they do exactly if the first text leaves no literal open.
* `even_quotes_of_getLast?`: a text whose last token is no literal has an even number of quotes.
-/

namespace SqlFront
namespace Segment

/-! ## Blanks in front -/

theorem tokens_dropWhile_blank (cs : List Char) :
    (cut (cs.dropWhile Text.isBlank)).filterMap token? = (cut cs).filterMap token? := by
  cases cs with
  | nil => rfl
  | cons c cs =>
    by_cases hc : Text.isBlank c = true
    · have hfirst : first c cs =
          (.blank (c :: cs.takeWhile Text.isBlank), cs.dropWhile Text.isBlank) := by
        rw [first, if_pos hc]
      rw [List.dropWhile_cons_of_pos hc, cut, hfirst, List.filterMap_cons_none rfl]
    · rw [List.dropWhile_cons_of_neg hc]

theorem tokens_blank_append {ws : List Char} (hws : ∀ c ∈ ws, Text.isBlank c = true)
    (cs : List Char) : (cut (ws ++ cs)).filterMap token? = (cut cs).filterMap token? := by
  rw [← tokens_dropWhile_blank (ws ++ cs), List.dropWhile_append_of_pos hws,
    tokens_dropWhile_blank]

/-! ## Blanks after a text -/

theorem broken_of_isBlank {b : Char} (hb : Text.isBlank b = true) (after : List Char) :
    Broken (b :: after) := by
  intro c hc
  cases hc
  exact Token.breaks_of_isBlank hb

theorem Covers.tokens_append_blank {segments : List Segment} {cs : List Char} {b : Char}
    (h : Covers segments cs) (hquotes : cs.count Token.quote % 2 = 0)
    (hb : Text.isBlank b = true) (after : List Char) :
    (cut (cs ++ b :: after)).filterMap token? =
      segments.filterMap token? ++ (cut (b :: after)).filterMap token? := by
  induction h with
  | nil => rfl
  | @cons segment segments rest hstands hcovers ih =>
    obtain ⟨hsegment, hrest⟩ := hstands.even_quotes hquotes
    by_cases hlast : ∃ run, segment = .blank run ∧ rest = []
    · -- the run of blanks goes on, and gives no token then either
      obtain ⟨run, rfl, rfl⟩ := hlast
      have hrun : ∀ c ∈ run, Text.isBlank c = true := by
        cases hstands with
        | fits hfits =>
          cases hfits with
          | blank _ hrun _ => exact hrun
      rw [hcovers.eq_nil, List.append_nil]
      exact tokens_blank_append hrun (b :: after)
    · have hnext := hstands.append hsegment (broken_of_isBlank hb after)
        fun run hrun hnil => absurd ⟨run, hrun, hnil⟩ hlast
      have hwhole := Covers.cons hnext (covers_cut (rest ++ b :: after))
      rw [← List.append_assoc] at hwhole
      rw [← hwhole.eq_cut, List.filterMap_cons, List.filterMap_cons, ih hrest]
      cases segment.token? <;> rfl

/-- Blanks between two texts, the first of which leaves no literal open, keep their tokens apart. -/
theorem tokens_append_blanks {cs blanks : List Char} (hquotes : cs.count Token.quote % 2 = 0)
    (hne : blanks ≠ []) (hblanks : ∀ c ∈ blanks, Text.isBlank c = true) (after : List Char) :
    (cut (cs ++ (blanks ++ after))).filterMap token? =
      (cut cs).filterMap token? ++ (cut after).filterMap token? := by
  obtain ⟨b, bs, rfl⟩ := List.exists_cons_of_ne_nil hne
  have hb : Text.isBlank b = true := hblanks b List.mem_cons_self
  have happend := (covers_cut cs).tokens_append_blank hquotes hb (bs ++ after)
  rwa [← List.cons_append, tokens_blank_append hblanks] at happend

/-! ## Literals that are left open -/

/-- The text before the quote that opens the last literal, and the contents of this literal. -/
theorem exists_open_of_odd_quotes {cs : List Char} (hquotes : cs.count Token.quote % 2 ≠ 0) :
    ∃ before body, cs = before ++ Token.quote :: body ∧ Token.quote ∉ body ∧
      before.count Token.quote % 2 = 0 := by
  have hmem : Token.quote ∈ cs.reverse := by
    rw [List.mem_reverse, ← List.count_pos_iff]
    omega
  obtain ⟨body, before, hreverse, hbody⟩ := List.eq_append_cons_of_mem hmem
  have hcs : cs = before.reverse ++ Token.quote :: body.reverse := by
    have h := congrArg List.reverse hreverse
    simpa using h
  have hbody : Token.quote ∉ body.reverse := by rwa [List.mem_reverse]
  refine ⟨before.reverse, body.reverse, hcs, hbody, ?_⟩
  rw [hcs, List.count_append, List.count_cons_self, count_quote_of_notMem hbody] at hquotes
  omega

/-- After an even number of quotes, the next one opens a literal. -/
theorem cut_append_quote {before : List Char} (hquotes : before.count Token.quote % 2 = 0)
    (cs : List Char) :
    cut (before ++ Token.quote :: cs) =
      cut before ++ (literalFrom cs).1 :: cut (literalFrom cs).2 := by
  have hcovers := (covers_cut before).append_quote hquotes (covers_cut (Token.quote :: cs))
  rw [← hcovers.eq_cut, cut, first_quote]

theorem tokens_open {before body : List Char} (hquotes : before.count Token.quote % 2 = 0)
    (hbody : Token.quote ∉ body) :
    (cut (before ++ Token.quote :: body)).filterMap token? =
      (cut before).filterMap token? ++ [String.ofList (Token.quote :: body)] := by
  rw [cut_append_quote hquotes, literalFrom_unclosed hbody, cut, List.filterMap_append]
  rfl

theorem exists_literalFrom (cs : List Char) :
    ∃ mark, (literalFrom cs).1 =
      .literal (Token.quote :: (cs.takeWhile (· != Token.quote) ++ mark)) := by
  unfold literalFrom
  split
  · exact ⟨[], by rw [List.append_nil]⟩
  · rename_i close rest _
    exact ⟨[close], rfl⟩

/-- Blanks after a literal that is left open become part of it, so its token is another one. -/
theorem tokens_append_blanks_ne {cs blanks : List Char} (hquotes : cs.count Token.quote % 2 ≠ 0)
    (hne : blanks ≠ []) (hblanks : ∀ c ∈ blanks, Text.isBlank c = true) (after : List Char) :
    (cut (cs ++ (blanks ++ after))).filterMap token? ≠
      (cut cs).filterMap token? ++ (cut after).filterMap token? := by
  obtain ⟨before, body, rfl, hbody, heven⟩ := exists_open_of_odd_quotes hquotes
  have hquote : Token.quote ∉ blanks := fun hmem => absurd (hblanks _ hmem) (by decide)
  obtain ⟨mark, hliteral⟩ := exists_literalFrom (body ++ (blanks ++ after))
  rw [List.takeWhile_append_of_pos (ne_quote_of_mem hbody),
    List.takeWhile_append_of_pos (ne_quote_of_mem hquote)] at hliteral
  intro heq
  rw [tokens_open heven hbody, List.append_assoc, List.append_assoc, List.cons_append,
    cut_append_quote heven, hliteral, List.filterMap_append] at heq
  have htail := List.append_cancel_left heq
  simp only [List.filterMap_cons, token?, List.singleton_append, List.cons.injEq] at htail
  have hlength := congrArg List.length (String.ofList_injective htail.1)
  have hpos := List.length_pos_iff.mpr hne
  simp only [List.length_cons, List.length_append] at hlength
  omega

end Segment

theorem even_quotes_of_getLast? {query token : String}
    (hlast : (tokenize query).getLast? = some token)
    (hliteral : Token.isStringLiteral token = false) :
    query.toList.count Token.quote % 2 = 0 := by
  by_cases hquotes : query.toList.count Token.quote % 2 = 0
  · exact hquotes
  · obtain ⟨before, body, hopen, hbody, heven⟩ := Segment.exists_open_of_odd_quotes hquotes
    rw [tokenize, hopen, Segment.tokens_open heven hbody, List.getLast?_concat] at hlast
    cases hlast
    simp [Token.isStringLiteral] at hliteral

/-- Blanks between two texts keep them apart: the tokens of the whole are those of the first text
and then those of the second, exactly if the first leaves no literal open. -/
theorem tokenize_append_blanks_iff (a b : String) {blanks : String} (hne : blanks ≠ "")
    (hblanks : ∀ c ∈ blanks.toList, Text.isBlank c = true) :
    tokenize (a ++ blanks ++ b) = tokenize a ++ tokenize b ↔
      a.toList.count Token.quote % 2 = 0 := by
  have hne : blanks.toList ≠ [] := by simpa using hne
  rw [tokenize, String.toList_append, String.toList_append, List.append_assoc]
  constructor
  · intro htokens
    by_cases hquotes : a.toList.count Token.quote % 2 = 0
    · exact hquotes
    · exact absurd htokens (Segment.tokens_append_blanks_ne hquotes hne hblanks b.toList)
  · intro hquotes
    exact Segment.tokens_append_blanks hquotes hne hblanks b.toList

/-- The two halves of a sign, a dropped one and a word, around a blank that is no space. -/
theorem tokenize_append_blanks_iff_halves :
    ("\u2003" ≠ "" ∧ (∀ c ∈ "\u2003".toList, Text.isBlank c = true) ∧
        "'a;' <!".toList.count Token.quote % 2 = 0) ∧
      tokenize ("'a;' <!" ++ "\u2003" ++ "=from'") = tokenize "'a;' <!" ++ tokenize "=from'" ∧
      tokenize "'a;' <!" = ["'a;'", "<"] ∧ tokenize "=from'" = ["=", "FROM", "'"] := by
  have hne : "\u2003" ≠ "" := by decide
  have hall : "\u2003".toList.all Text.isBlank = true := by decide
  have hblanks : ∀ c ∈ "\u2003".toList, Text.isBlank c = true := List.all_eq_true.mp hall
  have hquotes : "'a;' <!".toList.count Token.quote % 2 = 0 := by decide
  refine ⟨⟨hne, hblanks, hquotes⟩, ?_, ?_, ?_⟩
  · exact (tokenize_append_blanks_iff "'a;' <!" "=from'" hne hblanks).mpr hquotes
  · decide +kernel
  · decide +kernel

end SqlFront
