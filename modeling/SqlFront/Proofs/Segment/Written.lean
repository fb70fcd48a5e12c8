import SqlFront.Proofs.Segment.Cover

/-!
# SqlFront.Proofs.Segment.Written

Which token lists queries have, and how to write one down again.

A token of a query ends by itself, but for a literal that is left open; nothing can follow that
one. Written with blanks between them, such tokens do not run together: each is cut off again
before the blank after it, and the blank before the token after that.

* `written_tokenize`: what the tokens of a query are like.
* `tokenize_intercalate`: nothing more can be said of them, since all such lists can be written
  down and cut again.
-/

namespace SqlFront

namespace Token

/-- A token that ends by itself. -/
inductive Complete : String → Prop where
  | symbol {token : String} : isSymbol token = true → Complete token
  | keyword {token : String} : isKeyword token = true → Complete token
  | word {c : Char} {run : List Char} : startsWord c = true →
      (∀ d ∈ run, continuesWord d = true) →
      isKeyword (Text.capitals (String.ofList (c :: run))) = false →
      Complete (String.ofList (c :: run))
  | number {token : String} : isNumericLiteral token = true → Complete token
  | literal {body : List Char} : quote ∉ body →
      Complete (String.ofList (quote :: body ++ [quote]))

/-- Tokens that end by themselves, except that the last may be a literal without closing quote. -/
inductive Written : List String → Prop where
  | nil : Written []
  | unclosed {body : List Char} : quote ∉ body → Written [String.ofList (quote :: body)]
  | cons {token : String} {tokens : List String} : Complete token → Written tokens →
      Written (token :: tokens)

theorem complete_ofWord {c : Char} {run : List Char} (hstart : startsWord c = true)
    (hrun : ∀ d ∈ run, continuesWord d = true) : Complete (ofWord (String.ofList (c :: run))) := by
  by_cases hkeyword : isKeyword (Text.capitals (String.ofList (c :: run))) = true
  · rw [ofWord, if_pos hkeyword]
    exact .keyword hkeyword
  · rw [ofWord, if_neg hkeyword]
    exact .word hstart hrun (Bool.eq_false_iff.mpr hkeyword)

theorem ofWord_keyword {token : String} (h : isKeyword token = true) : ofWord token = token := by
  rw [ofWord, capitals_of_isKeyword h, if_pos h]

end Token

namespace Segment

/-! ## The tokens of a query are of that kind -/

theorem written_of_covers {segments : List Segment} {cs : List Char} (h : Covers segments cs) :
    Token.Written (segments.filterMap token?) := by
  induction h with
  | nil => exact .nil
  | @cons segment segments rest hstands hcovers ih =>
    cases hstands with
    | stray _ => exact ih
    | fits hfits =>
      cases hfits with
      | blank _ _ _ => exact ih
      | closed hbody => exact .cons (.literal hbody) ih
      | unclosed hbody =>
        rw [hcovers.eq_nil]
        exact .unclosed hbody
      | pair hpair => exact .cons (.symbol hpair) ih
      | single hsingle _ => exact .cons (.symbol hsingle) ih
      | word hstart hrun _ => exact .cons (Token.complete_ofWord hstart hrun) ih
      | @number digits _ hne hdigits _ =>
        have hnumber : Token.isNumericLiteral (String.ofList digits) = true := by
          simpa [Token.isNumericLiteral, hne] using hdigits
        exact .cons (.number hnumber) ih

/-! ## Each token of that kind is a segment -/

theorem fits_symbol {token : String} {rest : List Char} (h : Token.isSymbol token = true)
    (hrest : Broken rest) : Fits (.symbol token.toList) rest := by
  have hlengths : ∀ symbol ∈ Vocabulary.symbols,
      symbol.toList.length = 1 ∨ symbol.toList.length = 2 := by
    decide
  rw [← String.ofList_toList (s := token)] at h
  rcases hlengths token (by simpa using List.contains_iff_mem.mp h) with hlength | hlength
  · obtain ⟨c, hc⟩ := List.length_eq_one_iff.mp hlength
    rw [hc] at h ⊢
    exact .single h (hrest.symbol c)
  · obtain ⟨c, cs, hcs⟩ := List.exists_cons_of_length_eq_add_one hlength
    obtain ⟨d, rfl⟩ : ∃ d, cs = [d] := by simpa [hcs, List.length_eq_one_iff] using hlength
    rw [hcs] at h ⊢
    exact .pair h

theorem fits_keyword {token : String} {rest : List Char} (h : Token.isKeyword token = true)
    (hrest : Broken rest) : Fits (.word token.toList) rest := by
  have hkeywords : ∀ keyword ∈ Vocabulary.keywords,
      keyword.toList.head?.any Token.startsWord = true ∧
        keyword.toList.all Token.continuesWord = true := by
    decide
  obtain ⟨hstart, hrun⟩ := hkeywords token (List.contains_iff_mem.mp h)
  rw [Option.any_eq_true] at hstart
  obtain ⟨c, hhead, hstart⟩ := hstart
  obtain ⟨run, hcs⟩ := List.head?_eq_some_iff.mp hhead
  rw [hcs, List.all_eq_true] at hrun
  rw [hcs]
  exact .word hstart (fun d hd => hrun d (List.mem_cons_of_mem _ hd)) hrest.word

theorem exists_fits_of_complete {token : String} (h : Token.Complete token) :
    ∃ segment : Segment, segment.chars = token.toList ∧ segment.token? = some token ∧
      ∀ rest, Broken rest → Fits segment rest := by
  cases h with
  | symbol hsymbol =>
    exact ⟨.symbol token.toList, rfl, by simp [token?], fun rest hrest => fits_symbol hsymbol hrest⟩
  | keyword hkeyword =>
    refine ⟨.word token.toList, rfl, ?_, fun rest hrest => fits_keyword hkeyword hrest⟩
    simp [token?, Token.ofWord_keyword hkeyword]
  | @word c run hstart hrun hkeyword =>
    refine ⟨.word (c :: run), by simp [chars], ?_, fun rest hrest => .word hstart hrun hrest.word⟩
    rw [token?, Token.ofWord, hkeyword, if_neg Bool.false_ne_true]
  | number hnumber =>
    obtain ⟨hne, hdigits⟩ : token.toList ≠ [] ∧ ∀ c ∈ token.toList, c.isDigit = true := by
      simpa [Token.isNumericLiteral] using hnumber
    exact ⟨.number token.toList, rfl, by simp [token?],
      fun rest hrest => .number hne hdigits hrest.digit⟩
  | @literal body hbody =>
    exact ⟨.literal (Token.quote :: body ++ [Token.quote]), by simp [chars], rfl,
      fun rest _ => .closed hbody⟩

theorem Fits.endsBefore_isBlank {segment : Segment} {rest : List Char} (h : Fits segment rest)
    (htoken : segment.token?.isSome = true) (after : List Char) :
    EndsBefore Text.isBlank (segment.chars ++ after) := by
  have hquote : Text.isBlank Token.quote = false := by decide
  cases h with
  | blank _ _ _ => cases htoken
  | closed _ => exact endsBefore_cons.mpr hquote
  | unclosed _ => exact endsBefore_cons.mpr hquote
  | pair hpair => exact endsBefore_cons.mpr (Token.symbol_apart hpair (by simp)).1
  | single hsingle _ => exact endsBefore_cons.mpr (Token.symbol_apart hsingle (by simp)).1
  | word hstart _ _ =>
    have hcontinues := Token.continuesWord_of_startsWord hstart
    exact endsBefore_cons.mpr (Token.isBlank_of_continuesWord hcontinues)
  | number hne hdigits _ =>
    obtain ⟨c, digits, rfl⟩ := List.exists_cons_of_ne_nil hne
    have hcontinues := Token.continuesWord_of_isDigit (hdigits c List.mem_cons_self)
    exact endsBefore_cons.mpr (Token.isBlank_of_continuesWord hcontinues)

/-! ## Writing with blanks between the tokens -/

theorem broken_nil : Broken [] := nofun

theorem broken_blank (rest : List Char) : Broken (' ' :: rest) := by
  intro c hc
  cases hc
  exact Token.breaks_of_isBlank (by decide)

theorem fits_blank {rest : List Char} (h : EndsBefore Text.isBlank rest) :
    Fits (.blank [' ']) rest :=
  .blank (List.cons_ne_nil _ _) (List.forall_mem_singleton.mpr (by decide)) h

theorem exists_covers_of_written {tokens : List String} (h : Token.Written tokens) :
    ∃ segments : List Segment, Covers segments (" ".intercalate tokens).toList ∧
      segments.filterMap token? = tokens ∧
      EndsBefore Text.isBlank (" ".intercalate tokens).toList := by
  induction h with
  | nil => exact ⟨[], .nil, rfl, endsBefore_nil⟩
  | @unclosed body hbody =>
    have hfits := Fits.unclosed hbody
    have hcovers := Covers.cons (.fits hfits) .nil
    have hstart := hfits.endsBefore_isBlank rfl []
    simp only [chars, List.append_nil] at hcovers hstart
    refine ⟨[.literal (Token.quote :: body)], ?_, rfl, ?_⟩
    · simpa using hcovers
    · simpa using hstart
  | @cons token tokens hcomplete hwritten ih =>
    obtain ⟨segment, hchars, htoken, hfits⟩ := exists_fits_of_complete hcomplete
    obtain ⟨segments, hcovers, htokens, hstart⟩ := ih
    have hsome : segment.token?.isSome = true := by rw [htoken]; rfl
    by_cases hlast : tokens = []
    · subst hlast
      refine ⟨[segment], ?_, by simp [htoken], ?_⟩
      · have hcovers := Covers.cons (.fits (hfits [] broken_nil)) .nil
        simpa [hchars] using hcovers
      · have hstart := (hfits [] broken_nil).endsBefore_isBlank hsome []
        simpa [hchars] using hstart
    · have hbreak := hfits _ (broken_blank (" ".intercalate tokens).toList)
      have hcovers := Covers.cons (.fits hbreak) (.cons (.fits (fits_blank hstart)) hcovers)
      have htext : (" ".intercalate (token :: tokens)).toList =
          token.toList ++ ' ' :: (" ".intercalate tokens).toList := by
        rw [String.intercalate_cons_of_ne_nil hlast]
        simp
      rw [htext, ← hchars]
      refine ⟨segment :: .blank [' '] :: segments, hcovers, ?_, ?_⟩
      · rw [List.filterMap_cons_some htoken, List.filterMap_cons_none rfl, htokens]
      · exact hbreak.endsBefore_isBlank hsome _

end Segment

theorem written_tokenize (query : String) : Token.Written (tokenize query) :=
  Segment.written_of_covers (Segment.covers_cut query.toList)

theorem tokenize_of_written {tokens : List String} (h : Token.Written tokens) :
    tokenize (" ".intercalate tokens) = tokens := by
  obtain ⟨segments, hcovers, htokens, -⟩ := Segment.exists_covers_of_written h
  rw [tokenize_of_covers hcovers, htokens]

theorem analyze_congr {query other : String} (h : tokenize query = tokenize other) :
    analyze query = analyze other := by
  rw [analyze_eq, analyze_eq, h]

/-- Exactly the written lists are the tokens of a query. Each is so of its tokens with a blank
between each two; hence a query written anew from its tokens is analysed as before. -/
theorem tokenize_intercalate :
    (∀ tokens, (∃ query, tokenize query = tokens) ↔ Token.Written tokens) ∧
    (∀ tokens, Token.Written tokens → tokenize (" ".intercalate tokens) = tokens) ∧
    ∀ query, tokenize (" ".intercalate (tokenize query)) = tokenize query ∧
      analyze (" ".intercalate (tokenize query)) = analyze query := by
  refine ⟨?_, fun tokens => tokenize_of_written, ?_⟩
  · intro tokens
    constructor
    · rintro ⟨query, rfl⟩; exact written_tokenize query
    · intro hwritten; exact ⟨_, tokenize_of_written hwritten⟩
  · intro query
    have hagain := tokenize_of_written (written_tokenize query)
    exact ⟨hagain, analyze_congr hagain⟩

theorem tokenize_intercalate_unclosed :
    Token.Written ["<", ">", "TRUE", "x1", "1", "'it'", "'; TRUE"] ∧
      tokenize (" ".intercalate ["<", ">", "TRUE", "x1", "1", "'it'", "'; TRUE"]) =
        ["<", ">", "TRUE", "x1", "1", "'it'", "'; TRUE"] := by
  have hword : Token.Complete (String.ofList ['x', '1']) :=
    .word (by decide +kernel) (List.forall_mem_singleton.mpr (by decide +kernel))
      (by decide +kernel)
  have hliteral : Token.Complete (String.ofList (Token.quote :: ['i', 't'] ++ [Token.quote])) :=
    .literal (by decide)
  have hunclosed : Token.Written [String.ofList (Token.quote :: "; TRUE".toList)] :=
    .unclosed (by decide)
  have hwritten : Token.Written ["<", ">", "TRUE", "x1", "1", "'it'", "'; TRUE"] :=
    .cons (.symbol (by decide)) <| .cons (.symbol (by decide)) <| .cons (.keyword (by decide)) <|
      .cons hword <| .cons (.number (by decide)) <| .cons hliteral hunclosed
  exact ⟨hwritten, tokenize_intercalate.2.1 _ hwritten⟩

end SqlFront
