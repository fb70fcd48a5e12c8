import SqlFront.Proofs.Segment.Cover

/-!
# SqlFront.Proofs.Segment.Append

Where two texts can be put together and each is cut as it is alone.

What stands at the end of the first text must still stand before the second. Only two things can
go wrong: the second text goes on with the last segment, or the first text ends inside a literal.
Quotes tell the latter: their number is odd exactly if a literal is left open.

* `Covers.append_quote`: a text with an even number of quotes, before one that starts with a quote.
* `tokenize_append_literal`: so a literal is a token of its own wherever it stands.
-/

namespace SqlFront
namespace Segment

/-! ## The last segment -/

theorem EndsBefore.append {test : Char → Bool} {rest after : List Char}
    (h : EndsBefore test rest) (hafter : rest = [] → EndsBefore test after) :
    EndsBefore test (rest ++ after) := by
  cases rest with
  | nil => exact hafter rfl
  | cons c rest => exact endsBefore_cons.mpr (endsBefore_cons.mp h)

theorem count_quote_of_notMem {cs : List Char} (h : Token.quote ∉ cs) :
    cs.count Token.quote = 0 := List.count_eq_zero.mpr h

/-- Only a literal that is left open has an odd number of quotes, and only a run of blanks at the
end goes on with blanks. -/
theorem Fits.append {segment : Segment} {rest after : List Char} (h : Fits segment rest)
    (hquotes : segment.chars.count Token.quote % 2 = 0) (hbroken : Broken after)
    (hblank : ∀ run, segment = .blank run → rest = [] → EndsBefore Text.isBlank after) :
    Fits segment (rest ++ after) := by
  cases h with
  | @blank run _ hne hrun hrest => exact .blank hne hrun (hrest.append (hblank run rfl))
  | closed hbody => exact .closed hbody
  | unclosed hbody =>
    simp [chars, count_quote_of_notMem hbody] at hquotes
  | pair hpair => exact .pair hpair
  | single hsingle hrest => exact .single hsingle (hrest.append fun _ => hbroken.symbol _)
  | word hstart hrun hrest => exact .word hstart hrun (hrest.append fun _ => hbroken.word)
  | number hne hdigits hrest => exact .number hne hdigits (hrest.append fun _ => hbroken.digit)

/-- At a stray none of the tests is passed. -/
theorem Stands.stray_tests {c : Char} {rest : List Char} (h : Stands (.stray c) rest) :
    Text.isBlank c = false ∧ c ≠ Token.quote ∧ symbolFrom? c rest = none ∧
      Token.startsWord c = false ∧ c.isDigit = false := by
  have hfirst : first c rest = (.stray c, rest) := first_of_stands h rfl
  unfold first at hfirst
  split at hfirst
  · cases hfirst
  · split at hfirst
    · have hfits := fits_literalFrom rest
      rw [hfirst] at hfits
      cases hfits
    · split at hfirst
      · rename_i hfound
        have hfits := fits_symbolFrom? hfound
        rw [hfirst] at hfits
        cases hfits
      · split at hfirst
        · cases hfirst
        · split at hfirst
          · cases hfirst
          · rename_i hblank hquote _ hsymbol hword hdigit
            exact ⟨Bool.eq_false_iff.mpr hblank, hquote, hsymbol, Bool.eq_false_iff.mpr hword,
              Bool.eq_false_iff.mpr hdigit⟩

theorem symbolFrom?_append_of_none {c : Char} {rest after : List Char}
    (h : symbolFrom? c rest = none)
    (hbroken : Broken after) : symbolFrom? c (rest ++ after) = none := by
  cases rest with
  | cons d rest =>
    rw [symbolFrom?] at h
    rw [List.cons_append, symbolFrom?]
    split at h
    · cases h
    · split at h
      · cases h
      · rename_i hpair hsingle
        rw [if_neg hpair, if_neg hsingle]
  | nil =>
    cases after with
    | nil => exact h
    | cons d after =>
      rw [symbolFrom?] at h
      split at h
      · cases h
      · rename_i hsingle
        have hpair := endsBefore_cons.mp (hbroken.symbol c)
        rw [List.nil_append, symbolFrom?, hpair, if_neg Bool.false_ne_true, if_neg hsingle]

theorem Stands.append {segment : Segment} {rest after : List Char} (h : Stands segment rest)
    (hquotes : segment.chars.count Token.quote % 2 = 0) (hbroken : Broken after)
    (hblank : ∀ run, segment = .blank run → rest = [] → EndsBefore Text.isBlank after) :
    Stands segment (rest ++ after) := by
  cases h with
  | fits hfits => exact .fits (hfits.append hquotes hbroken hblank)
  | @stray c _ hnone =>
    obtain ⟨hblank, hquote, hsymbol, hword, hdigit⟩ := Stands.stray_tests (.stray hnone)
    refine .stray fun other left hfits heq => ?_
    obtain ⟨d, ds, hchars⟩ := List.exists_cons_of_ne_nil hfits.chars_ne_nil
    rw [hchars, List.cons_append, List.cons.injEq] at heq
    obtain ⟨rfl, heq⟩ := heq
    have hstarts := hfits.starts hchars
    rw [heq, symbolFrom?_append_of_none hsymbol hbroken, hblank, hword, hdigit] at hstarts
    simp [hquote] at hstarts

/-! ## Quotes -/

/-- Until a literal is left open, quotes come in pairs; after one, nothing comes. -/
theorem Fits.count_quote {segment : Segment} {rest : List Char} (h : Fits segment rest) :
    segment.chars.count Token.quote % 2 = 0 ∨
      rest = [] ∧ ∃ body, segment = .literal (Token.quote :: body) := by
  have hnone : Token.quote ∉ segment.chars → segment.chars.count Token.quote % 2 = 0 := by
    intro hnotMem
    rw [count_quote_of_notMem hnotMem]
  cases h with
  | blank _ hrun _ =>
    refine .inl (hnone fun hmem => ?_)
    exact absurd (hrun _ hmem) (by decide)
  | closed hbody =>
    exact .inl (by simp [chars, count_quote_of_notMem hbody])
  | @unclosed body _ => exact .inr ⟨rfl, body, rfl⟩
  | pair hpair =>
    refine .inl (hnone fun hmem => ?_)
    exact (Token.symbol_apart hpair (by simpa [chars] using hmem)).2.1 rfl
  | single hsingle _ =>
    refine .inl (hnone fun hmem => ?_)
    exact (Token.symbol_apart hsingle (by simpa [chars] using hmem)).2.1 rfl
  | word hstart hrun _ =>
    refine .inl (hnone fun hmem => ?_)
    have hquote := Token.continuesWord_quote
    rcases List.mem_cons.mp hmem with heq | hmem
    · rw [heq, Token.continuesWord_of_startsWord hstart] at hquote
      cases hquote
    · rw [hrun _ hmem] at hquote
      cases hquote
  | number _ hdigits _ =>
    refine .inl (hnone fun hmem => ?_)
    exact absurd (hdigits _ hmem) (by decide)

theorem Stands.count_quote {segment : Segment} {rest : List Char} (h : Stands segment rest) :
    segment.chars.count Token.quote % 2 = 0 ∨
      rest = [] ∧ ∃ body, segment = .literal (Token.quote :: body) := by
  cases h with
  | fits hfits => exact hfits.count_quote
  | stray hnone =>
    have hquote := (Stands.stray_tests (.stray hnone)).2.1
    exact .inl (by simp [chars, hquote])

/-- An even number of quotes in the whole is one in both of its parts. -/
theorem Stands.even_quotes {segment : Segment} {rest : List Char} (h : Stands segment rest)
    (hquotes : (segment.chars ++ rest).count Token.quote % 2 = 0) :
    segment.chars.count Token.quote % 2 = 0 ∧ rest.count Token.quote % 2 = 0 := by
  rw [List.count_append] at hquotes
  rcases h.count_quote with hsegment | ⟨rfl, -⟩
  · exact ⟨hsegment, by omega⟩
  · exact ⟨by simpa using hquotes, rfl⟩

theorem broken_quote (after : List Char) : Broken (Token.quote :: after) := by
  intro c hc
  cases hc
  exact Token.breaks_quote

theorem Covers.append_quote {segments others : List Segment} {cs after : List Char}
    (h : Covers segments cs) (hquotes : cs.count Token.quote % 2 = 0)
    (hothers : Covers others (Token.quote :: after)) :
    Covers (segments ++ others) (cs ++ Token.quote :: after) := by
  induction h with
  | nil => exact hothers
  | @cons segment segments rest hstands _ ih =>
    obtain ⟨hsegment, hrest⟩ := hstands.even_quotes hquotes
    have hnext := hstands.append hsegment (broken_quote after)
      fun _ _ _ => endsBefore_cons.mpr (by decide)
    rw [List.append_assoc]
    exact .cons hnext (ih hrest)

end Segment

/-- The closed literal with these contents. -/
def Token.literal (contents : String) : String := "'" ++ contents ++ "'"

theorem Token.toList_literal (contents : String) :
    (literal contents).toList = quote :: contents.toList ++ [quote] := by
  have hquote : "'".toList = [quote] := by decide
  simp [literal, hquote]

/-- After an even number of quotes, a literal is a token by itself, whatever stands in it. -/
theorem tokenize_append_literal {a s : String} (b : String)
    (hquotes : a.toList.count Token.quote % 2 = 0) (hs : Token.quote ∉ s.toList) :
    tokenize (a ++ Token.literal s ++ b) = tokenize a ++ Token.literal s :: tokenize b := by
  have hstands : Segment.Stands (.literal (Token.quote :: s.toList ++ [Token.quote])) b.toList :=
    .fits (.closed hs)
  have hliteral := Segment.Covers.cons hstands (Segment.covers_cut b.toList)
  have hcovers := (Segment.covers_cut a.toList).append_quote hquotes hliteral
  have htext : (a ++ Token.literal s ++ b).toList =
      a.toList ++ Token.quote :: (s.toList ++ [Token.quote] ++ b.toList) := by
    simp [String.toList_append, Token.toList_literal]
  have htoken : (Segment.literal (Token.quote :: s.toList ++ [Token.quote])).token? =
      some (Token.literal s) := by
    rw [Segment.token?, Option.some.injEq, ← String.toList_inj, Token.toList_literal]
    simp
  rw [tokenize_of_covers (htext ▸ hcovers), List.filterMap_append,
    List.filterMap_cons_some htoken]
  rfl

end SqlFront
