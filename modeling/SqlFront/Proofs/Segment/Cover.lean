import SqlFront.Analysis
import SqlFront.Proofs.Text.Apart

/-!
# SqlFront.Proofs.Segment.Cover

What it means that segments cover a text, without a word on how they are found.

`Fits` says for each sort what its segments are and how far they go; `Stands` adds the strays, the
characters at which nothing that fits can start. A cover of a text is a list of segments that put
together are the text, each of which stands before what is left.

What the segments of a cover give is a relation of its own, `Yields`: one rule for each sort, and
two for words.

* `stands_first`, `first_of_stands`: what is cut off first stands, and nothing else does.
* `covers_iff`: the cut is the only cover of a text.
* `exists_covers_iff`: what the only cover of a query yields are its tokens and the characters that
  are dropped.
-/

namespace SqlFront
namespace Segment

/-- The rest goes on with no character of the class. -/
def EndsBefore (test : Char → Bool) (rest : List Char) : Prop :=
  ∀ c, rest.head? = some c → test c = false

/-- The segment is of its sort, and with this rest after it, it is as long as its sort allows. -/
inductive Fits : Segment → List Char → Prop where
  | blank {run rest : List Char} : run ≠ [] → (∀ c ∈ run, Text.isBlank c = true) →
      EndsBefore Text.isBlank rest → Fits (.blank run) rest
  | closed {body rest : List Char} : Token.quote ∉ body →
      Fits (.literal (Token.quote :: body ++ [Token.quote])) rest
  | unclosed {body : List Char} : Token.quote ∉ body → Fits (.literal (Token.quote :: body)) []
  | pair {c d : Char} {rest : List Char} : Token.isSymbol (String.ofList [c, d]) = true →
      Fits (.symbol [c, d]) rest
  | single {c : Char} {rest : List Char} : Token.isSymbol (String.ofList [c]) = true →
      EndsBefore (fun d => Token.isSymbol (String.ofList [c, d])) rest → Fits (.symbol [c]) rest
  | word {c : Char} {run rest : List Char} : Token.startsWord c = true →
      (∀ d ∈ run, Token.continuesWord d = true) → EndsBefore Token.continuesWord rest →
      Fits (.word (c :: run)) rest
  | number {digits rest : List Char} : digits ≠ [] → (∀ c ∈ digits, c.isDigit = true) →
      EndsBefore Char.isDigit rest → Fits (.number digits) rest

/-- The segment fits, or it is a single character and nothing that fits starts with it. -/
inductive Stands : Segment → List Char → Prop where
  | fits {segment : Segment} {rest : List Char} : Fits segment rest → Stands segment rest
  | stray {c : Char} {rest : List Char} :
      (∀ segment after, Fits segment after → segment.chars ++ after ≠ c :: rest) →
      Stands (.stray c) rest

/-- The segments put together are the text, and each stands before what is left. -/
inductive Covers : List Segment → List Char → Prop where
  | nil : Covers [] []
  | cons {segment : Segment} {segments : List Segment} {rest : List Char} :
      Stands segment rest → Covers segments rest →
      Covers (segment :: segments) (segment.chars ++ rest)

/-- What the segments give, in order: the tokens, and the characters that are dropped. A word is
given in capitals if these are a reserved word. All else that is given is given as it stands. -/
inductive Yields : List Segment → List String → List Char → Prop where
  | nil : Yields [] [] []
  | blank {run : List Char} {segments : List Segment} {tokens : List String} {dropped : List Char} :
      Yields segments tokens dropped → Yields (.blank run :: segments) tokens dropped
  | literal {text : List Char} {segments : List Segment} {tokens : List String}
      {dropped : List Char} :
      Yields segments tokens dropped →
      Yields (.literal text :: segments) (String.ofList text :: tokens) dropped
  | symbol {text : List Char} {segments : List Segment} {tokens : List String}
      {dropped : List Char} :
      Yields segments tokens dropped →
      Yields (.symbol text :: segments) (String.ofList text :: tokens) dropped
  | keyword {text : List Char} {segments : List Segment} {tokens : List String}
      {dropped : List Char} :
      Text.capitals (String.ofList text) ∈ Vocabulary.keywords →
      Yields segments tokens dropped →
      Yields (.word text :: segments) (Text.capitals (String.ofList text) :: tokens) dropped
  | name {text : List Char} {segments : List Segment} {tokens : List String}
      {dropped : List Char} :
      Text.capitals (String.ofList text) ∉ Vocabulary.keywords →
      Yields segments tokens dropped →
      Yields (.word text :: segments) (String.ofList text :: tokens) dropped
  | number {digits : List Char} {segments : List Segment} {tokens : List String}
      {dropped : List Char} :
      Yields segments tokens dropped →
      Yields (.number digits :: segments) (String.ofList digits :: tokens) dropped
  | stray {c : Char} {segments : List Segment} {tokens : List String} {dropped : List Char} :
      Yields segments tokens dropped → Yields (.stray c :: segments) tokens (c :: dropped)

/-! ## Runs -/

section Runs

variable {test : Char → Bool} {run rest : List Char}

theorem endsBefore_nil : EndsBefore test [] := nofun

theorem endsBefore_cons {c : Char} : EndsBefore test (c :: rest) ↔ test c = false := by
  simp [EndsBefore]

theorem endsBefore_dropWhile (cs : List Char) : EndsBefore test (cs.dropWhile test) := by
  intro c hc
  have h := List.head?_dropWhile_not test cs
  rwa [hc] at h

theorem of_mem_takeWhile {c : Char} {cs : List Char} (h : c ∈ cs.takeWhile test) :
    test c = true :=
  List.all_eq_true.mp List.all_takeWhile c h

theorem takeWhile_run (hrun : ∀ c ∈ run, test c = true) (hrest : EndsBefore test rest) :
    (run ++ rest).takeWhile test = run := by
  rw [List.takeWhile_append_of_pos hrun]
  cases rest with
  | nil => simp
  | cons c rest => simp [endsBefore_cons.mp hrest]

theorem dropWhile_run (hrun : ∀ c ∈ run, test c = true) (hrest : EndsBefore test rest) :
    (run ++ rest).dropWhile test = rest := by
  rw [List.dropWhile_append_of_pos hrun]
  cases rest with
  | nil => rfl
  | cons c rest => simp [endsBefore_cons.mp hrest]

end Runs

/-! ## Breaks -/

/-- The rest starts with a character that no word, number or sign goes on with, or is empty. -/
def Broken (rest : List Char) : Prop := ∀ c, rest.head? = some c → Token.Breaks c

theorem Broken.word {rest : List Char} (h : Broken rest) : EndsBefore Token.continuesWord rest :=
  fun c hc => (h c hc).word

theorem Broken.digit {rest : List Char} (h : Broken rest) : EndsBefore Char.isDigit rest :=
  fun c hc => (h c hc).digit

theorem Broken.symbol {rest : List Char} (h : Broken rest) (c : Char) :
    EndsBefore (fun d => Token.isSymbol (String.ofList [c, d])) rest := by
  intro d hd
  rw [Bool.eq_false_iff]
  intro hsymbol
  exact (h d hd).symbol _ hsymbol (by simp)

/-! ## Signs and literals -/

theorem symbolFrom?_pair {c d : Char} (rest : List Char)
    (h : Token.isSymbol (String.ofList [c, d]) = true) :
    symbolFrom? c (d :: rest) = some (.symbol [c, d], rest) := by
  rw [symbolFrom?, if_pos h]

theorem symbolFrom?_single {c : Char} {rest : List Char}
    (h : Token.isSymbol (String.ofList [c]) = true)
    (hrest : EndsBefore (fun d => Token.isSymbol (String.ofList [c, d])) rest) :
    symbolFrom? c rest = some (.symbol [c], rest) := by
  cases rest with
  | nil => rw [symbolFrom?, if_pos h]
  | cons d rest =>
    have hpair : ¬Token.isSymbol (String.ofList [c, d]) = true := by
      rw [endsBefore_cons.mp hrest]
      exact Bool.false_ne_true
    rw [symbolFrom?, if_neg hpair, if_pos h]

theorem symbolFrom?_of_notMem {c : Char} (cs : List Char)
    (h : ∀ text, Token.isSymbol text = true → c ∉ text.toList) : symbolFrom? c cs = none := by
  have hnone : ∀ text : List Char, c ∈ text → ¬Token.isSymbol (String.ofList text) = true := by
    intro text hc hsymbol
    exact h _ hsymbol (by rwa [String.toList_ofList])
  have hsingle := hnone [c] List.mem_cons_self
  cases cs with
  | nil => rw [symbolFrom?, if_neg hsingle]
  | cons d rest => rw [symbolFrom?, if_neg (hnone [c, d] List.mem_cons_self), if_neg hsingle]

theorem ne_quote_of_mem {body : List Char} (h : Token.quote ∉ body) :
    ∀ c ∈ body, (c != Token.quote) = true := by
  intro c hc
  rw [bne_iff_ne]
  rintro rfl
  exact h hc

theorem literalFrom_closed {body : List Char} (rest : List Char) (h : Token.quote ∉ body) :
    literalFrom (body ++ Token.quote :: rest) =
      (.literal (Token.quote :: body ++ [Token.quote]), rest) := by
  have hstop : EndsBefore (· != Token.quote) (Token.quote :: rest) :=
    endsBefore_cons.mpr (by simp)
  rw [literalFrom, dropWhile_run (ne_quote_of_mem h) hstop,
    takeWhile_run (ne_quote_of_mem h) hstop]

theorem literalFrom_unclosed {body : List Char} (h : Token.quote ∉ body) :
    literalFrom body = (.literal (Token.quote :: body), []) := by
  have htake := takeWhile_run (ne_quote_of_mem h) endsBefore_nil
  have hdrop := dropWhile_run (ne_quote_of_mem h) endsBefore_nil
  rw [List.append_nil] at htake hdrop
  rw [literalFrom, hdrop, htake]

/-! ## What is cut off first stands -/

theorem fits_literalFrom (cs : List Char) : Fits (literalFrom cs).1 (literalFrom cs).2 := by
  have hbody : Token.quote ∉ cs.takeWhile (· != Token.quote) := by
    intro hmem
    have := of_mem_takeWhile hmem
    simp at this
  have hstop : EndsBefore (· != Token.quote) (cs.dropWhile (· != Token.quote)) :=
    endsBefore_dropWhile cs
  unfold literalFrom
  split
  · exact .unclosed hbody
  · rename_i close rest heq
    rw [heq, endsBefore_cons] at hstop
    obtain rfl : close = Token.quote := by simpa using hstop
    exact .closed hbody

theorem fits_symbolFrom? {c : Char} {cs : List Char} {found : Segment × List Char}
    (h : symbolFrom? c cs = some found) : Fits found.1 found.2 := by
  unfold symbolFrom? at h
  split at h <;> split at h
  · rename_i hpair; cases h; exact .pair hpair
  · split at h
    · rename_i hpair hsingle
      cases h
      exact .single hsingle (endsBefore_cons.mpr (Bool.eq_false_iff.mpr hpair))
    · cases h
  · rename_i hsingle; cases h; exact .single hsingle endsBefore_nil
  · cases h

theorem Fits.chars_ne_nil {segment : Segment} {rest : List Char} (h : Fits segment rest) :
    segment.chars ≠ [] := by
  cases h with
  | blank hne _ _ => exact hne
  | number hne _ _ => exact hne
  | _ => exact List.cons_ne_nil _ _

/-- Whatever fits starts with a character of its sort. -/
theorem Fits.starts {segment : Segment} {rest cs : List Char} {c : Char}
    (h : Fits segment rest) (hchars : segment.chars = c :: cs) :
    Text.isBlank c = true ∨ c = Token.quote ∨ symbolFrom? c (cs ++ rest) ≠ none ∨
      Token.startsWord c = true ∨ c.isDigit = true := by
  cases h with
  | blank _ hrun _ => cases hchars; exact .inl (hrun c List.mem_cons_self)
  | closed _ => cases hchars; exact .inr (.inl rfl)
  | unclosed _ => cases hchars; exact .inr (.inl rfl)
  | pair hpair =>
    cases hchars
    exact .inr (.inr (.inl (by simp [symbolFrom?_pair rest hpair])))
  | single hsingle hrest =>
    cases hchars
    exact .inr (.inr (.inl (by simp [symbolFrom?_single hsingle hrest])))
  | word hstart _ _ => cases hchars; exact .inr (.inr (.inr (.inl hstart)))
  | number _ hdigits _ =>
    cases hchars
    exact .inr (.inr (.inr (.inr (hdigits c List.mem_cons_self))))

theorem forall_mem_cons_takeWhile {test : Char → Bool} {c : Char} {cs : List Char}
    (hc : test c = true) : ∀ d ∈ c :: cs.takeWhile test, test d = true := by
  intro d hd
  rcases List.mem_cons.mp hd with rfl | hd
  · exact hc
  · exact of_mem_takeWhile hd

theorem stands_first (c : Char) (cs : List Char) : Stands (first c cs).1 (first c cs).2 := by
  unfold first
  split
  · rename_i hblank
    exact .fits (.blank (List.cons_ne_nil _ _) (forall_mem_cons_takeWhile hblank)
      (endsBefore_dropWhile cs))
  · split
    · exact .fits (fits_literalFrom cs)
    · split
      · rename_i hfound; exact .fits (fits_symbolFrom? hfound)
      · split
        · rename_i hword
          exact .fits (.word hword (fun d hd => of_mem_takeWhile hd) (endsBefore_dropWhile cs))
        · split
          · rename_i hdigit
            exact .fits (.number (List.cons_ne_nil _ _) (forall_mem_cons_takeWhile hdigit)
              (endsBefore_dropWhile cs))
          · rename_i hblank hquote _ hsymbol hword hdigit
            refine .stray fun segment after hfits heq => ?_
            obtain ⟨d, ds, hchars⟩ := List.exists_cons_of_ne_nil hfits.chars_ne_nil
            rw [hchars, List.cons_append, List.cons.injEq] at heq
            obtain ⟨rfl, rfl⟩ := heq
            rcases hfits.starts hchars with h | h | h | h | h
            · exact hblank h
            · exact hquote h
            · exact h hsymbol
            · exact hword h
            · exact hdigit h

theorem covers_cut (cs : List Char) : Covers (cut cs) cs := by
  fun_induction cut cs with
  | case1 => exact .nil
  | case2 c cs ih =>
    have hcovers := Covers.cons (stands_first c cs) ih
    rwa [first_append] at hcovers

/-! ## Nothing else stands -/

theorem Stands.chars_ne_nil {segment : Segment} {rest : List Char} (h : Stands segment rest) :
    segment.chars ≠ [] := by
  cases h with
  | fits hfits => exact hfits.chars_ne_nil
  | stray _ => exact List.cons_ne_nil _ _

theorem first_quote (cs : List Char) : first Token.quote cs = literalFrom cs := by
  have hblank : ¬Text.isBlank Token.quote = true := by decide
  rw [first, if_neg hblank, if_pos rfl]

theorem first_of_isSymbol {c : Char} {cs text : List Char} {found : Segment × List Char}
    (hsymbol : Token.isSymbol (String.ofList text) = true) (hc : c ∈ text)
    (hfound : symbolFrom? c cs = some found) : first c cs = found := by
  obtain ⟨hblank, hquote, -, -⟩ :=
    Token.symbol_apart hsymbol (c := c) (by rwa [String.toList_ofList])
  simp [first, hblank, hquote, hfound]

theorem first_of_continuesWord {c : Char} (cs : List Char) (h : Token.continuesWord c = true) :
    first c cs =
      if Token.startsWord c then
        (.word (c :: cs.takeWhile Token.continuesWord), cs.dropWhile Token.continuesWord)
      else if c.isDigit then
        (.number (c :: cs.takeWhile Char.isDigit), cs.dropWhile Char.isDigit)
      else (.stray c, cs) := by
  have hblank := Token.isBlank_of_continuesWord h
  have hquote : c ≠ Token.quote := by
    rintro rfl
    rw [Token.continuesWord_quote] at h
    cases h
  have hsymbol : ∀ text, Token.isSymbol text = true → c ∉ text.toList := by
    intro text htext hc
    rw [(Token.symbol_apart htext hc).2.2.1] at h
    cases h
  simp [first, hblank, hquote, symbolFrom?_of_notMem cs hsymbol]

theorem first_of_fits {segment : Segment} {rest cs : List Char} {c : Char}
    (h : Fits segment rest) (hchars : segment.chars = c :: cs) :
    first c (cs ++ rest) = (segment, rest) := by
  cases h with
  | blank _ hrun hrest =>
    cases hchars
    have htail : ∀ d ∈ cs, Text.isBlank d = true := fun d hd => hrun d (List.mem_cons_of_mem _ hd)
    rw [first, if_pos (hrun c List.mem_cons_self), takeWhile_run htail hrest,
      dropWhile_run htail hrest]
  | @closed body _ hbody =>
    cases hchars
    have hrest : (body ++ [Token.quote]) ++ rest = body ++ Token.quote :: rest := by simp
    rw [first_quote, ← literalFrom_closed rest hbody, ← hrest]
    rfl
  | unclosed hbody =>
    cases hchars
    rw [List.append_nil, first_quote, literalFrom_unclosed hbody]
  | pair hpair =>
    cases hchars
    exact first_of_isSymbol hpair List.mem_cons_self (symbolFrom?_pair rest hpair)
  | single hsingle hrest =>
    cases hchars
    exact first_of_isSymbol hsingle List.mem_cons_self (symbolFrom?_single hsingle hrest)
  | word hstart hrun hrest =>
    cases hchars
    rw [first_of_continuesWord _ (Token.continuesWord_of_startsWord hstart), if_pos hstart,
      takeWhile_run hrun hrest, dropWhile_run hrun hrest]
  | number _ hdigits hrest =>
    cases hchars
    have hdigit := hdigits c List.mem_cons_self
    have htail : ∀ d ∈ cs, d.isDigit = true := fun d hd => hdigits d (List.mem_cons_of_mem _ hd)
    rw [first_of_continuesWord _ (Token.continuesWord_of_isDigit hdigit),
      Token.startsWord_of_isDigit hdigit, if_neg Bool.false_ne_true, if_pos hdigit,
      takeWhile_run htail hrest, dropWhile_run htail hrest]

theorem first_of_stands {segment : Segment} {rest cs : List Char} {c : Char}
    (h : Stands segment rest) (hchars : segment.chars = c :: cs) :
    first c (cs ++ rest) = (segment, rest) := by
  cases h with
  | fits hfits => exact first_of_fits hfits hchars
  | stray hnone =>
    cases hchars
    rw [List.nil_append]
    have happend := first_append c rest
    have hstands := stands_first c rest
    generalize first c rest = found at happend hstands ⊢
    obtain ⟨segment, after⟩ := found
    cases hstands with
    | fits hfits => exact absurd happend (hnone segment after hfits)
    | stray _ =>
      simp only [chars, List.singleton_append, List.cons.injEq] at happend
      obtain ⟨rfl, rfl⟩ := happend
      rfl

theorem Covers.eq_cut {segments : List Segment} {cs : List Char} (h : Covers segments cs) :
    segments = cut cs := by
  induction h with
  | nil => rw [cut]
  | @cons segment segments rest hstands _ ih =>
    obtain ⟨c, cs, hchars⟩ := List.exists_cons_of_ne_nil hstands.chars_ne_nil
    rw [hchars, List.cons_append, cut, first_of_stands hstands hchars, ih]

theorem Covers.eq_nil {segments : List Segment} (h : Covers segments []) : segments = [] := by
  rw [h.eq_cut, cut]

theorem covers_iff {segments : List Segment} {cs : List Char} :
    Covers segments cs ↔ segments = cut cs := by
  constructor
  · exact Covers.eq_cut
  · rintro rfl; exact covers_cut cs

/-! ## What a cover yields -/

theorem yields_filterMap (segments : List Segment) :
    Yields segments (segments.filterMap token?) (segments.filterMap stray?) := by
  induction segments with
  | nil => exact .nil
  | cons segment segments ih =>
    cases segment with
    | blank run => exact .blank ih
    | literal text => exact .literal ih
    | symbol text => exact .symbol ih
    | word text =>
      have htoken : token? (.word text) = some (Token.ofWord (String.ofList text)) := rfl
      rw [List.filterMap_cons_some htoken, Token.ofWord]
      split
      · rename_i hkeyword
        exact .keyword (List.contains_iff_mem.mp hkeyword) ih
      · rename_i hkeyword
        exact .name (fun hmem => hkeyword (List.contains_iff_mem.mpr hmem)) ih
    | number digits => exact .number ih
    | stray c => exact .stray ih

/-- Segments yield one thing only. -/
theorem Yields.unique {segments : List Segment} {tokens others : List String}
    {dropped dropped' : List Char} (h : Yields segments tokens dropped)
    (h' : Yields segments others dropped') : tokens = others ∧ dropped = dropped' := by
  induction h generalizing others dropped' with
  | nil => cases h'; exact ⟨rfl, rfl⟩
  | blank _ ih => cases h' with | blank h' => exact ih h'
  | literal _ ih =>
    cases h' with
    | literal h' => obtain ⟨rfl, rfl⟩ := ih h'; exact ⟨rfl, rfl⟩
  | symbol _ ih =>
    cases h' with
    | symbol h' => obtain ⟨rfl, rfl⟩ := ih h'; exact ⟨rfl, rfl⟩
  | keyword hkeyword _ ih =>
    cases h' with
    | keyword _ h' => obtain ⟨rfl, rfl⟩ := ih h'; exact ⟨rfl, rfl⟩
    | name hname _ => exact absurd hkeyword hname
  | name hname _ ih =>
    cases h' with
    | keyword hkeyword _ => exact absurd hkeyword hname
    | name _ h' => obtain ⟨rfl, rfl⟩ := ih h'; exact ⟨rfl, rfl⟩
  | number _ ih =>
    cases h' with
    | number h' => obtain ⟨rfl, rfl⟩ := ih h'; exact ⟨rfl, rfl⟩
  | stray _ ih =>
    cases h' with
    | stray h' => obtain ⟨rfl, rfl⟩ := ih h'; exact ⟨rfl, rfl⟩

end Segment

theorem tokenize_of_covers {query : String} {segments : List Segment}
    (h : Segment.Covers segments query.toList) :
    tokenize query = segments.filterMap Segment.token? := by
  rw [h.eq_cut, tokenize]

theorem yields_tokenize (query : String) :
    Segment.Yields (Segment.cut query.toList) (tokenize query) (strays query) :=
  Segment.yields_filterMap _

/-- Exactly one list of segments covers a query. Put together they are the query. What they yield is
what the query is cut into: the tokens, and one event for each character that is dropped. -/
theorem exists_covers_iff (query : String) :
    ∃ segments : List Segment,
      (∀ others, Segment.Covers others query.toList ↔ others = segments) ∧
      (segments.map Segment.chars).flatten = query.toList ∧
      ∀ tokens dropped, Segment.Yields segments tokens dropped ↔
        tokenize query = tokens ∧
        (tokenizeLogged query).events =
          dropped.map .dropped ++ [.tokenized tokens.length] := by
  refine ⟨Segment.cut query.toList, fun _ => Segment.covers_iff, Segment.cut_flatten query.toList,
    fun tokens dropped => ⟨fun h => ?_, fun ⟨htokens, hevents⟩ => ?_⟩⟩
  · obtain ⟨rfl, rfl⟩ := h.unique (yields_tokenize query)
    exact ⟨rfl, rfl⟩
  · subst htokens
    have hstrays : strays query = dropped := by
      rw [tokenizeLogged, List.append_left_inj] at hevents
      exact (List.map_inj_right fun _ _ => Event.dropped.inj).mp hevents
    exact hstrays ▸ yields_tokenize query

end SqlFront
