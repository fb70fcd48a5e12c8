import SqlFront.Proofs.Text.Capital
import SqlFront.Proofs.Token.Alike

/-!
# SqlFront.Proofs.Token.Recased

Tokens that differ in the case of their letters.

Reserved words are in capitals already, so case is a matter of names and literals only: whatever
is reserved in one spelling is the same in the other. Then the two are of the same classes.

* `Recased.alike`: no question of the grammar tells recased tokens apart.
* `recased_ofWord`: words up to case, as tokens.
-/

namespace SqlFront

namespace Token

/-- The same letters in any case, and as reserved words the same. -/
structure Recased (s t : String) : Prop where
  letters : Text.sameLetters s t = true
  keyword : ∀ keyword ∈ Vocabulary.keywords, s = keyword ↔ t = keyword

variable {s t : String}

theorem Recased.refl (token : String) : Recased token token :=
  ⟨Text.sameLetters_iff.mpr rfl, fun _ _ => Iff.rfl⟩

theorem recased_of_not_keyword (h : Text.sameLetters s t = true) (hs : isKeyword s = false)
    (ht : isKeyword t = false) : Recased s t := by
  refine ⟨h, fun keyword hkeyword => ?_⟩
  have hmem : isKeyword keyword = true := List.contains_iff_mem.mpr hkeyword
  constructor
  · rintro rfl
    rw [hs] at hmem
    cases hmem
  · rintro rfl
    rw [ht] at hmem
    cases hmem

theorem recased_ofWord (h : Text.sameLetters s t = true) : Recased (ofWord s) (ofWord t) := by
  have hcapitals := Text.capitals_eq h
  by_cases hkeyword : isKeyword (Text.capitals s) = true
  · rw [ofWord, ofWord, ← hcapitals, if_pos hkeyword, if_pos hkeyword]
    exact .refl _
  · have hword : ∀ word, Text.capitals word = Text.capitals s → isKeyword word = false := by
      intro word hword
      rw [Bool.eq_false_iff]
      intro hreserved
      rw [← hword, capitals_of_isKeyword hreserved] at hkeyword
      exact hkeyword hreserved
    rw [ofWord, ofWord, ← hcapitals, if_neg hkeyword, if_neg hkeyword]
    exact recased_of_not_keyword h (hword s rfl) (hword t hcapitals.symm)

/-! ## Recased tokens are alike -/

namespace Recased

variable (h : Recased s t)
include h

theorem isKeyword : isKeyword s = isKeyword t := by
  rw [Bool.eq_iff_iff, Token.isKeyword, Token.isKeyword, List.contains_iff_mem,
    List.contains_iff_mem]
  constructor
  · intro hs
    rwa [(h.keyword s hs).mp rfl]
  · intro ht
    rwa [(h.keyword t ht).mpr rfl]

theorem isSymbol : isSymbol s = isSymbol t := by
  have hsymbol := Text.eq_of_sameLetters (g := fun cs => Token.isSymbol (String.ofList cs))
    respellsWords_toUpper.isSymbol h.letters
  rwa [String.ofList_toList, String.ofList_toList] at hsymbol

theorem isStringLiteral : isStringLiteral s = isStringLiteral t := by
  refine Text.eq_of_sameLetters (g := fun cs => cs.head? == some quote) (fun cs => ?_) h.letters
  cases cs with
  | nil => rfl
  | cons c cs => exact respellsWords_toUpper.isQuote c

theorem isNumericLiteral : isNumericLiteral s = isNumericLiteral t := by
  refine Text.eq_of_sameLetters (g := fun cs => !cs.isEmpty && cs.all Char.isDigit) (fun cs => ?_)
    h.letters
  rw [List.isEmpty_map, List.all_map]
  congr 2
  exact funext respellsWords_toUpper.isDigit

theorem isIdentifier : isIdentifier s = isIdentifier t := by
  have hstart : s.toList.head?.any startsWord = t.toList.head?.any startsWord := by
    refine Text.eq_of_sameLetters (g := fun cs => cs.head?.any startsWord) (fun cs => ?_) h.letters
    cases cs with
    | nil => rfl
    | cons c cs => exact respellsWords_toUpper.startsWord c
  rw [Token.isIdentifier, Token.isIdentifier, hstart, h.isKeyword]

/-- Signs have no letters, so none has another spelling. -/
theorem eq_of_isSymbol (hs : Token.isSymbol s = true) : s = t := by
  have hsymbols : ∀ symbol ∈ Vocabulary.symbols,
      symbol.toList.map Char.toUpper = symbol.toList := by
    decide
  have ht : Token.isSymbol t = true := by rwa [← h.isSymbol]
  have hletters := Text.sameLetters_iff.mp h.letters
  rw [hsymbols s (List.contains_iff_mem.mp hs),
    hsymbols t (List.contains_iff_mem.mp ht)] at hletters
  exact String.toList_injective hletters

theorem alike : Alike s t := by
  by_cases hsymbol : Token.isSymbol s = true
  · exact .inl (h.eq_of_isSymbol hsymbol)
  · by_cases hkeyword : Token.isKeyword s = true
    · have hmem := List.contains_iff_mem.mp hkeyword
      exact .inl ((h.keyword s hmem).mp rfl).symm
    · rw [Bool.not_eq_true] at hsymbol hkeyword
      exact .inr ⟨⟨hkeyword, hsymbol⟩,
        ⟨by rw [← h.isKeyword, hkeyword], by rw [← h.isSymbol, hsymbol]⟩,
        h.isIdentifier, h.isNumericLiteral, h.isStringLiteral⟩

end Recased

end Token
end SqlFront
