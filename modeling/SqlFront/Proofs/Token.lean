import SqlFront.Statement

/-!
# SqlFront.Proofs.Token

Facts about the classes of tokens that come from the vocabulary alone.

No letter has a smaller code point than `A`, and every sign, every digit and every name of the
grammar begins below `A`. So none of them is a name, and no sign is a value.
-/

namespace SqlFront
namespace Token

theorem startsWord_of_lt {c : Char} (h : c.toNat < 'A'.toNat) : startsWord c = false := by
  have hranges : ∀ range ∈ Text.alphabeticRanges, 'A'.toNat ≤ range.1 := by decide +kernel
  have halphabetic : Text.isAlphabetic c = false := by
    rw [Bool.eq_false_iff]
    intro hcovers
    obtain ⟨range, hrange, hfirst, -⟩ := Text.Ranges.covers_iff.mp hcovers
    exact absurd (Nat.le_trans (hranges range hrange) hfirst) (Nat.not_le.mpr h)
  have hunderscore : c ≠ '_' := by
    rintro rfl
    exact absurd h (by decide)
  simp [startsWord, halphabetic, hunderscore]

/-- The token begins below the letters. -/
def isBelowLetters (token : String) : Bool :=
  token.toList.head?.any fun c => decide (c.toNat < 'A'.toNat)

theorem isIdentifier_of_isBelowLetters {token : String} (h : isBelowLetters token = true) :
    isIdentifier token = false := by
  rw [isBelowLetters, Option.any_eq_true] at h
  obtain ⟨c, hhead, hc⟩ := h
  simp [isIdentifier, hhead, startsWord_of_lt (of_decide_eq_true hc)]

theorem isIdentifier_of_symbol {token : String} (h : token ∈ Vocabulary.symbols) :
    isIdentifier token = false := by
  have hsymbols : ∀ symbol ∈ Vocabulary.symbols, isBelowLetters symbol = true := by decide
  exact isIdentifier_of_isBelowLetters (hsymbols token h)

theorem isValue_of_symbol {token : String} (h : token ∈ Vocabulary.symbols) :
    isValue token = false := by
  have hothers : ∀ symbol ∈ Vocabulary.symbols, isNumericLiteral symbol = false ∧
      isStringLiteral symbol = false ∧ isLiteralKeyword symbol = false := by
    decide
  obtain ⟨hnumeric, hstring, hkeyword⟩ := hothers token h
  simp [isValue, isIdentifier_of_symbol h, hnumeric, hstring, hkeyword]

theorem isNumericLiteral_of_symbol {token : String} (h : token ∈ Vocabulary.symbols) :
    isNumericLiteral token = false := by
  have hvalue := isValue_of_symbol h
  simp only [isValue, Bool.or_eq_false_iff] at hvalue
  exact hvalue.1.1.2

/-- Reserved words are in capitals. -/
theorem capitals_of_isKeyword {token : String} (h : isKeyword token = true) :
    Text.capitals token = token := by
  have hkeywords : ∀ keyword ∈ Vocabulary.keywords, Text.capitals keyword = keyword := by
    decide +kernel
  have hmem : token ∈ Vocabulary.keywords := List.contains_iff_mem.mp h
  exact hkeywords token hmem

theorem isIdentifier_a : isIdentifier "a" = true := by
  have hstart : startsWord 'a' = true := by decide
  simp [isIdentifier, isKeyword, Vocabulary.keywords, hstart]

end Token

/-- Nothing that a class of tokens excludes is a token of the class. -/
theorem TokenOf.ne {test : String → Bool} {token : String} (h : test token = false)
    (other : TokenOf test) : other.val ≠ token := by
  intro heq
  have hother := other.property
  rw [heq, h] at hother
  cases hother

/-! ## No class is empty -/

instance : Inhabited Name := ⟨⟨"a", Token.isIdentifier_a⟩⟩

instance : Inhabited (TokenOf Token.isSelectable) := ⟨⟨"*", by simp [Token.isSelectable]⟩⟩

instance : Inhabited (TokenOf Token.isValue) :=
  ⟨⟨"a", by simp [Token.isValue, Token.isIdentifier_a]⟩⟩

instance : Inhabited (TokenOf Token.isTypeName) :=
  ⟨⟨"a", by simp [Token.isTypeName, Token.isIdentifier_a]⟩⟩

instance : Inhabited (TokenOf Token.isNumericLiteral) :=
  ⟨⟨"1", by simp [Token.isNumericLiteral]⟩⟩

instance : Inhabited (TokenOf Token.isComparisonOperator) :=
  ⟨⟨"=", by simp [Token.isComparisonOperator, Vocabulary.comparisonOperators]⟩⟩

end SqlFront
