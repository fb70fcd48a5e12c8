import SqlFront.Proofs.Text.Letters

/-!
# SqlFront.Proofs.Token.Alike

Tokens that nothing tells apart but their spelling.

The grammar asks two kinds of questions of a token: whether it is a certain reserved word or sign,
and whether it is a name, a number, a literal or something made up from these. Tokens that are
alike give the same answers to all of them.

* `isTypeName_eq`: a type is named by a name, built in or not, so this question is none of its own.
-/

namespace SqlFront
namespace Token

/-- Equal, or neither of them reserved and both of the same classes. -/
def Alike (s t : String) : Prop :=
  s = t ∨
    ((isKeyword s = false ∧ isSymbol s = false) ∧ (isKeyword t = false ∧ isSymbol t = false) ∧
      isIdentifier s = isIdentifier t ∧ isNumericLiteral s = isNumericLiteral t ∧
      isStringLiteral s = isStringLiteral t)

instance (s t : String) : Decidable (Alike s t) := by unfold Alike; infer_instance

theorem Alike.refl (token : String) : Alike token token := .inl rfl

/-! ## Literals -/

theorem isReserved_of_isStringLiteral {token : String} (h : isStringLiteral token = true) :
    isKeyword token = false ∧ isSymbol token = false := by
  have hreserved : ∀ reserved ∈ Vocabulary.keywords ++ Vocabulary.symbols,
      isStringLiteral reserved = false := by
    decide
  have hnotMem : token ∉ Vocabulary.keywords ++ Vocabulary.symbols := fun hmem => by
    rw [hreserved token hmem] at h
    cases h
  rw [List.mem_append, not_or] at hnotMem
  simpa [isKeyword, isSymbol] using hnotMem

theorem isIdentifier_of_isStringLiteral {token : String} (h : isStringLiteral token = true) :
    isIdentifier token = false := by
  have hbelow : isBelowLetters token = true := by
    rw [isBelowLetters, beq_iff_eq.mp h]
    decide
  exact isIdentifier_of_isBelowLetters hbelow

theorem isNumericLiteral_of_isStringLiteral {token : String} (h : isStringLiteral token = true) :
    isNumericLiteral token = false := by
  obtain ⟨rest, hchars⟩ := List.head?_eq_some_iff.mp (beq_iff_eq.mp h)
  rw [isNumericLiteral, hchars]
  rfl

/-- Any two literals are alike. -/
theorem alike_of_isStringLiteral {s t : String} (hs : isStringLiteral s = true)
    (ht : isStringLiteral t = true) : Alike s t := by
  refine .inr ⟨isReserved_of_isStringLiteral hs, isReserved_of_isStringLiteral ht, ?_, ?_, ?_⟩
  · rw [isIdentifier_of_isStringLiteral hs, isIdentifier_of_isStringLiteral ht]
  · rw [isNumericLiteral_of_isStringLiteral hs, isNumericLiteral_of_isStringLiteral ht]
  · rw [hs, ht]

/-! ## Names of types -/

theorem isIdentifier_of_isBuiltinType {token : String} (h : isBuiltinType token = true) :
    isIdentifier token = true := by
  have hkeywords : ∀ keyword ∈ Vocabulary.keywords, isBuiltinType keyword = false := by
    decide
  have hstarts : ∀ name ∈ Vocabulary.dataTypes,
      (name.toList.map Char.toUpper).head?.any startsWord = true := by
    decide
  have hkeyword : isKeyword token = false := by
    rw [Bool.eq_false_iff]
    intro hkeyword
    rw [hkeywords token (List.contains_iff_mem.mp hkeyword)] at h
    cases h
  obtain ⟨name, hname, hsame⟩ := List.any_eq_true.mp h
  have hstart := hstarts name hname
  rw [Text.sameLetters, beq_iff_eq] at hsame
  rw [hsame, List.head?_map, Option.any_map, Option.any_eq_true] at hstart
  obtain ⟨c, hc, hstart⟩ := hstart
  rw [respellsWords_toUpper.startsWord] at hstart
  simp [isIdentifier, hkeyword, hc, hstart]

theorem isTypeName_eq (token : String) : isTypeName token = isIdentifier token := by
  rw [isTypeName]
  cases hbuiltin : isBuiltinType token with
  | false => rfl
  | true => rw [isIdentifier_of_isBuiltinType hbuiltin]; rfl

/-! ## Questions that are answered alike -/

section Answers

variable {s t : String}

/-- A reserved word or sign is alike to itself only. -/
theorem Alike.eq_iff (h : Alike s t) {reserved : String}
    (hreserved : isKeyword reserved = true ∨ isSymbol reserved = true) :
    s = reserved ↔ t = reserved := by
  rcases h with rfl | ⟨hs, ht, -⟩
  · exact Iff.rfl
  · constructor
    · rintro rfl
      rw [hs.1, hs.2] at hreserved
      rcases hreserved with h | h <;> cases h
    · rintro rfl
      rw [ht.1, ht.2] at hreserved
      rcases hreserved with h | h <;> cases h

theorem Alike.beq (h : Alike s t) {reserved : String}
    (hreserved : isKeyword reserved = true ∨ isSymbol reserved = true) :
    (s == reserved) = (t == reserved) := by
  rw [Bool.eq_iff_iff, beq_iff_eq, beq_iff_eq]
  exact h.eq_iff hreserved

theorem Alike.contains (h : Alike s t) (tokens : List String)
    (htokens : ∀ token ∈ tokens, isKeyword token = true ∨ isSymbol token = true) :
    tokens.contains s = tokens.contains t := by
  rw [Bool.eq_iff_iff, List.contains_iff_mem, List.contains_iff_mem]
  constructor
  · intro hs
    exact (h.eq_iff (htokens s hs)).mp rfl ▸ hs
  · intro ht
    exact (h.eq_iff (htokens t ht)).mpr rfl ▸ ht

theorem Alike.isComparisonOperator (h : Alike s t) :
    isComparisonOperator s = isComparisonOperator t :=
  h.contains Vocabulary.comparisonOperators (by decide)

theorem Alike.isLiteralKeyword (h : Alike s t) : isLiteralKeyword s = isLiteralKeyword t :=
  h.contains Vocabulary.literalKeywords (by decide)

theorem Alike.isIdentifier (h : Alike s t) : isIdentifier s = isIdentifier t := by
  rcases h with rfl | ⟨-, -, h, -⟩
  · rfl
  · exact h

theorem Alike.isNumericLiteral (h : Alike s t) : isNumericLiteral s = isNumericLiteral t := by
  rcases h with rfl | ⟨-, -, -, h, -⟩
  · rfl
  · exact h

theorem Alike.isStringLiteral (h : Alike s t) : isStringLiteral s = isStringLiteral t := by
  rcases h with rfl | ⟨-, -, -, -, h⟩
  · rfl
  · exact h

theorem Alike.isTypeName (h : Alike s t) : isTypeName s = isTypeName t := by
  rw [isTypeName_eq, isTypeName_eq, h.isIdentifier]

theorem Alike.isValue (h : Alike s t) : isValue s = isValue t := by
  rw [Token.isValue, Token.isValue, h.isIdentifier, h.isNumericLiteral, h.isStringLiteral,
    h.isLiteralKeyword]

theorem Alike.isSelectable (h : Alike s t) : isSelectable s = isSelectable t := by
  rw [Token.isSelectable, Token.isSelectable, h.beq (by decide), h.isIdentifier]

end Answers

end Token
end SqlFront
