import Mathlib.Logic.ExistsUnique
import SqlFront.Proofs.Segment.Written
import SqlFront.Proofs.Token.Alike

/-!
# SqlFront.Proofs.Token.Class

The classes of tokens do not overlap, on any text.

How a text begins tells most of them apart: with a letter, a digit, a quote or something else. Two
pairs of classes begin alike: reserved words and names, of which a name is what is not reserved; and
signs and names of the grammar, of which a sign is the shorter.

* `Class.candidate?_of_holds`: the one class that a text can be in.
* `exists_class_of_written`: a token of a query is in one of the classes that tokens can have.
* `class_unique`: what each class test says of the others.
-/

namespace SqlFront
namespace Token

/-! ## The classes -/

/-- The classes of tokens, and the names of the grammar. -/
inductive Class where
  | keyword | symbol | identifier | number | literal | nonTerminal
deriving DecidableEq, Repr

/-- The test for the class. -/
def Class.holds : Class → String → Bool
  | .keyword => isKeyword
  | .symbol => isSymbol
  | .identifier => isIdentifier
  | .number => isNumericLiteral
  | .literal => isStringLiteral
  | .nonTerminal => isNonTerminal

/-- The only class that a text beginning with `c` can be in. -/
def classFrom (token : String) (c : Char) : Class :=
  if startsWord c then if isKeyword token then .keyword else .identifier
  else if c.isDigit then .number
  else if c = quote then .literal
  else if isSymbol token then .symbol else .nonTerminal

/-- The only class that a text can be in; the empty text is in none. -/
def candidate? (token : String) : Option Class := token.toList.head?.map (classFrom token)

/-! ## No text is in two classes -/

variable {token : String}

theorem candidate?_of_isIdentifier (h : isIdentifier token = true) :
    candidate? token = some .identifier := by
  simp only [isIdentifier, Bool.and_eq_true, Option.any_eq_true, Bool.not_eq_true'] at h
  obtain ⟨⟨c, hhead, hstart⟩, hkeyword⟩ := h
  rw [candidate?, hhead, Option.map_some, classFrom, if_pos hstart, hkeyword,
    if_neg Bool.false_ne_true]

theorem candidate?_of_isNumericLiteral (h : isNumericLiteral token = true) :
    candidate? token = some .number := by
  simp only [isNumericLiteral, Bool.and_eq_true, Bool.not_eq_true', List.isEmpty_eq_false_iff,
    List.all_eq_true] at h
  obtain ⟨c, cs, hchars⟩ := List.exists_cons_of_ne_nil h.1
  have hdigit : c.isDigit = true := h.2 c (by simp [hchars])
  rw [candidate?, hchars, List.head?_cons, Option.map_some, classFrom,
    startsWord_of_isDigit hdigit, if_neg Bool.false_ne_true, if_pos hdigit]

theorem candidate?_of_isStringLiteral (h : isStringLiteral token = true) :
    candidate? token = some .literal := by
  have hstart : startsWord quote = false := by decide +kernel
  have hdigit : quote.isDigit = false := by decide
  rw [candidate?, beq_iff_eq.mp h, Option.map_some, classFrom, hstart, hdigit,
    if_neg Bool.false_ne_true, if_neg Bool.false_ne_true, if_pos rfl]

/-- A name of the grammar has something between its brackets, so it is longer than any sign. -/
theorem isSymbol_of_isNonTerminal (h : isNonTerminal token = true) : isSymbol token = false := by
  have hsymbols : ∀ symbol ∈ Vocabulary.symbols, isNonTerminal symbol = false := by decide
  rw [Bool.eq_false_iff]
  intro hsymbol
  rw [hsymbols token (List.contains_iff_mem.mp hsymbol)] at h
  cases h

theorem candidate?_of_isNonTerminal (h : isNonTerminal token = true) :
    candidate? token = some .nonTerminal := by
  have hstart : startsWord '<' = false := by decide +kernel
  have hdigit : '<'.isDigit = false := by decide
  have hquote : '<' ≠ quote := by decide
  have hsymbol := isSymbol_of_isNonTerminal h
  simp only [isNonTerminal, Bool.and_eq_true, beq_iff_eq] at h
  rw [candidate?, h.1.2, Option.map_some, classFrom, hstart, hdigit, hsymbol, if_neg hquote]
  simp only [Bool.false_eq_true, if_false]

theorem Class.candidate?_of_holds {c : Class} (h : c.holds token = true) :
    candidate? token = some c := by
  have hkeywords : ∀ keyword ∈ Vocabulary.keywords, candidate? keyword = some .keyword := by
    decide +kernel
  have hsymbols : ∀ symbol ∈ Vocabulary.symbols, candidate? symbol = some .symbol := by
    decide +kernel
  cases c with
  | keyword => exact hkeywords token (List.contains_iff_mem.mp h)
  | symbol => exact hsymbols token (List.contains_iff_mem.mp h)
  | identifier => exact candidate?_of_isIdentifier h
  | number => exact candidate?_of_isNumericLiteral h
  | literal => exact candidate?_of_isStringLiteral h
  | nonTerminal => exact candidate?_of_isNonTerminal h

theorem Class.eq_of_holds {c d : Class} (hc : c.holds token = true) (hd : d.holds token = true) :
    c = d := by
  have h := candidate?_of_holds hc
  rw [candidate?_of_holds hd, Option.some.injEq] at h
  exact h.symm

/-! ## Values -/

/-- The sorts of values. -/
inductive ValueSort where
  | name | number | literal | reserved
deriving DecidableEq, Repr

/-- The test for the sort. -/
def ValueSort.holds : ValueSort → String → Bool
  | .name => isIdentifier
  | .number => isNumericLiteral
  | .literal => isStringLiteral
  | .reserved => isLiteralKeyword

def ValueSort.toClass : ValueSort → Class
  | .name => .identifier
  | .number => .number
  | .literal => .literal
  | .reserved => .keyword

theorem ValueSort.toClass_holds {sort : ValueSort} (h : sort.holds token = true) :
    sort.toClass.holds token = true := by
  have hreserved : ∀ keyword ∈ Vocabulary.literalKeywords, isKeyword keyword = true := by decide
  cases sort with
  | name => exact h
  | number => exact h
  | literal => exact h
  | reserved => exact hreserved token (List.contains_iff_mem.mp h)

theorem ValueSort.eq_of_holds {sort other : ValueSort} (h : sort.holds token = true)
    (hother : other.holds token = true) : sort = other := by
  have hclass := Class.eq_of_holds (toClass_holds h) (toClass_holds hother)
  cases sort <;> cases other <;> cases hclass <;> rfl

theorem isValue_iff_exists :
    isValue token = true ↔ ∃ sort : ValueSort, sort.holds token = true := by
  simp only [isValue, Bool.or_eq_true]
  constructor
  · rintro (((h | h) | h) | h)
    · exact ⟨.name, h⟩
    · exact ⟨.number, h⟩
    · exact ⟨.literal, h⟩
    · exact ⟨.reserved, h⟩
  · rintro ⟨_ | _ | _ | _, h⟩
    · exact .inl (.inl (.inl h))
    · exact .inl (.inl (.inr h))
    · exact .inl (.inr h)
    · exact .inr h

theorem isValue_iff_existsUnique :
    isValue token = true ↔ ∃! sort : ValueSort, sort.holds token = true := by
  rw [isValue_iff_exists]
  constructor
  · rintro ⟨sort, h⟩
    exact ⟨sort, h, fun other hother => ValueSort.eq_of_holds hother h⟩
  · exact ExistsUnique.exists

/-! ## Tokens of a query -/

theorem isStringLiteral_ofList (cs : List Char) :
    isStringLiteral (String.ofList (quote :: cs)) = true := by
  simp [isStringLiteral]

theorem exists_class_of_complete (h : Complete token) :
    ∃ c : Class, c ≠ .nonTerminal ∧ c.holds token = true := by
  cases h with
  | symbol hsymbol => exact ⟨.symbol, by decide, hsymbol⟩
  | keyword hkeyword => exact ⟨.keyword, by decide, hkeyword⟩
  | @word c run hstart _ hcapitals =>
    refine ⟨.identifier, by decide, ?_⟩
    have hkeyword : isKeyword (String.ofList (c :: run)) = false := by
      rw [Bool.eq_false_iff]
      intro hreserved
      rw [capitals_of_isKeyword hreserved, hreserved] at hcapitals
      cases hcapitals
    rw [Class.holds, isIdentifier, hkeyword, String.toList_ofList]
    simp [hstart]
  | number hnumber => exact ⟨.number, by decide, hnumber⟩
  | @literal body _ => exact ⟨.literal, by decide, isStringLiteral_ofList (body ++ [quote])⟩

theorem exists_class_of_written {tokens : List String} (h : Written tokens)
    (htoken : token ∈ tokens) : ∃ c : Class, c ≠ .nonTerminal ∧ c.holds token = true := by
  induction h with
  | nil => cases htoken
  | @unclosed body _ =>
    obtain rfl := List.mem_singleton.mp htoken
    exact ⟨.literal, by decide, isStringLiteral_ofList body⟩
  | cons hcomplete _ ih =>
    rcases List.mem_cons.mp htoken with rfl | htoken
    · exact exists_class_of_complete hcomplete
    · exact ih htoken

/-- The classes part the texts. No text is in two of them. A type is named by any name and by
nothing else; the built-in ones are names in letters of any case, and none is reserved. A value is
of one sort only. Every token of a query is in exactly one class, and it is never a name of the
grammar. -/
theorem class_unique :
    (∀ (token : String) (c d : Class), c.holds token = true → d.holds token = true → c = d) ∧
    (∀ token : String, isTypeName token = isIdentifier token ∧
      (isBuiltinType token = true →
        isIdentifier token = true ∧ isKeyword token = false ∧ isSymbol token = false)) ∧
    (∀ token : String, isValue token = true ↔ ∃! sort : ValueSort, sort.holds token = true) ∧
    ∀ query : String, ∀ token ∈ tokenize query,
      (∃! c : Class, c.holds token = true) ∧ isNonTerminal token = false := by
  refine ⟨fun token c d => Class.eq_of_holds, ?_, fun token => isValue_iff_existsUnique, ?_⟩
  · refine fun token => ⟨isTypeName_eq token, fun hbuiltin => ?_⟩
    have hname := isIdentifier_of_isBuiltinType hbuiltin
    have hother : ∀ c : Class, c ≠ .identifier → c.holds token = false := by
      intro c hne
      rw [Bool.eq_false_iff]
      intro hc
      exact hne (Class.eq_of_holds hc hname)
    exact ⟨hname, hother .keyword nofun, hother .symbol nofun⟩
  · intro query token htoken
    obtain ⟨c, hne, hc⟩ := exists_class_of_written (written_tokenize query) htoken
    refine ⟨⟨c, hc, fun d hd => Class.eq_of_holds hd hc⟩, ?_⟩
    rw [Bool.eq_false_iff]
    intro hname
    exact hne (Class.eq_of_holds hc (d := .nonTerminal) hname)

/-- A built-in type in mixed letters, a reserved value, and a query with a name of the grammar that
is cut into signs and a word. -/
theorem class_unique_lookalikes :
    (isBuiltinType "vArChAr" = true ∧ isIdentifier "vArChAr" = true ∧
      isKeyword "vArChAr" = false ∧ isSymbol "vArChAr" = false) ∧
    (Class.keyword.holds "NULL" = true ∧ ∀ d : Class, d.holds "NULL" = true → .keyword = d) ∧
    (∃! sort : ValueSort, sort.holds "NULL" = true) ∧
    ("<" ∈ tokenize "<value><>'<" ∧ (∃! c : Class, c.holds "<" = true) ∧
      isNonTerminal "<" = false) := by
  have hbuiltin : isBuiltinType "vArChAr" = true := by decide
  have hkeyword : Class.keyword.holds "NULL" = true := by decide
  have hvalue : isValue "NULL" = true := by decide
  have htoken : "<" ∈ tokenize "<value><>'<" := by decide +kernel
  exact ⟨⟨hbuiltin, (class_unique.2.1 "vArChAr").2 hbuiltin⟩,
    ⟨hkeyword, fun d => class_unique.1 "NULL" .keyword d hkeyword⟩,
    (class_unique.2.2.1 "NULL").mp hvalue, htoken,
    class_unique.2.2.2 "<value><>'<" "<" htoken⟩

end Token
end SqlFront
