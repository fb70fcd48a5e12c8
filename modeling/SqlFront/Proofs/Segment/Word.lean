import SqlFront.Proofs.Segment.Written
import SqlFront.Proofs.Token.Recased

/-!
# SqlFront.Proofs.Segment.Word

What becomes of a single word, in any letters.

A word is one token. It is taken for the reserved word that its capitals spell, and is left as it
is if they spell none. Two letters that are not ASCII have a single ASCII capital, the dotless `ı`
and the long `ſ`, so words that equal a reserved word only up to these are taken for it too. No
others are, whatever else is capitalised as ASCII letters.

* `tokenize_word`: the token of a word, and when it is what the case of ASCII letters says.
* `tokenize_word_dotless`: a word that equals no reserved word up to the case of ASCII letters and
  is lost all the same.
-/

namespace SqlFront

/-! ## Words -/

namespace Token

/-- A letter or an underscore, and letters, numerals and underscores after it. -/
def isWord (word : String) : Bool :=
  match word.toList with
  | [] => false
  | c :: run => startsWord c && run.all continuesWord

theorem ofWord_eq_iff {word keyword : String} (h : keyword ∈ Vocabulary.keywords) :
    ofWord word = keyword ↔ Text.capitals word = keyword := by
  have hkeyword : isKeyword keyword = true := List.contains_iff_mem.mpr h
  constructor
  · intro hword
    by_cases hcapitals : isKeyword (Text.capitals word) = true
    · rwa [ofWord, if_pos hcapitals] at hword
    · rw [ofWord, if_neg hcapitals] at hword
      rw [hword, capitals_of_isKeyword hkeyword]
  · intro hword
    rw [ofWord, hword, if_pos hkeyword]

theorem ofWord_of_not_keyword {word : String}
    (h : ∀ keyword ∈ Vocabulary.keywords, Text.capitals word ≠ keyword) : ofWord word = word := by
  rw [ofWord, if_neg]
  intro hkeyword
  exact h _ (List.contains_iff_mem.mp hkeyword) rfl

end Token

theorem tokenize_of_isWord {word : String} (h : Token.isWord word = true) :
    tokenize word = [Token.ofWord word] := by
  unfold Token.isWord at h
  split at h
  · cases h
  · rename_i c run hword
    rw [Bool.and_eq_true, List.all_eq_true] at h
    have hcovers : Segment.Covers [.word word.toList] word.toList := by
      have hcovers := Segment.Covers.cons (.fits (.word h.1 h.2 Segment.endsBefore_nil)) .nil
      rwa [List.append_nil, Segment.chars, ← hword] at hcovers
    rw [tokenize_of_covers hcovers, List.filterMap_cons, Segment.token?, String.ofList_toList]
    rfl

/-- A word that equals a reserved word up to the case of ASCII letters is this reserved word. So is
a word that equals one after its letters are made plain, and any other word comes back as it is.
Hence a word that equals no reserved word up to the case of ASCII letters comes back as it is unless
it comes to equal one by being made plain. -/
theorem tokenize_word {word : String} (h : Token.isWord word = true) :
    (∀ keyword ∈ Vocabulary.keywords, Text.sameLetters word keyword = true →
      tokenize word = [keyword]) ∧
    (∀ keyword ∈ Vocabulary.keywords, tokenize word = [keyword] ↔
      Text.sameLetters (Text.plainLetters word) keyword = true) ∧
    ((∀ keyword ∈ Vocabulary.keywords,
      Text.sameLetters (Text.plainLetters word) keyword = false) → tokenize word = [word]) ∧
    (((∀ keyword ∈ Vocabulary.keywords, Text.sameLetters word keyword = false) →
      tokenize word = [word]) ↔
      ((∃ keyword ∈ Vocabulary.keywords,
        Text.sameLetters (Text.plainLetters word) keyword = true) →
        Text.plainLetters word = word)) := by
  have hkeyword : ∀ keyword ∈ Vocabulary.keywords, tokenize word = [keyword] ↔
      Text.sameLetters (Text.plainLetters word) keyword = true := by
    intro keyword hmem
    rw [tokenize_of_isWord h, List.singleton_inj, Token.ofWord_eq_iff hmem,
      Text.capitals_eq_iff_sameLetters hmem]
  have hother : (∀ keyword ∈ Vocabulary.keywords,
      Text.sameLetters (Text.plainLetters word) keyword = false) → tokenize word = [word] := by
    intro hnone
    rw [tokenize_of_isWord h, Token.ofWord_of_not_keyword]
    intro keyword hmem hcapitals
    rw [Text.capitals_eq_iff_sameLetters hmem, hnone keyword hmem] at hcapitals
    cases hcapitals
  refine ⟨?_, hkeyword, hother, ?_, ?_⟩
  · intro keyword hmem hletters
    rw [hkeyword keyword hmem, Text.plainLetters_eq_of_sameLetters hmem hletters, hletters]
  · -- the word comes back or is a reserved word as it stands, so its letters are plain
    rintro hverbatim ⟨keyword, hmem, hletters⟩
    by_cases hown : ∃ keyword ∈ Vocabulary.keywords, Text.sameLetters word keyword = true
    · obtain ⟨own, hmem', hletters'⟩ := hown
      exact Text.plainLetters_eq_of_sameLetters hmem' hletters'
    · have hsame : word = keyword := by
        rw [← List.singleton_inj, ← (hkeyword keyword hmem).mpr hletters]
        refine (hverbatim fun keyword hmem => ?_).symm
        exact Bool.eq_false_iff.mpr fun hletters => hown ⟨keyword, hmem, hletters⟩
      exact absurd ⟨keyword, hmem, by rw [hsame, Text.sameLetters_iff]⟩ hown
  · intro hplain hnone
    refine hother fun keyword hmem => ?_
    rw [Bool.eq_false_iff]
    intro hletters
    rw [hplain ⟨keyword, hmem, hletters⟩, hnone keyword hmem] at hletters
    cases hletters

/-- A word with a long `ſ` in it is taken for a reserved word. -/
theorem tokenize_word_long :
    Token.isWord "fal\u017fE" = true ∧ tokenize "fal\u017fE" = ["FALSE"] := by
  have hword : Token.isWord "fal\u017fE" = true := by decide +kernel
  refine ⟨hword, ((tokenize_word hword).2.1 "FALSE" (by decide)).mpr ?_⟩
  decide

/-- The case of ASCII letters does not account for every reserved word: a name with a dotless letter
equals none up to it, and does not come back. -/
theorem tokenize_word_dotless :
    Token.isWord "\u0131nto" = true ∧
    (∀ keyword ∈ Vocabulary.keywords, Text.sameLetters "\u0131nto" keyword = false) ∧
    tokenize "\u0131nto" = ["INTO"] ∧ tokenize "\u0131nto" ≠ ["\u0131nto"] := by
  decide +kernel

end SqlFront
