import Mathlib.Data.List.Infix
import SqlFront.Proofs.Text.Letters

/-!
# SqlFront.Proofs.Text.Capital

Which texts have a reserved word for their capitals.

A reserved word is in ASCII capitals. An ASCII letter has its usual capital. Of the letters that are
not ASCII, two have a single capital that is, the dotless `ı` and the long `ſ`, and they are made
plain here. Others are capitalised as several ASCII letters, such as `ß` and some ligatures; but no
reserved word contains these letters next to each other. So nothing else becomes a part of one.

* `capital_cases`: the capitals of a character by its sort.
* `not_infix_keyword`: no reserved word contains what a letter is capitalised as, if this is more
  than one character.
* `capitals_eq_iff_sameLetters`: the texts whose capitals are a reserved word.
-/

namespace SqlFront
namespace Text

variable {s t word keyword : String}

/-! ## Letters in any case -/

theorem sameLetters_iff :
    sameLetters s t = true ↔ s.toList.map Char.toUpper = t.toList.map Char.toUpper := by
  rw [sameLetters, beq_iff_eq]

/-- What a change of case does not alter is the same for both spellings. -/
theorem eq_of_sameLetters {β : Type} {g : List Char → β}
    (hg : ∀ cs, g (cs.map Char.toUpper) = g cs) (h : sameLetters s t = true) :
    g s.toList = g t.toList := by
  rw [← hg s.toList, sameLetters_iff.mp h, hg]

theorem capital_of_lt {c : Char} (h : c.toNat < 128) : capital c = [c.toUpper] := by
  have hascii : ∀ point < 128, capital (Char.ofNat point) = [(Char.ofNat point).toUpper] := by
    decide +kernel
  have hcapital := hascii c.toNat h
  rwa [Char.ofNat_toNat] at hcapital

theorem capital_toUpper (c : Char) : capital c.toUpper = capital c := by
  rcases Token.toUpper_cases c with ⟨⟨-, hsmall⟩, -, hcapital⟩ | hsame
  · have hlast : 'z'.toNat < 128 ∧ 'Z'.toNat < 128 := by decide
    rw [capital_of_lt (by omega), capital_of_lt (by omega)]
    -- a capital letter has no other capital
    rcases Token.toUpper_cases c.toUpper with ⟨⟨hsmall', -⟩, -⟩ | hsame
    · have hapart : 'Z'.toNat < 'a'.toNat := by decide
      omega
    · rw [hsame]
  · rw [hsame]

theorem capitals_eq (h : sameLetters s t = true) : capitals s = capitals t := by
  have hletters : ∀ cs : List Char, (cs.map Char.toUpper).flatMap capital = cs.flatMap capital := by
    intro cs
    simp only [List.flatMap_map, capital_toUpper]
  have hcapitals := eq_of_sameLetters (g := List.flatMap capital) hletters h
  rw [capitals, capitals, hcapitals]

/-! ## Plain letters -/

/-- The small ASCII letter with the same capital, for the two letters that are not ASCII and have a
single ASCII capital. Any other character is plain. -/
def plainLetter (c : Char) : Char :=
  if c = '\u0131' then 'i' else if c = '\u017f' then 's' else c

def plainLetters (text : String) : String := String.ofList (text.toList.map plainLetter)

theorem capital_of_plainLetter_lt {c : Char} (h : (plainLetter c).toNat < 128) :
    capital c = [(plainLetter c).toUpper] := by
  by_cases hdotless : c = '\u0131'
  · subst hdotless; decide +kernel
  · by_cases hlong : c = '\u017f'
    · subst hlong; decide +kernel
    · rw [plainLetter, if_neg hdotless, if_neg hlong] at h ⊢
      exact capital_of_lt h

/-- What is neither ASCII nor made so is not ASCII and is not one of the two letters. -/
theorem not_lt_of_plainLetter {c : Char} (h : ¬(plainLetter c).toNat < 128) :
    128 ≤ c.toNat ∧ c.toNat ≠ 0x131 ∧ c.toNat ≠ 0x17f := by
  have hdotless : c ≠ '\u0131' := by rintro rfl; exact h (by decide)
  have hlong : c ≠ '\u017f' := by rintro rfl; exact h (by decide)
  rw [plainLetter, if_neg hdotless, if_neg hlong, Nat.not_lt] at h
  exact ⟨h, fun heq => hdotless (Char.toNat_inj.mp heq), fun heq => hlong (Char.toNat_inj.mp heq)⟩

/-- A character is plain ASCII or is made so, or it is capitalised as several characters, or as a
single one that is not ASCII. -/
theorem capital_cases (c : Char) :
    (plainLetter c).toNat < 128 ∨
    (∃ form ∈ capitalForms, capital c = form.2.map Char.ofNat) ∨
    ∃ point, 128 ≤ point ∧ capital c = [Char.ofNat point] := by
  have hruns : ∀ run ∈ capitalRuns, run.last < 128 ∨ 128 ≤ run.capital ∨
      (run.first = 0x131 ∧ run.last = 0x131) ∨ (run.first = 0x17f ∧ run.last = 0x17f) := by
    decide +kernel
  by_cases hplain : (plainLetter c).toNat < 128
  · exact .inl hplain
  · obtain ⟨hpoint, hdotless, hlong⟩ := not_lt_of_plainLetter hplain
    right
    rw [capital, capitalPoints]
    split
    · rename_i hrun
      obtain ⟨run, hmem, hcapital⟩ := List.exists_of_findSome?_eq_some hrun
      rw [CapitalRun.capital?] at hcapital
      split at hcapital
      · cases hcapital
        have hcases := hruns run hmem
        exact .inr ⟨_, by omega, rfl⟩
      · cases hcapital
    · cases hform : capitalForms.lookup c.toNat with
      | none => exact .inr ⟨c.toNat, hpoint, rfl⟩
      | some points =>
        obtain ⟨before, after, hforms, -⟩ := List.lookup_eq_some_iff.mp hform
        exact .inl ⟨(c.toNat, points), by rw [hforms]; simp, rfl⟩

/-! ## Reserved words -/

/-- No reserved word contains what a letter is capitalised as, if this is more than one
character. -/
theorem not_infix_keyword : ∀ keyword ∈ Vocabulary.keywords, ∀ form ∈ capitalForms,
    ¬form.2.map Char.ofNat <:+: keyword.toList := by
  decide +kernel

theorem toUpper_keyword (h : keyword ∈ Vocabulary.keywords) :
    keyword.toList.map Char.toUpper = keyword.toList := by
  have hcapitals : ∀ keyword ∈ Vocabulary.keywords,
      keyword.toList.map Char.toUpper = keyword.toList := by
    decide
  exact hcapitals keyword h

theorem toNat_of_mem_keyword (h : keyword ∈ Vocabulary.keywords) {c : Char}
    (hc : c ∈ keyword.toList) : 0 < c.toNat ∧ c.toNat < 128 := by
  have hletters : Vocabulary.keywords.all fun keyword => keyword.toList.all fun c =>
      decide (0 < c.toNat ∧ c.toNat < 128) := by
    decide
  exact of_decide_eq_true (List.all_eq_true.mp (List.all_eq_true.mp hletters keyword h) c hc)

/-- What becomes a part of a reserved word has its usual capital once it is made plain. -/
theorem capital_of_infix (h : keyword ∈ Vocabulary.keywords) {c : Char}
    (hc : capital c <:+: keyword.toList) : capital c = [(plainLetter c).toUpper] := by
  rcases capital_cases c with hplain | ⟨form, hform, hcapital⟩ | ⟨point, hpoint, hcapital⟩
  · exact capital_of_plainLetter_lt hplain
  · exact absurd (hcapital ▸ hc) (not_infix_keyword keyword h form hform)
  · have hmem : Char.ofNat point ∈ keyword.toList := hc.subset (by rw [hcapital]; simp)
    have hletter := toNat_of_mem_keyword h hmem
    by_cases hvalid : point.isValidChar
    · have hnumber : (Char.ofNat point).toNat = point := by rw [Char.ofNat, dif_pos hvalid]; rfl
      omega
    · rw [Char.ofNat, dif_neg hvalid] at hletter
      exact absurd hletter.1 (by decide)

theorem capital_of_mem (h : keyword ∈ Vocabulary.keywords) {c : Char}
    (hc : (plainLetter c).toUpper ∈ keyword.toList) : capital c = [(plainLetter c).toUpper] := by
  have hletter := toNat_of_mem_keyword h hc
  apply capital_of_plainLetter_lt
  rcases Token.toUpper_cases (plainLetter c) with ⟨⟨-, hsmall⟩, -⟩ | hsame
  · have hlast : 'z'.toNat < 128 := by decide
    omega
  · rw [← hsame]
    exact hletter.2

/-- The capitals of a text are a reserved word if its plain letters are, in whatever case. -/
theorem capitals_eq_iff_sameLetters (h : keyword ∈ Vocabulary.keywords) :
    capitals word = keyword ↔ sameLetters (plainLetters word) keyword = true := by
  have hplain : (∀ c ∈ word.toList, capital c = [(plainLetter c).toUpper]) →
      word.toList.flatMap capital = (word.toList.map plainLetter).map Char.toUpper := by
    intro hcapital
    rw [List.map_map, List.map_eq_flatMap, List.flatMap_def, List.map_congr_left hcapital]
    rfl
  rw [sameLetters_iff, toUpper_keyword h, plainLetters, String.toList_ofList, capitals]
  constructor
  · intro hcapitals
    have hchars : word.toList.flatMap capital = keyword.toList := by
      rw [← hcapitals, String.toList_ofList]
    rw [← hchars, hplain]
    intro c hc
    apply capital_of_infix h
    rw [← hchars]
    obtain ⟨before, after, hsplit⟩ := List.append_of_mem hc
    exact ⟨before.flatMap capital, after.flatMap capital, by simp [hsplit]⟩
  · intro hletters
    rw [hplain, hletters, String.ofList_toList]
    intro c hc
    apply capital_of_mem h
    rw [← hletters, List.map_map]
    exact List.mem_map_of_mem hc

/-- What equals a reserved word up to the case of ASCII letters has plain letters only. -/
theorem plainLetters_eq_of_sameLetters (hkeyword : keyword ∈ Vocabulary.keywords)
    (h : sameLetters word keyword = true) : plainLetters word = word := by
  rw [sameLetters_iff, toUpper_keyword hkeyword] at h
  have hplain : ∀ c ∈ word.toList, plainLetter c = c := by
    intro c hc
    have hletter := toNat_of_mem_keyword hkeyword (h ▸ List.mem_map_of_mem hc)
    rw [plainLetter, if_neg, if_neg]
    · rintro rfl
      exact absurd hletter.2 (by decide)
    · rintro rfl
      exact absurd hletter.2 (by decide)
  rw [plainLetters, List.map_congr_left hplain, List.map_id', String.ofList_toList]

end Text
end SqlFront
