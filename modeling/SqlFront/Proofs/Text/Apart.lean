import SqlFront.Proofs.Token

/-!
# SqlFront.Proofs.Text.Apart

Classes of characters that have nothing in common: blanks, the quote, the characters of signs, the
characters that start a word, and digits. So the first character of a segment tells its sort.

Between tokens only blanks and quotes are needed: `Breaks` says that no word, no number and no
sign goes on with the character.
-/

namespace SqlFront

namespace Text

/-- No range of the one set overlaps with one of the other. A test, since the tables are long. -/
def Ranges.apart (ranges others : Ranges) : Bool :=
  ranges.all fun range => others.all fun other =>
    Nat.blt range.2 other.1 || Nat.blt other.2 range.1

/-- Two sets of ranges without an overlap have no point in common. -/
theorem Ranges.covers_of_apart {ranges others : Ranges} {point : Nat}
    (hapart : ranges.apart others = true) (h : ranges.covers point = true) :
    others.covers point = false := by
  rw [Bool.eq_false_iff]
  intro hothers
  obtain ⟨range, hrange, hfirst, hlast⟩ := covers_iff.mp h
  obtain ⟨other, hother, hfirst', hlast'⟩ := covers_iff.mp hothers
  have hranges := List.all_eq_true.mp (List.all_eq_true.mp hapart range hrange) other hother
  rw [Bool.or_eq_true, Nat.blt_eq, Nat.blt_eq] at hranges
  omega

theorem isBlank_of_isAlphabetic {c : Char} (h : isAlphabetic c = true) : isBlank c = false :=
  Ranges.covers_of_apart (by decide +kernel) h

theorem isBlank_of_isNumeric {c : Char} (h : isNumeric c = true) : isBlank c = false :=
  Ranges.covers_of_apart (by decide +kernel) h

theorem isNumeric_of_isDigit {c : Char} (h : c.isDigit = true) : isNumeric c = true := by
  have hrange : 0x30 ≤ c.toNat ∧ c.toNat ≤ 0x39 := by
    simpa [Char.isDigit, UInt32.le_iff_toNat_le] using h
  exact Ranges.covers_iff.mpr ⟨(0x30, 0x39), by simp [numericRanges], hrange⟩

end Text

namespace Token

/-! ## Words and digits -/

theorem continuesWord_of_startsWord {c : Char} (h : startsWord c = true) :
    continuesWord c = true := by
  simp only [startsWord, Bool.or_eq_true] at h
  rcases h with h | h <;> simp [continuesWord, h]

theorem isBlank_of_continuesWord {c : Char} (h : continuesWord c = true) :
    Text.isBlank c = false := by
  simp only [continuesWord, Bool.or_eq_true, beq_iff_eq] at h
  rcases h with (h | h) | rfl
  · exact Text.isBlank_of_isAlphabetic h
  · exact Text.isBlank_of_isNumeric h
  · decide

theorem continuesWord_of_isDigit {c : Char} (h : c.isDigit = true) : continuesWord c = true := by
  simp [continuesWord, Text.isNumeric_of_isDigit h]

theorem startsWord_of_isDigit {c : Char} (h : c.isDigit = true) : startsWord c = false := by
  apply startsWord_of_lt
  have hlast : c.toNat ≤ 0x39 := by
    simpa [Char.isDigit, UInt32.le_iff_toNat_le] using (Bool.and_eq_true_iff.mp h).2
  exact Nat.lt_of_le_of_lt hlast (by decide)

theorem continuesWord_quote : continuesWord quote = false := by decide +kernel

/-! ## Signs -/

/-- No character of a sign is of another class. -/
theorem symbol_apart {text : String} (h : isSymbol text = true) {c : Char}
    (hc : c ∈ text.toList) :
    Text.isBlank c = false ∧ c ≠ quote ∧ continuesWord c = false ∧ c.isDigit = false := by
  -- as a test on the list: an instance for all characters would go through them one by one;
  -- signs stand below the letters, so the long table of letters is not needed either
  have hsymbols : ∀ symbol ∈ Vocabulary.symbols, (symbol.toList.all fun c =>
      !Text.isBlank c && c != quote && !Text.isNumeric c && Nat.blt c.toNat 'A'.toNat &&
        !c.isDigit) = true := by
    decide +kernel
  have htests := List.all_eq_true.mp (hsymbols text (List.contains_iff_mem.mp h)) c hc
  simp only [Bool.and_eq_true, Bool.not_eq_true', bne_iff_ne, Nat.blt_eq] at htests
  obtain ⟨⟨⟨⟨hblank, hquote⟩, hnumeric⟩, hbelow⟩, hdigit⟩ := htests
  have hstart := startsWord_of_lt hbelow
  rw [startsWord, Bool.or_eq_false_iff] at hstart
  exact ⟨hblank, hquote, by simp [continuesWord, hstart, hnumeric], hdigit⟩

/-! ## Breaks -/

/-- Whatever stands before the character, neither a word nor a number nor a sign goes on with it. -/
structure Breaks (c : Char) : Prop where
  word : continuesWord c = false
  digit : c.isDigit = false
  symbol : ∀ text, isSymbol text = true → c ∉ text.toList

theorem breaks_of_isBlank {c : Char} (h : Text.isBlank c = true) : Breaks c where
  word := by
    rw [Bool.eq_false_iff]
    intro hword
    rw [isBlank_of_continuesWord hword] at h
    cases h
  digit := by
    rw [Bool.eq_false_iff]
    intro hdigit
    rw [isBlank_of_continuesWord (continuesWord_of_isDigit hdigit)] at h
    cases h
  symbol text hsymbol hc := by
    rw [(symbol_apart hsymbol hc).1] at h
    cases h

theorem breaks_quote : Breaks quote where
  word := continuesWord_quote
  digit := by decide
  symbol _ hsymbol hc := (symbol_apart hsymbol hc).2.1 rfl

end Token
end SqlFront
