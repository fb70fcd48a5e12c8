import SqlFront.Proofs.Text.Apart

/-!
# SqlFront.Proofs.Text.Letters

Characters changed for others that start words just as well.

`f` is any such change; capital letters for small ones are the case in point. No test of the
scanner tells the characters that start words apart, and no sign contains one of them, so none of
the tests tells a text from the changed one.
-/

namespace SqlFront
namespace Token

/-- Nothing is changed but characters that start a word, and these into others that do. -/
def RespellsWords (f : Char → Char) : Prop :=
  ∀ c, f c = c ∨ (startsWord c = true ∧ startsWord (f c) = true)

namespace RespellsWords

variable {f : Char → Char} (hf : RespellsWords f)
include hf

theorem test_eq {test : Char → Bool} {answer : Bool}
    (h : ∀ c, startsWord c = true → test c = answer) (c : Char) : test (f c) = test c := by
  rcases hf c with hsame | ⟨hc, hfc⟩
  · rw [hsame]
  · rw [h c hc, h (f c) hfc]

theorem startsWord (c : Char) : startsWord (f c) = startsWord c :=
  hf.test_eq (fun _ h => h) c

theorem continuesWord (c : Char) : continuesWord (f c) = continuesWord c :=
  hf.test_eq (fun _ h => continuesWord_of_startsWord h) c

theorem isBlank (c : Char) : Text.isBlank (f c) = Text.isBlank c :=
  hf.test_eq (fun _ h => isBlank_of_continuesWord (continuesWord_of_startsWord h)) c

theorem isDigit (c : Char) : (f c).isDigit = c.isDigit := by
  have hnot : ∀ d, Token.startsWord d = true → d.isDigit = false := by
    intro d hd
    rw [Bool.eq_false_iff]
    intro hdigit
    rw [startsWord_of_isDigit hdigit] at hd
    cases hd
  exact hf.test_eq hnot c

theorem isQuote (c : Char) : (f c == quote) = (c == quote) := by
  have hnot : ∀ d, Token.startsWord d = true → (d == quote) = false := by
    intro d hd
    rw [beq_eq_false_iff_ne]
    rintro rfl
    have hquote := continuesWord_quote
    rw [continuesWord_of_startsWord hd] at hquote
    cases hquote
  exact @test_eq f hf (· == quote) false hnot c

theorem quote_eq : f quote = quote := by
  have h := hf.isQuote quote
  rwa [beq_self_eq_true, beq_iff_eq] at h

omit hf in
theorem isSymbol_of_startsWord {cs : List Char} {c : Char} (hc : c ∈ cs)
    (h : Token.startsWord c = true) : isSymbol (String.ofList cs) = false := by
  rw [Bool.eq_false_iff]
  intro hsymbol
  have hword := (symbol_apart hsymbol (c := c) (by simpa using hc)).2.2.1
  rw [continuesWord_of_startsWord h] at hword
  cases hword

theorem isSymbol (cs : List Char) :
    isSymbol (String.ofList (cs.map f)) = isSymbol (String.ofList cs) := by
  by_cases hsame : ∀ c ∈ cs, f c = c
  · rw [List.map_congr_left hsame, List.map_id']
  · obtain ⟨c, hc, hne⟩ : ∃ c, c ∈ cs ∧ f c ≠ c := by simpa using hsame
    obtain ⟨hstart, hstart'⟩ := (hf c).resolve_left hne
    rw [isSymbol_of_startsWord hc hstart,
      isSymbol_of_startsWord (List.mem_map_of_mem hc) hstart']

end RespellsWords

/-! ## Capital letters -/

theorem startsWord_of_small {c : Char} (h : 'a'.toNat ≤ c.toNat ∧ c.toNat ≤ 'z'.toNat) :
    startsWord c = true := by
  have hrange : Text.isAlphabetic c = true :=
    Text.Ranges.covers_iff.mpr ⟨(0x61, 0x7A), List.mem_cons_of_mem _ List.mem_cons_self, h⟩
  simp [startsWord, hrange]

theorem startsWord_of_capital {c : Char} (h : 'A'.toNat ≤ c.toNat ∧ c.toNat ≤ 'Z'.toNat) :
    startsWord c = true := by
  have hrange : Text.isAlphabetic c = true :=
    Text.Ranges.covers_iff.mpr ⟨(0x41, 0x5A), List.mem_cons_self, h⟩
  simp [startsWord, hrange]

/-- Either the character has a capital of its own, one of the 26, or it stays as it is. -/
theorem toUpper_cases (c : Char) :
    (('a'.toNat ≤ c.toNat ∧ c.toNat ≤ 'z'.toNat) ∧
        'A'.toNat ≤ c.toUpper.toNat ∧ c.toUpper.toNat ≤ 'Z'.toNat) ∨
      c.toUpper = c := by
  by_cases hsmall : 'a'.val ≤ c.val ∧ c.val ≤ 'z'.val
  · have hval : c.toUpper.val = c.val + ('A'.val - 'a'.val) := by
      delta Char.toUpper
      rw [dif_pos hsmall]
    have hshift : ('A'.val - 'a'.val).toNat = 2 ^ 32 - 32 := by decide
    have hnat : c.toUpper.toNat = (c.toNat + (2 ^ 32 - 32)) % 2 ^ 32 := by
      rw [Char.toNat, hval, UInt32.toNat_add, hshift]
      rfl
    have hrange : 97 ≤ c.toNat ∧ c.toNat ≤ 122 := hsmall
    refine .inl ⟨hsmall, ?_⟩
    show 65 ≤ c.toUpper.toNat ∧ c.toUpper.toNat ≤ 90
    omega
  · exact .inr (dif_neg hsmall)

theorem respellsWords_toUpper : RespellsWords Char.toUpper := by
  intro c
  rcases toUpper_cases c with ⟨hsmall, hcapital⟩ | hsame
  · exact .inr ⟨startsWord_of_small hsmall, startsWord_of_capital hcapital⟩
  · exact .inl hsame

end Token
end SqlFront
