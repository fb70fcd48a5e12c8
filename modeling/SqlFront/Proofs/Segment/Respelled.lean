import SqlFront.Segment
import SqlFront.Proofs.Text.Letters

/-!
# SqlFront.Proofs.Segment.Respelled

The cut of a text with its letters changed.

A change that no test of the scanner sees moves no border between segments: the changed text is
cut where the text is, into the changed segments.

* `cut_map`: the segments of the changed text.
-/

namespace SqlFront
namespace Segment

/-- The segment with every character changed. -/
def map (f : Char → Char) : Segment → Segment
  | .blank run => .blank (run.map f)
  | .literal text => .literal (text.map f)
  | .symbol text => .symbol (text.map f)
  | .word text => .word (text.map f)
  | .number digits => .number (digits.map f)
  | .stray c => .stray (f c)

theorem span_map {f : Char → Char} (test : Char → Bool) (h : ∀ c, test (f c) = test c)
    (cs : List Char) :
    (cs.map f).takeWhile test = (cs.takeWhile test).map f ∧
      (cs.map f).dropWhile test = (cs.dropWhile test).map f := by
  have hcomp : test ∘ f = test := funext h
  rw [List.takeWhile_map, List.dropWhile_map, hcomp]
  exact ⟨rfl, rfl⟩

variable {f : Char → Char} (hf : Token.RespellsWords f)
include hf

theorem literalFrom_map (cs : List Char) :
    literalFrom (cs.map f) = Prod.map (map f) (List.map f) (literalFrom cs) := by
  have hquote : ∀ c, (f c != Token.quote) = (c != Token.quote) := fun c => by
    rw [bne, bne, hf.isQuote]
  obtain ⟨htake, hdrop⟩ := span_map (· != Token.quote) hquote cs
  rw [literalFrom, literalFrom, htake, hdrop]
  cases cs.dropWhile (· != Token.quote) with
  | nil => simp [map, hf.quote_eq]
  | cons close rest => simp [map, hf.quote_eq]

theorem symbolFrom?_map (c : Char) (cs : List Char) :
    symbolFrom? (f c) (cs.map f) = (symbolFrom? c cs).map (Prod.map (map f) (List.map f)) := by
  have hsingle := hf.isSymbol [c]
  cases cs with
  | nil =>
    simp only [symbolFrom?, List.map_nil]
    rw [show String.ofList [f c] = String.ofList ([c].map f) from rfl, hsingle]
    split <;> rfl
  | cons d rest =>
    have hpair := hf.isSymbol [c, d]
    simp only [List.map_cons, List.map_nil] at hsingle hpair
    simp only [symbolFrom?, List.map_cons, hsingle, hpair]
    split
    · rfl
    · split <;> rfl

theorem first_map (c : Char) (cs : List Char) :
    first (f c) (cs.map f) = Prod.map (map f) (List.map f) (first c cs) := by
  obtain ⟨hblanks, hblanks'⟩ := span_map Text.isBlank hf.isBlank cs
  obtain ⟨hword, hword'⟩ := span_map Token.continuesWord hf.continuesWord cs
  obtain ⟨hdigits, hdigits'⟩ := span_map Char.isDigit hf.isDigit cs
  have hquote : f c = Token.quote ↔ c = Token.quote := by
    rw [← beq_iff_eq, hf.isQuote, beq_iff_eq]
  simp only [first, hf.isBlank, hquote, hf.startsWord, hf.isDigit, literalFrom_map hf,
    symbolFrom?_map hf]
  split
  · rw [hblanks, hblanks']; rfl
  · split
    · rfl
    · cases symbolFrom? c cs with
      | some found => rfl
      | none =>
        simp only [Option.map_none]
        split
        · rw [hword, hword']; rfl
        · split
          · rw [hdigits, hdigits']; rfl
          · rfl

theorem cut_map (cs : List Char) : cut (cs.map f) = (cut cs).map (map f) := by
  fun_induction cut cs with
  | case1 => rw [List.map_nil, cut, List.map_nil]
  | case2 c cs ih => rw [List.map_cons, cut, first_map hf, List.map_cons, Prod.map, ih]

end Segment
end SqlFront
