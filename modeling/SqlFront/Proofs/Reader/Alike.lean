import Mathlib.Data.List.Forall2
import SqlFront.Reader

/-!
# SqlFront.Proofs.Reader.Alike

Two readers side by side, on items that correspond one by one.

`Alike R E A r s` says that the readers cannot tell corresponding items apart: run from places
alike, they both succeed, with values related by `A`, and are left at places alike; or both fail,
with failures related by `E`. There is a law for each way to build a reader.
-/

namespace SqlFront

variable {τ ε α β α' β' : Type}

/-- The same position, and items to come that correspond one by one. -/
structure Cursor.Alike (R : τ → τ → Prop) (c d : Cursor τ) : Prop where
  position : c.position = d.position
  rest : List.Forall₂ R c.rest d.rest

/-- Two values or two failures, related in either case. -/
inductive OutcomesAlike (E : ε → ε → Prop) (A : α → β → Prop) : Except ε α → Except ε β → Prop where
  | ok {a : α} {b : β} : A a b → OutcomesAlike E A (.ok a) (.ok b)
  | error {e f : ε} : E e f → OutcomesAlike E A (.error e) (.error f)

theorem OutcomesAlike.map {E : ε → ε → Prop} {A : α → β → Prop} {B : α' → β' → Prop}
    {x : Except ε α} {y : Except ε β} (h : OutcomesAlike E A x y) {f : α → α'} {g : β → β'}
    (hfg : ∀ a b, A a b → B (f a) (g b)) : OutcomesAlike E B (x.map f) (y.map g) := by
  cases h with
  | ok hab => exact .ok (hfg _ _ hab)
  | error he => exact .error he

theorem OutcomesAlike.mapError {ε' : Type} {E : ε → ε → Prop} {E' : ε' → ε' → Prop}
    {A : α → β → Prop} {x : Except ε α} {y : Except ε β} (h : OutcomesAlike E A x y) {f g : ε → ε'}
    (hfg : ∀ e e', E e e' → E' (f e) (g e')) :
    OutcomesAlike E' A (x.mapError f) (y.mapError g) := by
  cases h with
  | ok hab => exact .ok hab
  | error he => exact .error (hfg _ _ he)

theorem Cursor.Alike.head? {R : τ → τ → Prop} {c d : Cursor τ} (h : c.Alike R d) :
    Option.Rel R c.rest.head? d.rest.head? := by
  have hrest := h.rest
  generalize c.rest = xs at hrest
  generalize d.rest = ys at hrest
  cases hrest with
  | nil => exact .none
  | cons hxy _ => exact .some hxy

namespace Reader

/-- Run from these places, the readers give values alike and stop at places alike, or fail alike. -/
def AlikeAt (R : τ → τ → Prop) (E : ε → ε → Prop) (A : α → β → Prop) (r : Reader τ ε α)
    (s : Reader τ ε β) (c d : Cursor τ) : Prop :=
  OutcomesAlike E (fun x y => A x.1 y.1 ∧ x.2.Alike R y.2) (r.run c) (s.run d)

/-- The readers are alike wherever the places are. -/
def Alike (R : τ → τ → Prop) (E : ε → ε → Prop) (A : α → β → Prop) (r : Reader τ ε α)
    (s : Reader τ ε β) : Prop :=
  ∀ c d : Cursor τ, c.Alike R d → AlikeAt R E A r s c d

section

variable {R : τ → τ → Prop} {E : ε → ε → Prop} {A : α → β → Prop} {B : α' → β' → Prop}
  {r : Reader τ ε α} {s : Reader τ ε β} {f : α → Reader τ ε α'} {g : β → Reader τ ε β'}
  {c d : Cursor τ}

theorem AlikeAt.bind (h : AlikeAt R E A r s c d)
    (hfg : ∀ a c' b d', r.run c = .ok (a, c') → A a b → c'.Alike R d' →
      AlikeAt R E B (f a) (g b) c' d') :
    AlikeAt R E B (r >>= f) (s >>= g) c d := by
  unfold AlikeAt at h ⊢
  rw [run_bind, run_bind]
  generalize hr : r.run c = x at h ⊢
  generalize s.run d = y at h ⊢
  cases h with
  | error he => exact .error he
  | @ok read read' hab =>
    obtain ⟨a, c'⟩ := read
    obtain ⟨b, d'⟩ := read'
    exact hfg a c' b d' hr hab.1 hab.2

theorem AlikeAt.map {f : α → α'} {g : β → β'} (h : AlikeAt R E A r s c d)
    (hfg : ∀ a b, A a b → B (f a) (g b)) :
    AlikeAt R E B (do return f (← r)) (do return g (← s)) c d :=
  h.bind fun a _ b _ _ hab hplaces => .ok ⟨hfg a b hab, hplaces⟩

end

namespace Alike

variable {R : τ → τ → Prop} {E : ε → ε → Prop} {A : α → β → Prop} {B : α' → β' → Prop}

theorem pure {a : α} {b : β} (h : A a b) :
    Alike R E A (Pure.pure a : Reader τ ε α) (Pure.pure b : Reader τ ε β) :=
  fun _ _ hplaces => .ok ⟨h, hplaces⟩

theorem fail {f g : Cursor τ → ε} (h : ∀ c d, c.Alike R d → E (f c) (g d)) :
    Alike R E A (Reader.fail f : Reader τ ε α) (Reader.fail g : Reader τ ε β) :=
  fun c d hplaces => .error (h c d hplaces)

theorem accept {test : τ → Bool} {failure : Cursor τ → ε} (hblind : ∀ s t, R s t → test s = test t)
    (hfailure : ∀ c d, c.Alike R d → E (failure c) (failure d)) :
    Alike R E (fun s t => R s.val t.val) (Reader.accept test failure)
      (Reader.accept test failure) := by
  intro c d hplaces
  have herror := hfailure c d hplaces
  obtain ⟨hposition, hrest⟩ := hplaces
  obtain ⟨position, ss⟩ := c
  obtain ⟨position', ts⟩ := d
  obtain rfl : position = position' := hposition
  cases hrest with
  | nil => exact .error herror
  | @cons s t ss ts hst hrest =>
    by_cases hs : test s = true
    · have ht : test t = true := by rwa [← hblind s t hst]
      simp only [AlikeAt, Reader.accept, dif_pos hs, dif_pos ht]
      exact .ok ⟨hst, rfl, hrest⟩
    · have ht : ¬test t = true := by rwa [← hblind s t hst]
      simp only [AlikeAt, Reader.accept, dif_neg hs, dif_neg ht]
      exact .error herror

theorem bind {r : Reader τ ε α} {s : Reader τ ε β} {f : α → Reader τ ε α'}
    {g : β → Reader τ ε β'} (h : Alike R E A r s) (hfg : ∀ a b, A a b → Alike R E B (f a) (g b)) :
    Alike R E B (r >>= f) (s >>= g) :=
  fun c d hplaces => (h c d hplaces).bind fun a c' b d' _ hab => hfg a b hab c' d'

theorem map {r : Reader τ ε α} {s : Reader τ ε β} {f : α → α'} {g : β → β'}
    (h : Alike R E A r s) (hfg : ∀ a b, A a b → B (f a) (g b)) :
    Alike R E B (do return f (← r)) (do return g (← s)) :=
  fun c d hplaces => (h c d hplaces).map hfg

theorem peek {f : Option τ → Reader τ ε α} {g : Option τ → Reader τ ε β}
    (h : ∀ x y, Option.Rel R x y → Alike R E A (f x) (g y)) :
    Alike R E A (peek? >>= f) (peek? >>= g) := by
  intro c d hplaces
  rw [AlikeAt, run_peek?_bind, run_peek?_bind]
  exact h _ _ hplaces.head? c d hplaces

/-- A reader repeated after each separator, if separators correspond to separators only. -/
theorem loop [BEq τ] [LawfulBEq τ] {separator : τ} {r : Reader τ ε α} {s : Reader τ ε β}
    (hseparator : ∀ x y, R x y → (x == separator) = (y == separator)) (h : Alike R E A r s) :
    Alike R E (List.Forall₂ A)
      (Reader.loop (fun rest => rest.head? == some separator) fun _ => r)
      (Reader.loop (fun rest => rest.head? == some separator) fun _ => s) := by
  intro c d hplaces
  -- the loop runs again from wherever its item ends, so the induction is on what is left to read
  generalize hlength : c.rest.length = length
  induction length using Nat.strongRecOn generalizing c d with
  | ind length ih =>
    obtain ⟨position, xs⟩ := c
    obtain ⟨position', ys⟩ := d
    obtain ⟨hposition, hrest⟩ := hplaces
    obtain rfl : position = position' := hposition
    cases hrest with
    | nil =>
      rw [AlikeAt, run_loop_of_not (.inl rfl), run_loop_of_not (.inl rfl)]
      exact .ok ⟨.nil, rfl, .nil⟩
    | @cons x y xs ys hxy hrest =>
      have hnext := hseparator x y hxy
      by_cases hx : (x == separator) = true
      · have hy : (y == separator) = true := by rwa [← hnext]
        rw [AlikeAt, run_loop_of_goOn (by simpa using hx), run_loop_of_goOn (by simpa using hy)]
        refine AlikeAt.bind (h ⟨position + 1, xs⟩ ⟨position + 1, ys⟩ ⟨rfl, hrest⟩) ?_
        intro a c' b d' hitem hab hplaces
        have hshorter : c'.rest.length < length := by
          have hforward := r.forward hitem
          simp only [List.length_cons] at hlength hforward
          omega
        exact (ih _ hshorter c' d' hplaces rfl).map fun _ _ htails => .cons hab htails
      · have hy : ¬(y == separator) = true := by rwa [← hnext]
        rw [AlikeAt, run_loop_of_not (.inr (by simpa using hx)),
          run_loop_of_not (.inr (by simpa using hy))]
        exact .ok ⟨.nil, rfl, .cons hxy hrest⟩

end Alike
end Reader
end SqlFront
