import SqlFront.Proofs.Reader.Reading

/-!
# SqlFront.Proofs.Reader.Giving

What a reader gives.

`GivesOnly P r` says that `P` holds of every value that `r` gives, wherever it is run.

`GivesBefore r items after a` says that `r` takes these items and gives `a`, if what follows them is
as `after` says. That is enough to read back what was written, where nothing needs to be known of
other texts.
-/

namespace SqlFront
namespace Reader

variable {τ ε α β : Type}

/-! ## Every value -/

def GivesOnly (P : α → Prop) (r : Reader τ ε α) : Prop :=
  ∀ c a c', r.run c = .ok (a, c') → P a

namespace GivesOnly

variable {P Q : α → Prop} {P' : β → Prop}

theorem trivial (r : Reader τ ε α) : GivesOnly (fun _ => True) r := fun _ _ _ _ => True.intro

theorem pure {a : α} (h : P a) : GivesOnly P (Pure.pure a : Reader τ ε α) := by
  intro c b c' hrun
  cases hrun
  exact h

theorem fail {failure : Cursor τ → ε} : GivesOnly P (Reader.fail failure : Reader τ ε α) := by
  intro c a c' hrun
  cases hrun

theorem bind {r : Reader τ ε α} {f : α → Reader τ ε β} (h : GivesOnly P r)
    (hf : ∀ a, P a → GivesOnly P' (f a)) : GivesOnly P' (r >>= f) := by
  intro c b c'' hrun
  obtain ⟨a, c', hfirst, hrest⟩ := run_bind_eq_ok.mp hrun
  exact hf a (h c a c' hfirst) c' b c'' hrest

/-- Where nothing needs to be known of the first value. -/
theorem after {r : Reader τ ε α} {f : α → Reader τ ε β} (hf : ∀ a, GivesOnly P' (f a)) :
    GivesOnly P' (r >>= f) :=
  (trivial r).bind fun a _ => hf a

theorem loop {goOn : List τ → Bool} {item : τ → Reader τ ε α} (h : ∀ t, GivesOnly P (item t)) :
    GivesOnly (fun as => ∀ a ∈ as, P a) (Reader.loop goOn item) := by
  intro c as c' hrun
  change loopFrom goOn item c = .ok (as, c') at hrun
  fun_induction loopFrom goOn item c generalizing as c' with
  | case1 => cases hrun; exact List.forall_mem_nil P
  | case2 => cases hrun
  | case3 => cases hrun
  | case4 position t rest _ a c hitem as c₁ hloop ih =>
    cases hrun
    intro b hb
    rcases List.mem_cons.mp hb with rfl | hb
    · exact h t _ _ _ hitem
    · exact ih as c₁ hloop b hb
  | case5 => cases hrun; exact List.forall_mem_nil P

end GivesOnly

/-! ## One value -/

def GivesBefore (r : Reader τ ε α) (items : List τ) (after : List τ → Prop) (a : α) : Prop :=
  ∀ c c' : Cursor τ, c.Takes items c' → after c'.rest → r.run c = .ok (a, c')

namespace GivesBefore

variable {r : Reader τ ε α} {items items' : List τ} {after after' : List τ → Prop} {a : α} {b : β}

theorem pure (a : α) : GivesBefore (Pure.pure a : Reader τ ε α) [] after a := by
  intro c c' htakes _
  rw [Cursor.takes_nil.mp htakes, run_pure]

theorem bind {f : α → Reader τ ε β} (h : GivesBefore r items after a)
    (hf : GivesBefore (f a) items' after' b)
    (hafter : ∀ rest, after' rest → after (items' ++ rest)) :
    GivesBefore (r >>= f) (items ++ items') after' b := by
  intro c c'' htakes hrest
  obtain ⟨c', hfirst, hnext⟩ := Cursor.takes_append.mp htakes
  refine run_bind_eq_ok.mpr ⟨a, c', h c c' hfirst ?_, hf c' c'' hnext hrest⟩
  rw [hnext.1]
  exact hafter _ hrest

/-- What follows takes nothing. -/
theorem last {f : α → Reader τ ε β} (h : GivesBefore r items after a)
    (hf : GivesBefore (f a) [] after b) : GivesBefore (r >>= f) items after b := by
  have hboth := h.bind hf fun _ hrest => hrest
  rwa [List.append_nil] at hboth

/-- The first item is taken on its own, whatever follows it. -/
theorem cons {f : α → Reader τ ε β} {t : τ} (h : GivesBefore r [t] (fun _ => True) a)
    (hf : GivesBefore (f a) items after b) : GivesBefore (r >>= f) (t :: items) after b :=
  h.bind hf fun _ _ => True.intro

theorem accept {test : τ → Bool} {failure : Cursor τ → ε} {t : τ} (h : test t = true) :
    GivesBefore (Reader.accept test failure) [t] after ⟨t, h⟩ :=
  fun _ _ htakes _ => run_accept_eq_ok.mpr htakes

theorem ahead {f : List τ → Reader τ ε α}
    (h : ∀ rest, after rest → GivesBefore (f (items ++ rest)) items after a) :
    GivesBefore (Reader.ahead >>= f) items after a := by
  intro c c' htakes hrest
  have hrun := h c'.rest hrest c c' htakes hrest
  rwa [← htakes.1] at hrun

theorem peek {f : Option τ → Reader τ ε α} {t : τ}
    (h : GivesBefore (f (some t)) (t :: items) after a) :
    GivesBefore (peek? >>= f) (t :: items) after a := by
  intro c c' htakes hrest
  rw [run_peek?_bind, htakes.head?]
  exact h c c' htakes hrest

/-- What is taken passes the test, and the item after it does not. -/
theorem takeWhile {test : τ → Bool} {t : τ} (h : ∀ t ∈ items, test t = true) (ht : test t = false) :
    GivesBefore (Reader.takeWhile test : Reader τ ε (List τ)) items (·.head? = some t) items := by
  rintro c ⟨position, rest⟩ ⟨hitems, rfl⟩ hrest
  obtain ⟨rest, rfl⟩ := List.head?_eq_some_iff.mp hrest
  have htaken : c.rest.takeWhile test = items := by
    rw [hitems, List.takeWhile_append_of_pos h]
    simp [ht]
  have hleft : c.rest.dropWhile test = t :: rest := by
    rw [hitems, List.dropWhile_append_of_pos h]
    simp [ht]
  simp only [Reader.takeWhile, htaken, hleft]

theorem loop_nil {goOn : List τ → Bool} {item : τ → Reader τ ε α} :
    GivesBefore (Reader.loop goOn item) [] (fun rest => rest = [] ∨ goOn rest = false) [] := by
  intro c c' htakes hrest
  rw [Cursor.takes_nil] at htakes
  rw [htakes]
  exact run_loop_of_not (htakes ▸ hrest)

/-- A repetition takes its parts, each from an item that it goes on with. It ends at the end or
before what it does not go on with. -/
theorem loop {ι : Type} {goOn : List τ → Bool} {item : τ → Reader τ ε α} {write : ι → List τ}
    (value : ι → α) {parts : List ι}
    (h : ∀ i ∈ parts, ∃ t others, write i = t :: others ∧ (∀ rest, goOn (t :: rest) = true) ∧
      GivesBefore (item t) others (fun _ => True) (value i)) :
    GivesBefore (Reader.loop goOn item) (parts.flatMap write)
      (fun rest => rest = [] ∨ goOn rest = false) (parts.map value) := by
  induction parts with
  | nil => exact loop_nil
  | cons i parts ih =>
    rw [List.forall_mem_cons] at h
    obtain ⟨⟨t, others, hwrite, hgoOn, hitem⟩, h⟩ := h
    intro c c'' htakes hrest
    rw [List.flatMap_cons, hwrite, List.cons_append, Cursor.takes_cons] at htakes
    obtain ⟨c₁, ht, htakes⟩ := htakes
    obtain ⟨c₂, hothers, hlater⟩ := Cursor.takes_append.mp htakes
    obtain ⟨position, _⟩ := c
    obtain ⟨_, rest⟩ := c₁
    simp only [Cursor.Takes, List.singleton_append, List.length_singleton] at ht
    obtain ⟨rfl, rfl⟩ := ht
    rw [run_loop_of_goOn (hgoOn rest), run_bind_eq_ok]
    refine ⟨value i, c₂, hitem _ c₂ hothers True.intro, ?_⟩
    exact run_bind_eq_ok.mpr ⟨_, c'', ih h c₂ c'' hlater hrest, rfl⟩

end GivesBefore
end Reader
end SqlFront
