import SqlFront.Proofs.Reader.Reading

/-!
# SqlFront.Proofs.Reader.Failure

How a reader may fail, and where.

`FailsOnly P r` says that every failure of `r`, run from any place, is one of those that `P` admits.
There is a law for each way to build a reader; a sequence or a repetition adds no failure to those
of its parts.

`FailsAt P r w` says where the failures that `P` admits come from: `r` fails so exactly if `w` holds
of the items to come. A sequence fails where its first part does, and after what its first part
reads where its second part does.
-/

namespace SqlFront
namespace Reader

variable {τ ε α β : Type}

def FailsOnly (P : ε → Prop) (r : Reader τ ε α) : Prop :=
  ∀ c e, r.run c = .error e → P e

namespace FailsOnly

variable {P : ε → Prop}

theorem pure {a : α} : FailsOnly P (Pure.pure a : Reader τ ε α) := by
  intro c e he
  cases he

theorem fail {failure : Cursor τ → ε} (h : ∀ c, P (failure c)) :
    FailsOnly P (Reader.fail failure : Reader τ ε α) := by
  intro c e he
  cases he
  exact h c

theorem peek : FailsOnly P (peek? : Reader τ ε (Option τ)) := by
  intro c e he
  cases he

theorem accept {test : τ → Bool} {failure : Cursor τ → ε} (h : ∀ c, P (failure c)) :
    FailsOnly P (Reader.accept test failure) := by
  intro c e he
  obtain ⟨-, rfl⟩ := run_accept_eq_error.mp he
  exact h c

theorem bind {r : Reader τ ε α} {f : α → Reader τ ε β} (h : FailsOnly P r)
    (hf : ∀ a, FailsOnly P (f a)) : FailsOnly P (r >>= f) := by
  intro c e he
  rcases run_bind_eq_error.mp he with he | ⟨a, c', -, he⟩
  · exact h c e he
  · exact hf a c' e he

theorem loop {goOn : List τ → Bool} {item : τ → Reader τ ε α} (h : ∀ t, FailsOnly P (item t)) :
    FailsOnly P (Reader.loop goOn item) := by
  intro c e he
  -- a failure of the loop is one of an item, here or after the items that were read
  change loopFrom goOn item c = .error e at he
  fun_induction loopFrom goOn item c with
  | case1 => cases he
  | case2 position t rest _ e' hitem =>
    cases he
    exact h t _ _ hitem
  | case3 position t rest _ a c _ e' hloop ih =>
    cases he
    exact ih hloop
  | case4 => cases he
  | case5 => cases he

end FailsOnly

/-! ## Failures and the items before which they come -/

def FailsAt (P : ε → Prop) (r : Reader τ ε α) (w : List τ → Prop) : Prop :=
  ∀ c, (∃ e, P e ∧ r.run c = .error e) ↔ w c.rest

variable {P : ε → Prop} {m : Reader τ ε α} {f : α → Reader τ ε β} {write more : α → List τ}

theorem FailsOnly.failsAt {r : Reader τ ε α} (h : FailsOnly (fun e => ¬P e) r) :
    FailsAt P r fun _ => False := by
  intro c
  constructor
  · rintro ⟨e, hP, he⟩
    exact h c e he hP
  · exact False.elim

namespace FailsAt

theorem congr {r : Reader τ ε α} {w w' : List τ → Prop} (h : FailsAt P r w)
    (heq : ∀ ts, w ts ↔ w' ts) : FailsAt P r w' :=
  fun c => (h c).trans (heq c.rest)

theorem peek {f : Option τ → Reader τ ε α} {w : Option τ → List τ → Prop}
    (h : ∀ next, FailsAt P (f next) (w next)) :
    FailsAt P (peek? >>= f) fun ts => w ts.head? ts := by
  intro c
  rw [run_peek?_bind]
  exact h c.rest.head? c

theorem bind (hreads : Reads m write more) {w : List τ → Prop} {w' : α → List τ → Prop}
    (hm : FailsAt P m w) (hf : ∀ a, FailsAt P (f a) (w' a)) :
    FailsAt P (m >>= f) fun ts =>
      w ts ∨ ∃ a us, ts = write a ++ us ∧ (∀ t ∈ more a, us.head? ≠ some t) ∧ w' a us := by
  intro c
  constructor
  · rintro ⟨e, hP, he⟩
    rcases run_bind_eq_error.mp he with hfirst | ⟨a, c', hok, hsecond⟩
    · exact .inl ((hm c).mp ⟨e, hP, hfirst⟩)
    · obtain ⟨htakes, hstops⟩ := hreads.run_eq_ok.mp hok
      exact .inr ⟨a, c'.rest, htakes.1, hstops, (hf a c').mp ⟨e, hP, hsecond⟩⟩
  · rintro (hw | ⟨a, us, hrest, hstops, hw⟩)
    · obtain ⟨e, hP, he⟩ := (hm c).mpr hw
      exact ⟨e, hP, run_bind_eq_error.mpr (.inl he)⟩
    · have htakes : c.Takes (write a) ⟨c.position + (write a).length, us⟩ := ⟨hrest, rfl⟩
      have hok := hreads.run_eq_ok.mpr ⟨htakes, hstops⟩
      obtain ⟨e, hP, he⟩ := (hf a ⟨c.position + (write a).length, us⟩).mpr hw
      exact ⟨e, hP, run_bind_eq_error.mpr (.inr ⟨a, _, hok, he⟩)⟩

/-- What cannot fail so any more adds nothing. -/
theorem bind_never {w : List τ → Prop} (hm : FailsAt P m w)
    (hf : ∀ a, FailsOnly (fun e => ¬P e) (f a)) : FailsAt P (m >>= f) w := by
  intro c
  rw [← hm c]
  constructor
  · rintro ⟨e, hP, he⟩
    rcases run_bind_eq_error.mp he with hfirst | ⟨a, c', -, hsecond⟩
    · exact ⟨e, hP, hfirst⟩
    · exact absurd hP (hf a c' e hsecond)
  · rintro ⟨e, hP, he⟩
    exact ⟨e, hP, run_bind_eq_error.mpr (.inl he)⟩

/-- After a first part that cannot fail so, and ends by itself. -/
theorem after (hreads : Reads m write fun _ => []) (hm : FailsOnly (fun e => ¬P e) m)
    {w : α → List τ → Prop} (hf : ∀ a, FailsAt P (f a) (w a)) :
    FailsAt P (m >>= f) fun ts => ∃ a us, ts = write a ++ us ∧ w a us := by
  refine (bind hreads hm.failsAt hf).congr fun ts => ?_
  simp

end FailsAt
end Reader
end SqlFront
