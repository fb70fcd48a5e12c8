/-!
# SqlFront.Reader

Readers of lists: a reader takes items from the front, gives a value and leaves the rest, or fails.
It never puts an item back, and this is part of its type; `loop` may therefore repeat a reader for
as long as it wants and still comes to an end.
-/

namespace SqlFront

/-- A place in a list: how many items were read, and the items still to come. -/
structure Cursor (τ : Type) where
  position : Nat
  rest : List τ

/-- A reader of items `τ` with failures `ε` and values `α`. -/
structure Reader (τ ε α : Type) where
  run : Cursor τ → Except ε (α × Cursor τ)
  forward : ∀ {c : Cursor τ} {a : α} {c' : Cursor τ},
    run c = .ok (a, c') → c'.rest.length ≤ c.rest.length

namespace Reader

variable {τ ε α β : Type}

/-! ## Sequence -/

/-- Reads nothing. -/
protected def pure (a : α) : Reader τ ε α where
  run c := .ok (a, c)
  forward h := by cases h; exact Nat.le_refl _

/-- Reads with `m`, then with the reader that `f` gives for its value. -/
protected def bind (m : Reader τ ε α) (f : α → Reader τ ε β) : Reader τ ε β where
  run c :=
    match m.run c with
    | .error e => .error e
    | .ok (a, c') => (f a).run c'
  forward h := by
    split at h
    · cases h
    · rename_i hm
      exact Nat.le_trans ((f _).forward h) (m.forward hm)

instance : Monad (Reader τ ε) where
  pure := Reader.pure
  bind := Reader.bind

@[simp] theorem run_pure (a : α) (c : Cursor τ) :
    (pure a : Reader τ ε α).run c = .ok (a, c) := rfl

theorem run_bind (m : Reader τ ε α) (f : α → Reader τ ε β) (c : Cursor τ) :
    (m >>= f).run c =
      match m.run c with
      | .error e => .error e
      | .ok (a, c') => (f a).run c' := rfl

/-- A sequence succeeds exactly when its two parts do, one after the other. -/
theorem run_bind_eq_ok {m : Reader τ ε α} {f : α → Reader τ ε β} {c c'' : Cursor τ} {b : β} :
    (m >>= f).run c = .ok (b, c'') ↔
      ∃ a c', m.run c = .ok (a, c') ∧ (f a).run c' = .ok (b, c'') := by
  rw [run_bind]
  constructor
  · intro h
    split at h
    · cases h
    · rename_i a c' hm; exact ⟨a, c', hm, h⟩
  · rintro ⟨a, c', hm, hf⟩
    rw [hm]; exact hf

/-- A sequence fails exactly when its first part does, or its second part after the first. -/
theorem run_bind_eq_error {m : Reader τ ε α} {f : α → Reader τ ε β} {c : Cursor τ} {e : ε} :
    (m >>= f).run c = .error e ↔
      m.run c = .error e ∨ ∃ a c', m.run c = .ok (a, c') ∧ (f a).run c' = .error e := by
  rw [run_bind]
  constructor
  · intro h
    split at h
    · rename_i hm; cases h; exact .inl hm
    · rename_i a c' hm; exact .inr ⟨a, c', hm, h⟩
  · rintro (hm | ⟨a, c', hm, hf⟩)
    · rw [hm]
    · rw [hm]; exact hf

/-! ## Single steps -/

/-- Fails at the place where it stands. -/
def fail (failure : Cursor τ → ε) : Reader τ ε α where
  run c := .error (failure c)
  forward h := by cases h

@[simp] theorem run_fail (failure : Cursor τ → ε) (c : Cursor τ) :
    (fail failure : Reader τ ε α).run c = .error (failure c) := rfl

/-- The items to come, none of them read. -/
def ahead : Reader τ ε (List τ) where
  run c := .ok (c.rest, c)
  forward h := by cases h; exact Nat.le_refl _

/-- The next item, not read. -/
def peek? : Reader τ ε (Option τ) where
  run c := .ok (c.rest.head?, c)
  forward h := by cases h; exact Nat.le_refl _

/-- Looking ahead moves nothing: the rest runs from the same place. -/
theorem run_peek?_bind (f : Option τ → Reader τ ε α) (c : Cursor τ) :
    (peek? >>= f).run c = (f c.rest.head?).run c := rfl

/-- Reads the next item if it passes the test. -/
def accept (test : τ → Bool) (failure : Cursor τ → ε) : Reader τ ε { t : τ // test t = true } where
  run c :=
    match c.rest with
    | t :: rest =>
      if h : test t = true then .ok (⟨t, h⟩, ⟨c.position + 1, rest⟩) else .error (failure c)
    | [] => .error (failure c)
  forward h := by
    split at h
    · rename_i hrest
      split at h
      · cases h; simp [hrest]
      · cases h
    · cases h

theorem run_accept_eq_ok {test : τ → Bool} {failure : Cursor τ → ε} {c c' : Cursor τ}
    {t : { t : τ // test t = true }} :
    (accept test failure).run c = .ok (t, c') ↔
      c.rest = t.val :: c'.rest ∧ c'.position = c.position + 1 := by
  obtain ⟨position, rest⟩ := c
  obtain ⟨position', rest'⟩ := c'
  obtain ⟨t, ht⟩ := t
  simp only [accept]
  constructor
  · intro h
    split at h
    · split at h
      · cases h; exact ⟨rfl, rfl⟩
      · cases h
    · cases h
  · rintro ⟨rfl, rfl⟩
    simp [ht]

theorem run_accept_eq_error {test : τ → Bool} {failure : Cursor τ → ε} {c : Cursor τ} {e : ε} :
    (accept test failure).run c = .error e ↔
      (∀ t, c.rest.head? = some t → test t = false) ∧ e = failure c := by
  obtain ⟨position, rest⟩ := c
  cases rest with
  | nil =>
    constructor
    · rintro ⟨⟩; exact ⟨nofun, rfl⟩
    · rintro ⟨-, rfl⟩; rfl
  | cons t rest =>
    simp only [accept, List.head?_cons, Option.some.injEq, forall_eq']
    constructor
    · intro h
      split at h
      · cases h
      · rename_i ht; cases h; exact ⟨Bool.eq_false_iff.mpr ht, rfl⟩
    · rintro ⟨ht, rfl⟩
      simp [ht]

/-- Reads the items up to the first one that fails the test. -/
def takeWhile (test : τ → Bool) : Reader τ ε (List τ) where
  run c :=
    let taken := c.rest.takeWhile test
    .ok (taken, ⟨c.position + taken.length, c.rest.dropWhile test⟩)
  forward {c} _ _ h := by
    cases h
    have := congrArg List.length (List.takeWhile_append_dropWhile (p := test) (l := c.rest))
    simp only [List.length_append] at this
    simp only
    omega

/-! ## Repetition -/

/-- The run of `loop` from a place. -/
def loopFrom (goOn : List τ → Bool) (item : τ → Reader τ ε α) :
    Cursor τ → Except ε (List α × Cursor τ)
  | ⟨position, []⟩ => .ok ([], ⟨position, []⟩)
  | ⟨position, t :: rest⟩ =>
    if goOn (t :: rest) then
      match _hread : (item t).run ⟨position + 1, rest⟩ with
      | .error e => .error e
      | .ok (a, c) =>
        match loopFrom goOn item c with
        | .error e => .error e
        | .ok (as, c') => .ok (a :: as, c')
    else .ok ([], ⟨position, t :: rest⟩)
termination_by c => c.rest.length
decreasing_by
  have := (item t).forward _hread
  simp only [List.length_cons] at this ⊢
  omega

theorem loopFrom_forward (goOn : List τ → Bool) (item : τ → Reader τ ε α) (c : Cursor τ) :
    ∀ {as : List α} {c' : Cursor τ},
      loopFrom goOn item c = .ok (as, c') → c'.rest.length ≤ c.rest.length := by
  fun_induction loopFrom goOn item c with
  | case1 position => intro as c' h; cases h; exact Nat.le_refl _
  | case2 => intro as c' h; cases h
  | case3 => intro as c' h; cases h
  | case4 position t rest _ a c hitem as c₁ hloop ih =>
    intro as' c' h
    cases h
    have hitem := (item t).forward hitem
    have hrest := ih hloop
    simp only [List.length_cons] at hitem ⊢
    omega
  | case5 => intro as c' h; cases h; exact Nat.le_refl _

/-- As long as `goOn` holds of the items to come, takes the first of them and reads on with the
reader that `item` gives for it. -/
def loop (goOn : List τ → Bool) (item : τ → Reader τ ε α) : Reader τ ε (List α) where
  run := loopFrom goOn item
  forward h := loopFrom_forward goOn item _ h

/-- Where the loop does not go on, it reads nothing. -/
theorem run_loop_of_not {goOn : List τ → Bool} {item : τ → Reader τ ε α} {c : Cursor τ}
    (h : c.rest = [] ∨ goOn c.rest = false) : (loop goOn item).run c = .ok ([], c) := by
  obtain ⟨position, rest⟩ := c
  simp only [loop]
  cases rest with
  | nil => rw [loopFrom]
  | cons t rest =>
    rw [loopFrom, if_neg]
    simpa using h

/-- Where the loop goes on, it takes an item, reads with the reader for it, and is run again. -/
theorem run_loop_of_goOn {goOn : List τ → Bool} {item : τ → Reader τ ε α} {position : Nat} {t : τ}
    {rest : List τ} (h : goOn (t :: rest) = true) :
    (loop goOn item).run ⟨position, t :: rest⟩ =
      (do let a ← item t; let as ← loop goOn item; return a :: as : Reader τ ε (List α)).run
        ⟨position + 1, rest⟩ := by
  simp only [loop, run_bind]
  rw [loopFrom, if_pos h]
  split <;> rename_i hitem <;> simp only [hitem]
  · split <;> rename_i hloop <;> simp [hloop]

end Reader
end SqlFront
