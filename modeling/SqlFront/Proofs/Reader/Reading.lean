import SqlFront.Reader

/-!
# SqlFront.Proofs.Reader.Reading

What a reader reads, and where it stops.

`Reads r write more` describes the successes of a reader completely: it gives `a` exactly when the
items begin with `write a` and the item after them is none of `more a`, the items that would carry
`a` on. The failures of a reader are the business of `SqlFront.Proofs.Reader.Blame`.

* `Reads.accept`, `Reads.loop`: the two readers that take items themselves.
-/

namespace SqlFront

variable {τ ε α β : Type}

namespace Cursor

/-- Between the two places lie exactly these items. -/
def Takes (c : Cursor τ) (items : List τ) (c' : Cursor τ) : Prop :=
  c.rest = items ++ c'.rest ∧ c'.position = c.position + items.length

/-- The next item, if there is one, is none of these. -/
def Stops (c : Cursor τ) (more : List τ) : Prop := ∀ t ∈ more, c.rest.head? ≠ some t

theorem takes_nil {c c' : Cursor τ} : c.Takes [] c' ↔ c' = c := by
  constructor
  · rintro ⟨hrest, hposition⟩
    cases c; cases c'
    simp_all
  · rintro rfl; exact ⟨rfl, rfl⟩

theorem takes_append {c c'' : Cursor τ} {xs ys : List τ} :
    c.Takes (xs ++ ys) c'' ↔ ∃ c', c.Takes xs c' ∧ c'.Takes ys c'' := by
  constructor
  · rintro ⟨hrest, hposition⟩
    refine ⟨⟨c.position + xs.length, ys ++ c''.rest⟩, ⟨?_, rfl⟩, ⟨rfl, ?_⟩⟩
    · rw [hrest, List.append_assoc]
    · rw [hposition, List.length_append, Nat.add_assoc]
  · rintro ⟨c', ⟨hrest, hposition⟩, ⟨hrest', hposition'⟩⟩
    refine ⟨?_, ?_⟩
    · rw [hrest, hrest', List.append_assoc]
    · rw [hposition', hposition, List.length_append, Nat.add_assoc]

theorem takes_cons {c c'' : Cursor τ} {x : τ} {xs : List τ} :
    c.Takes (x :: xs) c'' ↔ ∃ c', c.Takes [x] c' ∧ c'.Takes xs c'' := by
  rw [← List.singleton_append, takes_append]

theorem Takes.append {c c' c'' : Cursor τ} {xs ys : List τ} (h : c.Takes xs c')
    (h' : c'.Takes ys c'') : c.Takes (xs ++ ys) c'' :=
  takes_append.mpr ⟨c', h, h'⟩

theorem Takes.cons {c c' c'' : Cursor τ} {x : τ} {xs : List τ} (h : c.Takes [x] c')
    (h' : c'.Takes xs c'') : c.Takes (x :: xs) c'' := h.append h'

theorem Takes.head? {c c' : Cursor τ} {x : τ} {xs : List τ} (h : c.Takes (x :: xs) c') :
    c.rest.head? = some x := by
  rw [h.1]; rfl

theorem exists_takes {c : Cursor τ} {x : τ} (h : c.rest.head? = some x) :
    ∃ c', c.Takes [x] c' := by
  obtain ⟨rest, hrest⟩ := List.head?_eq_some_iff.mp h
  exact ⟨⟨c.position + 1, rest⟩, hrest, rfl⟩

/-- Where one known item follows, the place stops whatever that item does not carry on. -/
theorem Takes.stops {c c' : Cursor τ} {x : τ} {xs more : List τ} (h : c.Takes (x :: xs) c')
    (hx : x ∉ more) : c.Stops more := by
  intro t ht heq
  rw [h.head?] at heq
  cases heq
  exact hx ht

@[simp] theorem stops_nil (c : Cursor τ) : c.Stops [] := nofun

theorem stops_cons {c : Cursor τ} {t : τ} {more : List τ} :
    c.Stops (t :: more) ↔ c.rest.head? ≠ some t ∧ c.Stops more := by
  simp [Stops]

end Cursor

namespace Reader

/-- The reader gives `a` exactly by taking `write a`, before an item that is none of `more a`. -/
def Reads (r : Reader τ ε α) (write : α → List τ) (more : α → List τ) : Prop :=
  ∀ (c c' : Cursor τ) (a : α), r.run c = .ok (a, c') ↔ c.Takes (write a) c' ∧ c'.Stops (more a)

/-! ## A reader repeated after each separator -/

section Separated

variable [BEq τ] [LawfulBEq τ] {separator : τ} {r : Reader τ ε α} {c c' : Cursor τ}

theorem run_loop_of_ne (h : c.rest.head? ≠ some separator) :
    (loop (fun rest => rest.head? == some separator) fun _ => r).run c = .ok ([], c) :=
  run_loop_of_not (.inr (by simpa using h))

theorem run_loop_of_takes (h : c.Takes [separator] c') :
    (loop (fun rest => rest.head? == some separator) fun _ => r).run c =
      (do let a ← r
          let as ← loop (fun rest => rest.head? == some separator) fun _ => r
          return a :: as : Reader τ ε (List α)).run c' := by
  obtain ⟨position, rest⟩ := c
  obtain ⟨position', rest'⟩ := c'
  simp only [Cursor.Takes, List.singleton_append, List.length_singleton] at h
  obtain ⟨rfl, rfl⟩ := h
  exact run_loop_of_goOn (by simp)

theorem run_loop_eq_ok_nil :
    (loop (fun rest => rest.head? == some separator) fun _ => r).run c = .ok ([], c') ↔
      c' = c ∧ c.rest.head? ≠ some separator := by
  constructor
  · intro hrun
    by_cases hc : c.rest.head? = some separator
    · obtain ⟨c₁, hc₁⟩ := Cursor.exists_takes hc
      rw [run_loop_of_takes hc₁, run_bind_eq_ok] at hrun
      obtain ⟨a, c₂, -, hrun⟩ := hrun
      obtain ⟨as, c₃, -, hpure⟩ := run_bind_eq_ok.mp hrun
      cases hpure
    · rw [run_loop_of_ne hc] at hrun
      cases hrun
      exact ⟨rfl, hc⟩
  · rintro ⟨rfl, hc⟩
    exact run_loop_of_ne hc

theorem run_loop_eq_ok_cons {a : α} {as : List α} :
    (loop (fun rest => rest.head? == some separator) fun _ => r).run c = .ok (a :: as, c') ↔
      ∃ c₁ c₂, c.Takes [separator] c₁ ∧ r.run c₁ = .ok (a, c₂) ∧
        (loop (fun rest => rest.head? == some separator) fun _ => r).run c₂ = .ok (as, c') := by
  constructor
  · intro hrun
    by_cases hc : c.rest.head? = some separator
    · obtain ⟨c₁, hc₁⟩ := Cursor.exists_takes hc
      rw [run_loop_of_takes hc₁, run_bind_eq_ok] at hrun
      obtain ⟨a, c₂, hitem, hrun⟩ := hrun
      obtain ⟨as, c₃, hloop, hpure⟩ := run_bind_eq_ok.mp hrun
      cases hpure
      exact ⟨c₁, c₂, hc₁, hitem, hloop⟩
    · rw [run_loop_of_ne hc] at hrun
      cases hrun
  · rintro ⟨c₁, c₂, hc₁, hitem, hloop⟩
    rw [run_loop_of_takes hc₁, run_bind_eq_ok]
    exact ⟨a, c₂, hitem, run_bind_eq_ok.mpr ⟨as, c', hloop, rfl⟩⟩

end Separated

namespace Reads

theorem accept (test : τ → Bool) (failure : Cursor τ → ε) :
    Reads (Reader.accept test failure) (fun t => [t.val]) fun _ => [] := by
  intro c c' t
  rw [run_accept_eq_ok]
  simp [Cursor.Takes]

variable {r : Reader τ ε α} {write more : α → List τ}

theorem run_eq_ok (h : Reads r write more) {c c' : Cursor τ} {a : α} :
    r.run c = .ok (a, c') ↔ c.Takes (write a) c' ∧ c'.Stops (more a) := h c c' a

/-- A reader repeated after each separator. No item is carried on by a separator, so the loop may
start right after any item `prev`; where it ends, the last item decides what would carry on. -/
theorem loop [BEq τ] [LawfulBEq τ] {separator : τ} (h : Reads r write more)
    (hseparator : ∀ a, separator ∉ more a) {as : List α} {c c' : Cursor τ} (prev : α) :
    (Reader.loop (fun rest => rest.head? == some separator) fun _ => r).run c = .ok (as, c') ∧
        c.Stops (more prev) ↔
      c.Takes (as.flatMap fun a => separator :: write a) c' ∧
        c'.Stops (separator :: more (as.getLastD prev)) := by
  induction as generalizing c prev with
  | nil =>
    rw [run_loop_eq_ok_nil, List.flatMap_nil, Cursor.takes_nil, Cursor.stops_cons,
      List.getLastD_nil]
    constructor
    · rintro ⟨⟨rfl, hc⟩, hstops⟩; exact ⟨rfl, hc, hstops⟩
    · rintro ⟨rfl, hc, hstops⟩; exact ⟨⟨rfl, hc⟩, hstops⟩
  | cons a as ih =>
    rw [run_loop_eq_ok_cons, List.flatMap_cons, List.cons_append, Cursor.takes_cons,
      List.getLastD_cons]
    constructor
    · rintro ⟨⟨c₁, c₂, hc₁, hitem, hloop⟩, -⟩
      obtain ⟨htakes, hstops⟩ := h.run_eq_ok.mp hitem
      obtain ⟨htail, hend⟩ := (ih a).mp ⟨hloop, hstops⟩
      exact ⟨⟨c₁, hc₁, htakes.append htail⟩, hend⟩
    · rintro ⟨⟨c₁, hc₁, htakes⟩, hend⟩
      obtain ⟨c₂, hitem, htail⟩ := Cursor.takes_append.mp htakes
      obtain ⟨hloop, hstops⟩ := (ih a).mpr ⟨htail, hend⟩
      have hrun := h.run_eq_ok.mpr ⟨hitem, hstops⟩
      exact ⟨⟨c₁, c₂, hc₁, hrun, hloop⟩, hc₁.stops (hseparator prev)⟩

end Reads
end Reader
end SqlFront
