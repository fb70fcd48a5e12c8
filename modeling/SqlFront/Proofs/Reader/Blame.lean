import SqlFront.Proofs.Reader.Reading

/-!
# SqlFront.Proofs.Reader.Blame

Where a reader puts the blame when it fails.

A failure may name an item: what it found, and where. `Blames blame r wanted` says that `r` does so
only when there is nothing else to blame: the items before the named one still begin something
`wanted`, and the failure depends on them and on the named one only.

* `Blames.accept`, `Blames.bind`, `Blames.loop`: the law for each way to build a reader.
-/

namespace SqlFront

variable {τ ε α β : Type}

namespace Cursor

/-- Two places with the same number of items behind them and the same `n` items next. -/
def Agree (n : Nat) (c d : Cursor τ) : Prop :=
  d.position = c.position ∧ d.rest.take n = c.rest.take n

theorem Agree.head? {n : Nat} {c d : Cursor τ} (h : c.Agree (n + 1) d) :
    d.rest.head? = c.rest.head? := by
  have htake := congrArg List.head? h.2
  rw [List.head?_take, List.head?_take] at htake
  simpa using htake

theorem Agree.refl (n : Nat) (c : Cursor τ) : c.Agree n c := ⟨rfl, rfl⟩

theorem Agree.mono {m n : Nat} {c d : Cursor τ} (h : c.Agree n d) (hmn : m ≤ n) : c.Agree m d := by
  have htake := congrArg (List.take m) h.2
  rw [List.take_take, List.take_take, Nat.min_eq_left hmn] at htake
  exact ⟨h.1, htake⟩

theorem Agree.stops {n : Nat} {c d : Cursor τ} {more : List τ} (h : c.Agree (n + 1) d)
    (hstops : c.Stops more) : d.Stops more := by
  intro t ht
  rw [h.head?]
  exact hstops t ht

theorem Agree.takes {n : Nat} {c c' d : Cursor τ} {ts : List τ} (h : c.Agree (ts.length + n) d)
    (htakes : c.Takes ts c') : ∃ d', d.Takes ts d' ∧ c'.Agree n d' := by
  obtain ⟨hposition, htake⟩ := h
  rw [htakes.1, List.take_length_add_append] at htake
  have hbegin : ts <+: d.rest :=
    (htake ▸ List.prefix_append ts _ : ts <+: d.rest.take (ts.length + n)).trans
      (List.take_prefix _ _)
  obtain ⟨rest, hrest⟩ := hbegin
  rw [← hrest, List.take_length_add_append] at htake
  refine ⟨⟨d.position + ts.length, rest⟩, ⟨hrest.symm, rfl⟩, ?_, List.append_cancel_left htake⟩
  rw [htakes.2, hposition]

end Cursor

namespace Reader

variable {blame : ε → Option (Option τ × Nat)} {r : Reader τ ε α} {c : Cursor τ}
  {wanted wanted' : List τ → Prop}

def Written (write : α → List τ) (us : List τ) : Prop := ∃ a, write a = us

/-- A failure from this place that puts the blame somewhere names the item after some `ts`, with
which something wanted begins, and depends on no later one. -/
def BlamesAt (blame : ε → Option (Option τ × Nat)) (r : Reader τ ε α) (wanted : List τ → Prop)
    (c : Cursor τ) : Prop :=
  ∀ e, r.run c = .error e → (blame e).isSome →
    ∃ ts c', c.Takes ts c' ∧ blame e = some (c'.rest.head?, c'.position) ∧
      (∃ us, wanted (ts ++ us)) ∧ ∀ d, c.Agree (ts.length + 1) d → r.run d = .error e

/-- Something is wanted, and wherever the reader is run it blames no item with which it begins. -/
structure Blames (blame : ε → Option (Option τ × Nat)) (r : Reader τ ε α)
    (wanted : List τ → Prop) : Prop where
  completes : ∃ us, wanted us
  blamesAt : ∀ c, BlamesAt blame r wanted c

theorem BlamesAt.of_ok {a : α} {c' : Cursor τ} (h : r.run c = .ok (a, c')) :
    BlamesAt blame r wanted c := by
  intro e he
  rw [h] at he
  cases he

theorem BlamesAt.here (hcompletes : ∃ us, wanted us)
    (h : ∀ e, r.run c = .error e → (blame e).isSome →
      blame e = some (c.rest.head?, c.position) ∧ ∀ d, c.Agree 1 d → r.run d = .error e) :
    BlamesAt blame r wanted c := by
  intro e he hblame
  obtain ⟨hhere, hagree⟩ := h e he hblame
  exact ⟨[], c, Cursor.takes_nil.mpr rfl, hhere, hcompletes, hagree⟩

theorem BlamesAt.mono (h : BlamesAt blame r wanted c)
    (hmono : ∀ us, wanted us → ∃ vs, wanted' (us ++ vs)) : BlamesAt blame r wanted' c := by
  intro e he hblame
  obtain ⟨ts, c', htakes, hnext, ⟨us, hus⟩, hagree⟩ := h e he hblame
  obtain ⟨vs, hvs⟩ := hmono _ hus
  exact ⟨ts, c', htakes, hnext, ⟨us ++ vs, by rwa [← List.append_assoc]⟩, hagree⟩

/-- A reader that, having taken `ts`, runs as another does, whatever comes after the next item. -/
theorem BlamesAt.after {s : Reader τ ε β} {ts : List τ} {c' : Cursor τ} (htakes : c.Takes ts c')
    (hrun : ∀ d d' e, c'.Agree 1 d' → d.Takes ts d' →
      (r.run d = .error e ↔ s.run d' = .error e))
    (h : BlamesAt blame s (fun us => wanted (ts ++ us)) c') : BlamesAt blame r wanted c := by
  intro e he hblame
  have hs := (hrun c c' e (Cursor.Agree.refl 1 c') htakes).mp he
  obtain ⟨xs, c'', hxs, hnext, ⟨us, hus⟩, hagree⟩ := h e hs hblame
  refine ⟨ts ++ xs, c'', htakes.append hxs, hnext, ⟨us, by rwa [List.append_assoc]⟩, ?_⟩
  intro d hd
  rw [List.length_append, Nat.add_assoc] at hd
  obtain ⟨d', htakes', hd'⟩ := hd.takes htakes
  exact (hrun d d' e (hd'.mono (Nat.le_add_left 1 _)) htakes').mpr (hagree d' hd')

theorem BlamesAt.peek {f : Option τ → Reader τ ε α}
    (h : BlamesAt blame (f c.rest.head?) wanted c) : BlamesAt blame (peek? >>= f) wanted c := by
  refine .after (Cursor.takes_nil.mpr rfl) (fun d d' e hagree htakes => ?_) h
  obtain rfl := Cursor.takes_nil.mp htakes
  rw [run_peek?_bind, hagree.head?]

/-- What is made of a value has no part in a failure. -/
theorem BlamesAt.map (h : BlamesAt blame r wanted c) (g : α → β) :
    BlamesAt blame (do return g (← r)) wanted c := by
  refine .after (Cursor.takes_nil.mpr rfl) (fun d d' e _ htakes => ?_) h
  obtain rfl := Cursor.takes_nil.mp htakes
  rw [run_bind_eq_error]
  constructor
  · rintro (he | ⟨a, c', -, hpure⟩)
    · exact he
    · cases hpure
  · intro he
    exact .inl he

variable {m : Reader τ ε α} {f : α → Reader τ ε β} {write more : α → List τ}

theorem BlamesAt.of_error {e : ε} (hm : BlamesAt blame m wanted c) (f : α → Reader τ ε β)
    (h : m.run c = .error e) : BlamesAt blame (m >>= f) wanted c := by
  intro e' he' hblame
  have he : e' = e := by
    rw [run_bind, h] at he'
    cases he'; rfl
  subst he
  obtain ⟨ts, c', htakes, hnext, hwanted, hagree⟩ := hm e' h hblame
  refine ⟨ts, c', htakes, hnext, hwanted, fun d hd => ?_⟩
  rw [run_bind, hagree d hd]

/-- A sequence, if something wanted begins with whatever its first part can read. -/
theorem BlamesAt.bind (hreads : Reads m write more)
    (hm : BlamesAt blame m (Written write) c)
    (hcompletes : ∀ a, ∃ us, wanted (write a ++ us))
    (hf : ∀ a c', m.run c = .ok (a, c') →
      BlamesAt blame (f a) (fun us => wanted (write a ++ us)) c') :
    BlamesAt blame (m >>= f) wanted c := by
  cases hrun : m.run c with
  | error e =>
    refine (hm.mono ?_).of_error f hrun
    rintro us ⟨a, rfl⟩
    exact hcompletes a
  | ok read =>
    obtain ⟨a, c'⟩ := read
    obtain ⟨htakes, hstops⟩ := hreads.run_eq_ok.mp hrun
    refine .after htakes (fun d d' e hagree htakes' => ?_) (hf a c' hrun)
    have hd : m.run d = .ok (a, d') := hreads.run_eq_ok.mpr ⟨htakes', hagree.stops hstops⟩
    rw [run_bind, hd]

namespace Blames

theorem pure (hcompletes : ∃ us, wanted us) (a : α) :
    Blames blame (Pure.pure a : Reader τ ε α) wanted :=
  ⟨hcompletes, fun _ => .of_ok (run_pure a _)⟩

theorem fail {failure : Cursor τ → ε} (hcompletes : ∃ us, wanted us)
    (h : ∀ c, blame (failure c) = none) :
    Blames blame (Reader.fail failure : Reader τ ε α) wanted := by
  refine ⟨hcompletes, fun c e he hblame => ?_⟩
  cases he
  rw [h] at hblame
  cases hblame

theorem accept {test : τ → Bool} [Inhabited { t : τ // test t = true }] {failure : Cursor τ → ε}
    (hblame : ∀ c, blame (failure c) = some (c.rest.head?, c.position))
    (hnext : ∀ c d, c.Agree 1 d → failure d = failure c) :
    Blames blame (Reader.accept test failure)
      (Written fun t : { t : τ // test t = true } => [t.val]) := by
  have hcompletes : ∃ us, Written (fun t : { t : τ // test t = true } => [t.val]) us :=
    ⟨_, default, rfl⟩
  refine ⟨hcompletes, fun c => .here hcompletes fun e he _ => ?_⟩
  obtain ⟨hrefused, rfl⟩ := run_accept_eq_error.mp he
  refine ⟨hblame c, fun d hd => run_accept_eq_error.mpr ⟨?_, (hnext c d hd).symm⟩⟩
  rwa [hd.head?]

theorem bind (hreads : Reads m write more) (hm : Blames blame m (Written write))
    (hf : ∀ a, Blames blame (f a) fun us => wanted (write a ++ us)) :
    Blames blame (m >>= f) wanted := by
  obtain ⟨-, a, -⟩ := hm.completes
  obtain ⟨us, hus⟩ := (hf a).completes
  exact ⟨⟨_, hus⟩, fun c => .bind hreads (hm.blamesAt c) (fun a => (hf a).completes)
    fun a c' _ => (hf a).blamesAt c'⟩

theorem loop [BEq τ] [LawfulBEq τ] {separator : τ} (hreads : Reads m write more)
    (hm : Blames blame m (Written write)) :
    Blames blame (Reader.loop (fun rest => rest.head? == some separator) fun _ => m)
      (Written fun as : List α => as.flatMap fun a => separator :: write a) := by
  refine ⟨⟨[], [], rfl⟩, fun c => ?_⟩
  -- the loop runs again from wherever its item ends, so the induction is on what is left to read
  generalize hlength : c.rest.length = length
  induction length using Nat.strongRecOn generalizing c with
  | ind length ih =>
    by_cases hc : c.rest.head? = some separator
    · obtain ⟨c₁, hc₁⟩ := Cursor.exists_takes hc
      refine .after hc₁ (fun d d' e _ hd => by rw [run_loop_of_takes hd]) ?_
      refine .bind hreads ?_ ?_ ?_
      · exact hm.blamesAt c₁
      · intro a
        exact ⟨[], [a], by simp⟩
      · intro a c₂ hitem
        have hshorter : c₂.rest.length < length := by
          have hforward := m.forward hitem
          have hrest := congrArg List.length hc₁.1
          simp only [List.length_append, List.length_singleton] at hrest
          omega
        refine ((ih _ hshorter c₂ rfl).mono ?_).map (a :: ·)
        rintro us ⟨as, rfl⟩
        exact ⟨[], a :: as, by simp⟩
    · exact .of_ok (run_loop_of_ne hc)

end Blames
end Reader
end SqlFront
