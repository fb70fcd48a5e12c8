import SqlFront.Proofs.Tree.Nodes
import SqlFront.Token
import SqlFront.Tree.Indented

/-!
# SqlFront.Proofs.Tree.Indented

The indented text of a tree can be read back.

The text is a line for each row of the tree in preorder, and the rows with their depths are the
tree. A line shows where it ends: a label in quotes goes on to the closing one, whatever breaks it
holds, and any other label goes on to the first break. What stands before the label is told from it
by its first character.

* `line_append_inj`: two texts that begin with a line begin with the same row.
* `rows_append_inj`: two lists that begin with the rows of a tree begin with the same tree.
* `indented_inj`: two trees with the same text are equal.
-/

namespace SqlFront

/-! ## Runs with an end -/

section Runs

variable {α : Type} {a : α} {xs ys rest rest' : List α}

theorem append_cons_inj_left (hxs : a ∉ xs) (hys : a ∉ ys)
    (h : xs ++ a :: rest = ys ++ a :: rest') : xs = ys ∧ rest = rest' := by
  rcases List.append_eq_append_iff.mp h with ⟨zs, rfl, hrest⟩ | ⟨zs, rfl, hrest⟩ <;>
    cases zs <;> simp_all

theorem replicate_append_inj {m n : Nat} (hrest : rest.head? ≠ some a)
    (hrest' : rest'.head? ≠ some a)
    (h : List.replicate m a ++ rest = List.replicate n a ++ rest') : m = n ∧ rest = rest' := by
  induction m generalizing n with
  | zero =>
    cases n with
    | zero => simpa using h
    | succ n =>
      rw [List.replicate_zero, List.nil_append] at h
      simp [h, List.replicate_succ] at hrest
  | succ m ih =>
    cases n with
    | zero =>
      rw [List.replicate_zero, List.nil_append] at h
      simp [← h, List.replicate_succ] at hrest'
    | succ n =>
      simp only [List.replicate_succ, List.cons_append, List.cons.injEq, true_and] at h
      obtain ⟨rfl, hrest⟩ := ih h
      exact ⟨rfl, hrest⟩

end Runs

namespace Tree

/-- What a line shows of a node with this label and kind can be told from what is around it. A label
that begins with a quote ends with the next one, any other stands on one line, and without a kind
before it a label looks neither like a margin nor like a kind. -/
structure Legible (kind : Option Kind) (label : String) : Prop where
  closed : label.toList.head? = some Token.quote →
    ∃ body, Token.quote ∉ body ∧ label.toList = Token.quote :: body ++ [Token.quote]
  oneLine : label.toList.head? ≠ some Token.quote → '\n' ∉ label.toList
  bare : kind = none → label.toList.head? ≠ some ' ' ∧ label.toList.head? ≠ some '['

/-- Every node of the tree is legible. -/
def LegibleAll (tree : Tree) : Prop := ∀ node ∈ tree.nodes, Legible node.kind node.label

/-! ## Lines -/

def line (row : Nat × Option Kind × String) : List Char :=
  (margin row.1 ++ caption row.2.2 row.2.1 ++ "\n").toList

theorem label_append_inj {kind kind' : Option Kind} {label label' : String}
    (h : Legible kind label) (h' : Legible kind' label') {rest rest' : List Char}
    (heq : label.toList ++ '\n' :: rest = label'.toList ++ '\n' :: rest') :
    label = label' ∧ rest = rest' := by
  have hhead : ∀ (text : String) (rest : List Char),
      text.toList.head? = some Token.quote ↔
        (text.toList ++ '\n' :: rest).head? = some Token.quote := by
    intro text rest
    cases text.toList with
    | nil => simp [Token.quote]
    | cons c cs => simp
  by_cases hquote : label.toList.head? = some Token.quote
  · have hquote' : label'.toList.head? = some Token.quote := by
      rwa [hhead label' rest', ← heq, ← hhead label rest]
    obtain ⟨body, hbody, hlabel⟩ := h.closed hquote
    obtain ⟨body', hbody', hlabel'⟩ := h'.closed hquote'
    rw [hlabel, hlabel'] at heq
    simp only [List.cons_append, List.append_assoc, List.nil_append, List.cons.injEq,
      true_and] at heq
    obtain ⟨rfl, hrest⟩ := append_cons_inj_left hbody hbody' heq
    refine ⟨String.toList_inj.mp (hlabel.trans hlabel'.symm), ?_⟩
    simpa using hrest
  · have hquote' : label'.toList.head? ≠ some Token.quote := by
      rwa [ne_eq, hhead label' rest', ← heq, ← hhead label rest]
    obtain ⟨hlabels, hrest⟩ :=
      append_cons_inj_left (h.oneLine hquote) (h'.oneLine hquote') heq
    exact ⟨String.toList_inj.mp hlabels, hrest⟩

theorem name_append_inj {kind kind' : Kind} {rest rest' : List Char}
    (h : kind.name.toList ++ ']' :: rest = kind'.name.toList ++ ']' :: rest') :
    kind = kind' ∧ rest = rest' := by
  have hnames : ∀ kind ∈ Kind.all, ']' ∉ kind.name.toList := by decide
  have hinjective : ∀ kind ∈ Kind.all, ∀ kind' ∈ Kind.all,
      kind.name = kind'.name → kind = kind' := by
    decide
  obtain ⟨hname, hrest⟩ := append_cons_inj_left (hnames kind (Kind.mem_all kind))
    (hnames kind' (Kind.mem_all kind')) h
  exact ⟨hinjective kind (Kind.mem_all kind) kind' (Kind.mem_all kind')
    (String.toList_inj.mp hname), hrest⟩

/-- A kind in front of a label, with what separates the two. -/
theorem caption_some (label : String) (kind : Kind) :
    (caption label (some kind)).toList =
      '[' :: kind.name.toList ++ ']' :: if label = "" then [] else ' ' :: label.toList := by
  by_cases hlabel : label = "" <;> simp [caption, hlabel]

theorem caption_append_inj {kind kind' : Option Kind} {label label' : String}
    (h : Legible kind label) (h' : Legible kind' label') {rest rest' : List Char}
    (heq : (caption label kind).toList ++ '\n' :: rest =
      (caption label' kind').toList ++ '\n' :: rest') :
    kind = kind' ∧ label = label' ∧ rest = rest' := by
  have hbare : ∀ {label : String} {rest rest' : List Char},
      label.toList.head? ≠ some '[' → label.toList ++ '\n' :: rest ≠ '[' :: rest' := by
    intro label rest rest' hhead heq
    cases hlabel : label.toList <;> simp_all
  cases kind with
  | none =>
    cases kind' with
    | none => exact ⟨rfl, label_append_inj h h' heq⟩
    | some kind' =>
      rw [caption_some] at heq
      exact absurd heq (hbare (h.bare rfl).2)
  | some kind =>
    cases kind' with
    | none =>
      rw [caption_some] at heq
      exact absurd heq.symm (hbare (h'.bare rfl).2)
    | some kind' =>
      simp only [caption_some, List.cons_append, List.append_assoc, List.cons.injEq,
        true_and] at heq
      obtain ⟨rfl, htail⟩ := name_append_inj heq
      -- a space after the kind tells that a label follows
      by_cases hlabel : label = "" <;> by_cases hlabel' : label' = "" <;>
        simp only [hlabel, hlabel', if_true, if_false, List.nil_append, List.cons_append,
          List.cons.injEq, true_and] at htail
      · exact ⟨rfl, hlabel.trans hlabel'.symm, htail⟩
      · exact absurd htail.1 (by decide)
      · exact absurd htail.1 (by decide)
      · exact ⟨rfl, label_append_inj h h' htail⟩

theorem head?_caption {kind : Option Kind} {label : String} (h : Legible kind label)
    (rest : List Char) : ((caption label kind).toList ++ '\n' :: rest).head? ≠ some ' ' := by
  cases kind with
  | some kind => simp [caption_some]
  | none =>
    have hhead := (h.bare rfl).1
    rw [caption]
    cases hlabel : label.toList <;> simp_all

/-- Two texts that begin with a line begin with the same row. -/
theorem line_append_inj {row row' : Nat × Option Kind × String} (h : Legible row.2.1 row.2.2)
    (h' : Legible row'.2.1 row'.2.2) {rest rest' : List Char}
    (heq : line row ++ rest = line row' ++ rest') : row = row' ∧ rest = rest' := by
  obtain ⟨depth, kind, label⟩ := row
  obtain ⟨depth', kind', label'⟩ := row'
  have hline : ∀ (depth : Nat) (kind : Option Kind) (label : String) (rest : List Char),
      line (depth, kind, label) ++ rest =
        List.replicate (2 * depth) ' ' ++ ((caption label kind).toList ++ '\n' :: rest) := by
    simp [line, margin]
  rw [hline, hline] at heq
  obtain ⟨hdepth, heq⟩ := replicate_append_inj (head?_caption h rest) (head?_caption h' rest') heq
  obtain ⟨rfl, rfl, hrest⟩ := caption_append_inj h h' heq
  exact ⟨by rw [show depth = depth' by omega], hrest⟩

theorem lines_inj {rows rows' : List (Nat × Option Kind × String)}
    (h : ∀ row ∈ rows, Legible row.2.1 row.2.2) (h' : ∀ row ∈ rows', Legible row.2.1 row.2.2)
    (heq : rows.flatMap line = rows'.flatMap line) : rows = rows' := by
  have hline : ∀ row, line row ≠ [] := by simp [line]
  induction rows generalizing rows' with
  | nil =>
    cases rows' with
    | nil => rfl
    | cons row' rows' => simp [hline row'] at heq
  | cons row rows ih =>
    cases rows' with
    | nil => simp [hline row] at heq
    | cons row' rows' =>
      simp only [List.forall_mem_cons] at h h'
      simp only [List.flatMap_cons] at heq
      obtain ⟨rfl, hrest⟩ := line_append_inj h.1 h'.1 heq
      rw [ih h.2 h'.2 hrest]

mutual

theorem indented_eq_lines (depth : Nat) : ∀ tree : Tree,
    (indented depth tree).toList = (rows depth tree).flatMap line
  | ⟨label, kind, children⟩ => by
    simp [indented, rows, line, indentedAll_eq_lines (depth + 1) children]

theorem indentedAll_eq_lines (depth : Nat) : ∀ trees : List Tree,
    (indentedAll depth trees).toList = (rowsOf depth trees).flatMap line
  | [] => rfl
  | tree :: trees => by
    simp [indentedAll, rowsOf, indented_eq_lines depth tree, indentedAll_eq_lines depth trees]

end

/-! ## Rows -/

/-- The next row, if there is one, is above the depth. -/
def EndsAbove (depth : Nat) (rest : List (Nat × Option Kind × String)) : Prop :=
  ∀ row, rest.head? = some row → row.1 < depth

theorem EndsAbove.succ {depth : Nat} {rest : List (Nat × Option Kind × String)}
    (h : EndsAbove depth rest) : EndsAbove (depth + 1) rest :=
  fun row hrow => Nat.lt_succ_of_lt (h row hrow)

theorem endsAbove_rowsOf (depth : Nat) (trees : List Tree)
    {rest : List (Nat × Option Kind × String)} (h : EndsAbove depth rest) :
    EndsAbove (depth + 1) (rowsOf depth trees ++ rest) := by
  cases trees with
  | nil => exact h.succ
  | cons tree trees =>
    obtain ⟨label, kind, children⟩ := tree
    intro row hrow
    simp only [rowsOf, rows, List.cons_append, List.head?_cons, Option.some.injEq] at hrow
    subst hrow
    exact Nat.lt_succ_self depth

theorem endsAbove_nil (depth : Nat) : EndsAbove depth [] := by simp [EndsAbove]

theorem eq_nil_of_endsAbove {depth : Nat} {trees : List Tree}
    {rest : List (Nat × Option Kind × String)} (h : EndsAbove depth (rowsOf depth trees ++ rest)) :
    trees = [] := by
  cases trees with
  | nil => rfl
  | cons tree trees =>
    obtain ⟨label, kind, children⟩ := tree
    exact absurd (h (depth, kind, label) (by simp [rowsOf, rows])) (Nat.lt_irrefl depth)

mutual

/-- Two lists that begin with the rows of a tree, and go on above what could be below it, begin with
the same tree. -/
theorem rows_append_inj {depth : Nat} : ∀ {s t : Tree}
    {rest rest' : List (Nat × Option Kind × String)}, EndsAbove (depth + 1) rest →
    EndsAbove (depth + 1) rest' → rows depth s ++ rest = rows depth t ++ rest' →
    s = t ∧ rest = rest'
  | ⟨label, kind, children⟩, ⟨label', kind', children'⟩, rest, rest', hrest, hrest', h => by
    simp only [rows, List.cons_append, List.cons.injEq, Prod.mk.injEq, true_and] at h
    obtain ⟨⟨rfl, rfl⟩, htail⟩ := h
    obtain ⟨rfl, hrests⟩ := rowsOf_append_inj hrest hrest' htail
    exact ⟨rfl, hrests⟩

theorem rowsOf_append_inj {depth : Nat} : ∀ {ss ts : List Tree}
    {rest rest' : List (Nat × Option Kind × String)}, EndsAbove depth rest →
    EndsAbove depth rest' → rowsOf depth ss ++ rest = rowsOf depth ts ++ rest' →
    ss = ts ∧ rest = rest'
  | [], ts, rest, rest', hrest, _, h => by
    rw [rowsOf, List.nil_append] at h
    obtain rfl := eq_nil_of_endsAbove (h ▸ hrest)
    exact ⟨rfl, h⟩
  | ss, [], rest, rest', _, hrest', h => by
    rw [rowsOf, List.nil_append] at h
    obtain rfl := eq_nil_of_endsAbove (h ▸ hrest')
    exact ⟨rfl, h⟩
  | s :: ss, t :: ts, rest, rest', hrest, hrest', h => by
    simp only [rowsOf, List.append_assoc] at h
    obtain ⟨rfl, htail⟩ := rows_append_inj (endsAbove_rowsOf depth ss hrest)
      (endsAbove_rowsOf depth ts hrest') h
    obtain ⟨rfl, hrests⟩ := rowsOf_append_inj hrest hrest' htail
    exact ⟨rfl, hrests⟩

end

mutual

theorem map_snd_rows (depth : Nat) : ∀ tree : Tree,
    (rows depth tree).map Prod.snd = tree.nodes.map fun node => (node.kind, node.label)
  | ⟨_, _, children⟩ => by simp [rows, nodes, map_snd_rowsOf (depth + 1) children]

theorem map_snd_rowsOf (depth : Nat) : ∀ trees : List Tree,
    (rowsOf depth trees).map Prod.snd = (nodesAll trees).map fun node => (node.kind, node.label)
  | [] => rfl
  | tree :: trees => by
    simp [rowsOf, nodesAll, map_snd_rows depth tree, map_snd_rowsOf depth trees]

end

theorem LegibleAll.rows {tree : Tree} (h : tree.LegibleAll) (depth : Nat) :
    ∀ row ∈ tree.rows depth, Legible row.2.1 row.2.2 := by
  intro row hrow
  have hmem : row.2 ∈ (tree.rows depth).map Prod.snd := List.mem_map_of_mem hrow
  rw [map_snd_rows] at hmem
  obtain ⟨node, hnode, heq⟩ := List.mem_map.mp hmem
  rw [← heq]
  exact h node hnode

theorem indented_inj {s t : Tree} (hs : s.LegibleAll) (ht : t.LegibleAll) {depth : Nat}
    (h : s.indented depth = t.indented depth) : s = t := by
  rw [← String.toList_inj, indented_eq_lines, indented_eq_lines] at h
  have hrows : s.rows depth ++ [] = t.rows depth ++ [] := by
    rw [lines_inj (hs.rows depth) (ht.rows depth) h]
  exact (rows_append_inj (endsAbove_nil _) (endsAbove_nil _) hrows).1

-- A break that is not in quotes makes two lines of a label.
example : (token "a\n  b").pretty = (plain "a" [token "b"]).pretty := by decide

end Tree
end SqlFront
