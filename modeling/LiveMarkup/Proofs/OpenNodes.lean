/-
Nodes that are still open.

Trees that grow at their end in document order are trees of which some nodes are open: the
innermost, the one around it, and so on.  `enclose` closes them.  What is added goes to the end
of the innermost open node, and as it comes last in document order the numbers of all nodes
before it stay what they are (`numbered_enclose`).
-/
import LiveMarkup.Proofs.Forest

namespace LiveMarkup

namespace Forest

variable {α β : Type}

/-- Open nodes, innermost first, each with the trees in it so far, closed around the trees `f`,
which come last in the innermost. -/
def enclose : List (α × Forest α) → Forest α → Forest α
  | [], f => f
  | (a, before) :: outer, f => enclose outer (tree a (before ++ f))

/-- How many nodes there are in open nodes, these included. -/
def extent : List (α × Forest α) → Nat
  | [] => 0
  | (_, before) :: outer => extent outer + 1 + before.size

/-- Open nodes with numbers for labels, from `next` on in document order. -/
def numberedOpen (next : Nat) : List (α × Forest α) → List (Nat × Forest Nat)
  | [] => []
  | (_, before) :: outer =>
    (next + extent outer, before.numbered (next + extent outer + 1)) :: numberedOpen next outer

theorem size_append (f g : Forest α) : (f ++ g).size = f.size + g.size := by
  rw [← length_labels, labels_append, List.length_append, length_labels, length_labels]

theorem numbered_append (f g : Forest α) (next : Nat) :
    (f ++ g).numbered next = f.numbered next ++ g.numbered (next + f.size) := by
  induction f generalizing next with
  | nil => rfl
  | node a kids rest _ ih =>
    have hnext : next + 1 + kids.size + rest.size = next + (node a kids rest).size := by
      simp only [size]
      omega
    rw [node_append, numbered, numbered, node_append, ih, hnext]

theorem getLast?_roots_concat (f : Forest α) (a : α) (kids : Forest α) :
    (f ++ tree a kids).roots.getLast? = some a := by
  rw [roots_append]
  exact List.getLast?_concat

theorem labels_enclose (stack : List (α × Forest α)) (f : Forest α) :
    (enclose stack f).labels = (enclose stack nil).labels ++ f.labels := by
  induction stack generalizing f with
  | nil => rfl
  | cons node outer ih =>
    obtain ⟨a, before⟩ := node
    rw [enclose, enclose, ih (tree a (before ++ f)), ih (tree a (before ++ nil))]
    simp [tree, labels]

theorem size_enclose (stack : List (α × Forest α)) (f : Forest α) :
    (enclose stack f).size = extent stack + f.size := by
  induction stack generalizing f with
  | nil => exact (Nat.zero_add _).symm
  | cons node outer ih =>
    obtain ⟨a, before⟩ := node
    rw [enclose, ih, extent]
    simp only [tree, size, size_append]
    omega

theorem map_enclose (m : α → β) (stack : List (α × Forest α)) (f : Forest α) :
    (enclose stack f).map m =
      enclose (stack.map fun node => (m node.1, node.2.map m)) (f.map m) := by
  induction stack generalizing f with
  | nil => rfl
  | cons node outer ih =>
    obtain ⟨a, before⟩ := node
    rw [enclose, ih, List.map_cons, enclose, ← map_append]
    rfl

/-- A node that was added is like one that was opened and has nothing in it. -/
theorem enclose_concat (a b : α) (before : Forest α) (outer : List (α × Forest α)) :
    enclose ((b, before ++ tree a nil) :: outer) nil =
      enclose ((a, nil) :: (b, before) :: outer) nil := by
  rw [enclose, enclose, enclose, append_empty, append_empty]

/-- **Numbers are handed out to open nodes in the order in which they were opened.** -/
theorem numbered_enclose (next : Nat) (stack : List (α × Forest α)) (f : Forest α) :
    (enclose stack f).numbered next =
      enclose (numberedOpen next stack) (f.numbered (next + extent stack)) := by
  induction stack generalizing f with
  | nil => rfl
  | cons node outer ih =>
    obtain ⟨a, before⟩ := node
    have hnext : next + extent outer + 1 + before.size = next + extent ((a, before) :: outer) := by
      rw [extent]
      omega
    rw [enclose, ih, numberedOpen, enclose]
    simp only [tree, numbered, numbered_append, hnext]

theorem mem_labels_enclose {b : α} {stack : List (α × Forest α)}
    (h : b ∈ (enclose stack nil).labels) : ∃ node ∈ stack, b = node.1 ∨ b ∈ node.2.labels := by
  induction stack with
  | nil => exact absurd h List.not_mem_nil
  | cons node outer ih =>
    rw [enclose, labels_enclose, List.mem_append] at h
    rcases h with h | h
    · obtain ⟨other, hother, hb⟩ := ih h
      exact ⟨other, List.mem_cons_of_mem _ hother, hb⟩
    · refine ⟨node, List.mem_cons_self, ?_⟩
      simpa [tree, labels] using h

variable [DecidableEq α] {a : α} {before : Forest α} {outer : List (α × Forest α)}

theorem graft_append_of_not_mem {f : Forest α} (h : a ∉ f.labels) (g new : Forest α) :
    (f ++ g).graft a new = f ++ g.graft a new := by
  induction f with
  | nil => rfl
  | node b kids rest _ ih =>
    simp only [labels, List.mem_cons, List.mem_append, not_or] at h
    have hb : b ≠ a := fun hc => h.1 hc.symm
    rw [node_append, graft_node_ne hb, graft_of_not_mem h.2.1, ih h.2.2, node_append]

/-- What is not among the open nodes is put below a node in the innermost. -/
theorem graft_enclose_of_not_mem (h : a ∉ (enclose outer nil).labels) (f new : Forest α) :
    (enclose outer f).graft a new = enclose outer (f.graft a new) := by
  induction outer generalizing f with
  | nil => rfl
  | cons node outer ih =>
    obtain ⟨b, before⟩ := node
    rw [enclose, labels_enclose, List.mem_append, not_or] at h
    obtain ⟨houter, hinner⟩ := h
    simp only [tree, labels, append_empty, List.append_nil, List.mem_cons, not_or] at hinner
    have hb : b ≠ a := fun hc => hinner.1 hc.symm
    rw [enclose, ih houter, tree, graft_node_ne hb, graft_append_of_not_mem hinner.2]
    rfl

/-- Trees that are put below the innermost open node come last in it. -/
theorem graft_enclose (h : a ∉ (enclose outer nil).labels) (new : Forest α) :
    (enclose ((a, before) :: outer) nil).graft a new =
      enclose ((a, before ++ new) :: outer) nil := by
  rw [enclose, enclose, graft_enclose_of_not_mem h, append_empty, append_empty, tree,
    graft_node_self]
  rfl

theorem below?_enclose_of_not_mem (h : a ∉ (enclose outer nil).labels) (f : Forest α) :
    (enclose outer f).below? a = f.below? a := by
  induction outer generalizing f with
  | nil => rfl
  | cons node outer ih =>
    obtain ⟨b, before⟩ := node
    rw [enclose, labels_enclose, List.mem_append, not_or] at h
    obtain ⟨houter, hinner⟩ := h
    simp only [tree, labels, append_empty, List.append_nil, List.mem_cons, not_or] at hinner
    have hb : b ≠ a := fun hc => hinner.1 hc.symm
    have hbefore := below?_eq_none_iff.2 hinner.2
    rw [enclose, ih houter, tree, below?_node_ne hb, below?_append, hbefore, Option.none_or]
    exact Option.or_none

theorem below?_enclose (h : a ∉ (enclose outer nil).labels) :
    (enclose ((a, before) :: outer) nil).below? a = some before := by
  rw [enclose, below?_enclose_of_not_mem h, append_empty]
  exact below?_node_self before nil

end Forest

end LiveMarkup
