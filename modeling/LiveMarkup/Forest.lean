/-
Forests: ordered trees side by side, with a label on every node.

A forest is empty, or a first tree with its label and its children, followed by the
trees beside it.  Children and siblings are forests again, so everything here is one
recursion with two calls, and no walk over a tree ever needs a bound.

Labels are meant to be distinct.  The operations that look for a label take the first
one in document order, and the ones that change the forest keep all labels distinct.
-/

namespace LiveMarkup

/-- Ordered labelled trees side by side. -/
inductive Forest (α : Type) where
  | nil
  | node (label : α) (children rest : Forest α)
  deriving DecidableEq, Repr, Inhabited

namespace Forest

variable {α β : Type}

instance : EmptyCollection (Forest α) := ⟨nil⟩

/-- A tree with a root and the children `children`. -/
def tree (label : α) (children : Forest α) : Forest α := node label children nil

/-- The trees of one forest followed by those of another. -/
def append : Forest α → Forest α → Forest α
  | nil, g => g
  | node a kids rest, g => node a kids (append rest g)

instance : Append (Forest α) := ⟨append⟩

/-- A forest with other labels. -/
def map (f : α → β) : Forest α → Forest β
  | nil => nil
  | node a kids rest => node (f a) (map f kids) (map f rest)

/-- The labels of the roots, in order. -/
def roots : Forest α → List α
  | nil => []
  | node a _ rest => a :: roots rest

/-- All labels in document order: a node, then what is below it, then what follows. -/
def labels : Forest α → List α
  | nil => []
  | node a kids rest => a :: (labels kids ++ labels rest)

/-- All labels, a node after what is below it. -/
def labelsUp : Forest α → List α
  | nil => []
  | node a kids rest => labelsUp kids ++ a :: labelsUp rest

/-- All labels in document order, each with its depth below the roots. -/
def labelsWithDepth (depth : Nat) : Forest α → List (Nat × α)
  | nil => []
  | node a kids rest =>
    (depth, a) :: (labelsWithDepth (depth + 1) kids ++ labelsWithDepth depth rest)

/-- The number of nodes. -/
def size : Forest α → Nat
  | nil => 0
  | node _ kids rest => 1 + size kids + size rest

/-- The forest with its nodes numbered from `next` on, in document order. -/
def numbered (next : Nat) : Forest α → Forest Nat
  | nil => nil
  | node _ kids rest =>
    node next (numbered (next + 1) kids) (numbered (next + 1 + kids.size) rest)

/-! ### Document order -/

@[simp] theorem append_nil (f : Forest α) : append f nil = f := by
  induction f with
  | nil => rfl
  | node a kids rest _ ih => simp [append, ih]

@[simp] theorem roots_append (f g : Forest α) : (f ++ g).roots = f.roots ++ g.roots := by
  induction f with
  | nil => rfl
  | node a kids rest _ ih => exact congrArg (a :: ·) ih

@[simp] theorem labels_append (f g : Forest α) : (f ++ g).labels = f.labels ++ g.labels := by
  induction f with
  | nil => rfl
  | node a kids rest _ ih =>
    show a :: (labels kids ++ labels (rest ++ g)) = _
    rw [ih]
    simp [labels]

@[simp] theorem labels_map (f : α → β) (g : Forest α) : (g.map f).labels = g.labels.map f := by
  induction g with
  | nil => rfl
  | node a kids rest ihKids ihRest => simp [map, labels, ihKids, ihRest]

/-- Every node has one label. -/
@[simp] theorem length_labels (f : Forest α) : f.labels.length = f.size := by
  induction f with
  | nil => rfl
  | node a kids rest ihKids ihRest => simp [labels, size, ihKids, ihRest]; omega

/-- Upwards or downwards, the labels are the same. -/
theorem mem_labelsUp (a : α) (f : Forest α) : a ∈ f.labelsUp ↔ a ∈ f.labels := by
  induction f with
  | nil => rfl
  | node b kids rest ihKids ihRest =>
    simp only [labelsUp, labels, List.mem_append, List.mem_cons, ihKids, ihRest]
    constructor
    · rintro (h | h | h)
      · exact Or.inr (Or.inl h)
      · exact Or.inl h
      · exact Or.inr (Or.inr h)
    · rintro (h | h | h)
      · exact Or.inr (Or.inl h)
      · exact Or.inl h
      · exact Or.inr (Or.inr h)

/-- With their depths or without, the labels come in the same order. -/
theorem map_snd_labelsWithDepth (f : Forest α) (depth : Nat) :
    (f.labelsWithDepth depth).map Prod.snd = f.labels := by
  induction f generalizing depth with
  | nil => rfl
  | node a kids rest ihKids ihRest => simp [labelsWithDepth, labels, ihKids, ihRest]

@[simp] theorem size_numbered (f : Forest α) (next : Nat) : (f.numbered next).size = f.size := by
  induction f generalizing next with
  | nil => rfl
  | node a kids rest ihKids ihRest => simp [numbered, size, ihKids, ihRest]

/-- Numbers are handed out in document order, without a gap. -/
theorem labels_numbered (f : Forest α) (next : Nat) :
    (f.numbered next).labels = List.range' next f.size := by
  induction f generalizing next with
  | nil => rfl
  | node a kids rest ihKids ihRest =>
    have hsize : size (node a kids rest) = (kids.size + rest.size) + 1 := by
      simp only [size]; omega
    rw [hsize, List.range'_succ, ← List.range'_append_1]
    simp only [numbered, labels, ihKids, ihRest]

variable [DecidableEq α]

/-! ### Finding and moving nodes -/

/-- What is below the node labelled `a`. -/
def below? (a : α) : Forest α → Option (Forest α)
  | nil => none
  | node b kids rest => if b = a then some kids else (below? a kids).or (below? a rest)

/-- The node labelled `a` and the nodes above it, from the node up to its root. -/
def trail? (a : α) : Forest α → Option (List α)
  | nil => none
  | node b kids rest =>
    if b = a then some [b] else ((trail? a kids).map (· ++ [b])).or (trail? a rest)

/-- The labels after `a` in document order, up to the end of the tree that has it. -/
def following (f : Forest α) (a : α) : List α :=
  match f with
  | nil => []
  | node b kids rest =>
    let tree := b :: labels kids
    if a ∈ tree then (tree.dropWhile (· ≠ a)).drop 1 else following rest a

/-- Take out the node labelled `a` with all that is below it. -/
def prune (a : α) : Forest α → Forest α
  | nil => nil
  | node b kids rest => if b = a then rest else node b (prune a kids) (prune a rest)

/-- Put the trees of `new` after the children of the node labelled `a`. -/
def graft (f : Forest α) (a : α) (new : Forest α) : Forest α :=
  match f with
  | nil => nil
  | node b kids rest =>
    if b = a then node b (kids ++ new) rest else node b (graft kids a new) (graft rest a new)

/-- Make the node labelled `a`, with all that is below it, a tree of its own at the end. -/
def detach (a : α) (f : Forest α) : Forest α :=
  match f.below? a with
  | none => f
  | some kids => f.prune a ++ tree a kids

/-- A node is found exactly when its label occurs. -/
theorem isSome_below? (a : α) (f : Forest α) : (f.below? a).isSome = true ↔ a ∈ f.labels := by
  induction f with
  | nil => simp [below?, labels]
  | node b kids rest ihKids ihRest =>
    by_cases hb : b = a
    · simp [below?, labels, hb]
    · have hne : ¬ a = b := fun h => hb h.symm
      simp [below?, labels, hb, hne, ← ihKids, ← ihRest]

/-- What is below a node is part of the forest. -/
theorem mem_labels_of_below? {a b : α} {f kids : Forest α} (h : f.below? a = some kids)
    (hb : b ∈ kids.labels) : b ∈ f.labels := by
  induction f with
  | nil => simp [below?] at h
  | node c inner rest ihInner ihRest =>
    by_cases hc : c = a
    · simp only [below?, hc, if_true, Option.some.injEq] at h
      simp [labels, h, hb]
    · simp only [below?, hc, if_false, Option.or_eq_some_iff] at h
      rcases h with h | ⟨_, h⟩
      · simp [labels, ihInner h]
      · simp [labels, ihRest h]

/-- A node that is not there cannot be taken out. -/
theorem prune_of_not_mem {a : α} {f : Forest α} (h : a ∉ f.labels) : f.prune a = f := by
  induction f with
  | nil => rfl
  | node b kids rest ihKids ihRest =>
    simp only [labels, List.mem_cons, List.mem_append, not_or] at h
    have hb : ¬ b = a := fun hb => h.1 hb.symm
    simp [prune, hb, ihKids h.2.1, ihRest h.2.2]

end Forest

end LiveMarkup
