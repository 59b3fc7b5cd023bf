/-
Which parts read which slot.

Slots are listed in ascending order, each with the positions of its parts in document
order, without repeats.  The table is made once, when the parts are found.
-/
import LiveMarkup.Part.Basic

namespace LiveMarkup

/-- For each slot, where the parts that read it stand. -/
structure Registry where
  entries : List (Nat × List Nat) := []
  deriving DecidableEq, Repr

namespace Registry

/-- Note that the part at `position` reads `slot`. -/
def registerIn (slot position : Nat) : List (Nat × List Nat) → List (Nat × List Nat)
  | [] => [(slot, [position])]
  | (other, positions) :: rest =>
    if slot < other then (slot, [position]) :: (other, positions) :: rest
    else if slot = other then
      (other, if positions.contains position then positions else positions ++ [position]) :: rest
    else (other, positions) :: registerIn slot position rest

/-- Note that the part at `position` reads `slot`. -/
def register (r : Registry) (slot position : Nat) : Registry :=
  ⟨registerIn slot position r.entries⟩

/-- The table of a list of parts. -/
def ofParts (parts : List Part) : Registry :=
  parts.zipIdx.foldl
    (fun r (part, position) => part.indices.foldl (fun r slot => r.register slot position) r) {}

/-- The slots that some part reads, in ascending order. -/
def slots (r : Registry) : List Nat := r.entries.map Prod.fst

/-- Where the parts that read `slot` stand. -/
def partsFor (r : Registry) (slot : Nat) : List Nat := (r.entries.lookup slot).getD []

/-- Whether no part reads any slot. -/
def isEmpty (r : Registry) : Bool := r.entries.isEmpty

/-- Whether the part at `position` reads one of `changed`. -/
def concerns (r : Registry) (changed : List Nat) (position : Nat) : Bool :=
  changed.any fun slot => (r.partsFor slot).contains position

end Registry

end LiveMarkup
