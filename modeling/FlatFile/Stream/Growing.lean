/-
  FlatFile/Stream/Growing.lean
  ============================
  **A sequence that grows at its end.**

  Text gathered from a document and bytes taken by a sink come piece by piece.
  They are held last element first, so that adding a piece costs no more than the
  piece is long, and two sequences of the same elements are equal however they
  came about.
-/

namespace FlatFile

/-- A sequence, held last element first. -/
structure Growing (α : Type) where
  reversed : List α := []
deriving DecidableEq, Repr

namespace Growing

variable {α : Type}

def empty : Growing α := {}

def toList (sequence : Growing α) : List α := sequence.reversed.reverse

/-- The sequence with a piece at its end. -/
def add (sequence : Growing α) (piece : List α) : Growing α :=
  ⟨piece.reverseAux sequence.reversed⟩

@[simp] theorem toList_empty : (empty : Growing α).toList = [] := rfl

@[simp] theorem toList_add (sequence : Growing α) (piece : List α) :
    (sequence.add piece).toList = sequence.toList ++ piece := by
  simp [toList, add, List.reverseAux_eq]

end Growing

end FlatFile
