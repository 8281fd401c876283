/-
  Lists of marks and single things, cut into the maximal runs of marks and the single things
  between them.

  `Splits` says what a cut is. A loop over the list gathers the run it is in and closes it when a
  single thing comes, or the end: `Open` is what such a loop has of the list so far, and
  `Open.extend`, `Open.single` and `Open.close` are its steps. What is gathered of a kind is what
  the list has of it (`Splits.singles`, `Splits.marks`).
-/
import Mathlib.Data.List.Chain

namespace Runs

variable {α β : Type*}

inductive Piece (α β : Type*)
  | run (marks : List α)
  | single (thing : β)
  deriving DecidableEq, Repr

namespace Piece

def items : Piece α β → List (α ⊕ β)
  | run marks => marks.map Sum.inl
  | single thing => [Sum.inr thing]

def isRun : Piece α β → Bool
  | run _ => true
  | single _ => false

def thing? : Piece α β → Option β
  | run _ => none
  | single thing => some thing

def marks : Piece α β → List α
  | run marks => marks
  | single _ => []

end Piece

/-- The pieces, one after the other, are the list; no run is empty and none can be made longer. -/
structure Splits (list : List (α ⊕ β)) (pieces : List (Piece α β)) : Prop where
  covers : pieces.flatMap Piece.items = list
  nonempty : .run [] ∉ pieces
  maximal : pieces.IsChain fun p q => p.isRun = false ∨ q.isRun = false

/-- The pieces and a last run that may go on are the list so far. -/
structure Open (list : List (α ⊕ β)) (pieces : List (Piece α β)) (last : List α) : Prop where
  covers : pieces.flatMap Piece.items ++ last.map Sum.inl = list
  nonempty : .run [] ∉ pieces
  maximal : pieces.IsChain fun p q => p.isRun = false ∨ q.isRun = false
  ends : ∀ p ∈ pieces.getLast?, p.isRun = false

/-- The pieces when the last run has ended. -/
def close (pieces : List (Piece α β)) (last : List α) : List (Piece α β) :=
  if last.isEmpty then pieces else pieces ++ [.run last]

theorem close_marks (pieces : List (Piece α β)) (last : List α) :
    (close pieces last).flatMap Piece.marks = pieces.flatMap Piece.marks ++ last := by
  unfold close
  split
  · rename_i hempty
    rw [List.isEmpty_iff.mp hempty, List.append_nil]
  · rw [List.flatMap_append]
    simp [Piece.marks]

section Steps

variable {list : List (α ⊕ β)} {pieces : List (Piece α β)} {last : List α}

theorem open_nil : Open ([] : List (α ⊕ β)) [] [] where
  covers := rfl
  nonempty := List.not_mem_nil
  maximal := List.IsChain.nil
  ends p hp := by
    cases hp

theorem Open.extend (h : Open list pieces last) (mark : α) :
    Open (list ++ [.inl mark]) pieces (last ++ [mark]) where
  covers := by
    rw [← h.covers, List.map_append, List.append_assoc]
    rfl
  nonempty := h.nonempty
  maximal := h.maximal
  ends := h.ends

theorem Open.close (h : Open list pieces last) : Splits list (Runs.close pieces last) := by
  unfold Runs.close
  split
  · rename_i hempty
    refine ⟨?_, h.nonempty, h.maximal⟩
    rw [← h.covers, List.isEmpty_iff.mp hempty, List.map_nil, List.append_nil]
  · rename_i hrun
    refine ⟨?_, ?_, ?_⟩
    · rw [← h.covers, List.flatMap_append]
      simp [Piece.items]
    · intro hmem
      rcases List.mem_append.mp hmem with hold | hlast
      · exact h.nonempty hold
      · rw [← Piece.run.inj (List.mem_singleton.mp hlast)] at hrun
        exact hrun rfl
    · rw [List.isChain_append]
      exact ⟨h.maximal, List.IsChain.singleton _, fun p hp _ _ => Or.inl (h.ends p hp)⟩

theorem Open.single (h : Open list pieces last) (thing : β) :
    Open (list ++ [.inr thing]) (Runs.close pieces last ++ [.single thing]) [] where
  covers := by
    rw [List.flatMap_append, h.close.covers, List.map_nil, List.append_nil]
    rfl
  nonempty := by
    intro hmem
    rcases List.mem_append.mp hmem with hold | hlast
    · exact h.close.nonempty hold
    · cases List.mem_singleton.mp hlast
  maximal := by
    rw [List.isChain_append]
    refine ⟨h.close.maximal, List.IsChain.singleton _, ?_⟩
    intro p _ q hq
    obtain rfl := Option.some.inj hq
    exact Or.inr rfl
  ends p hp := by
    rw [List.getLast?_concat] at hp
    obtain rfl := Option.some.inj hp
    rfl

end Steps

/-! ## What a cut keeps -/

section Kept

variable {list : List (α ⊕ β)} {pieces : List (Piece α β)}

theorem filterMap_items (p : Piece α β) :
    p.items.filterMap Sum.getRight? = p.thing?.toList := by
  cases p with
  | run marks => simp [Piece.items, Piece.thing?]
  | single thing => rfl

theorem filterMap_items' (p : Piece α β) : p.items.filterMap Sum.getLeft? = p.marks := by
  cases p with
  | run marks =>
    rw [Piece.items, List.filterMap_map]
    exact List.filterMap_some
  | single thing => rfl

/-- The single things of the pieces are those of the list, in its order. -/
theorem Splits.singles (h : Splits list pieces) :
    pieces.filterMap Piece.thing? = list.filterMap Sum.getRight? := by
  rw [← h.covers, List.filterMap_flatMap]
  simp only [filterMap_items]
  rw [← List.filterMap_eq_flatMap_toList]

/-- The marks of the runs are those of the list, in its order. -/
theorem Splits.marks (h : Splits list pieces) :
    pieces.flatMap Piece.marks = list.filterMap Sum.getLeft? := by
  rw [← h.covers, List.filterMap_flatMap]
  simp only [filterMap_items']

end Kept

end Runs
