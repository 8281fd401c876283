/-
  Calls that run interleaved over a shared state.

  A `Pool` is the shared state and the point each call has reached. `runProc` lets one call take
  its next atomic step, `spawn` starts a call. Invariants of such systems count the calls at some
  points; `count_spawn` and `count_set` say how a step changes a count.
-/
import Mathlib.Data.List.Count

/-- A shared state and the calls in progress. -/
structure Pool (σ π : Type*) where
  shared : σ
  procs : List π

namespace Pool

variable {σ π : Type*}

/-- Call `i` takes the step `advance` allows it. -/
def runProc (advance : σ → π → Option (σ × π)) (p : Pool σ π) (i : Nat) : Option (Pool σ π) :=
  match p.procs[i]? with
  | none => none
  | some pc => (advance p.shared pc).map fun r => { shared := r.1, procs := p.procs.set i r.2 }

/-- A new call that starts at `pc`. -/
def spawn (p : Pool σ π) (pc : π) : Pool σ π :=
  { p with procs := p.procs ++ [pc] }

/-- How many calls are at a point of the given kind. -/
def count (p : Pool σ π) (f : π → Bool) : Nat :=
  p.procs.countP f

theorem runProc_eq_some {advance : σ → π → Option (σ × π)} {p p' : Pool σ π} {i : Nat} :
    p.runProc advance i = some p' ↔ ∃ pc r, p.procs[i]? = some pc ∧
      advance p.shared pc = some r ∧ p' = { shared := r.1, procs := p.procs.set i r.2 } := by
  unfold runProc
  cases hpc : p.procs[i]? with
  | none => simp
  | some pc =>
    simp only [Option.map_eq_some_iff, Option.some.injEq]
    constructor
    · intro h
      obtain ⟨r, hr, heq⟩ := h
      exact ⟨pc, r, rfl, hr, heq.symm⟩
    · intro h
      obtain ⟨pc', r, rfl, hr, heq⟩ := h
      exact ⟨r, hr, heq.symm⟩

theorem count_spawn (p : Pool σ π) (pc : π) (f : π → Bool) :
    (p.spawn pc).count f = p.count f + (f pc).toNat := by
  cases h : f pc <;> simp [count, spawn, List.countP_append, h]

theorem count_set {p : Pool σ π} {i : Nat} {pc : π} (hpc : p.procs[i]? = some pc) (s : σ)
    (pc' : π) (f : π → Bool) :
    (Pool.mk s (p.procs.set i pc')).count f + (f pc).toNat = p.count f + (f pc').toNat := by
  obtain ⟨hi, rfl⟩ := List.getElem?_eq_some_iff.mp hpc
  have hpos : f p.procs[i] = true → 0 < p.procs.countP f := fun h =>
    List.countP_pos_iff.mpr ⟨_, List.getElem_mem hi, h⟩
  simp only [count, List.countP_set hi]
  cases h : f p.procs[i] with
  | false => cases f pc' <;> simp
  | true =>
    have hle := hpos h
    cases f pc' <;> simp only [Bool.toNat_true, Bool.toNat_false, if_true] <;> simp <;> omega

theorem one_le_count {p : Pool σ π} {i : Nat} {pc : π} (hpc : p.procs[i]? = some pc)
    {f : π → Bool} (hf : f pc = true) : 1 ≤ p.count f :=
  List.countP_pos_iff.mpr ⟨pc, List.mem_of_getElem? hpc, hf⟩

end Pool
