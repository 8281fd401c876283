/-
  Output streams on files: opened to append or truncated, with a write position that can be moved.

  A stream that appends writes at the end whatever its position; another one writes at its position,
  and what lies between the end of the file and the position is filled with zeros. `write_atEnd`: a
  stream at the end of its file appends and stays at the end. `write_behind`: behind the end of an
  empty file zeros come first.

  Every operation succeeds.
-/
import Mathlib.Logic.Function.Basic

namespace FileStream

variable {κ : Type*} [DecidableEq κ]

abbrev Files (κ : Type*) := κ → Option (List UInt8)

/-- The bytes after a write at a position. -/
def overwrite (contents : List UInt8) (position : Nat) (data : List UInt8) : List UInt8 :=
  contents.take position ++ List.replicate (position - contents.length) 0 ++ data ++
    contents.drop (position + data.length)

structure Stream (κ : Type*) where
  path : κ
  appends : Bool
  position : Nat
  deriving DecidableEq

namespace Stream

/-- `open` with `std::ios::trunc` -/
def openTrunc (files : Files κ) (path : κ) : Stream κ × Files κ :=
  (⟨path, false, 0⟩, Function.update files path (some []))

/-- `open` with `std::ios::app`, of a file that exists -/
def openApp (path : κ) : Stream κ :=
  ⟨path, true, 0⟩

/-- `seekp` from the beginning -/
def seekp (st : Stream κ) (position : Nat) : Stream κ :=
  { st with position := position }

/-- Where the next write begins. -/
def start (st : Stream κ) (files : Files κ) : Nat :=
  if st.appends then ((files st.path).getD []).length else st.position

/-- `write` and `flush` -/
def write (st : Stream κ) (files : Files κ) (data : List UInt8) : Stream κ × Files κ :=
  (st.seekp (st.start files + data.length),
    Function.update files st.path
      (some (overwrite ((files st.path).getD []) (st.start files) data)))

/-- What is written comes behind everything else. -/
def AtEnd (st : Stream κ) (files : Files κ) : Prop :=
  ∃ contents, files st.path = some contents ∧
    (st.appends = true ∨ st.position = contents.length)

end Stream

/-! ## Writing at the end -/

theorem overwrite_length (contents data : List UInt8) :
    overwrite contents contents.length data = contents ++ data := by
  unfold overwrite
  rw [List.take_length, Nat.sub_self, List.drop_of_length_le (Nat.le_add_right ..)]
  simp

theorem overwrite_nil (position : Nat) (data : List UInt8) :
    overwrite [] position data = List.replicate position 0 ++ data := by
  simp [overwrite]

variable {st : Stream κ} {files : Files κ} {contents : List UInt8}

omit [DecidableEq κ] in
theorem start_of_atEnd (hfile : files st.path = some contents) (hend : st.AtEnd files) :
    st.start files = contents.length := by
  obtain ⟨contents', hfile', hposition⟩ := hend
  obtain rfl := Option.some.inj (hfile.symm.trans hfile')
  unfold Stream.start
  split
  · rw [hfile, Option.getD_some]
  · rename_i happends
    exact hposition.resolve_left happends

theorem write_atEnd (hfile : files st.path = some contents) (hend : st.AtEnd files)
    (data : List UInt8) :
    (st.write files data).2 = Function.update files st.path (some (contents ++ data)) := by
  unfold Stream.write
  rw [start_of_atEnd hfile hend, hfile, Option.getD_some, overwrite_length]

/-- A stream at the end stays there. -/
theorem atEnd_write (hfile : files st.path = some contents) (hend : st.AtEnd files)
    (data : List UInt8) : (st.write files data).1.AtEnd (st.write files data).2 := by
  refine ⟨contents ++ data, ?_, Or.inr ?_⟩
  · rw [write_atEnd hfile hend]
    exact Function.update_self ..
  · rw [List.length_append, ← start_of_atEnd hfile hend]
    rfl

/-- Behind the end of an empty file zeros come first. -/
theorem write_behind (path : κ) (files : Files κ) (position : Nat) (data : List UInt8) :
    (((Stream.openTrunc files path).1.seekp position).write (Stream.openTrunc files path).2
      data).2 = Function.update files path (some (List.replicate position 0 ++ data)) := by
  unfold Stream.write Stream.openTrunc Stream.seekp Stream.start
  dsimp only
  rw [Function.update_self, Option.getD_some, if_neg Bool.false_ne_true, overwrite_nil,
    Function.update_idem]

end FileStream
