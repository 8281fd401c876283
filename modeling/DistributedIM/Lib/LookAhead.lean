/-
  Pages with a row to look ahead: a query for one row more than a page holds, and the extra row only
  says that there are others.

  `follow` asks from a cursor on, each time from where the last answer says, until an answer says
  nothing or nowhere. `follow_complete`: if the keys are distinct, the pages hold every row behind
  the cursor once and in order, and exactly the last of them says that it is the last.
-/
import DistributedIM.Lib.Paging

namespace LookAhead

open Paging

variable {α β π : Type*}

/-! ## The row that is dropped -/

/-- The rows a page keeps. -/
def kept (interval : Nat) (l : List α) : List α :=
  if interval < l.length then l.dropLast else l

theorem kept_take (interval : Nat) (l : List α) :
    kept interval (l.take (interval + 1)) = l.take interval := by
  unfold kept
  rw [List.length_take]
  split
  · rename_i hmore
    rw [List.dropLast_eq_take, List.length_take, List.take_take]
    congr 1
    omega
  · rename_i hall
    rw [List.take_of_length_le (by omega), List.take_of_length_le (by omega)]

theorem lt_length_take_iff {interval : Nat} {l : List α} :
    interval < (l.take (interval + 1)).length ↔ interval < l.length := by
  rw [List.length_take]
  omega

/-! ## Following the cursor -/

/-- A page, and where to go on. -/
structure Answer (π : Type*) where
  page : π
  next : Option Nat

/-- The pages from a cursor on; without fuel there is no result. -/
def follow (call : Nat → Option (Answer π)) : Nat → Nat → Option (List π)
  | 0, _ => none
  | fuel + 1, start =>
    match call start with
    | none => some []
    | some ⟨page, none⟩ => some [page]
    | some ⟨page, some next⟩ => (follow call fuel next).map (page :: ·)

theorem follow_of_none {call : Nat → Option (Answer π)} {start : Nat} (h : call start = none)
    (fuel : Nat) : follow call (fuel + 1) start = some [] := by
  rw [follow, h]

/-- Exactly the last page says so. -/
def LastOnly (isLast : π → Bool) (pages : List π) : Prop :=
  ∀ front page rest, pages = front ++ page :: rest → (isLast page = true ↔ rest = [])

theorem lastOnly_nil (isLast : π → Bool) : LastOnly isLast [] := by
  intro front page rest h
  simp at h

theorem lastOnly_singleton {isLast : π → Bool} {page : π} (h : isLast page = true) :
    LastOnly isLast [page] := by
  intro front page' rest hsplit
  cases front with
  | nil =>
    obtain ⟨rfl, rfl⟩ := List.cons.inj hsplit
    exact iff_of_true h rfl
  | cons first front => simp at hsplit

theorem LastOnly.cons {isLast : π → Bool} {page : π} {pages : List π}
    (hpages : LastOnly isLast pages) (hne : pages ≠ []) (h : isLast page = false) :
    LastOnly isLast (page :: pages) := by
  intro front page' rest hsplit
  cases front with
  | nil =>
    obtain ⟨rfl, rfl⟩ := List.cons.inj hsplit
    exact iff_of_false (by simp [h]) hne
  | cons first front => exact hpages front page' rest (List.cons.inj hsplit).2

/-! ## All rows -/

/-- Calls that answer with the rows behind the cursor: an entry for each row of a page, and the key
    of its last row. -/
structure Serves (key : α → Nat) (rows : List α) (interval : Nat)
    (call : Nat → Option (Answer π)) (items : π → List β) (entry : α → β) (isLast : π → Bool) :
    Prop where
  nothing : ∀ start, behind key rows start = [] → call start = none
  last : ∀ start, behind key rows start ≠ [] → (behind key rows start).length ≤ interval →
    ∃ page, call start = some ⟨page, none⟩ ∧
      items page = (behind key rows start).map entry ∧ isLast page = true
  more : ∀ start a, interval < (behind key rows start).length →
    ((behind key rows start).take interval).getLast? = some a →
    ∃ page, call start = some ⟨page, some (key a)⟩ ∧
      items page = ((behind key rows start).take interval).map entry ∧ isLast page = false

section Rules

variable {key : α → Nat} {rows : List α}

/-- Rows with distinct keys: behind a row of the order are those that follow it. -/
theorem behind_cursor (hdistinct : (rows.map key).Nodup) {start : Nat} {front rest : List α}
    {a : α} (h : behind key rows start = front ++ a :: rest) :
    behind key rows (key a) = rest := by
  have hsorted : (front ++ a :: rest).Pairwise (Before key) := h ▸ sorted_behind rows start
  have hrest : rest.Pairwise (Before key) :=
    (List.pairwise_cons.mp (List.pairwise_append.mp hsorted).2.1).2
  apply (perm_behind_cursor hdistinct h).eq_of_pairwise ?_ (sorted_behind rows (key a)) hrest
  intro b c hb hc hbc hcb
  have hcrow : c ∈ behind key rows start := by
    rw [h]
    exact List.mem_append_right _ (List.mem_cons_of_mem _ hc)
  exact List.inj_on_of_nodup_map hdistinct (mem_behind.mp hb).1 (mem_behind.mp hcrow).1
    (Nat.le_antisymm hbc hcb)

theorem strict_behind (hdistinct : (rows.map key).Nodup) (start : Nat) :
    (behind key rows start).Pairwise fun a b => key a < key b := by
  have hkeys : ((behind key rows start).map key).Nodup :=
    ((perm_behind rows start).map key).nodup_iff.mpr
      (hdistinct.sublist (List.Sublist.map key List.filter_sublist))
  have hne : (behind key rows start).Pairwise fun a b => key a ≠ key b :=
    List.pairwise_map.mp hkeys
  exact (sorted_behind rows start).imp₂ (fun a b hle hne => Nat.lt_of_le_of_ne hle hne) hne

variable {interval : Nat} {call : Nat → Option (Answer π)} {items : π → List β} {entry : α → β}
  {isLast : π → Bool}

/-- Every row behind the cursor once, in order, and an end. -/
theorem follow_complete (hdistinct : (rows.map key).Nodup) (hinterval : 0 < interval)
    (hserves : Serves key rows interval call items entry isLast) (start : Nat) :
    ∃ fuel pages, follow call fuel start = some pages ∧
      pages.flatMap items = (behind key rows start).map entry ∧ LastOnly isLast pages := by
  induction hn : (behind key rows start).length using Nat.strongRecOn generalizing start with
  | ind n ih =>
    by_cases hempty : behind key rows start = []
    · refine ⟨1, [], follow_of_none (hserves.nothing start hempty) 0, ?_, lastOnly_nil isLast⟩
      rw [hempty]
      rfl
    by_cases hlast : (behind key rows start).length ≤ interval
    · obtain ⟨page, hcall, hitems, hflag⟩ := hserves.last start hempty hlast
      refine ⟨1, [page], ?_, ?_, lastOnly_singleton hflag⟩
      · rw [follow, hcall]
      · rw [List.flatMap_singleton, hitems]
    · have hmore : interval < (behind key rows start).length := Nat.lt_of_not_le hlast
      have hne : (behind key rows start).take interval ≠ [] := by
        rw [← List.length_pos_iff, List.length_take]
        omega
      have hcursor := List.getLast?_eq_getLast_of_ne_nil hne
      obtain ⟨front, hfront⟩ := List.getLast?_eq_some_iff.mp hcursor
      generalize ((behind key rows start).take interval).getLast hne = a at hcursor hfront
      obtain ⟨page, hcall, hitems, hflag⟩ := hserves.more start a hmore hcursor
      have hrest : behind key rows (key a) = (behind key rows start).drop interval := by
        have hsplit : behind key rows start =
            front ++ a :: (behind key rows start).drop interval := by
          calc behind key rows start
              = (behind key rows start).take interval ++ (behind key rows start).drop interval :=
                (List.take_append_drop interval _).symm
            _ = front ++ a :: (behind key rows start).drop interval := by
                rw [hfront, List.append_assoc]
                rfl
        exact behind_cursor hdistinct hsplit
      have hlt : (behind key rows (key a)).length < n := by
        rw [hrest, List.length_drop]
        omega
      obtain ⟨fuel, pages, hpages, hall, honly⟩ := ih _ hlt (key a) rfl
      have hpages_ne : pages ≠ [] := by
        intro hnil
        rw [hnil, List.flatMap_nil, hrest] at hall
        have hlength := congrArg List.length hall
        rw [List.length_map, List.length_drop, List.length_nil] at hlength
        omega
      refine ⟨fuel + 1, page :: pages, ?_, ?_, honly.cons hpages_ne hflag⟩
      · rw [follow, hcall]
        dsimp only
        rw [hpages]
        rfl
      · rw [List.flatMap_cons, hitems, hall, hrest, ← List.map_append, List.take_append_drop]

end Rules

end LookAhead
