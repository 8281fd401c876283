/-
  Rows in pages: a query for the rows behind a key, in the order of their keys and cut off at a
  limit, asked again from the last key it returned until nothing comes.

  `pages_perm`: rows with distinct keys come once each, whatever the limit. Rows that share a key
  come at least when they all fit on one page (`pages_of_le`); a limit may part them, and then
  those behind it are lost. `calls_iff_pages`: a call that makes an entry of each row of its page
  yields the entries of the rows.
-/
import DistributedIM.Lib.Outcome
import Mathlib.Data.List.Sort

namespace Paging

variable {α : Type*} (key : α → Nat)

/-- The order of the rows. -/
def Before (a b : α) : Prop :=
  key a ≤ key b

instance : DecidableRel (Before key) :=
  fun a b => inferInstanceAs (Decidable (key a ≤ key b))

instance : Std.Total (Before key) where
  total a b := Nat.le_total (key a) (key b)

instance : IsTrans α (Before key) where
  trans _ _ _ := Nat.le_trans

/-- All rows behind a key, in order. -/
def behind (rows : List α) (start : Nat) : List α :=
  (rows.filter fun a => start < key a).insertionSort (Before key)

/-- `WHERE key > start ORDER BY key LIMIT limit` -/
def page (rows : List α) (limit start : Nat) : List α :=
  (behind key rows start).take limit

@[simp] theorem page_nil (limit start : Nat) : page key [] limit start = [] :=
  List.take_nil

/-- What comes from `start` on, a page at a time. -/
inductive Pages (fetch : Nat → List α) : Nat → List α → Prop
  | last {start : Nat} (empty : fetch start = []) : Pages fetch start []
  | next {start : Nat} {a : α} {rest : List α} (cursor : (fetch start).getLast? = some a)
      (others : Pages fetch (key a) rest) : Pages fetch start (fetch start ++ rest)

section Rules

variable {key}

/-- Where nothing comes, nothing has come. -/
theorem Pages.eq_nil {fetch : Nat → List α} {start : Nat} {l : List α} (h : Pages key fetch start l)
    (hempty : fetch start = []) : l = [] := by
  cases h with
  | last => rfl
  | next hcursor => rw [hempty] at hcursor; cases hcursor

/-- Paging has one result. -/
theorem Pages.unique {fetch : Nat → List α} {start : Nat} {l l' : List α}
    (h : Pages key fetch start l) (h' : Pages key fetch start l') : l = l' := by
  induction h generalizing l' with
  | last hempty =>
    cases h' with
    | last => rfl
    | next hcursor => rw [hempty] at hcursor; cases hcursor
  | next hcursor _ ih =>
    cases h' with
    | last hempty => rw [hempty] at hcursor; cases hcursor
    | next hcursor' hothers =>
      obtain rfl := Option.some.inj (hcursor.symm.trans hcursor')
      rw [ih hothers]

theorem perm_behind (rows : List α) (start : Nat) :
    (behind key rows start).Perm (rows.filter fun a => start < key a) :=
  List.perm_insertionSort (Before key) _

theorem mem_behind {rows : List α} {start : Nat} {a : α} :
    a ∈ behind key rows start ↔ a ∈ rows ∧ start < key a := by
  simp [(perm_behind rows start).mem_iff]

theorem sorted_behind (rows : List α) (start : Nat) :
    (behind key rows start).Pairwise (Before key) :=
  List.pairwise_insertionSort (Before key) _

/-- Rows are the ones up to a row of the order, and the ones behind it, if keys are distinct. -/
theorem perm_behind_cursor {rows : List α} (hdistinct : (rows.map key).Nodup) {start : Nat}
    {front rest : List α} {a : α} (h : behind key rows start = front ++ a :: rest) :
    (behind key rows (key a)).Perm rest := by
  have hsorted : (behind key rows start).Pairwise (Before key) := sorted_behind rows start
  rw [h] at hsorted
  have hcursor : start < key a := by
    have hmem : a ∈ behind key rows start := by simp [h]
    exact (mem_behind.mp hmem).2
  have hkeys : ((front ++ a :: rest).map key).Nodup := by
    rw [← h]
    have hfilter : ((rows.filter fun b => start < key b).map key).Nodup :=
      hdistinct.sublist (List.Sublist.map key List.filter_sublist)
    exact ((perm_behind rows start).map key).nodup_iff.mpr hfilter
  -- the rows behind `a` among those behind `start`
  have hfilter : (rows.filter fun b => key a < key b) =
      (rows.filter fun b => start < key b).filter fun b => key a < key b := by
    rw [List.filter_filter]
    apply List.filter_congr
    intro b _
    have hiff : key a < key b ↔ key a < key b ∧ start < key b := by omega
    simpa using hiff
  have hfront : ∀ b ∈ front, ¬ key a < key b := by
    intro b hb
    have hle : key b ≤ key a :=
      (List.pairwise_append.mp hsorted).2.2 b hb a List.mem_cons_self
    omega
  have hrest : ∀ b ∈ rest, key a < key b := by
    intro b hb
    have hle : key a ≤ key b :=
      List.rel_of_pairwise_cons (List.pairwise_append.mp hsorted).2.1 hb
    rw [List.map_append, List.map_cons] at hkeys
    have hne : key a ≠ key b := by
      intro heq
      have htail := (List.nodup_cons.mp (List.nodup_append.mp hkeys).2.1).1
      exact htail (heq ▸ List.mem_map_of_mem hb)
    omega
  have hsplit : (front ++ a :: rest).filter (fun b => key a < key b) = rest := by
    rw [List.filter_append, List.filter_cons_of_neg (by simp),
      List.filter_eq_nil_iff.mpr (by simpa using hfront),
      List.filter_eq_self.mpr (by simpa using hrest), List.nil_append]
  rw [← hsplit, ← h]
  exact (perm_behind rows (key a)).trans
    (hfilter ▸ ((perm_behind rows start).filter _).symm)

/-- Rows with distinct keys come once each. -/
theorem pages_perm {rows : List α} (hdistinct : (rows.map key).Nodup) {limit : Nat}
    (hlimit : 0 < limit) (start : Nat) :
    ∃ l, Pages key (page key rows limit) start l ∧ l.Perm (rows.filter fun a => start < key a) := by
  induction hn : (behind key rows start).length using Nat.strongRecOn generalizing start with
  | ind n ih =>
    have hall : behind key rows start =
        page key rows limit start ++ (behind key rows start).drop limit :=
      (List.take_append_drop limit _).symm
    cases hcursor : (page key rows limit start).getLast? with
    | none =>
      have hempty : page key rows limit start = [] := List.getLast?_eq_none_iff.mp hcursor
      have hnone : behind key rows start = [] := by
        rcases List.take_eq_nil_iff.mp hempty with h | h
        · omega
        · exact h
      refine ⟨[], .last hempty, ?_⟩
      have hperm : (behind key rows start).Perm (rows.filter fun a => start < key a) :=
        perm_behind rows start
      rwa [hnone] at hperm
    | some a =>
      obtain ⟨front, hfront⟩ := List.getLast?_eq_some_iff.mp hcursor
      have hsplit : behind key rows start =
          front ++ a :: (behind key rows start).drop limit := by
        rw [hfront, List.append_assoc] at hall
        exact hall
      have hrest := perm_behind_cursor hdistinct hsplit
      have hlt : (behind key rows (key a)).length < n := by
        have hlength := congrArg List.length hsplit
        rw [List.length_append, List.length_cons] at hlength
        rw [hrest.length_eq]
        omega
      obtain ⟨l, hpages, hperm⟩ := ih _ hlt (key a) rfl
      refine ⟨_, .next hcursor hpages, ?_⟩
      have htail : l.Perm ((behind key rows start).drop limit) :=
        hperm.trans ((perm_behind rows (key a)).symm.trans hrest)
      refine (htail.append_left _).trans ?_
      rw [← hall]
      exact perm_behind rows start

/-- Rows that all fit on the first page come as they are. -/
theorem pages_of_le {rows : List α} {limit start : Nat}
    (hlimit : (behind key rows start).length ≤ limit) :
    Pages key (page key rows limit) start (behind key rows start) := by
  have hpage : page key rows limit start = behind key rows start := List.take_of_length_le hlimit
  cases hcursor : (page key rows limit start).getLast? with
  | none =>
    have hempty := List.getLast?_eq_none_iff.mp hcursor
    rw [← hpage, hempty]
    exact .last hempty
  | some a =>
    have hcursor' := hcursor
    rw [hpage] at hcursor'
    obtain ⟨front, hfront⟩ := List.getLast?_eq_some_iff.mp hcursor'
    have hnone : behind key rows (key a) = [] := by
      apply List.eq_nil_iff_forall_not_mem.mpr
      intro b hb
      obtain ⟨hrow, hlt⟩ := mem_behind.mp hb
      have ha : a ∈ behind key rows start := by simp [hfront]
      have hmem : b ∈ behind key rows start :=
        mem_behind.mpr ⟨hrow, Nat.lt_trans (mem_behind.mp ha).2 hlt⟩
      have hsorted : (behind key rows start).Pairwise (Before key) := sorted_behind rows start
      rw [hfront] at hmem hsorted
      rcases List.mem_append.mp hmem with hbefore | hlast
      · have hle : key b ≤ key a :=
          (List.pairwise_append.mp hsorted).2.2 b hbefore a (List.mem_singleton_self a)
        omega
      · rw [List.mem_singleton.mp hlast] at hlt
        omega
    have hend : page key rows limit (key a) = [] := by
      rw [page, hnone, List.take_nil]
    have hpages := Pages.next hcursor (Pages.last hend)
    rwa [List.append_nil, hpage] at hpages

end Rules

/-! ## Calls that make entries of the rows -/

section Entries

universe u v

variable {ε : Type u} {α β : Type v} {key : α → Nat}

/-- What the calls yield from `start` on, until one of them has nothing. -/
inductive Calls (key : α → Nat) (fetch : Nat → List α) (call : Nat → Except ε (Option (List β))) :
    Nat → List β → Prop
  | last {start : Nat} (nothing : call start = .ok none) : Calls key fetch call start []
  | next {start : Nat} {a : α} {entries rest : List β} (cursor : (fetch start).getLast? = some a)
      (page : call start = .ok (some entries)) (others : Calls key fetch call (key a) rest) :
      Calls key fetch call start (entries ++ rest)

/-- A call makes an entry of each row of its page. -/
def entered (entry : α → Except ε β) (rows : List α) : Except ε (Option (List β)) := do
  if rows.isEmpty then return none
  return some (← rows.mapM entry)

theorem entered_eq_none {entry : α → Except ε β} {rows : List α} :
    entered entry rows = .ok none ↔ rows = [] := by
  unfold entered
  split
  · rename_i hempty
    exact iff_of_true rfl (List.isEmpty_iff.mp hempty)
  · rename_i hsome
    constructor
    · intro h
      obtain ⟨_, _, h⟩ := Outcome.bind_eq_ok.mp h
      cases h
    · intro h
      exact absurd (List.isEmpty_iff.mpr h) hsome

theorem entered_eq_some {entry : α → Except ε β} {rows : List α} {entries : List β} :
    entered entry rows = .ok (some entries) ↔ rows ≠ [] ∧ rows.mapM entry = .ok entries := by
  unfold entered
  split
  · rename_i hempty
    constructor
    · intro h
      cases h
    · intro h
      exact absurd (List.isEmpty_iff.mp hempty) h.1
  · rename_i hsome
    rw [List.isEmpty_iff] at hsome
    rw [and_iff_right hsome]
    constructor
    · intro h
      obtain ⟨l, hl, h⟩ := Outcome.bind_eq_ok.mp h
      rw [hl, Option.some.inj (Except.ok.inj h)]
    · intro h
      rw [h]
      rfl

/-- Paging through the calls is paging through the rows and making an entry of each. -/
theorem calls_iff_pages {fetch : Nat → List α} {entry : α → Except ε β}
    {call : Nat → Except ε (Option (List β))} (hcall : ∀ n, call n = entered entry (fetch n))
    {start : Nat} {l : List β} :
    Calls key fetch call start l ↔
      ∃ rows, Pages key fetch start rows ∧ rows.mapM entry = .ok l := by
  constructor
  · intro h
    induction h with
    | last hnothing =>
      rw [hcall, entered_eq_none] at hnothing
      exact ⟨[], .last hnothing, rfl⟩
    | next hcursor hpage _ ih =>
      rw [hcall, entered_eq_some] at hpage
      obtain ⟨rows, hpages, hrows⟩ := ih
      exact ⟨_, .next hcursor hpages, Outcome.mapM_append_eq_ok.mpr ⟨_, _, hpage.2, hrows, rfl⟩⟩
  · rintro ⟨rows, hpages, hrows⟩
    induction hpages generalizing l with
    | last hempty =>
      obtain rfl := Except.ok.inj hrows
      exact .last ((hcall _).trans (entered_eq_none.mpr hempty))
    | next hcursor _ ih =>
      obtain ⟨entries, rest, hentries, hrest, rfl⟩ := Outcome.mapM_append_eq_ok.mp hrows
      refine .next hcursor ((hcall _).trans (entered_eq_some.mpr ⟨?_, hentries⟩)) (ih hrest)
      intro hempty
      rw [hempty] at hcursor
      cases hcursor

/-- What is said of the entries of all rows is said of what the calls yield. -/
theorem exists_calls_iff {fetch : Nat → List α} {entry : α → Except ε β}
    {call : Nat → Except ε (Option (List β))} (hcall : ∀ n, call n = entered entry (fetch n))
    {start : Nat} {P : List β → Prop} :
    (∃ rows l, Pages key fetch start rows ∧ rows.mapM entry = .ok l ∧ P l) ↔
      ∃ l, Calls key fetch call start l ∧ P l := by
  constructor
  · rintro ⟨rows, l, hpages, hl, hP⟩
    exact ⟨l, (calls_iff_pages hcall).mpr ⟨rows, hpages, hl⟩, hP⟩
  · rintro ⟨l, hcalls, hP⟩
    obtain ⟨rows, hpages, hl⟩ := (calls_iff_pages hcall).mp hcalls
    exact ⟨rows, l, hpages, hl, hP⟩

end Entries

end Paging
