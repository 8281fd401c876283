/-
  `getFriendRequestList` and `getAuthFriendList` of `UserAccountManager`, called page after page with
  one interval until nothing comes, while `addItem2List` adds to the list.

  The cursor is a place in the container. The requests are a vector, which grows at its end; the
  friends are a hash map, whose order may be another one after an insertion. The two functions
  compare the end of a page with the size in different ways and return the same (`getAuthFriendList_eq`).
  `showsAll_iff`: everyone is shown once exactly if no sum of cursor and interval wraps and, of the
  friends, none who has been shown stands where a later page is taken.

  An insertion into the hash map leaves its elements in some order, which the event brings along.
  A friend is given by the uuid.
-/
import DistributedIM.Lib.Trace
import Mathlib.Algebra.Group.Nat.Even
import Mathlib.Data.List.Nodup
import Mathlib.Data.List.Perm.Subperm

namespace DistributedIM.Client

namespace ListPaging

variable {α : Type}

/-! ## One page -/

/-- What a call returns, with the new value of `begin`. -/
inductive Page (α : Type)
  | nullopt
  | list (elements : List α) (next : Nat)
  /-- the end of the range lies before its beginning: the copy runs out of the container -/
  | invalidRange
  deriving DecidableEq, Repr

/-- The elements from place `first` to before place `last`. -/
def copy (container : List α) (first last : Nat) : Page α :=
  if first ≤ last then .list ((container.drop first).take (last - first)) last else .invalidRange

/-- `getFriendRequestList(begin, interval)` -/
def getFriendRequestList (container : List α) (start interval : Nat) : Page α :=
  if start ≥ container.length then .nullopt
  else if (start + interval) % 2 ^ 64 ≥ container.length then
    .list (container.drop start) container.length
  else copy container start ((start + interval) % 2 ^ 64)

/-- `getAuthFriendList(begin, interval)` -/
def getAuthFriendList (container : List α) (start interval : Nat) : Page α :=
  if start ≥ container.length then .nullopt
  else if (start + interval) % 2 ^ 64 > container.length then
    .list (container.drop start) container.length
  else copy container start ((start + interval) % 2 ^ 64)

/-- A page that ends with the container is the same whichever way its end is taken. -/
theorem getAuthFriendList_eq (container : List α) (start interval : Nat) :
    getAuthFriendList container start interval = getFriendRequestList container start interval := by
  unfold getAuthFriendList getFriendRequestList
  split
  · rfl
  · rename_i hstart
    rcases Nat.lt_trichotomy ((start + interval) % 2 ^ 64) container.length with hlt | heq | hgt
    · rw [if_neg (by omega), if_neg (by omega)]
    · rw [if_neg (by omega), if_pos (by omega), heq, copy, if_pos (by omega)]
      congr 1
      exact List.take_of_length_le (by simp)
    · rw [if_pos hgt, if_pos (by omega)]

/-- A page whose end does not wrap: the next elements, as far as there are any. -/
theorem getFriendRequestList_of_lt {container : List α} {start interval : Nat}
    (hstart : start < container.length) (hfits : start + interval < 2 ^ 64) :
    getFriendRequestList container start interval =
      .list ((container.drop start).take interval) (min (start + interval) container.length) := by
  unfold getFriendRequestList
  rw [if_neg (by omega), Nat.mod_eq_of_lt hfits]
  split
  · rename_i hend
    rw [Nat.min_eq_right hend, List.take_of_length_le (by rw [List.length_drop]; omega)]
  · rename_i hend
    rw [copy, if_pos (by omega), Nat.min_eq_left (by omega), Nat.add_sub_cancel_left]

/-- A page whose end wraps ends before it begins. -/
theorem getFriendRequestList_of_wraps {container : List α} {start interval : Nat}
    (hstart : start < container.length) (hwraps : 2 ^ 64 ≤ start + interval)
    (hinterval : interval < 2 ^ 64) :
    getFriendRequestList container start interval = .invalidRange := by
  have hlt : (start + interval) % 2 ^ 64 < start := by
    have hle : (start + interval) % 2 ^ 64 ≤ start + interval - 2 ^ 64 := by
      rw [Nat.mod_eq_sub_mod hwraps]
      exact Nat.mod_le _ _
    omega
  unfold getFriendRequestList
  rw [if_neg (by omega), if_neg (by omega), copy, if_neg (by omega)]

/-! ## Page after page -/

/-- `TargetList`. -/
inductive TargetList
  | friendList
  | requestList
  deriving DecidableEq, Repr

/-- An `interval` from 1 on. -/
structure Interval where
  value : Nat
  pos : 1 ≤ value
  /-- a `std::size_t` -/
  fits : value < 2 ^ 64

inductive Status
  | reading
  /-- `nullopt` was returned -/
  | done
  /-- behaviour that the language leaves undefined -/
  | undefined
  deriving DecidableEq, Repr

/-- The container in its order, and the calls so far. -/
structure Reading (α : Type) where
  container : List α
  start : Nat
  pages : List (List α)
  status : Status
  deriving DecidableEq, Repr

/-- Everything the pages have shown. -/
def Reading.shown (r : Reading α) : List α :=
  r.pages.flatten

/-- After a page, with `begin` moved on. -/
def Reading.turn (r : Reading α) (elements : List α) (next : Nat) : Reading α :=
  { r with start := next, pages := r.pages ++ [elements] }

theorem shown_turn (r : Reading α) (elements : List α) (next : Nat) :
    (r.turn elements next).shown = r.shown ++ elements := by
  simp [Reading.turn, Reading.shown]

def empty : Reading α where
  container := []
  start := 0
  pages := []
  status := .reading

inductive Event (α : Type)
  /-- `addItem2List`; `order` is the order of the hash map after an insertion -/
  | add (info : α) (order : List α)
  /-- the next page is asked for -/
  | get
  deriving DecidableEq, Repr

variable (kind : TargetList) (interval : Interval)

/-- `addItem2List(info)`; none: a hash map is not in this order after the insertion. -/
def addItem2List [DecidableEq α] (container : List α) (info : α) (order : List α) : Option (List α) :=
  match kind with
  | .requestList => some (container ++ [info])
  | .friendList =>
    if info ∈ container then some container
    else if order.Perm (info :: container) then some order else none

def getPage (r : Reading α) : Page α :=
  match kind with
  | .requestList => getFriendRequestList r.container r.start interval.value
  | .friendList => getAuthFriendList r.container r.start interval.value

def step [DecidableEq α] (r : Reading α) : Event α → Option (Reading α)
  | .add info order =>
    if r.status = .reading then
      (addItem2List kind r.container info order).map fun container =>
        { r with container := container }
    else none
  | .get =>
    if r.status = .reading then
      match getPage kind interval r with
      | .nullopt => some { r with status := .done }
      | .list elements next => some (r.turn elements next)
      | .invalidRange => some { r with status := .undefined }
    else none

/-! ## What the reading is for -/

/-- Everyone in the container is shown at most once, the calls come to an end, and then everyone
    has been shown. -/
structure ShowsAll (r : Reading α) : Prop where
  defined : r.status ≠ .undefined
  once : r.shown.Subperm r.container
  calls : r.pages.length ≤ r.container.length
  all : r.status = .done → r.shown.Perm r.container

/-- The end of the page does not wrap, and no friend who has been shown stands on it. -/
def Undisturbed (r : Reading α) : Event α → Prop
  | .add _ _ => True
  | .get => r.start < r.container.length →
      r.start + interval.value < 2 ^ 64 ∧ (kind = .friendList →
        ∀ x ∈ (r.container.drop r.start).take interval.value, x ∉ r.shown)

/-- The cursor counts what has been shown: of the requests the first ones, of the friends as many
    different ones. -/
structure Inv (r : Reading α) : Prop where
  defined : r.status ≠ .undefined
  counted : r.start = r.shown.length
  le : r.start ≤ r.container.length
  calls : r.pages.length ≤ r.shown.length
  all : r.status = .done → r.start = r.container.length
  requests : kind = .requestList → r.shown = r.container.take r.start
  friends : kind = .friendList → r.container.Nodup ∧ r.shown.Nodup ∧ r.shown ⊆ r.container

variable {kind interval}

theorem getPage_eq (r : Reading α) :
    getPage kind interval r = getFriendRequestList r.container r.start interval.value := by
  cases kind with
  | friendList => exact getAuthFriendList_eq ..
  | requestList => rfl

theorem showsAll_of_inv {r : Reading α} (h : Inv kind r) : ShowsAll r := by
  have honce : r.shown.Subperm r.container := by
    cases kind with
    | requestList =>
      rw [h.requests rfl]
      exact (List.take_sublist _ _).subperm
    | friendList =>
      obtain ⟨-, hnodup, hsubset⟩ := h.friends rfl
      exact hnodup.subperm hsubset
  refine ⟨h.defined, honce, Nat.le_trans h.calls honce.length_le, fun hdone => ?_⟩
  apply honce.perm_of_length_le
  rw [← h.counted, h.all hdone]

/-- A page behind the cursor. -/
theorem inv_page {r : Reading α} (h : Inv kind r) (hreading : r.status = .reading)
    (hstart : r.start < r.container.length)
    (hfriends : kind = .friendList →
      ∀ x ∈ (r.container.drop r.start).take interval.value, x ∉ r.shown) :
    Inv kind (r.turn ((r.container.drop r.start).take interval.value)
      (min (r.start + interval.value) r.container.length)) := by
  have hpos := interval.pos
  have hcounted := h.counted
  have hcalls := h.calls
  have hlength : ((r.container.drop r.start).take interval.value).length =
      min (r.start + interval.value) r.container.length - r.start := by
    rw [List.length_take, List.length_drop]
    omega
  have hmoved : r.start < min (r.start + interval.value) r.container.length := by omega
  refine ⟨h.defined, ?_, Nat.min_le_right _ _, ?_, ?_, fun hkind => ?_, fun hkind => ?_⟩
  · rw [shown_turn, List.length_append, hlength, ← hcounted]
    show min (r.start + interval.value) r.container.length = _
    omega
  · rw [shown_turn, List.length_append, hlength]
    show (r.pages ++ _).length ≤ _
    rw [List.length_append, List.length_singleton]
    omega
  · intro hdone
    exact absurd (hreading.symm.trans hdone) (by decide)
  · rw [shown_turn, h.requests hkind, ← List.take_add]
    exact List.take_eq_take_min
  · obtain ⟨hcontainer, hnodup, hsubset⟩ := h.friends hkind
    rw [shown_turn]
    refine ⟨hcontainer, List.Nodup.append hnodup ?_ ?_, List.append_subset.mpr ⟨hsubset, ?_⟩⟩
    · exact hcontainer.sublist ((List.take_sublist _ _).trans (List.drop_sublist _ _))
    · exact fun x hx hpage => hfriends hkind x hpage hx
    · exact fun x hx => List.mem_of_mem_drop (List.mem_of_mem_take hx)

theorem inv_empty : Inv kind (empty : Reading α) where
  defined := show Status.reading ≠ .undefined by decide
  counted := rfl
  le := Nat.le_refl 0
  calls := Nat.le_refl 0
  all _ := rfl
  requests _ := rfl
  friends _ := ⟨List.nodup_nil, List.nodup_nil, List.nil_subset _⟩

variable [DecidableEq α]

/-- An addition puts the new one into the container, and of the requests moves none. -/
theorem inv_add {r : Reading α} (h : Inv kind r) (hreading : r.status = .reading) {info : α}
    {order container : List α} (hadd : addItem2List kind r.container info order = some container) :
    Inv kind { r with container := container } := by
  have hall : r.status = .done → r.start = container.length := by
    intro hdone
    rw [hreading] at hdone
    cases hdone
  cases kind with
  | requestList =>
    obtain rfl := Option.some.inj hadd
    refine ⟨h.defined, h.counted, ?_, h.calls, hall, fun _ => ?_, ?_⟩
    · have hle := h.le
      simp only [List.length_append]
      omega
    · show r.shown = _
      rw [List.take_append_of_le_length h.le]
      exact h.requests rfl
    · exact fun hkind => absurd hkind (by decide)
  | friendList =>
    obtain ⟨hcontainer, hshown, hsubset⟩ := h.friends rfl
    simp only [addItem2List] at hadd
    split at hadd
    · obtain rfl := Option.some.inj hadd
      exact h
    · rename_i hnew
      split at hadd
      · rename_i hperm
        obtain rfl := Option.some.inj hadd
        have hlength := hperm.length_eq
        refine ⟨h.defined, h.counted, ?_, h.calls, hall, ?_, fun _ => ?_⟩
        · have hle := h.le
          simp only [List.length_cons] at hlength
          show r.start ≤ order.length
          omega
        · exact fun hkind => absurd hkind (by decide)
        · refine ⟨hperm.nodup_iff.mpr (List.nodup_cons.mpr ⟨hnew, hcontainer⟩), hshown, ?_⟩
          intro x hx
          exact hperm.mem_iff.mpr (List.mem_cons_of_mem _ (hsubset hx))
      · cases hadd

theorem inv_step {r r' : Reading α} {e : Event α} (h : Inv kind r)
    (hcalm : Undisturbed kind interval r e) (hstep : step kind interval r e = some r') :
    Inv kind r' := by
  cases e with
  | add info order =>
    simp only [step] at hstep
    split at hstep
    · rename_i hreading
      obtain ⟨container, hadd, rfl⟩ := Option.map_eq_some_iff.mp hstep
      exact inv_add h hreading hadd
    · cases hstep
  | get =>
    simp only [step, getPage_eq] at hstep
    split at hstep
    · rename_i hreading
      by_cases hstart : r.start < r.container.length
      · obtain ⟨hfits, hfriends⟩ := hcalm hstart
        rw [getFriendRequestList_of_lt hstart hfits] at hstep
        obtain rfl := Option.some.inj hstep
        exact inv_page h hreading hstart hfriends
      · rw [getFriendRequestList, if_pos (Nat.le_of_not_lt hstart)] at hstep
        obtain rfl := Option.some.inj hstep
        have hend := Nat.le_antisymm h.le (Nat.le_of_not_lt hstart)
        exact ⟨show Status.done ≠ .undefined by decide, h.counted, h.le, h.calls, fun _ => hend, h.requests, h.friends⟩
    · cases hstep

/-- Of a list without repetitions nothing can be shown twice. -/
theorem not_subperm_of_twice {container shown page : List α} (hnodup : container.Nodup) {x : α}
    (hshown : x ∈ shown) (hpage : x ∈ page) : ¬ (shown ++ page).Subperm container := by
  intro hsub
  have hle := hsub.count_le x
  have hone := List.nodup_iff_count_le_one.mp hnodup x
  have hold := List.count_pos_iff.mpr hshown
  have hnew := List.count_pos_iff.mpr hpage
  rw [List.count_append] at hle
  omega

/-- A page that wraps, or on which a friend stands again, spoils the list for good. -/
theorem not_showsAll_of_disturbed {r r' : Reading α} {e : Event α} (h : Inv kind r)
    (hcalm : ¬ Undisturbed kind interval r e) (hstep : step kind interval r e = some r') :
    ¬ ShowsAll r' := by
  cases e with
  | add info order => exact absurd trivial hcalm
  | get =>
    simp only [Undisturbed, Classical.not_imp] at hcalm
    obtain ⟨hstart, hcalm⟩ := hcalm
    simp only [step, getPage_eq] at hstep
    split at hstep
    · by_cases hfits : r.start + interval.value < 2 ^ 64
      · rw [getFriendRequestList_of_lt hstart hfits] at hstep
        obtain rfl := Option.some.inj hstep
        simp only [hfits, true_and, Classical.not_imp, not_forall, not_not] at hcalm
        obtain ⟨hkind, x, hpage, hshown⟩ := hcalm
        intro hshows
        have honce := hshows.once
        rw [shown_turn] at honce
        exact not_subperm_of_twice (h.friends hkind).1 hshown hpage honce
      · rw [getFriendRequestList_of_wraps hstart (Nat.le_of_not_lt hfits) interval.fits] at hstep
        obtain rfl := Option.some.inj hstep
        exact fun hshows => hshows.defined rfl
    · cases hstep

/-- Everyone is shown once, whatever is added between the calls, exactly if no end of a page wraps
    and no friend who has been shown stands on a later page. -/
theorem showsAll_iff (kind : TargetList) (interval : Interval) (es : List (Event α)) :
    Trace.Always (step kind interval) ShowsAll empty es ↔
      Trace.Meets (step kind interval) (Undisturbed kind interval) empty es := by
  apply Trace.always_iff_meets (Inv kind)
  · intro r h
    exact showsAll_of_inv h
  · intro r e r' h hcalm hstep
    exact inv_step h hcalm hstep
  · intro r e r' h hcalm hstep
    exact not_showsAll_of_disturbed h hcalm hstep
  · exact inv_empty

/-- Two friends in pages of one. A third comes first in the order that follows, so the first of the
    two is shown again. -/
theorem not_showsAll_rehashed :
    ¬ ∀ kind interval (es : List (Event String)),
      Trace.Always (step kind interval) ShowsAll empty es := by
  intro h
  have hshows := Trace.exec_of_always (h .friendList ⟨1, by decide, by decide⟩
    [.add "a" ["a"], .add "b" ["a", "b"], .get, .add "c" ["c", "a", "b"], .get]) rfl
  exact absurd (hshows.once.count_le "a") (by decide)

end ListPaging

end DistributedIM.Client
