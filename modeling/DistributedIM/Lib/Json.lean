/-
  JSON values as a program reads them: an object is looked up by its keys, and a key it does not
  have reads as null, which is no text.

  The keys of a parsed object are distinct (of a repeated key the parser keeps the last value); a
  number is kept as it is written.

  `Same` compares values as JSON does: the order of the keys of an object does not count.
-/
import Mathlib.Data.List.Forall2

inductive Json
  | null
  | bool (b : Bool)
  | number (literal : String)
  | string (text : String)
  | array (items : List Json)
  | object (fields : List (String × Json))

namespace Json

abbrev Object := List (String × Json)

namespace Object

def contains (o : Object) (key : String) : Bool :=
  (o.lookup key).isSome

/-- `operator[]` -/
def get (o : Object) (key : String) : Json :=
  (o.lookup key).getD .null

/-- The object with a key added or replaced; keys are kept in order. -/
def insert : Object → String → Json → Object
  | [], key, value => [(key, value)]
  | (k, v) :: o, key, value =>
    if key = k then (key, value) :: o
    else if key < k then (key, value) :: (k, v) :: o
    else (k, v) :: insert o key value

theorem lookup_cons_ite (o : Object) (key : String) (value : Json) (k : String) :
    List.lookup k ((key, value) :: o) = if k = key then some value else o.lookup k := by
  by_cases hk : k = key
  · subst hk
    rw [List.lookup_cons_self, if_pos rfl]
  · rw [List.lookup_cons, beq_eq_false_iff_ne.mpr hk, if_neg hk]

theorem lookup_insert (o : Object) (key : String) (value : Json) (k : String) :
    (o.insert key value).lookup k = if k = key then some value else o.lookup k := by
  induction o with
  | nil => rw [insert, lookup_cons_ite]
  | cons p o ih =>
    obtain ⟨k', v'⟩ := p
    unfold insert
    split
    · rename_i heq
      rw [lookup_cons_ite, lookup_cons_ite, ← heq]
      split <;> rfl
    · rename_i hne
      split
      · rw [lookup_cons_ite]
      · rw [lookup_cons_ite, lookup_cons_ite, ih]
        by_cases hk : k = key
        · subst hk
          rw [if_neg hne, if_pos rfl, if_pos rfl]
        · rw [if_neg hk, if_neg hk]

@[simp] theorem get_insert (o : Object) (key : String) (value : Json) (k : String) :
    (o.insert key value).get k = if k = key then value else o.get k := by
  rw [get, lookup_insert]
  split <;> rfl

end Object

/-- `value_to<std::string>`; none when it throws. -/
def asText : Json → Option String
  | .string text => some text
  | _ => none

theorem Object.contains_of_text {o : Object} {key text : String}
    (h : (o.get key).asText = some text) : o.contains key = true := by
  unfold Object.contains
  unfold Object.get at h
  cases hlookup : o.lookup key with
  | none =>
    rw [hlookup] at h
    cases h
  | some value => rfl

/-- The text under a key, empty where there is none. -/
def Object.text (o : Object) (key : String) : String :=
  (o.get key).asText.getD ""

/-! ## Equality up to the order of keys -/

/-- The same value, whatever the order of the keys in its objects. -/
inductive Same : Json → Json → Prop
  | null : Same .null .null
  | bool (b : Bool) : Same (.bool b) (.bool b)
  | number (literal : String) : Same (.number literal) (.number literal)
  | string (text : String) : Same (.string text) (.string text)
  | array {xs ys : List Json} (items : List.Forall₂ Same xs ys) : Same (.array xs) (.array ys)
  | object {o o' : Object} (values : ∀ key, Option.Rel Same (o.lookup key) (o'.lookup key)) :
      Same (.object o) (.object o')

/-- Objects with the same keys, and with values that are the same. -/
theorem Same.object_of_keys {o o' : Object}
    (hkeys : ∀ key ∈ o'.map Prod.fst, key ∈ o.map Prod.fst)
    (hvalues : ∀ p ∈ o, ∃ v, o'.lookup p.1 = some v ∧ Same p.2 v) :
    Same (.object o) (.object o') := by
  refine .object fun key => ?_
  cases hkey : o.lookup key with
  | some v =>
    obtain ⟨l₁, l₂, rfl, -⟩ := List.lookup_eq_some_iff.mp hkey
    obtain ⟨v', hlookup, hsame⟩ := hvalues (key, v) (by simp)
    rw [hlookup]
    exact .some hsame
  | none =>
    have hnone : o'.lookup key = none := by
      rw [List.lookup_eq_none_iff]
      intro p hp
      rw [List.lookup_eq_none_iff] at hkey
      obtain ⟨q, hq, hfst⟩ := List.mem_map.mp (hkeys p.1 (List.mem_map_of_mem hp))
      exact hfst ▸ hkey q hq
    rw [hnone]
    exact .none

@[simp] theorem same_string {a b : String} : Same (.string a) (.string b) ↔ a = b := by
  constructor
  · intro h
    cases h
    rfl
  · rintro rfl
    exact .string a

@[simp] theorem same_number {a b : String} : Same (.number a) (.number b) ↔ a = b := by
  constructor
  · intro h
    cases h
    rfl
  · rintro rfl
    exact .number a

/-- Objects that are the same have the same under every key. -/
theorem Same.lookup {o o' : Object} (h : Same (.object o) (.object o')) (key : String) :
    Option.Rel Same (o.lookup key) (o'.lookup key) := by
  cases h with
  | object values => exact values key

theorem Same.items {xs ys : List Json} (h : Same (.array xs) (.array ys)) :
    List.Forall₂ Same xs ys := by
  cases h with
  | array items => exact items

end Json
