/-
  Text operations of the Qt and the C++ string types, on Lean strings: white space as
  `QChar::isSpace` has it (the Unicode separators and the ASCII and Latin-1 controls of that kind)
  and `trimmed`; decimal numbers read as `std::stoi` and as `std::from_chars` read them. Both give
  back a number that was printed, as long as it fits.
-/
import Mathlib.Algebra.Group.Int.Defs
import Mathlib.Algebra.Group.Nat.Even
import Mathlib.Data.List.DropRight
import Mathlib.Data.Option.Basic

namespace Text

/-- `QChar::isSpace`. -/
def isSpace (c : Char) : Bool :=
  let n := c.toNat
  n == 0x20 || (0x09 ≤ n && n ≤ 0x0D) || n == 0x85 || n == 0xA0 || n == 0x1680 ||
    (0x2000 ≤ n && n ≤ 0x200A) || n == 0x2028 || n == 0x2029 || n == 0x202F || n == 0x205F ||
    n == 0x3000

/-- `QString::trimmed`: no white space at either end. -/
def trimmed (s : String) : String :=
  String.ofList ((s.toList.dropWhile isSpace).reverse.dropWhile isSpace).reverse

theorem dropWhile_eq_self {p : Char → Bool} {l : List Char} (h : ∀ c ∈ l, p c = false) :
    l.dropWhile p = l := by
  cases l with
  | nil => rfl
  | cons c l => rw [List.dropWhile_cons_of_neg (by simp [h c])]

/-- Text without white space is trimmed already. -/
theorem trimmed_eq_self {s : String} (h : ∀ c ∈ s.toList, isSpace c = false) : trimmed s = s := by
  rw [trimmed, dropWhile_eq_self h, dropWhile_eq_self (by simpa using h), List.reverse_reverse,
    String.ofList_toList]

theorem trimmed_eq (s : String) :
    trimmed s = String.ofList ((s.toList.dropWhile isSpace).rdropWhile isSpace) := rfl

/-- Once the start is dropped, there is nothing left to drop from a prefix. -/
theorem dropWhile_of_prefix {p : Char → Bool} {l l' : List Char} (h : l' <+: l.dropWhile p) :
    l'.dropWhile p = l' := by
  rw [List.dropWhile_eq_self_iff]
  intro hpos hp
  have hlength : 0 < (l.dropWhile p).length := Nat.lt_of_lt_of_le hpos h.length_le
  have hhead := List.dropWhile_get_zero_not p l hlength
  rw [List.get_eq_getElem, ← h.getElem hpos] at hhead
  exact hhead hp

/-- Trimming a text that is trimmed changes nothing. -/
theorem trimmed_trimmed (s : String) : trimmed (trimmed s) = trimmed s := by
  rw [trimmed_eq (trimmed s), trimmed_eq s, String.toList_ofList,
    dropWhile_of_prefix (List.rdropWhile_prefix isSpace _), List.rdropWhile_idempotent]

/-! ## Decimal numbers -/

theorem isDigit_of_mem_repr {n : Nat} {c : Char} (h : c ∈ n.repr.toList) : c.isDigit = true := by
  rw [Nat.toList_repr] at h
  exact Nat.isDigit_of_mem_toDigits (by decide) (by decide) h

theorem repr_ne_empty (n : Nat) : n.repr ≠ "" := by
  intro h
  have hlist := congrArg String.toList h
  rw [Nat.toList_repr] at hlist
  exact Nat.toDigits_ne_nil hlist

/-- A decimal number has no white space in it. -/
theorem trimmed_repr (n : Nat) : trimmed n.repr = n.repr := by
  apply trimmed_eq_self
  intro c hc
  have hrange : 48 ≤ c.toNat ∧ c.toNat ≤ 57 := by
    simpa [Char.isDigit, UInt32.le_iff_toNat_le] using isDigit_of_mem_repr hc
  simp only [isSpace, Bool.or_eq_false_iff, Bool.and_eq_false_iff, beq_eq_false_iff_ne,
    decide_eq_false_iff_not]
  omega

/-! ## Reading decimal numbers -/

/-- The number the leading digits stand for. -/
def leadingDigits (cs : List Char) : Option Nat :=
  match cs.takeWhile Char.isDigit with
  | [] => none
  | digits => some (Nat.ofDigitChars 10 digits 0)

/-- `std::isspace`. -/
def isCSpace (c : Char) : Bool :=
  c.toNat == 0x20 || (0x09 ≤ c.toNat && c.toNat ≤ 0x0D)

/-- What follows the sign, with the sign's effect. -/
def signed : List Char → Option Int
  | '-' :: cs => (leadingDigits cs).map fun (n : Nat) => -(n : Int)
  | '+' :: cs => (leadingDigits cs).map fun (n : Nat) => (n : Int)
  | cs => (leadingDigits cs).map fun (n : Nat) => (n : Int)

/-- `std::stoi`: white space, a sign, digits, and a rest that is ignored; none when it throws. -/
def stoi (s : String) : Option Int :=
  (signed (s.toList.dropWhile isCSpace)).filter fun i => -2 ^ 31 ≤ i ∧ i < 2 ^ 31

/-- `std::from_chars` for a 64-bit unsigned number that takes the whole text. -/
def readUInt64 (s : String) : Option Nat :=
  if s.toList.all Char.isDigit then (leadingDigits s.toList).filter fun n => n < 2 ^ 64 else none

theorem toDigits_all_isDigit (n : Nat) : ∀ c ∈ Nat.toDigits 10 n, c.isDigit = true :=
  fun _ h => Nat.isDigit_of_mem_toDigits (by decide) (by decide) h

theorem leadingDigits_toDigits (n : Nat) : leadingDigits (Nat.toDigits 10 n) = some n := by
  have htake : (Nat.toDigits 10 n).takeWhile Char.isDigit = Nat.toDigits 10 n :=
    List.takeWhile_eq_self_iff.mpr (toDigits_all_isDigit n)
  unfold leadingDigits
  rw [htake]
  split
  · rename_i hnil
    exact absurd hnil Nat.toDigits_ne_nil
  · rw [Nat.ofDigitChars_ten_toDigits]

/-- Different numbers are printed differently. -/
theorem repr_injective : Function.Injective Nat.repr := by
  intro n m h
  have hdigits : Nat.toDigits 10 n = Nat.toDigits 10 m := by
    rw [← Nat.toList_repr, ← Nat.toList_repr, h]
  have hread := leadingDigits_toDigits n
  rw [hdigits, leadingDigits_toDigits] at hread
  exact (Option.some.inj hread).symm

theorem signed_of_isDigit {c : Char} {cs : List Char} (hc : c.isDigit = true) :
    signed (c :: cs) = (leadingDigits (c :: cs)).map fun (n : Nat) => (n : Int) := by
  unfold signed
  split
  · rename_i heq
    obtain ⟨rfl, -⟩ := List.cons.inj heq
    cases hc
  · rename_i heq
    obtain ⟨rfl, -⟩ := List.cons.inj heq
    cases hc
  · rfl

theorem not_isCSpace_of_isDigit {c : Char} (hc : c.isDigit = true) : isCSpace c = false := by
  have hrange : 48 ≤ c.toNat ∧ c.toNat ≤ 57 := by
    simpa [Char.isDigit, UInt32.le_iff_toNat_le] using hc
  simp only [isCSpace, Bool.or_eq_false_iff, Bool.and_eq_false_iff, beq_eq_false_iff_ne,
    decide_eq_false_iff_not]
  omega

theorem signed_repr (n : Nat) : signed (n.repr.toList.dropWhile isCSpace) = some (n : Int) := by
  have hne : Nat.toDigits 10 n ≠ [] := Nat.toDigits_ne_nil
  obtain ⟨c, cs, hcs⟩ := List.exists_cons_of_ne_nil hne
  have hc : c.isDigit = true := toDigits_all_isDigit n c (hcs ▸ List.mem_cons_self)
  rw [Nat.toList_repr, hcs, List.dropWhile_cons_of_neg (by simp [not_isCSpace_of_isDigit hc]),
    signed_of_isDigit hc, ← hcs, leadingDigits_toDigits, Option.map_some]

theorem stoi_repr {n : Nat} (h : n < 2 ^ 31) : stoi n.repr = some (n : Int) := by
  have hfits : (-2 ^ 31 : Int) ≤ (n : Int) ∧ (n : Int) < 2 ^ 31 := by omega
  unfold stoi
  rw [signed_repr, Option.filter_some, if_pos (by simpa using hfits)]

theorem stoi_repr_eq_none {n : Nat} (h : 2 ^ 31 ≤ n) : stoi n.repr = none := by
  have hlarge : ¬((-2 ^ 31 : Int) ≤ (n : Int) ∧ (n : Int) < 2 ^ 31) := by omega
  unfold stoi
  rw [signed_repr, Option.filter_some, if_neg (by simpa using hlarge)]

/-- A text that both read is the same number to both. -/
theorem stoi_eq_of_readUInt64 {s : String} {n : Nat} {i : Int} (hn : readUInt64 s = some n)
    (hi : stoi s = some i) : i = n := by
  unfold readUInt64 at hn
  split at hn
  · rename_i hdigits
    obtain ⟨hleading, -⟩ := Option.filter_eq_some_iff.mp hn
    obtain ⟨hsigned, -⟩ := Option.filter_eq_some_iff.mp hi
    cases htext : s.toList with
    | nil =>
      rw [htext] at hleading
      cases hleading
    | cons c cs =>
      have hc : c.isDigit = true := by
        rw [htext] at hdigits
        exact List.all_eq_true.mp hdigits c List.mem_cons_self
      rw [htext, List.dropWhile_cons_of_neg (by simp [not_isCSpace_of_isDigit hc]),
        signed_of_isDigit hc, ← htext, hleading] at hsigned
      exact (Option.some.inj hsigned).symm
  · cases hn

theorem lt_of_stoi {s : String} {i : Int} (h : stoi s = some i) : i < 2 ^ 31 := by
  obtain ⟨-, hfits⟩ := Option.filter_eq_some_iff.mp h
  simp only [decide_eq_true_eq] at hfits
  exact hfits.2

theorem readUInt64_repr {n : Nat} (h : n < 2 ^ 64) : readUInt64 n.repr = some n := by
  unfold readUInt64
  rw [Nat.toList_repr, if_pos (List.all_eq_true.mpr (toDigits_all_isDigit n)),
    leadingDigits_toDigits, Option.filter_some, if_pos (by simpa using h)]

end Text
