/-
  Fixed-width numbers in memory and on the wire.

  `toBE w n` are the `w` big-endian bytes of `n`, `ofBE` the number of a byte string;
  `ofBE_toBE` (modulo `256 ^ w`) and `toBE_ofBE` are the two round trips. A machine stores and
  loads a number in its own byte order (`store`, `load`); `hostToNetwork` is the conversion of a
  loaded value to network order, which is also the conversion back. Whatever the machine,
  storing a converted number leaves its big-endian bytes (`store_hostToNetwork`) and converting a
  loaded one gives the number those bytes denote (`hostToNetwork_load`).

  `overwrite`, `slice` and `resize` are the buffer operations of a byte container, with the
  lemmas that say which bytes they leave alone. Out-of-range accesses are not modelled here.
-/
import Mathlib.Data.List.Induction
import Mathlib.Algebra.Group.Nat.Even

namespace Bytes

/-! ## Big-endian numbers -/

/-- The `w` big-endian bytes of `n`; higher bytes are dropped. -/
def toBE : Nat → Nat → List UInt8
  | 0, _ => []
  | w + 1, n => toBE w (n / 256) ++ [UInt8.ofNat n]

/-- The number with the given big-endian bytes. -/
def ofBE (bs : List UInt8) : Nat :=
  bs.foldl (fun n b => 256 * n + b.toNat) 0

@[simp] theorem toBE_zero (n : Nat) : toBE 0 n = [] := rfl

@[simp] theorem toBE_succ (w n : Nat) :
    toBE (w + 1) n = toBE w (n / 256) ++ [UInt8.ofNat n] := rfl

@[simp] theorem ofBE_nil : ofBE [] = 0 := rfl

@[simp] theorem ofBE_concat (bs : List UInt8) (b : UInt8) :
    ofBE (bs ++ [b]) = 256 * ofBE bs + b.toNat := by
  simp [ofBE]

@[simp] theorem toBE_length (w n : Nat) : (toBE w n).length = w := by
  induction w generalizing n with
  | zero => rfl
  | succ w ih => simp [ih]

theorem ofBE_toBE (w n : Nat) : ofBE (toBE w n) = n % 256 ^ w := by
  induction w generalizing n with
  | zero => simp [Nat.mod_one]
  | succ w ih =>
    have hlow : (UInt8.ofNat n).toNat = n % 256 := UInt8.toNat_ofNat'
    rw [toBE_succ, ofBE_concat, ih, hlow, pow_succ', Nat.mod_mul]
    omega

theorem ofBE_lt (bs : List UInt8) : ofBE bs < 256 ^ bs.length := by
  induction bs using List.reverseRecOn with
  | nil => simp
  | append_singleton bs b ih =>
    have hb : b.toNat < 256 := b.toNat_lt
    rw [ofBE_concat, List.length_append, List.length_singleton, pow_succ]
    omega

theorem toBE_ofBE (bs : List UInt8) : toBE bs.length (ofBE bs) = bs := by
  induction bs using List.reverseRecOn with
  | nil => rfl
  | append_singleton bs b ih =>
    have hb : b.toNat < 256 := b.toNat_lt
    have hdiv : (256 * ofBE bs + b.toNat) / 256 = ofBE bs := by omega
    have hmod : UInt8.ofNat (256 * ofBE bs + b.toNat) = b := by
      apply UInt8.toNat_inj.mp
      simp only [UInt8.toNat_ofNat']
      omega
    rw [ofBE_concat, List.length_append, List.length_singleton, toBE_succ, hdiv, hmod, ih]

/-- Bytes above the width do not matter. -/
theorem toBE_mod (w n : Nat) : toBE w (n % 256 ^ w) = toBE w n := by
  have h := toBE_ofBE (toBE w n)
  rwa [toBE_length, ofBE_toBE] at h

/-! ## Byte order of a machine -/

/-- Byte order of a machine's memory. -/
inductive Endian
  | little
  | big
  deriving DecidableEq, Repr

/-- The `w` bytes a machine stores for `n`. -/
def store (e : Endian) (w n : Nat) : List UInt8 :=
  match e with
  | .little => (toBE w n).reverse
  | .big => toBE w n

/-- The number a machine loads from `bs`. -/
def load (e : Endian) (bs : List UInt8) : Nat :=
  match e with
  | .little => ofBE bs.reverse
  | .big => ofBE bs

/-- Conversion of a `w`-byte value between host and network order: a byte swap on a
    little-endian machine, nothing on a big-endian one. -/
def hostToNetwork (e : Endian) (w n : Nat) : Nat :=
  match e with
  | .little => ofBE (toBE w n).reverse
  | .big => n % 256 ^ w

theorem store_hostToNetwork (e : Endian) (w n : Nat) :
    store e w (hostToNetwork e w n) = toBE w n := by
  cases e with
  | little =>
    have h := toBE_ofBE (toBE w n).reverse
    rw [List.length_reverse, toBE_length] at h
    simp only [store, hostToNetwork, h, List.reverse_reverse]
  | big => exact toBE_mod w n

theorem hostToNetwork_load (e : Endian) (bs : List UInt8) :
    hostToNetwork e bs.length (load e bs) = ofBE bs := by
  cases e with
  | little =>
    have h := toBE_ofBE bs.reverse
    rw [List.length_reverse] at h
    simp only [hostToNetwork, load, h, List.reverse_reverse]
  | big => exact Nat.mod_eq_of_lt (ofBE_lt bs)

/-! ## Buffers -/

/-- `n` bytes from position `off`. -/
def slice (buf : List UInt8) (off n : Nat) : List UInt8 :=
  (buf.drop off).take n

/-- The buffer with `bs` copied over it from position `off`. -/
def overwrite (buf : List UInt8) (off : Nat) (bs : List UInt8) : List UInt8 :=
  buf.take off ++ bs ++ buf.drop (off + bs.length)

/-- The first `n` bytes, filled up with zeros. -/
def resize (buf : List UInt8) (n : Nat) : List UInt8 :=
  buf.take n ++ List.replicate (n - buf.length) 0

@[simp] theorem resize_length (buf : List UInt8) (n : Nat) : (resize buf n).length = n := by
  simp [resize]
  omega

theorem resize_nil (n : Nat) : resize [] n = List.replicate n 0 := by
  simp [resize]

/-- A longer buffer keeps its bytes and gets zeros behind them. -/
theorem resize_of_le {buf : List UInt8} {n : Nat} (h : buf.length ≤ n) :
    resize buf n = buf ++ List.replicate (n - buf.length) 0 := by
  rw [resize, List.take_of_length_le h]

/-- Copying behind a prefix leaves the prefix alone. -/
theorem overwrite_append (a x bs : List UInt8) {off : Nat} (h : off = a.length) :
    overwrite (a ++ x) off bs = a ++ (bs ++ x.drop bs.length) := by
  subst h
  simp [overwrite, List.drop_append, List.append_assoc]

theorem overwrite_length {buf bs : List UInt8} {off : Nat} (h : off + bs.length ≤ buf.length) :
    (overwrite buf off bs).length = buf.length := by
  simp only [overwrite, List.length_append, List.length_take, List.length_drop]
  omega

theorem slice_append (a b c : List UInt8) {off n : Nat} (ho : off = a.length)
    (hn : n = b.length) : slice (a ++ (b ++ c)) off n = b := by
  subst ho hn
  simp [slice]

end Bytes
