/-
  Reading a JSON value from its text (RFC 8259): white space between the tokens, all escapes of a
  string, surrogate pairs among them. A number is kept as it is written; of a repeated key the last
  value counts.

  `parse_compact`: reading the text of a value gives the value, if its numbers are JSON numbers and
  its objects have distinct keys.
-/
import DistributedIM.Lib.JsonText
import DistributedIM.Lib.Text
import Mathlib.Data.List.Nodup

namespace Json

/-! ## Tokens -/

def isSpace (c : Char) : Bool :=
  c == ' ' || c == '\t' || c == '\n' || c == '\r'

def skipSpace (cs : List Char) : List Char :=
  cs.dropWhile isSpace

def hexValue (c : Char) : Option Nat :=
  if c.isDigit then some (c.toNat - 48)
  else if 'a' ≤ c ∧ c ≤ 'f' then some (c.toNat - 87)
  else if 'A' ≤ c ∧ c ≤ 'F' then some (c.toNat - 55)
  else none

/-- Four hexadecimal digits. -/
def readHex : List Char → Option (Nat × List Char)
  | a :: b :: c :: d :: rest => do
    let a ← hexValue a
    let b ← hexValue b
    let c ← hexValue c
    let d ← hexValue d
    some (((a * 16 + b) * 16 + c) * 16 + d, rest)
  | _ => none

/-- What follows `\u`: a code point, or two surrogates for one. -/
def readUnicode (cs : List Char) : Option (Char × List Char) := do
  let (high, rest) ← readHex cs
  if 0xD800 ≤ high ∧ high < 0xDC00 then
    match rest with
    | '\\' :: 'u' :: rest =>
      let (low, rest) ← readHex rest
      if 0xDC00 ≤ low ∧ low < 0xE000 then
        some (Char.ofNat (0x10000 + (high - 0xD800) * 0x400 + (low - 0xDC00)), rest)
      else none
    | _ => none
  else if 0xDC00 ≤ high ∧ high < 0xE000 then none
  else some (Char.ofNat high, rest)

/-- What follows a backslash. -/
def readEscape : List Char → Option (Char × List Char)
  | 'u' :: rest => readUnicode rest
  | c :: rest =>
    match c with
    | '\x22' | '\\' | '/' => some (c, rest)
    | 'b' => some ('\x08', rest)
    | 'f' => some ('\x0C', rest)
    | 'n' => some ('\n', rest)
    | 'r' => some ('\r', rest)
    | 't' => some ('\t', rest)
    | _ => none
  | [] => none

/-- The characters up to the closing quotation mark. -/
def readChars : Nat → List Char → Option (List Char × List Char)
  | 0, _ => none
  | _ + 1, [] => none
  | n + 1, c :: rest =>
    if c = '\x22' then some ([], rest)
    else if c = '\\' then do
      let (c, rest) ← readEscape rest
      (readChars n rest).map fun p => (c :: p.1, p.2)
    else if c.toNat < 0x20 then none
    else (readChars n rest).map fun p => (c :: p.1, p.2)

def readString (cs : List Char) : Option (String × List Char) :=
  (readChars cs.length cs).map fun p => (String.ofList p.1, p.2)

/-! ## Numbers -/

def readDigits (cs : List Char) : Option (List Char × List Char) :=
  match cs.takeWhile Char.isDigit with
  | [] => none
  | ds => some (ds, cs.dropWhile Char.isDigit)

/-- No other digit follows a leading zero. -/
def readInteger : List Char → Option (List Char × List Char)
  | '0' :: rest => some (['0'], rest)
  | cs => readDigits cs

def readFraction : List Char → Option (List Char × List Char)
  | '.' :: rest => (readDigits rest).map fun p => ('.' :: p.1, p.2)
  | cs => some ([], cs)

def readExponent : List Char → Option (List Char × List Char)
  | c :: rest =>
    if c = 'e' ∨ c = 'E' then
      match rest with
      | '+' :: rest => (readDigits rest).map fun p => (c :: '+' :: p.1, p.2)
      | '-' :: rest => (readDigits rest).map fun p => (c :: '-' :: p.1, p.2)
      | rest => (readDigits rest).map fun p => (c :: p.1, p.2)
    else some ([], c :: rest)
  | [] => some ([], [])

def readUnsigned (cs : List Char) : Option (List Char × List Char) := do
  let (i, cs) ← readInteger cs
  let (f, cs) ← readFraction cs
  let (e, cs) ← readExponent cs
  some (i ++ f ++ e, cs)

def readNumber : List Char → Option (List Char × List Char)
  | '-' :: rest => (readUnsigned rest).map fun p => ('-' :: p.1, p.2)
  | cs => readUnsigned cs

def startsNumber : List Char → Bool
  | c :: _ => c == '-' || c.isDigit
  | [] => false

/-! ## Values -/

mutual

def readValue : Nat → List Char → Option (Json × List Char)
  | 0, _ => none
  | n + 1, cs =>
    let cs := skipSpace cs
    if startsNumber cs then (readNumber cs).map fun p => (.number (String.ofList p.1), p.2)
    else
      match cs with
      | 'n' :: 'u' :: 'l' :: 'l' :: rest => some (.null, rest)
      | 't' :: 'r' :: 'u' :: 'e' :: rest => some (.bool true, rest)
      | 'f' :: 'a' :: 'l' :: 's' :: 'e' :: rest => some (.bool false, rest)
      | '\x22' :: rest => (readString rest).map fun p => (.string p.1, p.2)
      | '[' :: rest =>
        match skipSpace rest with
        | ']' :: rest => some (.array [], rest)
        | _ => (readItems n rest).map fun p => (.array p.1, p.2)
      | '\x7b' :: rest =>
        match skipSpace rest with
        | '\x7d' :: rest => some (.object [], rest)
        | _ => (readFields n rest).map fun p => (.object p.1, p.2)
      | _ => none

def readItems : Nat → List Char → Option (List Json × List Char)
  | 0, _ => none
  | n + 1, cs => do
    let (item, rest) ← readValue n cs
    match skipSpace rest with
    | ']' :: rest => some ([item], rest)
    | ',' :: rest => (readItems n rest).map fun p => (item :: p.1, p.2)
    | _ => none

def readFields : Nat → List Char → Option (Object × List Char)
  | 0, _ => none
  | n + 1, cs =>
    match skipSpace cs with
    | '\x22' :: rest => do
      let (key, rest) ← readString rest
      match skipSpace rest with
      | ':' :: rest => do
        let (value, rest) ← readValue n rest
        match skipSpace rest with
        | '\x7d' :: rest => some ([(key, value)], rest)
        | ',' :: rest =>
          let (fields, rest) ← readFields n rest
          some (if fields.contains key then fields else (key, value) :: fields, rest)
        | _ => none
      | _ => none
    | _ => none

end

/-- The value of a text that holds nothing else. -/
def parse (text : String) : Option Json := do
  let (j, rest) ← readValue (text.toList.length + 1) text.toList
  if skipSpace rest = [] then some j else none

/-! ## What is read back -/

mutual

/-- Its numbers are JSON numbers, and its objects have distinct keys. -/
def WellFormed : Json → Prop
  | .number literal => readNumber literal.toList = some (literal.toList, [])
  | .array items => WellFormedItems items
  | .object fields => (fields.map Prod.fst).Nodup ∧ WellFormedFields fields
  | _ => True

def WellFormedItems : List Json → Prop
  | [] => True
  | item :: items => WellFormed item ∧ WellFormedItems items

def WellFormedFields : List (String × Json) → Prop
  | [] => True
  | (_, value) :: fields => WellFormed value ∧ WellFormedFields fields

end

/-- A number that stands before this is complete. -/
def Ends : List Char → Prop
  | [] => True
  | c :: _ => c.isDigit = false ∧ c ≠ '.' ∧ c ≠ 'e' ∧ c ≠ 'E'

theorem takeWhile_of_ends {rest : List Char} (h : Ends rest) :
    rest.takeWhile Char.isDigit = [] := by
  cases rest with
  | nil => rfl
  | cons c rest => rw [List.takeWhile_cons, h.1, if_neg Bool.false_ne_true]

theorem dropWhile_of_ends {rest : List Char} (h : Ends rest) :
    rest.dropWhile Char.isDigit = rest := by
  cases rest with
  | nil => rfl
  | cons c rest => rw [List.dropWhile_cons, h.1, if_neg Bool.false_ne_true]

section Numbers

variable {cs l r rest : List Char}

theorem readDigits_append (h : readDigits cs = some (l, r)) (hrest : Ends rest) :
    readDigits (cs ++ rest) = some (l, r ++ rest) := by
  have htake : (cs ++ rest).takeWhile Char.isDigit = cs.takeWhile Char.isDigit := by
    rw [List.takeWhile_append, takeWhile_of_ends hrest, List.append_nil]
    split
    · rename_i hall
      exact (List.takeWhile_prefix _).eq_of_length hall |>.symm
    · rfl
  have hdrop : (cs ++ rest).dropWhile Char.isDigit = cs.dropWhile Char.isDigit ++ rest := by
    rw [List.dropWhile_append, dropWhile_of_ends hrest]
    split
    · rename_i hempty
      rw [List.isEmpty_iff.mp hempty, List.nil_append]
    · rfl
  unfold readDigits at h ⊢
  rw [htake, hdrop]
  split at h
  · cases h
  · rename_i ds hds
    obtain ⟨rfl, rfl⟩ := Prod.mk.inj (Option.some.inj h)
    rfl

theorem readInteger_append (h : readInteger cs = some (l, r)) (hrest : Ends rest) :
    readInteger (cs ++ rest) = some (l, r ++ rest) := by
  cases cs with
  | nil => cases h
  | cons c cs =>
    unfold readInteger at h
    split at h
    · rename_i heq
      obtain ⟨rfl, rfl⟩ := List.cons.inj heq
      obtain ⟨rfl, rfl⟩ := Prod.mk.inj (Option.some.inj h)
      rfl
    · rename_i hne
      have happend := readDigits_append h hrest
      rw [List.cons_append] at happend ⊢
      unfold readInteger
      split
      · rename_i heq
        exact absurd (by rw [(List.cons.inj heq).1]) (hne cs)
      · exact happend

theorem readFraction_append (h : readFraction cs = some (l, r)) (hrest : Ends rest) :
    readFraction (cs ++ rest) = some (l, r ++ rest) := by
  cases cs with
  | nil =>
    obtain ⟨rfl, rfl⟩ := Prod.mk.inj (Option.some.inj h)
    rw [List.nil_append]
    unfold readFraction
    split
    · exact absurd rfl hrest.2.1
    · rfl
  | cons c cs =>
    unfold readFraction at h
    split at h
    · rename_i heq
      obtain ⟨rfl, rfl⟩ := List.cons.inj heq
      obtain ⟨p, hp, hpair⟩ := Option.map_eq_some_iff.mp h
      obtain ⟨rfl, rfl⟩ := Prod.mk.inj hpair
      rw [List.cons_append, readFraction, readDigits_append hp hrest]
      rfl
    · rename_i hne
      obtain ⟨rfl, rfl⟩ := Prod.mk.inj (Option.some.inj h)
      rw [List.cons_append]
      unfold readFraction
      split
      · rename_i heq
        exact absurd (by rw [(List.cons.inj heq).1]) (hne cs)
      · rfl

theorem readExponent_append (h : readExponent cs = some (l, r)) (hrest : Ends rest) :
    readExponent (cs ++ rest) = some (l, r ++ rest) := by
  cases cs with
  | nil =>
    obtain ⟨rfl, rfl⟩ := Prod.mk.inj (Option.some.inj h)
    rw [List.nil_append]
    unfold readExponent
    split
    · exact if_neg (not_or.mpr hrest.2.2)
    · rfl
  | cons c cs =>
    rw [List.cons_append]
    unfold readExponent at h ⊢
    dsimp only at h ⊢
    split at h
    · rename_i he
      rw [if_pos he]
      cases cs with
      | nil => cases h
      | cons d cs =>
        rw [List.cons_append]
        split at h
        · rename_i heq
          obtain ⟨rfl, rfl⟩ := List.cons.inj heq
          obtain ⟨p, hp, hpair⟩ := Option.map_eq_some_iff.mp h
          obtain ⟨rfl, rfl⟩ := Prod.mk.inj hpair
          show Option.map _ (readDigits (cs ++ rest)) = _
          rw [readDigits_append hp hrest]
          rfl
        · rename_i heq
          obtain ⟨rfl, rfl⟩ := List.cons.inj heq
          obtain ⟨p, hp, hpair⟩ := Option.map_eq_some_iff.mp h
          obtain ⟨rfl, rfl⟩ := Prod.mk.inj hpair
          show Option.map _ (readDigits (cs ++ rest)) = _
          rw [readDigits_append hp hrest]
          rfl
        · rename_i hplus hminus
          obtain ⟨p, hp, hpair⟩ := Option.map_eq_some_iff.mp h
          obtain ⟨rfl, rfl⟩ := Prod.mk.inj hpair
          have happend := readDigits_append hp hrest
          rw [List.cons_append] at happend
          split
          · rename_i heq
            exact absurd (by rw [(List.cons.inj heq).1]) (hplus cs)
          · rename_i heq
            exact absurd (by rw [(List.cons.inj heq).1]) (hminus cs)
          · rw [happend]
            rfl
    · rename_i he
      obtain ⟨rfl, rfl⟩ := Prod.mk.inj (Option.some.inj h)
      rw [if_neg he]
      rfl

theorem readUnsigned_append (h : readUnsigned cs = some (l, r)) (hrest : Ends rest) :
    readUnsigned (cs ++ rest) = some (l, r ++ rest) := by
  obtain ⟨⟨i, cs₁⟩, hi, h⟩ := Option.bind_eq_some_iff.mp h
  obtain ⟨⟨f, cs₂⟩, hf, h⟩ := Option.bind_eq_some_iff.mp h
  obtain ⟨⟨e, cs₃⟩, he, h⟩ := Option.bind_eq_some_iff.mp h
  obtain ⟨rfl, rfl⟩ := Prod.mk.inj (Option.some.inj h)
  unfold readUnsigned
  rw [readInteger_append hi hrest, Option.bind_eq_bind, Option.bind_some]
  dsimp only
  rw [readFraction_append hf hrest, Option.bind_some]
  dsimp only
  rw [readExponent_append he hrest]
  rfl

theorem readNumber_append (h : readNumber cs = some (l, r)) (hrest : Ends rest) :
    readNumber (cs ++ rest) = some (l, r ++ rest) := by
  cases cs with
  | nil => cases h
  | cons c cs =>
    unfold readNumber at h
    split at h
    · rename_i heq
      obtain ⟨rfl, rfl⟩ := List.cons.inj heq
      obtain ⟨p, hp, hpair⟩ := Option.map_eq_some_iff.mp h
      obtain ⟨rfl, rfl⟩ := Prod.mk.inj hpair
      rw [List.cons_append, readNumber, readUnsigned_append hp hrest]
      rfl
    · rename_i hne
      have happend := readUnsigned_append h hrest
      rw [List.cons_append] at happend ⊢
      unfold readNumber
      split
      · rename_i heq
        exact absurd (by rw [(List.cons.inj heq).1]) (hne cs)
      · exact happend

theorem startsNumber_of_readDigits (h : readDigits cs = some (l, r)) : startsNumber cs = true := by
  cases cs with
  | nil => cases h
  | cons c cs =>
    unfold startsNumber
    by_contra hc
    rw [Bool.or_eq_true, not_or, Bool.not_eq_true, Bool.not_eq_true] at hc
    unfold readDigits at h
    rw [List.takeWhile_cons, hc.2, if_neg Bool.false_ne_true] at h
    cases h

theorem startsNumber_of_readNumber (h : readNumber cs = some (l, r)) : startsNumber cs = true := by
  unfold readNumber at h
  split at h
  · rfl
  · obtain ⟨⟨i, cs₁⟩, hi, -⟩ := Option.bind_eq_some_iff.mp h
    unfold readInteger at hi
    split at hi
    · rfl
    · exact startsNumber_of_readDigits hi

theorem startsNumber_append (h : startsNumber cs = true) (rest : List Char) :
    startsNumber (cs ++ rest) = true := by
  cases cs with
  | nil => cases h
  | cons c cs => exact h

end Numbers

/-! ## Decimal numbers -/

theorem head?_toDigits_ne_zero (n : Nat) : 0 < n → (Nat.toDigits 10 n).head? ≠ some '0' := by
  induction n using Nat.strongRecOn with
  | ind n ih =>
    intro hpos
    by_cases hn : n < 10
    · have hdigit : ∀ d < 10, 0 < d → Nat.digitChar d ≠ '0' := by decide
      rw [Nat.toDigits_of_lt_base hn]
      simpa using hdigit n hn hpos
    · rw [Nat.toDigits_of_base_le (by decide) (Nat.le_of_not_lt hn),
        List.head?_append_of_ne_nil _ Nat.toDigits_ne_nil]
      exact ih (n / 10) (by omega) (by omega)

theorem readNumber_repr (n : Nat) : readNumber n.repr.toList = some (n.repr.toList, []) := by
  rw [Nat.toList_repr]
  have hall := Text.toDigits_all_isDigit n
  have hzero := head?_toDigits_ne_zero n
  cases hds : Nat.toDigits 10 n with
  | nil => exact absurd hds Nat.toDigits_ne_nil
  | cons c cs =>
    rw [hds] at hall hzero
    by_cases hc : c = '0'
    · obtain rfl : n = 0 := by
        by_contra hne
        exact hzero (Nat.pos_of_ne_zero hne) (congrArg some hc)
      cases hds
      rfl
    · have htake : (c :: cs).takeWhile Char.isDigit = c :: cs := List.takeWhile_eq_self_iff.mpr hall
      have hdrop : (c :: cs).dropWhile Char.isDigit = [] := List.dropWhile_eq_nil_iff.mpr hall
      have hdigits : readDigits (c :: cs) = some (c :: cs, []) := by
        unfold readDigits
        rw [htake, hdrop]
      have hinteger : readInteger (c :: cs) = some (c :: cs, []) := by
        unfold readInteger
        split
        · rename_i heq
          exact absurd (List.cons.inj heq).1 hc
        · exact hdigits
      unfold readNumber
      split
      · rename_i heq
        have hminus := hall c List.mem_cons_self
        rw [(List.cons.inj heq).1] at hminus
        cases hminus
      · unfold readUnsigned
        rw [hinteger]
        show some (c :: cs ++ [] ++ [], []) = _
        rw [List.append_nil, List.append_nil]

/-! ## Strings -/

theorem hexValue_digitChar : ∀ d < 16, hexValue (Nat.digitChar d) = some d := by
  decide

theorem readUnicode_control {n : Nat} (hn : n < 0x20) (rest : List Char) :
    readUnicode ('0' :: '0' :: Nat.digitChar (n / 16) :: Nat.digitChar (n % 16) :: rest) =
      some (Char.ofNat n, rest) := by
  have hzero : hexValue '0' = some 0 := rfl
  have hhex : readHex ('0' :: '0' :: Nat.digitChar (n / 16) :: Nat.digitChar (n % 16) :: rest) =
      some (n, rest) := by
    rw [readHex, hzero, hexValue_digitChar _ (by omega), hexValue_digitChar _ (by omega)]
    show some (((0 * 16 + 0) * 16 + n / 16) * 16 + n % 16, rest) = some (n, rest)
    rw [show ((0 * 16 + 0) * 16 + n / 16) * 16 + n % 16 = n by omega]
  unfold readUnicode
  rw [hhex, Option.bind_eq_bind, Option.bind_some]
  dsimp only
  rw [if_neg (by omega), if_neg (by omega)]

theorem readChars_escapedChar (c : Char) (n : Nat) (rest : List Char) :
    readChars (n + 1) (escapedChar c ++ rest) =
      (readChars n rest).map fun p => (c :: p.1, p.2) := by
  have hescape (ds : List Char) (hread : readEscape (ds ++ rest) = some (c, rest)) :
      readChars (n + 1) (('\\' :: ds) ++ rest) =
        (readChars n rest).map fun p => (c :: p.1, p.2) := by
    rw [List.cons_append, readChars, if_neg (by decide), if_pos rfl, hread]
    rfl
  have hofNat {m : Nat} (hm : c.toNat = m) : c = Char.ofNat m := by
    rw [← hm, Char.ofNat_toNat]
  unfold escapedChar
  split
  · rename_i hm
    exact hescape [c] (by rw [hofNat hm]; rfl)
  · rename_i hm
    exact hescape [c] (by rw [hofNat hm]; rfl)
  · rename_i hm
    exact hescape ['b'] (by rw [hofNat hm]; rfl)
  · rename_i hm
    exact hescape ['f'] (by rw [hofNat hm]; rfl)
  · rename_i hm
    exact hescape ['n'] (by rw [hofNat hm]; rfl)
  · rename_i hm
    exact hescape ['r'] (by rw [hofNat hm]; rfl)
  · rename_i hm
    exact hescape ['t'] (by rw [hofNat hm]; rfl)
  · rename_i hquote hbackslash _ _ _ _ _
    split
    · rename_i hcontrol
      refine hescape ['u', '0', '0', Nat.digitChar (c.toNat / 16), Nat.digitChar (c.toNat % 16)] ?_
      show readEscape ('u' :: '0' :: '0' :: _ :: _ :: rest) = _
      rw [readEscape, readUnicode_control hcontrol, Char.ofNat_toNat]
    · rename_i hcontrol
      rw [List.singleton_append, readChars, if_neg (fun h => hquote (by rw [h]; rfl)),
        if_neg (fun h => hbackslash (by rw [h]; rfl)), if_neg hcontrol]

theorem length_escapedChar_pos (c : Char) : 0 < (escapedChar c).length := by
  unfold escapedChar
  split <;> first | exact Nat.zero_lt_succ _ | split <;> exact Nat.zero_lt_succ _

theorem readChars_escaped (cs : List Char) : ∀ (n : Nat) (rest : List Char), cs.length < n →
    readChars n (cs.flatMap escapedChar ++ '\x22' :: rest) = some (cs, rest) := by
  induction cs with
  | nil =>
    intro n rest hn
    obtain ⟨m, rfl⟩ := Nat.exists_eq_succ_of_ne_zero (Nat.ne_of_gt hn)
    rfl
  | cons c cs ih =>
    intro n rest hn
    obtain ⟨m, rfl⟩ := Nat.exists_eq_succ_of_ne_zero (Nat.ne_of_gt (Nat.zero_lt_of_lt hn))
    rw [List.flatMap_cons, List.append_assoc, readChars_escapedChar,
      ih m rest (Nat.lt_of_succ_lt_succ hn)]
    rfl

theorem length_le_escaped (cs : List Char) : cs.length ≤ (cs.flatMap escapedChar).length := by
  induction cs with
  | nil => exact Nat.le_refl _
  | cons c cs ih =>
    have hc := length_escapedChar_pos c
    rw [List.flatMap_cons, List.length_append, List.length_cons]
    omega

/-- What follows the opening quotation mark. -/
theorem readString_quoted (text : String) (rest : List Char) :
    readString (text.toList.flatMap escapedChar ++ '\x22' :: rest) = some (text, rest) := by
  have hlength := length_le_escaped text.toList
  unfold readString
  rw [readChars_escaped _ _ _ (by rw [List.length_append, List.length_cons]; omega),
    Option.map_some, String.ofList_toList]

/-! ## Values -/

theorem skipSpace_of_startsNumber {cs : List Char} (h : startsNumber cs = true) :
    skipSpace cs = cs := by
  cases cs with
  | nil => rfl
  | cons c cs =>
    have hspace : isSpace c = false := by
      by_contra hc
      rw [Bool.not_eq_false] at hc
      unfold isSpace at hc
      simp only [Bool.or_eq_true, beq_iff_eq] at hc
      rcases hc with ((rfl | rfl) | rfl) | rfl <;> cases h
    unfold skipSpace
    rw [List.dropWhile_cons, hspace, if_neg Bool.false_ne_true]

theorem quoted_append (text : String) (rest : List Char) :
    quoted text ++ rest = '\x22' :: (text.toList.flatMap escapedChar ++ '\x22' :: rest) := by
  unfold quoted
  simp only [List.append_assoc, List.cons_append, List.nil_append]

/-- The values behind this one, up to the bracket `close`. -/
theorem ends_next {α : Type} (l : List α) (cs rest : List Char) {close : Char}
    (hclose : close = ']' ∨ close = '\x7d') (hcs : l = [] → cs = []) :
    Ends ((if l.isEmpty then [] else [',']) ++ cs ++ close :: rest) := by
  cases l with
  | nil =>
    rw [hcs rfl]
    rcases hclose with rfl | rfl <;> exact ⟨rfl, by decide, by decide, by decide⟩
  | cons _ _ => exact ⟨rfl, by decide, by decide, by decide⟩

theorem skipSpace_chars {j : Json} (h : j.WellFormed) (cs rest : List Char) :
    skipSpace (chars j ++ cs) ≠ ']' :: rest := by
  cases j with
  | number literal =>
    have hstarts := startsNumber_append (startsNumber_of_readNumber h) cs
    rw [chars, skipSpace_of_startsNumber hstarts]
    intro heq
    rw [heq] at hstarts
    cases hstarts
  | null => exact fun heq => absurd (List.cons.inj heq).1 (by decide)
  | bool b => cases b <;> exact fun heq => absurd (List.cons.inj heq).1 (by decide)
  | string text => exact fun heq => absurd (List.cons.inj heq).1 (by decide)
  | array items => exact fun heq => absurd (List.cons.inj heq).1 (by decide)
  | object fields => exact fun heq => absurd (List.cons.inj heq).1 (by decide)

theorem readValue_array (n : Nat) {cs : List Char} (h : ∀ rest, skipSpace cs ≠ ']' :: rest) :
    readValue (n + 1) ('[' :: cs) = (readItems n cs).map fun p => (.array p.1, p.2) := by
  show (match skipSpace cs with
    | ']' :: rest => some (Json.array [], rest)
    | _ => (readItems n cs).map fun p : List Json × List Char => (Json.array p.1, p.2)) = _
  split
  · rename_i rest heq
    exact absurd heq (h rest)
  · rfl

theorem contains_eq_false {fields : Object} {key : String} (h : key ∉ fields.map Prod.fst) :
    fields.contains key = false := by
  have hlookup : fields.lookup key = none := by
    rw [List.lookup_eq_none_iff]
    intro p hp
    rw [bne_iff_ne]
    rintro rfl
    exact h (List.mem_map_of_mem hp)
  unfold Object.contains
  rw [hlookup]
  rfl

mutual

theorem readValue_chars : ∀ (j : Json) (n : Nat) (rest : List Char), j.WellFormed → Ends rest →
    (chars j).length < n → readValue n (chars j ++ rest) = some (j, rest)
  | _, 0, _, _, _, hn => absurd hn (Nat.not_lt_zero _)
  | .null, _ + 1, _, _, _, _ => rfl
  | .bool true, _ + 1, _, _, _, _ => rfl
  | .bool false, _ + 1, _, _, _, _ => rfl
  | .number literal, n + 1, rest, h, hrest, _ => by
    have hstarts := startsNumber_append (startsNumber_of_readNumber h) rest
    rw [chars, readValue, skipSpace_of_startsNumber hstarts, if_pos hstarts,
      readNumber_append h hrest, Option.map_some, String.ofList_toList]
    rfl
  | .string text, n + 1, rest, _, _, _ => by
    rw [chars, quoted_append]
    show (readString _).map _ = _
    rw [readString_quoted]
    rfl
  | .array [], _ + 1, _, _, _, _ => rfl
  | .array (item :: items), n + 1, rest, h, _, hn => by
    have hlength : (chars (.array (item :: items))).length =
        (charsOfItems (item :: items)).length + 2 := by
      rw [chars, List.length_append, List.length_append]
      simp only [List.length_cons, List.length_nil]
      omega
    have hitems := readItems_chars (item :: items) n rest (List.cons_ne_nil _ _) h (by omega)
    rw [chars, List.append_assoc, List.append_assoc, List.singleton_append, List.singleton_append,
      readValue_array n, hitems]
    · rfl
    · intro rest'
      rw [charsOfItems, List.append_assoc, List.append_assoc]
      exact skipSpace_chars h.1 _ _
  | .object [], _ + 1, _, _, _, _ => rfl
  | .object (field :: fields), n + 1, rest, h, _, hn => by
    have hlength : (chars (.object (field :: fields))).length =
        (charsOfFields (field :: fields)).length + 2 := by
      rw [chars, List.length_append, List.length_append]
      simp only [List.length_cons, List.length_nil]
      omega
    have hfields := readFields_chars (field :: fields) n rest (List.cons_ne_nil _ _) h.1 h.2
      (by omega)
    rw [chars, List.append_assoc, List.append_assoc]
    show (readFields n (charsOfFields (field :: fields) ++ '\x7d' :: rest)).map _ = _
    rw [hfields]
    rfl

theorem readItems_chars : ∀ (items : List Json) (n : Nat) (rest : List Char), items ≠ [] →
    WellFormedItems items → (charsOfItems items).length + 1 < n →
      readItems n (charsOfItems items ++ ']' :: rest) = some (items, rest)
  | [], _, _, hne, _, _ => absurd rfl hne
  | _ :: _, 0, _, _, _, hn => absurd hn (Nat.not_lt_zero _)
  | item :: items, n + 1, rest, _, h, hn => by
    rw [charsOfItems, List.length_append, List.length_append] at hn
    have hends := ends_next items (charsOfItems items) rest (.inl rfl)
      (fun hnil => by rw [hnil]; rfl)
    have hitem := readValue_chars item n _ h.1 hends (by omega)
    rw [List.append_assoc] at hitem
    rw [charsOfItems, List.append_assoc, List.append_assoc, readItems, hitem, Option.bind_eq_bind,
      Option.bind_some]
    cases items with
    | nil => rfl
    | cons next items =>
      have hnext := readItems_chars (next :: items) n rest (List.cons_ne_nil _ _) h.2 (by
        simp only [List.isEmpty_cons, Bool.false_eq_true, if_false, List.length_singleton] at hn
        omega)
      show (readItems n (charsOfItems (next :: items) ++ ']' :: rest)).map _ = _
      rw [hnext]
      rfl

theorem readFields_chars : ∀ (fields : List (String × Json)) (n : Nat) (rest : List Char),
    fields ≠ [] → (fields.map Prod.fst).Nodup → WellFormedFields fields →
      (charsOfFields fields).length + 1 < n →
        readFields n (charsOfFields fields ++ '\x7d' :: rest) = some (fields, rest)
  | [], _, _, hne, _, _, _ => absurd rfl hne
  | _ :: _, 0, _, _, _, _, hn => absurd hn (Nat.not_lt_zero _)
  | (key, value) :: fields, n + 1, rest, _, hkeys, h, hn => by
    rw [charsOfFields, List.length_append, List.length_append, List.length_append,
      List.length_append] at hn
    have hends := ends_next fields (charsOfFields fields) rest (.inr rfl)
      (fun hnil => by rw [hnil]; rfl)
    have hvalue := readValue_chars value n _ h.1 hends (by omega)
    rw [List.append_assoc] at hvalue
    rw [charsOfFields]
    simp only [List.append_assoc]
    rw [quoted_append, readFields]
    show (readString _).bind _ = _
    rw [readString_quoted, Option.bind_some]
    show (readValue n (value.chars ++ _)).bind _ = _
    rw [hvalue, Option.bind_some]
    rw [List.map_cons, List.nodup_cons] at hkeys
    cases fields with
    | nil => rfl
    | cons next fields =>
      have hnext := readFields_chars (next :: fields) n rest (List.cons_ne_nil _ _) hkeys.2 h.2 (by
        simp only [List.isEmpty_cons, Bool.false_eq_true, if_false, List.length_singleton] at hn
        omega)
      show (readFields n (charsOfFields (next :: fields) ++ '\x7d' :: rest)).bind _ = _
      rw [hnext, Option.bind_some]
      dsimp only
      rw [contains_eq_false hkeys.1]
      rfl

end

/-- Reading the text of a value gives the value. -/
theorem parse_compact {j : Json} (h : j.WellFormed) : parse j.compact = some j := by
  have hread := readValue_chars j (j.chars.length + 1) [] h trivial (Nat.lt_succ_self _)
  rw [List.append_nil] at hread
  unfold parse compact
  rw [String.toList_ofList, hread]
  rfl

end Json
