/-
  The text of a JSON value without white space, and how many bytes it takes in UTF-8.

  In a string the quotation mark, the backslash and the control characters below U+0020 are
  escaped; five of these have a short escape. `size_array` and `size_object`: what surrounds the
  parts of a value takes a fixed number of bytes, so sizes add up.
-/
import DistributedIM.Lib.Json
import Mathlib.Algebra.Ring.Nat
import Mathlib.Data.String.Basic

open String (utf8Len utf8Len_append utf8ByteSize_ofList)

namespace Json

/-! ## The text -/

def escapedChar (c : Char) : List Char :=
  match c.toNat with
  | 0x22 => ['\\', c]
  | 0x5C => ['\\', c]
  | 0x08 => ['\\', 'b']
  | 0x0C => ['\\', 'f']
  | 0x0A => ['\\', 'n']
  | 0x0D => ['\\', 'r']
  | 0x09 => ['\\', 't']
  | n =>
    if n < 0x20 then ['\\', 'u', '0', '0', Nat.digitChar (n / 16), Nat.digitChar (n % 16)]
    else [c]

def quoted (text : String) : List Char :=
  ['\x22'] ++ text.toList.flatMap escapedChar ++ ['\x22']

mutual

def chars : Json → List Char
  | .null => "null".toList
  | .bool true => "true".toList
  | .bool false => "false".toList
  | .number literal => literal.toList
  | .string text => quoted text
  | .array items => ['['] ++ charsOfItems items ++ [']']
  | .object fields => ['\x7b'] ++ charsOfFields fields ++ ['\x7d']

def charsOfItems : List Json → List Char
  | [] => []
  | item :: items => chars item ++ (if items.isEmpty then [] else [',']) ++ charsOfItems items

def charsOfFields : List (String × Json) → List Char
  | [] => []
  | (key, value) :: fields =>
    quoted key ++ [':'] ++ chars value ++ (if fields.isEmpty then [] else [',']) ++
      charsOfFields fields

end

/-- `toJson(QJsonDocument::Compact)` -/
def compact (j : Json) : String :=
  String.ofList j.chars

/-! ## Its size -/

/-- The bytes of the text. -/
def size (j : Json) : Nat :=
  j.compact.utf8ByteSize

/-- The bytes of a string between its quotation marks. -/
def textSize (text : String) : Nat :=
  (text.toList.map fun c => utf8Len (escapedChar c)).sum

theorem size_eq (j : Json) : j.size = utf8Len j.chars :=
  utf8ByteSize_ofList j.chars

theorem utf8Len_quoted (text : String) : utf8Len (quoted text) = 2 + textSize text := by
  have hbody : ∀ cs : List Char,
      utf8Len (cs.flatMap escapedChar) = (cs.map fun c => utf8Len (escapedChar c)).sum := by
    intro cs
    induction cs with
    | nil => rfl
    | cons c cs ih => rw [List.flatMap_cons, utf8Len_append, ih, List.map_cons, List.sum_cons]
  have hquote : utf8Len ['\x22'] = 1 := rfl
  rw [quoted, utf8Len_append, utf8Len_append, hbody, hquote, textSize]
  omega

/-- A string takes its quotation marks besides. -/
@[simp] theorem size_string (text : String) : size (.string text) = 2 + textSize text := by
  rw [size_eq, chars, utf8Len_quoted]

@[simp] theorem size_null : size .null = 4 := rfl

/-- An array takes brackets and commas besides its items. -/
theorem size_array (items : List Json) :
    size (.array items) = 2 + (items.map size).sum + (items.length - 1) := by
  have hitems : utf8Len (charsOfItems items) = (items.map size).sum + (items.length - 1) := by
    induction items with
    | nil => rfl
    | cons item items ih =>
      rw [charsOfItems, utf8Len_append, utf8Len_append, ih, List.map_cons, List.sum_cons, size_eq]
      cases items with
      | nil => rfl
      | cons next rest =>
        have hcomma : utf8Len (if (next :: rest).isEmpty then [] else [',']) = 1 := rfl
        simp only [hcomma, List.length_cons]
        omega
  have hopen : utf8Len ['['] = 1 := rfl
  have hclose : utf8Len [']'] = 1 := rfl
  rw [size_eq, chars, utf8Len_append, utf8Len_append, hitems, hopen, hclose]
  omega

/-- An object takes braces, the colons and the commas besides its keys and values. -/
theorem size_object (fields : Object) :
    size (.object fields) =
      2 + (fields.map fun p => 3 + textSize p.1 + p.2.size).sum + (fields.length - 1) := by
  have hfields : utf8Len (charsOfFields fields) =
      (fields.map fun p => 3 + textSize p.1 + p.2.size).sum + (fields.length - 1) := by
    induction fields with
    | nil => rfl
    | cons field fields ih =>
      have hcolon : utf8Len [':'] = 1 := rfl
      rw [charsOfFields, utf8Len_append, utf8Len_append, utf8Len_append, utf8Len_append, ih,
        utf8Len_quoted, hcolon, List.map_cons, List.sum_cons, size_eq]
      cases fields with
      | nil =>
        have hempty : utf8Len (if ([] : Object).isEmpty then [] else [',']) = 0 := rfl
        rw [hempty, List.length_nil, List.length_singleton]
        omega
      | cons next rest =>
        have hcomma : utf8Len (if (next :: rest).isEmpty then [] else [',']) = 1 := rfl
        simp only [hcomma, List.length_cons]
        omega
  have hopen : utf8Len ['\x7b'] = 1 := rfl
  have hclose : utf8Len ['\x7d'] = 1 := rfl
  rw [size_eq, chars, utf8Len_append, utf8Len_append, hfields, hopen, hclose]
  omega

end Json
