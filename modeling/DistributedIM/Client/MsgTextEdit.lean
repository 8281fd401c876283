/-
  The input field of a chat: `MsgTextEdit::getMsgList` cuts the document into texts and embedded
  objects.

  The texts are read off the document; the objects come from `m_temporary_list`, which has them in
  the order of their insertion, those deleted since included. At each object of the document the
  next one of the list is taken whose path the HTML contains. `splits_iff`: the document is cut
  right exactly if the entries whose path the HTML contains begin with the objects of the document,
  in its order, and nobody has typed U+FFFC.

  `toHtml` is Qt's. What is assumed of it is `ShowsPaths`: it contains a path that is asked for if
  and only if it is part of the path of an object that is present. Texts are Unicode, positions
  count characters and objects; pictures are left out of a `MsgInfo`.
-/
import Mathlib.Data.List.Infix
import DistributedIM.Lib.Runs
import DistributedIM.Lib.Trace
import DistributedIM.Client.ChattingStackPage

namespace DistributedIM.Client

/-- A document: characters and embedded objects. -/
abbrev TextDocument := List (Char ⊕ MsgInfo)

namespace TextDocument

/-- `QChar::ObjectReplacementCharacter` -/
def objectReplacementCharacter : Char := '\uFFFC'

def plainChar : Char ⊕ MsgInfo → Char
  | .inl c => c
  | .inr _ => objectReplacementCharacter

/-- The characters of a document are the ones that come out here, where the separators of Qt are
    already line feeds and a no-break space is a space. -/
def toPlainText (d : TextDocument) : List Char :=
  d.map plainChar

/-- The embedded objects, in document order. -/
def objects (d : TextDocument) : List MsgInfo :=
  d.filterMap Sum.getRight?

/-- What has been typed, the objects left out. -/
def typed (d : TextDocument) : List Char :=
  d.filterMap Sum.getLeft?

/-- An insertion at a cursor whose selection is `len` long. -/
def replace (d : TextDocument) (pos len : Nat) (inserted : TextDocument) : TextDocument :=
  d.take pos ++ inserted ++ d.drop (pos + len)

theorem objects_append (d d' : TextDocument) : objects (d ++ d') = objects d ++ objects d' :=
  List.filterMap_append

theorem typed_append (d d' : TextDocument) : typed (d ++ d') = typed d ++ typed d' :=
  List.filterMap_append

/-- The document around a selection. -/
theorem split_at (d : TextDocument) (pos len : Nat) :
    d = d.take pos ++ ((d.drop pos).take len ++ d.drop (pos + len)) := by
  rw [← List.drop_drop, List.take_append_drop, List.take_append_drop]

theorem objects_text (text : List Char) : objects (text.map Sum.inl) = [] := by
  simp [objects, List.filterMap_map]

end TextDocument

/-- `QString::contains`, case sensitive. -/
def contains (text part : String) : Bool :=
  decide (part.toList <:+: text.toList)

/-- `QFileInfo`, as far as `insertTextFile` looks at it. -/
structure QFileInfo where
  exists_ : Bool
  isDir : Bool
  size : Nat
  deriving DecidableEq, Repr

structure MsgTextEdit where
  document : TextDocument
  temporaryList : List MsgInfo
  deriving DecidableEq

namespace MsgTextEdit

def init : MsgTextEdit where
  document := []
  temporaryList := []

/-! ## Editing -/

/-- Typing, deleting, or typing over a selection. -/
def edit (s : MsgTextEdit) (pos len : Nat) (text : List Char) : MsgTextEdit :=
  { s with document := s.document.replace pos len (text.map Sum.inl) }

/-- `insertImage`. `QTextCursor` does not insert an image that could not be read. -/
def insertImage (s : MsgTextEdit) (pos len : Nat) (url : String) (isNull : Bool) : MsgTextEdit where
  document :=
    if isNull then s.document else s.document.replace pos len [.inr ⟨.image, url⟩]
  temporaryList := s.temporaryList ++ [⟨.image, url⟩]

/-- `insertTextFile`. The code turns down what is not a directory. -/
def insertTextFile (s : MsgTextEdit) (pos len : Nat) (path : String) (file : QFileInfo) :
    MsgTextEdit :=
  if !file.exists_ then s
  else if !file.isDir then s
  else if 100 * 1024 * 1024 < file.size then s
  else
    { document := s.document.replace pos len [.inr ⟨.file, path⟩]
      temporaryList := s.temporaryList ++ [⟨.file, path⟩] }

/-! ## `getMsgList` -/

/-- The variables of the loop; `remaining` is `m_temporary_list` from `url_index` on. -/
structure Splitting where
  processed : List MsgInfo
  text : List Char
  remaining : List MsgInfo

namespace Splitting

def insertText (s : Splitting) : Splitting :=
  if s.text.isEmpty then s
  else { s with processed := s.processed ++ [⟨.text, .ofList s.text⟩], text := [] }

/-- The inner loop: the first entry whose path the HTML contains, and the entries after it. -/
def nextObject (html : String) : List MsgInfo → Option MsgInfo × List MsgInfo
  | [] => (none, [])
  | msg :: rest => if contains html msg.content then (some msg, rest) else nextObject html rest

/-- One character of the plain text. -/
def next (html : String) (s : Splitting) (c : Char) : Splitting :=
  if c = TextDocument.objectReplacementCharacter then
    let s := s.insertText
    let found := nextObject html s.remaining
    { s with processed := s.processed ++ found.1.toList, remaining := found.2 }
  else { s with text := s.text ++ [c] }

end Splitting

def splitting (html : String) (temporaryList : List MsgInfo) (plaintext : List Char) : Splitting :=
  plaintext.foldl (Splitting.next html) ⟨[], [], temporaryList⟩

/-- The field afterwards, and `m_processed_list`. -/
def getMsgList (toHtml : TextDocument → String) (s : MsgTextEdit) : MsgTextEdit × List MsgInfo :=
  ({ document := [], temporaryList := [] },
    (splitting (toHtml s.document) s.temporaryList s.document.toPlainText).insertText.processed)

inductive Event
  | edit (pos len : Nat) (text : List Char)
  | insertImage (pos len : Nat) (url : String) (isNull : Bool)
  | insertTextFile (pos len : Nat) (path : String) (file : QFileInfo)
  | getMsgList

def step (toHtml : TextDocument → String) (s : MsgTextEdit) : Event → Option MsgTextEdit
  | .edit pos len text => some (s.edit pos len text)
  | .insertImage pos len url isNull => some (s.insertImage pos len url isNull)
  | .insertTextFile pos len path file => some (s.insertTextFile pos len path file)
  | .getMsgList => some (getMsgList toHtml s).1

/-! ## What it is for -/

/-- A message as a piece of the document. -/
def piece (info : MsgInfo) : Runs.Piece Char MsgInfo :=
  if info.type = .text then .run info.content.toList else .single info

/-- The messages are the maximal texts of the document and the objects between them, in document
    order. -/
def Splits (d : TextDocument) (list : List MsgInfo) : Prop :=
  Runs.Splits d (list.map piece)

/-- `toHtml` shows of the paths asked for what is part of the path of an object present. -/
def ShowsPaths (toHtml : TextDocument → String) (s : MsgTextEdit) : Prop :=
  ∀ msg ∈ s.temporaryList, contains (toHtml s.document) msg.content = true ↔
    ∃ object ∈ s.document.objects, contains object.content msg.content = true

/-- The entry's path is part of the path of an object present. -/
def isShown (s : MsgTextEdit) (msg : MsgInfo) : Bool :=
  s.document.objects.any fun object => contains object.content msg.content

/-- The objects of the document, in document order, are the first of those entries, in the order
    of insertion, whose path is part of the path of an object present; and U+FFFC is not typed. -/
structure InOrder (s : MsgTextEdit) : Prop where
  objects : s.document.objects <+: s.temporaryList.filter s.isShown
  typed : TextDocument.objectReplacementCharacter ∉ s.document.typed

/-! ## The loop -/

theorem piece_text (text : List Char) : piece ⟨.text, .ofList text⟩ = .run text := by
  rw [piece, if_pos rfl, String.toList_ofList]

theorem piece_of_ne {msg : MsgInfo} (hmsg : msg.type ≠ .text) : piece msg = .single msg :=
  if_neg hmsg

/-- The objects among the messages. -/
def taken (list : List MsgInfo) : List MsgInfo :=
  list.filter fun msg => msg.type ≠ .text

theorem taken_of_all {list : List MsgInfo} (h : ∀ msg ∈ list, msg.type ≠ .text) :
    taken list = list :=
  List.filter_eq_self.mpr fun msg hmsg => decide_eq_true (h msg hmsg)

theorem filterMap_piece (list : List MsgInfo) :
    (list.map piece).filterMap Runs.Piece.thing? = taken list := by
  induction list with
  | nil => rfl
  | cons msg list ih =>
    rw [List.map_cons, taken, List.filter_cons]
    by_cases htext : msg.type = .text
    · rw [piece, if_pos htext, if_neg (by simp [htext])]
      exact ih
    · rw [piece_of_ne htext, if_pos (decide_eq_true htext)]
      exact congrArg (msg :: ·) ih

/-- The paths that the HTML contains. -/
def shownIn (html : String) (list : List MsgInfo) : List MsgInfo :=
  list.filter fun msg => contains html msg.content

namespace Splitting

variable {html : String}

theorem nextObject_fst (list : List MsgInfo) :
    (nextObject html list).1 = (shownIn html list).head? := by
  induction list with
  | nil => rfl
  | cons msg list ih =>
    rw [nextObject, shownIn, List.filter_cons]
    split
    · rfl
    · exact ih

theorem nextObject_snd (list : List MsgInfo) :
    shownIn html (nextObject html list).2 = (shownIn html list).tail := by
  induction list with
  | nil => rfl
  | cons msg list ih =>
    rw [nextObject, shownIn, shownIn, List.filter_cons]
    split
    · rfl
    · exact ih

/-- What the object found and the entries after it leave of the entries. -/
theorem nextObject_append (list : List MsgInfo) :
    (nextObject html list).1.toList ++ shownIn html (nextObject html list).2 =
      shownIn html list := by
  rw [nextObject_fst, nextObject_snd]
  cases shownIn html list with
  | nil => rfl
  | cons msg rest => rfl

theorem insertText_text (s : Splitting) : s.insertText.text = [] := by
  unfold insertText
  split
  · rename_i hempty
    exact List.isEmpty_iff.mp hempty
  · rfl

theorem insertText_remaining (s : Splitting) : s.insertText.remaining = s.remaining := by
  unfold insertText
  split <;> rfl

theorem taken_insertText (s : Splitting) : taken s.insertText.processed = taken s.processed := by
  unfold insertText
  split
  · rfl
  · rw [taken, List.filter_append]
    simp [taken]

theorem map_piece_insertText (s : Splitting) :
    s.insertText.processed.map piece = Runs.close (s.processed.map piece) s.text := by
  unfold insertText Runs.close
  split
  · rfl
  · rw [List.map_append, List.map_singleton, piece_text]

/-- The objects taken and the entries left, and texts without U+FFFC. -/
structure Takes (html : String) (list : List MsgInfo) (s : Splitting) : Prop where
  taken : taken s.processed ++ shownIn html s.remaining = shownIn html list
  texts : TextDocument.objectReplacementCharacter ∉
    (s.processed.map piece).flatMap Runs.Piece.marks ++ s.text
  objects : ∀ msg ∈ s.remaining, msg.type ≠ .text

theorem Takes.insertText {list : List MsgInfo} {s : Splitting} (h : Takes html list s) :
    Takes html list s.insertText where
  taken := by
    rw [taken_insertText, insertText_remaining]
    exact h.taken
  texts := by
    rw [map_piece_insertText, Runs.close_marks, insertText_text, List.append_nil]
    exact h.texts
  objects := by
    rw [insertText_remaining]
    exact h.objects

theorem nextObject_mem (html : String) {list : List MsgInfo} (h : ∀ msg ∈ list, msg.type ≠ .text) :
    (∀ msg ∈ (nextObject html list).1.toList, msg.type ≠ .text) ∧
      ∀ msg ∈ (nextObject html list).2, msg.type ≠ .text := by
  induction list with
  | nil =>
    constructor
    · intro msg hmsg
      cases hmsg
    · exact h
  | cons msg list ih =>
    obtain ⟨hmsg, hlist⟩ := List.forall_mem_cons.mp h
    rw [nextObject]
    split
    · refine ⟨?_, hlist⟩
      intro found hfound
      rw [List.mem_singleton.mp hfound]
      exact hmsg
    · exact ih hlist

theorem Takes.next {list : List MsgInfo} {s : Splitting} (h : Takes html list s) (c : Char) :
    Takes html list (s.next html c) := by
  unfold Splitting.next
  split
  · have hs := h.insertText
    obtain ⟨hfound, hrest⟩ := nextObject_mem html hs.objects
    have hpieces : ((nextObject html s.insertText.remaining).1.toList.map piece).flatMap
        Runs.Piece.marks = [] := by
      rw [List.flatMap_eq_nil_iff]
      intro p hp
      obtain ⟨msg, hmsg, rfl⟩ := List.mem_map.mp hp
      rw [piece_of_ne (hfound msg hmsg)]
      rfl
    refine ⟨?_, ?_, hrest⟩
    · show MsgTextEdit.taken (s.insertText.processed ++ _) ++ _ = _
      rw [MsgTextEdit.taken, List.filter_append, List.append_assoc]
      have hself := taken_of_all hfound
      unfold MsgTextEdit.taken at hself
      rw [hself, nextObject_append]
      exact hs.taken
    · show _ ∉ ((s.insertText.processed ++ _).map piece).flatMap _ ++ s.insertText.text
      rw [List.map_append, List.flatMap_append, hpieces, List.append_nil]
      exact hs.texts
  · rename_i hc
    refine ⟨h.taken, ?_, h.objects⟩
    rw [← List.append_assoc, List.mem_append, List.mem_singleton, not_or]
    exact ⟨h.texts, Ne.symm hc⟩

theorem takes_splitting (html : String) {list : List MsgInfo}
    (hlist : ∀ msg ∈ list, msg.type ≠ .text) (plaintext : List Char) :
    Takes html list (splitting html list plaintext) := by
  suffices h : ∀ s, Takes html list s → Takes html list (plaintext.foldl (Splitting.next html) s) by
    refine h _ ⟨rfl, ?_, hlist⟩
    exact List.not_mem_nil
  induction plaintext with
  | nil => exact fun s hs => hs
  | cons c plaintext ih => exact fun s hs => ih _ (hs.next c)

/-- While the entries found are the objects of the document, its pieces are cut right. -/
structure Follows (html : String) (list : List MsgInfo) (d : TextDocument) (s : Splitting) :
    Prop where
  pieces : Runs.Open d (s.processed.map piece) s.text
  remaining : shownIn html list = d.objects ++ shownIn html s.remaining

theorem Follows.char {list : List MsgInfo} {d : TextDocument} {s : Splitting} {c : Char}
    (h : Follows html list d s) (hc : c ≠ TextDocument.objectReplacementCharacter) :
    Follows html list (d ++ [.inl c]) (s.next html c) := by
  rw [Splitting.next, if_neg hc]
  refine ⟨h.pieces.extend c, ?_⟩
  rw [h.remaining, TextDocument.objects_append]
  exact congrArg (· ++ _) (List.append_nil _).symm

theorem Follows.object {list : List MsgInfo} {d : TextDocument} {s : Splitting} {msg : MsgInfo}
    (h : Follows html list d s) (hmsg : msg.type ≠ .text)
    (hshown : d.objects ++ [msg] <+: shownIn html list) :
    Follows html list (d ++ [.inr msg])
      (s.next html TextDocument.objectReplacementCharacter) := by
  obtain ⟨rest, hrest⟩ := hshown
  have hremaining : shownIn html s.insertText.remaining = msg :: rest := by
    rw [h.remaining, List.append_assoc] at hrest
    rw [insertText_remaining]
    exact (List.append_cancel_left hrest).symm
  rw [Splitting.next, if_pos rfl]
  refine ⟨?_, ?_⟩
  · show Runs.Open _ ((s.insertText.processed ++ _).map piece) s.insertText.text
    rw [List.map_append, map_piece_insertText, insertText_text, nextObject_fst, hremaining]
    have hsingle := h.pieces.single msg
    rw [← piece_of_ne hmsg] at hsingle
    exact hsingle
  · show _ = _ ++ shownIn html (nextObject html s.insertText.remaining).2
    rw [nextObject_snd, hremaining, ← hrest, TextDocument.objects_append]
    rfl

end Splitting

/-- What `getMsgList` relies on: the entries are objects. -/
structure Embedded (s : MsgTextEdit) : Prop where
  entries : ∀ msg ∈ s.temporaryList, msg.type ≠ .text
  objects : ∀ msg ∈ s.document.objects, msg.type ≠ .text

theorem follows_splitting {html : String} {list : List MsgInfo} {d : TextDocument}
    (hobjects : ∀ msg ∈ d.objects, msg.type ≠ .text)
    (hshown : d.objects <+: shownIn html list)
    (htyped : TextDocument.objectReplacementCharacter ∉ d.typed) :
    Splitting.Follows html list d (splitting html list d.toPlainText) := by
  -- the loop has read the document from its beginning, so it grows at its end
  induction d using List.reverseRecOn with
  | nil => exact ⟨Runs.open_nil, rfl⟩
  | append_singleton d item ih =>
    have hsplit : splitting html list (TextDocument.toPlainText (d ++ [item])) =
        (splitting html list (TextDocument.toPlainText d)).next html
          (TextDocument.plainChar item) := by
      rw [splitting, TextDocument.toPlainText, List.map_append, List.foldl_append]
      rfl
    rw [TextDocument.objects_append] at hobjects hshown
    rw [TextDocument.typed_append, List.mem_append, not_or] at htyped
    have hd := ih (fun msg hmsg => hobjects msg (List.mem_append_left _ hmsg))
      ((List.prefix_append _ _).trans hshown) htyped.1
    rw [hsplit]
    cases item with
    | inl c => exact hd.char fun hc => htyped.2 (hc ▸ List.mem_singleton_self _)
    | inr msg =>
      exact hd.object (hobjects msg (List.mem_append_right _ (List.mem_singleton_self _))) hshown

/-- For any HTML: which entries it contains decides. -/
theorem splits_getMsgList_iff (toHtml : TextDocument → String) {s : MsgTextEdit}
    (h : Embedded s) : Splits s.document (getMsgList toHtml s).2 ↔
      s.document.objects <+: shownIn (toHtml s.document) s.temporaryList ∧
        TextDocument.objectReplacementCharacter ∉ s.document.typed := by
  constructor
  · intro hsplits
    have htakes := (Splitting.takes_splitting (toHtml s.document) h.entries
      s.document.toPlainText).insertText
    constructor
    · have hobjects := hsplits.singles
      rw [filterMap_piece] at hobjects
      exact ⟨_, by rw [TextDocument.objects, ← hobjects]; exact htakes.taken⟩
    · have hmarks := hsplits.marks
      have htexts := htakes.texts
      rw [Splitting.insertText_text, List.append_nil] at htexts
      rw [TextDocument.typed, ← hmarks]
      exact htexts
  · rintro ⟨hobjects, htyped⟩
    have hfollows := follows_splitting h.objects hobjects htyped
    have hclose := hfollows.pieces.close
    rw [← Splitting.map_piece_insertText] at hclose
    exact hclose

/-! ## Over the editing -/

theorem objects_replace {d : TextDocument} {pos len : Nat} {inserted : TextDocument}
    {P : MsgInfo → Prop} (hd : ∀ msg ∈ d.objects, P msg)
    (hinserted : ∀ msg ∈ inserted.objects, P msg) :
    ∀ msg ∈ (d.replace pos len inserted).objects, P msg := by
  intro msg hmsg
  rw [TextDocument.replace, TextDocument.objects_append, TextDocument.objects_append,
    List.mem_append, List.mem_append] at hmsg
  rcases hmsg with (hbefore | hnew) | hafter
  · exact hd msg (((List.take_sublist _ _).filterMap _).mem hbefore)
  · exact hinserted msg hnew
  · exact hd msg (((List.drop_sublist _ _).filterMap _).mem hafter)

theorem embedded_insert {s : MsgTextEdit} (h : Embedded s) {msg : MsgInfo} (hmsg : msg.type ≠ .text)
    {d : TextDocument} (hd : ∀ msg ∈ d.objects, msg.type ≠ .text) :
    Embedded { document := d, temporaryList := s.temporaryList ++ [msg] } where
  entries := by
    intro m hm
    rcases List.mem_append.mp hm with hold | hnew
    · exact h.entries m hold
    · rw [List.mem_singleton.mp hnew]
      exact hmsg
  objects := hd

theorem embedded_step {toHtml : TextDocument → String} {s s' : MsgTextEdit} {e : Event}
    (h : Embedded s) (hstep : step toHtml s e = some s') : Embedded s' := by
  have hobject : ∀ {msg : MsgInfo}, msg.type ≠ .text → ∀ pos len,
      ∀ m ∈ (s.document.replace pos len [.inr msg]).objects, m.type ≠ .text := by
    intro msg hmsg pos len
    refine objects_replace h.objects ?_
    intro m hm
    rw [List.mem_singleton.mp hm]
    exact hmsg
  cases e with
  | edit pos len text =>
    obtain rfl := Option.some.inj hstep
    refine ⟨h.entries, objects_replace h.objects ?_⟩
    rw [TextDocument.objects_text]
    intro msg hmsg
    cases hmsg
  | insertImage pos len url isNull =>
    obtain rfl := Option.some.inj hstep
    refine embedded_insert h (by simp) ?_
    split
    · exact h.objects
    · exact hobject (by simp) pos len
  | insertTextFile pos len path file =>
    obtain rfl := Option.some.inj hstep
    unfold insertTextFile
    split_ifs
    · exact h
    · exact h
    · exact h
    · exact embedded_insert h (by simp) (hobject (by simp) pos len)
  | getMsgList =>
    obtain rfl := Option.some.inj hstep
    refine ⟨?_, ?_⟩
    · intro msg hmsg
      cases hmsg
    · intro msg hmsg
      cases hmsg

theorem embedded_of_reaches {toHtml : TextDocument → String} {s : MsgTextEdit}
    (h : Trace.Reaches (step toHtml) init s) : Embedded s := by
  refine Trace.invariant Embedded (fun _ _ _ => embedded_step) ⟨?_, ?_⟩ h
  · intro msg hmsg
    cases hmsg
  · intro msg hmsg
    cases hmsg

/-- However the document came about, `getMsgList` cuts it right exactly if it is `InOrder`. -/
theorem splits_iff {toHtml : TextDocument → String} {s : MsgTextEdit}
    (h : Trace.Reaches (step toHtml) init s) (hhtml : ShowsPaths toHtml s) :
    Splits s.document (getMsgList toHtml s).2 ↔ InOrder s := by
  have hshown : shownIn (toHtml s.document) s.temporaryList = s.temporaryList.filter s.isShown := by
    refine List.filter_congr fun msg hmsg => Bool.eq_iff_iff.mpr ?_
    rw [hhtml msg hmsg, isShown, List.any_eq_true]
  rw [splits_getMsgList_iff toHtml (embedded_of_reaches h), hshown]
  exact ⟨fun h => ⟨h.1, h.2⟩, fun h => ⟨h.objects, h.typed⟩⟩

/-- HTML of a document, the text before and after it left out. -/
def bodyHtml (d : TextDocument) : String :=
  .ofList (d.flatMap fun
    | .inl c => [c]
    | .inr msg => "<img src=\"".toList ++ msg.content.toList ++ "\" />".toList)

theorem splits_oneImage : ∃ s,
    Trace.exec (step bodyHtml) init [.insertImage 0 0 "a.png" false] = some s ∧
      Splits s.document (getMsgList bodyHtml s).2 := by
  refine ⟨_, rfl, (splits_iff ⟨[.insertImage 0 0 "a.png" false], rfl⟩ ?_).mpr ⟨?_, ?_⟩⟩
  · intro msg hmsg
    rw [List.mem_singleton.mp hmsg]
    decide
  · decide
  · decide

/-- The second image is put before the first one. -/
theorem not_splits_insertedBefore : ∃ s,
    Trace.exec (step bodyHtml) init
      [.insertImage 0 0 "a.png" false, .insertImage 0 0 "b.png" false] = some s ∧
    ShowsPaths bodyHtml s ∧ ¬ Splits s.document (getMsgList bodyHtml s).2 := by
  refine ⟨_, rfl, ?_, ?_⟩
  · intro msg hmsg
    rcases List.mem_cons.mp hmsg with hfirst | hsecond
    · rw [hfirst]
      decide
    · rw [List.mem_singleton.mp hsecond]
      decide
  · intro h
    exact absurd h.singles (by decide)

/-! ## Objects that are only added at the end -/

/-- Objects are inserted behind those that are there, and stay. -/
def Appends (s : MsgTextEdit) : Event → Prop
  | .edit pos len text => TextDocument.objects ((s.document.drop pos).take len) = [] ∧
      TextDocument.objectReplacementCharacter ∉ text
  | .insertImage pos _ _ isNull =>
    TextDocument.objects (s.document.drop pos) = [] ∧ isNull = false
  | .insertTextFile pos _ _ _ => TextDocument.objects (s.document.drop pos) = []
  | .getMsgList => True

structure Appended (s : MsgTextEdit) : Prop where
  objects : s.document.objects = s.temporaryList
  typed : TextDocument.objectReplacementCharacter ∉ s.document.typed

theorem typed_replace {d : TextDocument} {pos len : Nat} {inserted : TextDocument} {c : Char}
    (hd : c ∉ d.typed) (hinserted : c ∉ inserted.typed) :
    c ∉ (d.replace pos len inserted).typed := by
  rw [TextDocument.split_at d pos len, TextDocument.typed_append, TextDocument.typed_append] at hd
  simp only [TextDocument.replace, TextDocument.typed_append, List.mem_append, not_or] at hd ⊢
  exact ⟨⟨hd.1, hinserted⟩, hd.2.2⟩

theorem appended_insert {s : MsgTextEdit} (h : Appended s) {pos : Nat}
    (hpos : TextDocument.objects (s.document.drop pos) = []) (len : Nat) (msg : MsgInfo) :
    Appended
      { document := s.document.replace pos len [.inr msg]
        temporaryList := s.temporaryList ++ [msg] } where
  objects := by
    have hsplit := congrArg TextDocument.objects (List.take_append_drop pos s.document)
    rw [TextDocument.objects_append, hpos, List.append_nil] at hsplit
    have hafter := congrArg TextDocument.objects (List.take_append_drop len (s.document.drop pos))
    rw [TextDocument.objects_append, hpos, List.append_eq_nil_iff, List.drop_drop] at hafter
    show TextDocument.objects _ = _
    rw [TextDocument.replace, TextDocument.objects_append, TextDocument.objects_append, hafter.2,
      hsplit, ← h.objects, List.append_nil]
    rfl
  typed := typed_replace h.typed List.not_mem_nil

theorem appended_step {toHtml : TextDocument → String} {s s' : MsgTextEdit} {e : Event}
    (h : Appended s) (happends : Appends s e) (hstep : step toHtml s e = some s') :
    Appended s' := by
  cases e with
  | edit pos len text =>
    obtain rfl := Option.some.inj hstep
    obtain ⟨hselected, htext⟩ := happends
    refine ⟨?_, typed_replace h.typed ?_⟩
    · have hobjects := h.objects
      rw [TextDocument.split_at s.document pos len, TextDocument.objects_append,
        TextDocument.objects_append, hselected, List.nil_append] at hobjects
      show TextDocument.objects (TextDocument.replace _ _ _ _) = s.temporaryList
      rw [TextDocument.replace, TextDocument.objects_append, TextDocument.objects_append,
        TextDocument.objects_text, List.append_nil]
      exact hobjects
    · rw [TextDocument.typed, List.filterMap_map]
      exact fun hmem => htext (by simpa using hmem)
  | insertImage pos len url isNull =>
    obtain rfl := Option.some.inj hstep
    obtain ⟨hpos, hread⟩ := happends
    rw [insertImage, hread, if_neg Bool.false_ne_true]
    exact appended_insert h hpos len _
  | insertTextFile pos len path file =>
    obtain rfl := Option.some.inj hstep
    unfold insertTextFile
    split_ifs
    · exact h
    · exact h
    · exact h
    · exact appended_insert h happends len _
  | getMsgList =>
    obtain rfl := Option.some.inj hstep
    exact ⟨rfl, List.not_mem_nil⟩

/-- As long as objects are only added at the end, every document is `InOrder`. -/
theorem inOrder_of_appends {toHtml : TextDocument → String} {s : MsgTextEdit} {es : List Event}
    (h : Trace.Meets (step toHtml) Appends init es)
    (hexec : Trace.exec (step toHtml) init es = some s) : InOrder s := by
  have halways := Trace.always_of_meets Appended (fun _ _ _ => appended_step)
    (show Appended init from ⟨rfl, List.not_mem_nil⟩) h
  have hs := Trace.exec_of_always halways hexec
  refine ⟨?_, hs.typed⟩
  rw [hs.objects, List.filter_eq_self.mpr]
  intro msg hmsg
  rw [isShown, List.any_eq_true]
  refine ⟨msg, ?_, decide_eq_true (List.infix_refl _)⟩
  rw [hs.objects]
  exact hmsg

end MsgTextEdit

end DistributedIM.Client
