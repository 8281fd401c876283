/-
  How large the requests of `on_send_message_clicked` are for the chatting server, which drops a
  connection whose frame has a body of more than `MAX_LENGTH` bytes.

  The page parts the texts by their UTF-16 lengths; the body is JSON in UTF-8, with escapes and,
  for every text, both users and a unique id. `framesFit_iff` gives the sizes: a flush sends the
  object of the text before it, and the last request every text of the last batch. A batch within
  `TXT_MSG_BUFFER_SIZE` can take more than `MAX_LENGTH`, and a single text can be of any size.
-/
import DistributedIM.Client.ChattingStackPage
import DistributedIM.Buffer.SessionReceive
import DistributedIM.Lib.JsonText

namespace DistributedIM.Client

open DistributedIM.Buffer (chattingSession)
open Json (textSize escapedChar)
open String (utf8Len)

/-! ## Sizes of texts -/

@[simp] theorem textSize_append (a b : String) : textSize (a ++ b) = textSize a + textSize b := by
  simp [textSize]

/-- Characters that take one byte and need no escape. -/
theorem textSize_ofList {cs : List Char} (h : ∀ c ∈ cs, utf8Len (escapedChar c) = 1) :
    textSize (.ofList cs) = cs.length := by
  rw [textSize, String.toList_ofList, List.map_congr_left h]
  simp

theorem textSize_hexDigits (u : QUuid) (start len : Nat) :
    textSize (.ofList (u.hexDigits start len)) = len := by
  have hdigit : ∀ n : Fin 16, utf8Len (escapedChar (Nat.digitChar n)) = 1 := by
    decide
  rw [textSize_ofList]
  · simp [QUuid.hexDigits]
  · intro c hc
    obtain ⟨i, -, rfl⟩ := List.mem_map.mp hc
    exact hdigit (u.extractLsb' (124 - 4 * i) 4).toFin

/-- A unique id takes 38 bytes. -/
@[simp] theorem textSize_toString (u : QUuid) : textSize u.toString = 38 := by
  have hhyphen : textSize (.ofList ['-']) = 1 := rfl
  have hopen : textSize "\x7b" = 1 := rfl
  have hclose : textSize "\x7d" = 1 := rfl
  simp only [QUuid.toString, quuid, textSize_append, String.ofList_append, textSize_hexDigits,
    hhyphen, hopen, hclose]

/-! ## Objects of items -/

namespace StackPage

/-- The object after an item without a text. -/
def bareObj (p : StackPage) : Json.Object :=
  [("msg_receiver", .string p.friendUuid), ("msg_sender", .string p.curUuid)]

/-- The object of a text. -/
def itemObj (p : StackPage) (id : QUuid) (content : String) : Json.Object :=
  [("msg_content", .string content), ("msg_receiver", .string p.friendUuid),
    ("msg_sender", .string p.curUuid), ("unique_id", .string id.toString)]

/-- The bytes of the two users in every object. -/
def usersSize (p : StackPage) : Nat :=
  textSize p.curUuid + textSize p.friendUuid

def itemSize (p : StackPage) (content : String) : Nat :=
  105 + p.usersSize + textSize content

/-- What a flush sends: the object of the last text, if there is one since the last flush. -/
def flushedSize (p : StackPage) (batch : List String) : Nat :=
  match batch.getLast? with
  | none => 35 + p.usersSize
  | some content => p.itemSize content

/-- The last request. -/
def lastSize (p : StackPage) (threadId : String) (list : List MsgInfo) (batch : List String) :
    Nat :=
  if list = [] then 70 + textSize threadId
  else 66 + textSize threadId + p.usersSize + (batch.map p.itemSize).sum + (batch.length - 1)

theorem size_bareObj (p : StackPage) : (Json.object p.bareObj).size = 35 + p.usersSize := by
  have hreceiver : textSize "msg_receiver" = 12 := rfl
  have hsender : textSize "msg_sender" = 10 := rfl
  simp [Json.size_object, bareObj, usersSize, hreceiver, hsender]
  omega

theorem size_itemObj (p : StackPage) (id : QUuid) (content : String) :
    (Json.object (p.itemObj id content)).size = p.itemSize content := by
  have hcontent : textSize "msg_content" = 11 := rfl
  have hreceiver : textSize "msg_receiver" = 12 := rfl
  have hsender : textSize "msg_sender" = 10 := rfl
  have hid : textSize "unique_id" = 9 := rfl
  simp [Json.size_object, itemObj, itemSize, usersSize, hcontent, hreceiver, hsender, hid]
  omega

theorem size_textObj (threadId : String) (obj : Json.Object) (array : List Json) :
    (Json.object (textObj threadId obj array)).size =
      62 + textSize threadId + (obj.get "msg_sender").size + (obj.get "msg_receiver").size +
        (array.map Json.size).sum + (array.length - 1) := by
  have hthread : textSize "thread_id" = 9 := rfl
  have hsender : textSize "text_sender" = 11 := rfl
  have hreceiver : textSize "text_receiver" = 13 := rfl
  have hmsg : textSize "text_msg" = 8 := rfl
  have hobj : textObj threadId obj array = [("text_msg", .array array),
      ("text_receiver", obj.get "msg_receiver"), ("text_sender", obj.get "msg_sender"),
      ("thread_id", .string threadId)] := rfl
  rw [hobj]
  simp [Json.size_object, Json.size_array, hthread, hsender, hreceiver, hmsg]
  omega

/-! ## The loop -/

/-- The object of an item, before its text is put in. -/
def objAfter (p : StackPage) (id : QUuid) (batch : List String) : Json.Object :=
  match batch.getLast? with
  | none => p.bareObj
  | some content => p.itemObj id content

theorem size_objAfter (p : StackPage) (id : QUuid) (batch : List String) :
    (Json.object (p.objAfter id batch)).size = p.flushedSize batch := by
  unfold objAfter flushedSize
  split
  · exact p.size_bareObj
  · exact p.size_itemObj id _

theorem identify_objAfter (p : StackPage) (id : QUuid) (batch : List String) :
    p.identify (p.objAfter id batch) = p.objAfter id batch := by
  unfold objAfter
  split <;> rfl

/-- A text replaces the one before it. -/
theorem insert_objAfter (p : StackPage) (id id' : QUuid) (batch : List String) (content : String) :
    ((p.objAfter id batch).insert "unique_id" (.string id'.toString)).insert "msg_content"
      (.string content) = p.itemObj id' content := by
  unfold objAfter
  split <;> rfl

/-- The sizes of what has been sent and of what waits in the array, after the items `done`. -/
structure Framed (p : StackPage) (prior : Nat) (done : List MsgInfo) (s : Click) : Prop where
  sent : s.sent.map (fun request => (Json.object request).size) =
    (batches prior (typedTexts done)).flushed.map p.flushedSize
  array : s.array.map Json.size = (batches prior (typedTexts done)).last.map p.itemSize
  obj : ∃ id, p.identify s.obj = p.objAfter id (batches prior (typedTexts done)).last

variable {p : StackPage} {prior : Nat} {done : List MsgInfo} {s : Click}

theorem framed_other {info : MsgInfo} (hother : info.type ≠ .text) (h : Framed p prior done s) :
    Framed p prior (done ++ [info]) (p.sendItem s info) := by
  have htyped : typedTexts (done ++ [info]) = typedTexts done := by
    rw [typedTexts_append, typedTexts_other hother, List.append_nil]
  obtain ⟨id, hobj⟩ := h.obj
  rw [sendItem_other hother]
  constructor
  · rw [htyped]
    exact h.sent
  · rw [htyped]
    exact h.array
  · refine ⟨id, ?_⟩
    rw [htyped, ← identify_objAfter, ← hobj]

theorem framed_text {info : MsgInfo} (htext : info.type = .text) (hs : Sending p prior done s)
    (h : Framed p prior done s) : Framed p prior (done ++ [info]) (p.sendItem s info) := by
  have htyped : typedTexts (done ++ [info]) = typedTexts done ++ [info.content] := by
    rw [typedTexts_append, typedTexts_text htext]
  obtain ⟨id, hobj⟩ := h.obj
  have hitem : ∀ created, ((p.identify s.obj).insert "unique_id"
      (.string (p.createUuid created).toString)).insert "msg_content" (.string info.content) =
        p.itemObj (p.createUuid created) info.content := by
    intro created
    rw [hobj, insert_objAfter]
  rw [sendItem_text htext]
  by_cases hcross : txtMsgBufferSize < addSize s.textMsgCounter (utf16Length info.content)
  · have hadd : batches prior (typedTexts (done ++ [info])) =
        ⟨(batches prior (typedTexts done)).flushed ++ [(batches prior (typedTexts done)).last],
          [info.content], addSize 0 (utf16Length info.content)⟩ := by
      rw [htyped, batches_concat, Batches.add, ← hs.counter, if_pos hcross]
    rw [flush, if_pos hcross]
    constructor
    · rw [hadd]
      simp only [appendText, List.map_append, List.map_cons, List.map_nil, h.sent, hobj,
        size_objAfter]
    · rw [hadd]
      simp only [appendText, hitem, List.nil_append, List.map_cons, List.map_nil, size_itemObj]
    · refine ⟨p.createUuid s.created, ?_⟩
      rw [hadd]
      simp only [appendText, hitem]
      rfl
  · have hadd : batches prior (typedTexts (done ++ [info])) =
        ⟨(batches prior (typedTexts done)).flushed,
          (batches prior (typedTexts done)).last ++ [info.content],
          addSize s.textMsgCounter (utf16Length info.content)⟩ := by
      rw [htyped, batches_concat, Batches.add, ← hs.counter, if_neg hcross]
    rw [flush, if_neg hcross]
    constructor
    · rw [hadd]
      exact h.sent
    · rw [hadd]
      simp only [appendText, hitem, List.map_append, List.map_cons, List.map_nil, size_itemObj,
        h.array]
    · refine ⟨p.createUuid s.created, ?_⟩
      rw [hadd]
      simp only [appendText, hitem, objAfter, List.getLast?_concat]
      rfl

/-- The whole loop. -/
theorem framed_foldl (list : List MsgInfo) (hs : Sending p prior done s)
    (h : Framed p prior done s) : Framed p prior (done ++ list) (list.foldl p.sendItem s) := by
  induction list generalizing done s with
  | nil => rwa [List.append_nil]
  | cons info list ih =>
    rw [List.append_cons]
    refine ih (sending_sendItem info hs) ?_
    by_cases htext : info.type = .text
    · exact framed_text htext hs h
    · exact framed_other htext h

theorem framed_click (p : StackPage) (prior created : Nat) (list : List MsgInfo) :
    Framed p prior list (list.foldl p.sendItem (.start prior created)) :=
  framed_foldl list (sending_start p prior created) ⟨rfl, rfl, 0, rfl⟩

/-- The sizes of the requests of a click. -/
theorem sizes_onSendMessageClicked (p : StackPage) (threadId : String) (counter created : Nat)
    (list : List MsgInfo) :
    (p.onSendMessageClicked (some threadId) counter created list).sent.map
        (fun request => (Json.object request).size) =
      (batches counter (typedTexts list)).flushed.map p.flushedSize ++
        [p.lastSize threadId list (batches counter (typedTexts list)).last] := by
  have hsending := p.sending_click counter created list
  have hframed := p.framed_click counter created list
  simp only [onSendMessageClicked]
  generalize list.foldl p.sendItem (.start counter created) = s at hsending hframed ⊢
  have hlength : s.array.length = (batches counter (typedTexts list)).last.length := by
    simpa using congrArg List.length hframed.array
  rw [List.map_append, hframed.sent, List.map_singleton, size_textObj, hsending.sender,
    hsending.receiver, hframed.array, hlength, lastSize]
  cases list with
  | nil =>
    have hlast : (batches counter (typedTexts [])).last = [] := rfl
    simp only [if_true, Json.size_null, hlast, List.map_nil, List.sum_nil, List.length_nil]
    congr 2
    omega
  | cons info list =>
    simp only [reduceCtorEq, if_false, Json.size_string, usersSize]
    congr 2
    omega

end StackPage

/-! ## Frames -/

/-- `handle_header` accepts the length of every request. -/
def FramesFit (s : Click) : Prop :=
  ∀ request ∈ s.sent, (Json.object request).size ≤ chattingSession.maxLength

/-- The object before every flush is small enough, and so is the last batch with both users in
    each of its items. -/
def SizesFit (p : StackPage) (thread : Option String) (counter : Nat) (list : List MsgInfo) :
    Prop :=
  match thread with
  | none => True
  | some threadId =>
    (∀ batch ∈ (batches counter (typedTexts list)).flushed, p.flushedSize batch ≤ 2048) ∧
      p.lastSize threadId list (batches counter (typedTexts list)).last ≤ 2048

theorem framesFit_some_iff (p : StackPage) (threadId : String) (counter created : Nat)
    (list : List MsgInfo) :
    FramesFit (p.onSendMessageClicked (some threadId) counter created list) ↔
      SizesFit p (some threadId) counter list := by
  have hsizes := p.sizes_onSendMessageClicked threadId counter created list
  have hmap : FramesFit (p.onSendMessageClicked (some threadId) counter created list) ↔
      ∀ n ∈ (p.onSendMessageClicked (some threadId) counter created list).sent.map
        (fun request => (Json.object request).size), n ≤ 2048 := by
    rw [List.forall_mem_map]
    rfl
  rw [hmap, hsizes, List.forall_mem_append, List.forall_mem_map, List.forall_mem_singleton]
  rfl

/-- Every frame fits exactly if the sizes of the batches do. -/
theorem framesFit_iff (p : StackPage) (thread : Option String) (counter created : Nat)
    (list : List MsgInfo) :
    FramesFit (p.onSendMessageClicked thread counter created list) ↔
      SizesFit p thread counter list := by
  cases thread with
  | none => exact iff_of_true (fun request hrequest => absurd hrequest List.not_mem_nil) trivial
  | some threadId => exact framesFit_some_iff p threadId counter created list

theorem textSize_replicate (n : Nat) : textSize (.ofList (.replicate n '中')) = 3 * n := by
  have hchar : utf8Len (escapedChar '中') = 3 := rfl
  simp [textSize, hchar, Nat.mul_comm]

/-- A single text takes more than its own bytes, whether it is flushed or not. -/
theorem textSize_le_of_framesFit {p : StackPage} {threadId content : String}
    {counter created : Nat}
    (h : FramesFit (p.onSendMessageClicked (some threadId) counter created [⟨.text, content⟩])) :
    171 + textSize content ≤ 2048 := by
  rw [framesFit_some_iff] at h
  have hlast := h.2
  have hbatch : (batches counter (typedTexts [⟨.text, content⟩])).last = [content] := by
    have htexts : typedTexts [⟨.text, content⟩] = [content] := rfl
    rw [htexts, batches, List.foldl_cons, List.foldl_nil, Batches.add]
    split <;> rfl
  rw [hbatch, StackPage.lastSize, if_neg (List.cons_ne_nil _ _)] at hlast
  simp only [List.map_cons, List.map_nil, List.sum_cons, List.sum_nil,
    StackPage.itemSize] at hlast
  omega

/-- One text of 700 characters, which the buffer has room for, takes 2100 bytes. -/
theorem not_framesFit_wideText :
    ¬FramesFit (StackPage.onSendMessageClicked ⟨"1", "2", BitVec.ofNat _⟩ (some "7") 0 0
      [⟨.text, .ofList (.replicate 700 '中')⟩]) := by
  intro h
  have hsize := textSize_le_of_framesFit h
  rw [textSize_replicate] at hsize
  omega

end DistributedIM.Client
