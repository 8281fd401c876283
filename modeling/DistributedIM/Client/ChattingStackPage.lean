/-
  Sending what has been typed: `ChattingStackPage::on_send_message_clicked`, one loop over the items
  of the input with a JSON object, an array and a character counter that are used again and again.

  When a text makes the counter pass `TXT_MSG_BUFFER_SIZE`, the loop fills in a request with the
  array, drops it, empties the array, and sends the object of the item instead, which has none of
  the fields of a request. `everythingSent_iff`: all that was typed is sent exactly if that never
  happens, and something was typed at all: without an item the last request names no sender.

  `Batches` says how the loop parts the texts. Numbers are `std::size_t` of 64 bits. Texts are
  Unicode, so `fromUtf8(toUtf8())` is left out; `send_buffer` copies the object it is given.
-/
import DistributedIM.Client.UserChatThread
import DistributedIM.Lib.Json
import Mathlib.Algebra.Ring.Nat

namespace DistributedIM.Client

/-! ## The click -/

/-- `MsgInfo` of `MsgTextEdit`. -/
structure MsgInfo where
  type : MsgType
  content : String
  deriving DecidableEq, Repr

/-- `QString::length` -/
def utf16Length (s : String) : Nat :=
  (s.toList.map fun c => if c.toNat < 0x10000 then 1 else 2).sum

/-- `TXT_MSG_BUFFER_SIZE` -/
def txtMsgBufferSize : Nat := 1024

/-- `std::size_t` addition. -/
def addSize (a b : Nat) : Nat :=
  (a + b) % 2 ^ 64

abbrev QUuid := BitVec 128

namespace QUuid

def hexDigits (u : QUuid) (start len : Nat) : List Char :=
  (List.range' start len).map fun i => Nat.digitChar (u.extractLsb' (124 - 4 * i) 4).toNat

/-- `QUuid::toString` -/
def toString (u : QUuid) : String :=
  quuid (.ofList (hexDigits u 0 8 ++ ['-'] ++ hexDigits u 8 4 ++ ['-'] ++ hexDigits u 12 4 ++
    ['-'] ++ hexDigits u 16 4 ++ ['-'] ++ hexDigits u 20 12))

end QUuid

/-- What a click does not change: the two users of the page, and what `createUuid` returns. -/
structure StackPage where
  curUuid : String
  friendUuid : String
  createUuid : Nat → QUuid

/-- The variables of the loop, the requests it has sent, and the messages it has emitted
    `signal_append_chat_message` with. -/
structure Click where
  obj : Json.Object
  array : List Json
  textMsgCounter : Nat
  /-- `QUuid`s created so far -/
  created : Nat
  sent : List Json.Object
  appended : List (Option ChattingRecord)

def Click.start (counter created : Nat) : Click where
  obj := []
  array := []
  textMsgCounter := counter
  created := created
  sent := []
  appended := []

/-- `generatePackage` of an object. -/
def generatePackageObj (type : MsgType) (obj : Json.Object) : Option ChattingRecord :=
  match type with
  | .text =>
    some (chattingTextMsg (obj.text "msg_sender") (obj.text "msg_receiver") (obj.text "unique_id")
      (obj.text "msg_content"))
  | _ => none

/-- `text_obj` -/
def textObj (threadId : String) (obj : Json.Object) (array : List Json) : Json.Object :=
  (((Json.Object.insert [] "thread_id" (.string threadId)).insert "text_sender"
    (obj.get "msg_sender")).insert "text_receiver" (obj.get "msg_receiver")).insert "text_msg"
      (.array array)

namespace StackPage

/-- The identities in the object of an item. -/
def identify (p : StackPage) (obj : Json.Object) : Json.Object :=
  (obj.insert "msg_sender" (.string p.curUuid)).insert "msg_receiver" (.string p.friendUuid)

/-- The flush; `text_obj` is filled in and cleared again, and `obj` is sent. -/
def flush (s : Click) (content : String) (obj : Json.Object) : Click :=
  if txtMsgBufferSize < addSize s.textMsgCounter (utf16Length content) then
    { s with array := [], textMsgCounter := 0, sent := s.sent ++ [obj] }
  else s

/-- A text item, after the flush. -/
def appendText (p : StackPage) (s : Click) (content : String) (obj : Json.Object) : Click :=
  let obj := (obj.insert "unique_id" (.string (p.createUuid s.created).toString)).insert
    "msg_content" (.string content)
  { s with
    obj := obj
    array := s.array ++ [.object obj]
    textMsgCounter := addSize s.textMsgCounter (utf16Length content)
    created := s.created + 1
    appended := s.appended ++ [generatePackageObj .text obj] }

/-- One round of the loop. -/
def sendItem (p : StackPage) (s : Click) (info : MsgInfo) : Click :=
  let obj := p.identify s.obj
  match info.type with
  | .text => p.appendText (flush s info.content obj) info.content obj
  | type => { s with obj := obj, appended := s.appended ++ [generatePackageObj type obj] }

/-- The thread is none if the friend has no thread with the user. -/
def onSendMessageClicked (p : StackPage) (thread : Option String) (counter created : Nat)
    (list : List MsgInfo) : Click :=
  match thread with
  | none => .start counter created
  | some threadId =>
    let s := list.foldl p.sendItem (.start counter created)
    { s with sent := s.sent ++ [textObj threadId s.obj s.array], textMsgCounter := 0 }

end StackPage

/-! ## What it is for -/

/-- The texts among the items. -/
def typedTexts (list : List MsgInfo) : List String :=
  (list.filter fun info => info.type = .text).map MsgInfo.content

/-- A text message by its unique id and its content. -/
abbrev Sent := String × String

def itemOf : Json → List Sent
  | .object obj => [(Json.Object.text obj "unique_id", Json.Object.text obj "msg_content")]
  | _ => []

/-- The items of the `text_msg` array of a request. -/
def itemsOf (request : Json.Object) : List Sent :=
  match request.get "text_msg" with
  | .array items => items.flatMap itemOf
  | _ => []

/-- The messages stored locally. -/
def storedTexts (s : Click) : List Sent :=
  s.appended.flatMap fun record => (record.map fun r => (r.uniqueId, r.msgContent)).toList

/-- The fields that `handlingTextChatMsg` asks for and reads. -/
structure HasRequiredFields (request : Json.Object) : Prop where
  threadId : (request.get "thread_id").asText.isSome
  textSender : (request.get "text_sender").asText.isSome
  textReceiver : (request.get "text_receiver").asText.isSome
  textMsg : ∃ items, request.get "text_msg" = .array items

/-- The requests carry the typed texts, in order, as they are stored locally. -/
structure EverythingSent (list : List MsgInfo) (s : Click) : Prop where
  sent : s.sent.flatMap itemsOf = storedTexts s
  typed : (s.sent.flatMap itemsOf).map Prod.snd = typedTexts list
  fields : ∀ request ∈ s.sent, HasRequiredFields request

/-! ## Batches -/

/-- The texts parted by the flushes, and the counter. -/
structure Batches where
  flushed : List (List String)
  last : List String
  counter : Nat
  deriving DecidableEq, Repr

namespace Batches

def start (counter : Nat) : Batches where
  flushed := []
  last := []
  counter := counter

def add (b : Batches) (content : String) : Batches :=
  if txtMsgBufferSize < addSize b.counter (utf16Length content) then
    { flushed := b.flushed ++ [b.last], last := [content]
      counter := addSize 0 (utf16Length content) }
  else
    { flushed := b.flushed, last := b.last ++ [content]
      counter := addSize b.counter (utf16Length content) }

end Batches

/-- How the texts are parted. -/
def batches (counter : Nat) (texts : List String) : Batches :=
  texts.foldl Batches.add (.start counter)

/-- No text makes the counter pass the buffer size. -/
def FitsBuffer (counter : Nat) (texts : List String) : Prop :=
  ∀ n < texts.length,
    (counter + ((texts.take (n + 1)).map utf16Length).sum) % 2 ^ 64 ≤ txtMsgBufferSize

theorem fitsBuffer_cons (counter : Nat) (content : String) (texts : List String) :
    FitsBuffer counter (content :: texts) ↔
      ¬txtMsgBufferSize < addSize counter (utf16Length content) ∧
        FitsBuffer (addSize counter (utf16Length content)) texts := by
  have hsum : ∀ n, (addSize counter (utf16Length content) +
      ((texts.take (n + 1)).map utf16Length).sum) % 2 ^ 64 =
        (counter + (((content :: texts).take (n + 2)).map utf16Length).sum) % 2 ^ 64 := by
    intro n
    rw [List.take_succ_cons, List.map_cons, List.sum_cons, addSize, Nat.mod_add_mod, Nat.add_assoc]
  constructor
  · intro h
    constructor
    · have hfirst := h 0 (Nat.succ_pos _)
      simp only [Nat.zero_add, List.take_succ_cons, List.take_zero, List.map_cons, List.map_nil,
        List.sum_cons, List.sum_nil, Nat.add_zero] at hfirst
      exact Nat.not_lt.mpr hfirst
    · intro n hn
      rw [hsum]
      exact h (n + 1) (Nat.succ_lt_succ hn)
  · rintro ⟨hfirst, hrest⟩ n hn
    cases n with
    | zero =>
      simp only [Nat.zero_add, List.take_succ_cons, List.take_zero, List.map_cons, List.map_nil,
        List.sum_cons, List.sum_nil, Nat.add_zero]
      exact Nat.not_lt.mp hfirst
    | succ n =>
      rw [← hsum]
      exact hrest n (Nat.lt_of_succ_lt_succ hn)

theorem flushed_prefix_foldl (b : Batches) (texts : List String) :
    b.flushed <+: (texts.foldl Batches.add b).flushed := by
  induction texts generalizing b with
  | nil => exact List.prefix_refl _
  | cons content texts ih =>
    refine List.IsPrefix.trans ?_ (ih (b.add content))
    unfold Batches.add
    split
    · exact List.prefix_append ..
    · exact List.prefix_refl _

theorem flushed_foldl_eq_nil_iff {b : Batches} (hb : b.flushed = []) (texts : List String) :
    (texts.foldl Batches.add b).flushed = [] ↔ FitsBuffer b.counter texts := by
  induction texts generalizing b with
  | nil => exact iff_of_true hb fun n hn => absurd hn (Nat.not_lt_zero n)
  | cons content texts ih =>
    rw [fitsBuffer_cons, List.foldl_cons]
    by_cases hcross : txtMsgBufferSize < addSize b.counter (utf16Length content)
    · refine iff_of_false (fun hnil => ?_) fun h => h.1 hcross
      have hprefix := flushed_prefix_foldl (b.add content) texts
      rw [hnil, List.prefix_nil, Batches.add, if_pos hcross] at hprefix
      simp at hprefix
    · rw [and_iff_right hcross]
      have hadd : b.add content = ⟨b.flushed, b.last ++ [content],
          addSize b.counter (utf16Length content)⟩ := by
        rw [Batches.add, if_neg hcross]
      rw [hadd]
      exact ih hb

/-- Nothing is flushed exactly if the texts fit. -/
theorem flushed_batches_eq_nil_iff (counter : Nat) (texts : List String) :
    (batches counter texts).flushed = [] ↔ FitsBuffer counter texts :=
  flushed_foldl_eq_nil_iff rfl texts

@[simp] theorem batches_concat (counter : Nat) (texts : List String) (content : String) :
    batches counter (texts ++ [content]) = (batches counter texts).add content := by
  rw [batches, List.foldl_append]
  rfl

/-! ## The loop -/

theorem typedTexts_append (list list' : List MsgInfo) :
    typedTexts (list ++ list') = typedTexts list ++ typedTexts list' := by
  rw [typedTexts, List.filter_append, List.map_append]
  rfl

theorem typedTexts_text {info : MsgInfo} (h : info.type = .text) :
    typedTexts [info] = [info.content] := by
  simp [typedTexts, h]

theorem typedTexts_other {info : MsgInfo} (h : info.type ≠ .text) : typedTexts [info] = [] := by
  simp [typedTexts, h]

theorem generatePackageObj_other {type : MsgType} (h : type ≠ .text) (obj : Json.Object) :
    generatePackageObj type obj = none := by
  unfold generatePackageObj
  split
  · contradiction
  · rfl

/-- What holds after the items `done`, with `prior` the counter before the click. -/
structure Sending (p : StackPage) (prior : Nat) (done : List MsgInfo) (s : Click) : Prop where
  counter : s.textMsgCounter = (batches prior (typedTexts done)).counter
  flushes : s.sent.length = (batches prior (typedTexts done)).flushed.length
  flushed : ∀ request ∈ s.sent, request.get "thread_id" = .null
  threadId : s.obj.get "thread_id" = .null
  sender : s.obj.get "msg_sender" = if done = [] then .null else .string p.curUuid
  receiver : s.obj.get "msg_receiver" = if done = [] then .null else .string p.friendUuid
  items : s.sent = [] → s.array.flatMap itemOf = storedTexts s
  typed : (storedTexts s).map Prod.snd = typedTexts done

namespace StackPage

variable {p : StackPage} {prior : Nat} {done : List MsgInfo} {s : Click}

theorem sendItem_text {info : MsgInfo} (h : info.type = .text) :
    p.sendItem s info =
      p.appendText (flush s info.content (p.identify s.obj)) info.content (p.identify s.obj) := by
  rw [sendItem, h]

theorem sendItem_other {info : MsgInfo} (h : info.type ≠ .text) :
    p.sendItem s info =
      { s with obj := p.identify s.obj, appended := s.appended ++ [none] } := by
  unfold sendItem
  split
  · contradiction
  · simp only [generatePackageObj_other h]

/-- Once an item has set them, the identities stay. -/
theorem sending_other {info : MsgInfo} (hother : info.type ≠ .text) (h : Sending p prior done s) :
    Sending p prior (done ++ [info]) (p.sendItem s info) := by
  have htyped : typedTexts (done ++ [info]) = typedTexts done := by
    rw [typedTexts_append, typedTexts_other hother, List.append_nil]
  have hstored : storedTexts (p.sendItem s info) = storedTexts s := by
    rw [sendItem_other hother]
    simp [storedTexts]
  constructor
  · rw [htyped, sendItem_other hother]
    exact h.counter
  · rw [htyped, sendItem_other hother]
    exact h.flushes
  · rw [sendItem_other hother]
    exact h.flushed
  · rw [sendItem_other hother]
    simp [identify, h.threadId]
  · rw [sendItem_other hother]
    simp [identify]
  · rw [sendItem_other hother]
    simp [identify]
  · rw [hstored, sendItem_other hother]
    exact h.items
  · rw [hstored, htyped]
    exact h.typed

/-- A text is flushed before exactly if it starts a batch of its own. -/
theorem flush_batches (content : String) (obj : Json.Object) (h : Sending p prior done s)
    (hobj : obj.get "thread_id" = .null) :
    ((flush s content obj).sent.length =
        ((batches prior (typedTexts done)).add content).flushed.length ∧
      addSize (flush s content obj).textMsgCounter (utf16Length content) =
        ((batches prior (typedTexts done)).add content).counter) ∧
    (∀ request ∈ (flush s content obj).sent, request.get "thread_id" = .null) ∧
    ((flush s content obj).sent = [] → flush s content obj = s) := by
  unfold flush Batches.add
  rw [h.counter]
  split
  · refine ⟨⟨?_, rfl⟩, ?_, ?_⟩
    · rw [List.length_append, List.length_append, h.flushes]
      rfl
    · intro request hrequest
      rcases List.mem_append.mp hrequest with hold | hnew
      · exact h.flushed request hold
      · rw [List.mem_singleton.mp hnew, hobj]
    · intro hnil
      simp at hnil
  · exact ⟨⟨h.flushes, by rw [h.counter]⟩, h.flushed, fun _ => rfl⟩

@[simp] theorem flush_appended (content : String) (obj : Json.Object) :
    (flush s content obj).appended = s.appended := by
  unfold flush
  split <;> rfl

theorem sending_text {info : MsgInfo} (htext : info.type = .text) (h : Sending p prior done s) :
    Sending p prior (done ++ [info]) (p.sendItem s info) := by
  have htyped : typedTexts (done ++ [info]) = typedTexts done ++ [info.content] := by
    rw [typedTexts_append, typedTexts_text htext]
  have hid : (p.identify s.obj).get "thread_id" = .null := by
    simp [identify, h.threadId]
  obtain ⟨⟨hflushes, hcounter⟩, hflushed, hkept⟩ := flush_batches info.content _ h hid
  have hstored : storedTexts (p.sendItem s info) =
      storedTexts s ++ [((p.createUuid (flush s info.content (p.identify s.obj)).created).toString,
        info.content)] := by
    rw [sendItem_text htext]
    simp [storedTexts, appendText, generatePackageObj, chattingTextMsg, Json.Object.text,
      Json.asText]
  constructor
  · rw [htyped, batches_concat, sendItem_text htext]
    exact hcounter
  · rw [htyped, batches_concat, sendItem_text htext]
    exact hflushes
  · rw [sendItem_text htext]
    exact hflushed
  · rw [sendItem_text htext]
    simp [appendText, hid]
  · rw [sendItem_text htext]
    simp [appendText, identify]
  · rw [sendItem_text htext]
    simp [appendText, identify]
  · rw [hstored, sendItem_text htext]
    intro hnil
    have hsame := hkept hnil
    have hsent : s.sent = [] := hsame ▸ hnil
    simp [appendText, hsame, h.items hsent, itemOf, Json.Object.text, Json.asText]
  · rw [hstored, htyped, List.map_append, h.typed]
    rfl

theorem sending_sendItem (info : MsgInfo) (h : Sending p prior done s) :
    Sending p prior (done ++ [info]) (p.sendItem s info) := by
  by_cases htext : info.type = .text
  · exact sending_text htext h
  · exact sending_other htext h

/-- The whole loop. -/
theorem sending_foldl (list : List MsgInfo) (h : Sending p prior done s) :
    Sending p prior (done ++ list) (list.foldl p.sendItem s) := by
  induction list generalizing done s with
  | nil => rwa [List.append_nil]
  | cons info list ih =>
    rw [List.append_cons]
    exact ih (sending_sendItem info h)

theorem sending_start (p : StackPage) (prior created : Nat) :
    Sending p prior [] (.start prior created) := by
  constructor
  · rfl
  · rfl
  · simp [Click.start]
  · rfl
  · rfl
  · rfl
  · exact fun _ => rfl
  · rfl

theorem sending_click (p : StackPage) (prior created : Nat) (list : List MsgInfo) :
    Sending p prior list (list.foldl p.sendItem (.start prior created)) :=
  sending_foldl list (sending_start p prior created)

end StackPage

/-! ## Everything typed is sent -/

theorem get_textObj (threadId : String) (obj : Json.Object) (array : List Json) :
    (textObj threadId obj array).get "thread_id" = .string threadId ∧
    (textObj threadId obj array).get "text_sender" = obj.get "msg_sender" ∧
    (textObj threadId obj array).get "text_receiver" = obj.get "msg_receiver" ∧
    (textObj threadId obj array).get "text_msg" = .array array := by
  simp [textObj]

theorem itemsOf_textObj (threadId : String) (obj : Json.Object) (array : List Json) :
    itemsOf (textObj threadId obj array) = array.flatMap itemOf := by
  rw [itemsOf, (get_textObj threadId obj array).2.2.2]

/-- The last request has its fields exactly if an item set the identities. -/
theorem hasRequiredFields_textObj {p : StackPage} {prior : Nat} {done : List MsgInfo} {s : Click}
    (h : Sending p prior done s) (threadId : String) :
    HasRequiredFields (textObj threadId s.obj s.array) ↔ done ≠ [] := by
  obtain ⟨hthread, hsender, hreceiver, hmsg⟩ := get_textObj threadId s.obj s.array
  constructor
  · rintro hfields rfl
    have hnone := hfields.textSender
    rw [hsender, h.sender, if_pos rfl] at hnone
    simp [Json.asText] at hnone
  · intro hne
    constructor
    · rw [hthread]
      rfl
    · rw [hsender, h.sender, if_neg hne]
      rfl
    · rw [hreceiver, h.receiver, if_neg hne]
      rfl
    · exact ⟨s.array, hmsg⟩

/-- A click that sends only whole requests flushes nothing. -/
theorem fitsBuffer_of_fields {p : StackPage} {threadId : String} {counter created : Nat}
    {list : List MsgInfo}
    (h : ∀ request ∈ (p.onSendMessageClicked (some threadId) counter created list).sent,
      HasRequiredFields request) : FitsBuffer counter (typedTexts list) := by
  have hloop := p.sending_click counter created list
  simp only [StackPage.onSendMessageClicked] at h
  generalize list.foldl p.sendItem (.start counter created) = s at hloop h
  have hsent : s.sent = [] := by
    rw [List.eq_nil_iff_forall_not_mem]
    intro request hrequest
    have hthread := (h request (List.mem_append_left _ hrequest)).threadId
    rw [hloop.flushed request hrequest] at hthread
    simp [Json.asText] at hthread
  rw [← flushed_batches_eq_nil_iff, ← List.length_eq_zero_iff, ← hloop.flushes, hsent]
  rfl

/-- The friend has a thread, something is typed and the texts fit the buffer together; or there is
    neither a thread nor a text. -/
def AllSent (thread : Option String) (counter : Nat) (list : List MsgInfo) : Prop :=
  match thread with
  | none => typedTexts list = []
  | some _ => list ≠ [] ∧ FitsBuffer counter (typedTexts list)

theorem everythingSent_iff (p : StackPage) (thread : Option String) (counter created : Nat)
    (list : List MsgInfo) :
    EverythingSent list (p.onSendMessageClicked thread counter created list) ↔
      AllSent thread counter list := by
  cases thread with
  | none =>
    constructor
    · intro h
      exact h.typed.symm
    · intro h
      exact ⟨rfl, Eq.symm h, fun request hrequest => absurd hrequest List.not_mem_nil⟩
  | some threadId =>
    have hloop := p.sending_click counter created list
    constructor
    · intro h
      refine ⟨?_, fitsBuffer_of_fields h.fields⟩
      refine (hasRequiredFields_textObj hloop threadId).mp (h.fields _ ?_)
      exact List.mem_append_right _ (List.mem_singleton_self _)
    · rintro ⟨hne, hfits⟩
      rw [← flushed_batches_eq_nil_iff] at hfits
      simp only [StackPage.onSendMessageClicked]
      generalize list.foldl p.sendItem (.start counter created) = s at hloop ⊢
      have hsent : s.sent = [] := by
        rw [← List.length_eq_zero_iff, hloop.flushes, hfits]
        rfl
      have hitems : (s.sent ++ [textObj threadId s.obj s.array]).flatMap itemsOf =
          storedTexts s := by
        simp [hsent, itemsOf_textObj, hloop.items hsent]
      constructor
      · exact hitems
      · exact (congrArg (List.map Prod.snd) hitems).trans hloop.typed
      · intro request hrequest
        simp only [hsent, List.nil_append, List.mem_singleton] at hrequest
        rw [hrequest]
        exact (hasRequiredFields_textObj hloop threadId).mpr hne

theorem utf16Length_replicate (n : Nat) : utf16Length (String.ofList (.replicate n 'a')) = n := by
  simp [utf16Length]

/-- A thousand letters, then a hundred: the first text is in no request. -/
theorem not_everythingSent_twoTexts :
    ¬EverythingSent [⟨.text, .ofList (.replicate 1000 'a')⟩, ⟨.text, .ofList (.replicate 100 'a')⟩]
      (StackPage.onSendMessageClicked ⟨"alice", "bob", BitVec.ofNat _⟩ (some "7") 0 0
        [⟨.text, .ofList (.replicate 1000 'a')⟩, ⟨.text, .ofList (.replicate 100 'a')⟩]) := by
  generalize hfirst : String.ofList (.replicate 1000 'a') = first
  generalize hsecond : String.ofList (.replicate 100 'a') = second
  intro h
  have htexts : typedTexts [⟨.text, first⟩, ⟨.text, second⟩] = [first, second] := rfl
  have hfits : FitsBuffer 0 [first, second] := htexts ▸ fitsBuffer_of_fields h.fields
  have hlast := hfits 1 Nat.one_lt_two
  simp only [List.take_succ_cons, List.take_zero, List.map_cons, List.map_nil, List.sum_cons,
    List.sum_nil, ← hfirst, ← hsecond, utf16Length_replicate, txtMsgBufferSize] at hlast
  omega

end DistributedIM.Client
