/-
  Texts from the request of the sender to the session of the receiver, over any number of chatting
  servers that share the database. The worker of a server handles one request after the other: it
  stores the items one by one, each in a transaction of its own, then looks for the receiver, and
  hands the texts to a session of its own or waits for `SendChattingTextMsg` on another server. In
  between, the other servers go on, users log in and out, and other requests write. Without all
  that the steps of one request are `handlingTextChatMsg` (`exec_handlingTextChatMsg`).

  `always_storedOnce`: what a session is handed are rows of the database, and no row is handed over
  twice. `always_inOrder_iff`: a session gets what one server has stored in the order in which
  it was stored, exactly if no call that the server has given up is executed after a later one.

  Left out: what becomes of a message in the queue of a session, and the replies to the sender.
-/
import DistributedIM.Lib.Exclusive
import DistributedIM.ChattingServer.TextChatMsg
import DistributedIM.Protocol.ClusterRuns

namespace DistributedIM.Protocol.LiveTexts

open ChattingServer

/-! ## Servers -/

/-- Where the worker of a server is. -/
inductive Stage
  | idle
  /-- in `createModifyChattingHistoryRecord`: the items that are stored, and the others -/
  | storing (sid : SessionId) (request : TextChatMsg) (stored rest : List TextMsgInfo)
  /-- waits for `sendChattingTextMsg`, which the other server may have executed -/
  | calling (texts : IncomingTexts) (executed : Bool)
  deriving DecidableEq, Repr

/-- A call that its server has given up, though the other server may have it. -/
structure LeftCall where
  origin : String
  texts : IncomingTexts
  executed : Bool
  deriving DecidableEq, Repr

/-- What `sendMessage` of a session is called with, and which server has stored it. -/
structure Handed where
  origin : String
  session : SessionId
  texts : IncomingTexts
  deriving DecidableEq, Repr

structure World where
  cluster : Cluster
  store : DbStore
  worker : String → Stage
  left : List LeftCall
  handed : List Handed

def start (users : List Nat) : World where
  cluster := .init
  store := registered users
  worker _ := .idle
  left := []
  handed := []

inductive Event
  | cluster (e : ClusterEvent)
  /-- a call of another request -/
  | database (call : DbCall) (faults : List Bool)
  | request (sid : SessionId) (body : Option Json)
  | store (server : String) (faults : List Bool)
  | deliver (server : String) (get : Bool)
  /-- the other server executes the call -/
  | execute (server : String)
  /-- the call is over; if it has not been executed, it may still have been sent -/
  | ends (server : String) (sent : Bool)
  | executeLeft (k : Nat)

/-! ## Steps -/

namespace World

def setWorker (w : World) (server : String) (stage : Stage) : World :=
  { w with worker := Function.update w.worker server stage }

def hand (w : World) (d : Handed) : World :=
  { w with handed := w.handed ++ [d] }

/-- The session that `SendChattingTextMsg` finds on the other server. -/
def receiverSession (w : World) (texts : IncomingTexts) : Option SessionId :=
  match texts.destination with
  | .session _ => none
  | .server name => w.cluster.getSession name texts.textReceiver

/-- `SendChattingTextMsg`, for a call of the server `origin`. -/
def sendChattingTextMsg (w : World) (origin : String) (texts : IncomingTexts) : World :=
  match w.receiverSession texts with
  | none => w
  | some session => w.hand ⟨origin, session, texts⟩

/-- What the worker does with the texts. -/
def forward (w : World) (server : String) : List IncomingTexts → World
  | [] => w.setWorker server .idle
  | texts :: _ =>
    match texts.destination with
    | .session session => (w.hand ⟨server, session, texts⟩).setWorker server .idle
    | .server _ => w.setWorker server (.calling texts false)

end World

/-- One call of `createModifyChattingHistoryRecord`: the item is stored, or the request is over. -/
def storeItem (sql : MySql) (w : World) (server : String) (sid : SessionId)
    (request : TextChatMsg) (stored rest : List TextMsgInfo) (item : TextMsgInfo)
    (faults : List Bool) : World :=
  let out := createModifyChattingHistoryRecord sql item.info ⟨w.store, faults⟩
  let stage : Stage :=
    match out.1 with
    | .ok (true, info) => .storing sid request (stored ++ [{ item with info := info }]) rest
    | .ok (false, _) | .error _ => .idle
  { w with store := out.2.store }.setWorker server stage

def step (sql : MySql) (w : World) : Event → Option World
  | .cluster e => (ClusterRuns.step w.cluster e).map fun c => { w with cluster := c }
  | .database call faults => some { w with store := (call.run sql ⟨w.store, faults⟩).store }
  | .request sid body =>
    let server := (w.cluster.session sid).server
    if sid < w.cluster.accepted ∧ w.worker server = .idle then
      match readTextChatMsg (parseJson body).2 with
      | .error _ => some w
      | .ok request => some (w.setWorker server (.storing sid request [] request.updatedMsg))
    else none
  | .store server faults =>
    match w.worker server with
    | .storing sid request stored (item :: rest) =>
      some (storeItem sql w server sid request stored rest item faults)
    | _ => none
  | .deliver server get =>
    match w.worker server with
    | .storing sid request stored [] =>
      some (w.forward server (deliverTextChatMsg w.cluster sid get request stored).2)
    | _ => none
  | .execute server =>
    match w.worker server with
    | .calling texts false =>
      some ((w.sendChattingTextMsg server texts).setWorker server (.calling texts true))
    | _ => none
  | .ends server sent =>
    match w.worker server with
    | .calling texts executed =>
      let left := if sent && !executed then w.left ++ [⟨server, texts, false⟩] else w.left
      some ({ w with left := left }.setWorker server .idle)
    | _ => none
  | .executeLeft k =>
    match w.left[k]? with
    | some ⟨origin, texts, false⟩ =>
      some { w.sendChattingTextMsg origin texts with left := w.left.set k ⟨origin, texts, true⟩ }
    | _ => none

@[simp] theorem World.setWorker_setWorker (w : World) (server : String) (stage stage' : Stage) :
    (w.setWorker server stage).setWorker server stage' = w.setWorker server stage' := by
  unfold World.setWorker
  rw [Function.update_idem]

@[simp] theorem World.worker_setWorker (w : World) (server : String) (stage : Stage) :
    (w.setWorker server stage).worker server = stage :=
  Function.update_self ..

theorem World.setWorker_self (w : World) (server : String) :
    w.setWorker server (w.worker server) = w := by
  unfold World.setWorker
  rw [Function.update_eq_self]

/-! ## What is asked of them -/

/-- The number that the text of a message id is. -/
def ChattingHistoryData.number (m : ChattingHistoryData) : Option Nat :=
  Text.leadingDigits m.msgId.toList

def IncomingTexts.numbers (f : IncomingTexts) : List Nat :=
  f.textMsg.filterMap ChattingHistoryData.number

/-- The message has the id, the thread, the two users and the content of the row. -/
structure RowOf (sql : MySql) (row : ChatMsg) (m : ChattingHistoryData) : Prop where
  msgId : m.msgId = row.messageId.repr
  threadId : sql.bigint m.threadId = some row.threadId
  sender : Text.stoi m.msgSender = some (row.messageSender : Int)
  receiver : Text.stoi m.msgReceiver = some (row.messageReceiver : Int)
  content : m.msgContent = row.messageContent

/-- The status that a text is sent with. To a session of the same server it is the type, which the
    handler writes there; a call has the one of the row, and the other server passes none on. -/
def sentStatus (messageStatus : Nat) : Destination → Nat
  | .session _ => msgTypeText
  | .server _ => messageStatus

/-- The numbers of the texts that the session was handed and the server has stored. -/
def World.numbersFrom (w : World) (origin : String) (session : SessionId) : List Nat :=
  (w.handed.filter fun d => d.origin = origin ∧ d.session = session).flatMap fun d =>
    IncomingTexts.numbers d.texts

def InOrder (w : World) : Prop :=
  ∀ origin session, (w.numbersFrom origin session).Pairwise (· < ·)

/-- No call that its server has given up is executed after the session has been handed later texts
    of the server. -/
def Orderly (w : World) : Event → Prop
  | .executeLeft k => ∀ c ∈ w.left[k]?, c.executed = false → ∀ session ∈ w.receiverSession c.texts,
      ∀ n ∈ w.numbersFrom c.origin session, ∀ m ∈ IncomingTexts.numbers c.texts, n < m
  | _ => True

variable {sql : MySql} {w w' : World}

/-! ## The database -/

/-- Messages are only added, under numbers that the counter has given out. -/
structure Grows (s s' : DbStore) : Prop where
  rows : ∀ row ∈ s.tables.chatMsgHistoryBank, row ∈ s'.tables.chatMsgHistoryBank
  counter : s.counters.chatMsgHistoryBank ≤ s'.counters.chatMsgHistoryBank
  bounded : (∀ row ∈ s.tables.chatMsgHistoryBank,
      row.messageId ≤ s.counters.chatMsgHistoryBank) →
    ∀ row ∈ s'.tables.chatMsgHistoryBank, row.messageId ≤ s'.counters.chatMsgHistoryBank

theorem Grows.refl (s : DbStore) : Grows s s :=
  ⟨fun _ h => h, le_refl _, fun h => h⟩

theorem Grows.trans {s m s' : DbStore} (h : Grows s m) (h' : Grows m s') : Grows s s' where
  rows row hrow := h'.rows row (h.rows row hrow)
  counter := le_trans h.counter h'.counter
  bounded hbounded := h'.bounded (h.bounded hbounded)

theorem grows_of_eq {s s' : DbStore}
    (hbank : s'.tables.chatMsgHistoryBank = s.tables.chatMsgHistoryBank)
    (hcounter : s.counters.chatMsgHistoryBank ≤ s'.counters.chatMsgHistoryBank) : Grows s s' where
  rows row hrow := by rwa [hbank]
  counter := hcounter
  bounded h row hrow := by
    rw [hbank] at hrow
    exact le_trans (h row hrow) hcounter

theorem grows_addMsg (thread status a b : Nat) (content : String) (s : DbStore) :
    Grows s (addMsg thread status a b content s) where
  rows _ hrow := List.mem_append_left _ hrow
  counter := Nat.le_succ _
  bounded h row hrow := by
    rcases List.mem_append.mp hrow with hold | hnew
    · exact Nat.le_succ_of_le (h row hold)
    · rw [List.mem_singleton.mp hnew]
      exact Nat.le_refl _

theorem grows_effect {s s' : DbStore} (h : DbEffect s s') : Grows s s' := by
  cases h with
  | same htables hcounters => exact grows_of_eq (by rw [htables]) hcounters.2.2
  | friendRequest | privateChat => exact grows_of_eq rfl (le_refl _)
  | confirmation nickname message _ _ =>
    unfold withConfirmation
    refine Grows.trans ?_ ((grows_addMsg ..).trans (grows_addMsg ..))
    exact grows_of_eq rfl (le_refl _)
  | message thread a b content => exact grows_addMsg ..

theorem grows_effects {s s' : DbStore} (h : Relation.ReflTransGen DbEffect s s') :
    Grows s s' := by
  induction h with
  | refl => exact .refl s
  | tail _ hlast ih => exact ih.trans (grows_effect hlast)

theorem grows_call (call : DbCall) (s : DbStore) (faults : List Bool) :
    Grows s (call.run sql ⟨s, faults⟩).store :=
  grows_effects (effects_step (e := (call, faults)) rfl)

/-! ## Where the texts are -/

/-- A text is with a worker, in a call that is left, or handed over. -/
inductive Place
  | worker (server : String)
  | left (k : Nat)
  | handed (k : Nat)
  deriving DecidableEq, Repr

/-- The message, whichever way its status is written. -/
def plain (m : ChattingHistoryData) : ChattingHistoryData :=
  { m with msgStatus := 0 }

/-- The texts that the worker has stored and has not passed on. -/
def Stage.texts : Stage → List ChattingHistoryData
  | .idle => []
  | .storing _ _ stored _ => stored.filterMap (TextMsgInfo.dataItem 0)
  | .calling f executed => if executed then [] else f.textMsg.map plain

def LeftCall.messages (c : LeftCall) : List ChattingHistoryData :=
  if c.executed then [] else c.texts.textMsg.map plain

def World.texts (w : World) : Place → List ChattingHistoryData
  | .worker server => (w.worker server).texts
  | .left k => (w.left[k]?.map LeftCall.messages).getD []
  | .handed k => (w.handed[k]?.map fun d => d.texts.textMsg.map plain).getD []

/-- The server that has stored the texts. -/
def World.origin (w : World) : Place → Option String
  | .worker server => some server
  | .left k => w.left[k]?.map LeftCall.origin
  | .handed k => w.handed[k]?.map Handed.origin

def World.Holds (w : World) (p : Place) (n : Nat) : Prop :=
  n ∈ (w.texts p).filterMap ChattingHistoryData.number

structure Inv (sql : MySql) (w : World) : Prop where
  bounded : ∀ row ∈ w.store.tables.chatMsgHistoryBank,
    row.messageId ≤ w.store.counters.chatMsgHistoryBank
  rows : ∀ p, ∀ m ∈ w.texts p, ∃ row ∈ w.store.tables.chatMsgHistoryBank,
    RowOf sql row m ∧ row.messageStatus = 0
  once : Exclusive w.Holds
  increasing : ∀ p, ((w.texts p).filterMap ChattingHistoryData.number).Pairwise (· < ·)
  /-- what the worker has is younger than what it has passed on -/
  younger : ∀ p server, p ≠ .worker server → w.origin p = some server →
    ∀ n m, w.Holds p n → w.Holds (.worker server) m → n < m

theorem number_of_rowOf {row : ChatMsg} {m : ChattingHistoryData} (h : RowOf sql row m) :
    ChattingHistoryData.number m = some row.messageId := by
  unfold ChattingHistoryData.number
  rw [h.msgId, Nat.toList_repr]
  exact Text.leadingDigits_toDigits row.messageId

/-- Every number is one that the database has given out. -/
theorem Inv.le_counter (h : Inv sql w) {p : Place} {n : Nat} (hn : w.Holds p n) :
    n ≤ w.store.counters.chatMsgHistoryBank := by
  obtain ⟨m, hm, hnumber⟩ := List.mem_filterMap.mp hn
  obtain ⟨row, hrow, hof⟩ := h.rows p m hm
  obtain rfl := Option.some.inj ((number_of_rowOf hof.1).symm.trans hnumber)
  exact h.bounded row hrow

theorem holds_congr {p : Place} (h : w'.texts p = w.texts p) (n : Nat) :
    w'.Holds p n ↔ w.Holds p n := by
  unfold World.Holds
  rw [h]

/-- Texts that are dropped leave the others as they are. -/
structure Kept (w w' : World) : Prop where
  grows : Grows w.store w'.store
  texts : ∀ p, w'.texts p = [] ∨ w'.texts p = w.texts p ∧ w'.origin p = w.origin p

/-- A worker stores a text. -/
structure Stored (sql : MySql) (w w' : World) (server : String) (m : ChattingHistoryData)
    (row : ChatMsg) : Prop where
  grows : Grows w.store w'.store
  mem : row ∈ w'.store.tables.chatMsgHistoryBank
  rowOf : RowOf sql row m
  status : row.messageStatus = 0
  fresh : row.messageId = w.store.counters.chatMsgHistoryBank + 1
  texts : w'.texts (.worker server) = w.texts (.worker server) ++ [m]
  others : ∀ p, p ≠ .worker server → w'.texts p = w.texts p ∧ w'.origin p = w.origin p

/-- The texts at `a` are passed on to `b`. -/
structure Passed (w w' : World) (a b : Place) : Prop where
  store : w'.store = w.store
  worker : ∀ server, b ≠ .worker server
  gone : w'.texts a = []
  texts : w'.texts b = w.texts a
  origin : w'.origin b = w.origin a
  others : ∀ p, p ≠ a → p ≠ b → w'.texts p = w.texts p ∧ w'.origin p = w.origin p

theorem Inv.kept (h : Inv sql w) (hkept : Kept w w') : Inv sql w' := by
  obtain ⟨hgrows, htexts⟩ := hkept
  have hmem {p : Place} {m : ChattingHistoryData} (hm : m ∈ w'.texts p) : m ∈ w.texts p := by
    rcases htexts p with hnil | ⟨hsame, -⟩
    · rw [hnil] at hm
      cases hm
    · rwa [← hsame]
  have hholds {p : Place} {n : Nat} (hn : w'.Holds p n) : w.Holds p n := by
    obtain ⟨m, hm, hnumber⟩ := List.mem_filterMap.mp hn
    exact List.mem_filterMap.mpr ⟨m, hmem hm, hnumber⟩
  refine ⟨hgrows.bounded h.bounded, fun p m hm => ?_, h.once.mono fun _ _ => hholds, fun p => ?_,
    fun p server hne horigin n m hn hm => ?_⟩
  · obtain ⟨row, hrow, hof⟩ := h.rows p m (hmem hm)
    exact ⟨row, hgrows.rows row hrow, hof⟩
  · rcases htexts p with hnil | ⟨hsame, -⟩
    · rw [hnil]
      exact .nil
    · rw [hsame]
      exact h.increasing p
  · rcases htexts p with hnil | ⟨-, hsame⟩
    · unfold World.Holds at hn
      rw [hnil] at hn
      cases hn
    · exact h.younger p server hne (hsame.symm.trans horigin) n m (hholds hn) (hholds hm)

theorem Inv.stored {server : String} {m : ChattingHistoryData} {row : ChatMsg} (h : Inv sql w)
    (hstored : Stored sql w w' server m row) : Inv sql w' := by
  obtain ⟨hgrows, hrow, hof, hstatus, hfresh, htexts, hothers⟩ := hstored
  have hself (n : Nat) : w'.Holds (.worker server) n ↔
      w.Holds (.worker server) n ∨ n = row.messageId := by
    unfold World.Holds
    rw [htexts, List.filterMap_append, List.mem_append, List.filterMap_cons, number_of_rowOf hof]
    simp
  have helse {p : Place} (hp : p ≠ .worker server) (n : Nat) : w'.Holds p n ↔ w.Holds p n :=
    holds_congr (hothers p hp).1 n
  refine ⟨hgrows.bounded h.bounded, fun p x hx => ?_, ?_, fun p => ?_,
    fun p s hne horigin n x hn hx => ?_⟩
  · by_cases hp : p = .worker server
    · rw [hp, htexts] at hx
      rcases List.mem_append.mp hx with hx | hx
      · obtain ⟨row', hrow', hof'⟩ := h.rows _ x hx
        exact ⟨row', hgrows.rows row' hrow', hof'⟩
      · rw [List.mem_singleton.mp hx]
        exact ⟨row, hrow, hof, hstatus⟩
    · rw [(hothers p hp).1] at hx
      obtain ⟨row', hrow', hof'⟩ := h.rows p x hx
      exact ⟨row', hgrows.rows row' hrow', hof'⟩
  · refine (exclusive_grant_iff (K := fun _ => False) h.once hself fun j hj l => ?_).mpr ?_
    · rw [helse hj, not_false_eq_true, and_true]
    · intro j hj hold
      have hle := h.le_counter hold
      omega
  · by_cases hp : p = .worker server
    · rw [hp, htexts, List.filterMap_append, List.filterMap_cons, number_of_rowOf hof,
        List.filterMap_nil]
      refine List.pairwise_append.mpr ⟨h.increasing _, List.pairwise_singleton _ _, ?_⟩
      intro n hn x hx
      rw [List.mem_singleton.mp hx, hfresh]
      exact Nat.lt_succ_of_le (h.le_counter hn)
    · rw [(hothers p hp).1]
      exact h.increasing p
  · -- the number is fresh, and nobody else's numbers have changed
    by_cases hs : s = server
    · subst hs
      rw [helse hne] at hn
      rw [(hothers p hne).2] at horigin
      rcases (hself x).mp hx with hx | rfl
      · exact h.younger p s hne horigin n x hn hx
      · have hle := h.le_counter hn
        omega
    · have hp : p ≠ .worker server := by
        rintro rfl
        exact hs (Option.some.inj horigin).symm
      rw [helse hp] at hn
      rw [helse (fun heq => hs (Place.worker.inj heq))] at hx
      rw [(hothers p hp).2] at horigin
      exact h.younger p s hne horigin n x hn hx

theorem Inv.passed {a b : Place} (h : Inv sql w) (hpassed : Passed w w' a b) : Inv sql w' := by
  obtain ⟨hstore, hworker, hgone, htexts, horiginb, hothers⟩ := hpassed
  have hheld {p : Place} {n : Nat} (hn : w'.Holds p n) :
      p = b ∧ w.Holds a n ∨ p ≠ a ∧ p ≠ b ∧ w.Holds p n := by
    unfold World.Holds at hn
    by_cases hb : p = b
    · rw [hb, htexts] at hn
      exact .inl ⟨hb, hn⟩
    · by_cases ha : p = a
      · rw [ha, hgone] at hn
        cases hn
      · rw [(hothers p ha hb).1] at hn
        exact .inr ⟨ha, hb, hn⟩
  have hplace (p : Place) : ∃ q, w'.texts p = [] ∨ w'.texts p = w.texts q := by
    by_cases hb : p = b
    · exact ⟨a, .inr (hb ▸ htexts)⟩
    · by_cases ha : p = a
      · exact ⟨a, .inl (ha ▸ hgone)⟩
      · exact ⟨p, .inr (hothers p ha hb).1⟩
  refine ⟨by rw [hstore]; exact h.bounded, fun p m hm => ?_,
    h.once.pass (i := a) (j := b) fun p n hn => ?_, fun p => ?_,
    fun p s hne horigin n x hn hx => ?_⟩
  · obtain ⟨q, hnil | hq⟩ := hplace p
    · rw [hnil] at hm
      cases hm
    · rw [hq] at hm
      rw [hstore]
      exact h.rows q m hm
  · rcases hheld hn with hpass | ⟨ha, -, hn⟩
    · exact .inl hpass
    · exact .inr ⟨ha, hn⟩
  · obtain ⟨q, hnil | hq⟩ := hplace p
    · rw [hnil]
      exact .nil
    · rw [hq]
      exact h.increasing q
  · rcases hheld hx with ⟨hb, -⟩ | ⟨ha, -, hx⟩
    · exact absurd hb.symm (hworker s)
    · rcases hheld hn with ⟨rfl, hn⟩ | ⟨hpa, hpb, hn⟩
      · rw [horiginb] at horigin
        exact h.younger a s (Ne.symm ha) horigin n x hn hx
      · rw [(hothers p hpa hpb).2] at horigin
        exact h.younger p s hne horigin n x hn hx

/-! ## Steps -/

theorem texts_setWorker (w : World) (server : String) (stage : Stage) (p : Place) :
    (w.setWorker server stage).texts p =
      if p = .worker server then stage.texts else w.texts p := by
  cases p with
  | worker s =>
    unfold World.texts World.setWorker
    dsimp only
    rw [Function.update_apply]
    by_cases hs : s = server
    · rw [if_pos hs, if_pos (congrArg Place.worker hs)]
    · rw [if_neg hs, if_neg (fun heq => hs (Place.worker.inj heq))]
  | left k | handed k => exact (if_neg (by simp)).symm

theorem origin_setWorker (w : World) (server : String) (stage : Stage) (p : Place) :
    (w.setWorker server stage).origin p = w.origin p := by
  cases p <;> rfl

theorem texts_hand (w : World) (d : Handed) (p : Place) :
    (w.hand d).texts p =
      if p = .handed w.handed.length then d.texts.textMsg.map plain else w.texts p := by
  cases p with
  | worker s | left k => exact (if_neg (by simp)).symm
  | handed k =>
    unfold World.texts World.hand
    dsimp only
    by_cases hk : k = w.handed.length
    · rw [hk, if_pos rfl, List.getElem?_concat_length]
      rfl
    · rw [if_neg (by simpa using hk)]
      rcases Nat.lt_or_gt_of_ne hk with hlt | hgt
      · rw [List.getElem?_append_left hlt]
      · rw [List.getElem?_eq_none (by simp; omega), List.getElem?_eq_none (by omega)]

theorem origin_hand (w : World) (d : Handed) {p : Place} (hp : p ≠ .handed w.handed.length) :
    (w.hand d).origin p = w.origin p := by
  cases p with
  | worker s | left k => rfl
  | handed k =>
    have hk : k ≠ w.handed.length := fun heq => hp (congrArg Place.handed heq)
    unfold World.origin World.hand
    dsimp only
    rcases Nat.lt_or_gt_of_ne hk with hlt | hgt
    · rw [List.getElem?_append_left hlt]
    · rw [List.getElem?_eq_none (by simp; omega), List.getElem?_eq_none (by omega)]

/-- The messages of stored items, whichever way their status is written. -/
theorem plain_dataItems (stored : List TextMsgInfo) (msgStatus : Nat) :
    (stored.filterMap (TextMsgInfo.dataItem msgStatus)).map plain =
      stored.filterMap (TextMsgInfo.dataItem 0) := by
  rw [List.map_filterMap]
  congr 1
  funext item
  unfold TextMsgInfo.dataItem
  rw [Option.map_map]
  rfl

/-- What a step does with the texts, and whom it hands some. -/
inductive Moved (sql : MySql) (w w' : World) (e : Event) : Prop
  | kept (hkept : Kept w w') (hhanded : w'.handed = w.handed)
  | stored (server : String) (m : ChattingHistoryData) (row : ChatMsg)
      (hstored : Stored sql w w' server m row) (hhanded : w'.handed = w.handed)
  | left (server : String) (k : Nat) (hpassed : Passed w w' (.worker server) (.left k))
      (hhanded : w'.handed = w.handed)
  | handed (d : Handed)
      (hpassed : Passed w w' (.worker d.origin) (.handed w.handed.length))
      (hhanded : w'.handed = w.handed ++ [d])
  | handedLate (k : Nat) (he : e = .executeLeft k)
      (hpassed : Passed w w' (.left k) (.handed w.handed.length))

theorem kept_of_same (hgrows : Grows w.store w'.store) (hworker : w'.worker = w.worker)
    (hleft : w'.left = w.left) (hhanded : w'.handed = w.handed) : Kept w w' := by
  refine ⟨hgrows, fun p => .inr ?_⟩
  cases p with
  | worker s => exact ⟨by unfold World.texts; rw [hworker], rfl⟩
  | left k => exact ⟨by unfold World.texts; rw [hleft], by unfold World.origin; rw [hleft]⟩
  | handed k =>
    exact ⟨by unfold World.texts; rw [hhanded], by unfold World.origin; rw [hhanded]⟩

/-- A worker that goes on with the same texts, or drops them. -/
theorem kept_setWorker {store : DbStore} (hgrows : Grows w.store store) {server : String}
    {stage : Stage} (hstage : stage.texts = [] ∨ stage.texts = (w.worker server).texts) :
    Kept w (({ w with store := store } : World).setWorker server stage) := by
  refine ⟨hgrows, fun p => ?_⟩
  rw [texts_setWorker, origin_setWorker]
  by_cases hp : p = .worker server
  · rw [if_pos hp, hp]
    rcases hstage with hnil | hsame
    · exact .inl hnil
    · exact .inr ⟨hsame, rfl⟩
  · rw [if_neg hp]
    exact .inr ⟨by cases p <;> rfl, by cases p <;> rfl⟩

theorem bigint_of_landing {t : Tables} {info : MsgInfo} {x : Nat × Nat × Nat}
    (h : info.landing sql t = some x) : sql.bigint info.threadId = some x.2.2 := by
  unfold MsgInfo.landing at h
  split at h
  · cases h
  · split at h
    · split at h
      · obtain ⟨thread, hthread, rfl⟩ := Option.map_eq_some_iff.mp h
        exact hthread
      · cases h
    · cases h

theorem moved_storeItem {server : String} {sid : SessionId} {request : TextChatMsg}
    {stored rest : List TextMsgInfo} {item : TextMsgInfo} (faults : List Bool) (e : Event)
    (hworker : w.worker server = .storing sid request stored (item :: rest)) :
    Moved sql w (storeItem sql w server sid request stored rest item faults) e := by
  unfold storeItem
  cases hcall : createModifyChattingHistoryRecord sql item.info ⟨w.store, faults⟩ with
  | mk r c' =>
    have hadvances := advances_createModifyChattingHistoryRecord sql item.info ⟨w.store, faults⟩
    rw [hcall] at hadvances
    obtain ⟨htables, hr⟩ | ⟨a, b, thread, hland, hstore, rfl⟩ :=
      createModifyChattingHistoryRecord_cases hcall
    · have hgrows : Grows w.store c'.store := grows_of_eq (by rw [htables]) hadvances.2.2
      rcases hr with rfl | ⟨err, rfl⟩ <;>
      exact .kept (kept_setWorker hgrows (.inl rfl)) rfl
    · dsimp only
      let row : ChatMsg :=
        ⟨w.store.counters.chatMsgHistoryBank + 1, thread, 0, a, b, item.info.msgContent⟩
      let m : ChattingHistoryData :=
        ⟨msgTypeText, 0, item.info.msgSender, item.info.msgReceiver, row.messageId.repr,
          item.info.threadId, item.uniqueId, item.info.msgContent⟩
      have hbank : c'.store.tables.chatMsgHistoryBank =
          w.store.tables.chatMsgHistoryBank ++ [row] := by
        rw [hstore]
        rfl
      have hstoi := MsgInfo.stoi_of_landing hland
      refine .stored server m row ⟨?_, ?_, ?_, rfl, rfl, ?_, fun p hp => ?_⟩ rfl
      · show Grows w.store c'.store
        rw [hstore]
        exact grows_addMsg ..
      · show row ∈ c'.store.tables.chatMsgHistoryBank
        rw [hbank]
        exact List.mem_append_right _ List.mem_cons_self
      · exact ⟨rfl, bigint_of_landing hland, hstoi.1, hstoi.2, rfl⟩
      · rw [texts_setWorker, if_pos rfl]
        show _ = (w.worker server).texts ++ [m]
        rw [hworker]
        exact List.filterMap_append
      · rw [texts_setWorker, origin_setWorker, if_neg hp]
        exact ⟨by cases p <;> rfl, by cases p <;> rfl⟩

/-- A worker passes its texts on to a session. -/
theorem passed_hand {server : String} {d : Handed} {stage : Stage} (horigin : d.origin = server)
    (hworker : d.texts.textMsg.map plain = (w.worker server).texts) (hstage : stage.texts = []) :
    Passed w ((w.hand d).setWorker server stage) (.worker server)
      (.handed w.handed.length) := by
  refine ⟨rfl, by simp, ?_, ?_, ?_, fun p ha hb => ?_⟩
  · rw [texts_setWorker, if_pos rfl, hstage]
  · rw [texts_setWorker, if_neg (by simp), texts_hand, if_pos rfl]
    exact hworker
  · rw [origin_setWorker]
    show (w.hand d).handed[w.handed.length]?.map Handed.origin = some server
    rw [World.hand, List.getElem?_concat_length, ← horigin]
    rfl
  · rw [texts_setWorker, origin_setWorker, if_neg ha, texts_hand, if_neg hb, origin_hand w d hb]
    exact ⟨rfl, rfl⟩

theorem moved_deliver {server : String} {sid : SessionId} {get : Bool} {request : TextChatMsg}
    {stored : List TextMsgInfo} (e : Event)
    (hworker : w.worker server = .storing sid request stored []) :
    Moved sql w (w.forward server (deliverTextChatMsg w.cluster sid get request stored).2) e := by
  cases hforwards : (deliverTextChatMsg w.cluster sid get request stored).2 with
  | nil => exact .kept (kept_setWorker (.refl _) (.inl rfl)) rfl
  | cons f fs =>
    have hmem : f ∈ (deliverTextChatMsg w.cluster sid get request stored).2 := by
      rw [hforwards]
      exact List.mem_cons_self
    obtain ⟨-, -, -, msgStatus, htexts⟩ := forwards_deliverTextChatMsg hmem
    have hsame : f.textMsg.map plain = (w.worker server).texts := by
      rw [hworker, htexts]
      exact plain_dataItems stored msgStatus
    unfold World.forward
    dsimp only
    split
    · exact .handed ⟨server, _, f⟩ (passed_hand rfl hsame rfl) rfl
    · exact .kept (kept_setWorker (.refl _) (.inr hsame)) rfl

theorem moved_execute {server : String} {f : IncomingTexts} (e : Event)
    (hworker : w.worker server = .calling f false) :
    Moved sql w ((w.sendChattingTextMsg server f).setWorker server (.calling f true)) e := by
  unfold World.sendChattingTextMsg
  cases w.receiverSession f with
  | none => exact .kept (kept_setWorker (.refl _) (.inl rfl)) rfl
  | some session =>
    refine .handed ⟨server, session, f⟩ (passed_hand rfl ?_ rfl) rfl
    rw [hworker]
    rfl

theorem moved_ends {server : String} {f : IncomingTexts} {executed : Bool} (sent : Bool)
    (e : Event) (hworker : w.worker server = .calling f executed) :
    Moved sql w
      (({ w with left := if sent && !executed then w.left ++ [⟨server, f, false⟩] else w.left } :
        World).setWorker server .idle) e := by
  cases hsent : sent && !executed with
  | false => exact .kept (kept_setWorker (.refl _) (.inl rfl)) rfl
  | true =>
    obtain ⟨-, hexecuted⟩ := Bool.and_eq_true_iff.mp hsent
    rw [Bool.not_eq_true'] at hexecuted
    subst hexecuted
    rw [if_pos rfl]
    have hlast : (w.left ++ [(⟨server, f, false⟩ : LeftCall)])[w.left.length]? =
        some ⟨server, f, false⟩ := List.getElem?_concat_length
    refine .left server w.left.length ⟨rfl, by simp, ?_, ?_, ?_, fun p ha hb => ?_⟩ rfl
    · rw [texts_setWorker, if_pos rfl]
      rfl
    · rw [texts_setWorker, if_neg (by simp)]
      show (((w.left ++ [(⟨server, f, false⟩ : LeftCall)])[w.left.length]?).map
        LeftCall.messages).getD [] = (w.worker server).texts
      rw [hlast, hworker]
      rfl
    · rw [origin_setWorker]
      show ((w.left ++ [(⟨server, f, false⟩ : LeftCall)])[w.left.length]?).map
        LeftCall.origin = some server
      rw [hlast]
      rfl
    · rw [texts_setWorker, origin_setWorker, if_neg ha]
      cases p with
      | worker s | handed k => exact ⟨rfl, rfl⟩
      | left k =>
        have hk : k ≠ w.left.length := fun heq => hb (congrArg Place.left heq)
        have hsame : (w.left ++ [(⟨server, f, false⟩ : LeftCall)])[k]? = w.left[k]? := by
          rcases Nat.lt_or_gt_of_ne hk with hlt | hgt
          · rw [List.getElem?_append_left hlt]
          · rw [List.getElem?_eq_none (by simp; omega), List.getElem?_eq_none (by omega)]
        unfold World.texts World.origin
        dsimp only
        rw [hsame]
        exact ⟨rfl, rfl⟩

theorem moved_executeLeft {k : Nat} {origin : String} {f : IncomingTexts}
    (hc : w.left[k]? = some ⟨origin, f, false⟩) :
    Moved sql w
      { w.sendChattingTextMsg origin f with left := w.left.set k ⟨origin, f, true⟩ }
      (.executeLeft k) := by
  have hk := (List.getElem?_eq_some_iff.mp hc).1
  have hset (j : Nat) : (w.left.set k ⟨origin, f, true⟩)[j]? =
      if j = k then some ⟨origin, f, true⟩ else w.left[j]? := by
    by_cases hj : j = k
    · rw [hj, if_pos rfl, List.getElem?_set_self hk]
    · rw [if_neg hj, List.getElem?_set_ne (Ne.symm hj)]
  have horigin (j : Nat) : (w.left.set k ⟨origin, f, true⟩)[j]?.map LeftCall.origin =
      w.left[j]?.map LeftCall.origin := by
    rw [hset]
    split
    · rename_i hj
      rw [hj, hc]
      rfl
    · rfl
  unfold World.sendChattingTextMsg
  cases w.receiverSession f with
  | none =>
    refine .kept ⟨.refl _, fun p => ?_⟩ rfl
    cases p with
    | worker s | handed j => exact .inr ⟨rfl, rfl⟩
    | left j =>
      unfold World.texts World.origin
      dsimp only
      rw [horigin, hset]
      split
      · exact .inl rfl
      · exact .inr ⟨rfl, rfl⟩
  | some session =>
    dsimp only
    refine .handedLate k rfl ⟨rfl, by simp, ?_, ?_, ?_, fun p ha hb => ?_⟩
    · unfold World.texts
      dsimp only
      rw [hset, if_pos rfl]
      rfl
    · show (w.hand ⟨origin, session, f⟩).texts (.handed w.handed.length) = _
      rw [texts_hand, if_pos rfl]
      unfold World.texts
      dsimp only
      rw [hc]
      rfl
    · show (w.handed ++ [(⟨origin, session, f⟩ : Handed)])[w.handed.length]?.map Handed.origin =
        w.left[k]?.map LeftCall.origin
      rw [List.getElem?_concat_length, hc]
      rfl
    · cases p with
      | worker s => exact ⟨rfl, rfl⟩
      | left j =>
        unfold World.texts World.origin
        dsimp only
        rw [horigin, hset, if_neg (fun heq => ha (congrArg Place.left heq))]
        exact ⟨rfl, rfl⟩
      | handed j =>
        have htexts := texts_hand w ⟨origin, session, f⟩ (.handed j)
        rw [if_neg hb] at htexts
        exact ⟨htexts, origin_hand w ⟨origin, session, f⟩ hb⟩

theorem step_moved {e : Event} (hstep : step sql w e = some w') : Moved sql w w' e := by
  cases e with
  | cluster e =>
    obtain ⟨c, -, rfl⟩ := Option.map_eq_some_iff.mp hstep
    exact .kept (kept_of_same (.refl _) rfl rfl rfl) rfl
  | database call faults =>
    obtain rfl := Option.some.inj hstep
    exact .kept (kept_of_same (grows_call call w.store faults) rfl rfl rfl) rfl
  | request sid body =>
    unfold step at hstep
    dsimp only at hstep
    obtain ⟨-, hread⟩ := Option.ite_none_right_eq_some.mp hstep
    split at hread
    · obtain rfl := Option.some.inj hread
      exact .kept (kept_of_same (.refl _) rfl rfl rfl) rfl
    · obtain rfl := Option.some.inj hread
      exact .kept (kept_setWorker (.refl _) (.inl rfl)) rfl
  | store server faults =>
    unfold step at hstep
    dsimp only at hstep
    split at hstep
    · rename_i sid request stored item rest hworker
      obtain rfl := Option.some.inj hstep
      exact moved_storeItem faults _ hworker
    · cases hstep
  | deliver server get =>
    unfold step at hstep
    dsimp only at hstep
    split at hstep
    · rename_i sid request stored hworker
      obtain rfl := Option.some.inj hstep
      exact moved_deliver _ hworker
    · cases hstep
  | execute server =>
    unfold step at hstep
    dsimp only at hstep
    split at hstep
    · rename_i f hworker
      obtain rfl := Option.some.inj hstep
      exact moved_execute _ hworker
    · cases hstep
  | ends server sent =>
    unfold step at hstep
    dsimp only at hstep
    split at hstep
    · rename_i f executed hworker
      obtain rfl := Option.some.inj hstep
      exact moved_ends sent _ hworker
    · cases hstep
  | executeLeft k =>
    unfold step at hstep
    dsimp only at hstep
    split at hstep
    · rename_i origin f hc
      obtain rfl := Option.some.inj hstep
      exact moved_executeLeft hc
    · cases hstep

theorem inv_step {e : Event} (h : Inv sql w) (hstep : step sql w e = some w') : Inv sql w' := by
  cases step_moved hstep with
  | kept hkept _ => exact h.kept hkept
  | stored _ _ _ hstored _ => exact h.stored hstored
  | left _ _ hpassed _ | handed _ hpassed _ | handedLate _ _ hpassed =>
    exact h.passed hpassed

theorem inv_start (users : List Nat) : Inv sql (start users) := by
  have hnone (p : Place) : (start users).texts p = [] := by cases p <;> rfl
  have hholds (p : Place) (n : Nat) : ¬(start users).Holds p n := by
    unfold World.Holds
    rw [hnone]
    simp
  refine ⟨fun _ hrow => (by cases hrow), fun p m hm => ?_, fun n p _ hp => absurd hp (hholds p n),
    fun p => ?_, fun p _ _ _ n _ hn => absurd hn (hholds p n)⟩
  · rw [hnone] at hm
    cases hm
  · rw [hnone]
    exact .nil

/-! ## A worker that nobody interrupts -/

/-- The stage behind the loop over the items `rest`. -/
def stageAfter (sid : SessionId) (request : TextChatMsg) (stored rest : List TextMsgInfo) :
    Except Exn Bool × List MsgInfo → Stage
  | (.ok true, infos) =>
    .storing sid request
      (stored ++ List.zipWith (fun item info => { item with info := info }) rest infos) []
  | (.ok false, _) | (.error _, _) => .idle

theorem stageAfter_cons (sid : SessionId) (request : TextChatMsg)
    (stored rest : List TextMsgInfo) (item : TextMsgInfo) (info : MsgInfo)
    (r : Except Exn Bool × List MsgInfo) :
    stageAfter sid request (stored ++ [{ item with info := info }]) rest r =
      stageAfter sid request stored (item :: rest) (r.1, info :: r.2) := by
  obtain ⟨err | status, infos⟩ := r
  · rfl
  · cases status with
    | false => rfl
    | true => exact congrArg (Stage.storing sid request · []) (List.append_assoc ..)

theorem records_false (infos : List MsgInfo) (c : DbConn) :
    createModifyChattingHistoryRecords sql infos false c = ((.ok false, infos), c) := by
  cases infos <;> rfl

/-- The worker stores the items one by one as the loop over them does. -/
theorem exec_store {server : String} {sid : SessionId} {request : TextChatMsg}
    (rest stored : List TextMsgInfo) (w : World) (faults : List Bool)
    (hworker : w.worker server = .storing sid request stored rest) :
    let r := createModifyChattingHistoryRecords sql (rest.map TextMsgInfo.info) true
      ⟨w.store, faults⟩
    ∃ es, Trace.exec (step sql) w es =
      some (({ w with store := r.2.store } : World).setWorker server
        (stageAfter sid request stored rest r.1)) := by
  induction rest generalizing stored w faults with
  | nil =>
    refine ⟨[], congrArg some ?_⟩
    show w = w.setWorker server (.storing sid request (stored ++ []) [])
    rw [List.append_nil, ← hworker, World.setWorker_self]
  | cons item rest ih =>
    have hstep : step sql w (.store server faults) =
        some (storeItem sql w server sid request stored rest item faults) := by
      unfold step
      dsimp only
      rw [hworker]
    unfold storeItem at hstep
    rw [List.map_cons]
    unfold createModifyChattingHistoryRecords
    cases hcall : createModifyChattingHistoryRecord sql item.info ⟨w.store, faults⟩ with
    | mk r c' =>
      rw [hcall] at hstep
      cases r with
      | error err => exact ⟨[_], (Trace.exec_singleton ..).trans hstep⟩
      | ok p =>
        obtain ⟨status, info⟩ := p
        cases status with
        | false =>
          refine ⟨[_], (Trace.exec_singleton ..).trans (hstep.trans ?_)⟩
          dsimp only
          rw [records_false]
          rfl
        | true =>
          dsimp only at hstep ⊢
          let m : World := ({ w with store := c'.store } : World).setWorker server
            (.storing sid request (stored ++ [{ item with info := info }]) rest)
          obtain ⟨es, hes⟩ := ih _ m c'.faults (World.worker_setWorker ..)
          refine ⟨.store server faults :: es,
            (Trace.exec_cons_some _).mpr ⟨m, hstep, hes.trans (congrArg some ?_)⟩⟩
          rw [stageAfter_cons]
          exact World.setWorker_setWorker { w with store := _ } server _ _

theorem forward_setWorker (w : World) (server : String) (stage : Stage)
    (forwards : List IncomingTexts) :
    (w.setWorker server stage).forward server forwards = w.forward server forwards := by
  cases forwards with
  | nil => exact w.setWorker_setWorker ..
  | cons f fs =>
    unfold World.forward
    dsimp only
    split
    · exact (w.hand _).setWorker_setWorker ..
    · exact w.setWorker_setWorker ..

theorem step_deliver (w : World) (server : String) (sid : SessionId) (get : Bool)
    (request : TextChatMsg) (stored : List TextMsgInfo) :
    step sql (w.setWorker server (.storing sid request stored [])) (.deliver server get) =
      some (w.forward server (deliverTextChatMsg w.cluster sid get request stored).2) := by
  unfold step
  dsimp only
  rw [World.worker_setWorker]
  dsimp only
  rw [forward_setWorker]
  rfl

/-- From an idle worker on, the steps of one request do together what `handlingTextChatMsg`
    does. -/
theorem exec_handlingTextChatMsg {sid : SessionId} (haccepted : sid < w.cluster.accepted)
    (hidle : w.worker (w.cluster.session sid).server = .idle) (get : Bool) (body : Option Json)
    (faults : List Bool) :
    let out := handlingTextChatMsg sql w.cluster sid get body ⟨w.store, faults⟩
    ∃ es, Trace.exec (step sql) w es = some (({ w with store := out.conn.store } : World).forward
      (w.cluster.session sid).server out.forwards) := by
  have hrequest : step sql w (.request sid body) =
      match readTextChatMsg (parseJson body).2 with
      | .error _ => some w
      | .ok request => some (w.setWorker (w.cluster.session sid).server
          (.storing sid request [] request.updatedMsg)) := by
    unfold step
    dsimp only
    rw [if_pos ⟨haccepted, hidle⟩]
  cases hread : readTextChatMsg (parseJson body).2 with
  | error refusal =>
    rw [hread] at hrequest
    refine ⟨[_], (Trace.exec_singleton ..).trans (hrequest.trans (congrArg some ?_))⟩
    simp only [handlingTextChatMsg, hread]
    show w = w.setWorker _ .idle
    rw [← hidle, World.setWorker_self]
  | ok request =>
    rw [hread] at hrequest
    let m := w.setWorker (w.cluster.session sid).server (.storing sid request [] request.updatedMsg)
    obtain ⟨es, hes⟩ : ∃ es, Trace.exec (step sql) m es = _ :=
      exec_store request.updatedMsg [] m faults (World.worker_setWorker ..)
    have hrun := (Trace.exec_cons_some _).mpr ⟨m, hrequest, hes⟩
    have hagain (store : DbStore) (stage : Stage) :
        ({ m with store := store } : World).setWorker (w.cluster.session sid).server stage =
          ({ w with store := store } : World).setWorker (w.cluster.session sid).server stage :=
      World.setWorker_setWorker { w with store := store } ..
    rw [hagain] at hrun
    simp only [handlingTextChatMsg, storeTextChatMsg, hread, TextChatMsg.infos]
    rw [show m.store = w.store from rfl] at hrun
    cases hcall : createModifyChattingHistoryRecords sql (request.updatedMsg.map TextMsgInfo.info)
        true ⟨w.store, faults⟩ with
    | mk r c' =>
      rw [hcall] at hrun
      obtain ⟨err | status, infos⟩ := r
      · exact ⟨_, hrun⟩
      · cases status with
        | false => exact ⟨_, hrun⟩
        | true =>
          refine ⟨.request sid body :: es ++ [.deliver (w.cluster.session sid).server get], ?_⟩
          rw [Trace.exec_append, hrun, Option.bind_some, Trace.exec_singleton]
          exact step_deliver { w with store := c'.store } _ sid get request _

/-! ## What a session is handed -/

theorem numbers_plain (f : IncomingTexts) :
    (f.textMsg.map plain).filterMap ChattingHistoryData.number = IncomingTexts.numbers f := by
  rw [List.filterMap_map]
  rfl

theorem texts_handed {k : Nat} {d : Handed} (hd : w.handed[k]? = some d) :
    w.texts (.handed k) = d.texts.textMsg.map plain := by
  unfold World.texts
  dsimp only
  rw [hd]
  rfl

theorem holds_handed {k : Nat} {d : Handed} (hd : w.handed[k]? = some d) (n : Nat) :
    w.Holds (.handed k) n ↔ n ∈ IncomingTexts.numbers d.texts := by
  unfold World.Holds
  rw [texts_handed hd, numbers_plain]

/-- The texts are in a call or with a session. -/
inductive World.Carries (w : World) (f : IncomingTexts) : Prop
  | calling (server : String) (executed : Bool) (h : w.worker server = .calling f executed)
  | left (c : LeftCall) (h : c ∈ w.left) (htexts : c.texts = f)
  | handed (d : Handed) (h : d ∈ w.handed) (htexts : d.texts = f)

theorem carries_of_same {cluster : Cluster} {store : DbStore} {f : IncomingTexts}
    (h : ({ w with cluster := cluster, store := store } : World).Carries f) : w.Carries f := by
  cases h with
  | calling s executed h => exact .calling s executed h
  | left c h htexts => exact .left c h htexts
  | handed d h htexts => exact .handed d h htexts

theorem carries_setWorker {server : String} {stage : Stage} {f : IncomingTexts}
    (h : (w.setWorker server stage).Carries f) :
    w.Carries f ∨ ∃ executed, stage = .calling f executed := by
  cases h with
  | calling s executed h =>
    by_cases hs : s = server
    · subst hs
      exact .inr ⟨executed, (World.worker_setWorker ..).symm.trans h⟩
    · exact .inl (.calling s executed ((Function.update_of_ne hs ..).symm.trans h))
  | left c h htexts => exact .inl (.left c h htexts)
  | handed d h htexts => exact .inl (.handed d h htexts)

theorem carries_of_not_calling {server : String} {stage : Stage} {f : IncomingTexts}
    (hstage : ∀ executed, stage ≠ .calling f executed)
    (h : (w.setWorker server stage).Carries f) : w.Carries f := by
  rcases carries_setWorker h with hold | ⟨executed, hcalling⟩
  · exact hold
  · exact absurd hcalling (hstage executed)

theorem carries_left {left : List LeftCall} {f : IncomingTexts}
    (h : ({ w with left := left } : World).Carries f) :
    w.Carries f ∨ ∃ c ∈ left, c.texts = f := by
  cases h with
  | calling s executed h => exact .inl (.calling s executed h)
  | left c h htexts => exact .inr ⟨c, h, htexts⟩
  | handed d h htexts => exact .inl (.handed d h htexts)

theorem carries_hand {d : Handed} {f : IncomingTexts} (h : (w.hand d).Carries f) :
    w.Carries f ∨ d.texts = f := by
  cases h with
  | calling s executed h => exact .inl (.calling s executed h)
  | left c h htexts => exact .inl (.left c h htexts)
  | handed d' h htexts =>
    rcases List.mem_append.mp h with hold | hnew
    · exact .inl (.handed d' hold htexts)
    · obtain rfl := List.mem_singleton.mp hnew
      exact .inr htexts

theorem carries_sendChattingTextMsg {origin : String} {f g : IncomingTexts}
    (h : (w.sendChattingTextMsg origin g).Carries f) : w.Carries f ∨ g = f := by
  unfold World.sendChattingTextMsg at h
  split at h
  · exact .inl h
  · exact carries_hand h

theorem carries_forward {server : String} {forwards : List IncomingTexts} {f : IncomingTexts}
    (h : (w.forward server forwards).Carries f) : w.Carries f ∨ f ∈ forwards := by
  cases forwards with
  | nil => exact .inl (carries_of_not_calling (by simp) h)
  | cons g gs =>
    unfold World.forward at h
    dsimp only at h
    split at h
    · rcases carries_hand (carries_of_not_calling (by simp) h) with hold | rfl
      · exact .inl hold
      · exact .inr List.mem_cons_self
    · rcases carries_setWorker h with hold | ⟨executed, hstage⟩
      · exact .inl hold
      · obtain ⟨rfl, -⟩ := Stage.calling.inj hstage
        exact .inr List.mem_cons_self

/-- New texts come from the worker of a server that has stored them. -/
theorem carries_step {e : Event} {f : IncomingTexts} (hstep : step sql w e = some w')
    (h : w'.Carries f) : w.Carries f ∨ ∃ sid get request stored,
      f ∈ (deliverTextChatMsg w.cluster sid get request stored).2 := by
  cases e with
  | cluster e =>
    obtain ⟨c, -, rfl⟩ := Option.map_eq_some_iff.mp hstep
    exact .inl (carries_of_same h)
  | database call faults =>
    obtain rfl := Option.some.inj hstep
    exact .inl (carries_of_same h)
  | request sid body =>
    unfold step at hstep
    dsimp only at hstep
    obtain ⟨-, hread⟩ := Option.ite_none_right_eq_some.mp hstep
    split at hread
    · obtain rfl := Option.some.inj hread
      exact .inl h
    · obtain rfl := Option.some.inj hread
      exact .inl (carries_of_not_calling (by simp) h)
  | store server faults =>
    unfold step at hstep
    dsimp only at hstep
    split at hstep
    · obtain rfl := Option.some.inj hstep
      refine .inl (carries_of_same (carries_of_not_calling (fun executed => ?_) h))
      split <;> simp
    · cases hstep
  | deliver server get =>
    unfold step at hstep
    dsimp only at hstep
    split at hstep
    · obtain rfl := Option.some.inj hstep
      exact (carries_forward h).imp_right fun hf => ⟨_, _, _, _, hf⟩
    · cases hstep
  | execute server =>
    unfold step at hstep
    dsimp only at hstep
    split at hstep
    · rename_i g hworker
      obtain rfl := Option.some.inj hstep
      rcases carries_setWorker h with hsent | ⟨executed, hstage⟩
      · rcases carries_sendChattingTextMsg hsent with hold | rfl
        · exact .inl hold
        · exact .inl (.calling server false hworker)
      · obtain ⟨rfl, -⟩ := Stage.calling.inj hstage
        exact .inl (.calling server false hworker)
    · cases hstep
  | ends server sent =>
    unfold step at hstep
    dsimp only at hstep
    split at hstep
    · rename_i g executed hworker
      obtain rfl := Option.some.inj hstep
      rcases carries_left (carries_of_not_calling (by simp) h) with hold | ⟨c, hc, rfl⟩
      · exact .inl hold
      · split at hc
        · rcases List.mem_append.mp hc with hold | hnew
          · exact .inl (.left c hold rfl)
          · obtain rfl := List.mem_singleton.mp hnew
            exact .inl (.calling server executed hworker)
        · exact .inl (.left c hc rfl)
    · cases hstep
  | executeLeft k =>
    unfold step at hstep
    dsimp only at hstep
    split at hstep
    · rename_i origin g hg
      obtain rfl := Option.some.inj hstep
      have hcarried : w.Carries g := .left _ (List.mem_of_getElem? hg) rfl
      rcases carries_left h with hsent | ⟨c, hc, rfl⟩
      · rcases carries_sendChattingTextMsg hsent with hold | rfl
        · exact .inl hold
        · exact .inl hcarried
      · rcases List.mem_or_eq_of_mem_set hc with hold | rfl
        · exact .inl (.left c hold rfl)
        · exact .inl hcarried
    · cases hstep

theorem msgStatus_deliverTextChatMsg {c : Cluster} {sid : SessionId} {get : Bool}
    {request : TextChatMsg} {stored : List TextMsgInfo} {f : IncomingTexts}
    (hf : f ∈ (deliverTextChatMsg c sid get request stored).2) :
    ∀ m ∈ f.textMsg, m.msgStatus = sentStatus 0 f.destination := by
  have hitems {msgStatus : Nat} {m : ChattingHistoryData}
      (hm : m ∈ stored.filterMap (TextMsgInfo.dataItem msgStatus)) : m.msgStatus = msgStatus := by
    obtain ⟨item, -, hitem⟩ := List.mem_filterMap.mp hm
    obtain ⟨msgId, -, rfl⟩ := Option.map_eq_some_iff.mp hitem
    rfl
  unfold deliverTextChatMsg at hf
  split at hf
  · cases hf
  · dsimp only at hf
    split at hf
    · split at hf
      · cases hf
      · obtain rfl := List.mem_singleton.mp hf
        exact fun m hm => hitems hm
    · obtain rfl := List.mem_singleton.mp hf
      exact fun m hm => hitems hm

/-- The texts on their way are sent with the status 0 of their rows, or with their type. -/
def StatusSent (w : World) : Prop :=
  ∀ f, w.Carries f → ∀ m ∈ f.textMsg, m.msgStatus = sentStatus 0 f.destination

theorem statusSent_step {e : Event} (h : StatusSent w) (hstep : step sql w e = some w') :
    StatusSent w' := by
  intro f hf
  rcases carries_step hstep hf with hold | ⟨sid, get, request, stored, hsent⟩
  · exact h f hold
  · exact msgStatus_deliverTextChatMsg hsent

theorem statusSent_start (users : List Nat) : StatusSent (start users) := by
  intro f hf
  cases hf with
  | calling s executed h => cases h
  | left c h _ | handed c h _ => cases h

/-- What was handed over are rows, each of them once. -/
structure StoredOnce (sql : MySql) (w : World) : Prop where
  rows : ∀ d ∈ w.handed, ∀ m ∈ d.texts.textMsg,
    ∃ row ∈ w.store.tables.chatMsgHistoryBank, RowOf sql row m ∧
      m.msgStatus = sentStatus row.messageStatus d.texts.destination
  once : (w.handed.flatMap fun d => IncomingTexts.numbers d.texts).Nodup

theorem Inv.storedOnce (h : Inv sql w) (hsent : StatusSent w) : StoredOnce sql w where
  rows d hd m hm := by
    obtain ⟨k, hk⟩ := List.mem_iff_getElem?.mp hd
    have hplain : plain m ∈ w.texts (.handed k) := by
      rw [texts_handed hk]
      exact List.mem_map_of_mem hm
    obtain ⟨row, hrow, hof, hstatus⟩ := h.rows (.handed k) (plain m) hplain
    refine ⟨row, hrow, ⟨hof.msgId, hof.threadId, hof.sender, hof.receiver, hof.content⟩, ?_⟩
    rw [hstatus]
    exact hsent d.texts (.handed d hd rfl) m hm
  once := by
    refine List.pairwise_flatMap.mpr ⟨fun d hd => ?_, ?_⟩
    · obtain ⟨k, hk⟩ := List.mem_iff_getElem?.mp hd
      have hincreasing := h.increasing (.handed k)
      rw [texts_handed hk, numbers_plain] at hincreasing
      exact hincreasing.imp fun hlt => Nat.ne_of_lt hlt
    · refine List.pairwise_iff_getElem.mpr fun i j hi hj hlt => ?_
      rintro n hni _ hnj rfl
      have hi' := (holds_handed (List.getElem?_eq_getElem hi) n).mpr hni
      have hj' := (holds_handed (List.getElem?_eq_getElem hj) n).mpr hnj
      exact absurd (Place.handed.inj (h.once n _ _ hi' hj')) (Nat.ne_of_lt hlt)

/-- In every state of a run, whatever was handed to any session is a row of the database with its
    id, its thread, its users and its content, and no row was handed over twice. The status is the
    one of the row in a call to another server, and the type for a session of the same one. -/
theorem always_storedOnce (users : List Nat) (es : List Event) :
    Trace.Always (step sql) (StoredOnce sql) (start users) es :=
  have hstep : ∀ w e w', Inv sql w ∧ StatusSent w → step sql w e = some w' →
      Inv sql w' ∧ StatusSent w' :=
    fun _ _ _ h hstep => ⟨inv_step h.1 hstep, statusSent_step h.2 hstep⟩
  Trace.always_mono (fun _ h => h.1.storedOnce h.2)
    (Trace.always_of_invariant _ hstep ⟨inv_start users, statusSent_start users⟩ es)

/-! ## In which order -/

theorem numbersFrom_append {d : Handed} (hhanded : w'.handed = w.handed ++ [d])
    (origin : String) (session : SessionId) :
    w'.numbersFrom origin session = w.numbersFrom origin session ++
      if d.origin = origin ∧ d.session = session then IncomingTexts.numbers d.texts else [] := by
  unfold World.numbersFrom
  rw [hhanded, List.filter_append, List.flatMap_append]
  by_cases hd : d.origin = origin ∧ d.session = session
  · rw [if_pos hd, List.filter_cons_of_pos (by simpa using hd)]
    simp
  · rw [if_neg hd, List.filter_cons_of_neg (by simpa using hd)]
    rfl

/-- One more delivery keeps the order if the session has nothing from the server that is younger. -/
theorem inOrder_append_iff (h : InOrder w) {d : Handed} (hhanded : w'.handed = w.handed ++ [d])
    (hincreasing : (IncomingTexts.numbers d.texts).Pairwise (· < ·)) :
    InOrder w' ↔ ∀ n ∈ w.numbersFrom d.origin d.session, ∀ m ∈ IncomingTexts.numbers d.texts,
      n < m := by
  constructor
  · intro horder
    have hpair := horder d.origin d.session
    rw [numbersFrom_append hhanded, if_pos ⟨rfl, rfl⟩] at hpair
    exact (List.pairwise_append.mp hpair).2.2
  · intro hyounger origin session
    rw [numbersFrom_append hhanded]
    split
    · rename_i hd
      obtain ⟨rfl, rfl⟩ := hd
      exact List.pairwise_append.mpr ⟨h _ _, hincreasing, hyounger⟩
    · rw [List.append_nil]
      exact h origin session

theorem inOrder_of_same (h : InOrder w) (hhanded : w'.handed = w.handed) : InOrder w' := by
  intro origin session
  unfold World.numbersFrom
  rw [hhanded]
  exact h origin session

theorem mem_numbersFrom {origin : String} {session : SessionId} {n : Nat}
    (hn : n ∈ w.numbersFrom origin session) :
    ∃ k, w.origin (.handed k) = some origin ∧ w.Holds (.handed k) n := by
  obtain ⟨d, hd, hnumber⟩ := List.mem_flatMap.mp hn
  obtain ⟨hmem, hfrom⟩ := List.mem_filter.mp hd
  obtain ⟨k, hk⟩ := List.mem_iff_getElem?.mp hmem
  refine ⟨k, ?_, (holds_handed hk n).mpr hnumber⟩
  have horigin : d.origin = origin := by simp only [decide_eq_true_eq] at hfrom; exact hfrom.1
  unfold World.origin
  dsimp only
  rw [hk, ← horigin]
  rfl

theorem increasing_last (h : Inv sql w') {d : Handed} (hhanded : w'.handed = w.handed ++ [d]) :
    (IncomingTexts.numbers d.texts).Pairwise (· < ·) := by
  have hlast : w'.handed[w.handed.length]? = some d := by
    rw [hhanded, List.getElem?_concat_length]
  have hincreasing := h.increasing (.handed w.handed.length)
  rwa [texts_handed hlast, numbers_plain] at hincreasing

/-- Texts that a worker passes on are younger than all that its server has handed over. -/
theorem inOrder_handed (h : Inv sql w) (h' : Inv sql w') (horder : InOrder w) {d : Handed}
    (hpassed : Passed w w' (.worker d.origin) (.handed w.handed.length))
    (hhanded : w'.handed = w.handed ++ [d]) : InOrder w' := by
  refine (inOrder_append_iff horder hhanded (increasing_last h' hhanded)).mpr fun n hn m hm => ?_
  obtain ⟨k, horigin, hholds⟩ := mem_numbersFrom hn
  have hlast : w'.handed[w.handed.length]? = some d := by
    rw [hhanded, List.getElem?_concat_length]
  refine h.younger (.handed k) d.origin (by simp) horigin n m hholds ?_
  unfold World.Holds
  rwa [← hpassed.texts, texts_handed hlast, numbers_plain]

theorem inOrder_executeLeft_iff {k : Nat} (h : Inv sql w) (horder : InOrder w)
    (hstep : step sql w (.executeLeft k) = some w') :
    InOrder w' ↔ Orderly w (.executeLeft k) := by
  have h' := inv_step h hstep
  unfold step at hstep
  dsimp only at hstep
  split at hstep
  · rename_i origin f hc
    obtain rfl := Option.some.inj hstep
    unfold Orderly
    dsimp only
    rw [hc]
    cases hsession : w.receiverSession f with
    | none =>
      have hsame : (w.sendChattingTextMsg origin f).handed = w.handed := by
        unfold World.sendChattingTextMsg
        rw [hsession]
      refine iff_of_true (inOrder_of_same horder hsame) fun c hc' _ session hs => ?_
      obtain rfl := Option.some.inj hc'
      cases hsession.symm.trans hs
    | some session =>
      have hhanded : (w.sendChattingTextMsg origin f).handed =
          w.handed ++ [⟨origin, session, f⟩] := by
        unfold World.sendChattingTextMsg
        rw [hsession]
        rfl
      refine (inOrder_append_iff horder hhanded (increasing_last h' hhanded)).trans ?_
      simp [hsession]
  · cases hstep

theorem inOrder_step_iff {e : Event} (h : Inv sql w) (horder : InOrder w)
    (hstep : step sql w e = some w') : InOrder w' ↔ Orderly w e := by
  by_cases hleft : ∃ k, e = .executeLeft k
  · obtain ⟨k, rfl⟩ := hleft
    exact inOrder_executeLeft_iff h horder hstep
  · have horderly : Orderly w e := by
      cases e with
      | executeLeft k => exact absurd ⟨k, rfl⟩ hleft
      | _ => trivial
    refine iff_of_true ?_ horderly
    cases step_moved hstep with
    | kept _ hhanded | stored _ _ _ _ hhanded | left _ _ _ hhanded =>
      exact inOrder_of_same horder hhanded
    | handed d hpassed hhanded => exact inOrder_handed h (inv_step h hstep) horder hpassed hhanded
    | handedLate k he _ => exact absurd ⟨k, he⟩ hleft

/-- In every state of a run each session has got what one server has stored in the order in which
    it was stored, exactly if no call that the server has given up is executed after the session was
    handed later texts. -/
theorem always_inOrder_iff (users : List Nat) (es : List Event) :
    Trace.Always (step sql) InOrder (start users) es ↔
      Trace.Meets (step sql) Orderly (start users) es := by
  refine Trace.always_iff_meets (fun w => Inv sql w ∧ InOrder w) (fun _ h => h.2) ?_ ?_
    ⟨inv_start users, fun _ _ => .nil⟩ es
  · intro w e w' ⟨h, horder⟩ horderly hstep
    exact ⟨inv_step h hstep, (inOrder_step_iff h horder hstep).mpr horderly⟩
  · intro w e w' ⟨h, horder⟩ hnot hstep horder'
    exact hnot ((inOrder_step_iff h horder hstep).mp horder')

/-- User 1 on server "A" writes twice to user 2 on server "B". -/
def textsToB (sent : Bool) : List Event :=
  [.database (.createNewPrivateChat 1 2) [], .cluster (.accept "A"), .cluster (.accept "B"),
    .cluster (.login 1 (.wellFormed "2")
      ⟨true, true, .answered, true, true, true, true, .found, true⟩),
    .request 0 (some textToTwo), .store "A" [], .deliver "A" true, .ends "A" sent,
    .request 0 (some textToTwo), .store "A" [], .deliver "A" true, .execute "A", .ends "A" false]

/-- The first call is given up, and executed after the second one. -/
example : (Trace.exec (step (.decimal true)) (start [1, 2])
    (textsToB true ++ [.executeLeft 0])).map (fun w => w.numbersFrom "A" 1) = some [2, 1] := by
  decide

end DistributedIM.Protocol.LiveTexts
