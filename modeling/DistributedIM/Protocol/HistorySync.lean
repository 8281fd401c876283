/-
  The client loads the messages of its threads, once the thread list is complete: one request at a
  time on its way, and live messages in between.

  `Loads` is what the exchange is for. The reply with a page has no field `error`, and the callback
  gives up on a reply without one (`decodeRecordReply_recordsResponse`), so no page ever reaches
  `slot_update_chat_msg`: the chain is over after the first request, if a request is sent at all
  (`run_over`). `loads_iff_loadable` leaves only clients with nothing to load.

  The messages of the server are those it has when the chain starts.
-/
import DistributedIM.ChattingServer.ChatRecords
import DistributedIM.Client.HistoryLoading

namespace DistributedIM.Protocol

open DistributedIM.ChattingServer DistributedIM.Client

/-! ## The exchange -/

/-- What the server says about a request; behind the last message it has no record. -/
inductive Said
  | more
  | last
  | refused
  deriving DecidableEq, Repr

def said (replies : List PullReply) : Said :=
  match replies with
  | [.records _ isComplete _ _] => if isComplete then .last else .more
  | [.error message] => if message.status = .chatrecordNotExist then .last else .refused
  | _ => .refused

/-- A request that was answered. -/
structure HistoryRound where
  threadId : String
  said : Said
  deriving DecidableEq, Repr

structure HistorySync where
  client : HistoryClient
  request : Option RecordRequest
  rounds : List HistoryRound

namespace HistorySync

/-- The thread list is complete. -/
def start (client : HistoryClient) : HistorySync where
  client := client
  request := client.loadMoreChattingHistory
  rounds := []

/-- The client takes a reply. -/
def take (unique : Nat → String) (s : HistorySync) (reply : PullReply) : HistorySync :=
  match reply.recordsResponse.bind (decodeRecordReply unique) with
  | none => s
  | some package =>
    let r := s.client.slotUpdateChatMsg package
    { s with client := r.1, request := r.2 }

/-- The server answers the request that is on its way, or a live message arrives. -/
inductive Event
  | answer (unique : Nat → String)
  | incoming (type : MsgType) (msg : ChattingRecord)

def Event.isAnswer : Event → Bool
  | .answer _ => true
  | .incoming _ _ => false

variable (driver : MySqlDriver) (t : Tables)

def handle (s : HistorySync) : Event → HistorySync
  | .answer unique =>
    match s.request with
    | none => s
    | some request =>
      let replies := handlingUserChatMessage driver t (some (.object request.body))
      let round : HistoryRound := ⟨request.threadId, said replies⟩
      replies.foldl (take unique) { s with request := none, rounds := s.rounds ++ [round] }
  | .incoming type msg => { s with client := s.client.slotIncomingMsg type msg }

def run (events : List Event) (s : HistorySync) : HistorySync :=
  events.foldl (handle driver t) s

/-! ## What it is for -/

/-- The pages of each thread until its last one, a thread after the other. -/
inductive InTurn : List String → List HistoryRound → Prop
  | done : InTurn [] []
  | more {threadId : String} {threads : List String} {rounds : List HistoryRound}
      (others : InTurn (threadId :: threads) rounds) :
      InTurn (threadId :: threads) (⟨threadId, .more⟩ :: rounds)
  | last {threadId : String} {threads : List String} {rounds : List HistoryRound}
      (others : InTurn threads rounds) :
      InTurn (threadId :: threads) (⟨threadId, .last⟩ :: rounds)

/-- What the row and a record of the same message share. The id is not in every record: a live
    message is kept under the one its sender gave it. -/
def ChatMsg.shown (m : ChatMsg) : String × String × String :=
  (m.messageSender.repr, m.messageReceiver.repr, m.messageContent)

def ChattingRecord.shown (r : ChattingRecord) : String × String × String :=
  (r.senderUuid, r.receiverUuid, r.msgContent)

/-- Each message of the thread has a record of its own in the data. -/
def Holds (t : Tables) (threadId : String) (d : UserChatThread) : Prop :=
  ((t.chatMsgHistoryBank.filter fun m => m.threadId.repr = threadId).map ChatMsg.shown).Subperm
    (d.dumpAll.map ChattingRecord.shown)

/-- Every thread has been asked for, and its data has every message. -/
structure Complete (s : HistorySync) : Prop where
  inTurn : InTurn s.client.account.allChattingSessions s.rounds
  ended : s.request = none
  holds : ∀ threadId ∈ s.client.account.allChattingSessions,
    ∃ d, s.client.threadData threadId = some d ∧ Holds t threadId d

/-- After enough answers everything is complete, whatever live messages arrive in between. -/
def Loads (client : HistoryClient) : Prop :=
  ∃ n, ∀ events : List Event, n ≤ events.countP Event.isAnswer →
    Complete t (run driver t events (start client))

/-! ## One answer -/

/-- The callback takes neither an error nor a page. -/
theorem decodeRecordReply_recordsResponse (unique : Nat → String) (reply : PullReply) :
    reply.recordsResponse.bind (decodeRecordReply unique) = none := by
  cases reply with
  | error message =>
    have hcode : toInt (.number message.status.code.repr) = message.status.code := by
      rw [toInt, Nat.toList_repr, Text.leadingDigits_toDigits]
      rfl
    have hne : message.status.code ≠ 0 := by
      cases message.status <;> decide
    have hbody : decodeRecordReply unique message.body = none := by
      have hget : message.body.get "error" = .number message.status.code.repr := rfl
      have hcontains : message.body.contains "error" = true := rfl
      rw [decodeRecordReply, hcontains, hget, hcode]
      simp [hne]
    rw [PullReply.recordsResponse]
    split
    · exact hbody
    · rfl
  | threads reply => rfl
  | records threadId isComplete nextMsgId chatMessages => rfl

theorem take_eq (unique : Nat → String) (s : HistorySync) (reply : PullReply) :
    take unique s reply = s := by
  rw [take, decodeRecordReply_recordsResponse]

theorem foldl_take (unique : Nat → String) (s : HistorySync) (replies : List PullReply) :
    replies.foldl (take unique) s = s := by
  induction replies with
  | nil => rfl
  | cons reply replies ih => rw [List.foldl_cons, take_eq, ih]

/-- What is asked of the server first, and what it says. -/
def firstRounds (client : HistoryClient) : List HistoryRound :=
  client.loadMoreChattingHistory.toList.map fun r =>
    ⟨r.threadId, said (pullRecords driver t r.threadId r.msgId)⟩

variable {driver t}

theorem handle_answer {s : HistorySync} {client : HistoryClient} (unique : Nat → String)
    (hrequest : s.request = client.loadMoreChattingHistory) (hrounds : s.rounds = []) :
    handle driver t s (.answer unique) =
      { s with request := none, rounds := firstRounds driver t client } := by
  obtain ⟨c, request, rounds⟩ := s
  obtain rfl : request = client.loadMoreChattingHistory := hrequest
  obtain rfl : rounds = [] := hrounds
  unfold handle firstRounds
  cases client.loadMoreChattingHistory with
  | none => rfl
  | some request =>
    simp only [foldl_take]
    rfl

theorem handle_answer_none {s : HistorySync} (unique : Nat → String) (h : s.request = none) :
    handle driver t s (.answer unique) = s := by
  rw [handle, h]

/-! ## A whole run -/

/-- What live messages leave as it is: the list, and what is in the data. -/
structure Grown (client client' : HistoryClient) : Prop where
  account : client'.account = client.account
  data : ∀ threadId d, client.threadData threadId = some d →
    ∃ d', client'.threadData threadId = some d' ∧ d.dumpAll <+: d'.dumpAll

theorem grown_refl (client : HistoryClient) : Grown client client where
  account := rfl
  data := fun _ d hd => ⟨d, hd, List.prefix_rfl⟩

theorem Grown.trans {c₁ c₂ c₃ : HistoryClient} (h : Grown c₁ c₂) (h' : Grown c₂ c₃) :
    Grown c₁ c₃ where
  account := h'.account.trans h.account
  data := by
    intro threadId d hd
    obtain ⟨d', hd', hmore⟩ := h.data threadId d hd
    obtain ⟨d'', hd'', hmore'⟩ := h'.data threadId d' hd'
    exact ⟨d'', hd'', hmore.trans hmore'⟩

theorem dumpAll_insertMessage (d : UserChatThread) (msg : ChattingRecord) :
    d.dumpAll <+: (d.insertMessage msg).dumpAll := by
  change d.recordStorge.messages.values <+: (d.recordStorge.insertMessage msg).2.messages.values
  by_cases hfree : ∃ k, MessageBuffer.slot msg = some k ∧ d.recordStorge.index k = none
  · obtain ⟨k, hslot, hk⟩ := hfree
    obtain ⟨-, hmessages, -⟩ := MessageBuffer.insertMessage_free d.recordStorge hslot hk
    rw [hmessages, NodeList.pushBack_values]
    exact List.prefix_append ..
  · have htaken : ∀ k, MessageBuffer.slot msg = some k → d.recordStorge.index k ≠ none :=
      fun k hslot hk => hfree ⟨k, hslot, hk⟩
    obtain ⟨-, hnodes, -⟩ := MessageBuffer.insertMessage_taken d.recordStorge htaken
    have hvalues : (d.recordStorge.insertMessage msg).2.messages.values =
        d.recordStorge.messages.values := congrArg (List.map Prod.snd) hnodes
    exact hvalues ▸ List.prefix_rfl

theorem grown_slotIncomingMsg (client : HistoryClient) (type : MsgType) (msg : ChattingRecord) :
    Grown client (client.slotIncomingMsg type msg) := by
  unfold HistoryClient.slotIncomingMsg
  split
  · exact grown_refl client
  · rename_i threadId _
    split
    · exact grown_refl client
    · rename_i thread hthread
      refine ⟨rfl, fun threadId' d hd => ?_⟩
      by_cases heq : threadId' = threadId
      · subst heq
        obtain rfl := Option.some.inj (hthread.symm.trans hd)
        refine ⟨_, Function.update_self .., ?_⟩
        unfold UserChatThread.slotIncomingMsg
        split
        · exact List.prefix_rfl
        · exact dumpAll_insertMessage thread _
      · exact ⟨d, (Function.update_of_ne heq _ _).trans hd, List.prefix_rfl⟩

/-- Before the first answer. -/
structure Waiting (client : HistoryClient) (s : HistorySync) : Prop where
  grown : Grown client s.client
  request : s.request = client.loadMoreChattingHistory
  rounds : s.rounds = []

variable (driver t) in
/-- After the first answer. -/
structure Over (client : HistoryClient) (s : HistorySync) : Prop where
  grown : Grown client s.client
  request : s.request = none
  rounds : s.rounds = firstRounds driver t client

theorem over_handle {client : HistoryClient} {s : HistorySync} (h : Over driver t client s)
    (e : Event) : Over driver t client (handle driver t s e) := by
  cases e with
  | answer unique => rwa [handle_answer_none unique h.request]
  | incoming type msg =>
    exact ⟨h.grown.trans (grown_slotIncomingMsg s.client type msg), h.request, h.rounds⟩

theorem over_run {client : HistoryClient} {s : HistorySync} (h : Over driver t client s)
    (events : List Event) : Over driver t client (run driver t events s) := by
  induction events generalizing s with
  | nil => exact h
  | cons e events ih => exact ih (over_handle h e)

/-- The first answer ends it. -/
theorem over_run_of_waiting {client : HistoryClient} {s : HistorySync} (h : Waiting client s)
    {events : List Event} (hanswer : 1 ≤ events.countP Event.isAnswer) :
    Over driver t client (run driver t events s) := by
  induction events generalizing s with
  | nil => simp at hanswer
  | cons e events ih =>
    cases e with
    | answer unique =>
      have hstep : handle driver t s (.answer unique) =
          { s with request := none, rounds := firstRounds driver t client } :=
        handle_answer unique h.request h.rounds
      refine over_run (s := handle driver t s (.answer unique)) ?_ events
      rw [hstep]
      exact ⟨h.grown, rfl, rfl⟩
    | incoming type msg =>
      refine ih (s := handle driver t s (.incoming type msg)) ?_ ?_
      · exact ⟨h.grown.trans (grown_slotIncomingMsg s.client type msg), h.request, h.rounds⟩
      · rwa [List.countP_cons_of_neg Bool.false_ne_true] at hanswer

theorem run_over (client : HistoryClient) {events : List Event}
    (hanswer : 1 ≤ events.countP Event.isAnswer) :
    Over driver t client (run driver t events (start client)) :=
  over_run_of_waiting ⟨grown_refl client, rfl, rfl⟩ hanswer

/-- Answers alone change nothing in the client. -/
theorem client_run_answers (client : HistoryClient) (n : Nat) (unique : Nat → String) :
    (run driver t (.replicate n (.answer unique)) (start client)).client = client := by
  have hstep : ∀ s : HistorySync, (handle driver t s (.answer unique)).client = s.client := by
    intro s
    unfold handle
    cases s.request with
    | none => rfl
    | some request => simp only [foldl_take]
  have hrun : ∀ s : HistorySync,
      (run driver t (.replicate n (.answer unique)) s).client = s.client := by
    induction n with
    | zero => exact fun s => rfl
    | succ n ih => exact fun s => (ih _).trans (hstep s)
  exact hrun (start client)

/-! ## What is loaded -/

variable (driver t) in
/-- No thread is listed, or one whose data has every message, and the server has at most one page
    more. -/
def Loadable (client : HistoryClient) : Prop :=
  client.account.allChattingSessions = [] ∨
    ∃ d, client.account.allChattingSessions = [d.threadId] ∧ client.currSessionLoadingSeq = 0 ∧
      client.threadData d.threadId = some d ∧
      said (pullRecords driver t d.threadId d.lastFetchedMsgId) = .last ∧ Holds t d.threadId d

theorem inTurn_nil_iff {threads : List String} : InTurn threads [] ↔ threads = [] := by
  constructor
  · intro h
    cases h
    rfl
  · rintro rfl
    exact .done

theorem inTurn_singleton_iff {threads : List String} {round : HistoryRound} :
    InTurn threads [round] ↔ threads = [round.threadId] ∧ round.said = .last := by
  constructor
  · intro h
    cases h with
    | more hothers => cases hothers
    | last hothers =>
      cases hothers
      exact ⟨rfl, rfl⟩
  · obtain ⟨threadId, said⟩ := round
    rintro ⟨rfl, rfl⟩
    exact .last .done

/-- A request goes to the data of the session that the client has got to. -/
theorem loadMore_eq_some {client : HistoryClient} {request : RecordRequest}
    (h : client.loadMoreChattingHistory = some request) :
    ∃ threadId d, client.account.allChattingSessions[client.currSessionLoadingSeq]? =
        some threadId ∧
      client.threadData threadId = some d ∧ request = HistoryClient.requestFor d := by
  obtain ⟨d, hsession, rfl⟩ := Option.map_eq_some_iff.mp h
  rw [HistoryClient.getCurThreadSession, HistoryClient.loadSession] at hsession
  split at hsession
  · cases hsession
  · rename_i threadId hthread
    exact ⟨threadId, d, hthread, hsession, rfl⟩

theorem loadable_of_loads {client : HistoryClient} (h : Loads driver t client) :
    Loadable driver t client := by
  obtain ⟨n, hall⟩ := h
  let events : List Event := .replicate (n + 1) (.answer Nat.repr)
  have hcount : events.countP Event.isAnswer = n + 1 := by
    simp [events, List.countP_replicate, Event.isAnswer]
  have hcomplete := hall events (by omega)
  have hover : Over driver t client (run driver t events (start client)) :=
    run_over client (by omega)
  have hclient : (run driver t events (start client)).client = client :=
    client_run_answers client (n + 1) Nat.repr
  have hturn := hcomplete.inTurn
  rw [hclient, hover.rounds, firstRounds] at hturn
  cases hload : client.loadMoreChattingHistory with
  | none =>
    rw [hload] at hturn
    exact .inl (inTurn_nil_iff.mp hturn)
  | some request =>
    rw [hload] at hturn
    obtain ⟨hthreads, hsaid⟩ := inTurn_singleton_iff.mp hturn
    obtain ⟨threadId, d, hsession, hdata, rfl⟩ := loadMore_eq_some hload
    have hthreads' : client.account.allChattingSessions = [d.threadId] := hthreads
    rw [hthreads', List.getElem?_singleton] at hsession
    split at hsession
    · rename_i hseq
      obtain rfl := Option.some.inj hsession
      refine .inr ⟨d, hthreads', hseq, hdata, hsaid, ?_⟩
      obtain ⟨d', hd', hholds⟩ := hcomplete.holds d.threadId (by simp [hclient, hthreads'])
      rw [hclient, hdata] at hd'
      exact Option.some.inj hd' ▸ hholds
    · cases hsession

theorem loads_of_loadable {client : HistoryClient} (h : Loadable driver t client) :
    Loads driver t client := by
  refine ⟨1, fun events hanswer => ?_⟩
  have hover : Over driver t client (run driver t events (start client)) :=
    run_over client hanswer
  rcases h with hnone | ⟨d, hthreads, hseq, hdata, hsaid, hholds⟩
  · have hrequest : client.loadMoreChattingHistory = none := by
      simp [HistoryClient.loadMoreChattingHistory, HistoryClient.getCurThreadSession,
        HistoryClient.loadSession, hnone]
    constructor
    · rw [hover.grown.account, hover.rounds, hnone, firstRounds, hrequest]
      exact .done
    · exact hover.request
    · rw [hover.grown.account, hnone]
      exact fun threadId hthread => absurd hthread List.not_mem_nil
  · have hrequest : client.loadMoreChattingHistory = some (HistoryClient.requestFor d) := by
      simp [HistoryClient.loadMoreChattingHistory, HistoryClient.getCurThreadSession,
        HistoryClient.loadSession, hthreads, hseq, hdata]
    constructor
    · rw [hover.grown.account, hover.rounds, hthreads, firstRounds, hrequest]
      exact inTurn_singleton_iff.mpr ⟨rfl, hsaid⟩
    · exact hover.request
    · rw [hover.grown.account, hthreads]
      intro threadId hthread
      obtain rfl := List.mem_singleton.mp hthread
      obtain ⟨d', hd', hmore⟩ := hover.grown.data _ d hdata
      exact ⟨d', hd', hholds.trans (hmore.map _).sublist.subperm⟩

/-- Everything is loaded exactly if there is nothing to load. -/
theorem loads_iff_loadable (driver : MySqlDriver) (t : Tables) (client : HistoryClient) :
    Loads driver t client ↔ Loadable driver t client :=
  ⟨loadable_of_loads, loads_of_loadable⟩

/-- One friend, with a thread that the list has brought, and one message in it. -/
theorem not_loads_listedThread :
    ¬Loads ⟨id, true, true⟩
      { (registered [1, 2]).tables with chatMsgHistoryBank := [⟨1, 7, 0, 2, 1, "hi"⟩] }
      { account := ((UserAccountManager.login "1" ["2"]).slotUpdateChatThread
          ⟨false, "", [⟨"7", .privateChat, "1", "2"⟩]⟩).1
        threadData := fun _ => none
        currSessionLoadingSeq := 0 } := by
  intro h
  rcases loadable_of_loads h with hnone | ⟨d, -, -, hdata, -⟩
  · exact absurd hnone (by decide)
  · cases hdata

end HistorySync

end DistributedIM.Protocol
