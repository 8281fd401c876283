/-
  The containers of `UserAccountManager`: friend requests, friends, threads, who is on which thread,
  thread data, and the list of sessions; the four overloads of `addItem2List`, and `clear`.

  `Consistent` is what the overloads keep between the containers, and `clear` is to leave nothing
  (`ClearsAll`). `keeps_iff_orderly`: along a run both hold exactly if every step is `Orderly`. The
  overload for a thread with data stores the data also where the overload it calls has skipped the
  thread, since the friend is on another one; and `clear` resets neither the threads and who is on
  them, nor the sessions with their index, nor the last thread id.

  The overload for a private thread reads `m_userInfo`, which is null before a login and after
  `clear`: there no step is taken. `toLongLong` is the one of `QString`. Left out: name cards but for
  their uuids.
-/
import DistributedIM.Client.HistoryLoading
import DistributedIM.Lib.Matching
import DistributedIM.Lib.Trace

namespace DistributedIM.Client

/-- A request that was not granted yet. -/
structure UserFriendRequest where
  senderUuid : String
  receiverUuid : String
  requestMessage : String
  deriving DecidableEq, Repr

/-- `ChattingServerInfo` without the uuid. -/
structure ChattingServerInfo where
  host : String
  port : String
  token : String
  deriving DecidableEq, Repr

/-- `UserAccountManager` with all its containers; `uuid` is the one of `m_info`. -/
structure AccountMaps extends UserAccountManager where
  info : ChattingServerInfo
  /-- the uuid of `m_userInfo`; none: null -/
  userInfo : Option String
  friendRequestList : List UserFriendRequest
  threadData : String → Option UserChatThread
  lastThreadId : String
  currSessionLoadingSeq : Nat
  /-- the friends on threads that have been added together with thread data -/
  withData : List String

namespace AccountMaps

/-- `UserAccountManager()` -/
def new : AccountMaps where
  toUserAccountManager := .login "" []
  info := ⟨"", "", ""⟩
  userInfo := none
  friendRequestList := []
  threadData _ := none
  lastThreadId := ""
  currSessionLoadingSeq := 0
  withData := []

/-! ## `addItem2List` -/

def addFriendRequest (s : AccountMaps) (info : UserFriendRequest) : AccountMaps :=
  { s with friendRequestList := s.friendRequestList ++ [info] }

def addNameCard (s : AccountMaps) (uuid : String) : AccountMaps :=
  { s with authFriendList :=
      if uuid ∈ s.authFriendList then s.authFriendList else s.authFriendList ++ [uuid] }

def addThreadDesc (s : AccountMaps) (friendUuid : String) (info : ChatThreadMeta) : AccountMaps :=
  { s with toUserAccountManager := s.toUserAccountManager.addItem2List friendUuid info }

/-- `m_ThreadData[thread_id] = info`, if there is none -/
def addThreadData (s : AccountMaps) (info : UserChatThread) : AccountMaps :=
  if s.threadData info.threadId = none then
    { s with threadData := Function.update s.threadData info.threadId (some info) }
  else s

/-- The `ChattingThreadDesc` of a thread with data; none: a private thread, and `m_userInfo` is
    null. -/
def createDesc (s : AccountMaps) (friendUuid : String) (info : UserChatThread) :
    Option ChatThreadMeta :=
  match info.userChatType with
  | .groupChat => some ⟨info.threadId, .groupChat, "", ""⟩
  | .privateChat => s.userInfo.map fun uuid => ⟨info.threadId, .privateChat, uuid, friendUuid⟩

def storeThread (s : AccountMaps) (friendUuid : String) (desc : ChatThreadMeta)
    (info : UserChatThread) : AccountMaps :=
  let t := ((s.addNameCard friendUuid).addThreadDesc friendUuid desc).addThreadData info
  { t with withData :=
      if (t.friendOnThreadsLists friendUuid).isSome then friendUuid :: s.withData
      else s.withData }

/-- `friendUuid` is the uuid of the thread's name card. -/
def addChatThread (s : AccountMaps) (friendUuid : String) (info : UserChatThread) :
    Option AccountMaps :=
  (s.createDesc friendUuid info).map fun desc => s.storeThread friendUuid desc info

/-! ## Other calls -/

def clear (s : AccountMaps) : AccountMaps :=
  { s with
    uuid := ""
    info := ⟨"", "", ""⟩
    userInfo := none
    friendRequestList := []
    authFriendList := []
    threadData := fun _ => none }

def setLastThreadID (toLongLong : String → Int) (s : AccountMaps) (id : String) : AccountMaps :=
  if toLongLong s.lastThreadId < toLongLong id then { s with lastThreadId := id } else s

/-- `getNextThreadSession`, but for the thread it returns -/
def nextThreadSession (s : AccountMaps) : AccountMaps :=
  { s with currSessionLoadingSeq := s.currSessionLoadingSeq + 1 }

inductive Event
  /-- `set_uuid`, `set_host`, `set_port`, `set_token` -/
  | setInfo (uuid : String) (info : ChattingServerInfo)
  | setUserInfo (uuid : String)
  | addFriendRequest (info : UserFriendRequest)
  | addNameCard (uuid : String)
  | addThreadDesc (friendUuid : String) (info : ChatThreadMeta)
  | addChatThread (friendUuid : String) (info : UserChatThread)
  | setLastThreadID (id : String)
  | nextThreadSession
  | clear

variable (toLongLong : String → Int)

def step (s : AccountMaps) : Event → Option AccountMaps
  | .setInfo uuid info => some { s with uuid := uuid, info := info }
  | .setUserInfo uuid => some { s with userInfo := some uuid }
  | .addFriendRequest info => some (s.addFriendRequest info)
  | .addNameCard uuid => some (s.addNameCard uuid)
  | .addThreadDesc friendUuid info => some (s.addThreadDesc friendUuid info)
  | .addChatThread friendUuid info => s.addChatThread friendUuid info
  | .setLastThreadID id => some (s.setLastThreadID toLongLong id)
  | .nextThreadSession => some s.nextThreadSession
  | .clear => some s.clear

/-! ## What is to be kept -/

structure Consistent (s : AccountMaps) : Prop where
  nodup : s.allChattingSessions.Nodup
  sessions : ∀ threadId,
    threadId ∈ s.allChattingSessions ↔ (s.threadDescLists threadId).isSome = true
  /-- exactly the threads have a friend on them, and one each -/
  friends : Matching.Matches (fun threadId => (s.threadDescLists threadId).isSome = true)
    s.friendOnThreadsLists
  data : ∀ threadId, (s.threadData threadId).isSome = true →
    (s.threadDescLists threadId).isSome = true
  known : ∀ f ∈ s.withData, f ∈ s.authFriendList

/-- `clear` leaves nothing of the user. -/
def ClearsAll (s : AccountMaps) : Event → Prop
  | .clear => s.clear = new
  | _ => True

/-- Data comes for a thread that is known or for a friend without one, and `clear` when there are no
    sessions, no last thread id, and the index is 0. -/
def Orderly (s : AccountMaps) : Event → Prop
  | .addChatThread friendUuid info =>
    s.threadDescLists info.threadId ≠ none ∨ s.friendOnThreadsLists friendUuid = none
  | .clear => s.allChattingSessions = [] ∧ s.lastThreadId = "" ∧ s.currSessionLoadingSeq = 0
  | _ => True

structure Inv (s : AccountMaps) : Prop where
  consistent : Consistent s
  onThread : ∀ f ∈ s.withData, (s.friendOnThreadsLists f).isSome = true

theorem inv_new : Inv new where
  consistent :=
    { nodup := List.nodup_nil
      sessions := by simp [new, UserAccountManager.login]
      friends := ⟨by simp [new, UserAccountManager.login], by simp [new, UserAccountManager.login]⟩
      data := by simp [new]
      known := by simp [new] }
  onThread := by simp [new]

/-! ## The overloads -/

variable {toLongLong} {s s' : AccountMaps} {friendUuid : String}

theorem inv_addNameCard (h : Inv s) (uuid : String) : Inv (s.addNameCard uuid) where
  consistent :=
    { h.consistent with
      known := by
        intro f hf
        have hold := h.consistent.known f hf
        change f ∈ if uuid ∈ s.authFriendList then _ else _
        split
        · exact hold
        · exact List.mem_append_left _ hold }
  onThread := h.onThread

theorem mem_addNameCard (s : AccountMaps) (uuid : String) :
    uuid ∈ (s.addNameCard uuid).authFriendList := by
  change uuid ∈ if uuid ∈ s.authFriendList then _ else _
  split
  · assumption
  · exact List.mem_append_right _ (List.mem_singleton_self uuid)

/-- Who is on a thread stays there. -/
theorem friendOnThreadsLists_addThreadDesc (info : ChatThreadMeta) {f : String}
    (h : (s.friendOnThreadsLists f).isSome = true) :
    ((s.addThreadDesc friendUuid info).friendOnThreadsLists f).isSome = true := by
  unfold addThreadDesc UserAccountManager.addItem2List
  split
  · dsimp only
    by_cases hf : f = friendUuid
    · rw [hf, Function.update_self]
      rfl
    · rw [Function.update_of_ne hf]
      exact h
  · exact h

theorem inv_addThreadDesc (h : Inv s) (friendUuid : String) (info : ChatThreadMeta) :
    Inv (s.addThreadDesc friendUuid info) := by
  refine ⟨?_, fun f hf => friendOnThreadsLists_addThreadDesc info (h.onThread f hf)⟩
  unfold addThreadDesc UserAccountManager.addItem2List
  split
  · rename_i hnew
    obtain ⟨hthread, hfriend⟩ := hnew
    have hunknown : ¬(s.threadDescLists info.threadId).isSome = true := by
      rw [hthread]
      exact Bool.false_ne_true
    have hkeys (threadId : String) :
        (Function.update s.threadDescLists info.threadId (some info) threadId).isSome = true ↔
          threadId = info.threadId ∨ (s.threadDescLists threadId).isSome = true :=
      Matching.isSome_update_iff ..
    exact {
      nodup := by
        apply h.consistent.nodup.append (List.nodup_singleton _)
        rw [List.disjoint_singleton, h.consistent.sessions]
        exact hunknown
      sessions := by
        intro threadId
        rw [hkeys, List.mem_append, List.mem_singleton, h.consistent.sessions, or_comm]
      friends := h.consistent.friends.update hunknown hfriend hkeys
      data := fun threadId hdata => (hkeys threadId).mpr (Or.inr (h.consistent.data threadId hdata))
      known := h.consistent.known }
  · exact h.consistent

theorem threadDescLists_addThreadDesc (info : ChatThreadMeta)
    (h : s.threadDescLists info.threadId ≠ none ∨ s.friendOnThreadsLists friendUuid = none) :
    ((s.addThreadDesc friendUuid info).threadDescLists info.threadId).isSome = true := by
  unfold addThreadDesc UserAccountManager.addItem2List
  split
  · dsimp only
    rw [Function.update_self]
    rfl
  · rename_i hskip
    apply Option.isSome_iff_ne_none.mpr
    intro hnone
    exact hskip ⟨hnone, h.resolve_left (not_not_intro hnone)⟩

theorem inv_addThreadData (h : Inv s) {info : UserChatThread}
    (hthread : (s.threadDescLists info.threadId).isSome = true) : Inv (s.addThreadData info) := by
  unfold addThreadData
  split
  · refine ⟨{ h.consistent with data := ?_ }, h.onThread⟩
    intro threadId hdata
    rcases (Matching.isSome_update_iff ..).mp hdata with rfl | hold
    · exact hthread
    · exact h.consistent.data threadId hold
  · exact h

theorem threadId_createDesc {info : UserChatThread} {desc : ChatThreadMeta}
    (h : s.createDesc friendUuid info = some desc) : desc.threadId = info.threadId := by
  unfold createDesc at h
  split at h
  · cases h
    rfl
  · obtain ⟨uuid, -, rfl⟩ := Option.map_eq_some_iff.mp h
    rfl

/-- The data changes nothing else. -/
theorem addThreadData_maps (s : AccountMaps) (info : UserChatThread) :
    (s.addThreadData info).toUserAccountManager = s.toUserAccountManager ∧
      (s.addThreadData info).withData = s.withData := by
  unfold addThreadData
  split
  · exact ⟨rfl, rfl⟩
  · exact ⟨rfl, rfl⟩

/-- Afterwards there is data for the thread. -/
theorem isSome_threadData (s : AccountMaps) (info : UserChatThread) :
    ((s.addThreadData info).threadData info.threadId).isSome = true := by
  unfold addThreadData
  split
  · dsimp only
    rw [Function.update_self]
    rfl
  · rename_i hdata
    exact Option.isSome_iff_ne_none.mpr hdata

theorem authFriendList_addThreadDesc (s : AccountMaps) (friendUuid : String)
    (info : ChatThreadMeta) :
    (s.addThreadDesc friendUuid info).authFriendList = s.authFriendList := by
  unfold addThreadDesc UserAccountManager.addItem2List
  split
  · rfl
  · rfl

/-- A friend on a thread who is in the list has been added together with data. -/
theorem inv_withData (h : Inv s) {f : String} (hfriend : f ∈ s.authFriendList) :
    Inv { s with withData :=
      if (s.friendOnThreadsLists f).isSome then f :: s.withData else s.withData } := by
  split
  · rename_i hthread
    exact {
      consistent :=
        { h.consistent with
          known := List.forall_mem_cons.mpr ⟨hfriend, h.consistent.known⟩ }
      onThread := List.forall_mem_cons.mpr ⟨hthread, h.onThread⟩ }
  · exact h

theorem inv_storeThread (h : Inv s) {info : UserChatThread} {desc : ChatThreadMeta}
    (hdesc : desc.threadId = info.threadId)
    (horderly : Orderly s (.addChatThread friendUuid info)) :
    Inv (s.storeThread friendUuid desc info) := by
  have hthread : (((s.addNameCard friendUuid).addThreadDesc friendUuid desc).threadDescLists
      info.threadId).isSome = true := by
    rw [← hdesc]
    apply threadDescLists_addThreadDesc
    rw [hdesc]
    exact horderly
  have hdata := inv_addThreadData (inv_addThreadDesc (inv_addNameCard h friendUuid) friendUuid desc)
    hthread
  have hmaps := ((s.addNameCard friendUuid).addThreadDesc friendUuid desc).addThreadData_maps info
  have hfriend : friendUuid ∈
      (((s.addNameCard friendUuid).addThreadDesc friendUuid desc).addThreadData
        info).authFriendList := by
    rw [hmaps.1, authFriendList_addThreadDesc]
    exact mem_addNameCard s friendUuid
  have hnoted := inv_withData hdata hfriend
  rw [hmaps.2] at hnoted
  exact hnoted

/-- The data of a thread that was skipped. -/
theorem not_consistent_storeThread {info : UserChatThread} {desc : ChatThreadMeta}
    (hbad : ¬Orderly s (.addChatThread friendUuid info)) :
    ¬Consistent (s.storeThread friendUuid desc info) := by
  intro hconsistent
  unfold Orderly at hbad
  rw [not_or, not_not] at hbad
  obtain ⟨hthread, hfriend⟩ := hbad
  have hskip : (s.addNameCard friendUuid).addThreadDesc friendUuid desc =
      s.addNameCard friendUuid := by
    unfold addThreadDesc UserAccountManager.addItem2List
    rw [if_neg fun hboth => hfriend hboth.2]
  have hkey := hconsistent.data info.threadId
  have hmaps := (s.addNameCard friendUuid).addThreadData_maps info
  simp only [storeThread, hskip, hmaps.1] at hkey
  have hsome : (s.threadDescLists info.threadId).isSome = true :=
    hkey (isSome_threadData ..)
  rw [hthread] at hsome
  cases hsome

/-! ## `clear` -/

theorem clear_eq_new (h : Inv s) (horderly : Orderly s .clear) : s.clear = new := by
  obtain ⟨hsessions, hlast, hseq⟩ := horderly
  have hdesc : s.threadDescLists = fun _ => none := by
    funext threadId
    have hkey := h.consistent.sessions threadId
    rw [hsessions] at hkey
    rw [← Option.not_isSome_iff_eq_none, ← hkey]
    exact List.not_mem_nil
  have hfriends : s.friendOnThreadsLists = fun _ => none := by
    funext f
    cases hf : s.friendOnThreadsLists f with
    | none => rfl
    | some threadId =>
      have hsome := (h.consistent.friends.onto threadId).mpr ⟨f, hf⟩
      rw [hdesc] at hsome
      cases hsome
  have hwith : s.withData = [] := by
    apply List.eq_nil_iff_forall_not_mem.mpr
    intro f hf
    have hsome := h.onThread f hf
    rw [hfriends] at hsome
    cases hsome
  simp only [clear, new, UserAccountManager.login, hdesc, hfriends, hsessions, hwith, hlast, hseq]

theorem orderly_of_clear_eq_new (h : s.clear = new) : Orderly s .clear :=
  ⟨congrArg (fun t => t.allChattingSessions) h, congrArg (fun t => t.lastThreadId) h,
    congrArg (fun t => t.currSessionLoadingSeq) h⟩

/-! ## Runs -/

theorem inv_step {e : Event} (h : Inv s) (horderly : Orderly s e)
    (hstep : step toLongLong s e = some s') : ClearsAll s e ∧ Inv s' := by
  cases e with
  | setInfo uuid info =>
    cases hstep
    exact ⟨trivial, { h.consistent with }, h.onThread⟩
  | setUserInfo uuid =>
    cases hstep
    exact ⟨trivial, { h.consistent with }, h.onThread⟩
  | addFriendRequest info =>
    cases hstep
    exact ⟨trivial, { h.consistent with }, h.onThread⟩
  | addNameCard uuid =>
    cases hstep
    exact ⟨trivial, inv_addNameCard h uuid⟩
  | addThreadDesc friendUuid info =>
    cases hstep
    exact ⟨trivial, inv_addThreadDesc h friendUuid info⟩
  | addChatThread friendUuid info =>
    obtain ⟨desc, hdesc, rfl⟩ := Option.map_eq_some_iff.mp hstep
    exact ⟨trivial, inv_storeThread h (threadId_createDesc hdesc) horderly⟩
  | setLastThreadID id =>
    cases hstep
    unfold setLastThreadID
    split
    · exact ⟨trivial, { h.consistent with }, h.onThread⟩
    · exact ⟨trivial, h⟩
  | nextThreadSession =>
    cases hstep
    exact ⟨trivial, { h.consistent with }, h.onThread⟩
  | clear =>
    cases hstep
    have hnew := clear_eq_new h horderly
    exact ⟨hnew, hnew ▸ inv_new⟩

theorem not_consistent_of_not_orderly {e : Event} (hbad : ¬Orderly s e)
    (hstep : step toLongLong s e = some s') (hclears : ClearsAll s e) : ¬Consistent s' := by
  cases e with
  | addChatThread friendUuid info =>
    obtain ⟨desc, -, rfl⟩ := Option.map_eq_some_iff.mp hstep
    exact not_consistent_storeThread hbad
  | clear => exact absurd (orderly_of_clear_eq_new hclears) hbad
  | _ => exact absurd trivial hbad

/-- The containers are consistent in every state of a run, and `clear` leaves nothing, exactly if all
    steps are orderly. -/
theorem keeps_iff_orderly (toLongLong : String → Int) (es : List Event) :
    Trace.Always (step toLongLong) Consistent new es ∧
        Trace.Meets (step toLongLong) ClearsAll new es ↔
      Trace.Meets (step toLongLong) Orderly new es :=
  Trace.always_and_meets_iff_meets Inv (fun _ h => h.consistent)
    (fun _ _ _ h horderly hstep => inv_step h horderly hstep)
    (fun _ _ _ _ hbad hstep hclears => not_consistent_of_not_orderly hbad hstep hclears)
    inv_new es

/-- A friend on thread 5, then data of a thread 6 with the same friend. -/
def secondThread : List Event :=
  [.setUserInfo "1", .addThreadDesc "2" ⟨"5", .privateChat, "1", "2"⟩,
    .addChatThread "2" (.new "6" .privateChat)]

/-- The thread of a user, and the end of the session. -/
def loggedOut : List Event :=
  [.setUserInfo "1", .addChatThread "2" (.new "5" .privateChat), .clear]

/-- The data of thread 6 has no description, and thread 5 is left after the session. -/
theorem not_keeps :
    ¬Trace.Always (step fun _ => 0) Consistent new secondThread ∧
      ¬Trace.Meets (step fun _ => 0) ClearsAll new loggedOut := by
  constructor
  · intro h
    have hlast := Trace.exec_of_always h rfl
    have hkey := hlast.data "6" (by decide)
    revert hkey
    decide
  · intro h
    have hclear := (h _ rfl).2 _ rfl |>.2 _ rfl |>.1
    have hsessions := congrArg (fun t => t.allChattingSessions) hclear
    revert hsessions
    decide

end AccountMaps

end DistributedIM.Client
