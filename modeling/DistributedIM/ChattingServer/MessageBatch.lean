/-
  A batch of messages in `createModifyChattingHistoryRecord`: the loop over the list, in which each
  message is stored in a transaction of its own.

  The loop stops at the first message that is not stored, and the messages before it stay.
  `allOrNothing_iff`: the batch is stored all or nothing exactly if all its messages go through, or
  the first one does not. A message goes through if it passes the checks and none of its six
  statements is made to fail.
-/
import DistributedIM.ChattingServer.MySQLConnection

namespace DistributedIM.ChattingServer

open Transaction (Store Conn Call Ending Clear)

/-! ## All or nothing -/

/-- The message passes the checks, and none of its statements is made to fail. -/
def GoesThrough (sql : MySql) (t : Tables) (faults : List Bool) (info : MsgInfo) : Prop :=
  (info.landing sql t).isSome ∧ Clear 6 faults

/-- All messages go through, one after the other. -/
def AllGoThrough (sql : MySql) (t : Tables) : List Bool → List MsgInfo → Prop
  | _, [] => True
  | faults, info :: infos => GoesThrough sql t faults info ∧ AllGoThrough sql t (faults.drop 6) infos

/-- The first message, if there is one, does not go through. -/
def FirstFails (sql : MySql) (t : Tables) (faults : List Bool) (infos : List MsgInfo) : Prop :=
  ∀ info infos', infos = info :: infos' → ¬GoesThrough sql t faults info

/-- The rows are new, and the messages have their ids. -/
structure StoredAs (infos infos' : List MsgInfo) (rows : List ChatMsg) (last : Nat) : Prop where
  contents : rows.map ChatMsg.messageContent = infos.map MsgInfo.msgContent
  ids : infos' = List.zipWith (fun info row => info.setMsgID row.messageId.repr) infos rows
  distinct : (rows.map ChatMsg.messageId).Nodup
  new : ∀ row ∈ rows, last < row.messageId

/-- A batch that is answered with true has one row for each message; otherwise no message has a row
    or an id. -/
def AllOrNothing (sql : MySql) (infos : List MsgInfo) (c : DbConn) : Prop :=
  let r := createModifyChattingHistoryRecords sql infos true c
  let bank := c.store.tables.chatMsgHistoryBank
  (r.1.1 = .ok true → ∃ rows, r.2.store.tables.chatMsgHistoryBank = bank ++ rows ∧
      StoredAs infos r.1.2 rows c.store.counters.chatMsgHistoryBank) ∧
    (r.1.1 ≠ .ok true → r.2.store.tables.chatMsgHistoryBank = bank ∧ r.1.2 = infos)

/-! ## The statements of one message -/

/-- `executeCommand` uses up one fault, and finds rows only if its statement is not to fail. -/
theorem executeCommand_faults {ρ : Type} {stmt : Statement ρ} {c c' : DbConn}
    {found : Option (List ρ)} (h : executeCommand stmt c = (.ok found, c')) :
    c'.faults = c.faults.tail ∧ (found.isSome → c.faults.headD false = false) := by
  obtain ⟨b, hbody, hfound⟩ | ⟨hbody, hfound⟩ | ⟨err, -, -, hfound⟩ := Call.catching_cases h
  · obtain ⟨flag, m, hexec, hpure⟩ := Call.bind_eq_ok hbody
    obtain ⟨-, rfl⟩ := Prod.mk.inj hpure
    obtain ⟨hfaults, hclear⟩ := Call.execute_faults hexec
    exact ⟨hfaults, fun _ => hclear flag rfl⟩
  · obtain ⟨err, hexec, -⟩ | ⟨flag, m, -, hpure⟩ := Call.bind_cases hbody
    · rw [Except.ok.inj hfound]
      refine ⟨(Call.execute_faults hexec).1, fun hsome => ?_⟩
      cases hsome
    · cases (Prod.mk.inj hpure).1
  · cases hfound

theorem storeMsg_faults {sql : MySql} {info : MsgInfo} {a b : Nat} {c c' : DbConn}
    {q : Bool × MsgInfo} (h : storeMsg sql info a b c = (.ok (.commit q), c')) :
    Clear 2 c.faults ∧ c'.faults = c.faults.tail.tail := by
  unfold storeMsg at h
  obtain ⟨flag₁, m₁, hcheck, h⟩ := Call.bind_eq_ok h
  obtain ⟨hm₁, hclear₁⟩ := Call.execute_faults hcheck
  split at h
  · cases Except.ok.inj (Prod.mk.inj h).1
  obtain ⟨flag₂, m₂, hinsert, h⟩ := Call.bind_eq_ok h
  obtain ⟨hm₂, hclear₂⟩ := Call.execute_faults hinsert
  split at h
  · cases Except.ok.inj (Prod.mk.inj h).1
  obtain ⟨-, rfl⟩ := Prod.mk.inj h
  rw [hm₁] at hm₂ hclear₂
  exact ⟨⟨hclear₁ flag₁ rfl, hclear₂ flag₂ rfl, trivial⟩, hm₂⟩

/-- A message that is stored has used six statements, none of them made to fail. -/
theorem createModifyChattingHistoryRecord_faults {sql : MySql} {info info' : MsgInfo}
    {c c' : DbConn}
    (h : createModifyChattingHistoryRecord sql info c = (.ok (true, info'), c')) :
    Clear 6 c.faults := by
  unfold createModifyChattingHistoryRecord at h
  split at h
  · cases (Prod.mk.inj (Except.ok.inj (Prod.mk.inj h).1)).1
  obtain ⟨-, hthrown, -⟩ | ⟨a, -, h⟩ := bind_stoiOrThrow h
  · cases hthrown
  obtain ⟨-, hthrown, -⟩ | ⟨b, -, h⟩ := bind_stoiOrThrow h
  · cases hthrown
  obtain ⟨res1, m₁, hcheck₁, h⟩ := bind_executeCommand h
  obtain ⟨res2, m₂, hcheck₂, h⟩ := bind_executeCommand h
  obtain ⟨hm₁, hclear₁⟩ := executeCommand_faults hcheck₁
  obtain ⟨hm₂, hclear₂⟩ := executeCommand_faults hcheck₂
  split at h
  · cases (Prod.mk.inj (Except.ok.inj (Prod.mk.inj h).1)).1
  rename_i hsome
  rw [Bool.or_eq_true, Option.isNone_iff_eq_none, Option.isNone_iff_eq_none, not_or] at hsome
  have hfirst := hclear₁ (Option.isSome_iff_ne_none.mpr hsome.1)
  have hsecond := hclear₂ (Option.isSome_iff_ne_none.mpr hsome.2)
  rw [hm₁] at hsecond hm₂
  obtain ⟨q, hguard, hq⟩ | ⟨-, hfalse⟩ | ⟨err, -, -, hthrown⟩ := Call.catching_cases h
  · rw [← Except.ok.inj hq] at hguard
    obtain ⟨c₂, hstart, hbody, hcommit, -⟩ | ⟨c₁, c₂, -, hbody⟩ := Call.guarded_eq_ok hguard
    · obtain ⟨hmsg, hc₂⟩ := storeMsg_faults hbody
      rw [hc₂] at hcommit
      rw [hm₂] at hstart hmsg hcommit
      exact ⟨hfirst, hsecond, hstart, hmsg.1, hmsg.2.1, hcommit, trivial⟩
    · obtain hleave | ⟨thread, -, -, -, -, hending⟩ := storeMsg_cases hbody
      · cases (Prod.mk.inj (Ending.leave.inj hleave)).1
      · cases hending
  · cases (Prod.mk.inj (Except.ok.inj hfalse)).1
  · cases hthrown

/-- A message goes through, or nothing changes and the call does not answer true. -/
theorem createModifyChattingHistoryRecord_not {sql : MySql} {info : MsgInfo} {c c' : DbConn}
    {r : Except Exn (Bool × MsgInfo)}
    (h : createModifyChattingHistoryRecord sql info c = (r, c'))
    (hfails : ¬GoesThrough sql c.store.tables c.faults info) :
    c'.store.tables = c.store.tables ∧ (r = .ok (false, info) ∨ ∃ e, r = .error e) := by
  obtain hnothing | ⟨a, b, thread, hland, -, rfl⟩ := createModifyChattingHistoryRecord_cases h
  · exact hnothing
  · refine absurd ⟨?_, createModifyChattingHistoryRecord_faults h⟩ hfails
    rw [hland]
    rfl

/-! ## The loop -/

/-- The checks look at users and private chats only. -/
theorem allGoThrough_addMsg (sql : MySql) (infos : List MsgInfo) (faults : List Bool)
    (thread status a b : Nat) (content : String) (s : DbStore) :
    AllGoThrough sql (addMsg thread status a b content s).tables faults infos ↔
      AllGoThrough sql s.tables faults infos := by
  induction infos generalizing faults with
  | nil => exact Iff.rfl
  | cons info infos ih => exact and_congr Iff.rfl (ih _)

theorem records_false (sql : MySql) (infos : List MsgInfo) (c : DbConn) :
    createModifyChattingHistoryRecords sql infos false c = ((.ok false, infos), c) := by
  cases infos with
  | nil => rfl
  | cons info infos => rfl

/-- A batch whose first message does not go through leaves no trace. -/
theorem records_of_firstFails {sql : MySql} {info : MsgInfo} {c : DbConn}
    (infos : List MsgInfo) (hfails : ¬GoesThrough sql c.store.tables c.faults info) :
    (createModifyChattingHistoryRecords sql (info :: infos) true c).1.1 ≠ .ok true ∧
      (createModifyChattingHistoryRecords sql (info :: infos) true c).2.store.tables =
        c.store.tables ∧
      (createModifyChattingHistoryRecords sql (info :: infos) true c).1.2 = info :: infos := by
  cases hcall : createModifyChattingHistoryRecord sql info c with
  | mk r c' =>
    obtain ⟨htables, rfl | ⟨e, rfl⟩⟩ := createModifyChattingHistoryRecord_not hcall hfails
    · simp only [createModifyChattingHistoryRecords, hcall, records_false]
      exact ⟨by simp, htables, trivial⟩
    · simp only [createModifyChattingHistoryRecords, hcall]
      exact ⟨by simp, htables, trivial⟩

/-- The row a message that goes through is stored as. -/
theorem record_of_goesThrough {sql : MySql} {info : MsgInfo} {c : DbConn}
    (h : GoesThrough sql c.store.tables c.faults info) :
    ∃ thread a b, createModifyChattingHistoryRecord sql info c =
      (.ok (true, info.setMsgID (c.store.counters.chatMsgHistoryBank + 1).repr),
        ⟨addMsg thread 0 a b info.msgContent c.store, c.faults.drop 6⟩) := by
  obtain ⟨⟨a, b, thread⟩, hland⟩ := Option.isSome_iff_exists.mp h.1
  exact ⟨thread, a, b, createModifyChattingHistoryRecord_clear h.2 hland⟩

/-- The loop goes on behind a message that goes through. -/
theorem records_of_goesThrough {sql : MySql} {info : MsgInfo} {c : DbConn}
    (infos : List MsgInfo) (h : GoesThrough sql c.store.tables c.faults info) :
    ∃ thread a b, createModifyChattingHistoryRecords sql (info :: infos) true c =
      (let r := createModifyChattingHistoryRecords sql infos true
        ⟨addMsg thread 0 a b info.msgContent c.store, c.faults.drop 6⟩
      ((r.1.1, info.setMsgID (c.store.counters.chatMsgHistoryBank + 1).repr :: r.1.2), r.2)) := by
  obtain ⟨thread, a, b, hcall⟩ := record_of_goesThrough h
  refine ⟨thread, a, b, ?_⟩
  simp only [createModifyChattingHistoryRecords, hcall]

/-- Rows are only ever added. -/
theorem records_kept (sql : MySql) (infos : List MsgInfo) (c : DbConn) :
    c.store.tables.chatMsgHistoryBank <+:
      (createModifyChattingHistoryRecords sql infos true c).2.store.tables.chatMsgHistoryBank := by
  induction infos generalizing c with
  | nil => exact List.prefix_refl _
  | cons info infos ih =>
    by_cases h : GoesThrough sql c.store.tables c.faults info
    · obtain ⟨thread, a, b, hloop⟩ := records_of_goesThrough infos h
      rw [hloop]
      exact List.IsPrefix.trans (List.prefix_append _ _)
        (ih ⟨addMsg thread 0 a b info.msgContent c.store, c.faults.drop 6⟩)
    · have hsame := (records_of_firstFails infos h).2.1
      exact hsame.symm ▸ List.prefix_refl _

/-- After a message that goes through, the batch has left a row. -/
theorem records_ne {sql : MySql} {info : MsgInfo} {c : DbConn} (infos : List MsgInfo)
    (h : GoesThrough sql c.store.tables c.faults info) :
    (createModifyChattingHistoryRecords sql (info :: infos) true
      c).2.store.tables.chatMsgHistoryBank ≠ c.store.tables.chatMsgHistoryBank := by
  obtain ⟨thread, a, b, hloop⟩ := records_of_goesThrough infos h
  rw [hloop]
  intro heq
  have hprefix := (records_kept sql infos
    ⟨addMsg thread 0 a b info.msgContent c.store, c.faults.drop 6⟩).length_le
  dsimp only at heq hprefix
  rw [heq] at hprefix
  simp only [addMsg, List.length_append, List.length_singleton] at hprefix
  omega

/-- The answer is true exactly if all messages go through. -/
theorem records_true_iff {sql : MySql} (infos : List MsgInfo) (c : DbConn) :
    (createModifyChattingHistoryRecords sql infos true c).1.1 = .ok true ↔
      AllGoThrough sql c.store.tables c.faults infos := by
  induction infos generalizing c with
  | nil => exact ⟨fun _ => trivial, fun _ => rfl⟩
  | cons info infos ih =>
    by_cases h : GoesThrough sql c.store.tables c.faults info
    · obtain ⟨thread, a, b, hloop⟩ := records_of_goesThrough infos h
      rw [hloop]
      dsimp only
      rw [ih, allGoThrough_addMsg]
      exact ⟨fun hrest => ⟨h, hrest⟩, fun hall => hall.2⟩
    · have hfails := (records_of_firstFails infos h).1
      exact ⟨fun htrue => absurd htrue hfails, fun hall => absurd hall.1 h⟩

/-- A batch all of which goes through has its rows, and its messages have their ids. -/
theorem records_storedAs {sql : MySql} (infos : List MsgInfo) (c : DbConn)
    (h : AllGoThrough sql c.store.tables c.faults infos) :
    ∃ rows, (createModifyChattingHistoryRecords sql infos true
        c).2.store.tables.chatMsgHistoryBank = c.store.tables.chatMsgHistoryBank ++ rows ∧
      StoredAs infos (createModifyChattingHistoryRecords sql infos true c).1.2 rows
        c.store.counters.chatMsgHistoryBank := by
  induction infos generalizing c with
  | nil => exact ⟨[], (List.append_nil _).symm, ⟨rfl, rfl, List.nodup_nil, by simp⟩⟩
  | cons info infos ih =>
    obtain ⟨thread, a, b, hloop⟩ := records_of_goesThrough infos h.1
    obtain ⟨rows, hbank, hstored⟩ := ih
      ⟨addMsg thread 0 a b info.msgContent c.store, c.faults.drop 6⟩
      ((allGoThrough_addMsg ..).mpr h.2)
    rw [hloop]
    dsimp only
    refine ⟨⟨c.store.counters.chatMsgHistoryBank + 1, thread, 0, a, b, info.msgContent⟩ :: rows,
      ?_, ?_⟩
    · rw [hbank]
      simp [addMsg]
    · have hnew : ∀ row ∈ rows, c.store.counters.chatMsgHistoryBank + 1 < row.messageId :=
        hstored.new
      refine ⟨?_, ?_, ?_, ?_⟩
      · rw [List.map_cons, List.map_cons, hstored.contents]
      · rw [List.zipWith_cons_cons, ← hstored.ids]
      · rw [List.map_cons, List.nodup_cons]
        refine ⟨fun hmem => ?_, hstored.distinct⟩
        obtain ⟨row, hrow, heq⟩ := List.mem_map.mp hmem
        have hlt := hnew row hrow
        dsimp only at heq
        omega
      · intro row hrow
        rcases List.mem_cons.mp hrow with rfl | hrow
        · exact Nat.lt_succ_self _
        · have hlt := hnew row hrow
          omega

/-- A batch is stored all or nothing exactly if all its messages go through, or the first one does
    not. -/
theorem allOrNothing_iff (sql : MySql) (infos : List MsgInfo) (c : DbConn) :
    AllOrNothing sql infos c ↔ AllGoThrough sql c.store.tables c.faults infos ∨
      FirstFails sql c.store.tables c.faults infos := by
  unfold AllOrNothing
  dsimp only
  rw [Ne, records_true_iff]
  constructor
  · intro h
    by_cases hall : AllGoThrough sql c.store.tables c.faults infos
    · exact Or.inl hall
    · right
      rintro info infos rfl hgoes
      exact records_ne infos hgoes (h.2 hall).1
  · intro h
    refine ⟨records_storedAs infos c, fun hnot => ?_⟩
    have hfirst := h.resolve_left hnot
    cases infos with
    | nil => exact absurd trivial hnot
    | cons info infos =>
      obtain ⟨-, htables, hids⟩ := records_of_firstFails infos (hfirst info infos rfl)
      exact ⟨by rw [htables], hids⟩

/-- Users 1 and 2 with a private chat. -/
def pairOfUsers : DbStore :=
  addPrivateChat ⟨1, 1, 2⟩ (addThread (registered [1, 2]))

/-- A message from user 1 to user 2, and one to a user who is not registered. -/
def halfABatch : List MsgInfo :=
  [⟨"1", "1", "2", "hi", none⟩, ⟨"1", "1", "3", "hi", none⟩]

/-- The second message is refused, and the first one stays. -/
theorem not_allOrNothing_halfABatch :
    ¬∀ sql infos c, AllOrNothing sql infos c := by
  intro h
  have hnothing := (h (MySql.decimal true) halfABatch ⟨pairOfUsers, []⟩).2 (by decide)
  exact absurd hnothing.1 (by decide)

end DistributedIM.ChattingServer
