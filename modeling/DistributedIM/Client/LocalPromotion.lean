/-
  `updateVerificationStatus` of `MessageBuffer` as the promotion of a local message, in any buffer
  that a run reaches, unsafe operations included.

  The test of `m_verifyMessage` is the wrong way round: an unused message id is turned away, and a
  used one is let through to the message, which is changed before `try_emplace` fails.
  `promotes_iff`: the update does what a promotion is to do exactly if the id is used by a verified
  message and has white space around it, for then it is not in the index, and the update is turned
  away as it should be.

  `Found` is what stays of the representation after unsafe operations: a local message is found by
  its unique id, and a verified one is known under its trimmed message id.
-/
import DistributedIM.Client.ChattingMessageBuffer

namespace DistributedIM.Client

open Text (trimmed trimmed_trimmed)

namespace MessageBuffer

/-! ## Promotion -/

/-- A verified message has the message id. -/
def Used (b : MessageBuffer) (msgId : String) : Prop :=
  ∃ m ∈ b.dumpAllChatData, m.status = true ∧ m.msgId = msgId

/-- In `b'` the local message is verified under the message id, at its place, and nothing else has
    changed in the list. -/
def Promoted (b b' : MessageBuffer) (m : ChattingRecord) (msgId : String) : Prop :=
  ∃ i, b.dumpAllChatData[i]? = some m ∧
    b'.dumpAllChatData = b.dumpAllChatData.set i { m with msgId := msgId, status := true }

/-- An unused id promotes the local message; a used one is refused. -/
def Promotes (b : MessageBuffer) (m : ChattingRecord) (msgId : String) : Prop :=
  (¬b.Used msgId → (b.updateVerificationStatus m.uniqueId msgId).1 = true ∧
      Promoted b (b.updateVerificationStatus m.uniqueId msgId).2 m msgId) ∧
    (b.Used msgId → b.updateVerificationStatus m.uniqueId msgId = (false, b))

/-! ## What every buffer keeps -/

structure Found (b : MessageBuffer) : Prop where
  onLocal : ∀ n m, (n, m) ∈ b.messages.nodes → m.status = false →
    m.uniqueId ≠ "" ∧ b.index (.onLocal m.uniqueId) = some n
  verified : ∀ n m, (n, m) ∈ b.messages.nodes → m.status = true →
    b.index (.verified (trimmed m.msgId)) ≠ none
  trimmed : ∀ msgId, b.index (.verified msgId) ≠ none → Text.trimmed msgId = msgId

theorem found_empty : Found empty where
  onLocal _ _ h := absurd h List.not_mem_nil
  verified _ _ h := absurd h List.not_mem_nil
  trimmed _ h := absurd rfl h

theorem found_congr {b b' : MessageBuffer} (h : Found b)
    (hnodes : b'.messages.nodes = b.messages.nodes) (hindex : b'.index = b.index) : Found b' where
  onLocal := by
    rw [hnodes, hindex]
    exact h.onLocal
  verified := by
    rw [hnodes, hindex]
    exact h.verified
  trimmed := by
    rw [hindex]
    exact h.trimmed

/-- The slot of an insertion: the unique id of a local message, the trimmed message id of a
    verified one. -/
theorem slot_eq_some {m : ChattingRecord} {k : Key} (h : slot m = some k) :
    m.status = false ∧ m.uniqueId ≠ "" ∧ k = .onLocal m.uniqueId ∨
      m.status = true ∧ k = .verified (trimmed m.msgId) := by
  cases hm : m.status with
  | false =>
    rw [slot_onLocal hm] at h
    split at h
    · cases h
    · rename_i hne
      exact Or.inl ⟨rfl, hne, (Option.some.inj h).symm⟩
  | true =>
    rw [slot_verified hm] at h
    split at h
    · cases h
    · exact Or.inr ⟨rfl, (Option.some.inj h).symm⟩

theorem Found.insertMessage {b : MessageBuffer} (h : Found b) (m : ChattingRecord) :
    Found (b.insertMessage m).2 := by
  by_cases hfree : ∃ k, slot m = some k ∧ b.index k = none
  · obtain ⟨k, hslot, hk⟩ := hfree
    obtain ⟨-, hmessages, hindex⟩ := insertMessage_free b hslot hk
    have hslot := slot_eq_some hslot
    have hkeep {k' : Key} (hk' : b.index k' ≠ none) :
        (b.insertMessage m).2.index k' = b.index k' := by
      have hne : k' ≠ k := fun heq => hk' (heq.symm ▸ hk)
      rw [hindex, Function.update_of_ne hne]
    have hmem {n : Nat} {m' : ChattingRecord}
        (hm' : (n, m') ∈ (b.insertMessage m).2.messages.nodes) :
        (n, m') ∈ b.messages.nodes ∨ n = b.messages.next ∧ m' = m := by
      rw [hmessages, NodeList.pushBack_nodes, List.mem_append, List.mem_singleton] at hm'
      exact hm'.imp_right Prod.mk.inj
    refine ⟨?_, ?_, ?_⟩
    · intro n m' hm' hlocal
      rcases hmem hm' with hold | ⟨rfl, rfl⟩
      · obtain ⟨hne, hfound⟩ := h.onLocal n m' hold hlocal
        refine ⟨hne, ?_⟩
        rw [hkeep (by simp [hfound]), hfound]
      · rcases hslot with ⟨-, hne, rfl⟩ | ⟨hverified, -⟩
        · exact ⟨hne, by rw [hindex, Function.update_self]⟩
        · rw [hlocal] at hverified
          cases hverified
    · intro n m' hm' hverified
      rcases hmem hm' with hold | ⟨rfl, rfl⟩
      · exact insertMessage_index_ne_none m (h.verified n m' hold hverified)
      · rcases hslot with ⟨hlocal, -, -⟩ | ⟨-, rfl⟩
        · rw [hlocal] at hverified
          cases hverified
        · rw [hindex, Function.update_self]
          exact Option.some_ne_none _
    · intro msgId hne
      by_cases heq : Key.verified msgId = k
      · rcases hslot with ⟨-, -, rfl⟩ | ⟨-, rfl⟩
        · cases heq
        · rw [Key.verified.inj heq, trimmed_trimmed]
      · rw [hindex, Function.update_of_ne heq] at hne
        exact h.trimmed msgId hne
  · obtain ⟨-, hnodes, hindex⟩ := insertMessage_taken b fun k hslot hk => hfree ⟨k, hslot, hk⟩
    exact found_congr h hnodes hindex

theorem index_modify (b : MessageBuffer) (messages : NodeList ChattingRecord) :
    index { b with messages := messages } = b.index := by
  funext k
  cases k <;> rfl

/-- A message that an update marks has a message id that is in the index. -/
theorem Found.modify {b : MessageBuffer} (h : Found b) {msgId : String}
    (hused : b.index (.verified msgId) ≠ none) (node : Nat) :
    Found { b with messages := b.messages.modify node (·.setMsgID msgId) } := by
  have hmem {n : Nat} {m : ChattingRecord}
      (hm : (n, m) ∈ (b.messages.modify node (·.setMsgID msgId)).nodes) :
      (n, m) ∈ b.messages.nodes ∨ ∃ m' : ChattingRecord, m = m'.setMsgID msgId := by
    obtain ⟨⟨n', m'⟩, hold, heq⟩ := List.mem_map.mp hm
    split at heq
    · exact Or.inr ⟨m', (Prod.mk.inj heq).2.symm⟩
    · exact Or.inl (heq ▸ hold)
  refine ⟨?_, ?_, ?_⟩
  · intro n m hm hlocal
    rw [index_modify]
    rcases hmem hm with hold | ⟨m', rfl⟩
    · exact h.onLocal n m hold hlocal
    · cases hlocal
  · intro n m hm hverified
    rw [index_modify]
    rcases hmem hm with hold | ⟨m', rfl⟩
    · exact h.verified n m hold hverified
    · show b.index (.verified (Text.trimmed msgId)) ≠ none
      rw [h.trimmed msgId hused]
      exact hused
  · rw [index_modify]
    exact h.trimmed

theorem found_step {b b' : MessageBuffer} {op : Op} (h : Found b) (hstep : step b op = some b') :
    Found b' := by
  obtain rfl := Option.some.inj hstep
  cases op with
  | insertMessage m => exact h.insertMessage m
  | updateVerificationStatus uniqueId msgId =>
    show Found (b.updateVerificationStatus uniqueId msgId).2
    by_cases hsafe : b.Safe (.updateVerificationStatus uniqueId msgId)
    · rw [updateVerificationStatus_safe hsafe]
      exact h
    · simp only [Safe, Classical.not_imp] at hsafe
      obtain ⟨hmsg, hunique, hlocal, hverify⟩ := hsafe
      obtain ⟨node, hnode⟩ := Option.ne_none_iff_exists'.mp hlocal
      obtain ⟨other, hother⟩ := Option.ne_none_iff_exists'.mp hverify
      rw [updateVerificationStatus_taken hunique hmsg hnode hother]
      exact h.modify hverify node
  | clear => exact found_empty

theorem found_of_reaches {b : MessageBuffer} (h : Trace.Reaches step empty b) : Found b :=
  Trace.invariant Found (fun _ _ _ h hstep => found_step h hstep) found_empty h

/-! ## When a promotion works -/

/-- A message id that a verified message has is in the index, unless there is white space around
    it. -/
theorem index_ne_none_iff_of_used {b : MessageBuffer} (h : Found b) {msgId : String}
    (hused : b.Used msgId) : b.index (.verified msgId) ≠ none ↔ trimmed msgId = msgId := by
  refine ⟨h.trimmed msgId, fun htrim => ?_⟩
  obtain ⟨m, hm, hverified, rfl⟩ := hused
  obtain ⟨n, hn⟩ := NodeList.mem_values.mp hm
  rw [← htrim]
  exact h.verified n m hn hverified

/-- No update of a local message succeeds, and one that finds the message id changes the message. -/
theorem updateVerificationStatus_onLocal {b : MessageBuffer} (h : Found b) {m : ChattingRecord}
    (hm : m ∈ b.dumpAllChatData) (hlocal : m.status = false) {msgId : String} (hmsg : msgId ≠ "") :
    (b.updateVerificationStatus m.uniqueId msgId).1 = false ∧
      (b.updateVerificationStatus m.uniqueId msgId = (false, b) ↔
        b.index (.verified msgId) = none) := by
  obtain ⟨n, hn⟩ := NodeList.mem_values.mp hm
  obtain ⟨hunique, hnode⟩ := h.onLocal n m hn hlocal
  cases hverify : b.verifyMessage msgId with
  | none =>
    have hsafe : b.Safe (.updateVerificationStatus m.uniqueId msgId) := fun _ _ _ => hverify
    rw [updateVerificationStatus_safe hsafe]
    exact ⟨rfl, fun _ => hverify, fun _ => rfl⟩
  | some other =>
    rw [updateVerificationStatus_taken hunique hmsg hnode hverify]
    have hchanged : m.setMsgID msgId ≠ m := by
      intro heq
      have hstatus := congrArg ChattingRecord.status heq
      rw [hlocal] at hstatus
      cases hstatus
    refine ⟨rfl, fun hsame => ?_, fun hnone => ?_⟩
    · have hnodes := congrArg (fun r => r.2.messages.nodes) hsame
      exact absurd hnodes (NodeList.modify_nodes_ne _ hn hchanged)
    · exact absurd (hverify.symm.trans hnone) (Option.some_ne_none other)

/-- In any buffer a run reaches, the update of a local message does what a promotion is to do
    exactly if a verified message has the message id and there is white space around it. -/
theorem promotes_iff {b : MessageBuffer} (hreach : Trace.Reaches step empty b)
    {m : ChattingRecord} (hm : m ∈ b.dumpAllChatData) (hlocal : m.status = false)
    {msgId : String} (hmsg : msgId ≠ "") :
    b.Promotes m msgId ↔ b.Used msgId ∧ trimmed msgId ≠ msgId := by
  have hfound := found_of_reaches hreach
  obtain ⟨hfalse, hsame⟩ := updateVerificationStatus_onLocal hfound hm hlocal hmsg
  constructor
  · intro h
    by_cases hused : b.Used msgId
    · refine ⟨hused, fun htrim => ?_⟩
      exact (index_ne_none_iff_of_used hfound hused).mpr htrim (hsame.mp (h.2 hused))
    · rw [(h.1 hused).1] at hfalse
      cases hfalse
  · rintro ⟨hused, htrim⟩
    refine ⟨fun hunused => absurd hused hunused, fun _ => hsame.mpr ?_⟩
    by_contra hne
    exact htrim ((index_ne_none_iff_of_used hfound hused).mp hne)

/-- A local message, and a verified one with a blank before its id. -/
def blankId : List Op :=
  [.insertMessage (sample false "a" ""), .insertMessage (sample true "b" " 7")]

theorem promotes_blankId :
    ∃ b, Trace.exec step empty blankId = some b ∧
      (b.Promotes (sample false "a" "") "7" ↔ b.Used "7" ∧ trimmed "7" ≠ "7") :=
  ⟨_, rfl, promotes_iff ⟨blankId, rfl⟩ List.mem_cons_self rfl (by decide)⟩

/-- The first acknowledgement of a local message is turned away. -/
theorem not_promotes_first :
    ¬∀ ops b, Trace.exec step empty ops = some b → ∀ m ∈ b.dumpAllChatData, m.status = false →
      ∀ msgId, msgId ≠ "" → b.Promotes m msgId := by
  intro h
  have hpromotes := h [.insertMessage (sample false "a" "")] _ rfl _ List.mem_cons_self rfl "7"
    (by decide)
  have hunused : ¬Used (empty.insertMessage (sample false "a" "")).2 "7" := by
    rintro ⟨m, hm, hverified, -⟩
    rw [List.mem_singleton.mp (show m ∈ [sample false "a" ""] from hm)] at hverified
    cases hverified
  exact absurd (hpromotes.1 hunused).1 (by decide)

end MessageBuffer

end DistributedIM.Client
