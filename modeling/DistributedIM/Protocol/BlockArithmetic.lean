/-
  The numbers of the blocks sent, over uploads one after the other: each is started when the one
  before has ended, its blocks are acknowledged one by one, and the server's reply repeats the
  numbers it got.

  How many blocks there are, their sizes, their numbers and the end mark come out right in every
  upload (`counted_of_reaches`). `cur_size` adds to `accumulate_transferred`, which is not set back
  when a transmission starts: it is the size without the last block of the last upload that had
  more than one, or 0. `exact_iff`: all is right exactly as long as no such upload is followed by
  one of a nonempty file.

  The dialog turns down files of more than `FOUR_GB`; so every number acknowledged, other than the
  last one, is below 2^32 and `toUInt` reads it back.
-/
import Mathlib.Algebra.Ring.Nat
import Mathlib.Data.List.Induction
import DistributedIM.Lib.Trace
import DistributedIM.ResourcesServer.FileUploading

namespace DistributedIM.Protocol

open DistributedIM.Client DistributedIM.ResourcesServer

/-- `FOUR_GB`. -/
def fourGb : Nat := 4 * 1024 * 1024 * 1024

/-- A file the dialog lets through, and the chunk size it is sent with. -/
structure Upload where
  fileName : String
  contents : List UInt8
  fileChunk : Nat
  admitted : contents.length ≤ fourGb
  chunk_pos : 0 < fileChunk

namespace Upload

def size (u : Upload) : Nat :=
  u.contents.length

def blockNumber (u : Upload) : Nat :=
  FileTransferThread.calculateBlockNumber u.size u.fileChunk

/-- The block at place `k` exists exactly if it begins inside the file. -/
theorem lt_blockNumber_iff (u : Upload) (k : Nat) :
    k < u.blockNumber ↔ k * u.fileChunk < u.size := by
  have hchunk := u.chunk_pos
  show k + 1 ≤ (u.size + u.fileChunk - 1) / u.fileChunk ↔ _
  rw [Nat.le_div_iff_mul_le hchunk, Nat.succ_mul]
  omega

theorem blockNumber_pos {u : Upload} (hnonempty : u.contents ≠ []) : 0 < u.blockNumber := by
  rw [lt_blockNumber_iff, Nat.zero_mul]
  exact List.length_pos_iff.mpr hnonempty

theorem blockNumber_eq_zero {u : Upload} (hempty : u.contents = []) : u.blockNumber = 0 := by
  refine Nat.eq_zero_of_not_pos ?_
  rw [lt_blockNumber_iff, size, hempty]
  exact Nat.not_lt_zero _

end Upload

/-- An upload and the blocks sent for it. -/
structure Transfer where
  upload : Upload
  sent : List UploadRequest

structure Uploads where
  thread : FileTransferThread
  /-- the block that is not acknowledged yet -/
  inFlight : Option UploadRequest
  /-- the uploads started, the last one first -/
  transfers : List Transfer

inductive UploadsEvent
  | start (u : Upload)
  | acknowledge

namespace Uploads

def init : Uploads where
  thread := .init
  inFlight := none
  transfers := []

/-- The block sent belongs to the last upload. -/
def record (request : Option UploadRequest) : List Transfer → List Transfer
  | [] => []
  | t :: ts => { t with sent := t.sent ++ request.toList } :: ts

/-- The thread has run a slot. -/
def emit (transfers : List Transfer) (r : FileTransferThread × Option UploadRequest) :
    Uploads where
  thread := r.1
  inFlight := r.2
  transfers := record r.2 transfers

def step (s : Uploads) : UploadsEvent → Option Uploads
  | .start u =>
    match s.inFlight with
    | some _ => none
    | none => some (emit (⟨u, []⟩ :: s.transfers)
        (s.thread.slotStartFileTransmission u.fileName (some u.contents) u.fileChunk))
  | .acknowledge =>
    match s.inFlight with
    | none => none
    | some r => some (emit s.transfers
        (s.thread.slotDataTransmissionStatus (UploadServer.reply r)))

/-! ## What the blocks are to be -/

/-- The bytes of the blocks. -/
def bytes (blocks : List UploadRequest) : Nat :=
  (blocks.map fun r => r.block.length).sum

/-- Number, size and end mark of the block sent after `before`. -/
structure Counted (u : Upload) (before : List UploadRequest) (r : UploadRequest) : Prop where
  number : r.curSeq = before.length + 1
  number_le : r.curSeq ≤ u.blockNumber
  fileSize : r.fileSize = u.size
  /-- `m_fileSize - (m_curSeq - 1) * m_fileChunk` does not wrap -/
  no_underflow : (r.curSeq - 1) * u.fileChunk ≤ r.fileSize
  length : r.block.length =
    if r.curSeq = u.blockNumber then r.fileSize - (r.curSeq - 1) * u.fileChunk else u.fileChunk
  eof : r.eof = decide (r.curSeq = u.blockNumber)

/-- `cur_size` is what has been sent of the file, this block included. -/
def Cumulative (before : List UploadRequest) (r : UploadRequest) : Prop :=
  r.curSize = bytes before + r.block.length

instance (before : List UploadRequest) (r : UploadRequest) : Decidable (Cumulative before r) :=
  inferInstanceAs (Decidable (_ = _))

/-- `P` relates each block to the blocks sent before it. -/
def EachSent (P : List UploadRequest → UploadRequest → Prop) (blocks : List UploadRequest) : Prop :=
  ∀ before r after, blocks = before ++ r :: after → P before r

/-- All blocks are sent. -/
structure Complete (t : Transfer) : Prop where
  number : t.sent.length = t.upload.blockNumber
  bytes : bytes t.sent = t.upload.size

/-- The uploads that have ended. -/
def ended (s : Uploads) : List Transfer :=
  match s.inFlight with
  | none => s.transfers
  | some _ => s.transfers.tail

/-- Everything but `cur_size` is right. -/
structure AllCounted (s : Uploads) : Prop where
  each : ∀ t ∈ s.transfers, EachSent (Counted t.upload) t.sent
  complete : ∀ t ∈ s.ended, Complete t

/-- Every `cur_size` is right. -/
def AllCumulative (s : Uploads) : Prop :=
  ∀ t ∈ s.transfers, EachSent Cumulative t.sent

/-- The blocks of every upload are as they should be. -/
def Exact (s : Uploads) : Prop :=
  s.AllCounted ∧ s.AllCumulative

/-- One block is enough for the file. -/
def OneBlock (u : Upload) : Prop :=
  u.size ≤ u.fileChunk

/-- No upload of more than one block is followed by one of a nonempty file. -/
def Fresh (s : Uploads) : Prop :=
  s.transfers.Pairwise fun later earlier => later.upload.contents = [] ∨ OneBlock earlier.upload

/-! ## Blocks one after the other -/

section EachSent

variable {P : List UploadRequest → UploadRequest → Prop}

theorem eachSent_nil : EachSent P [] := by
  intro before r after h
  exact absurd h.symm (List.append_ne_nil_of_right_ne_nil _ (List.cons_ne_nil _ _))

theorem eachSent_concat {blocks : List UploadRequest} {q : UploadRequest} :
    EachSent P (blocks ++ [q]) ↔ EachSent P blocks ∧ P blocks q := by
  constructor
  · intro h
    refine ⟨?_, h blocks q [] rfl⟩
    intro before r after hsplit
    exact h before r (after ++ [q]) (by rw [hsplit, List.append_assoc, List.cons_append])
  · intro h before r after hsplit
    rcases List.eq_nil_or_concat after with hnil | ⟨rest, last, hlast⟩
    · rw [hnil] at hsplit
      obtain ⟨rfl, hq⟩ := List.append_inj' hsplit rfl
      obtain rfl : q = r := List.singleton_inj.mp hq
      exact h.2
    · rw [hlast, List.concat_eq_append, ← List.cons_append, ← List.append_assoc] at hsplit
      exact h.1 before r rest (List.append_inj_left' hsplit rfl)

end EachSent

@[simp] theorem bytes_concat (blocks : List UploadRequest) (q : UploadRequest) :
    bytes (blocks ++ [q]) = bytes blocks + q.block.length := by
  simp [bytes]

/-- The blocks sent are the beginning of the file. -/
theorem bytes_of_counted {u : Upload} {blocks : List UploadRequest}
    (h : EachSent (Counted u) blocks) :
    bytes blocks = min (blocks.length * u.fileChunk) u.size := by
  induction blocks using List.reverseRecOn with
  | nil => simp [bytes]
  | append_singleton blocks q ih =>
    obtain ⟨hblocks, hq⟩ := eachSent_concat.mp h
    have hle := hq.number_le
    have hlength := hq.length
    rw [hq.fileSize, hq.number, Nat.add_sub_cancel] at hlength
    rw [hq.number] at hle
    have hbegins := (u.lt_blockNumber_iff blocks.length).mp hle
    have hnext := u.lt_blockNumber_iff (blocks.length + 1)
    rw [bytes_concat, ih hblocks, hlength, List.length_append, List.length_singleton]
    rw [Nat.succ_mul] at hnext ⊢
    split <;> omega

/-! ## One block -/

/-- The thread reads the file of the upload. -/
structure Reading (u : Upload) (t : FileTransferThread) : Prop where
  contents : t.file.contents = u.contents
  isOpen : t.file.isOpen = true
  fileSize : t.fileSize = u.size
  fileChunk : t.fileChunk = u.fileChunk
  totalBlocks : t.totalBlocks = u.blockNumber

/-- Its next block is the one at place `k`. -/
structure Next (u : Upload) (k : Nat) (t : FileTransferThread) : Prop extends Reading u t where
  curSeq : t.curSeq = k + 1
  pos : t.file.pos = k * u.fileChunk

/-- It has sent `k` blocks. -/
structure Waits (u : Upload) (k : Nat) (t : FileTransferThread) : Prop extends Reading u t where
  curSeq : t.curSeq = k
  pos : t.file.pos = min (k * u.fileChunk) u.size

section Block

variable {u : Upload} {k : Nat} {t : FileTransferThread}

theorem Next.ready (h : Next u k t) : t.Ready where
  size := by
    rw [h.fileSize, h.contents]
    rfl
  chunk := by
    rw [h.fileChunk]
    exact u.chunk_pos
  blocks := by
    rw [h.totalBlocks, h.fileSize, h.fileChunk]
    rfl

theorem Next.not_finished (h : Next u k t) (hk : k < u.blockNumber) : t.finished = false := by
  rw [FileTransferThread.not_finished_iff, h.curSeq, h.totalBlocks, h.pos, h.contents]
  exact ⟨hk, h.isOpen, (u.lt_blockNumber_iff k).mp hk⟩

theorem Next.bytesTransferred (h : Next u k t) : t.bytesTransferred =
    if k + 1 = u.blockNumber then u.size - k * u.fileChunk else u.fileChunk := by
  rw [FileTransferThread.bytesTransferred, h.curSeq, h.totalBlocks, h.fileSize, h.fileChunk,
    Nat.add_sub_cancel, ite_not]

/-- The file has all the bytes that are asked for. -/
theorem Next.length_block (h : Next u k t) (hk : k < u.blockNumber) :
    (t.file.peek t.bytesTransferred).length = t.bytesTransferred := by
  have hbegins := (u.lt_blockNumber_iff k).mp hk
  have hnext := u.lt_blockNumber_iff (k + 1)
  rw [Nat.succ_mul] at hnext
  rw [QFile.peek, List.length_take, List.length_drop, h.contents, h.pos, h.bytesTransferred]
  show min _ (u.size - _) = _
  split <;> omega

theorem Next.counted (h : Next u k t) (hk : k < u.blockNumber) {before : List UploadRequest}
    (hbefore : before.length = k) : Counted u before t.nextRequest where
  number := by
    rw [hbefore]
    exact h.curSeq
  number_le := by
    show t.curSeq ≤ _
    rw [h.curSeq]
    exact hk
  fileSize := h.fileSize
  no_underflow := by
    show (t.curSeq - 1) * _ ≤ t.fileSize
    rw [h.curSeq, h.fileSize, Nat.add_sub_cancel]
    exact Nat.le_of_lt ((u.lt_blockNumber_iff k).mp hk)
  length := by
    have hnumber : t.nextRequest.curSeq = k + 1 := h.curSeq
    have hsize : t.nextRequest.fileSize = u.size := h.fileSize
    show (t.file.peek t.bytesTransferred).length = _
    rw [h.length_block hk, h.bytesTransferred, hnumber, hsize, Nat.add_sub_cancel]
  eof := by
    show decide (t.curSeq = t.totalBlocks) = decide (t.curSeq = _)
    rw [h.totalBlocks]

/-- `slot_send_next_block` sends the block at place `k`. -/
theorem Next.slotSendNextBlock (h : Next u k t) (hk : k < u.blockNumber) :
    ∃ t', t.slotSendNextBlock = (t', some t.nextRequest) ∧ Waits u (k + 1) t' ∧
      t'.accumulateTransferred = t.accumulateTransferred := by
  refine ⟨_, FileTransferThread.slotSendNextBlock_more h.ready (h.not_finished hk), ?_, rfl⟩
  refine ⟨⟨h.contents, h.isOpen, h.fileSize, h.fileChunk, h.totalBlocks⟩, h.curSeq, ?_⟩
  have hbegins := (u.lt_blockNumber_iff k).mp hk
  have hnext := u.lt_blockNumber_iff (k + 1)
  rw [Nat.succ_mul] at hnext
  show t.file.pos + (t.file.peek t.bytesTransferred).length = _
  rw [h.length_block hk, h.pos, h.bytesTransferred, Nat.succ_mul]
  split <;> omega

theorem toUInt_of_lt {n : Nat} (hn : n < u.size) : toUInt n = n :=
  if_pos (Nat.lt_of_lt_of_le hn u.admitted)

/-- The acknowledgement of a block that is not the last one is read as it was sent. -/
theorem Waits.acknowledged (h : Waits u k t) (hk : k < u.blockNumber) {r : UploadResponse}
    (hr : r.currSeq = k) : Next u k (t.acknowledged r) := by
  have hbegins := (u.lt_blockNumber_iff k).mp hk
  have hle : k ≤ k * u.fileChunk := Nat.le_mul_of_pos_right k u.chunk_pos
  refine ⟨⟨h.contents, h.isOpen, h.fileSize, h.fileChunk, h.totalBlocks⟩, ?_, ?_⟩
  · show toUInt r.currSeq + 1 = k + 1
    rw [hr, toUInt_of_lt (Nat.lt_of_le_of_lt hle hbegins)]
  · show t.file.pos = _
    rw [h.pos, Nat.min_eq_left (Nat.le_of_lt hbegins)]

end Block

/-- A transmission that starts is about to send the block at place 0. -/
theorem slotStartFileTransmission_next (t : FileTransferThread) (u : Upload) :
    ∃ t', t.slotStartFileTransmission u.fileName (some u.contents) u.fileChunk =
        t'.slotSendNextBlock ∧
      Next u 0 t' ∧ t'.accumulateTransferred = t.accumulateTransferred := by
  refine ⟨_, rfl, ⟨⟨rfl, rfl, rfl, rfl, rfl⟩, rfl, ?_⟩, rfl⟩
  rw [Nat.zero_mul]

theorem Next.finished_of_empty {u : Upload} {t : FileTransferThread} (h : Next u 0 t)
    (hempty : u.contents = []) : t.finished = true := by
  have hcurSeq := h.curSeq
  rw [FileTransferThread.finished, h.totalBlocks, Upload.blockNumber_eq_zero hempty, hcurSeq]
  rfl

/-! ## One event -/

/-- One more block of the upload `t` is sent, and `before` is what `cur_size` adds to. -/
def Sends (t : Transfer) (ts : List Transfer) (before : Nat) (s' : Uploads) : Prop :=
  ∃ q, s'.inFlight = some q ∧ s'.transfers = { t with sent := t.sent ++ [q] } :: ts ∧
    Counted t.upload t.sent q ∧ q.curSize = before + q.block.length ∧
    Waits t.upload (t.sent.length + 1) s'.thread ∧ s'.thread.accumulateTransferred = before

theorem sends_of_next {t : Transfer} {thread : FileTransferThread}
    (h : Next t.upload t.sent.length thread) (hmore : t.sent.length < t.upload.blockNumber)
    (ts : List Transfer) :
    Sends t ts thread.accumulateTransferred (emit (t :: ts) thread.slotSendNextBlock) := by
  obtain ⟨thread', hsend, hwaits, haccumulate⟩ := h.slotSendNextBlock hmore
  rw [hsend]
  refine ⟨thread.nextRequest, rfl, rfl, h.counted hmore rfl, ?_, hwaits, haccumulate⟩
  show _ + thread.bytesTransferred = _ + (thread.file.peek thread.bytesTransferred).length
  rw [h.length_block hmore]

/-- All but the last block are acknowledged, and the block in flight is that one. -/
structure Inv (s : Uploads) : Prop extends AllCounted s where
  current : ∀ r, s.inFlight = some r → ∃ t ts before, s.transfers = t :: ts ∧
    t.sent = before ++ [r] ∧ Waits t.upload t.sent.length s.thread

/-- What an event does. -/
inductive Moves (s s' : Uploads) : Prop
  | empty (u : Upload) (hidle : s.inFlight = none) (hempty : u.contents = [])
      (hidle' : s'.inFlight = none) (htransfers : s'.transfers = ⟨u, []⟩ :: s.transfers)
      (haccumulate : s'.thread.accumulateTransferred = s.thread.accumulateTransferred)
  | first (u : Upload) (hidle : s.inFlight = none) (hnonempty : u.contents ≠ [])
      (hsends : Sends ⟨u, []⟩ s.transfers s.thread.accumulateTransferred s')
  | next (r : UploadRequest) (t : Transfer) (ts : List Transfer) (before : List UploadRequest)
      (hflight : s.inFlight = some r) (htransfers : s.transfers = t :: ts)
      (hlast : t.sent = before ++ [r]) (hmore : t.sent.length < t.upload.blockNumber)
      (hsends : Sends t ts (toUInt r.curSize) s')
  | last (r : UploadRequest) (t : Transfer) (ts : List Transfer) (hflight : s.inFlight = some r)
      (htransfers : s.transfers = t :: ts) (hall : t.sent.length = t.upload.blockNumber)
      (hidle' : s'.inFlight = none) (htransfers' : s'.transfers = s.transfers)
      (haccumulate : s'.thread.accumulateTransferred = s.thread.accumulateTransferred)

theorem moves_of_step {s s' : Uploads} {e : UploadsEvent} (h : Inv s)
    (hstep : step s e = some s') : Moves s s' := by
  cases e with
  | start u =>
    cases hflight : s.inFlight with
    | some r => simp [step, hflight] at hstep
    | none =>
      obtain ⟨thread, hslot, hnext, haccumulate⟩ := slotStartFileTransmission_next s.thread u
      simp only [step, hflight, hslot, Option.some.injEq] at hstep
      by_cases hempty : u.contents = []
      · rw [FileTransferThread.slotSendNextBlock_finished (hnext.finished_of_empty hempty)] at hstep
        rw [← hstep]
        exact .empty u hflight hempty rfl rfl haccumulate
      · rw [← hstep]
        refine .first u hflight hempty ?_
        rw [← haccumulate]
        exact sends_of_next (t := ⟨u, []⟩) hnext (Upload.blockNumber_pos hempty) s.transfers
  | acknowledge =>
    cases hflight : s.inFlight with
    | none => simp [step, hflight] at hstep
    | some r =>
      obtain ⟨t, ts, before, htransfers, hlast, hwaits⟩ := h.current r hflight
      have hcounted : Counted t.upload before r :=
        h.each t (htransfers ▸ List.mem_cons_self) before r [] hlast
      have hnumber : r.curSeq = t.sent.length := by
        rw [hcounted.number, hlast, List.length_append, List.length_singleton]
      simp only [step, hflight, htransfers, Option.some.injEq] at hstep
      rw [FileTransferThread.slotDataTransmissionStatus] at hstep
      have heof : (UploadServer.reply r).eof = decide (t.sent.length = t.upload.blockNumber) := by
        rw [← hnumber]
        exact hcounted.eof
      -- the reply repeats the end mark of the block, which is right in every upload
      by_cases hall : t.sent.length = t.upload.blockNumber
      · rw [heof, decide_eq_true hall, if_pos rfl] at hstep
        rw [← hstep]
        refine .last r t ts hflight htransfers hall rfl ?_ rfl
        rw [htransfers]
        simp [emit, record]
      · rw [heof, decide_eq_false hall, if_neg Bool.false_ne_true] at hstep
        have hmore : t.sent.length < t.upload.blockNumber := by
          have := hcounted.number_le
          omega
        rw [← hstep]
        exact .next r t ts before hflight htransfers hlast hmore
          (sends_of_next (hwaits.acknowledged hmore hnumber) hmore ts)

section Sends

variable {t : Transfer} {ts : List Transfer} {size : Nat} {s' : Uploads}

theorem Sends.inv (h : Sends t ts size s')
    (heach : ∀ t' ∈ t :: ts, EachSent (Counted t'.upload) t'.sent)
    (hcomplete : ∀ t' ∈ ts, Complete t') : Inv s' := by
  obtain ⟨q, hflight, htransfers, hcounted, -, hwaits, -⟩ := h
  obtain ⟨ht, hts⟩ := List.forall_mem_cons.mp heach
  refine ⟨⟨?_, ?_⟩, ?_⟩
  · rw [htransfers]
    exact List.forall_mem_cons.mpr ⟨eachSent_concat.mpr ⟨ht, hcounted⟩, hts⟩
  · rw [ended, hflight, htransfers]
    exact hcomplete
  · intro r hr
    obtain rfl := Option.some.inj (hflight.symm.trans hr)
    refine ⟨_, ts, t.sent, htransfers, rfl, ?_⟩
    rw [List.length_append]
    exact hwaits

theorem Sends.allCumulative_iff (h : Sends t ts size s') :
    s'.AllCumulative ↔ size = bytes t.sent ∧ ∀ t' ∈ t :: ts, EachSent Cumulative t'.sent := by
  obtain ⟨q, -, htransfers, -, hsize, -, -⟩ := h
  have hq : Cumulative t.sent q ↔ size = bytes t.sent := by
    unfold Cumulative
    rw [hsize]
    exact Nat.add_right_cancel_iff
  unfold AllCumulative
  rw [htransfers, List.forall_mem_cons, List.forall_mem_cons, eachSent_concat, hq]
  exact ⟨fun h => ⟨h.1.2, h.1.1, h.2⟩, fun h => ⟨⟨h.2.1, h.1⟩, h.2.2⟩⟩

theorem Sends.fresh_iff (h : Sends t ts size s') :
    s'.Fresh ↔ (∀ t' ∈ ts, t.upload.contents = [] ∨ OneBlock t'.upload) ∧
      ts.Pairwise fun later earlier =>
        later.upload.contents = [] ∨ OneBlock earlier.upload := by
  obtain ⟨q, -, htransfers, -⟩ := h
  unfold Fresh
  rw [htransfers, List.pairwise_cons]

end Sends

theorem inv_init : Inv init where
  each _ ht := absurd ht List.not_mem_nil
  complete _ ht := absurd ht List.not_mem_nil
  current r hr := absurd hr.symm (Option.some_ne_none r)

/-- An upload whose blocks are all sent is complete. -/
theorem complete_of_length {t : Transfer} (heach : EachSent (Counted t.upload) t.sent)
    (hlength : t.sent.length = t.upload.blockNumber) : Complete t where
  number := hlength
  bytes := by
    have hend := t.upload.lt_blockNumber_iff t.sent.length
    rw [bytes_of_counted heach, Nat.min_eq_right]
    omega

theorem inv_step {s s' : Uploads} {e : UploadsEvent} (h : Inv s) (hstep : step s e = some s') :
    Inv s' := by
  cases moves_of_step h hstep with
  | empty u hidle hempty hidle' htransfers haccumulate =>
    have hcomplete := h.complete
    rw [ended, hidle] at hcomplete
    refine ⟨⟨?_, ?_⟩, ?_⟩
    · rw [htransfers]
      exact List.forall_mem_cons.mpr ⟨eachSent_nil, h.each⟩
    · rw [ended, hidle', htransfers]
      exact List.forall_mem_cons.mpr
        ⟨complete_of_length eachSent_nil (Upload.blockNumber_eq_zero hempty).symm, hcomplete⟩
    · intro r hr
      exact absurd (hidle'.symm.trans hr) (Option.some_ne_none r).symm
  | first u hidle hnonempty hsends =>
    have hcomplete := h.complete
    rw [ended, hidle] at hcomplete
    exact hsends.inv (List.forall_mem_cons.mpr ⟨eachSent_nil, h.each⟩) hcomplete
  | next r t ts before hflight htransfers hlast hmore hsends =>
    have heach := h.each
    have hcomplete := h.complete
    rw [htransfers] at heach
    rw [ended, hflight, htransfers] at hcomplete
    exact hsends.inv heach hcomplete
  | last r t ts hflight htransfers hall hidle' htransfers' haccumulate =>
    have heach := h.each
    have hcomplete := h.complete
    rw [htransfers] at heach
    rw [ended, hflight, htransfers] at hcomplete
    refine ⟨⟨?_, ?_⟩, ?_⟩
    · rw [htransfers', htransfers]
      exact heach
    · rw [ended, hidle', htransfers', htransfers]
      exact List.forall_mem_cons.mpr
        ⟨complete_of_length (heach t List.mem_cons_self) hall, hcomplete⟩
    · intro r hr
      exact absurd (hidle'.symm.trans hr) (Option.some_ne_none r).symm

theorem inv_of_reaches {s : Uploads} (h : Trace.Reaches step init s) : Inv s :=
  Trace.invariant Inv (fun _ _ _ => inv_step) inv_init h

/-- Apart from `cur_size`, the blocks of every upload are as they should be. -/
theorem counted_of_reaches {s : Uploads} (h : Trace.Reaches step init s) : s.AllCounted :=
  (inv_of_reaches h).toAllCounted

/-! ## `cur_size` -/

/-- What `accumulate_transferred` is left at, as long as every `cur_size` is right. -/
structure Sized (s : Uploads) : Prop where
  cumulative_iff : s.AllCumulative ↔ s.Fresh
  idle : s.inFlight = none → s.Fresh →
    (s.thread.accumulateTransferred = 0 ↔ ∀ t ∈ s.transfers, OneBlock t.upload)
  inFlight : ∀ r t ts, s.inFlight = some r → s.transfers = t :: ts → s.Fresh →
    s.thread.accumulateTransferred + t.upload.fileChunk = t.sent.length * t.upload.fileChunk

theorem sized_init : Sized init where
  cumulative_iff := ⟨fun _ => List.Pairwise.nil, fun _ _ ht => absurd ht List.not_mem_nil⟩
  idle _ _ := ⟨fun _ _ ht => absurd ht List.not_mem_nil, fun _ => rfl⟩
  inFlight r _ _ hr := absurd hr.symm (Option.some_ne_none r)

theorem oneBlock_of_empty {u : Upload} (hempty : u.contents = []) : OneBlock u := by
  unfold OneBlock Upload.size
  rw [hempty]
  exact Nat.zero_le _

theorem sized_empty {s s' : Uploads} {u : Upload} (h : Sized s) (hidle : s.inFlight = none)
    (hempty : u.contents = []) (hidle' : s'.inFlight = none)
    (htransfers : s'.transfers = ⟨u, []⟩ :: s.transfers)
    (haccumulate : s'.thread.accumulateTransferred = s.thread.accumulateTransferred) :
    Sized s' := by
  have hcumulative : s'.AllCumulative ↔ s.AllCumulative := by
    unfold AllCumulative
    rw [htransfers, List.forall_mem_cons]
    exact and_iff_right eachSent_nil
  have hfresh : s'.Fresh ↔ s.Fresh := by
    unfold Fresh
    rw [htransfers, List.pairwise_cons]
    exact and_iff_right fun t _ => Or.inl hempty
  refine ⟨hcumulative.trans (h.cumulative_iff.trans hfresh.symm), ?_, ?_⟩
  · intro _ hs'
    rw [haccumulate, h.idle hidle (hfresh.mp hs'), htransfers, List.forall_mem_cons]
    exact (and_iff_right (oneBlock_of_empty hempty)).symm
  · intro r t ts hr
    exact absurd (hidle'.symm.trans hr) (Option.some_ne_none r).symm

theorem sized_first {s s' : Uploads} {u : Upload} (h : Sized s) (hidle : s.inFlight = none)
    (hnonempty : u.contents ≠ [])
    (hsends : Sends ⟨u, []⟩ s.transfers s.thread.accumulateTransferred s') : Sized s' := by
  have hfresh : s'.Fresh ↔ (∀ t ∈ s.transfers, OneBlock t.upload) ∧ s.Fresh := by
    rw [hsends.fresh_iff]
    simp only [hnonempty, false_or]
    exact Iff.rfl
  have hcumulative : s'.AllCumulative ↔
      s.thread.accumulateTransferred = 0 ∧ s.AllCumulative := by
    rw [hsends.allCumulative_iff, List.forall_mem_cons, and_iff_right eachSent_nil]
    exact Iff.rfl
  obtain ⟨q, hflight, htransfers, -, -, -, haccumulate⟩ := id hsends
  refine ⟨?_, ?_, ?_⟩
  · rw [hcumulative, hfresh, h.cumulative_iff]
    exact and_congr_left fun hs => h.idle hidle hs
  · intro hidle'
    exact absurd (hidle'.symm.trans hflight) (Option.some_ne_none q).symm
  · intro r t ts _ hts hs'
    obtain ⟨hone, hs⟩ := hfresh.mp hs'
    rw [htransfers] at hts
    obtain ⟨rfl, -⟩ := List.cons.inj hts
    rw [haccumulate, (h.idle hidle hs).mpr hone]
    simp

theorem sized_next {s s' : Uploads} {r : UploadRequest} {t : Transfer} {ts : List Transfer}
    {before : List UploadRequest} (hinv : Inv s) (h : Sized s) (htransfers : s.transfers = t :: ts)
    (hlast : t.sent = before ++ [r]) (hmore : t.sent.length < t.upload.blockNumber)
    (hsends : Sends t ts (toUInt r.curSize) s') : Sized s' := by
  have hfresh : s'.Fresh ↔ s.Fresh := by
    rw [hsends.fresh_iff, Fresh, htransfers, List.pairwise_cons]
  have hmem : t ∈ s.transfers := htransfers ▸ List.mem_cons_self
  have hbytes := bytes_of_counted (hinv.each t hmem)
  have hinside := (t.upload.lt_blockNumber_iff t.sent.length).mp hmore
  rw [Nat.min_eq_left (Nat.le_of_lt hinside)] at hbytes
  -- as long as all is right, the reply says what has been sent
  have hread : s.AllCumulative → toUInt r.curSize = t.sent.length * t.upload.fileChunk := by
    intro hs
    have hr : r.curSize = bytes t.sent := by
      rw [hlast, bytes_concat]
      exact hs t hmem before r [] hlast
    rw [hr, hbytes, toUInt_of_lt hinside]
  have hcumulative : s'.AllCumulative ↔ s.AllCumulative := by
    rw [hsends.allCumulative_iff, ← htransfers, hbytes]
    exact and_iff_right_of_imp hread
  obtain ⟨q, hflight, htransfers', -, -, -, haccumulate⟩ := id hsends
  refine ⟨hcumulative.trans (h.cumulative_iff.trans hfresh.symm), ?_, ?_⟩
  · intro hidle'
    exact absurd (hidle'.symm.trans hflight) (Option.some_ne_none q).symm
  · intro _ t' ts' _ hts hs'
    rw [htransfers'] at hts
    obtain ⟨rfl, -⟩ := List.cons.inj hts
    rw [haccumulate, hread (h.cumulative_iff.mpr (hfresh.mp hs')), List.length_append,
      List.length_singleton, Nat.succ_mul]

theorem sized_last {s s' : Uploads} {r : UploadRequest} {t : Transfer} {ts : List Transfer}
    (hinv : Inv s) (h : Sized s) (hflight : s.inFlight = some r)
    (htransfers : s.transfers = t :: ts) (hall : t.sent.length = t.upload.blockNumber)
    (hidle' : s'.inFlight = none) (htransfers' : s'.transfers = s.transfers)
    (haccumulate : s'.thread.accumulateTransferred = s.thread.accumulateTransferred) :
    Sized s' := by
  have hfresh : s'.Fresh ↔ s.Fresh := by
    unfold Fresh
    rw [htransfers']
  have hcumulative : s'.AllCumulative ↔ s.AllCumulative := by
    unfold AllCumulative
    rw [htransfers']
  refine ⟨hcumulative.trans (h.cumulative_iff.trans hfresh.symm), ?_, ?_⟩
  · intro _ hs'
    have hs := hfresh.mp hs'
    have hleft := h.inFlight r t ts hflight htransfers hs
    have hchunk := t.upload.chunk_pos
    have hmany := t.upload.lt_blockNumber_iff 1
    -- a block was sent, so the file is not empty and nothing was left over before
    have hsent : 0 < t.sent.length := by
      obtain ⟨t', ts', before, hts, hlast, -⟩ := hinv.current r hflight
      rw [htransfers] at hts
      obtain ⟨rfl, -⟩ := List.cons.inj hts
      rw [hlast, List.length_append, List.length_singleton]
      exact Nat.succ_pos _
    have hnonempty : t.upload.contents ≠ [] := by
      intro hempty
      rw [hall, Upload.blockNumber_eq_zero hempty] at hsent
      exact Nat.lt_irrefl 0 hsent
    rw [Fresh, htransfers, List.pairwise_cons] at hs
    have hone : ∀ t' ∈ ts, OneBlock t'.upload :=
      fun t' ht' => (hs.1 t' ht').resolve_left hnonempty
    rw [haccumulate, htransfers', htransfers, List.forall_mem_cons, and_iff_left hone]
    unfold OneBlock
    rw [Nat.one_mul, ← hall] at hmany
    constructor
    · intro hzero
      rw [hzero, Nat.zero_add] at hleft
      have hlength : t.sent.length = 1 :=
        Nat.eq_of_mul_eq_mul_right hchunk (by rw [← hleft, Nat.one_mul])
      omega
    · intro hle
      have hlength : t.sent.length = 1 := by omega
      rw [hlength, Nat.one_mul] at hleft
      omega
  · intro r' _ _ hr
    exact absurd (hidle'.symm.trans hr) (Option.some_ne_none r').symm

theorem sized_step {s s' : Uploads} {e : UploadsEvent} (h : Inv s ∧ Sized s)
    (hstep : step s e = some s') : Inv s' ∧ Sized s' := by
  refine ⟨inv_step h.1 hstep, ?_⟩
  cases moves_of_step h.1 hstep with
  | empty u hidle hempty hidle' htransfers haccumulate =>
    exact sized_empty h.2 hidle hempty hidle' htransfers haccumulate
  | first u hidle hnonempty hsends => exact sized_first h.2 hidle hnonempty hsends
  | next r t ts before hflight htransfers hlast hmore hsends =>
    exact sized_next h.1 h.2 htransfers hlast hmore hsends
  | last r t ts hflight htransfers hall hidle' htransfers' haccumulate =>
    exact sized_last h.1 h.2 hflight htransfers hall hidle' htransfers' haccumulate

theorem sized_of_reaches {s : Uploads} (h : Trace.Reaches step init s) : Sized s :=
  (Trace.invariant (fun s => Inv s ∧ Sized s) (fun _ _ _ => sized_step)
    ⟨inv_init, sized_init⟩ h).2

/-- The blocks of every upload are as they should be exactly if no upload of more than one block
    is followed by one of a nonempty file. -/
theorem exact_iff {s : Uploads} (h : Trace.Reaches step init s) : s.Exact ↔ s.Fresh := by
  unfold Exact
  rw [and_iff_right (counted_of_reaches h)]
  exact (sized_of_reaches h).cumulative_iff

def twoBlocks : Upload := ⟨"a", [1, 2], 1, by decide, by decide⟩

def oneByte : Upload := ⟨"b", [3], 1, by decide, by decide⟩

theorem exact_twoBlocks :
    ∃ s, Trace.exec step init [.start twoBlocks, .acknowledge] = some s ∧ s.Exact :=
  ⟨_, rfl, (exact_iff ⟨[.start twoBlocks, .acknowledge], rfl⟩).mpr (List.pairwise_singleton _ _)⟩

/-- The second upload says of its only byte that it is the second one. -/
theorem not_exact_afterTwoBlocks : ∃ s,
    Trace.exec step init
      [.start twoBlocks, .acknowledge, .acknowledge, .start oneByte] = some s ∧ ¬ s.Exact := by
  refine ⟨_, rfl, fun h => ?_⟩
  have hsize := h.2 _ List.mem_cons_self [] _ [] rfl
  exact absurd hsize (by decide)

/-! ## An upload goes on to its end -/

theorem step_acknowledge {s : Uploads} {r : UploadRequest} (hflight : s.inFlight = some r) :
    ∃ s', step s .acknowledge = some s' := by
  simp [step, hflight]

/-- As many acknowledgements as there are blocks left end the upload. -/
theorem exec_acknowledge (n : Nat) {s : Uploads} (h : Inv s) {r : UploadRequest} {t : Transfer}
    {ts : List Transfer} (hflight : s.inFlight = some r) (htransfers : s.transfers = t :: ts)
    (hn : t.sent.length + n = t.upload.blockNumber) :
    ∃ s' t', Trace.exec step s (List.replicate (n + 1) .acknowledge) = some s' ∧
      s'.inFlight = none ∧ s'.transfers = t' :: ts ∧ t'.upload = t.upload := by
  induction n generalizing s r t with
  | zero =>
    obtain ⟨s', hstep⟩ := step_acknowledge hflight
    refine ⟨s', t, (Trace.exec_singleton step _ _).trans hstep, ?_⟩
    cases moves_of_step h hstep with
    | empty _ hidle => exact absurd (hidle.symm.trans hflight) (Option.some_ne_none r).symm
    | first _ hidle => exact absurd (hidle.symm.trans hflight) (Option.some_ne_none r).symm
    | next _ t' ts' _ _ htransfers' _ hmore =>
      obtain ⟨rfl, rfl⟩ := List.cons.inj (htransfers.symm.trans htransfers')
      omega
    | last _ _ _ _ _ _ hidle' htransfers' => exact ⟨hidle', htransfers'.trans htransfers, rfl⟩
  | succ n ih =>
    obtain ⟨m, hstep⟩ := step_acknowledge hflight
    cases moves_of_step h hstep with
    | empty _ hidle => exact absurd (hidle.symm.trans hflight) (Option.some_ne_none r).symm
    | first _ hidle => exact absurd (hidle.symm.trans hflight) (Option.some_ne_none r).symm
    | next _ t' ts' _ _ htransfers' _ _ hsends =>
      obtain ⟨rfl, rfl⟩ := List.cons.inj (htransfers.symm.trans htransfers')
      obtain ⟨q, hq, hqs, -⟩ := hsends
      have hleft : (t.sent ++ [q]).length + n = t.upload.blockNumber := by
        rw [List.length_append, List.length_singleton]
        omega
      obtain ⟨s', t', hexec, hend⟩ := ih (inv_step h hstep) hq hqs hleft
      refine ⟨s', t', ?_, hend⟩
      rw [List.replicate_succ, Trace.exec_cons, hstep]
      exact hexec
    | last _ t' ts' _ htransfers' hall =>
      obtain ⟨rfl, rfl⟩ := List.cons.inj (htransfers.symm.trans htransfers')
      omega

/-- Whatever has been sent, the acknowledgements that are still to come end the upload. -/
theorem upload_ends {s : Uploads} (h : Trace.Reaches step init s) :
    ∃ n s', Trace.exec step s (List.replicate n .acknowledge) = some s' ∧ s'.inFlight = none ∧
      s'.transfers.map Transfer.upload = s.transfers.map Transfer.upload := by
  have hinv := inv_of_reaches h
  cases hflight : s.inFlight with
  | none => exact ⟨0, s, rfl, hflight, rfl⟩
  | some r =>
    obtain ⟨t, ts, before, htransfers, hlast, -⟩ := hinv.current r hflight
    have hcounted := hinv.each t (htransfers ▸ List.mem_cons_self) before r [] hlast
    have hle : t.sent.length ≤ t.upload.blockNumber := by
      rw [hlast, List.length_append, List.length_singleton, ← hcounted.number]
      exact hcounted.number_le
    obtain ⟨s', t', hexec, hidle', htransfers', hupload⟩ :=
      exec_acknowledge (t.upload.blockNumber - t.sent.length) hinv hflight htransfers (by omega)
    refine ⟨_, s', hexec, hidle', ?_⟩
    rw [htransfers', htransfers, List.map_cons, List.map_cons, hupload]

end Uploads

end DistributedIM.Protocol
