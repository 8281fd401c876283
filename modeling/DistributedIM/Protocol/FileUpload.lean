/-
  A file upload end to end: the client's `FileTransferThread`, the resources server, and the
  requests and replies in flight, each direction a queue.

  The thread does not look at the file name of a reply, so a reply to a block of the previous file
  makes it send a block of the new one and number it by the old one. `Intact` asks that every
  acknowledgement, also of the blocks in flight, is sound; `always_intact_iff_timely` says exactly
  which runs keep it.

  `Inv` is about the server after it has handled what is in flight: then the stored bytes of the
  open file are what was read since the last block numbered 1 (`first`), so one block more is one
  step of the server.
-/
import DistributedIM.Lib.Trace
import DistributedIM.ResourcesServer.FileUploading

namespace DistributedIM.Protocol

open DistributedIM.Client DistributedIM.ResourcesServer

structure FileUpload where
  client : FileTransferThread
  /-- the read position at which the last block numbered 1 began -/
  first : Nat
  requests : List SentBlock
  responses : List UploadResponse
  server : UploadServer

inductive UploadEvent
  /-- the user starts the transmission of a file; none: it cannot be opened -/
  | start (fileName : String) (contents : Option (List UInt8)) (fileChunk : Nat)
  /-- the server handles the oldest request -/
  | serve
  /-- the client takes the oldest reply -/
  | acknowledge
  deriving DecidableEq, Repr

namespace FileUpload

def init : FileUpload where
  client := .init
  first := 0
  requests := []
  responses := []
  server := .init

/-- The client has run a slot. -/
def emit (s : FileUpload) (r : FileTransferThread × Option UploadRequest) : FileUpload :=
  match r.2 with
  | none => { s with client := r.1 }
  | some request =>
    { s with
      client := r.1
      first := if request.curSeq = 1 then r.1.file.pos - request.block.length else s.first
      requests := s.requests ++ [⟨request, r.1.file.contents⟩] }

def step (s : FileUpload) : UploadEvent → Option FileUpload
  | .start fileName contents fileChunk =>
    if fileChunk = 0 then none
    else some (s.emit (s.client.slotStartFileTransmission fileName contents fileChunk))
  | .serve =>
    match s.requests with
    | [] => none
    | m :: requests =>
      some
        { s with
          requests := requests
          server := s.server.handlingFileUploading m
          responses := s.responses ++ [UploadServer.reply m.request] }
  | .acknowledge =>
    match s.responses with
    | [] => none
    | r :: responses =>
      some ({ s with responses := responses }.emit (s.client.slotDataTransmissionStatus r))

/-- The server after it has handled what is in flight. -/
def settled (s : FileUpload) : UploadServer :=
  s.server.handlingAll s.requests

/-- Every acknowledgement is sound, and so will be those of the blocks in flight. -/
def Intact (s : FileUpload) : Prop :=
  s.settled.Sound

/-! ## Blocks sent on time -/

/-- Where the last block numbered 1 begins once `t` has sent its next block. -/
def firstAfter (first : Nat) (t : FileTransferThread) : Nat :=
  if t.curSeq = 1 then t.file.pos else first

/-- The next block of `t` may be sent: what is read since the last block numbered 1 repeats the
    beginning of the file, as it does when that block was the first one; and the block numbered
    `totalBlocks` is not read before its place. -/
structure OnTime (first : Nat) (t : FileTransferThread) : Prop where
  repeats : (t.file.advance t.bytesTransferred).since (firstAfter first t) <+: t.file.contents
  ends : t.curSeq = t.totalBlocks →
    firstAfter first t = 0 ∧ (t.totalBlocks - 1) * t.fileChunk ≤ t.file.pos

/-- A reply the client goes on from is one after which the next block may be sent. -/
def Timely (s : FileUpload) : UploadEvent → Prop
  | .acknowledge => ∀ r ∈ s.responses.head?, r.eof = false →
      (s.client.acknowledged r).finished = false → OnTime s.first (s.client.acknowledged r)
  | _ => True

structure Inv (s : FileUpload) : Prop where
  intact : s.Intact
  pos_le : s.client.file.pos ≤ s.client.file.contents.length
  ready : s.client.file.isOpen = true → s.client.Ready
  first_le : s.client.file.isOpen = true → s.first ≤ s.client.file.pos
  stored : s.client.file.isOpen = true →
    s.settled.storage s.client.fileName = some (s.client.file.since s.first)

theorem inv_init : Inv init where
  intact := by
    intro a ha
    cases ha
  pos_le := Nat.le_refl _
  ready := by
    intro h
    cases h
  first_le := by
    intro h
    cases h
  stored := by
    intro h
    cases h

/-- Closing the file, or starting on one that cannot be opened, keeps the invariant. -/
theorem inv_closed {s : FileUpload} {t : FileTransferThread} (h : Inv s)
    (hclosed : t.file.isOpen = false) (hpos : t.file.pos ≤ t.file.contents.length) :
    Inv (s.emit (t, none)) where
  intact := h.intact
  pos_le := hpos
  ready := fun hopen => by cases hclosed.symm.trans hopen
  first_le := fun hopen => by cases hclosed.symm.trans hopen
  stored := fun hopen => by cases hclosed.symm.trans hopen

theorem emit_slotSendNextBlock (s : FileUpload) {t : FileTransferThread} (hready : t.Ready)
    (hmore : t.finished = false) : s.emit t.slotSendNextBlock =
      { s with
        client := { t with file := t.file.advance t.bytesTransferred }
        first := firstAfter s.first t
        requests := s.requests ++ [⟨t.nextRequest, t.file.contents⟩] } := by
  rw [FileTransferThread.slotSendNextBlock_more hready hmore]
  have hfirst : t.file.pos + (t.file.peek t.bytesTransferred).length -
      (t.file.peek t.bytesTransferred).length = t.file.pos := Nat.add_sub_cancel _ _
  unfold firstAfter
  rw [← hfirst]
  rfl

theorem settled_send (s : FileUpload) {t : FileTransferThread} (hready : t.Ready)
    (hmore : t.finished = false) : (s.emit t.slotSendNextBlock).settled =
      s.settled.handlingFileUploading ⟨t.nextRequest, t.file.contents⟩ := by
  rw [emit_slotSendNextBlock s hready hmore]
  exact UploadServer.handlingAll_append s.server s.requests _

theorem firstAfter_le {first : Nat} {t : FileTransferThread}
    (h : t.curSeq ≠ 1 → first ≤ t.file.pos) : firstAfter first t ≤ t.file.pos := by
  unfold firstAfter
  split
  · exact Nat.le_refl _
  · rename_i hne
    exact h hne

/-- What the server will have stored after the block. -/
theorem written_nextRequest {s : FileUpload} {t : FileTransferThread}
    (hpos : t.file.pos ≤ t.file.contents.length)
    (hnext : t.curSeq ≠ 1 → s.first ≤ t.file.pos ∧
      s.settled.storage t.fileName = some (t.file.since s.first)) :
    s.settled.written t.nextRequest =
      (t.file.advance t.bytesTransferred).since (firstAfter s.first t) := by
  unfold UploadServer.written firstAfter
  by_cases hseq : t.curSeq = 1
  · rw [if_pos hseq, if_pos (show t.nextRequest.curSeq = 1 from hseq),
      QFile.since_pos_advance hpos]
    rfl
  · obtain ⟨hfirst, hstored⟩ := hnext hseq
    have hstored' : s.settled.storage t.nextRequest.filename = _ := hstored
    rw [if_neg hseq, if_neg (show ¬ t.nextRequest.curSeq = 1 from hseq), hstored',
      QFile.since_advance hfirst hpos]
    rfl

/-- The acknowledgement of the next block is sound exactly when the block is on time. -/
theorem sound_iff_onTime {first : Nat} {t : FileTransferThread} (hready : t.Ready)
    (hmore : t.finished = false) (hfirst : firstAfter first t ≤ t.file.pos) :
    (Acknowledged.mk t.file.contents
      ((t.file.advance t.bytesTransferred).since (firstAfter first t)) t.nextRequest.eof).Sound ↔
      OnTime first t := by
  obtain ⟨-, -, hpos⟩ := FileTransferThread.not_finished_iff.mp hmore
  have hle := QFile.pos_advance_le (Nat.le_of_lt hpos) t.bytesTransferred
  have heof : t.nextRequest.eof = true ↔ t.curSeq = t.totalBlocks := by
    simp [FileTransferThread.nextRequest]
  constructor
  · intro h
    refine ⟨h.1, fun hlast => ?_⟩
    have hall : (t.file.advance t.bytesTransferred).since (firstAfter first t) =
      t.file.contents := h.2 (heof.mpr hlast)
    have hlength := congrArg List.length hall
    simp only [QFile.since, List.length_drop, List.length_take] at hlength
    have hcontents : (t.file.advance t.bytesTransferred).contents = t.file.contents := rfl
    rw [hcontents] at hlength
    refine ⟨by omega, ?_⟩
    rw [← FileTransferThread.last_advance_iff hready hmore hlast]
    omega
  · intro h
    refine ⟨h.repeats, fun hlast => ?_⟩
    obtain ⟨hzero, hplace⟩ := h.ends (heof.mp hlast)
    have hend := (FileTransferThread.last_advance_iff hready hmore (heof.mp hlast)).mpr hplace
    show (t.file.advance t.bytesTransferred).since (firstAfter first t) = t.file.contents
    rw [hzero, QFile.since, hend, List.drop_zero]
    exact List.take_length

/-- A block that is sent: it will be acknowledged soundly exactly when it is on time. -/
theorem intact_send_iff {s : FileUpload} {t : FileTransferThread} (hintact : s.Intact)
    (hready : t.Ready) (hmore : t.finished = false)
    (hnext : t.curSeq ≠ 1 → s.first ≤ t.file.pos ∧
      s.settled.storage t.fileName = some (t.file.since s.first)) :
    Intact (s.emit t.slotSendNextBlock) ↔ OnTime s.first t := by
  obtain ⟨-, -, hpos⟩ := FileTransferThread.not_finished_iff.mp hmore
  have hfirst := firstAfter_le fun hne => (hnext hne).1
  unfold Intact
  rw [settled_send s hready hmore, UploadServer.sound_handlingFileUploading_iff hintact]
  show (Acknowledged.mk _ (s.settled.written t.nextRequest) _).Sound ↔ _
  rw [written_nextRequest (Nat.le_of_lt hpos) hnext]
  exact sound_iff_onTime hready hmore hfirst

theorem inv_send {s : FileUpload} {t : FileTransferThread} (hready : t.Ready)
    (hmore : t.finished = false)
    (hnext : t.curSeq ≠ 1 → s.first ≤ t.file.pos ∧
      s.settled.storage t.fileName = some (t.file.since s.first))
    (hintact : Intact (s.emit t.slotSendNextBlock)) : Inv (s.emit t.slotSendNextBlock) := by
  obtain ⟨-, -, hpos⟩ := FileTransferThread.not_finished_iff.mp hmore
  have hle := Nat.le_of_lt hpos
  have hfirst := firstAfter_le fun hne => (hnext hne).1
  have hsettled := settled_send s hready hmore
  have hemit := emit_slotSendNextBlock s hready hmore
  refine ⟨hintact, ?_, fun _ => ?_, fun _ => ?_, fun _ => ?_⟩
  · rw [hemit]
    exact QFile.pos_advance_le hle _
  · rw [hemit]
    exact ⟨hready.size, hready.chunk, hready.blocks⟩
  · rw [hemit]
    exact Nat.le_trans hfirst (Nat.le_add_right _ _)
  · rw [hsettled, hemit]
    show (s.settled.handlingFileUploading ⟨t.nextRequest, t.file.contents⟩).storage
      t.nextRequest.filename = _
    rw [UploadServer.storage_handlingFileUploading]
    exact congrArg some (written_nextRequest hle hnext)

/-! ## Steps -/

theorem emit_finished (s : FileUpload) {t : FileTransferThread} (hdone : t.finished = true) :
    s.emit t.slotSendNextBlock = s.emit (t.closeFile, none) := by
  rw [FileTransferThread.slotSendNextBlock_finished hdone]

/-- The first block of a file is always on time. -/
theorem onTime_start {first : Nat} {t : FileTransferThread} (hseq : t.curSeq = 1)
    (hpos : t.file.pos = 0) : OnTime first t where
  repeats := by
    rw [firstAfter, if_pos hseq, QFile.since_pos_advance (by omega), QFile.peek, hpos,
      List.drop_zero]
    exact List.take_prefix _ _
  ends := by
    intro hlast
    rw [firstAfter, if_pos hseq, ← hlast, hseq]
    exact ⟨hpos, by omega⟩

theorem inv_start {s : FileUpload} (h : Inv s) (fileName : String)
    (contents : Option (List UInt8)) {fileChunk : Nat} (hchunk : fileChunk ≠ 0) :
    Inv (s.emit (s.client.slotStartFileTransmission fileName contents fileChunk)) := by
  cases contents with
  | none => exact inv_closed h rfl h.pos_le
  | some contents =>
    let t : FileTransferThread :=
      { file := { contents := contents, pos := 0, isOpen := true }
        fileName := fileName
        fileSize := contents.length
        fileChunk := fileChunk
        curSeq := 1
        totalBlocks := FileTransferThread.calculateBlockNumber contents.length fileChunk
        accumulateTransferred := s.client.accumulateTransferred }
    show Inv (s.emit t.slotSendNextBlock)
    have hready : t.Ready := ⟨rfl, Nat.pos_of_ne_zero hchunk, rfl⟩
    have hnext : t.curSeq ≠ 1 → s.first ≤ t.file.pos ∧
        s.settled.storage t.fileName = some (t.file.since s.first) := fun hne => absurd rfl hne
    cases hmore : t.finished with
    | true =>
      rw [emit_finished s hmore]
      exact inv_closed h rfl (Nat.zero_le _)
    | false =>
      apply inv_send hready hmore hnext
      exact (intact_send_iff h.intact hready hmore hnext).mpr (onTime_start rfl rfl)

/-- The client goes on from a reply: the block it sends, if it sends one, decides. -/
theorem acknowledge_more {s : FileUpload} {r : UploadResponse} (h : Inv s)
    (hmore : (s.client.acknowledged r).finished = false) :
    (Intact (s.emit (s.client.acknowledged r).slotSendNextBlock) ↔
      OnTime s.first (s.client.acknowledged r)) ∧
    (Intact (s.emit (s.client.acknowledged r).slotSendNextBlock) →
      Inv (s.emit (s.client.acknowledged r).slotSendNextBlock)) := by
  obtain ⟨-, hopen, -⟩ := FileTransferThread.not_finished_iff.mp hmore
  have hready : (s.client.acknowledged r).Ready :=
    ⟨(h.ready hopen).size, (h.ready hopen).chunk, (h.ready hopen).blocks⟩
  have hnext : (s.client.acknowledged r).curSeq ≠ 1 →
      s.first ≤ (s.client.acknowledged r).file.pos ∧
      s.settled.storage (s.client.acknowledged r).fileName =
        some ((s.client.acknowledged r).file.since s.first) :=
    fun _ => ⟨h.first_le hopen, h.stored hopen⟩
  exact ⟨intact_send_iff h.intact hready hmore hnext, inv_send hready hmore hnext⟩

theorem inv_takeResponse {s : FileUpload} (h : Inv s) (responses : List UploadResponse) :
    Inv { s with responses := responses } :=
  ⟨h.intact, h.pos_le, h.ready, h.first_le, h.stored⟩

theorem inv_acknowledge {s s' : FileUpload} (h : Inv s) (htimely : Timely s .acknowledge)
    (hstep : step s .acknowledge = some s') : Inv s' := by
  simp only [step] at hstep
  split at hstep
  · cases hstep
  · rename_i r responses hresponses
    obtain rfl := Option.some.inj hstep
    have h' := inv_takeResponse h responses
    unfold FileTransferThread.slotDataTransmissionStatus
    split
    · exact inv_closed h' rfl h.pos_le
    · rename_i heof
      cases hmore : (s.client.acknowledged r).finished with
      | true =>
        rw [emit_finished _ hmore]
        exact inv_closed h' rfl h.pos_le
      | false =>
        have honTime := htimely r (by rw [hresponses]; rfl) (by simpa using heof) hmore
        obtain ⟨hiff, hinv⟩ := acknowledge_more h' hmore
        exact hinv (hiff.mpr honTime)

theorem inv_step {s s' : FileUpload} {e : UploadEvent} (h : Inv s) (htimely : Timely s e)
    (hstep : step s e = some s') : Inv s' := by
  cases e with
  | start fileName contents fileChunk =>
    simp only [step] at hstep
    split at hstep
    · cases hstep
    · rename_i hchunk
      obtain rfl := Option.some.inj hstep
      exact inv_start h fileName contents hchunk
  | serve =>
    simp only [step] at hstep
    split at hstep
    · cases hstep
    · rename_i m requests hrequests
      obtain rfl := Option.some.inj hstep
      -- what was in flight stays the same, one request less of it is still to come
      have hsettled : s.settled =
          (s.server.handlingFileUploading m).handlingAll requests := by
        rw [settled, hrequests]
        rfl
      have hintact := h.intact
      have hstored := h.stored
      unfold Intact at hintact
      rw [hsettled] at hintact hstored
      exact ⟨hintact, h.pos_le, h.ready, h.first_le, hstored⟩
  | acknowledge => exact inv_acknowledge h htimely hstep

theorem not_intact_of_late {s s' : FileUpload} {e : UploadEvent} (h : Inv s)
    (hlate : ¬ Timely s e) (hstep : step s e = some s') : ¬ Intact s' := by
  cases e with
  | start fileName contents fileChunk => exact absurd trivial hlate
  | serve => exact absurd trivial hlate
  | acknowledge =>
    simp only [step] at hstep
    split at hstep
    · rename_i hnone
      exact absurd hstep nofun
    · rename_i r responses hresponses
      obtain rfl := Option.some.inj hstep
      simp only [Timely, hresponses, List.head?_cons, Option.mem_some, forall_eq',
        Classical.not_imp] at hlate
      obtain ⟨heof, hmore, hnot⟩ := hlate
      have h' := inv_takeResponse h responses
      rw [FileTransferThread.slotDataTransmissionStatus, if_neg (by simp [heof])]
      intro hintact
      exact hnot ((acknowledge_more h' hmore).1.mp hintact)

/-- A run keeps every upload intact exactly when each reply the client goes on from leaves it at a
    block that may be sent. -/
theorem always_intact_iff_timely (es : List UploadEvent) :
    Trace.Always step Intact init es ↔ Trace.Meets step Timely init es := by
  apply Trace.always_iff_meets Inv
  · intro s h
    exact h.intact
  · intro s e s' h htimely hstep
    exact inv_step h htimely hstep
  · intro s e s' h hlate hstep
    exact not_intact_of_late h hlate hstep
  · exact inv_init

/-- Two files of three bytes in blocks of one: the reply to the second block of the first file
    arrives when the first block of the second file is sent. The client counts on from it, and the
    server acknowledges the end of a file of which it has stored two bytes. -/
theorem not_intact_restarted :
    ¬ Trace.Always step Intact init
      [.start "a" (some [1, 2, 3]) 1, .serve, .acknowledge, .start "b" (some [4, 5, 6]) 1,
        .serve, .serve, .acknowledge, .serve] := by
  intro h
  have hlast := Trace.exec_of_always h rfl
  have hend := hlast ⟨[4, 5, 6], [4, 5], true⟩ (by decide)
  exact absurd hend (by decide)

end FileUpload

end DistributedIM.Protocol
