/-
  The sender of a file upload: `FileTransferThread` of the client, with the `LogicExecutor`
  callback that turns the server's reply into the numbers the thread works with.

  The thread reads the file front to back, one block for each acknowledgement, and numbers a block
  by the acknowledgement, not by the position it reads from: `reads_from_pos`.

  Numbers travel as decimal texts and are read back by `QString::toUInt`, which gives 0 for a
  number of more than 32 bits. The MD5 checksum is left out: nobody reads it. A file does not change
  while it is sent.
-/
import Mathlib.Algebra.Group.Nat.Even

namespace DistributedIM.Client

/-- `QFile`, as far as the thread uses it. -/
structure QFile where
  contents : List UInt8
  pos : Nat
  isOpen : Bool
  deriving DecidableEq, Repr

namespace QFile

/-- A file that is not open is at its end. -/
def atEnd (f : QFile) : Bool :=
  !f.isOpen || f.contents.length ≤ f.pos

def close (f : QFile) : QFile :=
  { f with isOpen := false }

/-- What `read` returns. -/
def peek (f : QFile) (maxlen : Nat) : List UInt8 :=
  (f.contents.drop f.pos).take maxlen

/-- The file after `read`. -/
def advance (f : QFile) (maxlen : Nat) : QFile :=
  { f with pos := f.pos + (f.peek maxlen).length }

/-- The bytes before the read position, from `first` on. -/
def since (f : QFile) (first : Nat) : List UInt8 :=
  (f.contents.take f.pos).drop first

theorem take_advance (f : QFile) (maxlen : Nat) :
    f.contents.take (f.advance maxlen).pos = f.contents.take f.pos ++ f.peek maxlen := by
  show f.contents.take (f.pos + (f.peek maxlen).length) = _
  rw [List.take_add]
  congr 1
  unfold peek
  rw [List.length_take, ← List.take_take, List.take_length]

theorem since_advance {f : QFile} {first : Nat} (hfirst : first ≤ f.pos)
    (hpos : f.pos ≤ f.contents.length) (maxlen : Nat) :
    (f.advance maxlen).since first = f.since first ++ f.peek maxlen := by
  show (f.contents.take (f.advance maxlen).pos).drop first = _
  rw [take_advance, List.drop_append_of_le_length]
  · rfl
  · rw [List.length_take]
    omega

theorem since_pos_advance {f : QFile} (hpos : f.pos ≤ f.contents.length) (maxlen : Nat) :
    (f.advance maxlen).since f.pos = f.peek maxlen := by
  rw [since_advance (Nat.le_refl _) hpos, since, List.drop_take]
  simp

theorem pos_advance_le {f : QFile} (hpos : f.pos ≤ f.contents.length) (maxlen : Nat) :
    (f.advance maxlen).pos ≤ f.contents.length := by
  simp only [advance, peek, List.length_take, List.length_drop]
  omega

end QFile

/-- The fields of a `SERVICE_FILEUPLOADREQUEST`. -/
structure UploadRequest where
  filename : String
  curSeq : Nat
  lastSeq : Nat
  curSize : Nat
  fileSize : Nat
  block : List UInt8
  eof : Bool
  deriving DecidableEq, Repr

/-- The fields of a successful `SERVICE_FILEUPLOADRESPONSE`. -/
structure UploadResponse where
  filename : String
  currSeq : Nat
  currSize : Nat
  totalSize : Nat
  eof : Bool
  deriving DecidableEq, Repr

/-- `QString::toUInt` of the decimal text of a number. -/
def toUInt (n : Nat) : Nat :=
  if n < 2 ^ 32 then n else 0

structure FileTransferThread where
  file : QFile
  fileName : String
  fileSize : Nat
  fileChunk : Nat
  curSeq : Nat
  totalBlocks : Nat
  accumulateTransferred : Nat
  deriving DecidableEq, Repr

namespace FileTransferThread

def init : FileTransferThread where
  file := { contents := [], pos := 0, isOpen := false }
  fileName := ""
  fileSize := 0
  fileChunk := 0
  curSeq := 1
  totalBlocks := 0
  accumulateTransferred := 0

/-- The exact ceiling. The quotient of the code is a `double`, whose ceiling is this one for sizes
    below 2^53. -/
def calculateBlockNumber (totalSize chunkSize : Nat) : Nat :=
  (totalSize + chunkSize - 1) / chunkSize

def closeFile (t : FileTransferThread) : FileTransferThread :=
  { t with file := t.file.close }

/-- `bytes_transferred_curr_sequence`. -/
def bytesTransferred (t : FileTransferThread) : Nat :=
  if t.curSeq ≠ t.totalBlocks then t.fileChunk else t.fileSize - (t.curSeq - 1) * t.fileChunk

def nextRequest (t : FileTransferThread) : UploadRequest where
  filename := t.fileName
  curSeq := t.curSeq
  lastSeq := t.totalBlocks
  curSize := t.accumulateTransferred + t.bytesTransferred
  fileSize := t.fileSize
  block := t.file.peek t.bytesTransferred
  eof := t.curSeq = t.totalBlocks

/-- `slot_send_next_block` closes the file instead of sending. -/
def finished (t : FileTransferThread) : Bool :=
  t.totalBlocks < t.curSeq || t.file.atEnd

/-- The thread after `slot_send_next_block`, and what it sends. -/
def slotSendNextBlock (t : FileTransferThread) : FileTransferThread × Option UploadRequest :=
  if t.finished then (t.closeFile, none)
  else
    let t' := { t with file := t.file.advance t.bytesTransferred }
    if (t.file.peek t.bytesTransferred).isEmpty then (t', none)
    else (t', some t.nextRequest)

/-- `slot_start_file_transmission`; `contents` is none when the file cannot be opened. -/
def slotStartFileTransmission (t : FileTransferThread) (fileName : String)
    (contents : Option (List UInt8)) (fileChunk : Nat) :
    FileTransferThread × Option UploadRequest :=
  let t := { t.closeFile with fileName := fileName, fileChunk := fileChunk, curSeq := 1 }
  match contents with
  | none => (t, none)
  | some contents =>
    slotSendNextBlock
      { t with
        file := { contents := contents, pos := 0, isOpen := true }
        fileSize := contents.length
        totalBlocks := calculateBlockNumber contents.length fileChunk }

/-- The thread has taken the numbers of a reply, and goes on to `slot_send_next_block`. -/
def acknowledged (t : FileTransferThread) (r : UploadResponse) : FileTransferThread :=
  { t with curSeq := toUInt r.currSeq + 1, accumulateTransferred := toUInt r.currSize }

/-- The slot for `signal_data_transmission_status`. The file name of the reply is not looked at. -/
def slotDataTransmissionStatus (t : FileTransferThread) (r : UploadResponse) :
    FileTransferThread × Option UploadRequest :=
  if r.eof then (t.closeFile, none) else (t.acknowledged r).slotSendNextBlock

/-! ## What is sent -/

/-- The numbers of an open file. -/
structure Ready (t : FileTransferThread) : Prop where
  size : t.fileSize = t.file.contents.length
  chunk : 0 < t.fileChunk
  blocks : t.totalBlocks = calculateBlockNumber t.fileSize t.fileChunk

/-- The last block begins inside the file. -/
theorem lastBlock_lt {size chunk : Nat} (hchunk : 0 < chunk) (hsize : 0 < size) :
    (calculateBlockNumber size chunk - 1) * chunk < size := by
  unfold calculateBlockNumber
  have hdiv := Nat.div_mul_le_self (size + chunk - 1) chunk
  have hpos : 1 ≤ (size + chunk - 1) / chunk := (Nat.le_div_iff_mul_le hchunk).mpr (by omega)
  rw [Nat.sub_mul, Nat.one_mul]
  omega

theorem not_finished_iff {t : FileTransferThread} : t.finished = false ↔
    t.curSeq ≤ t.totalBlocks ∧ t.file.isOpen = true ∧ t.file.pos < t.file.contents.length := by
  simp [finished, QFile.atEnd]

theorem bytesTransferred_pos {t : FileTransferThread} (h : t.Ready)
    (hmore : t.finished = false) : 0 < t.bytesTransferred := by
  obtain ⟨-, -, hpos⟩ := not_finished_iff.mp hmore
  unfold bytesTransferred
  split
  · exact h.chunk
  · rename_i hlast
    rw [Classical.not_not] at hlast
    have hlt := lastBlock_lt h.chunk (show 0 < t.fileSize by rw [h.size]; omega)
    rw [hlast, h.blocks]
    omega

/-- While the file has bytes left, the thread sends the block that comes next in the file. -/
theorem slotSendNextBlock_more {t : FileTransferThread} (h : t.Ready)
    (hmore : t.finished = false) : t.slotSendNextBlock =
      ({ t with file := t.file.advance t.bytesTransferred }, some t.nextRequest) := by
  obtain ⟨-, -, hpos⟩ := not_finished_iff.mp hmore
  have hbytes := bytesTransferred_pos h hmore
  have hblock : (t.file.peek t.bytesTransferred).isEmpty = false := by
    rw [Bool.eq_false_iff, Ne, List.isEmpty_iff_length_eq_zero, QFile.peek, List.length_take,
      List.length_drop]
    omega
  simp [slotSendNextBlock, hmore, hblock]

theorem slotSendNextBlock_finished {t : FileTransferThread} (hdone : t.finished = true) :
    t.slotSendNextBlock = (t.closeFile, none) := by
  simp [slotSendNextBlock, hdone]

/-- The block numbered `totalBlocks` ends the file exactly when its predecessors are behind the
    read position. -/
theorem last_advance_iff {t : FileTransferThread} (h : t.Ready) (hmore : t.finished = false)
    (hlast : t.curSeq = t.totalBlocks) :
    (t.file.advance t.bytesTransferred).pos = t.file.contents.length ↔
      (t.totalBlocks - 1) * t.fileChunk ≤ t.file.pos := by
  obtain ⟨-, -, hpos⟩ := not_finished_iff.mp hmore
  have hlt := lastBlock_lt h.chunk (show 0 < t.fileSize by rw [h.size]; omega)
  have hbytes : t.bytesTransferred = t.fileSize - (t.totalBlocks - 1) * t.fileChunk := by
    rw [bytesTransferred, if_neg (Classical.not_not.mpr hlast), hlast]
  rw [← h.blocks] at hlt
  have hsize := h.size
  simp only [QFile.advance, QFile.peek, List.length_take, List.length_drop, hbytes]
  omega

end FileTransferThread

end DistributedIM.Client
