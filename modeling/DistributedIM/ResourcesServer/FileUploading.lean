/-
  The receiver of a file upload: `SyncLogic::handlingFileUploading` of the resources server, on
  requests as the client sends them and with file operations that succeed.

  The block numbered 1 truncates the file, every other one is appended to it. The reply repeats
  the numbers of the request; no number is compared with what is stored.

  `UploadServer` also keeps what the results are about: for each block acknowledged, the client's
  file it was read from and the bytes stored after it.
-/
import Mathlib.Logic.Function.Basic
import DistributedIM.Client.FileTransferThread

namespace DistributedIM.ResourcesServer

open DistributedIM.Client (UploadRequest UploadResponse)

/-- A block that was acknowledged: the file it belongs to, the bytes the server has stored under
    that file's name since, and whether the end of the file was acknowledged. -/
structure Acknowledged where
  file : List UInt8
  stored : List UInt8
  eof : Bool
  deriving DecidableEq, Repr

namespace Acknowledged

/-- What is stored is the beginning of the file, and all of it when its end is acknowledged. -/
def Sound (a : Acknowledged) : Prop :=
  a.stored <+: a.file ∧ (a.eof = true → a.stored = a.file)

instance (a : Acknowledged) : Decidable a.Sound :=
  inferInstanceAs (Decidable (_ ∧ _))

end Acknowledged

structure UploadServer where
  /-- the files below `outputPath` -/
  storage : String → Option (List UInt8)
  acknowledged : List Acknowledged

/-- A request on its way, with the file its block was read from. -/
structure SentBlock where
  request : UploadRequest
  file : List UInt8

namespace UploadServer

def init : UploadServer where
  storage _ := none
  acknowledged := []

/-- The bytes of the file after `out.write`: `std::ios::trunc` for the first package,
    `std::ios::app` otherwise. -/
def written (r : UploadServer) (request : UploadRequest) : List UInt8 :=
  if request.curSeq = 1 then request.block
  else (r.storage request.filename).getD [] ++ request.block

def reply (request : UploadRequest) : UploadResponse where
  filename := request.filename
  currSeq := request.curSeq
  currSize := request.curSize
  totalSize := request.fileSize
  eof := request.eof

/-- The server after the request. -/
def handlingFileUploading (r : UploadServer) (m : SentBlock) : UploadServer where
  storage := Function.update r.storage m.request.filename (some (r.written m.request))
  acknowledged := r.acknowledged ++ [⟨m.file, r.written m.request, m.request.eof⟩]

/-- The server after all the requests. -/
def handlingAll (r : UploadServer) (ms : List SentBlock) : UploadServer :=
  ms.foldl handlingFileUploading r

/-- Every acknowledgement is sound. -/
def Sound (r : UploadServer) : Prop :=
  ∀ a ∈ r.acknowledged, a.Sound

theorem handlingAll_append (r : UploadServer) (ms : List SentBlock) (m : SentBlock) :
    r.handlingAll (ms ++ [m]) = (r.handlingAll ms).handlingFileUploading m := by
  rw [handlingAll, List.foldl_append]
  rfl

theorem storage_handlingFileUploading (r : UploadServer) (m : SentBlock) :
    (r.handlingFileUploading m).storage m.request.filename = some (r.written m.request) :=
  Function.update_self _ _ _

theorem sound_handlingFileUploading_iff {r : UploadServer} (h : r.Sound) (m : SentBlock) :
    (r.handlingFileUploading m).Sound ↔
      (Acknowledged.mk m.file (r.written m.request) m.request.eof).Sound := by
  constructor
  · intro hall
    exact hall _ (List.mem_append_right _ (List.mem_singleton_self _))
  · intro hnew a ha
    rcases List.mem_append.mp ha with hold | hlast
    · exact h a hold
    · rw [List.mem_singleton.mp hlast]
      exact hnew

end UploadServer

end DistributedIM.ResourcesServer
