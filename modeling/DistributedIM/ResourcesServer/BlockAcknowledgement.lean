/-
  What a SERVICE_SUCCESS for a block of a file says about the file.

  `RequestHandlerNode::handlingFileUploading` commits the block to a `FileProcessingNode` and
  acknowledges it at once. The node drops it without a word if its queue is full; later it may
  refuse the name, fail to open the file, find nothing in the decoded block or fail to write it.
  `SyncLogic::handlingFileUploading` writes before it answers, but never asks whether the block
  could be decoded, nor whether closing the file went well.

  `everyAckWritten_iff`: along a run every acknowledged block is written, or waits in a queue of a
  server that runs, exactly if every step meets `Kept`.

  `base64Unescape` is the decoder: none where the text is not base64, and the buffer is then empty.
  The hash of a name decides which node its blocks go to. The nodes are not stopped.
-/
import DistributedIM.Lib.Exclusive
import DistributedIM.Lib.Json
import DistributedIM.Lib.Outcome
import DistributedIM.ResourcesServer.UploadPath

namespace DistributedIM.ResourcesServer

open FilePath UploadConfig

/-! ## `RequestHandlerNode::handlingFileUploading` -/

/-- A message to the requester. -/
inductive NodeReply
  /-- `JSONPARSE_ERROR`, under SERVICE_FRIENDSENDERRESPONSE -/
  | invalidJson
  /-- `JSONPARSE_ERROR` -/
  | missingFields
  | upload (reply : UploadReply)
  deriving DecidableEq, Repr

/-- Why a request is not carried out: none is an exception, which is only logged. -/
abbrev UploadReading (α : Type) := Except (Option NodeReply) α

/-- `value_to<std::string>(src_obj[key])` -/
def uploadText (src : Json.Object) (key : String) : UploadReading String :=
  match (src.get key).asText with
  | none => throw none
  | some text => return text

def uploadKeys : List String :=
  ["filename", "checksum", "file_size", "block", "cur_size", "cur_seq", "last_seq", "EOF"]

def readUpload (src : Json.Object) : UploadReading UploadFields := do
  if !uploadKeys.all src.contains then throw (some .missingFields)
  else
    let filename ← uploadText src "filename"
    let checksum ← uploadText src "checksum"
    let lastSeq ← uploadText src "last_seq"
    let curSeq ← uploadText src "cur_seq"
    let eof ← uploadText src "EOF"
    let curSize ← uploadText src "cur_size"
    let fileSize ← uploadText src "file_size"
    if (Text.readUInt64 curSize).isNone || (Text.readUInt64 fileSize).isNone then
      throw (some (.upload (.error "Internel Server Error" .fileUploadError)))
    else
      let block ← uploadText src "block"
      return ⟨filename, checksum, fileSize, block, curSize, curSeq, lastSeq, eof⟩

/-- `parseJson`: its own error, and the object it leaves. -/
def parseUpload (body : Option Json) : List NodeReply × Json.Object :=
  match body with
  | some (.object src) => ([], src)
  | _ => ([.invalidJson], [])

/-- What is sent, and the block that is committed. -/
def requestFileUploading (body : Option Json) : List NodeReply × Option FileDescriptionBlock :=
  let (errors, src) := parseUpload body
  match readUpload src with
  | .error refusal => (errors ++ refusal.toList, none)
  | .ok src =>
    (errors ++ [.upload (.success src.filename src.curSeq src.curSize src.fileSize
        (src.eof == "1"))],
      some ⟨src.filename, src.block, src.curSeq, src.eof⟩)

/-- The block that is committed; a request that is acknowledged has one, and no other
    (`acknowledged_iff_accepted`). -/
def acceptedBlock (body : Option Json) : Option FileDescriptionBlock :=
  (requestFileUploading body).2

/-- SERVICE_SUCCESS -/
def NodeReply.IsSuccess : NodeReply → Prop
  | .upload (.success ..) => True
  | _ => False

theorem uploadText_ne_error (src : Json.Object) (key : String) (refusal : NodeReply) :
    uploadText src key ≠ .error (some refusal) := by
  intro h
  unfold uploadText at h
  split at h
  · cases h
  · cases h

theorem not_isSuccess_of_readUpload {src : Json.Object} {refusal : NodeReply}
    (h : readUpload src = .error (some refusal)) : ¬refusal.IsSuccess := by
  have hrest {α : Type} {key : String} {f : String → UploadReading α}
      (h : (uploadText src key >>= f) = .error (some refusal)) :
      ∃ text, f text = .error (some refusal) := by
    rcases Outcome.bind_eq_error.mp h with h | ⟨text, -, h⟩
    · exact absurd h (uploadText_ne_error src key refusal)
    · exact ⟨text, h⟩
  unfold readUpload at h
  split at h
  · obtain rfl := Option.some.inj (Except.error.inj h)
    exact id
  · obtain ⟨filename, h⟩ := hrest h
    obtain ⟨checksum, h⟩ := hrest h
    obtain ⟨lastSeq, h⟩ := hrest h
    obtain ⟨curSeq, h⟩ := hrest h
    obtain ⟨eof, h⟩ := hrest h
    obtain ⟨curSize, h⟩ := hrest h
    obtain ⟨fileSize, h⟩ := hrest h
    split at h
    · obtain rfl := Option.some.inj (Except.error.inj h)
      exact id
    · obtain ⟨block, h⟩ := hrest h
      cases h

/-- A request is acknowledged exactly if its block is committed. -/
theorem acknowledged_iff_accepted (body : Option Json) :
    (∃ reply ∈ (requestFileUploading body).1, reply.IsSuccess) ↔ (acceptedBlock body).isSome := by
  unfold acceptedBlock requestFileUploading
  have hparse : ∀ reply ∈ (parseUpload body).1, ¬reply.IsSuccess := by
    unfold parseUpload
    split
    · simp
    · simp [NodeReply.IsSuccess]
  rcases hread : readUpload (parseUpload body).2 with (_ | refusal) | src
  · simpa [hread] using hparse
  · have hrefusal := not_isSuccess_of_readUpload hread
    simpa [hread, or_imp, forall_and, hrefusal] using hparse
  · simp [hread, NodeReply.IsSuccess]

/-! ## A node with its queue -/

/-- A committed block, with the number of its acknowledgement. -/
structure Committed where
  number : Nat
  block : FileDescriptionBlock
  deriving DecidableEq, Repr

structure WorkingNode where
  node : FileProcessingNode
  /-- a write to the open file has failed -/
  bad : Bool
  queue : List Committed

namespace FileProcessingNode

/-- The file of the block is the one that is open. -/
def reuses (s : FileProcessingNode) (block : FileDescriptionBlock) : Bool :=
  !(block.currSequence == "1") && s.lastfile == block.filename && s.fileStream.isSome

end FileProcessingNode

namespace WorkingNode

def init : WorkingNode where
  node := .init
  bad := false
  queue := []

/-- The acknowledgements of the blocks in the queue. -/
def numbers (w : WorkingNode) : List Nat :=
  w.queue.map Committed.number

/-- `FileProcessingNode::commit` -/
def commit (w : WorkingNode) (resourceQueueSize : Nat) (b : Committed) : WorkingNode :=
  if w.queue.length > resourceQueueSize then w else { w with queue := w.queue ++ [b] }

/-- A stream that has failed writes nothing until a file is opened again. -/
def effectiveIo (w : WorkingNode) (io : Io) (block : FileDescriptionBlock) : Io :=
  { io with written := io.written && !(w.bad && w.node.reuses block) }

/-- The stream after a block was executed. -/
def badAfter (w : WorkingNode) (io : Io) (actions : List FileAction) : Bool :=
  match actions.getLast? with
  | some (.wrote _ _) => !io.written
  | some (.opened _ _) => false
  | none => w.bad

section

variable (base64Unescape : String → Option (List UInt8)) {c : UploadConfig}

/-- The bytes were written to a file that the name leads to. -/
def Wrote (c : UploadConfig) (name : String) (data : List UInt8) (actions : List FileAction) :
    Prop :=
  ∃ path, c.Names name path ∧ .wrote path data ∈ actions

instance (c : UploadConfig) (name : String) (data : List UInt8) (actions : List FileAction) :
    Decidable (Wrote c name data actions) :=
  decidable_of_iff
    (.wrote (normal [] (c.foundPath name)) data ∈ actions ∨
      .wrote (normal [] (c.madePath name)) data ∈ actions) (by simp [Wrote, Names, or_and_right,
        exists_or])

/-- What is in the buffer that is decoded into. -/
def decoded (text : String) : List UInt8 :=
  (base64Unescape text).getD []

/-- The bytes of the block are in the file of its name, or there are none and the file is open. -/
def blockWritten (w : WorkingNode) (disk : Disk c) (io : Io) (block : FileDescriptionBlock)
    (actions : List FileAction) : Bool :=
  match base64Unescape block.blockData with
  | none => false
  | some [] =>
    (w.node.resetFileStream disk io (block.currSequence == "1") block.filename).map
      (fun r => r.2.1) == some .ready
  | some data =>
    io.written && decide (Wrote c block.filename data actions)

end

end WorkingNode

/-! ## The server -/

/-- The size of the queues, and where the blocks of a name go. -/
structure Dispatcher where
  resourceQueueSize : Nat
  hashToIndex : String → Nat

structure UploadService where
  nodes : Nat → WorkingNode
  /-- no exception has ended the server -/
  running : Bool
  acknowledged : Nat
  /-- the acknowledgements of the blocks written -/
  written : List Nat

namespace UploadService

def init : UploadService where
  nodes _ := .init
  running := true
  acknowledged := 0
  written := []

inductive Event (c : UploadConfig)
  /-- `RequestHandlerNode` handles a request -/
  | request (body : Option Json)
  /-- a node executes the block at the front of its queue -/
  | work (i : Nat) (disk : Disk c) (io : Io)
  /-- `SyncLogic` handles a request; `flushed`: closing the file writes the rest -/
  | syncRequest (disk : Disk c) (io : Io) (flushed : Bool) (src : UploadFields)


section

variable (base64Unescape : String → Option (List UInt8)) {c : UploadConfig} (d : Dispatcher)

def handleRequest (s : UploadService) (body : Option Json) : UploadService :=
  match acceptedBlock body with
  | none => s
  | some block =>
    let i := d.hashToIndex block.filename
    { s with
      nodes := Function.update s.nodes i
        ((s.nodes i).commit d.resourceQueueSize ⟨s.acknowledged, block⟩)
      acknowledged := s.acknowledged + 1 }

def work (s : UploadService) (i : Nat) (disk : Disk c) (io : Io) : Option UploadService :=
  let w := s.nodes i
  match w.queue with
  | [] => none
  | b :: queue =>
    let io := w.effectiveIo io b.block
    match w.node.execute (WorkingNode.decoded base64Unescape) disk io b.block with
    | none => some { s with running := false }
    | some (node, actions) =>
      some { s with
        nodes := Function.update s.nodes i ⟨node, w.badAfter io actions, queue⟩
        written :=
          if w.blockWritten base64Unescape disk io b.block actions then s.written ++ [b.number]
          else s.written }

/-- The bytes of the block of an acknowledged request are in the file of its name. -/
def syncWritten (flushed : Bool) (src : UploadFields) (actions : List FileAction) : Bool :=
  match base64Unescape src.block with
  | none => false
  | some data => flushed && decide (WorkingNode.Wrote c src.filename data actions)

def handleSyncRequest (s : UploadService) (disk : Disk c) (io : Io) (flushed : Bool)
    (src : UploadFields) : UploadService :=
  match handlingFileUploading (WorkingNode.decoded base64Unescape) disk io src with
  | (.error _ _, _) => s
  | (.success .., actions) =>
    { s with
      acknowledged := s.acknowledged + 1
      written :=
        if syncWritten base64Unescape (c := c) flushed src actions then
          s.written ++ [s.acknowledged]
        else s.written }

def step (s : UploadService) (e : Event c) : Option UploadService :=
  if !s.running then none
  else
    match e with
    | .request body => some (s.handleRequest d body)
    | .work i disk io => s.work base64Unescape i disk io
    | .syncRequest disk io flushed src =>
      some (s.handleSyncRequest base64Unescape disk io flushed src)

end

/-! ## What is to hold -/

/-- The block of the acknowledgement waits to be written. -/
def Waits (s : UploadService) (k : Nat) : Prop :=
  ∃ i, k ∈ (s.nodes i).numbers

/-- Every acknowledged block is written, or waits on a server that runs. -/
def EveryAckWritten (s : UploadService) : Prop :=
  ∀ k < s.acknowledged, k ∈ s.written ∨ s.running = true ∧ s.Waits k

end UploadService

/-! ## When a block is written -/

/-- The file of the block is there and is opened, or is created. -/
def CanOpen {c : UploadConfig} (disk : Disk c) (io : Io) (block : FileDescriptionBlock) : Prop :=
  if !(block.currSequence == "1") && disk.tree.pathExists (c.fullPath block.filename) then
    (io.openForWrite disk.tree (c.fullPath block.filename)).isSome
  else
    ∃ t, prepared disk io = some t ∧ io.canonical = true ∧
      (io.openForWrite t (t.weaklyCanonical (c.fullPath block.filename))).isSome

/-- The name has `..`, a slash or a backslash in it, its file is open or can be opened, and the
    block is base64 that the stream takes. -/
def WorkingNode.Writable (base64Unescape : String → Option (List UInt8)) {c : UploadConfig}
    (w : WorkingNode) (disk : Disk c) (io : Io) (block : FileDescriptionBlock) : Prop :=
  FileProcessingNode.validFilename block.filename = false ∧
    (w.node.reuses block = true ∨ CanOpen disk io block) ∧
    ∃ data, base64Unescape block.blockData = some data ∧
      (data = [] ∨ (w.effectiveIo io block).written = true)

/-- `SyncLogic` writes what it has decoded. -/
def SyncStores {c : UploadConfig} (disk : Disk c) (io : Io) (src : UploadFields) : Prop :=
  (Text.readUInt64 src.curSize).isSome ∧ (Text.readUInt64 src.fileSize).isSome ∧
    ∃ t, prepared disk io = some t ∧ io.canonical = true ∧
      (io.openForWrite t (t.weaklyCanonical (c.fullPath src.filename))).isSome ∧
      io.written = true

/-- A request finds room in the queue, a block that is executed can be written, and what
    `SyncLogic` writes could be decoded and is written to the end. -/
def UploadService.Kept (base64Unescape : String → Option (List UInt8)) {c : UploadConfig}
    (d : Dispatcher) (s : UploadService) : UploadService.Event c → Prop
  | .request body => ∀ block, acceptedBlock body = some block →
    (s.nodes (d.hashToIndex block.filename)).queue.length ≤ d.resourceQueueSize
  | .work i disk io => ∀ b queue, (s.nodes i).queue = b :: queue →
    (s.nodes i).Writable base64Unescape disk io b.block
  | .syncRequest disk io flushed src =>
    SyncStores disk io src → (base64Unescape src.block).isSome ∧ flushed = true

namespace FileProcessingNode

variable {c : UploadConfig}

theorem openFile_cases {s : FileProcessingNode} {t : Tree} {io : Io} {path : List Name}
    {name : String} {truncates : Bool} {r : FileProcessingNode × ResetResult × List FileAction}
    (h : s.openFile t io path name truncates = some r) :
    (∃ p, io.openForWrite t path = some p ∧ r.1.fileStream = some p ∧ r.2.1 = .ready ∧
        r.2.2 = [.opened p truncates]) ∨
      io.openForWrite t path = none ∧ r.2.1 = .notOpened ∧ r.2.2 = [] := by
  unfold openFile at h
  split at h
  · rename_i p hp
    obtain rfl := Option.some.inj h
    exact Or.inl ⟨p, hp, rfl, rfl, rfl⟩
  · rename_i hp
    split at h
    · cases h
    · obtain rfl := Option.some.inj h
      exact Or.inr ⟨hp, rfl, rfl⟩

/-- The file of the block is open, or can be opened, and its name is let through. -/
def CanReset (s : FileProcessingNode) (disk : Disk c) (io : Io) (block : FileDescriptionBlock) :
    Prop :=
  validFilename block.filename = false ∧ (s.reuses block = true ∨ CanOpen disk io block)

/-- How `resetFileStream` ends: with the file open, or without having touched one. -/
def EndsReady (s : FileProcessingNode) (disk : Disk c) (io : Io) (block : FileDescriptionBlock)
    (r : FileProcessingNode × ResetResult × List FileAction) : Prop :=
  (r.2.1 = .ready ∧ r.1.fileStream.isSome ∧ (∀ path data, .wrote path data ∉ r.2.2) ∧
      s.CanReset disk io block) ∨
    (r.2.1 ≠ .ready ∧ r.2.2 = [] ∧ ¬s.CanReset disk io block)

theorem canOpen_iff_resolves {disk : Disk c} {io : Io} {block : FileDescriptionBlock}
    (hexists : ¬(!(block.currSequence == "1") &&
      disk.tree.pathExists (c.fullPath block.filename)) = true) :
    CanOpen disk io block ↔
      ∃ t path, resolveAndPreparePath disk io block.filename = some (t, path) ∧
        (io.openForWrite t path).isSome := by
  unfold CanOpen resolveAndPreparePath
  rw [if_neg hexists]
  cases hprepared : prepared disk io with
  | none => simp
  | some t =>
    cases hcanonical : io.canonical with
    | false => simp
    | true => simp

theorem endsReady_openFile {s s' : FileProcessingNode} {disk : Disk c} {io : Io}
    {block : FileDescriptionBlock} {t : Tree} {path : List Name} {truncates : Bool}
    {r : FileProcessingNode × ResetResult × List FileAction}
    (hvalid : validFilename block.filename = false) (hreuse : ¬s.reuses block = true)
    (hcan : CanOpen disk io block ↔ (io.openForWrite t path).isSome)
    (h : s'.openFile t io path block.filename truncates = some r) :
    EndsReady s disk io block r := by
  rcases openFile_cases h with ⟨p, hp, hstream, hready, hactions⟩ | ⟨hp, hnot, hactions⟩
  · refine Or.inl ⟨hready, ?_, ?_, hvalid, Or.inr (hcan.mpr ?_)⟩
    · rw [hstream]
      rfl
    · intro path' data ha
      rw [hactions] at ha
      cases List.mem_singleton.mp ha
    · rw [hp]
      rfl
  · refine Or.inr ⟨?_, hactions, ?_⟩
    · rw [hnot]
      intro h
      cases h
    · rintro ⟨-, hreused | hopens⟩
      · exact hreuse hreused
      · have hsome := hcan.mp hopens
        rw [hp] at hsome
        cases hsome

theorem resetFileStream_some {s : FileProcessingNode} {disk : Disk c} {io : Io}
    {block : FileDescriptionBlock} {r : FileProcessingNode × ResetResult × List FileAction}
    (h : s.resetFileStream disk io (block.currSequence == "1") block.filename = some r) :
    EndsReady s disk io block r := by
  unfold resetFileStream at h
  split at h
  · rename_i hvalid
    obtain rfl := Option.some.inj h
    refine Or.inr ⟨fun h => (by cases h), rfl, fun hready => ?_⟩
    rw [hready.1] at hvalid
    cases hvalid
  · rename_i hvalid
    have hvalid := eq_false_of_ne_true hvalid
    split at h
    · rename_i hreuse
      obtain rfl := Option.some.inj h
      have hstream := (Bool.and_eq_true _ _ ▸ hreuse).2
      exact Or.inl ⟨rfl, hstream, fun _ _ ha => (by cases ha), hvalid, Or.inl hreuse⟩
    · rename_i hreuse
      dsimp only at h
      split at h
      · rename_i hexists
        refine endsReady_openFile hvalid hreuse ?_ h
        unfold CanOpen
        rw [if_pos hexists]
      · rename_i hexists
        split at h
        · rename_i hprepare
          obtain rfl := Option.some.inj h
          refine Or.inr ⟨fun h => (by cases h), rfl, ?_⟩
          rintro ⟨-, hreused | hopens⟩
          · exact hreuse hreused
          · obtain ⟨t, path, hresolved, -⟩ := (canOpen_iff_resolves hexists).mp hopens
            cases hprepare.symm.trans hresolved
        · rename_i t path hprepare
          refine endsReady_openFile hvalid hreuse ?_ h
          rw [canOpen_iff_resolves hexists, hprepare]
          simp

/-- An exception leaves it only where the file cannot be opened. -/
theorem resetFileStream_none {s : FileProcessingNode} {disk : Disk c} {io : Io}
    {block : FileDescriptionBlock}
    (h : s.resetFileStream disk io (block.currSequence == "1") block.filename = none) :
    ¬s.CanReset disk io block := by
  have hnone {s : FileProcessingNode} {t : Tree} {path : List Name} {truncates : Bool}
      (h : s.openFile t io path block.filename truncates = none) :
      io.openForWrite t path = none := by
    unfold openFile at h
    split at h
    · cases h
    · assumption
  unfold resetFileStream at h
  split at h
  · cases h
  · split at h
    · cases h
    · rename_i hreuse
      rintro ⟨-, hreused | hopens⟩
      · exact hreuse hreused
      · dsimp only at h
        split at h
        · rename_i hexists
          rw [CanOpen, if_pos hexists, hnone h] at hopens
          cases hopens
        · rename_i hexists
          obtain ⟨t, path, hresolved, hopened⟩ := (canOpen_iff_resolves hexists).mp hopens
          rw [hresolved] at h
          rw [hnone h] at hopened
          cases hopened

end FileProcessingNode

namespace WorkingNode

variable {base64Unescape : String → Option (List UInt8)} {c : UploadConfig}

theorem writable_iff {w : WorkingNode} {disk : Disk c} {io : Io} {block : FileDescriptionBlock}
    (hstands : w.node.Stands c) :
    w.Writable base64Unescape disk io block ↔
      ∃ node actions, w.node.execute (decoded base64Unescape) disk (w.effectiveIo io block) block =
          some (node, actions) ∧
        w.blockWritten base64Unescape disk (w.effectiveIo io block) block actions = true := by
  have hcan : w.Writable base64Unescape disk io block ↔
      w.node.CanReset disk (w.effectiveIo io block) block ∧
        ∃ data, base64Unescape block.blockData = some data ∧
          (data = [] ∨ (w.effectiveIo io block).written = true) := and_assoc.symm
  rw [hcan]
  generalize w.effectiveIo io block = io
  cases hreset : w.node.resetFileStream disk io (block.currSequence == "1") block.filename with
  | none =>
    have hnot := FileProcessingNode.resetFileStream_none hreset
    simp [hnot, FileProcessingNode.execute, hreset]
  | some r =>
    obtain ⟨s', result, opened⟩ := r
    rcases FileProcessingNode.resetFileStream_some hreset with
      ⟨hready, hstream, hopened, hreset'⟩ | ⟨hready, hnothing, hnot⟩
    · obtain rfl : result = .ready := hready
      have hnamed := FileProcessingNode.reset_resetFileStream hstands hreset
      obtain ⟨path, hpath⟩ := Option.isSome_iff_exists.mp hstream
      have hnames : c.Names block.filename path := by
        rw [← hnamed.lastfile rfl]
        exact (hnamed.stands path hpath).names
      rcases hdecode : base64Unescape block.blockData with _ | _ | ⟨byte, data⟩
      · simp [blockWritten, hdecode]
      · simp [FileProcessingNode.execute, blockWritten, decoded, hdecode, hreset, hreset']
      · have hwrote : Wrote c block.filename (byte :: data)
            (opened ++ [.wrote path (byte :: data)]) :=
          ⟨path, hnames, List.mem_append_right _ (List.mem_singleton_self _)⟩
        simp [FileProcessingNode.execute, FileProcessingNode.writeToFile, blockWritten, decoded,
          hdecode, hreset, hreset', show s'.fileStream = _ from hpath, hwrote]
    · obtain rfl : opened = [] := hnothing
      have hexecute : w.node.execute (decoded base64Unescape) disk io block = some (s', []) := by
        unfold FileProcessingNode.execute
        rw [hreset]
        cases result with
        | ready => exact absurd rfl hready
        | illegalFilename => rfl
        | notPrepared => rfl
        | notOpened => rfl
      have hresult : result ≠ .ready := hready
      rcases hdecode : base64Unescape block.blockData with _ | _ | ⟨byte, data⟩
      · simp [blockWritten, hdecode]
      · simp [hexecute, blockWritten, hdecode, hreset, hnot, hresult]
      · have hnothing : ¬Wrote c block.filename (byte :: data) [] := by
          rintro ⟨path, -, hmem⟩
          cases hmem
        simp [hexecute, blockWritten, hdecode, hnot, hnothing]

end WorkingNode

/-! ## `SyncLogic::handlingFileUploading` -/

/-- A request is acknowledged once what was decoded has been written to the file of its name. -/
theorem handlingFileUploading_cases (base64Unescape : String → List UInt8) {c : UploadConfig}
    (disk : Disk c) (io : Io) (src : UploadFields) :
    (SyncStores disk io src ∧
      ∃ curSize totalSize truncates path, c.Names src.filename path ∧
        handlingFileUploading base64Unescape disk io src =
          (.success src.filename src.curSeq curSize totalSize (src.eof == "1"),
            [.opened path truncates, .wrote path (base64Unescape src.block)])) ∨
      (¬SyncStores disk io src ∧
        ∃ message status actions, handlingFileUploading base64Unescape disk io src =
          (.error message status, actions)) := by
  unfold SyncStores handlingFileUploading
  cases hcurSize : Text.readUInt64 src.curSize with
  | none => simp
  | some curSize =>
    cases htotalSize : Text.readUInt64 src.fileSize with
    | none => simp
    | some totalSize =>
      cases hprepared : prepared disk io with
      | none => simp
      | some t =>
        cases hcanonical : io.canonical with
        | false => simp
        | true =>
          cases hopen : io.openForWrite t (t.weaklyCanonical (c.fullPath src.filename)) with
          | none =>
            right
            cases src.curSeq == "1" <;> simp [hopen]
          | some path =>
            have hnames := (opens_weaklyCanonical hprepared hopen).names
            cases hwritten : io.written with
            | false => simp [hopen]
            | true => simp [hopen, hnames]

/-! ## A run -/

namespace UploadService

/-- The server while it keeps what it has acknowledged: no block is in two places. -/
structure Inv (c : UploadConfig) (s : UploadService) : Prop where
  stands : ∀ i, (s.nodes i).node.Stands c
  running : s.running = true
  kept : ∀ k, k < s.acknowledged ↔ k ∈ s.written ∨ s.Waits k
  once : ∀ i, (s.nodes i).numbers.Nodup
  apart : Exclusive fun i k => k ∈ (s.nodes i).numbers
  unwritten : ∀ k, s.Waits k → k ∉ s.written

theorem inv_init (c : UploadConfig) : Inv c init where
  stands _ := FileProcessingNode.stands_closed rfl
  running := rfl
  kept k := by simp [init, Waits, WorkingNode.numbers, WorkingNode.init]
  once _ := List.nodup_nil
  apart k i j hi := by simp [init, WorkingNode.numbers, WorkingNode.init] at hi
  unwritten k h := by simp [init, Waits, WorkingNode.numbers, WorkingNode.init] at h

theorem everyAckWritten_of_inv {c : UploadConfig} {s : UploadService} (h : Inv c s) :
    s.EveryAckWritten := by
  intro k hk
  rcases (h.kept k).mp hk with hwritten | hwaits
  · exact Or.inl hwritten
  · exact Or.inr ⟨h.running, hwaits⟩

theorem waits_update_iff {s s' : UploadService} {i : Nat} {w : WorkingNode}
    (hnodes : s'.nodes = Function.update s.nodes i w) (k : Nat) :
    s'.Waits k ↔ k ∈ w.numbers ∨ ∃ j, j ≠ i ∧ k ∈ (s.nodes j).numbers := by
  unfold Waits
  rw [hnodes]
  constructor
  · rintro ⟨j, hj⟩
    by_cases hji : j = i
    · rw [hji, Function.update_self] at hj
      exact Or.inl hj
    · rw [Function.update_of_ne hji] at hj
      exact Or.inr ⟨j, hji, hj⟩
  · rintro (hk | ⟨j, hji, hj⟩)
    · refine ⟨i, ?_⟩
      rw [Function.update_self]
      exact hk
    · refine ⟨j, ?_⟩
      rw [Function.update_of_ne hji]
      exact hj

/-- A block is put into a queue. -/
theorem waits_enqueue {s s' : UploadService} {i k : Nat} {w : WorkingNode}
    (hnodes : s'.nodes = Function.update s.nodes i w)
    (hnumbers : w.numbers = (s.nodes i).numbers ++ [k]) (l : Nat) :
    s'.Waits l ↔ s.Waits l ∨ l = k := by
  rw [waits_update_iff hnodes, hnumbers, List.mem_append, List.mem_singleton]
  constructor
  · rintro ((hl | hl) | ⟨j, -, hj⟩)
    · exact Or.inl ⟨i, hl⟩
    · exact Or.inr hl
    · exact Or.inl ⟨j, hj⟩
  · rintro (⟨j, hj⟩ | hl)
    · by_cases hji : j = i
      · exact Or.inl (Or.inl (hji ▸ hj))
      · exact Or.inr ⟨j, hji, hj⟩
    · exact Or.inl (Or.inr hl)

/-- The block at the front of a queue is taken out. -/
theorem waits_dequeue {c : UploadConfig} {s s' : UploadService} {i k : Nat} {w : WorkingNode}
    (h : Inv c s) (hnodes : s'.nodes = Function.update s.nodes i w)
    (hnumbers : (s.nodes i).numbers = k :: w.numbers) (l : Nat) :
    s'.Waits l ↔ s.Waits l ∧ l ≠ k := by
  have hfront : k ∈ (s.nodes i).numbers := hnumbers ▸ List.mem_cons_self
  have honce := h.once i
  rw [hnumbers, List.nodup_cons] at honce
  rw [waits_update_iff hnodes]
  constructor
  · rintro (hl | ⟨j, hji, hj⟩)
    · refine ⟨⟨i, hnumbers ▸ List.mem_cons_of_mem k hl⟩, ?_⟩
      rintro rfl
      exact honce.1 hl
    · refine ⟨⟨j, hj⟩, ?_⟩
      rintro rfl
      exact hji (h.apart l j i hj hfront)
  · rintro ⟨⟨j, hj⟩, hne⟩
    by_cases hji : j = i
    · rw [hji, hnumbers] at hj
      exact Or.inl ((List.mem_cons.mp hj).resolve_left hne)
    · exact Or.inr ⟨j, hji, hj⟩

variable {c : UploadConfig} {s s' : UploadService}

/-- The next acknowledgement is that of a block that nobody has. -/
theorem fresh_acknowledged (h : Inv c s) : s.acknowledged ∉ s.written ∧ ¬s.Waits s.acknowledged :=
  not_or.mp fun hk => Nat.lt_irrefl _ ((h.kept s.acknowledged).mpr hk)

theorem stands_update {i : Nat} {w : WorkingNode} (h : Inv c s) (hw : w.node.Stands c) (j : Nat) :
    ((Function.update s.nodes i w) j).node.Stands c := by
  by_cases hji : j = i
  · rw [hji, Function.update_self]
    exact hw
  · rw [Function.update_of_ne hji]
    exact h.stands j

theorem inv_enqueue {i : Nat} {w : WorkingNode} (h : Inv c s)
    (hnodes : s'.nodes = Function.update s.nodes i w) (hw : w.node.Stands c)
    (hnumbers : w.numbers = (s.nodes i).numbers ++ [s.acknowledged])
    (hrunning : s'.running = s.running) (hacknowledged : s'.acknowledged = s.acknowledged + 1)
    (hwritten : s'.written = s.written) : Inv c s' := by
  obtain ⟨hnotWritten, hnotWaits⟩ := fresh_acknowledged h
  have hwaits := waits_enqueue hnodes hnumbers
  have hmem {j k : Nat} (hk : k ∈ (s'.nodes j).numbers) :
      k ∈ (s.nodes j).numbers ∨ k = s.acknowledged ∧ j = i := by
    rw [hnodes] at hk
    by_cases hji : j = i
    · subst hji
      rw [Function.update_self, hnumbers, List.mem_append, List.mem_singleton] at hk
      exact hk.imp id fun hk => ⟨hk, rfl⟩
    · rw [Function.update_of_ne hji] at hk
      exact Or.inl hk
  constructor
  · exact hnodes ▸ stands_update h hw
  · rw [hrunning, h.running]
  · intro k
    rw [hacknowledged, Nat.lt_succ_iff_lt_or_eq, h.kept k, hwritten, hwaits k, or_assoc]
  · intro j
    rw [hnodes]
    by_cases hji : j = i
    · rw [hji, Function.update_self, hnumbers, List.nodup_append]
      refine ⟨h.once i, List.pairwise_singleton _ _, ?_⟩
      rintro a ha b hb rfl
      exact hnotWaits ⟨i, List.mem_singleton.mp hb ▸ ha⟩
    · rw [Function.update_of_ne hji]
      exact h.once j
  · intro k j j' hj hj'
    rcases hmem hj with hj | ⟨rfl, rfl⟩
    · rcases hmem hj' with hj' | ⟨rfl, rfl⟩
      · exact h.apart k j j' hj hj'
      · exact absurd ⟨j, hj⟩ hnotWaits
    · rcases hmem hj' with hj' | ⟨-, rfl⟩
      · exact absurd ⟨j', hj'⟩ hnotWaits
      · rfl
  · intro k hk
    rw [hwritten]
    rcases (hwaits k).mp hk with hk | rfl
    · exact h.unwritten k hk
    · exact hnotWritten

theorem inv_dequeue {i k : Nat} {w : WorkingNode} (h : Inv c s)
    (hnodes : s'.nodes = Function.update s.nodes i w) (hw : w.node.Stands c)
    (hnumbers : (s.nodes i).numbers = k :: w.numbers) (hrunning : s'.running = s.running)
    (hacknowledged : s'.acknowledged = s.acknowledged)
    (hwritten : s'.written = s.written ++ [k]) : Inv c s' := by
  have hwaits := waits_dequeue h hnodes hnumbers
  have hmem {j l : Nat} (hl : l ∈ (s'.nodes j).numbers) : l ∈ (s.nodes j).numbers := by
    rw [hnodes] at hl
    by_cases hji : j = i
    · rw [hji, Function.update_self] at hl
      rw [hji, hnumbers]
      exact List.mem_cons_of_mem k hl
    · rwa [Function.update_of_ne hji] at hl
  constructor
  · exact hnodes ▸ stands_update h hw
  · rw [hrunning, h.running]
  · intro l
    have hfront : s.Waits k := ⟨i, hnumbers ▸ List.mem_cons_self⟩
    rw [hacknowledged, h.kept l, hwritten, hwaits l, List.mem_append, List.mem_singleton]
    by_cases hl : l = k
    · subst hl
      simp [hfront]
    · simp [hl]
  · intro j
    rw [hnodes]
    by_cases hji : j = i
    · rw [hji, Function.update_self]
      have honce := h.once i
      rw [hnumbers, List.nodup_cons] at honce
      exact honce.2
    · rw [Function.update_of_ne hji]
      exact h.once j
  · exact h.apart.mono fun j l => hmem
  · intro l hl
    obtain ⟨hl, hne⟩ := (hwaits l).mp hl
    rw [hwritten, List.mem_append, List.mem_singleton]
    exact not_or.mpr ⟨h.unwritten l hl, hne⟩

theorem inv_write (h : Inv c s) (hnodes : s'.nodes = s.nodes) (hrunning : s'.running = s.running)
    (hacknowledged : s'.acknowledged = s.acknowledged + 1)
    (hwritten : s'.written = s.written ++ [s.acknowledged]) : Inv c s' := by
  have hwaits (k : Nat) : s'.Waits k ↔ s.Waits k := by
    unfold Waits
    rw [hnodes]
  constructor
  · exact hnodes ▸ h.stands
  · rw [hrunning, h.running]
  · intro k
    rw [hacknowledged, Nat.lt_succ_iff_lt_or_eq, h.kept k, hwritten, hwaits k, List.mem_append,
      List.mem_singleton, or_right_comm]
  · exact hnodes ▸ h.once
  · exact hnodes ▸ h.apart
  · intro k hk
    rw [hwritten, List.mem_append, List.mem_singleton]
    refine not_or.mpr ⟨h.unwritten k ((hwaits k).mp hk), ?_⟩
    rintro rfl
    exact (fresh_acknowledged h).2 ((hwaits _).mp hk)

/-! ## Steps -/

section

variable {base64Unescape : String → Option (List UInt8)} {d : Dispatcher}

theorem inv_handleRequest (h : Inv c s) {body : Option Json}
    (hkept : Kept base64Unescape (c := c) d s (.request body)) :
    Inv c (s.handleRequest d body) := by
  unfold handleRequest
  cases hblock : acceptedBlock body with
  | none => exact h
  | some block =>
    have hroom := hkept block hblock
    refine inv_enqueue h rfl ?_ ?_ rfl rfl rfl
    · rw [WorkingNode.commit, if_neg (Nat.not_lt.mpr hroom)]
      exact h.stands _
    · rw [WorkingNode.commit, if_neg (Nat.not_lt.mpr hroom), WorkingNode.numbers, List.map_append]
      rfl

/-- A block that is dropped is neither written nor waits. -/
theorem not_everyAckWritten_handleRequest (h : Inv c s) {body : Option Json}
    (hkept : ¬Kept base64Unescape (c := c) d s (.request body)) :
    ¬(s.handleRequest d body).EveryAckWritten := by
  intro hall
  simp only [Kept, not_forall, Nat.not_le] at hkept
  obtain ⟨block, hblock, hfull⟩ := hkept
  obtain ⟨hnotWritten, hnotWaits⟩ := fresh_acknowledged h
  have hdropped : s.handleRequest d body = { s with acknowledged := s.acknowledged + 1 } := by
    rw [handleRequest, hblock]
    simp only [WorkingNode.commit, if_pos hfull, Function.update_eq_self]
  rw [hdropped] at hall
  rcases hall s.acknowledged (Nat.lt_succ_self _) with hwritten | ⟨-, hwaits⟩
  · exact hnotWritten hwritten
  · exact hnotWaits hwaits

theorem inv_handleSyncRequest (h : Inv c s) {disk : Disk c} {io : Io} {flushed : Bool}
    {src : UploadFields}
    (hkept : Kept base64Unescape d s (.syncRequest disk io flushed src)) :
    Inv c (s.handleSyncRequest base64Unescape disk io flushed src) := by
  unfold handleSyncRequest
  rcases handlingFileUploading_cases (WorkingNode.decoded base64Unescape) disk io src with
    ⟨hstores, curSize, totalSize, truncates, path, hnames, heq⟩ | ⟨-, message, status, actions, heq⟩
  · obtain ⟨hdecodes, rfl⟩ := hkept hstores
    obtain ⟨data, hdata⟩ := Option.isSome_iff_exists.mp hdecodes
    rw [heq]
    refine inv_write h rfl rfl rfl ?_
    have hwrote : WorkingNode.Wrote c src.filename data
        [.opened path truncates, .wrote path (WorkingNode.decoded base64Unescape src.block)] := by
      refine ⟨path, hnames, ?_⟩
      simp [WorkingNode.decoded, hdata]
    simp [syncWritten, hdata, hwrote]
  · rw [heq]
    exact h

theorem not_everyAckWritten_handleSyncRequest (h : Inv c s) {disk : Disk c} {io : Io}
    {flushed : Bool} {src : UploadFields}
    (hkept : ¬Kept base64Unescape d s (.syncRequest disk io flushed src)) :
    ¬(s.handleSyncRequest base64Unescape disk io flushed src).EveryAckWritten := by
  intro hall
  simp only [Kept, Classical.not_imp] at hkept
  obtain ⟨hstores, hlost⟩ := hkept
  obtain ⟨hnotWritten, hnotWaits⟩ := fresh_acknowledged h
  rcases handlingFileUploading_cases (WorkingNode.decoded base64Unescape) disk io src with
    ⟨-, curSize, totalSize, truncates, path, -, heq⟩ | ⟨hnot, -⟩
  · have hsync : s.handleSyncRequest base64Unescape disk io flushed src =
        { s with acknowledged := s.acknowledged + 1 } := by
      have hunwritten (actions : List FileAction) :
          syncWritten base64Unescape (c := c) flushed src actions = false := by
        unfold syncWritten
        cases hdata : base64Unescape src.block with
        | none => rfl
        | some data =>
          have hflushed : flushed = false := by
            apply eq_false_of_ne_true
            intro hflushed
            rw [hdata] at hlost
            exact hlost ⟨rfl, hflushed⟩
          rw [hflushed]
          rfl
      unfold handleSyncRequest
      rw [heq]
      simp [hunwritten]
    rw [hsync] at hall
    rcases hall s.acknowledged (Nat.lt_succ_self _) with hwritten | ⟨-, hwaits⟩
    · exact hnotWritten hwritten
    · exact hnotWaits hwaits
  · exact hnot hstores

theorem inv_work (h : Inv c s) {i : Nat} {disk : Disk c} {io : Io}
    (hkept : Kept base64Unescape d s (.work i disk io))
    (hwork : s.work base64Unescape i disk io = some s') : Inv c s' := by
  unfold work at hwork
  cases hqueue : (s.nodes i).queue with
  | nil =>
    simp only [hqueue] at hwork
    cases hwork
  | cons b queue =>
    obtain ⟨node, actions, hexecute, hwritten⟩ :=
      (WorkingNode.writable_iff (h.stands i)).mp (hkept b queue hqueue)
    simp only [hqueue, hexecute, hwritten, if_true] at hwork
    obtain rfl := Option.some.inj hwork
    refine inv_dequeue h rfl ?_ ?_ rfl rfl rfl
    · exact (FileProcessingNode.execute_spec _ (h.stands i) hexecute).1
    · rw [WorkingNode.numbers, hqueue]
      rfl

/-- A block that is taken out and not written is lost, and so is all that waits when the server
    ends. -/
theorem not_everyAckWritten_work (h : Inv c s) {i : Nat} {disk : Disk c} {io : Io}
    (hkept : ¬Kept base64Unescape d s (.work i disk io))
    (hwork : s.work base64Unescape i disk io = some s') : ¬s'.EveryAckWritten := by
  intro hall
  simp only [Kept, not_forall] at hkept
  obtain ⟨b, queue, hqueue, hfails⟩ := hkept
  have hnumbers : (s.nodes i).numbers = b.number :: queue.map Committed.number := by
    rw [WorkingNode.numbers, hqueue]
    rfl
  have hfront : s.Waits b.number := ⟨i, hnumbers ▸ List.mem_cons_self⟩
  have hold : b.number < s.acknowledged := (h.kept _).mpr (Or.inr hfront)
  unfold work at hwork
  simp only [hqueue] at hwork
  cases hexecute : (s.nodes i).node.execute (WorkingNode.decoded base64Unescape) disk
      ((s.nodes i).effectiveIo io b.block) b.block with
  | none =>
    simp only [hexecute] at hwork
    obtain rfl := Option.some.inj hwork
    rcases hall b.number hold with hwritten | ⟨hrunning, -⟩
    · exact h.unwritten _ hfront hwritten
    · cases hrunning
  | some r =>
    obtain ⟨node, actions⟩ := r
    have hnot : (s.nodes i).blockWritten base64Unescape disk ((s.nodes i).effectiveIo io b.block)
        b.block actions = false := by
      apply eq_false_of_ne_true
      intro hwritten
      exact hfails ((WorkingNode.writable_iff (h.stands i)).mpr ⟨node, actions, hexecute, hwritten⟩)
    simp only [hexecute, hnot] at hwork
    obtain rfl := Option.some.inj hwork
    rcases hall b.number hold with hwritten | ⟨-, hwaits⟩
    · exact h.unwritten _ hfront hwritten
    · exact ((waits_dequeue h rfl hnumbers _).mp hwaits).2 rfl

/-- A node with a block to execute does so. -/
theorem work_of_queue (base64Unescape : String → Option (List UInt8)) {i : Nat} {b : Committed}
    {queue : List Committed} (hqueue : (s.nodes i).queue = b :: queue) (disk : Disk c) (io : Io) :
    ∃ s', s.work base64Unescape i disk io = some s' := by
  unfold work
  simp only [hqueue]
  split
  · exact ⟨_, rfl⟩
  · exact ⟨_, rfl⟩

theorem inv_step {e : Event c} (h : Inv c s) (hkept : s.Kept base64Unescape d e)
    (hstep : s.step base64Unescape d e = some s') : Inv c s' := by
  simp only [step, h.running, Bool.not_true, Bool.false_eq_true, if_false] at hstep
  cases e with
  | request body =>
    obtain rfl := Option.some.inj hstep
    exact inv_handleRequest h hkept
  | work i disk io => exact inv_work h hkept hstep
  | syncRequest disk io flushed src =>
    obtain rfl := Option.some.inj hstep
    exact inv_handleSyncRequest h hkept

theorem not_everyAckWritten_step {e : Event c} (h : Inv c s)
    (hkept : ¬s.Kept base64Unescape d e)
    (hstep : s.step base64Unescape d e = some s') : ¬s'.EveryAckWritten := by
  simp only [step, h.running, Bool.not_true, Bool.false_eq_true, if_false] at hstep
  cases e with
  | request body =>
    obtain rfl := Option.some.inj hstep
    exact not_everyAckWritten_handleRequest h hkept
  | work i disk io => exact not_everyAckWritten_work h hkept hstep
  | syncRequest disk io flushed src =>
    obtain rfl := Option.some.inj hstep
    exact not_everyAckWritten_handleSyncRequest h hkept

end

/-- Along a run no acknowledged block is lost exactly if every step keeps its block. -/
theorem everyAckWritten_iff (base64Unescape : String → Option (List UInt8)) (c : UploadConfig)
    (d : Dispatcher) (es : List (Event c)) :
    Trace.Always (step base64Unescape d) EveryAckWritten init es ↔
      Trace.Meets (step base64Unescape d) (Kept base64Unescape d) init es :=
  Trace.always_iff_meets (Inv c) (fun _ => everyAckWritten_of_inv) (fun _ _ _ => inv_step)
    (fun _ _ _ => not_everyAckWritten_step) (inv_init c) es

/-- A decoder that reads `aGk=` as `hi`. -/
def decodeHi (text : String) : Option (List UInt8) :=
  if text = "aGk=" then some [104, 105] else none

/-- The file `a.png` with the two bytes of `hi`, as the client sends it. -/
def sendHi : Json :=
  .object [("filename", .string "a.png"), ("checksum", .string ""), ("file_size", .string "2"),
    ("block", .string "aGk="), ("cur_size", .string "2"), ("cur_seq", .string "1"),
    ("last_seq", .string "1"), ("EOF", .string "1")]

/-- The block is acknowledged, and the node then refuses its name. -/
theorem not_everyAckWritten_sendHi :
    ¬Trace.Always (step decodeHi ⟨100, fun _ => 0⟩) EveryAckWritten init
      [.request (some sendHi), .work 0 dataConfig.outputDisk .smooth] := by
  intro h
  have hblock : acceptedBlock (some sendHi) = some ⟨"a.png", "aGk=", "1", "1"⟩ := by
    decide
  let d : Dispatcher := ⟨100, fun _ => 0⟩
  let s₁ := init.handleRequest d (some sendHi)
  let b : Committed := ⟨0, ⟨"a.png", "aGk=", "1", "1"⟩⟩
  have hqueue : (s₁.nodes 0).queue = [b] := by
    simp [s₁, d, b, handleRequest, hblock, WorkingNode.commit, init, WorkingNode.init]
  have hroom : init.Kept decodeHi d (.request (c := dataConfig) (some sendHi)) := by
    intro block _
    exact Nat.zero_le _
  have hinv : Inv dataConfig s₁ := inv_handleRequest (inv_init dataConfig) hroom
  have hrefused : ¬s₁.Kept decodeHi d (.work 0 dataConfig.outputDisk .smooth) := by
    intro hkept
    have hname := (hkept b [] hqueue).1
    revert hname
    decide
  obtain ⟨s₂, hwork⟩ := work_of_queue decodeHi hqueue dataConfig.outputDisk .smooth
  have hstep : s₁.step decodeHi d (.work 0 dataConfig.outputDisk .smooth) = some s₂ :=
    hwork
  exact not_everyAckWritten_step hinv hrefused hstep
    (Trace.always_head _ ((h.2 s₁ rfl).2 s₂ hstep))

end UploadService

end DistributedIM.ResourcesServer
