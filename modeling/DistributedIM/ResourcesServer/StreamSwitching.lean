/-
  `FileProcessingNode::execute` on blocks of several files: one stream, the name it was opened for,
  and three ways to go on with a block: the stream that is open, the file opened to append, or the
  file created, with a seek to `accumlated_size`.

  `Preserved` is what switching is to keep: each file has the bytes of its blocks since the last one
  numbered 1. Along blocks that come in order it holds in every state exactly if no block with an
  `accumlated_size` other than 0 creates its file (`always_preserved_iff`). The first block of a file
  creates it, and its `accumlated_size` counts its own bytes, so as many zeros come before them.

  A file is what the path of a name leads to; a name with a NUL can lead to one file where that is
  there and to another one where it is not. Opening and writing succeed, and what the decoder makes
  of a block are its bytes. `exists` finds a file of the server if the directories that the name
  leads through are there, which nothing here creates.
-/
import DistributedIM.Lib.FileStream
import DistributedIM.ResourcesServer.UploadPath

namespace DistributedIM.ResourcesServer

open FilePath FileStream

/-- Where files are put, which names lead through directories only, and the decoder. -/
structure UploadStorage where
  config : UploadConfig
  walks : String → Bool
  base64Decode : String → List UInt8

namespace UploadStorage

/-- The file that the system calls find under `output_dir / filename`. -/
def found (u : UploadStorage) (filename : String) : List Name :=
  normal [] (u.config.foundPath filename)

/-- The file that its canonical form leads to where they find none. -/
def made (u : UploadStorage) (filename : String) : List Name :=
  normal [] (u.config.madePath filename)

/-- `std::filesystem::exists(full_path)` -/
def pathExists (u : UploadStorage) (files : Files (List Name)) (filename : String) : Bool :=
  u.walks filename && (files (u.found filename)).isSome

/-- The file that the name leads to. -/
def file (u : UploadStorage) (files : Files (List Name)) (filename : String) : List Name :=
  if u.pathExists files filename then u.found filename else u.made filename

theorem file_of_pathExists {u : UploadStorage} {files : Files (List Name)} {filename : String}
    (h : u.pathExists files filename = true) : u.file files filename = u.found filename :=
  if_pos h

/-- A name goes on leading to a file that has been written to. -/
theorem file_update (u : UploadStorage) (files : Files (List Name)) (filename : String)
    (bytes : List UInt8) :
    u.file (Function.update files (u.file files filename) (some bytes)) filename =
      u.file files filename := by
  by_cases hexists : u.pathExists files filename = true
  · have hwalks : u.walks filename = true := by
      rw [pathExists, Bool.and_eq_true] at hexists
      exact hexists.1
    rw [file_of_pathExists hexists, file_of_pathExists]
    simp [pathExists, hwalks]
  · have hmade : u.file files filename = u.made filename := if_neg hexists
    rw [hmade]
    by_cases hsame : u.found filename = u.made filename
    · unfold file
      rw [hsame, ite_self]
    · refine if_neg ?_
      rwa [pathExists, Function.update_of_ne hsame]

end UploadStorage

/-- A block with its `accumlated_size`. -/
structure SizedBlock extends FileDescriptionBlock where
  accumlatedSize : Nat
  deriving DecidableEq, Repr

def SizedBlock.isFirstPackage (block : SizedBlock) : Bool :=
  block.currSequence == "1"

structure StreamNode where
  lastfile : String
  fileStream : Option (Stream (List Name))
  files : Files (List Name)
  /-- for each file the bytes of its blocks since the last one numbered 1 -/
  sent : Files (List Name)

namespace StreamNode

/-- A new node; the files are those on disk. -/
def start (files : Files (List Name)) : StreamNode where
  lastfile := ""
  fileStream := none
  files := files
  sent _ := none

def closeCurrentFile (s : StreamNode) : StreamNode :=
  { s with fileStream := none }

variable (u : UploadStorage)

/-- The open file is the one of the block. -/
def reuses (s : StreamNode) (isFirstPackage : Bool) (filename : String) : Bool :=
  !isFirstPackage && s.lastfile == filename && s.fileStream.isSome

/-- The file that is open is closed when another one is opened; none: `return false`. -/
def resetFileStream (s : StreamNode) (isFirstPackage : Bool) (filename : String)
    (curSize : Nat) : Option StreamNode :=
  if FileProcessingNode.validFilename filename then none
  else if s.reuses isFirstPackage filename then some s
  else if !isFirstPackage && u.pathExists s.files filename then
    some { s with
      fileStream := some ((Stream.openApp (u.found filename)).seekp curSize)
      lastfile := filename }
  else
    let opened := Stream.openTrunc s.files (u.file s.files filename)
    some { s with
      fileStream := some (if curSize ≠ 0 then opened.1.seekp curSize else opened.1)
      files := opened.2
      lastfile := filename }

def writeToFile (s : StreamNode) (content : List UInt8) : StreamNode × Bool :=
  match s.fileStream with
  | none => (s, false)
  | some st =>
    let r := st.write s.files content
    ({ s with fileStream := some r.1, files := r.2 }, true)

/-- `execute` once the stream is that of the block. -/
def writeBlock (s : StreamNode) (block : SizedBlock) : StreamNode :=
  let blockData := u.base64Decode block.blockData
  if blockData.isEmpty then s
  else
    let (s, written) := s.writeToFile blockData
    if written && block.isEOF == "1" then s.closeCurrentFile else s

def execute (s : StreamNode) (block : SizedBlock) : StreamNode :=
  match s.resetFileStream u block.isFirstPackage block.filename block.accumlatedSize with
  | none => s
  | some s => s.writeBlock u block

/-! ## Blocks in order -/

/-- The bytes of the file before the block; none: there was no first block. -/
def sentBefore (s : StreamNode) (block : SizedBlock) : Option (List UInt8) :=
  if block.isFirstPackage then some [] else s.sent (u.file s.files block.filename)

/-- The name is accepted, the file was begun, and `accumlated_size` is the number of its bytes up to
    and including the block. -/
def InOrder (s : StreamNode) (block : SizedBlock) : Prop :=
  FileProcessingNode.validFilename block.filename = false ∧
    (s.sentBefore u block).map (fun bytes => (bytes ++ u.base64Decode block.blockData).length) =
      some block.accumlatedSize

instance (s : StreamNode) (block : SizedBlock) : Decidable (s.InOrder u block) :=
  inferInstanceAs (Decidable (_ ∧ _))

/-- A block is executed; none: it is not in order. -/
def step (s : StreamNode) (block : SizedBlock) : Option StreamNode :=
  if s.InOrder u block then
    some { s.execute u block with
      sent := Function.update s.sent (u.file s.files block.filename)
        ((s.sentBefore u block).map fun bytes => bytes ++ u.base64Decode block.blockData) }
  else none

/-- The files have the bytes that were sent. -/
def Preserved (s : StreamNode) : Prop :=
  ∀ path bytes, s.sent path = some bytes → s.files path = some bytes

/-- The block creates its file, or empties it. -/
def creates (s : StreamNode) (block : SizedBlock) : Bool :=
  block.isFirstPackage ||
    !s.reuses block.isFirstPackage block.filename && !u.pathExists s.files block.filename

/-- A block that creates its file has no bytes, and none came before it. -/
def CreatesEmpty (s : StreamNode) (block : SizedBlock) : Prop :=
  s.creates u block = true → block.accumlatedSize = 0

/-! ## The invariant -/

/-- The stream is at the end of the file it was opened for. -/
structure Inv (s : StreamNode) : Prop where
  preserved : Preserved s
  stream : ∀ st, s.fileStream = some st → st.path = u.file s.files s.lastfile ∧ st.AtEnd s.files

theorem inv_start (files : Files (List Name)) : Inv u (start files) where
  preserved := by
    intro path bytes hsent
    cases hsent
  stream := by
    intro st hst
    cases hst

variable {u} {s s' : StreamNode} {block : SizedBlock}

theorem inOrder_iff : s.InOrder u block ↔
    FileProcessingNode.validFilename block.filename = false ∧
      ∃ bytes, s.sentBefore u block = some bytes ∧
        (bytes ++ u.base64Decode block.blockData).length = block.accumlatedSize := by
  rw [InOrder, Option.map_eq_some_iff]

/-- After a reset the file has what was sent before, and the stream is at its end. -/
structure Ready (u : UploadStorage) (s s₁ : StreamNode) (block : SizedBlock)
    (bytes : List UInt8) : Prop where
  lastfile : s₁.lastfile = block.filename
  stream : ∃ st, s₁.fileStream = some st ∧ st.path = u.file s.files block.filename ∧ st.AtEnd s₁.files
  file : s₁.files (u.file s.files block.filename) = some bytes
  others : ∀ path, path ≠ u.file s.files block.filename → s₁.files path = s.files path

theorem resetFileStream_of_creates
    (hvalid : FileProcessingNode.validFilename block.filename = false)
    (hcreates : s.creates u block = true) :
    s.resetFileStream u block.isFirstPackage block.filename block.accumlatedSize =
      some { s with
        fileStream := some ((Stream.openTrunc s.files (u.file s.files block.filename)).1.seekp
          block.accumlatedSize)
        files := (Stream.openTrunc s.files (u.file s.files block.filename)).2
        lastfile := block.filename } := by
  have hreuse : ¬s.reuses block.isFirstPackage block.filename = true := by
    intro hreuse
    simp only [creates, hreuse, Bool.not_true, Bool.false_and, Bool.or_false] at hcreates
    simp [reuses, hcreates] at hreuse
  have hexists : ¬(!block.isFirstPackage && u.pathExists s.files block.filename) = true := by
    intro hexists
    rw [Bool.and_eq_true, Bool.not_eq_true'] at hexists
    simp [creates, hexists.1, hexists.2] at hcreates
  unfold resetFileStream
  rw [hvalid, if_neg Bool.false_ne_true, if_neg hreuse, if_neg hexists]
  split
  · rfl
  · rename_i hzero
    rw [not_not] at hzero
    rw [hzero]
    rfl

theorem ready_of_creates (hvalid : FileProcessingNode.validFilename block.filename = false)
    (hcreates : s.creates u block = true) (hzero : block.accumlatedSize = 0) :
    ∃ s₁, s.resetFileStream u block.isFirstPackage block.filename block.accumlatedSize = some s₁ ∧
      Ready u s s₁ block [] := by
  have hfile : (Stream.openTrunc s.files (u.file s.files block.filename)).2 (u.file s.files block.filename) =
      some [] := Function.update_self ..
  refine ⟨_, resetFileStream_of_creates hvalid hcreates, rfl, ⟨_, rfl, rfl, [], hfile, ?_⟩, hfile,
    fun path hpath => Function.update_of_ne hpath ..⟩
  exact Or.inr hzero

theorem ready_of_not_creates (h : Inv u s)
    (hvalid : FileProcessingNode.validFilename block.filename = false)
    (hcreates : ¬s.creates u block = true) {bytes : List UInt8}
    (hbefore : s.sentBefore u block = some bytes) :
    ∃ s₁, s.resetFileStream u block.isFirstPackage block.filename block.accumlatedSize = some s₁ ∧
      Ready u s s₁ block bytes := by
  unfold creates at hcreates
  rw [Bool.or_eq_true, not_or, Bool.not_eq_true] at hcreates
  obtain ⟨hfirst, hopen⟩ := hcreates
  have hfile : s.files (u.file s.files block.filename) = some bytes := by
    rw [sentBefore, hfirst, if_neg Bool.false_ne_true] at hbefore
    exact h.preserved _ bytes hbefore
  unfold resetFileStream
  rw [hvalid, if_neg Bool.false_ne_true]
  split
  · rename_i hreuse
    simp only [reuses, Bool.and_eq_true, beq_iff_eq] at hreuse
    obtain ⟨st, hst⟩ := Option.isSome_iff_exists.mp hreuse.2
    have hstream := h.stream st hst
    rw [hreuse.1.2] at hstream
    exact ⟨s, rfl, hreuse.1.2, ⟨st, hst, hstream⟩, hfile, fun _ _ => rfl⟩
  · rename_i hreuse
    have hexists : u.pathExists s.files block.filename = true := by
      simpa [hreuse] using hopen
    rw [if_pos (by rw [hfirst, hexists]; rfl), ← UploadStorage.file_of_pathExists hexists]
    exact ⟨_, rfl, rfl, ⟨_, rfl, rfl, bytes, hfile, Or.inl rfl⟩, hfile, fun _ _ => rfl⟩

/-! ## A block -/

theorem writeBlock_of_nil (hdata : u.base64Decode block.blockData = []) :
    s.writeBlock u block = s := by
  rw [writeBlock, hdata]
  rfl

/-- The bytes of a block are written to the stream, which is closed or left open after them. -/
theorem writeBlock_of_ne_nil {st : Stream (List Name)} (hst : s.fileStream = some st)
    (hdata : u.base64Decode block.blockData ≠ []) :
    (s.writeBlock u block).files = (st.write s.files (u.base64Decode block.blockData)).2 ∧
      (s.writeBlock u block).lastfile = s.lastfile ∧
      ∀ st', (s.writeBlock u block).fileStream = some st' →
        st' = (st.write s.files (u.base64Decode block.blockData)).1 := by
  have hsome : ¬(u.base64Decode block.blockData).isEmpty = true := by
    rwa [List.isEmpty_iff]
  unfold writeBlock
  rw [if_neg hsome]
  simp only [writeToFile, hst]
  split
  · refine ⟨rfl, rfl, ?_⟩
    intro st' hst'
    cases hst'
  · refine ⟨rfl, rfl, ?_⟩
    intro st' hst'
    exact (Option.some.inj hst').symm

/-- A block whose file is ready goes to the end of it. -/
theorem execute_of_ready {s₁ : StreamNode} {bytes : List UInt8}
    (hreset : s.resetFileStream u block.isFirstPackage block.filename block.accumlatedSize =
      some s₁) (hready : Ready u s s₁ block bytes) :
    (s.execute u block).files =
        Function.update s.files (u.file s.files block.filename)
          (some (bytes ++ u.base64Decode block.blockData)) ∧
      ∀ st, (s.execute u block).fileStream = some st →
        st.path = u.file (s.execute u block).files (s.execute u block).lastfile ∧
          st.AtEnd (s.execute u block).files := by
  obtain ⟨st₁, hst₁, hpath, hend⟩ := hready.stream
  have hfiles : s₁.files = Function.update s.files (u.file s.files block.filename) (some bytes) := by
    funext path
    by_cases heq : path = u.file s.files block.filename
    · rw [heq, hready.file, Function.update_self]
    · rw [hready.others path heq, Function.update_of_ne heq]
  -- the name leads to the file all along
  have hsame (bytes : List UInt8) :
      u.file (Function.update s.files (u.file s.files block.filename) (some bytes))
        block.filename = u.file s.files block.filename := u.file_update ..
  have hexecute : s.execute u block = s₁.writeBlock u block := by
    rw [execute, hreset]
  rw [hexecute]
  by_cases hdata : u.base64Decode block.blockData = []
  · rw [writeBlock_of_nil hdata, hdata, List.append_nil]
    refine ⟨hfiles, ?_⟩
    intro st hst
    obtain rfl := Option.some.inj (hst₁.symm.trans hst)
    rw [hready.lastfile, hfiles, hsame, ← hfiles]
    exact ⟨hpath, hend⟩
  · obtain ⟨hwrite, hlast, hstream⟩ := writeBlock_of_ne_nil hst₁ hdata
    have hfile : s₁.files st₁.path = some bytes := hpath ▸ hready.file
    have hwritten : (st₁.write s₁.files (u.base64Decode block.blockData)).2 =
        Function.update s.files (u.file s.files block.filename)
          (some (bytes ++ u.base64Decode block.blockData)) := by
      rw [write_atEnd hfile hend, hfiles, hpath, Function.update_idem]
    rw [hwrite, hlast, hready.lastfile]
    refine ⟨hwritten, ?_⟩
    intro st hst
    obtain rfl := hstream st hst
    refine ⟨?_, atEnd_write hfile hend _⟩
    rw [hwritten, hsame]
    exact hpath

/-- A block that creates its file leaves there `accumlated_size` zeros and its bytes, or nothing. -/
theorem execute_of_creates (hvalid : FileProcessingNode.validFilename block.filename = false)
    (hcreates : s.creates u block = true) :
    (s.execute u block).files = Function.update s.files (u.file s.files block.filename)
      (some (if u.base64Decode block.blockData = [] then []
        else List.replicate block.accumlatedSize 0 ++ u.base64Decode block.blockData)) := by
  rw [execute, resetFileStream_of_creates hvalid hcreates]
  dsimp only
  split
  · rename_i hdata
    rw [writeBlock_of_nil hdata]
    rfl
  · rename_i hdata
    rw [(writeBlock_of_ne_nil rfl hdata).1]
    exact write_behind ..

theorem step_eq_some (h : s.step u block = some s') :
    s.InOrder u block ∧ s' = { s.execute u block with
      sent := Function.update s.sent (u.file s.files block.filename)
        ((s.sentBefore u block).map fun bytes => bytes ++ u.base64Decode block.blockData) } := by
  unfold step at h
  split at h
  · rename_i horder
    exact ⟨horder, (Option.some.inj h).symm⟩
  · cases h

theorem inv_step (h : Inv u s) (hempty : s.CreatesEmpty u block) (hstep : s.step u block = some s') :
    Inv u s' := by
  obtain ⟨horder, rfl⟩ := step_eq_some hstep
  obtain ⟨hvalid, bytes, hbefore, hsize⟩ := inOrder_iff.mp horder
  have hready : ∃ s₁,
      s.resetFileStream u block.isFirstPackage block.filename block.accumlatedSize = some s₁ ∧
        Ready u s s₁ block bytes := by
    by_cases hcreates : s.creates u block = true
    · have hzero := hempty hcreates
      rw [hzero, List.length_append, Nat.add_eq_zero_iff] at hsize
      rw [List.length_eq_zero_iff.mp hsize.1]
      exact ready_of_creates hvalid hcreates hzero
    · exact ready_of_not_creates h hvalid hcreates hbefore
  obtain ⟨s₁, hreset, hready⟩ := hready
  obtain ⟨hfiles, hstream⟩ := execute_of_ready hreset hready
  refine ⟨?_, hstream⟩
  intro path sent hsent
  change (s.execute u block).files path = some sent
  dsimp only at hsent
  rw [hbefore, Option.map_some] at hsent
  rw [hfiles]
  by_cases heq : path = u.file s.files block.filename
  · rw [heq, Function.update_self] at hsent ⊢
    exact hsent
  · rw [Function.update_of_ne heq] at hsent ⊢
    exact h.preserved path sent hsent

theorem not_preserved_of_creates (hbad : ¬s.CreatesEmpty u block)
    (hstep : s.step u block = some s') : ¬Preserved s' := by
  obtain ⟨horder, rfl⟩ := step_eq_some hstep
  obtain ⟨hvalid, bytes, hbefore, hsize⟩ := inOrder_iff.mp horder
  unfold CreatesEmpty at hbad
  push Not at hbad
  obtain ⟨hcreates, hpos⟩ := hbad
  intro hpreserved
  have hkept := hpreserved (u.file s.files block.filename) (bytes ++ u.base64Decode block.blockData) (by
    dsimp only
    rw [Function.update_self, hbefore, Option.map_some])
  have hfile := congrFun (execute_of_creates hvalid hcreates) (u.file s.files block.filename)
  rw [Function.update_self] at hfile
  have hlength := congrArg List.length (Option.some.inj (hfile.symm.trans hkept))
  rw [hsize] at hlength
  split at hlength
  · exact hpos hlength.symm
  · rename_i hdata
    rw [List.length_append, List.length_replicate] at hlength
    have hdata_pos := List.length_pos_iff.mpr hdata
    omega

/-! ## Runs -/

/-- The files are preserved in every state exactly if only empty files are created. -/
theorem always_preserved_iff (u : UploadStorage) (files : Files (List Name))
    (blocks : List SizedBlock) :
    Trace.Always (step u) Preserved (start files) blocks ↔
      Trace.Meets (step u) (CreatesEmpty u) (start files) blocks :=
  Trace.always_iff_meets (Inv u) (fun _ h => h.preserved)
    (fun _ _ _ h hempty hstep => inv_step h hempty hstep)
    (fun _ _ _ _ hbad hstep => not_preserved_of_creates hbad hstep) (inv_start u files) blocks

/-- A server with the files in `/out`, and a decoder of one block. -/
def storage : UploadStorage where
  config :=
    { cwd := []
      outputPath := "/out"
      cwd_clean := by decide
      outputPath_clean := by decide
      outputPath_ne := by decide }
  walks _ := true
  base64Decode text := if text = "QQ==" then [65] else []

/-- The first block of a file of one byte. -/
def oneByte : SizedBlock where
  filename := "a\\b"
  blockData := "QQ=="
  currSequence := "1"
  isEOF := "1"
  accumlatedSize := 1

/-- The file gets a zero before the byte. -/
theorem not_preserved_oneByte :
    ¬Trace.Always (step storage) Preserved (start fun _ => none) [oneByte] := by
  intro h
  have hstep : (step storage (start fun _ => none) oneByte).isSome = true := by decide
  obtain ⟨s', hs'⟩ := Option.isSome_iff_exists.mp hstep
  have hbad : ¬(start fun _ => none).CreatesEmpty storage oneByte := fun hempty =>
    absurd (hempty rfl) (by decide)
  exact not_preserved_of_creates hbad hs' (h.2 s' hs')

end StreamNode

end DistributedIM.ResourcesServer
