/-
  Which files an upload creates or writes: `SyncLogic::handlingFileUploading`, which joins the
  name to `outputPath` without looking at it, and `FileProcessingNode`, which does look at it, the
  wrong way round: `resetFileStream` refuses the names for which `validFilename` holds.

  Paths are POSIX paths over a tree without symbolic links (`Lib.FilePath`), and a name is any
  string. The tree may be another one at every block; it only has to leave room for `outputPath`.
  Of the system calls, the tree says which can succeed and `Io` which of these do.

  `uploadPaths_iff`: what each of the two writes for a name lies directly inside `outputPath`
  exactly if the name leads nowhere but there, to a directory on the way to it, or to no file at
  all; `FileProcessingNode` writes nothing for the other names only where `validFilename` holds,
  and accepts a block exactly if it does not. A name with a NUL can lead to two files: `foundPath`,
  where the system calls see the path end, and `madePath`, where the canonical form of the whole
  leads if nothing is there. For all other names they are one (`staysInside_iff_of_clean`).

  Not modelled: the message up to its fields; seek positions; the queue of the node.
-/
import DistributedIM.Lib.FilePath
import DistributedIM.Lib.Text
import DistributedIM.Lib.Trace
import Mathlib.Data.List.Infix

namespace DistributedIM.ResourcesServer

open FilePath

/-! ## Paths -/

/-- `outputPath` of `ServerConfig`, and the working directory of the server. -/
structure UploadConfig where
  cwd : List Name
  outputPath : String
  cwd_clean : ∀ n ∈ cwd, '\x00' ∉ n
  outputPath_clean : '\x00' ∉ outputPath.toList
  outputPath_ne : outputPath ≠ ""

namespace UploadConfig

/-- `output_dir` -/
def outputDir (c : UploadConfig) : List Name :=
  absolute c.cwd c.outputPath.toList

/-- `output_dir / filename` -/
def fullPath (c : UploadConfig) (filename : String) : List Name :=
  absolute c.cwd (append c.outputPath.toList filename.toList)

/-- What the system calls see of `output_dir / filename`. -/
def foundPath (c : UploadConfig) (filename : String) : List Name :=
  cString (c.fullPath filename)

/-- What they see of the canonical form where nothing is found. -/
def madePath (c : UploadConfig) (filename : String) : List Name :=
  cString (lexicallyNormal (c.fullPath filename))

/-- The file is an entry of `outputPath` itself. -/
def DirectlyInside (c : UploadConfig) (path : List Name) : Prop :=
  path.dropLast = normal [] c.outputDir ∧ path ≠ []

instance (c : UploadConfig) : DecidablePred c.DirectlyInside := fun _ =>
  inferInstanceAs (Decidable (_ ∧ _))

end UploadConfig

/-- The files of the server, when a block comes: no file stands where `outputPath` has to be. -/
structure Disk (c : UploadConfig) where
  tree : Tree
  room : ∀ p ∈ trail [] c.outputDir, tree.isFile p = false

/-- The outcomes of the system calls that the tree leaves open. -/
structure Io where
  created : Bool
  canonical : Bool
  opened : Bool
  written : Bool
  deriving DecidableEq, Repr

/-- The stream opens the path. -/
def Io.openForWrite (io : Io) (t : Tree) (path : List Name) : Option (List Name) :=
  if io.opened then t.openForWrite path else none

inductive FileAction
  | opened (path : List Name) (truncates : Bool)
  | wrote (path : List Name) (data : List UInt8)
  deriving DecidableEq

def FileAction.path : FileAction → List Name
  | .opened path _ => path
  | .wrote path _ => path

/-- The tree once `output_dir` is there; none: it cannot be created. -/
def prepared {c : UploadConfig} (disk : Disk c) (io : Io) : Option Tree :=
  if disk.tree.pathExists c.outputDir then some disk.tree
  else if io.created then disk.tree.createDirectories [] c.outputDir
  else none

/-! ## `SyncLogic::handlingFileUploading` -/

/-- The fields of the request. -/
structure UploadFields where
  filename : String
  checksum : String
  fileSize : String
  block : String
  curSize : String
  curSeq : String
  lastSeq : String
  eof : String
  deriving DecidableEq, Repr

/-- The statuses of `ServiceStatus` that the handler answers with. -/
inductive UploadStatus
  | fileUploadError
  | fileCreateError
  | fileOpenError
  | fileWriteError
  deriving DecidableEq, Repr

inductive UploadReply
  | error (message : String) (status : UploadStatus)
  | success (filename currSeq currSize totalSize : String) (eof : Bool)
  deriving DecidableEq, Repr

section

variable (base64Unescape : String → List UInt8) {c : UploadConfig}

def handlingFileUploading (disk : Disk c) (io : Io) (src : UploadFields) :
    UploadReply × List FileAction :=
  match Text.readUInt64 src.curSize, Text.readUInt64 src.fileSize with
  | some curSize, some totalSize =>
    match prepared disk io with
    | none => (.error "Directory Creation Failed" .fileCreateError, [])
    | some t =>
      if !io.canonical then (.error "Path Canonicalization Error" .fileCreateError, [])
      else
        let isFirstPackage := src.curSeq == "1"
        let blockData := base64Unescape src.block
        match io.openForWrite t (t.weaklyCanonical (c.fullPath src.filename)) with
        | none =>
          (if isFirstPackage then .error "File Created Error" .fileCreateError
            else .error "File Opened Error" .fileOpenError, [])
        | some path =>
          let actions := [.opened path isFirstPackage, .wrote path blockData]
          if !io.written then (.error "File Write Error" .fileWriteError, actions)
          else
            (.success src.filename src.curSeq curSize.repr totalSize.repr (src.eof == "1"), actions)
  | _, _ => (.error "Internel Server Error" .fileUploadError, [])

/-! ## `FileProcessingNode` -/

/-- What the node reads of a `FileDescriptionBlock`. -/
structure FileDescriptionBlock where
  filename : String
  blockData : String
  currSequence : String
  isEOF : String
  deriving DecidableEq, Repr

structure FileProcessingNode where
  lastfile : String
  /-- the file that `m_fileStream` has open -/
  fileStream : Option (List Name)
  /-- a write has made `m_fileStream` throw from then on -/
  throws : Bool
  deriving DecidableEq

/-- How `resetFileStream` ends; each but the first is a `return false`. -/
inductive ResetResult
  | ready
  | illegalFilename
  | notPrepared
  | notOpened
  deriving DecidableEq, Repr

namespace FileProcessingNode

def init : FileProcessingNode where
  lastfile := ""
  fileStream := none
  throws := false

def validFilename (name : String) : Bool :=
  !decide (['.', '.'] <:+: name.toList) && !name.toList.contains '/' && !name.toList.contains '\\'

def closeCurrentFile (s : FileProcessingNode) : FileProcessingNode :=
  { s with fileStream := none }

/-- `openFile` and what `resetFileStream` does after it; none: the stream throws, and nothing
    catches it. -/
def openFile (s : FileProcessingNode) (t : Tree) (io : Io) (path : List Name) (filename : String)
    (truncates : Bool) : Option (FileProcessingNode × ResetResult × List FileAction) :=
  match io.openForWrite t path with
  | some p =>
    some ({ s with fileStream := some p, lastfile := filename }, .ready, [.opened p truncates])
  | none => if s.throws then none else some (s, .notOpened, [])

/-- The tree and the canonical path; none: an error of one of the calls. -/
def resolveAndPreparePath (disk : Disk c) (io : Io) (filename : String) :
    Option (Tree × List Name) :=
  match prepared disk io with
  | none => none
  | some t => if io.canonical then some (t, t.weaklyCanonical (c.fullPath filename)) else none

def resetFileStream (s : FileProcessingNode) (disk : Disk c) (io : Io) (isFirstPackage : Bool)
    (filename : String) : Option (FileProcessingNode × ResetResult × List FileAction) :=
  if validFilename filename then some (s, .illegalFilename, [])
  else if !isFirstPackage && s.lastfile == filename && s.fileStream.isSome then
    some (s, .ready, [])
  else
    let s := if isFirstPackage then s else s.closeCurrentFile
    if !isFirstPackage && disk.tree.pathExists (c.fullPath filename) then
      s.openFile disk.tree io (c.fullPath filename) filename false
    else
      match resolveAndPreparePath disk io filename with
      | none => some (s, .notPrepared, [])
      | some (t, path) => s.closeCurrentFile.openFile t io path filename true

def writeToFile (s : FileProcessingNode) (io : Io) (content : List UInt8) :
    FileProcessingNode × Bool × List FileAction :=
  match s.fileStream with
  | none => (s, false, [])
  | some path => ({ s with throws := true }, io.written, [.wrote path content])

/-- The node after the block and the files it touched; none: an exception ends the server. -/
def execute (s : FileProcessingNode) (disk : Disk c) (io : Io) (block : FileDescriptionBlock) :
    Option (FileProcessingNode × List FileAction) :=
  match s.resetFileStream disk io (block.currSequence == "1") block.filename with
  | none => none
  | some (s, .ready, opened) =>
    let blockData := base64Unescape block.blockData
    if blockData.isEmpty then some (s, opened)
    else
      let (s, written, wrote) := s.writeToFile io blockData
      some (if written && block.isEOF == "1" then s.closeCurrentFile else s, opened ++ wrote)
  | some (s, _, opened) => some (s, opened)

end FileProcessingNode

/-! ## What is to hold -/

/-- Every file touched lies directly inside `outputPath`. -/
def Confined (c : UploadConfig) (actions : List FileAction) : Prop :=
  ∀ a ∈ actions, c.DirectlyInside a.path

/-- `handlingFileUploading` is confined on every request with the name. -/
def UploadConfined (c : UploadConfig) (name : String) : Prop :=
  ∀ (disk : Disk c) (io : Io) (src : UploadFields), src.filename = name →
    Confined c (handlingFileUploading base64Unescape disk io src).2

namespace FileProcessingNode

/-- A block reaches the node. -/
structure Event (c : UploadConfig) where
  disk : Disk c
  io : Io
  block : FileDescriptionBlock

def step (s : FileProcessingNode) (e : Event c) : Option FileProcessingNode :=
  (s.execute base64Unescape e.disk e.io e.block).map Prod.fst

/-- After any blocks, `execute` is confined on every block with the name. -/
def NodeConfined (c : UploadConfig) (name : String) : Prop :=
  ∀ s, Trace.Reaches (step base64Unescape (c := c)) init s →
    ∀ (disk : Disk c) (io : Io) (block : FileDescriptionBlock), block.filename = name →
      ∀ r, s.execute base64Unescape disk io block = some r → Confined c r.2

/-- The node accepts blocks with the name exactly if `validFilename` holds. -/
def AcceptsValid (c : UploadConfig) (name : String) : Prop :=
  ∀ (s : FileProcessingNode) (disk : Disk c) (io : Io) (isFirstPackage : Bool) r,
    s.resetFileStream disk io isFirstPackage name = some r →
      (r.2.1 ≠ .illegalFilename ↔ validFilename name = true)

end FileProcessingNode

end

namespace UploadConfig

/-- The path can be that of a file: it does not end like a directory's (empty, `.`, `..`, a trailing
    separator), and is neither on the way to `outputPath` nor to itself. -/
def NamesFile (c : UploadConfig) (path : List Name) : Prop :=
  endsInName path = true ∧ normal [] path ∉ trail [] c.outputDir ∧
    normal [] path ∉ trail [] path.dropLast

instance (c : UploadConfig) : DecidablePred c.NamesFile := fun _ =>
  inferInstanceAs (Decidable (_ ∧ _ ∧ _))

/-- A file can be there under the name. -/
def MayFind (c : UploadConfig) (name : String) : Prop :=
  c.NamesFile (c.foundPath name)

/-- The canonical form can be that of a file while nothing is there under the name. -/
def MayMake (c : UploadConfig) (name : String) : Prop :=
  c.NamesFile (c.madePath name) ∧
    ∃ d ∈ trail [] (c.foundPath name),
      d ∉ trail [] c.outputDir ∧ d ∉ trail [] (c.madePath name).dropLast

instance (c : UploadConfig) : DecidablePred c.MayFind := fun _ =>
  inferInstanceAs (Decidable (c.NamesFile _))

instance (c : UploadConfig) : DecidablePred c.MayMake := fun _ =>
  inferInstanceAs (Decidable (_ ∧ _))

/-- The files that the name can lead to are directly inside. -/
def StaysInside (c : UploadConfig) (name : String) : Prop :=
  (c.MayFind name → c.DirectlyInside (normal [] (c.foundPath name))) ∧
    (c.MayMake name → c.DirectlyInside (normal [] (c.madePath name)))

instance (c : UploadConfig) : DecidablePred c.StaysInside := fun _ =>
  inferInstanceAs (Decidable ((_ → _) ∧ (_ → _)))

/-- The file is one that the name leads to. -/
def Names (c : UploadConfig) (name : String) (path : List Name) : Prop :=
  path = normal [] (c.foundPath name) ∨ path = normal [] (c.madePath name)

instance (c : UploadConfig) (name : String) : DecidablePred (c.Names name) := fun _ =>
  inferInstanceAs (Decidable (_ ∨ _))

/-- The path is that of a file that opening the name can open. -/
inductive Opens (c : UploadConfig) (name : String) (path : List Name) : Prop
  | found (can : c.MayFind name) (path_eq : path = normal [] (c.foundPath name))
  | made (can : c.MayMake name) (path_eq : path = normal [] (c.madePath name))

variable {c : UploadConfig}

theorem Opens.names {name : String} {path : List Name} (h : c.Opens name path) :
    c.Names name path := by
  cases h with
  | found _ heq => exact Or.inl heq
  | made _ heq => exact Or.inr heq

theorem directlyInside_of_opens {name : String} {path : List Name} (h : c.Opens name path)
    (hinside : c.StaysInside name) : c.DirectlyInside path := by
  cases h with
  | found hcan heq => exact heq ▸ hinside.1 hcan
  | made hcan heq => exact heq ▸ hinside.2 hcan

theorem clean_outputDir (c : UploadConfig) : ∀ n ∈ c.outputDir, '\x00' ∉ n :=
  clean_absolute c.cwd_clean c.outputPath_clean

theorem madePath_eq_of_clean {name : String} (hclean : ∀ n ∈ c.fullPath name, '\x00' ∉ n) :
    c.madePath name = lexicallyNormal (c.fullPath name) := by
  apply cString_of_clean
  intro n hn
  rcases List.mem_append.mp hn with hn | hn
  · exact clean_normal (List.forall_mem_nil _) hclean n hn
  · split at hn
    · cases hn
    · rw [List.mem_singleton.mp hn]
      exact List.not_mem_nil

theorem not_namesFile_lexicallyNormal {ns : List Name} (h : endsInName ns = false) :
    ¬ c.NamesFile (lexicallyNormal ns) := by
  rintro ⟨hends, -, -⟩
  rw [lexicallyNormal, h, if_neg Bool.false_ne_true] at hends
  simp [endsInName, isPlain] at hends

/-- A name without NUL leads to no file, to a directory on the way to `outputPath`, or to a file
    directly inside. -/
theorem staysInside_iff_of_clean {name : String} (hname : '\x00' ∉ name.toList) :
    c.StaysInside name ↔ endsInName (c.fullPath name) = false ∨
      normal [] (c.fullPath name) ∈ trail [] c.outputDir ∨
        c.DirectlyInside (normal [] (c.fullPath name)) := by
  have hclean : ∀ n ∈ c.fullPath name, '\x00' ∉ n := by
    apply clean_absolute c.cwd_clean
    unfold append
    split
    · exact hname
    · split <;> simp [hname, c.outputPath_clean]
  have hfound : c.foundPath name = c.fullPath name := cString_of_clean hclean
  have hmade := madePath_eq_of_clean hclean
  unfold StaysInside
  cases hends : endsInName (c.fullPath name) with
  | false =>
    refine iff_of_true ⟨fun hcan => ?_, fun hcan => ?_⟩ (Or.inl rfl)
    · have hfalse := hcan.1
      rw [hfound, hends] at hfalse
      cases hfalse
    · exact absurd (hmade ▸ hcan.1) (not_namesFile_lexicallyNormal hends)
  | true =>
    have hlexical : lexicallyNormal (c.fullPath name) = normal [] (c.fullPath name) := by
      rw [lexicallyNormal, hends]
      exact List.append_nil _
    rw [MayMake, MayFind, hfound, hmade, hlexical, normal_normal]
    constructor
    · rintro ⟨-, hinside⟩
      by_contra hnot
      rw [not_or, not_or] at hnot
      obtain ⟨ms, n, hms, hn⟩ := endsInName_iff.mp hends
      have heq : normal [] (c.fullPath name) = normal [] ms ++ [n] := by
        rw [hms, normal_concat [] ms hn]
      have hlong : normal [] (c.fullPath name) ∉
          trail [] (normal [] (c.fullPath name)).dropLast := by
        intro hmem
        have hlength := length_of_mem_trail hmem
        rw [heq, List.dropLast_concat, List.length_append, List.length_singleton,
          List.length_nil] at hlength
        omega
      refine hnot.2.2 (hinside ⟨⟨endsInName_iff.mpr ⟨_, n, heq, hn⟩, ?_, ?_⟩, _,
        normal_mem_trail [] _, hnot.2.1, hlong⟩)
      · rw [normal_normal]
        exact hnot.2.1
      · rw [normal_normal]
        exact hlong
    · rintro (hfalse | hway | hinside)
      · cases hfalse
      · refine ⟨fun hcan => absurd hway hcan.2.1, fun hcan => absurd hway ?_⟩
        have hnot := hcan.1.2.1
        rwa [normal_normal] at hnot
      · exact ⟨fun _ => hinside, fun _ => hinside⟩

/-- A valid name is the name of a file directly inside, or of no file. -/
theorem staysInside_of_validFilename {name : String}
    (h : FileProcessingNode.validFilename name = true) : c.StaysInside name := by
  simp only [FileProcessingNode.validFilename, Bool.and_eq_true, Bool.not_eq_true'] at h
  have hslash : '/' ∉ name.toList := by
    simpa using h.1.2
  obtain ⟨ms, hfull, hdir, hsub⟩ := absolute_append c.cwd c.outputPath.toList hslash
  change c.fullPath name = _ at hfull
  change normal [] c.outputDir = _ at hdir
  have hclean : ∀ n ∈ ms, '\x00' ∉ n := fun n hn => c.clean_outputDir n (hsub hn)
  -- a path that ends in a name after `ms`
  have hinside {d : List Name} {n : Name} (hd : normal [] d = normal [] c.outputDir)
      (hcan : endsInName (d ++ [n]) = true) : c.DirectlyInside (normal [] (d ++ [n])) := by
    have hn : isPlain n = true := by simpa [endsInName] using hcan
    rw [normal_concat [] d hn, hd]
    exact ⟨List.dropLast_concat, by simp⟩
  refine ⟨fun hcan => ?_, fun hcan => ?_⟩
  · have hpath : c.foundPath name = ms ++ [name.toList.takeWhile (· ≠ '\x00')] := by
      rw [foundPath, hfull, cString_append_of_clean hclean, cString_singleton]
    rw [MayFind, hpath] at hcan
    rw [hpath]
    exact hinside hdir.symm hcan.1
  · cases hends : endsInName (c.fullPath name) with
    | false =>
      have hplain : isPlain name.toList = false := by
        simpa [hfull, endsInName] using hends
      have hname : '\x00' ∉ name.toList := by
        simp only [isPlain, Bool.not_eq_false', Bool.or_eq_true, decide_eq_true_eq] at hplain
        rcases hplain with (heq | heq) | heq <;>
        · rw [heq]
          decide
      have hfullClean : ∀ n ∈ c.fullPath name, '\x00' ∉ n := by
        intro n hn
        rw [hfull, List.mem_append, List.mem_singleton] at hn
        rcases hn with hn | rfl
        · exact hclean n hn
        · exact hname
      have hcan := hcan.1
      rw [madePath_eq_of_clean hfullClean] at hcan
      exact absurd hcan (not_namesFile_lexicallyNormal hends)
    | true =>
      have hplain : isPlain name.toList = true := by
        simpa [hfull, endsInName] using hends
      have hpath : c.madePath name = normal [] ms ++ [name.toList.takeWhile (· ≠ '\x00')] := by
        rw [madePath, lexicallyNormal, hends, if_pos rfl, List.append_nil, hfull,
          normal_concat [] ms hplain,
          cString_append_of_clean (clean_normal (List.forall_mem_nil _) hclean), cString_singleton]
      have hcan := hcan.1.1
      rw [hpath] at hcan ⊢
      exact hinside ((normal_normal ms).trans hdir.symm) hcan

/-! ## What a name opens -/

theorem openForWrite_of_io {io : Io} {t : Tree} {path : List Name} {p : List Name}
    (h : io.openForWrite t path = some p) : t.openForWrite path = some p := by
  unfold Io.openForWrite at h
  split at h
  · exact h
  · cases h

/-- Once `output_dir` is prepared, all that leads to it is a directory. -/
theorem isDirectory_of_prepared {disk : Disk c} {io : Io} {t : Tree}
    (h : prepared disk io = some t) : ∀ p ∈ trail [] c.outputDir, t.isDirectory p = true := by
  intro p hp
  unfold prepared at h
  split at h
  · rename_i hexists
    obtain rfl := Option.some.inj h
    obtain ⟨q, hq⟩ := Option.isSome_iff_exists.mp hexists
    rw [cString_of_clean c.clean_outputDir] at hq
    have hpresent := Tree.present_of_walk (by simp [Tree.present, disk.tree.root]) hq p hp
    rw [Tree.present, disk.room p hp, Bool.or_false] at hpresent
    exact hpresent
  · split at h
    · exact (Tree.createDirectories_spec disk.tree.root h).1 p (Or.inl hp)
    · cases h

/-- A file that is there under the name is one that it opens: no file is on the way to
    `outputPath`. -/
theorem opens_of_walk {t : Tree} {name : String} {p : List Name}
    (hroom : ∀ p ∈ trail [] c.outputDir, t.isFile p = false)
    (hwalk : t.walk [] (c.foundPath name) = some p) (hp : t.isDirectory p = false) :
    c.Opens name p := by
  obtain rfl := Tree.walk_eq_some hwalk
  have hends : endsInName (c.foundPath name) = true := by
    by_contra hnot
    rw [Tree.isDirectory_of_walk hwalk (by simpa using hnot)] at hp
    cases hp
  refine .found ⟨hends, fun hway => ?_, fun hway => ?_⟩ rfl
  · have hpresent := Tree.present_of_walk (by simp [Tree.present, t.root]) hwalk _
      (normal_mem_trail [] _)
    rw [Tree.present, hroom _ hway, hp] at hpresent
    cases hpresent
  · -- all that the walk goes through before its end is a directory
    obtain ⟨ms, n, hms, -⟩ := endsInName_iff.mp hends
    have hlast := hwalk
    rw [hms, Tree.walk_append] at hlast
    obtain ⟨d, hd, hlast⟩ := Option.bind_eq_some_iff.mp hlast
    have hdir : t.isDirectory d = true := by
      simp only [Tree.walk] at hlast
      split at hlast
      · rename_i hstep
        rw [Bool.and_eq_true] at hstep
        exact hstep.1
      · cases hlast
    have hway' : normal [] (c.foundPath name) ∈ trail [] ms := by
      have hdrop : (c.foundPath name).dropLast = ms := by rw [hms, List.dropLast_concat]
      rwa [hdrop] at hway
    rw [Tree.isDirectory_of_mem_trail hd hdir _ hway'] at hp
    cases hp

theorem opens_weaklyCanonical {disk : Disk c} {io : Io} {t : Tree} {name : String}
    {p : List Name} (hprepared : prepared disk io = some t)
    (h : io.openForWrite t (t.weaklyCanonical (c.fullPath name)) = some p) : c.Opens name p := by
  have hdirs := isDirectory_of_prepared hprepared
  rcases Tree.openForWrite_weaklyCanonical_eq_some (openForWrite_of_io h) with
    ⟨hwalk, hp⟩ | ⟨hwalk, hopen⟩
  · exact opens_of_walk (fun q hq => t.disjoint q (hdirs q hq)) hwalk hp
  · obtain ⟨ms, n, hpath, hn, rfl, hms, hdir, hfree⟩ := Tree.openForWrite_eq_some hopen
    change c.madePath name = ms ++ [n] at hpath
    have hways : ∀ q ∈ trail [] ms, t.isDirectory q = true :=
      Tree.isDirectory_of_mem_trail hms hdir
    have hdrop : (c.madePath name).dropLast = ms := by rw [hpath, List.dropLast_concat]
    refine .made ⟨⟨endsInName_iff.mpr ⟨ms, n, hpath, hn⟩, fun hway => ?_, fun hway => ?_⟩, ?_⟩ rfl
    · rw [madePath] at hway
      rw [hdirs _ hway] at hfree
      cases hfree
    · rw [hdrop] at hway
      rw [madePath] at hway
      rw [hways _ hway] at hfree
      cases hfree
    · -- with all these directories the name would lead somewhere
      by_contra hnot
      push Not at hnot
      have hall : ∀ q ∈ trail [] (c.foundPath name), t.isDirectory q = true := by
        intro q hq
        by_cases hout : q ∈ trail [] c.outputDir
        · exact hdirs q hout
        · exact hways q (hdrop ▸ hnot q hq hout)
      have hsome := Tree.walk_of_trail hall
      rw [foundPath, hwalk] at hsome
      cases hsome

/-- A file that is there is not on the way to `outputPath`. -/
theorem opens_fullPath {disk : Disk c} {io : Io} {name : String} {p : List Name}
    (hexists : disk.tree.pathExists (c.fullPath name) = true)
    (h : io.openForWrite disk.tree (c.fullPath name) = some p) : c.Opens name p := by
  obtain ⟨ms, n, -, -, rfl, -, -, hfree⟩ := Tree.openForWrite_eq_some (openForWrite_of_io h)
  obtain ⟨q, hq⟩ := Option.isSome_iff_exists.mp hexists
  obtain rfl := Tree.walk_eq_some hq
  exact opens_of_walk disk.room hq hfree

/-- `outputPath` is there, and the canonical form of the name opens the file. -/
structure OpensOn (disk : Disk c) (name : String) (path : List Name) : Prop where
  prepared_eq : ∀ io, prepared disk io = some disk.tree
  opens : disk.tree.openForWrite (disk.tree.weaklyCanonical (c.fullPath name)) = some path

theorem prepared_of_trail {disk : Disk c}
    (h : ∀ p ∈ trail [] c.outputDir, disk.tree.isDirectory p = true) (io : Io) :
    prepared disk io = some disk.tree := by
  refine if_pos ?_
  rw [Tree.pathExists, cString_of_clean c.clean_outputDir, Tree.walk_of_trail h]
  rfl

/-- A file is there under the name, and no more than has to be. -/
theorem exists_opensOn_of_mayFind {name : String} (h : c.MayFind name) :
    ∃ disk : Disk c, OpensOn disk name (normal [] (c.foundPath name)) := by
  obtain ⟨hends, hout, hself⟩ := h
  obtain ⟨ms, n, hpath, hn⟩ := endsInName_iff.mp hends
  have hp : normal [] (c.foundPath name) = normal [] ms ++ [n] := by
    rw [hpath, normal_concat [] ms hn]
  have hplain := isPlain_normal (List.forall_mem_nil _) (c.foundPath name)
  have hclean := clean_normal (List.forall_mem_nil _) (clean_cString (c.fullPath name))
  change ∀ m ∈ normal [] (c.foundPath name), _ at hclean
  have hdrop : (c.foundPath name).dropLast = ms := by rw [hpath, List.dropLast_concat]
  rw [hp] at hout hself hplain hclean ⊢
  rw [hdrop] at hself
  let t := Tree.ofTrails c.outputDir ms
  have hd : t.isDirectory (normal [] ms) = true := by
    simp [t, Tree.ofTrails, normal_mem_trail [] ms]
  have hfree : t.isDirectory (normal [] ms ++ [n]) = false := by
    simp [t, Tree.ofTrails, hout, hself]
  let disk : Disk c :=
    { tree := t.putFile (normal [] ms) n hd hfree
      room := by
        intro q hq
        have hne : q ≠ normal [] ms ++ [n] := fun heq => hout (heq ▸ hq)
        simp [Tree.putFile, t, Tree.ofTrails, hne] }
  have hfile : disk.tree.isFile (normal [] ms ++ [n]) = true := by
    simp [disk, Tree.putFile]
  have hwalk : disk.tree.walk [] (c.foundPath name) = some (normal [] ms ++ [n]) := by
    have hms : disk.tree.walk [] ms = some (normal [] ms) := by
      apply Tree.walk_of_trail
      intro q hq
      simp [disk, Tree.putFile, t, Tree.ofTrails, hq]
    have hdir : disk.tree.isDirectory (normal [] ms) = true := hd
    rw [hpath, Tree.walk_append, hms, Option.bind_some, Tree.walk, push_of_isPlain _ hn, if_pos]
    · rfl
    · simp [hdir, Tree.present, hfile]
  refine ⟨disk, prepared_of_trail fun q hq => ?_, ?_⟩
  · simp [disk, Tree.putFile, t, Tree.ofTrails, hq]
  · rw [Tree.weaklyCanonical_of_walk hwalk]
    exact Tree.openForWrite_of_present hclean hplain hfile

/-- Nothing is there under the name, and the way to its canonical form is. -/
theorem exists_opensOn_of_mayMake {name : String} (h : c.MayMake name) :
    ∃ disk : Disk c, OpensOn disk name (normal [] (c.madePath name)) := by
  obtain ⟨⟨hends, hout, hself⟩, d, hd, hdout, hdself⟩ := h
  obtain ⟨ms, n, hpath, hn⟩ := endsInName_iff.mp hends
  have hdrop : (c.madePath name).dropLast = ms := by rw [hpath, List.dropLast_concat]
  rw [hdrop] at hself hdself
  let disk : Disk c :=
    { tree := Tree.ofTrails c.outputDir ms
      room := fun _ _ => rfl }
  have hnowhere : disk.tree.walk [] (c.foundPath name) = none := by
    by_contra hsome
    obtain ⟨q, hq⟩ := Option.ne_none_iff_exists'.mp hsome
    have hpresent := Tree.present_of_walk (by simp [Tree.present, disk.tree.root]) hq d hd
    simp [disk, Tree.present, Tree.ofTrails, hdout, hdself] at hpresent
  refine ⟨disk, prepared_of_trail fun q hq => ?_, ?_⟩
  · simp [disk, Tree.ofTrails, hq]
  · rw [Tree.weaklyCanonical_of_not_walk hnowhere]
    apply Tree.openForWrite_of_walk hpath hn
    · apply Tree.walk_of_trail
      intro q hq
      simp [disk, Tree.ofTrails, hq]
    · simp [disk, Tree.ofTrails, normal_mem_trail [] ms]
    · change disk.tree.isDirectory (normal [] (c.madePath name)) = false
      simp [disk, Tree.ofTrails, hout, hself]

theorem exists_opensOn_outside {name : String} (h : ¬ c.StaysInside name) :
    ∃ (disk : Disk c) (path : List Name),
      OpensOn disk name path ∧ ¬ c.DirectlyInside path := by
  unfold StaysInside at h
  rw [not_and_or, Classical.not_imp, Classical.not_imp] at h
  rcases h with ⟨hcan, houtside⟩ | ⟨hcan, houtside⟩
  · obtain ⟨disk, hopens⟩ := exists_opensOn_of_mayFind hcan
    exact ⟨disk, _, hopens, houtside⟩
  · obtain ⟨disk, hopens⟩ := exists_opensOn_of_mayMake hcan
    exact ⟨disk, _, hopens, houtside⟩

/-- A disk with `outputPath` on it. -/
def outputDisk (c : UploadConfig) : Disk c where
  tree := Tree.ofTrails c.outputDir []
  room _ _ := rfl

end UploadConfig

open UploadConfig

variable {c : UploadConfig}

/-- Every system call succeeds. -/
def Io.smooth : Io where
  created := true
  canonical := true
  opened := true
  written := true

section

variable (base64Unescape : String → List UInt8)

/-! ## `SyncLogic::handlingFileUploading` -/

theorem uploadConfined_iff (c : UploadConfig) (name : String) :
    UploadConfined base64Unescape c name ↔ c.StaysInside name := by
  constructor
  · intro h
    by_contra hleaves
    obtain ⟨disk, path, hopens, houtside⟩ := exists_opensOn_outside hleaves
    let src : UploadFields := ⟨name, "", "0", "", "0", "1", "1", "1"⟩
    have hopened : FileAction.opened path true ∈
        (handlingFileUploading base64Unescape disk .smooth src).2 := by
      have hsize : Text.readUInt64 "0" = some 0 := by decide
      simp [handlingFileUploading, src, hsize, hopens.prepared_eq, Io.openForWrite, Io.smooth,
        hopens.opens]
    exact houtside (h disk .smooth src rfl _ hopened)
  · rintro hinside disk io src rfl a ha
    unfold handlingFileUploading at ha
    split at ha
    · split at ha
      · cases ha
      · rename_i t hprepared
        split at ha
        · cases ha
        · split at ha
          · cases ha
          · rename_i path hopen
            have hpath : a.path = path := by
              dsimp only at ha
              split at ha <;>
              · rcases List.mem_cons.mp ha with rfl | ha
                · rfl
                · rw [List.mem_singleton.mp ha]
                  rfl
            rw [hpath]
            exact directlyInside_of_opens (opens_weaklyCanonical hprepared hopen) hinside
    · cases ha

/-! ## `FileProcessingNode` -/

namespace FileProcessingNode

/-- The open file is the one that the name of the last block opens. -/
def Stands (c : UploadConfig) (s : FileProcessingNode) : Prop :=
  ∀ p, s.fileStream = some p → c.Opens s.lastfile p

theorem stands_closed {s : FileProcessingNode} (h : s.fileStream = none) : Stands c s := by
  intro p hp
  rw [h] at hp
  cases hp

/-- What `resetFileStream` leaves: the file of the name is open if it is ready, and nothing else
    has been touched. -/
structure Reset (c : UploadConfig) (name : String)
    (r : FileProcessingNode × ResetResult × List FileAction) : Prop where
  stands : Stands c r.1
  lastfile : r.2.1 = .ready → r.1.lastfile = name
  touched : ∀ a ∈ r.2.2, c.Opens name a.path

theorem reset_unready {s : FileProcessingNode} {result : ResetResult} {name : String}
    (h : Stands c s) (hready : result ≠ .ready) : Reset c name (s, result, []) where
  stands := h
  lastfile hresult := absurd hresult hready
  touched a ha := by cases ha

theorem reset_openFile {s : FileProcessingNode} {t : Tree} {io : Io} {path : List Name}
    {name : String} {truncates : Bool} {r : FileProcessingNode × ResetResult × List FileAction}
    (hclosed : s.fileStream = none)
    (hopens : ∀ p, io.openForWrite t path = some p → c.Opens name p)
    (h : s.openFile t io path name truncates = some r) : Reset c name r := by
  unfold openFile at h
  split at h
  · rename_i p hp
    obtain rfl := Option.some.inj h
    constructor
    · intro q hq
      obtain rfl := Option.some.inj hq
      exact hopens p hp
    · intro _
      rfl
    · intro a ha
      rw [List.mem_singleton.mp ha]
      exact hopens p hp
  · split at h
    · cases h
    · obtain rfl := Option.some.inj h
      exact reset_unready (stands_closed hclosed) (by decide)

theorem reset_resetFileStream {s : FileProcessingNode} {disk : Disk c} {io : Io}
    {isFirstPackage : Bool} {name : String}
    {r : FileProcessingNode × ResetResult × List FileAction} (h : Stands c s)
    (hr : s.resetFileStream disk io isFirstPackage name = some r) : Reset c name r := by
  unfold resetFileStream at hr
  split at hr
  · obtain rfl := Option.some.inj hr
    exact reset_unready h (by decide)
  · split at hr
    · rename_i hreuse
      obtain rfl := Option.some.inj hr
      simp only [Bool.and_eq_true, beq_iff_eq] at hreuse
      exact ⟨h, fun _ => hreuse.1.2, fun a ha => by cases ha⟩
    · dsimp only at hr
      split at hr
      · rename_i hexists
        simp only [Bool.and_eq_true, Bool.not_eq_true'] at hexists
        rw [hexists.1] at hr
        exact reset_openFile rfl (fun p => opens_fullPath hexists.2) hr
      · split at hr
        · obtain rfl := Option.some.inj hr
          refine reset_unready ?_ (by decide)
          split
          · exact h
          · exact stands_closed rfl
        · rename_i t path hprepare
          unfold resolveAndPreparePath at hprepare
          split at hprepare
          · cases hprepare
          · rename_i t' hprepared
            split at hprepare
            · obtain ⟨rfl, rfl⟩ := Prod.mk.inj (Option.some.inj hprepare)
              exact reset_openFile rfl (fun p => opens_weaklyCanonical hprepared) hr
            · cases hprepare

/-- A block touches the file that its name opens and no other. -/
theorem execute_spec {s : FileProcessingNode} {disk : Disk c} {io : Io}
    {block : FileDescriptionBlock} {r : FileProcessingNode × List FileAction} (h : Stands c s)
    (hr : s.execute base64Unescape disk io block = some r) :
    Stands c r.1 ∧ ∀ a ∈ r.2, c.Opens block.filename a.path := by
  unfold execute at hr
  split at hr
  · cases hr
  · rename_i s' opened hreset
    have hspec := reset_resetFileStream h hreset
    dsimp only at hr
    split at hr
    · obtain rfl := Option.some.inj hr
      exact ⟨hspec.stands, hspec.touched⟩
    · -- the write goes to the file that is open
      cases hstream : s'.fileStream with
      | none =>
        simp only [writeToFile, hstream] at hr
        obtain rfl := Option.some.inj hr
        exact ⟨hspec.stands, by simpa using hspec.touched⟩
      | some path =>
        have hpath : c.Opens block.filename path := by
          have hopens := hspec.stands path hstream
          rwa [hspec.lastfile rfl] at hopens
        have htouched : ∀ a ∈ opened ++ [.wrote path (base64Unescape block.blockData)],
            c.Opens block.filename a.path := by
          intro a ha
          rcases List.mem_append.mp ha with ha | ha
          · exact hspec.touched a ha
          · rw [List.mem_singleton.mp ha]
            exact hpath
        simp only [writeToFile, hstream] at hr
        obtain rfl := Option.some.inj hr
        refine ⟨?_, htouched⟩
        dsimp only
        split
        · exact stands_closed rfl
        · intro q hq
          exact hspec.stands q (hstream ▸ hq)
  · rename_i s' result opened hready hreset
    obtain rfl := Option.some.inj hr
    have hspec := reset_resetFileStream h hreset
    exact ⟨hspec.stands, hspec.touched⟩

theorem stands_of_reaches {s : FileProcessingNode}
    (h : Trace.Reaches (step base64Unescape (c := c)) init s) : Stands c s := by
  refine Trace.invariant (Stands c) ?_ (stands_closed rfl) h
  intro s e s' hs hstep
  obtain ⟨r, hr, rfl⟩ := Option.map_eq_some_iff.mp hstep
  exact (execute_spec base64Unescape hs hr).1

/-- The check of the name refuses the valid names and no others. -/
theorem refused_iff {s : FileProcessingNode} {disk : Disk c} {io : Io} {isFirstPackage : Bool}
    {name : String} {r : FileProcessingNode × ResetResult × List FileAction}
    (hr : s.resetFileStream disk io isFirstPackage name = some r) :
    r.2.1 = .illegalFilename ↔ validFilename name = true := by
  unfold resetFileStream at hr
  split at hr
  · rename_i hvalid
    obtain rfl := Option.some.inj hr
    exact iff_of_true rfl hvalid
  · rename_i hvalid
    refine iff_of_false ?_ hvalid
    have hopen {s : FileProcessingNode} {t : Tree} {path : List Name} {truncates : Bool}
        {r : FileProcessingNode × ResetResult × List FileAction}
        (h : s.openFile t io path name truncates = some r) : r.2.1 ≠ .illegalFilename := by
      unfold openFile at h
      split at h
      · obtain rfl := Option.some.inj h
        intro hresult
        cases hresult
      · split at h
        · cases h
        · obtain rfl := Option.some.inj h
          intro hresult
          cases hresult
    split at hr
    · obtain rfl := Option.some.inj hr
      intro hresult
      cases hresult
    · dsimp only at hr
      split at hr
      · exact hopen hr
      · split at hr
        · obtain rfl := Option.some.inj hr
          intro hresult
          cases hresult
        · exact hopen hr

/-- A node on which nothing has thrown yet gives an answer. -/
theorem resetFileStream_isSome {s : FileProcessingNode} (h : s.throws = false) (disk : Disk c)
    (io : Io) (isFirstPackage : Bool) (name : String) :
    (s.resetFileStream disk io isFirstPackage name).isSome = true := by
  have hopen (s : FileProcessingNode) (hs : s.throws = false) (t : Tree) (path : List Name)
      (truncates : Bool) : (s.openFile t io path name truncates).isSome = true := by
    unfold openFile
    split
    · rfl
    · rw [hs]
      rfl
  unfold resetFileStream
  split
  · rfl
  · split
    · rfl
    · dsimp only
      split
      · apply hopen
        split <;> exact h
      · split
        · rfl
        · apply hopen
          split <;> exact h

theorem not_acceptsValid (c : UploadConfig) (name : String) : ¬ AcceptsValid c name := by
  intro h
  obtain ⟨r, hr⟩ := Option.isSome_iff_exists.mp
    (resetFileStream_isSome (s := init) rfl c.outputDisk .smooth true name)
  have haccepts := h init c.outputDisk .smooth true r hr
  rw [ne_eq, refused_iff hr] at haccepts
  exact iff_not_self haccepts.symm

/-- A name that leads outside passes the check, and its file is opened there. -/
theorem resetFileStream_of_opensOn {disk : Disk c} {name : String} {path : List Name}
    (h : ¬ c.StaysInside name) (hopens : OpensOn disk name path) :
    init.resetFileStream disk .smooth true name =
      some (⟨name, some path, false⟩, .ready, [.opened path true]) := by
  have hvalid : validFilename name = false :=
    Bool.eq_false_iff.mpr fun hvalid => h (staysInside_of_validFilename hvalid)
  simp [resetFileStream, hvalid, resolveAndPreparePath, hopens.prepared_eq, openFile,
    Io.openForWrite, Io.smooth, hopens.opens, init, closeCurrentFile]

theorem nodeConfined_iff (c : UploadConfig) (name : String) :
    NodeConfined base64Unescape c name ↔ c.StaysInside name := by
  constructor
  · intro h
    by_contra hleaves
    obtain ⟨disk, path, hopens, houtside⟩ := exists_opensOn_outside hleaves
    let block : FileDescriptionBlock := ⟨name, "", "1", "1"⟩
    have hreset := resetFileStream_of_opensOn hleaves hopens
    obtain ⟨r, hr, hopened⟩ : ∃ r,
        init.execute base64Unescape disk .smooth block = some r ∧
          FileAction.opened path true ∈ r.2 := by
      simp only [execute, block, beq_self_eq_true, hreset]
      split
      · exact ⟨_, rfl, List.mem_singleton_self _⟩
      · exact ⟨_, rfl, List.mem_append_left _ (List.mem_singleton_self _)⟩
    exact houtside (h init ⟨[], rfl⟩ disk .smooth block rfl r hr _ hopened)
  · intro hinside s hs disk io block hname r hr a ha
    subst hname
    exact directlyInside_of_opens
      ((execute_spec base64Unescape (stands_of_reaches base64Unescape hs) hr).2 a ha) hinside

end FileProcessingNode

/-- For every name: both uploads are confined exactly if the name stays inside; and the node
    accepts no name as it should. -/
theorem uploadPaths_iff (c : UploadConfig) (name : String) :
    (UploadConfined base64Unescape c name ↔ c.StaysInside name) ∧
      (FileProcessingNode.NodeConfined base64Unescape c name ↔ c.StaysInside name) ∧
        ¬ FileProcessingNode.AcceptsValid c name :=
  ⟨uploadConfined_iff base64Unescape c name,
    FileProcessingNode.nodeConfined_iff base64Unescape c name,
    FileProcessingNode.not_acceptsValid c name⟩

end

/-- The configuration of the repository, in a working directory. -/
def dataConfig : UploadConfig where
  cwd := ["srv".toList]
  outputPath := "data"
  cwd_clean := by decide
  outputPath_clean := by decide
  outputPath_ne := by decide

/-- Where `../y` is a file, the system calls open it; the canonical form of the whole is inside. -/
example : ¬ dataConfig.StaysInside "../y\x00/../data/x" ∧
    dataConfig.DirectlyInside (normal [] (dataConfig.madePath "../y\x00/../data/x")) := by
  decide

/-- The name `../x` is that of a file beside `data`: both uploads create it there. The node
    refuses `a.png`. -/
theorem not_uploadConfined_parent :
    ¬ UploadConfined (fun _ => []) dataConfig "../x" ∧
      ¬ FileProcessingNode.NodeConfined (fun _ => []) dataConfig "../x" ∧
        ¬ FileProcessingNode.AcceptsValid dataConfig "a.png" := by
  have houtside : ¬ dataConfig.StaysInside "../x" := by
    rw [staysInside_iff_of_clean (by decide)]
    decide
  refine ⟨?_, ?_, FileProcessingNode.not_acceptsValid dataConfig "a.png"⟩
  · rw [uploadConfined_iff]
    exact houtside
  · rw [FileProcessingNode.nodeConfined_iff]
    exact houtside

end DistributedIM.ResourcesServer
