/-
  `FileProcessingDispatcher`: the blocks of the files go to the nodes, by the hash of the file's
  name; each node has a queue and a thread of its own, and all write to one disk.

  `scheduleFree_iff`: what is on disk once all blocks are processed does not depend on how the
  threads of the nodes took turns, exactly if names that can lead to the same file are hashed to the
  same node. Then each file is as its node alone would have written it (`files_eq_alone`). Names
  that lead to the same file can differ (`a/b` and `a//b`), and the hash is of the name.

  A block is processed in two steps, the choice of the stream and the write; the nodes may take
  turns between them. The queue and its condition variable are those of the requests.
-/
import DistributedIM.ResourcesServer.StreamSwitching

namespace DistributedIM.ResourcesServer

open FilePath FileStream

/-- The name leads to the file where that is there, or where no file is found under it. -/
def UploadStorage.Leads (u : UploadStorage) (filename : String) (path : List Name) : Prop :=
  u.walks filename = true ∧ u.found filename = path ∨ u.made filename = path

/-- The hash of a name, the number of nodes, and the limit of a queue. -/
structure FileNodes where
  hash : String → Nat
  threads : Nat
  queueSize : Nat

/-- `dispatch_to_node` with `hash_to_index`; none: there are no nodes. -/
def FileNodes.dispatchToNode (c : FileNodes) (filename : String) : Option Nat :=
  if c.threads = 0 then none else some (c.hash filename % c.threads)

/-- Where a node is in `execute`. -/
inductive Stage
  | idle
  /-- the stream is that of the front block -/
  | opened
  /-- the name of the front block is refused -/
  | refused
  deriving DecidableEq, Repr

/-- The `files` of the nodes are not used: there is one disk. -/
structure FileDispatcher where
  nodes : Nat → StreamNode
  queues : Nat → List SizedBlock
  stages : Nat → Stage
  files : Files (List Name)
  /-- for each node the blocks that were not refused for a full queue -/
  accepted : Nat → List SizedBlock
  executed : Nat → List SizedBlock

/-- `resetFileStream` for a block. -/
def StreamNode.resetBlock (u : UploadStorage) (s : StreamNode) (block : SizedBlock) :
    Option StreamNode :=
  s.resetFileStream u block.isFirstPackage block.filename block.accumlatedSize

/-- Where a node that is alone stands in the middle of its front block, after `s`. -/
def Stage.Reached (u : UploadStorage) (s : StreamNode) (front : Option SizedBlock)
    (t : StreamNode) : Stage → Prop
  | .idle => t = s
  | .refused => t = s ∧ ∃ block, front = some block ∧ s.resetBlock u block = none
  | .opened => ∃ block, front = some block ∧ s.resetBlock u block = some t

namespace FileDispatcher

def start (files : Files (List Name)) : FileDispatcher where
  nodes _ := StreamNode.start files
  queues _ := []
  stages _ := .idle
  files := files
  accepted _ := []
  executed _ := []

/-- A node as it sees the disk. -/
def node (d : FileDispatcher) (i : Nat) : StreamNode :=
  { d.nodes i with files := d.files }

def setNode (d : FileDispatcher) (i : Nat) (s : StreamNode) : FileDispatcher :=
  { d with nodes := Function.update d.nodes i s, files := s.files }

inductive Event
  | commit (block : SizedBlock)
  /-- node `i` looks for the stream of its front block -/
  | reset (i : Nat)
  /-- it writes the block and pops it -/
  | write (i : Nat)

variable (u : UploadStorage) (c : FileNodes)

def commit (d : FileDispatcher) (block : SizedBlock) : FileDispatcher :=
  match c.dispatchToNode block.filename with
  | none => d
  | some i =>
    if (d.queues i).length > c.queueSize then d
    else
      { d with
        queues := Function.update d.queues i (d.queues i ++ [block])
        accepted := Function.update d.accepted i (d.accepted i ++ [block]) }

/-- Node `i` has the stream of its front block. -/
def opened (d : FileDispatcher) (i : Nat) (s : StreamNode) : FileDispatcher :=
  { d.setNode i s with stages := Function.update d.stages i .opened }

def reset (d : FileDispatcher) (i : Nat) : Option FileDispatcher :=
  match d.stages i, d.queues i with
  | .idle, block :: _ =>
    match (d.node i).resetBlock u block with
    | none => some { d with stages := Function.update d.stages i .refused }
    | some s => some (d.opened i s)
  | _, _ => none

/-- The front block is behind the node. -/
def pop (d : FileDispatcher) (i : Nat) (block : SizedBlock) (rest : List SizedBlock) :
    FileDispatcher :=
  { d with
    queues := Function.update d.queues i rest
    stages := Function.update d.stages i .idle
    executed := Function.update d.executed i (d.executed i ++ [block]) }

def write (d : FileDispatcher) (i : Nat) : Option FileDispatcher :=
  match d.stages i, d.queues i with
  | .opened, block :: rest => some ((d.setNode i ((d.node i).writeBlock u block)).pop i block rest)
  | .refused, block :: rest => some (d.pop i block rest)
  | _, _ => none

def step (d : FileDispatcher) : Event → Option FileDispatcher
  | .commit block => some (d.commit c block)
  | .reset i => d.reset u i
  | .write i => d.write u i

/-- A node that processes the blocks with nobody else around. -/
def alone (files : Files (List Name)) (blocks : List SizedBlock) : StreamNode :=
  blocks.foldl (StreamNode.execute u) (StreamNode.start files)

/-- Every block that was accepted has been processed. -/
def Drained (d : FileDispatcher) : Prop :=
  ∀ i, d.queues i = []

/-- A file that a name can lead to which the check lets through, and which is hashed to node
    `i`. -/
def Owns (i : Nat) (path : List Name) : Prop :=
  ∃ filename, FileProcessingNode.validFilename filename = false ∧
    c.dispatchToNode filename = some i ∧ u.Leads filename path

/-- Names that can lead to the same file are hashed to the same node. -/
def Apart : Prop :=
  ∀ name name' path, FileProcessingNode.validFilename name = false →
    FileProcessingNode.validFilename name' = false → u.Leads name path → u.Leads name' path →
      c.dispatchToNode name = c.dispatchToNode name'

/-- What is on disk after all blocks depends only on the blocks of each node and their order. -/
def ScheduleFree : Prop :=
  ∀ files d d', Trace.Reaches (step u c) (start files) d →
    Trace.Reaches (step u c) (start files) d' → d.accepted = d'.accepted →
      d.Drained → d'.Drained → d.files = d'.files

variable {u c}

/-! ## A node uses its own files only -/

/-- The same name and stream, and the same contents of the files in `P`. -/
structure Similar (P : List Name → Prop) (s t : StreamNode) : Prop where
  lastfile : s.lastfile = t.lastfile
  stream : s.fileStream = t.fileStream
  files : ∀ path, P path → s.files path = t.files path

/-- The open file is one in `P`. -/
def Within (P : List Name → Prop) (s : StreamNode) : Prop :=
  ∀ st, s.fileStream = some st → P st.path

/-- Only files in `P` are changed. -/
def Changes (P : List Name → Prop) (files files' : Files (List Name)) : Prop :=
  ∀ path, ¬P path → files' path = files path

variable {P : List Name → Prop} {s t : StreamNode}

theorem found_of_pathExists {files : Files (List Name)} {filename : String}
    (h : u.pathExists files filename = true) : u.Leads filename (u.found filename) := by
  rw [UploadStorage.pathExists, Bool.and_eq_true] at h
  exact Or.inl ⟨h.1, rfl⟩

theorem leads_file (files : Files (List Name)) (filename : String) :
    u.Leads filename (u.file files filename) := by
  unfold UploadStorage.file
  split
  · rename_i hexists
    exact found_of_pathExists hexists
  · exact Or.inr rfl

/-- On a disk with one file every name that can lead to it does. -/
theorem file_of_leads {files : Files (List Name)} {path : List Name} {filename : String}
    (hpath : (files path).isSome = true) (hothers : ∀ path', path' ≠ path → files path' = none)
    (h : u.Leads filename path) : u.file files filename = path := by
  unfold UploadStorage.file
  split
  · rename_i hexists
    rw [UploadStorage.pathExists, Bool.and_eq_true] at hexists
    by_contra hne
    rw [hothers _ hne] at hexists
    cases hexists.2
  · rename_i hexists
    rcases h with ⟨hwalks, rfl⟩ | rfl
    · exact absurd (by rw [UploadStorage.pathExists, hwalks, hpath]; rfl) hexists
    · rfl

theorem pathExists_similar (h : Similar P s t) {filename : String}
    (hP : ∀ path, u.Leads filename path → P path) :
    u.pathExists s.files filename = u.pathExists t.files filename := by
  unfold UploadStorage.pathExists
  cases hwalks : u.walks filename with
  | false => rfl
  | true => rw [h.files _ (hP _ (Or.inl ⟨hwalks, rfl⟩))]

theorem file_similar (h : Similar P s t) {filename : String}
    (hP : ∀ path, u.Leads filename path → P path) :
    u.file s.files filename = u.file t.files filename := by
  unfold UploadStorage.file
  rw [pathExists_similar h hP]

theorem reuses_similar (h : Similar P s t) (first : Bool) (filename : String) :
    s.reuses first filename = t.reuses first filename := by
  unfold StreamNode.reuses
  rw [h.lastfile, h.stream]

theorem update_similar {files files' : Files (List Name)}
    (h : ∀ path, P path → files path = files' path) (path : List Name)
    (contents : Option (List UInt8)) :
    ∀ path', P path' → Function.update files path contents path' =
      Function.update files' path contents path' := by
  intro path' hpath'
  by_cases heq : path' = path
  · rw [heq, Function.update_self, Function.update_self]
  · rw [Function.update_of_ne heq, Function.update_of_ne heq]
    exact h path' hpath'

theorem changes_update {files : Files (List Name)} {path : List Name} (hP : P path)
    (contents : Option (List UInt8)) : Changes P files (Function.update files path contents) := by
  intro path' hpath'
  refine Function.update_of_ne ?_ ..
  rintro rfl
  exact hpath' hP

/-- Two nodes that are alike choose the same stream. -/
theorem resetBlock_similar (h : Similar P s t) (hs : Within P s) {block : SizedBlock}
    (hvalid : FileProcessingNode.validFilename block.filename = false)
    (hP : ∀ path, u.Leads block.filename path → P path) :
    ∃ s' t', s.resetBlock u block = some s' ∧ t.resetBlock u block = some t' ∧
      Similar P s' t' ∧ Within P s' ∧ Changes P s.files s'.files := by
  unfold StreamNode.resetBlock StreamNode.resetFileStream
  simp only [hvalid, Bool.false_eq_true, if_false, reuses_similar h, pathExists_similar h hP,
    file_similar h hP]
  split
  · exact ⟨s, t, rfl, rfl, h, hs, fun _ _ => rfl⟩
  · split
    · rename_i hexists
      rw [Bool.and_eq_true] at hexists
      refine ⟨_, _, rfl, rfl, ⟨rfl, rfl, h.files⟩, ?_, fun _ _ => rfl⟩
      intro st hst
      obtain rfl := Option.some.inj hst
      exact hP _ (found_of_pathExists hexists.2)
    · have hfile := hP _ (leads_file t.files block.filename)
      refine ⟨_, _, rfl, rfl, ⟨rfl, rfl, update_similar h.files _ _⟩, ?_, changes_update hfile _⟩
      intro st hst
      obtain rfl := Option.some.inj hst
      split <;> exact hfile

theorem write_similar {st : Stream (List Name)} {files files' : Files (List Name)}
    (h : ∀ path, P path → files path = files' path) (hP : P st.path) (data : List UInt8) :
    (st.write files data).1 = (st.write files' data).1 ∧
      (∀ path, P path → (st.write files data).2 path = (st.write files' data).2 path) ∧
        Changes P files (st.write files data).2 := by
  have hfile := h st.path hP
  have hstart : st.start files = st.start files' := by
    unfold Stream.start
    rw [hfile]
  unfold Stream.write
  rw [hstart, hfile]
  exact ⟨rfl, update_similar h _ _, changes_update hP _⟩

/-- Two nodes that are alike write the same. -/
theorem writeBlock_similar (h : Similar P s t) (hs : Within P s) (block : SizedBlock) :
    Similar P (s.writeBlock u block) (t.writeBlock u block) ∧
      Within P (s.writeBlock u block) ∧ Changes P s.files (s.writeBlock u block).files := by
  unfold StreamNode.writeBlock StreamNode.writeToFile
  dsimp only
  split
  · exact ⟨h, hs, fun _ _ => rfl⟩
  · rw [← h.stream]
    cases hst : s.fileStream with
    | none => exact ⟨h, hs, fun _ _ => rfl⟩
    | some st =>
      obtain ⟨hstream, hfiles, hchanges⟩ :=
        write_similar h.files (hs st hst) (u.base64Decode block.blockData)
      dsimp only
      split
      · exact ⟨⟨h.lastfile, rfl, hfiles⟩, (fun _ hst' => by cases hst'), hchanges⟩
      · refine ⟨⟨h.lastfile, congrArg some hstream, hfiles⟩, ?_, hchanges⟩
        intro st' hst'
        obtain rfl := Option.some.inj hst'
        exact hs st hst

theorem resetBlock_of_refused {block : SizedBlock}
    (hrefused : FileProcessingNode.validFilename block.filename = true) (s : StreamNode) :
    s.resetBlock u block = none :=
  if_pos hrefused

theorem execute_of_none {block : SizedBlock} (h : s.resetBlock u block = none) :
    s.execute u block = s := by
  unfold StreamNode.resetBlock at h
  unfold StreamNode.execute
  rw [h]

theorem execute_of_some {block : SizedBlock} (h : s.resetBlock u block = some t) :
    s.execute u block = t.writeBlock u block := by
  unfold StreamNode.resetBlock at h
  unfold StreamNode.execute
  rw [h]

theorem alone_append (files : Files (List Name)) (blocks : List SizedBlock) (block : SizedBlock) :
    alone u files (blocks ++ [block]) = (alone u files blocks).execute u block := by
  unfold alone
  rw [List.foldl_append]
  rfl

/-! ## Each node goes on as if alone -/

theorem owns_unique (hapart : Apart u c) {i j : Nat} {path : List Name} (hi : Owns u c i path)
    (hj : Owns u c j path) : i = j := by
  obtain ⟨name, hvalid, hindex, hfile⟩ := hi
  obtain ⟨name', hvalid', hindex', hfile'⟩ := hj
  have hsame := hapart name name' path hvalid hvalid' hfile hfile'
  rw [hindex, hindex'] at hsame
  exact Option.some.inj hsame

/-- Node `i` stands where it would stand alone, as far as its own files go. -/
structure NodeInv (u : UploadStorage) (c : FileNodes) (files : Files (List Name))
    (d : FileDispatcher) (i : Nat) : Prop where
  follows : ∃ t, Stage.Reached u (alone u files (d.executed i)) (d.queues i).head? t (d.stages i) ∧
    Similar (Owns u c i) (d.node i) t
  within : Within (Owns u c i) (d.node i)
  account : d.accepted i = d.executed i ++ d.queues i
  queued : ∀ block ∈ d.queues i, c.dispatchToNode block.filename = some i

structure Inv (u : UploadStorage) (c : FileNodes) (files : Files (List Name))
    (d : FileDispatcher) : Prop where
  node : ∀ i, NodeInv u c files d i
  untouched : ∀ path, (∀ i, ¬Owns u c i path) → d.files path = files path

variable {files : Files (List Name)} {d d' : FileDispatcher} {i : Nat}

theorem inv_start : Inv u c files (start files) where
  node i :=
    { follows := ⟨_, rfl, rfl, rfl, fun _ _ => rfl⟩
      within := fun st hst => by cases hst
      account := rfl
      queued := fun block hblock => by cases hblock }
  untouched path _ := rfl

/-- Nothing but node `i` and its files is changed. -/
structure Local (u : UploadStorage) (c : FileNodes) (i : Nat) (d d' : FileDispatcher) : Prop where
  nodes : ∀ j, j ≠ i → d'.nodes j = d.nodes j
  queues : ∀ j, j ≠ i → d'.queues j = d.queues j
  stages : ∀ j, j ≠ i → d'.stages j = d.stages j
  executed : ∀ j, j ≠ i → d'.executed j = d.executed j
  accepted : ∀ j, j ≠ i → d'.accepted j = d.accepted j
  files : Changes (Owns u c i) d.files d'.files

/-- The other nodes do not notice. -/
theorem inv_of_local (hapart : Apart u c) (h : Inv u c files d) (hlocal : Local u c i d d')
    (hnode : NodeInv u c files d' i) : Inv u c files d' := by
  refine ⟨fun j => ?_, fun path hpath => ?_⟩
  swap
  · exact (hlocal.files path (hpath i)).trans (h.untouched path hpath)
  by_cases hij : j = i
  · subst hij
    exact hnode
  · obtain ⟨⟨t, hreached, hsimilar⟩, hwithin, haccount, hqueued⟩ := h.node j
    have hlast : (d'.nodes j).lastfile = (d.nodes j).lastfile := by rw [hlocal.nodes j hij]
    have hstream : (d'.nodes j).fileStream = (d.nodes j).fileStream := by rw [hlocal.nodes j hij]
    refine ⟨⟨t, ?_, hlast.trans hsimilar.lastfile, hstream.trans hsimilar.stream, ?_⟩, ?_, ?_, ?_⟩
    · rw [hlocal.stages j hij, hlocal.queues j hij, hlocal.executed j hij]
      exact hreached
    · intro path hpath
      have hother : ¬Owns u c i path := fun hi => hij (owns_unique hapart hpath hi)
      exact (hlocal.files path hother).trans (hsimilar.files path hpath)
    · intro st hst
      exact hwithin st (hstream.symm.trans hst)
    · rw [hlocal.accepted j hij, hlocal.executed j hij, hlocal.queues j hij]
      exact haccount
    · rw [hlocal.queues j hij]
      exact hqueued

theorem reached_append {stage : Stage} {queue : List SizedBlock}
    (h : Stage.Reached u s queue.head? t stage) (block : SizedBlock) :
    Stage.Reached u s (queue ++ [block]).head? t stage := by
  have hhead {front : SizedBlock} (hfront : queue.head? = some front) :
      (queue ++ [block]).head? = some front := by
    rw [List.head?_append, hfront, Option.some_or]
  cases stage with
  | idle => exact h
  | refused =>
    obtain ⟨rfl, front, hfront, hreset⟩ := h
    exact ⟨rfl, front, hhead hfront, hreset⟩
  | opened =>
    obtain ⟨front, hfront, hreset⟩ := h
    exact ⟨front, hhead hfront, hreset⟩

theorem inv_commit (hapart : Apart u c) (h : Inv u c files d) (block : SizedBlock) :
    Inv u c files (d.commit c block) := by
  unfold commit
  split
  · exact h
  · rename_i i hindex
    split
    · exact h
    · refine inv_of_local (i := i) hapart h ?_ ?_
      · exact ⟨fun _ _ => rfl, fun j hij => Function.update_of_ne hij .., fun _ _ => rfl,
          fun _ _ => rfl, fun j hij => Function.update_of_ne hij .., fun _ _ => rfl⟩
      · obtain ⟨⟨t, hreached, hsimilar⟩, hwithin, haccount, hqueued⟩ := h.node i
        refine ⟨⟨t, ?_, hsimilar⟩, hwithin, ?_, ?_⟩ <;> dsimp only <;> rw [Function.update_self]
        · exact reached_append hreached block
        · rw [Function.update_self, haccount, List.append_assoc]
        · intro block' hblock'
          rcases List.mem_append.mp hblock' with hold | hnew
          · exact hqueued block' hold
          · rw [List.mem_singleton.mp hnew]
            exact hindex

theorem node_opened (d : FileDispatcher) (i : Nat) (s : StreamNode) :
    (d.opened i s).node i = s := by
  unfold node opened setNode
  dsimp only
  rw [Function.update_self]

theorem local_opened {s : StreamNode} (hfiles : Changes (Owns u c i) d.files s.files) :
    Local u c i d (d.opened i s) :=
  ⟨fun _ hij => Function.update_of_ne hij .., fun _ _ => rfl,
    fun _ hij => Function.update_of_ne hij .., fun _ _ => rfl, fun _ _ => rfl, hfiles⟩

theorem owns_of_mem {block : SizedBlock} (h : NodeInv u c files d i) (hblock : block ∈ d.queues i)
    (hvalid : FileProcessingNode.validFilename block.filename = false) :
    ∀ path, u.Leads block.filename path → Owns u c i path :=
  fun _ hpath => ⟨block.filename, hvalid, h.queued block hblock, hpath⟩

theorem inv_reset (hapart : Apart u c) (h : Inv u c files d) (hreset : d.reset u i = some d') :
    Inv u c files d' := by
  obtain ⟨⟨t, hreached, hsimilar⟩, hwithin, haccount, hqueued⟩ := h.node i
  unfold reset at hreset
  split at hreset
  · rename_i block rest hstage hqueue
    rw [hstage] at hreached
    obtain rfl : t = alone u files (d.executed i) := hreached
    have hfront : (d.queues i).head? = some block := by rw [hqueue, List.head?_cons]
    by_cases hrefused : FileProcessingNode.validFilename block.filename = true
    · rw [resetBlock_of_refused hrefused] at hreset
      obtain rfl := Option.some.inj hreset
      refine inv_of_local (i := i) hapart h ?_ ⟨⟨_, ?_, hsimilar⟩, hwithin, haccount, hqueued⟩
      · exact ⟨fun _ _ => rfl, fun _ _ => rfl, fun j hij => Function.update_of_ne hij ..,
          fun _ _ => rfl, fun _ _ => rfl, fun _ _ => rfl⟩
      · dsimp only
        rw [Function.update_self]
        exact ⟨rfl, block, hfront, resetBlock_of_refused hrefused _⟩
    · rw [Bool.not_eq_true] at hrefused
      have howns := owns_of_mem (h.node i) (hqueue ▸ List.mem_cons_self ..) hrefused
      obtain ⟨s', t', hs', ht', hsimilar', hwithin', hchanges⟩ :=
        resetBlock_similar hsimilar hwithin hrefused howns
      rw [hs'] at hreset
      obtain rfl := Option.some.inj hreset
      refine inv_of_local (i := i) hapart h (local_opened hchanges) ⟨⟨t', ?_, ?_⟩, ?_, haccount,
        hqueued⟩
      · dsimp only [opened]
        rw [Function.update_self]
        exact ⟨block, hfront, ht'⟩
      · rw [node_opened]
        exact hsimilar'
      · rw [node_opened]
        exact hwithin'
  · cases hreset

/-- The front block is done: `s` is the node after it, alone or not. -/
theorem inv_pop (hapart : Apart u c) (h : Inv u c files d) {s : StreamNode} {block : SizedBlock}
    {rest : List SizedBlock} (hqueue : d.queues i = block :: rest)
    (hsimilar : Similar (Owns u c i) s ((alone u files (d.executed i)).execute u block))
    (hwithin : Within (Owns u c i) s) (hchanges : Changes (Owns u c i) d.files s.files) :
    Inv u c files ((d.setNode i s).pop i block rest) := by
  obtain ⟨-, -, haccount, hqueued⟩ := h.node i
  refine inv_of_local (i := i) hapart h ?_
    ⟨⟨alone u files (d.executed i ++ [block]), ?_, ?_⟩, ?_, ?_, ?_⟩
  · exact ⟨fun _ hij => Function.update_of_ne hij .., fun _ hij => Function.update_of_ne hij ..,
      fun _ hij => Function.update_of_ne hij .., fun _ hij => Function.update_of_ne hij ..,
      fun _ _ => rfl, hchanges⟩
  · dsimp only [pop, setNode]
    rw [Function.update_self, Function.update_self, Function.update_self]
    rfl
  · rw [alone_append]
    exact ⟨by simpa [node, setNode, pop] using hsimilar.lastfile,
      by simpa [node, setNode, pop] using hsimilar.stream, hsimilar.files⟩
  · intro st hst
    exact hwithin st (by simpa [node, setNode, pop] using hst)
  · dsimp only [pop, setNode]
    rw [Function.update_self, Function.update_self, haccount, hqueue, List.append_assoc]
    rfl
  · dsimp only [pop, setNode]
    rw [Function.update_self]
    intro block' hblock'
    refine hqueued block' ?_
    rw [hqueue]
    exact List.mem_cons_of_mem _ hblock'

/-- Nothing is changed by putting a node back as it is. -/
theorem setNode_node (d : FileDispatcher) (i : Nat) (block : SizedBlock) (rest : List SizedBlock)
    (h : Inv u c files ((d.setNode i (d.node i)).pop i block rest)) :
    Inv u c files (d.pop i block rest) := by
  have hnode (j : Nat) : ((d.setNode i (d.node i)).pop i block rest).node j =
      (d.pop i block rest).node j := by
    unfold node pop setNode
    by_cases hij : j = i
    · subst hij
      simp
    · simp [hij]
  refine ⟨fun j => ?_, h.untouched⟩
  obtain ⟨hfollows, hwithin, haccount, hqueued⟩ := h.node j
  rw [hnode j] at hfollows hwithin
  exact ⟨hfollows, hwithin, haccount, hqueued⟩

theorem inv_write (hapart : Apart u c) (h : Inv u c files d) (hwrite : d.write u i = some d') :
    Inv u c files d' := by
  obtain ⟨⟨t, hreached, hsimilar⟩, hwithin, -, -⟩ := h.node i
  unfold write at hwrite
  split at hwrite
  · rename_i block rest hstage hqueue
    rw [hstage] at hreached
    obtain ⟨front, hfront, hreset⟩ := hreached
    rw [hqueue] at hfront
    obtain rfl : block = front := Option.some.inj hfront
    obtain rfl := Option.some.inj hwrite
    obtain ⟨hsimilar', hwithin', hchanges⟩ := writeBlock_similar (u := u) hsimilar hwithin block
    refine inv_pop hapart h hqueue ?_ hwithin' hchanges
    rw [execute_of_some hreset]
    exact hsimilar'
  · rename_i block rest hstage hqueue
    rw [hstage] at hreached
    obtain ⟨rfl, front, hfront, hreset⟩ := hreached
    rw [hqueue] at hfront
    obtain rfl : block = front := Option.some.inj hfront
    obtain rfl := Option.some.inj hwrite
    refine setNode_node d i block rest (inv_pop hapart h hqueue ?_ hwithin fun _ _ => rfl)
    rw [execute_of_none hreset]
    exact hsimilar
  · cases hwrite

theorem inv_step (hapart : Apart u c) {e : Event} (h : Inv u c files d)
    (hstep : d.step u c e = some d') : Inv u c files d' := by
  cases e with
  | commit block =>
    obtain rfl := Option.some.inj hstep
    exact inv_commit hapart h block
  | reset i => exact inv_reset hapart h hstep
  | write i => exact inv_write hapart h hstep

/-- Once all blocks are processed, each file is as its node would have written it alone, and what
    belongs to no node is as it was. -/
theorem files_eq_alone (hapart : Apart u c) (h : Trace.Reaches (step u c) (start files) d)
    (hdrained : d.Drained) :
    (∀ i path, Owns u c i path → d.files path = (alone u files (d.accepted i)).files path) ∧
      ∀ path, (∀ i, ¬Owns u c i path) → d.files path = files path := by
  have hinv : Inv u c files d :=
    Trace.invariant (Inv u c files) (fun _ _ _ => inv_step hapart) inv_start h
  refine ⟨fun i path hpath => ?_, hinv.untouched⟩
  obtain ⟨⟨t, hreached, hsimilar⟩, -, haccount, -⟩ := hinv.node i
  rw [hdrained i, List.append_nil] at haccount
  rw [hdrained i, ← haccount] at hreached
  have ht : t = alone u files (d.accepted i) := by
    cases hstage : d.stages i with
    | idle =>
      rw [hstage] at hreached
      exact hreached
    | refused =>
      rw [hstage] at hreached
      exact hreached.1
    | opened =>
      rw [hstage] at hreached
      obtain ⟨block, hfront, -⟩ := hreached
      cases hfront
  rw [← ht]
  exact hsimilar.files path hpath

theorem scheduleFree_of_apart (hapart : Apart u c) : ScheduleFree u c := by
  intro files d d' hreaches hreaches' haccepted hdrained hdrained'
  obtain ⟨howned, hother⟩ := files_eq_alone hapart hreaches hdrained
  obtain ⟨howned', hother'⟩ := files_eq_alone hapart hreaches' hdrained'
  funext path
  by_cases hpath : ∃ i, Owns u c i path
  · obtain ⟨i, hi⟩ := hpath
    rw [howned i path hi, howned' i path hi, haccepted]
  · rw [not_exists] at hpath
    rw [hother path hpath, hother' path hpath]

/-! ## Two nodes and one file -/

/-- A node that starts on its front block and goes on to the end. -/
theorem exec_reset_write {block : SizedBlock} {rest : List SizedBlock}
    (hstage : d.stages i = .idle) (hqueue : d.queues i = block :: rest)
    (hvalid : FileProcessingNode.validFilename block.filename = false) :
    ∃ d', Trace.exec (step u c) d [.reset i, .write i] = some d' ∧
      d'.files = ((d.node i).execute u block).files ∧ d'.accepted = d.accepted ∧
      (∀ j, j ≠ i → d'.stages j = d.stages j ∧ d'.queues j = d.queues j) ∧ d'.queues i = rest := by
  have hany : Similar (fun _ => True) (d.node i) (d.node i) := ⟨rfl, rfl, fun _ _ => rfl⟩
  obtain ⟨s', -, hs', -, -⟩ :=
    resetBlock_similar (u := u) hany (fun _ _ => trivial) hvalid fun _ _ => trivial
  have hreset : d.reset u i = some (d.opened i s') := by
    unfold reset
    simp only [hstage, hqueue, hs']
  have hwrite : (d.opened i s').write u i =
      some (((d.opened i s').setNode i (s'.writeBlock u block)).pop i block rest) := by
    have hopened : (d.opened i s').stages i = .opened := Function.update_self ..
    have hfront : (d.opened i s').queues i = block :: rest := hqueue
    unfold write
    rw [node_opened]
    simp only [hopened, hfront]
  refine ⟨_, (Trace.exec_cons_some _).mpr ⟨_, hreset, (Trace.exec_singleton ..).trans hwrite⟩,
    ?_, rfl, fun j hij => ?_, Function.update_self ..⟩
  · rw [execute_of_some hs']
    rfl
  · exact ⟨(Function.update_of_ne hij ..).trans (Function.update_of_ne hij ..),
      Function.update_of_ne hij ..⟩

/-- A block that is the first of its file. -/
def firstBlock (filename data : String) : SizedBlock where
  filename := filename
  blockData := data
  currSequence := "1"
  isEOF := "1"
  accumlatedSize := 0

theorem execute_firstBlock (s : StreamNode) {filename : String}
    (hvalid : FileProcessingNode.validFilename filename = false) (data : String) :
    (s.execute u (firstBlock filename data)).files =
      Function.update s.files (u.file s.files filename) (some (u.base64Decode data)) := by
  have hblock : FileProcessingNode.validFilename (firstBlock filename data).filename = false := hvalid
  have hfile := StreamNode.execute_of_creates (u := u) (s := s) hblock rfl
  rw [firstBlock] at hfile
  rw [firstBlock, hfile]
  split
  · rename_i hnil
    rw [hnil]
  · rfl

theorem commit_of_nil (block : SizedBlock) (hindex : c.dispatchToNode block.filename = some i)
    (hqueue : d.queues i = []) :
    d.commit c block =
      { d with
        queues := Function.update d.queues i [block]
        accepted := Function.update d.accepted i (d.accepted i ++ [block]) } := by
  unfold commit
  simp only [hindex, hqueue, List.nil_append]
  exact if_neg (Nat.not_lt.mpr (Nat.zero_le _))

/-- A first block for each of two nodes. -/
theorem exec_commits (files : Files (List Name)) {name name' : String} {i j : Nat} (hne : i ≠ j)
    (hindex : c.dispatchToNode name = some i) (hindex' : c.dispatchToNode name' = some j)
    (data data' : String) :
    ∃ d, Trace.exec (step u c) (start files)
        [.commit (firstBlock name data), .commit (firstBlock name' data')] = some d ∧
      d.files = files ∧ (∀ k, d.stages k = .idle) ∧ d.queues i = [firstBlock name data] ∧
        d.queues j = [firstBlock name' data'] ∧ ∀ k, k ≠ i → k ≠ j → d.queues k = [] := by
  have hfirst := commit_of_nil (d := start files) (firstBlock name data) hindex rfl
  have hempty : ((start files).commit c (firstBlock name data)).queues j = [] := by
    rw [hfirst]
    exact Function.update_of_ne hne.symm ..
  have hsecond := commit_of_nil (firstBlock name' data') hindex' hempty
  refine ⟨_, (Trace.exec_cons_some _).mpr ⟨_, rfl, Trace.exec_singleton ..⟩, ?_⟩
  show (commit c _ _).files = files ∧ (∀ k, (commit c _ _).stages k = .idle) ∧ (commit c _ _).queues i = _ ∧
    (commit c _ _).queues j = _ ∧ ∀ k, k ≠ i → k ≠ j → (commit c _ _).queues k = []
  rw [hsecond, hfirst]
  dsimp only
  refine ⟨rfl, fun _ => rfl, ?_, ?_, fun k hki hkj => ?_⟩
  · rw [Function.update_of_ne hne, Function.update_self]
  · rw [Function.update_self]
  · rw [Function.update_of_ne hkj, Function.update_of_ne hki]
    rfl

/-- A disk with one file, which is empty. -/
def oneFile (path : List Name) : Files (List Name) :=
  Function.update (fun _ => none) path (some [])

theorem file_oneFile {path : List Name} {filename : String} (contents : List UInt8)
    (h : u.Leads filename path) :
    u.file (Function.update (oneFile path) path (some contents)) filename = path := by
  refine file_of_leads ?_ ?_ h
  · rw [Function.update_self]
    rfl
  · intro path' hne
    rw [oneFile, Function.update_idem, Function.update_of_ne hne]

/-- Node `i` and then node `j` on a disk with one file, which both blocks are for: it is as node `j`
    leaves it. -/
theorem exec_inTurn {name data name' data' : String} {path : List Name} {i j : Nat} (hne : i ≠ j)
    (hfiles : d.files = oneFile path) (hstages : ∀ k, d.stages k = .idle)
    (hi : d.queues i = [firstBlock name data]) (hj : d.queues j = [firstBlock name' data'])
    (hrest : ∀ k, k ≠ i → k ≠ j → d.queues k = [])
    (hvalid : FileProcessingNode.validFilename name = false)
    (hvalid' : FileProcessingNode.validFilename name' = false) (hpath : u.Leads name path)
    (hpath' : u.Leads name' path) :
    ∃ d', Trace.exec (step u c) d [.reset i, .write i, .reset j, .write j] = some d' ∧
      d'.Drained ∧ d'.accepted = d.accepted ∧ d'.files path = some (u.base64Decode data') := by
  have hone : oneFile path = Function.update (oneFile path) path (some []) :=
    (Function.update_idem ..).symm
  obtain ⟨m, hexec, hwritten, haccepted, hother, hqueue⟩ :=
    exec_reset_write (u := u) (c := c) (hstages i) hi hvalid
  have hmiddle : m.files = Function.update (oneFile path) path (some (u.base64Decode data)) := by
    rw [hwritten, execute_firstBlock _ hvalid]
    change Function.update d.files (u.file d.files name) _ = _
    rw [hfiles, hone, file_oneFile [] hpath, Function.update_idem]
  have hstage : m.stages j = .idle := (hother j hne.symm).1.trans (hstages j)
  have hblock : m.queues j = [firstBlock name' data'] := (hother j hne.symm).2.trans hj
  obtain ⟨d', hexec', hwritten', haccepted', hother', hqueue'⟩ :=
    exec_reset_write (u := u) (c := c) hstage hblock hvalid'
  refine ⟨d', ?_, fun k => ?_, haccepted'.trans haccepted, ?_⟩
  · have happend := Trace.exec_append (step u c) d [.reset i, .write i] [.reset j, .write j]
    rw [hexec, Option.bind_some, hexec'] at happend
    exact happend
  · by_cases hkj : k = j
    · rw [hkj, hqueue']
    · rw [(hother' k hkj).2]
      by_cases hki : k = i
      · rw [hki, hqueue]
      · rw [(hother k hki).2, hrest k hki hkj]
  · rw [hwritten', execute_firstBlock _ hvalid']
    change Function.update m.files (u.file m.files name') _ path = _
    rw [hmiddle, file_oneFile _ hpath', Function.update_self]

/-- With two texts that decode to something else: what is on disk once all blocks are processed
    depends only on the blocks of each node, exactly if names that can lead to the same file are
    hashed to the same node. -/
theorem scheduleFree_iff {data data' : String}
    (hdata : u.base64Decode data ≠ u.base64Decode data') : ScheduleFree u c ↔ Apart u c := by
  refine ⟨fun hfree name name' path hvalid hvalid' hpath hpath' => ?_, scheduleFree_of_apart⟩
  by_contra hindex
  have hsome (name : String) (hthreads : c.threads ≠ 0) :
      c.dispatchToNode name = some (c.hash name % c.threads) := if_neg hthreads
  have hthreads : c.threads ≠ 0 := by
    intro hzero
    refine hindex ?_
    unfold FileNodes.dispatchToNode
    rw [if_pos hzero, if_pos hzero]
  have hne : c.hash name % c.threads ≠ c.hash name' % c.threads := by
    intro heq
    exact hindex (by rw [hsome name hthreads, hsome name' hthreads, heq])
  obtain ⟨d, hexec, hfiles, hstages, hi, hj, hrest⟩ := exec_commits (oneFile path) (u := u) hne
    (hsome name hthreads) (hsome name' hthreads) data data'
  obtain ⟨d₁, hexec₁, hdrained₁, haccepted₁, hfile₁⟩ :=
    exec_inTurn (u := u) (c := c) hne hfiles hstages hi hj hrest hvalid hvalid' hpath hpath'
  obtain ⟨d₂, hexec₂, hdrained₂, haccepted₂, hfile₂⟩ :=
    exec_inTurn (u := u) (c := c) hne.symm hfiles hstages hj hi
      (fun k hkj hki => hrest k hki hkj) hvalid' hvalid hpath' hpath
  have hsame := hfree (oneFile path) d₁ d₂ (Trace.Reaches.exec _ ⟨_, hexec⟩ hexec₁)
    (Trace.Reaches.exec _ ⟨_, hexec⟩ hexec₂) (haccepted₁.trans haccepted₂.symm) hdrained₁ hdrained₂
  rw [hsame, hfile₂] at hfile₁
  exact hdata (Option.some.inj hfile₁)

/-- Two nodes, and a hash that is the length of the name. -/
def twoNodes : FileNodes where
  hash := String.length
  threads := 2
  queueSize := 8

/-- `a/b` and `a//b` are one file, which two nodes write to. -/
theorem not_scheduleFree_twoNodes : ¬ScheduleFree StreamNode.storage twoNodes := by
  have hdata : StreamNode.storage.base64Decode "QQ==" ≠ StreamNode.storage.base64Decode "" := by
    decide
  intro hfree
  have hindex := (scheduleFree_iff hdata).mp hfree "a/b" "a//b" (StreamNode.storage.made "a/b")
    (by decide) (by decide) (Or.inr rfl) (Or.inr (by decide))
  exact absurd hindex (by decide)

end FileDispatcher

end DistributedIM.ResourcesServer
