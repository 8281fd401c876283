/-
  POSIX pathnames over a tree of directories and files without symbolic links.

  An absolute path is the list of its pieces between separators; an empty piece, `.` and `..` are
  directions, the other pieces are names. `normal` reads a path lexically, `Tree.walk` as the
  system does, which fails where a directory is missing. Without links the two agree where the walk
  gets through (`walk_eq_some`).

  A system call gets the path as a C string and so sees what is before the first NUL (`cString`);
  what `std::filesystem` does with pieces goes on behind it. A path with a NUL can so lead to one
  file where that is there, and to another one where nothing is: `weaklyCanonical` is `cString`
  made canonical in the first case and the lexical form of the whole in the second
  (`openForWrite_weaklyCanonical_eq_some`). Without a NUL the two are the same.
-/
import Mathlib.Data.List.Basic
import Mathlib.Data.List.Induction
import Mathlib.Data.List.TakeWhile

namespace FilePath

abbrev Name := List Char

/-- Not a direction. -/
def isPlain (n : Name) : Bool :=
  !(n = [] || n = ['.'] || n = ['.', '.'])

/-- The path ends in a name. -/
def endsInName (ns : List Name) : Bool :=
  ns.getLast?.any isPlain

/-- One piece, read lexically from the directory `d`. -/
def push (d : List Name) (n : Name) : List Name :=
  if n = [] ∨ n = ['.'] then d
  else if n = ['.', '.'] then d.dropLast
  else d ++ [n]

/-- The lexical normal form of the pieces, from the directory `d`. -/
def normal (d ns : List Name) : List Name :=
  ns.foldl push d

/-- The directories a path leads through from `d`, the last one included. -/
def trail : List Name → List Name → List (List Name)
  | d, [] => [d]
  | d, n :: ns => d :: trail (push d n) ns

/-- `std::filesystem::path::operator/` on pathnames: an absolute one replaces. -/
def append (p q : List Char) : List Char :=
  if q.head? = some '/' then q
  else if p = [] ∨ p.getLast? = some '/' then p ++ q
  else p ++ '/' :: q

/-- The pieces of a pathname, from the root. -/
def absolute (cwd : List Name) (p : List Char) : List Name :=
  if p.head? = some '/' then p.splitOn '/' else cwd ++ p.splitOn '/'

/-- What a system call sees of a path. -/
def cString : List Name → List Name
  | [] => []
  | n :: ns => if '\x00' ∈ n then [n.takeWhile (· ≠ '\x00')] else n :: cString ns

/-- The normal form; a path that does not end in a name keeps a trailing separator. -/
def lexicallyNormal (ns : List Name) : List Name :=
  normal [] ns ++ if endsInName ns then [] else [[]]

/-! ## Lexical reading -/

theorem push_of_isPlain (d : List Name) {n : Name} (h : isPlain n = true) :
    push d n = d ++ [n] := by
  simp only [isPlain, Bool.not_eq_true', Bool.or_eq_false_iff, decide_eq_false_iff_not] at h
  rw [push, if_neg (by simp [h.1.1, h.1.2]), if_neg h.2]

theorem push_of_not_isPlain {d : List Name} {n : Name} (h : isPlain n = false) :
    push d n <+: d := by
  simp only [isPlain, Bool.not_eq_false', Bool.or_eq_true, decide_eq_true_eq] at h
  unfold push
  split
  · exact List.prefix_rfl
  · rename_i hempty
    rw [if_pos (h.resolve_left hempty)]
    exact List.dropLast_prefix d

theorem normal_append (d ns ms : List Name) :
    normal d (ns ++ ms) = normal (normal d ns) ms :=
  List.foldl_append

theorem normal_concat (d ms : List Name) {n : Name} (h : isPlain n = true) :
    normal d (ms ++ [n]) = normal d ms ++ [n] := by
  rw [normal_append]
  exact push_of_isPlain _ h

/-- A path of names is normal. -/
theorem normal_of_isPlain (d : List Name) {ns : List Name} (h : ∀ n ∈ ns, isPlain n = true) :
    normal d ns = d ++ ns := by
  induction ns generalizing d with
  | nil => exact (List.append_nil d).symm
  | cons n ns ih =>
    have htail := ih (push d n) fun m hm => h m (List.mem_cons_of_mem n hm)
    rw [push_of_isPlain d (h n (List.mem_cons_self ..)), List.append_assoc] at htail
    show normal (push d n) ns = _
    rw [push_of_isPlain d (h n (List.mem_cons_self ..)), htail]
    rfl

/-- A normal form has names only. -/
theorem isPlain_normal {d : List Name} (hd : ∀ n ∈ d, isPlain n = true) (ns : List Name) :
    ∀ n ∈ normal d ns, isPlain n = true := by
  induction ns generalizing d with
  | nil => exact hd
  | cons m ns ih =>
    apply ih
    intro n hn
    cases hm : isPlain m with
    | false => exact hd n ((push_of_not_isPlain hm).subset hn)
    | true =>
      rw [push_of_isPlain d hm, List.mem_append, List.mem_singleton] at hn
      rcases hn with hn | rfl
      · exact hd n hn
      · exact hm

theorem normal_normal (ns : List Name) : normal [] (normal [] ns) = normal [] ns := by
  rw [normal_of_isPlain [] (isPlain_normal (by simp) ns), List.nil_append]

/-! ## C strings -/

theorem clean_cString (ns : List Name) : ∀ n ∈ cString ns, '\x00' ∉ n := by
  induction ns with
  | nil => simp [cString]
  | cons m ns ih =>
    intro n hn
    unfold cString at hn
    split at hn
    · obtain rfl := List.mem_singleton.mp hn
      intro hmem
      simpa using List.mem_takeWhile_imp hmem
    · rename_i hm
      rcases List.mem_cons.mp hn with rfl | hn
      · exact hm
      · exact ih n hn

theorem cString_of_clean {ns : List Name} (h : ∀ n ∈ ns, '\x00' ∉ n) : cString ns = ns := by
  induction ns with
  | nil => rfl
  | cons n ns ih =>
    rw [cString, if_neg (h n (List.mem_cons_self ..)),
      ih fun m hm => h m (List.mem_cons_of_mem n hm)]

theorem cString_append_of_clean {ns : List Name} (h : ∀ n ∈ ns, '\x00' ∉ n) (ms : List Name) :
    cString (ns ++ ms) = ns ++ cString ms := by
  induction ns with
  | nil => rfl
  | cons n ns ih =>
    rw [List.cons_append, cString, if_neg (h n (List.mem_cons_self ..)),
      ih fun m hm => h m (List.mem_cons_of_mem n hm), List.cons_append]

theorem cString_singleton (n : Name) : cString [n] = [n.takeWhile (· ≠ '\x00')] := by
  unfold cString
  split
  · rfl
  · rename_i hn
    rw [List.takeWhile_eq_self_iff.mpr]
    · rfl
    · intro ch hch
      simpa using fun heq : ch = '\x00' => hn (heq ▸ hch)

theorem clean_push {d : List Name} (hd : ∀ n ∈ d, '\x00' ∉ n) {m : Name} (hm : '\x00' ∉ m) :
    ∀ n ∈ push d m, '\x00' ∉ n := by
  intro n hn
  cases hplain : isPlain m with
  | false => exact hd n ((push_of_not_isPlain hplain).subset hn)
  | true =>
    rw [push_of_isPlain d hplain, List.mem_append, List.mem_singleton] at hn
    rcases hn with hn | rfl
    · exact hd n hn
    · exact hm

theorem clean_normal {d ns : List Name} (hd : ∀ n ∈ d, '\x00' ∉ n) (h : ∀ n ∈ ns, '\x00' ∉ n) :
    ∀ n ∈ normal d ns, '\x00' ∉ n := by
  induction ns generalizing d with
  | nil => exact hd
  | cons m ns ih =>
    exact ih (clean_push hd (h m (List.mem_cons_self ..))) fun n hn =>
      h n (List.mem_cons_of_mem m hn)

theorem mem_of_mem_splitOn {p n : List Char} {ch : Char} (hn : n ∈ p.splitOn '/')
    (hch : ch ∈ n) : ch ∈ p := by
  induction p generalizing n with
  | nil =>
    rw [List.splitOn_nil, List.mem_singleton] at hn
    rw [hn] at hch
    cases hch
  | cons x xs ih =>
    rw [List.splitOn_cons_eq_if_modifyHead] at hn
    split at hn
    · rcases List.mem_cons.mp hn with rfl | hn
      · cases hch
      · exact List.mem_cons_of_mem x (ih hn hch)
    · cases hsplit : xs.splitOn '/' with
      | nil => exact absurd hsplit (List.splitOn_ne_nil '/' xs)
      | cons m ms =>
        rw [hsplit] at hn ih
        rcases List.mem_cons.mp hn with rfl | hn
        · rcases List.mem_cons.mp hch with rfl | hch
          · exact List.mem_cons_self ..
          · exact List.mem_cons_of_mem x (ih (List.mem_cons_self ..) hch)
        · exact List.mem_cons_of_mem x (ih (List.mem_cons_of_mem m hn) hch)

theorem clean_absolute {cwd : List Name} (hcwd : ∀ n ∈ cwd, '\x00' ∉ n) {p : List Char}
    (hp : '\x00' ∉ p) : ∀ n ∈ absolute cwd p, '\x00' ∉ n := by
  have hpieces : ∀ n ∈ p.splitOn '/', '\x00' ∉ n := fun n hn hch => hp (mem_of_mem_splitOn hn hch)
  unfold absolute
  split
  · exact hpieces
  · intro n hn
    rcases List.mem_append.mp hn with hn | hn
    · exact hcwd n hn
    · exact hpieces n hn

/-! ## Ways -/

/-- A path leads to every directory on its way from above. -/
theorem mem_trail_parent {e ns q : List Name} {n : Name} (h : q ++ [n] ∈ trail e ns) :
    q ∈ trail e ns ∨ q ++ [n] <+: e := by
  induction ns generalizing e with
  | nil =>
    have heq : q ++ [n] = e := List.mem_singleton.mp h
    exact Or.inr (heq ▸ List.prefix_rfl)
  | cons m ns ih =>
    rcases List.mem_cons.mp h with rfl | htail
    · exact Or.inr List.prefix_rfl
    · rcases ih htail with hmem | habove
      · exact Or.inl (List.mem_cons_of_mem e hmem)
      · cases hm : isPlain m with
        | false => exact Or.inr (habove.trans (push_of_not_isPlain hm))
        | true =>
          rw [push_of_isPlain e hm] at habove
          rcases List.prefix_concat_iff.mp habove with heq | hup
          · left
            rw [List.append_inj_left' heq rfl]
            exact List.mem_cons_self ..
          · exact Or.inr hup

theorem normal_mem_trail (d ns : List Name) : normal d ns ∈ trail d ns := by
  induction ns generalizing d with
  | nil => exact List.mem_singleton_self d
  | cons n ns ih => exact List.mem_cons_of_mem d (ih (push d n))

theorem length_of_mem_trail {d ns p : List Name} (h : p ∈ trail d ns) :
    p.length ≤ d.length + ns.length := by
  induction ns generalizing d with
  | nil =>
    rw [List.mem_singleton.mp h]
    exact Nat.le_add_right _ _
  | cons n ns ih =>
    rcases List.mem_cons.mp h with rfl | htail
    · exact Nat.le_add_right _ _
    · have hle := ih htail
      have hpush : (push d n).length ≤ d.length + 1 := by
        cases hn : isPlain n with
        | false => exact Nat.le_trans (push_of_not_isPlain hn).length_le (Nat.le_succ _)
        | true =>
          rw [push_of_isPlain d hn, List.length_append]
          exact Nat.le_refl _
      rw [List.length_cons]
      omega

theorem endsInName_iff {ns : List Name} :
    endsInName ns = true ↔ ∃ ms n, ns = ms ++ [n] ∧ isPlain n = true := by
  unfold endsInName
  constructor
  · intro h
    obtain ⟨n, hn, hplain⟩ := Option.any_eq_true _ _ |>.mp h
    obtain ⟨ms, rfl⟩ := List.getLast?_eq_some_iff.mp hn
    exact ⟨ms, n, rfl, hplain⟩
  · intro h
    obtain ⟨ms, n, rfl, hplain⟩ := h
    simp [hplain]

/-- A name without separators becomes the last piece of the joined path. -/
theorem absolute_append (cwd : List Name) (p : List Char) {q : List Char} (hq : '/' ∉ q) :
    ∃ ms, absolute cwd (append p q) = ms ++ [q] ∧
      normal [] (absolute cwd p) = normal [] ms ∧ ms ⊆ absolute cwd p := by
  have hhead : ¬ q.head? = some '/' := fun h => hq (List.mem_of_head? h)
  have hpieces : q.splitOn '/' = [q] := List.splitOn_eq_singleton hq
  have hempty (ms : List Name) : normal [] (ms ++ [[]]) = normal [] ms := normal_append [] ms [[]]
  rw [append, if_neg hhead]
  rcases List.eq_nil_or_concat p with rfl | ⟨xs, x, rfl⟩
  · refine ⟨cwd, ?_, hempty cwd, List.subset_append_left ..⟩
    rw [if_pos (Or.inl rfl), List.nil_append, absolute, if_neg hhead, hpieces]
  · rw [List.concat_eq_append]
    have hne : xs ++ [x] ≠ [] := by simp
    -- joining leaves the beginning of the path alone
    have hfirst (ys : List Char) : (xs ++ [x] ++ ys).head? = (xs ++ [x]).head? :=
      List.head?_append_of_ne_nil _ hne
    by_cases hx : x = '/'
    · subst hx
      rw [if_pos (Or.inr List.getLast?_concat)]
      refine ⟨(if (xs ++ ['/']).head? = some '/' then [] else cwd) ++ xs.splitOn '/', ?_, ?_, ?_⟩
      · rw [absolute, hfirst, List.append_assoc, List.singleton_append,
          List.splitOn_append_cons_self, hpieces]
        split <;> simp
      · rw [absolute, List.splitOn_append_cons_self, List.splitOn_nil]
        split
        · exact hempty _
        · rw [← List.append_assoc]
          exact hempty _
      · rw [absolute, List.splitOn_append_cons_self, List.splitOn_nil]
        split
        · exact List.subset_append_left ..
        · rw [← List.append_assoc]
          exact List.subset_append_left ..
    · rw [if_neg (by simp [hx])]
      refine ⟨absolute cwd (xs ++ [x]), ?_, rfl, List.Subset.refl _⟩
      rw [absolute, absolute, hfirst, List.splitOn_append_cons_self, hpieces]
      split <;> simp

/-! ## Trees -/

/-- The directories and files, by their canonical paths. -/
structure Tree where
  isDirectory : List Name → Bool
  isFile : List Name → Bool
  root : isDirectory [] = true
  parent : ∀ d n, isDirectory (d ++ [n]) = true ∨ isFile (d ++ [n]) = true →
    isDirectory d = true
  disjoint : ∀ p, isDirectory p = true → isFile p = false

namespace Tree

def present (t : Tree) (p : List Name) : Bool :=
  t.isDirectory p || t.isFile p

/-- Where the pieces lead from `d`; none: not present. -/
def walk (t : Tree) : List Name → List Name → Option (List Name)
  | d, [] => some d
  | d, n :: ns =>
    if t.isDirectory d && t.present (push d n) then t.walk (push d n) ns else none

/-- `std::filesystem::exists` -/
def pathExists (t : Tree) (ns : List Name) : Bool :=
  (t.walk [] (cString ns)).isSome

/-- The longest part of a path that is not present which is, and the rest. It ends before a piece
    with a NUL: that would be the last one that the system sees. -/
def existingPrefix (t : Tree) : List Name → List Name → List Name × List Name
  | d, [] => (d, [])
  | d, n :: ns =>
    if !n.contains '\x00' && t.isDirectory d && t.present (push d n) then
      t.existingPrefix (push d n) ns
    else (d, n :: ns)

/-- `std::filesystem::weakly_canonical`: a path that is present is canonical; of another one the
    part that is present is made canonical and the rest is normalised. -/
def weaklyCanonical (t : Tree) (ns : List Name) : List Name :=
  match t.walk [] (cString ns) with
  | some p => p
  | none =>
    normal (t.existingPrefix [] ns).1 (t.existingPrefix [] ns).2 ++
      if endsInName ns then [] else [[]]

/-- The file that opening the path for writing opens, creating it if it is missing. -/
def openForWrite (t : Tree) (ns : List Name) : Option (List Name) :=
  match (cString ns).getLast?, t.walk [] (cString ns).dropLast with
  | some n, some d =>
    if isPlain n && t.isDirectory d && !t.isDirectory (d ++ [n]) then some (d ++ [n]) else none
  | _, _ => none

/-- A directory is created in `d`. -/
def mkdir (t : Tree) (d : List Name) (n : Name) (hd : t.isDirectory d = true)
    (hn : t.isFile (d ++ [n]) = false) : Tree where
  isDirectory p := p = d ++ [n] || t.isDirectory p
  isFile := t.isFile
  root := by simp [t.root]
  parent := by
    intro e m h
    simp only [Bool.or_eq_true, decide_eq_true_eq] at h ⊢
    right
    rcases h with (heq | hdir) | hfile
    · rw [List.append_inj_left' heq rfl]
      exact hd
    · exact t.parent e m (Or.inl hdir)
    · exact t.parent e m (Or.inr hfile)
  disjoint := by
    intro p hp
    simp only [Bool.or_eq_true, decide_eq_true_eq] at hp
    rcases hp with rfl | hp
    · exact hn
    · exact t.disjoint p hp

/-- A file is put into `d`. -/
def putFile (t : Tree) (d : List Name) (n : Name) (hd : t.isDirectory d = true)
    (hn : t.isDirectory (d ++ [n]) = false) : Tree where
  isDirectory := t.isDirectory
  isFile p := p = d ++ [n] || t.isFile p
  root := t.root
  parent := by
    intro e m h
    simp only [Bool.or_eq_true, decide_eq_true_eq] at h
    rcases h with hdir | heq | hfile
    · exact t.parent e m (Or.inl hdir)
    · rw [List.append_inj_left' heq rfl]
      exact hd
    · exact t.parent e m (Or.inr hfile)
  disjoint := by
    intro p hp
    rw [Bool.or_eq_false_iff, decide_eq_false_iff_not]
    refine ⟨?_, t.disjoint p hp⟩
    rintro rfl
    rw [hp] at hn
    cases hn

/-- `std::filesystem::create_directories`; none: a file is in the way. -/
def createDirectories : Tree → List Name → List Name → Option Tree
  | t, _, [] => some t
  | t, d, n :: ns =>
    if t.isDirectory (push d n) then t.createDirectories (push d n) ns
    else if h : t.isDirectory d = true ∧ t.isFile (d ++ [n]) = false then
      (t.mkdir d n h.1 h.2).createDirectories (d ++ [n]) ns
    else none

variable {t : Tree}

theorem isDirectory_of_prefix {p q : List Name} (hpq : p <+: q) (hq : t.isDirectory q = true) :
    t.isDirectory p = true := by
  obtain ⟨r, rfl⟩ := hpq
  induction r using List.reverseRecOn with
  | nil => simpa using hq
  | append_singleton r n ih =>
    apply ih
    rw [← List.append_assoc] at hq
    exact t.parent _ _ (Or.inl hq)

/-- The walk ends where the lexical reading ends. -/
theorem walk_eq_some {d ns p : List Name} (h : t.walk d ns = some p) : p = normal d ns := by
  induction ns generalizing d with
  | nil => exact (Option.some.inj h).symm
  | cons n ns ih =>
    simp only [walk] at h
    split at h
    · exact ih h
    · cases h

theorem walk_append (d ns ms : List Name) :
    t.walk d (ns ++ ms) = (t.walk d ns).bind fun p => t.walk p ms := by
  induction ns generalizing d with
  | nil => rfl
  | cons n ns ih =>
    simp only [List.cons_append, walk]
    split
    · exact ih _
    · rfl

/-- Names lead into the tree as far as it goes. -/
theorem walk_of_isDirectory {d ns : List Name} (h : t.isDirectory (d ++ ns) = true)
    (hplain : ∀ n ∈ ns, isPlain n = true) : t.walk d ns = some (d ++ ns) := by
  induction ns generalizing d with
  | nil => simp [walk]
  | cons n ns ih =>
    have hpush := push_of_isPlain d (hplain n (List.mem_cons_self ..))
    have hsplit : d ++ n :: ns = (d ++ [n]) ++ ns := by simp
    have hd : t.isDirectory d = true := isDirectory_of_prefix (List.prefix_append ..) h
    have hn : t.isDirectory (d ++ [n]) = true :=
      isDirectory_of_prefix (List.prefix_append ..) (hsplit ▸ h)
    rw [walk, if_pos (by simp [present, hpush, hd, hn]), hpush, hsplit]
    apply ih
    · rwa [← hsplit]
    · intro m hm
      exact hplain m (List.mem_cons_of_mem n hm)

/-- A path that does not end in a name leads to a directory, if anywhere. -/
theorem isDirectory_of_walk {ns p : List Name} (h : t.walk [] ns = some p)
    (hends : endsInName ns = false) : t.isDirectory p = true := by
  rcases List.eq_nil_or_concat ns with rfl | ⟨ms, n, rfl⟩
  · obtain rfl := Option.some.inj h
    exact t.root
  · rw [List.concat_eq_append] at h hends
    have hn : isPlain n = false := by simpa [endsInName] using hends
    rw [walk_append] at h
    obtain ⟨d, -, hlast⟩ := Option.bind_eq_some_iff.mp h
    simp only [walk] at hlast
    split at hlast
    · rename_i hd
      rw [Bool.and_eq_true] at hd
      obtain rfl := Option.some.inj hlast
      exact isDirectory_of_prefix (push_of_not_isPlain hn) hd.1
    · cases hlast

theorem normal_existingPrefix (d ns : List Name) :
    normal (t.existingPrefix d ns).1 (t.existingPrefix d ns).2 = normal d ns := by
  induction ns generalizing d with
  | nil => rfl
  | cons n ns ih =>
    simp only [existingPrefix]
    split
    · exact ih _
    · rfl

theorem weaklyCanonical_of_walk {ns p : List Name} (h : t.walk [] (cString ns) = some p) :
    t.weaklyCanonical ns = p := by
  rw [weaklyCanonical, h]

theorem weaklyCanonical_of_not_walk {ns : List Name} (h : t.walk [] (cString ns) = none) :
    t.weaklyCanonical ns = lexicallyNormal ns := by
  rw [weaklyCanonical, h, lexicallyNormal]
  dsimp only
  rw [normal_existingPrefix]

/-! ## Opening for writing -/

theorem openForWrite_eq_some {ns p : List Name} (h : t.openForWrite ns = some p) :
    ∃ ms n, cString ns = ms ++ [n] ∧ isPlain n = true ∧ p = normal [] (cString ns) ∧
      t.walk [] ms = some (normal [] ms) ∧ t.isDirectory (normal [] ms) = true ∧
        t.isDirectory p = false := by
  unfold openForWrite at h
  rcases List.eq_nil_or_concat (cString ns) with heq | ⟨ms, n, heq⟩
  · rw [heq] at h
    cases h
  · rw [List.concat_eq_append] at heq
    rw [heq, List.getLast?_concat, List.dropLast_concat] at h
    split at h
    · rename_i m d hm hd
      obtain rfl := Option.some.inj hm
      split at h
      · rename_i hopen
        simp only [Bool.and_eq_true, Bool.not_eq_true'] at hopen
        obtain rfl := Option.some.inj h
        obtain rfl := walk_eq_some hd
        refine ⟨ms, n, heq, hopen.1.1, ?_, hd, hopen.1.2, hopen.2⟩
        rw [heq, normal_concat [] ms hopen.1.1]
      · cases h
    · cases h

/-- Where the directory is there and none has the file's name, the file is opened. -/
theorem openForWrite_of_walk {ns ms : List Name} {n : Name} (heq : cString ns = ms ++ [n])
    (hn : isPlain n = true) (hwalk : t.walk [] ms = some (normal [] ms))
    (hd : t.isDirectory (normal [] ms) = true)
    (hfree : t.isDirectory (normal [] (cString ns)) = false) :
    t.openForWrite ns = some (normal [] (cString ns)) := by
  have hp : normal [] (cString ns) = normal [] ms ++ [n] := by
    rw [heq, normal_concat [] ms hn]
  rw [hp] at hfree ⊢
  unfold openForWrite
  rw [heq, List.getLast?_concat, List.dropLast_concat, hwalk]
  simp [hn, hd, hfree]

/-- A path of names leads to a file that is there. -/
theorem openForWrite_of_present {p : List Name} (hclean : ∀ n ∈ p, '\x00' ∉ n)
    (hplain : ∀ n ∈ p, isPlain n = true) (hfile : t.isFile p = true) :
    t.openForWrite p = some p := by
  have hfree : t.isDirectory p = false := by
    by_contra hdir
    rw [t.disjoint p (by simpa using hdir)] at hfile
    cases hfile
  rcases List.eq_nil_or_concat p with rfl | ⟨d, n, rfl⟩
  · rw [t.root] at hfree
    cases hfree
  · rw [List.concat_eq_append] at hclean hplain hfile hfree ⊢
    have hread := cString_of_clean hclean
    have hnormal (ns : List Name) (h : ∀ n ∈ ns, isPlain n = true) : normal [] ns = ns :=
      (normal_of_isPlain [] h).trans (List.nil_append ns)
    have hd := t.parent d n (Or.inr hfile)
    have hdplain : ∀ m ∈ d, isPlain m = true := fun m hm =>
      hplain m (List.mem_append_left _ hm)
    have hwalk : t.walk [] d = some d := walk_of_isDirectory hd hdplain
    have hopen := openForWrite_of_walk (t := t) hread (hplain n (by simp))
      (by rwa [hnormal d hdplain]) (by rwa [hnormal d hdplain]) (by rwa [hread, hnormal _ hplain])
    rwa [hread, hnormal _ hplain] at hopen

/-- A path that leads to a file, read to its end, is opened there. Otherwise its lexical form is. -/
theorem openForWrite_weaklyCanonical_eq_some {ns p : List Name}
    (h : t.openForWrite (t.weaklyCanonical ns) = some p) :
    t.walk [] (cString ns) = some p ∧ t.isDirectory p = false ∨
      t.walk [] (cString ns) = none ∧ t.openForWrite (lexicallyNormal ns) = some p := by
  cases hwalk : t.walk [] (cString ns) with
  | none =>
    rw [weaklyCanonical_of_not_walk hwalk] at h
    exact Or.inr ⟨rfl, h⟩
  | some q =>
    rw [weaklyCanonical_of_walk hwalk] at h
    obtain ⟨ms, n, -, -, hp, -, -, hfree⟩ := openForWrite_eq_some h
    have hq := walk_eq_some hwalk
    have hclean := clean_normal (List.forall_mem_nil _) (clean_cString ns)
    rw [hq, cString_of_clean hclean, normal_normal, ← hq] at hp
    exact Or.inl ⟨congrArg some hp.symm, hfree⟩

/-! ## Directories on the way -/

theorem walk_of_trail {d ns : List Name} (h : ∀ p ∈ trail d ns, t.isDirectory p = true) :
    t.walk d ns = some (normal d ns) := by
  induction ns generalizing d with
  | nil => rfl
  | cons n ns ih =>
    have htail : ∀ p ∈ trail (push d n) ns, t.isDirectory p = true := fun p hp =>
      h p (List.mem_cons_of_mem d hp)
    have hd : t.isDirectory d = true := h d (List.mem_cons_self ..)
    have hn : t.isDirectory (push d n) = true := by
      apply htail
      cases ns <;> exact List.mem_cons_self ..
    rw [walk, if_pos (by simp [present, hd, hn])]
    exact ih htail

/-- What a walk goes through is there. -/
theorem present_of_walk {d ns q : List Name} (hd : t.present d = true)
    (h : t.walk d ns = some q) : ∀ p ∈ trail d ns, t.present p = true := by
  induction ns generalizing d with
  | nil =>
    intro p hp
    rw [List.mem_singleton.mp hp]
    exact hd
  | cons n ns ih =>
    simp only [walk] at h
    split at h
    · rename_i hstep
      rw [Bool.and_eq_true] at hstep
      intro p hp
      rcases List.mem_cons.mp hp with rfl | hp
      · exact hd
      · exact ih hstep.2 h p hp
    · cases h

/-- What a walk to a directory goes through are directories. -/
theorem isDirectory_of_mem_trail {d ns q : List Name} (h : t.walk d ns = some q)
    (hq : t.isDirectory q = true) : ∀ p ∈ trail d ns, t.isDirectory p = true := by
  induction ns generalizing d with
  | nil =>
    intro p hp
    rw [List.mem_singleton.mp hp, Option.some.inj h]
    exact hq
  | cons n ns ih =>
    simp only [walk] at h
    split at h
    · rename_i hstep
      rw [Bool.and_eq_true] at hstep
      intro p hp
      rcases List.mem_cons.mp hp with rfl | hp
      · exact hstep.1
      · exact ih h p hp
    · cases h

theorem createDirectories_spec {t t' : Tree} {d ns : List Name} (hd : t.isDirectory d = true)
    (h : t.createDirectories d ns = some t') :
    (∀ p, p ∈ trail d ns ∨ t.isDirectory p = true → t'.isDirectory p = true) ∧
      t'.isFile = t.isFile := by
  induction ns generalizing t d with
  | nil =>
    obtain rfl := Option.some.inj h
    refine ⟨fun p hp => ?_, rfl⟩
    rcases hp with hp | hp
    · rw [List.mem_singleton.mp hp]
      exact hd
    · exact hp
  | cons n ns ih =>
    simp only [createDirectories] at h
    split at h
    · rename_i hpush
      obtain ⟨hdirectory, hfile⟩ := ih hpush h
      refine ⟨fun p hp => hdirectory p ?_, hfile⟩
      rcases hp with hp | hp
      · rcases List.mem_cons.mp hp with rfl | hp
        · exact Or.inr hd
        · exact Or.inl hp
      · exact Or.inr hp
    · rename_i hpush
      split at h
      · have hn : isPlain n = true := by
          by_contra hnot
          apply hpush
          exact isDirectory_of_prefix (push_of_not_isPlain (Bool.eq_false_iff.mpr hnot)) hd
        obtain ⟨hdirectory, hfile⟩ := ih (by simp [mkdir]) h
        refine ⟨fun p hp => hdirectory p ?_, hfile⟩
        simp only [mkdir, Bool.or_eq_true, decide_eq_true_eq]
        rcases hp with hp | hp
        · rcases List.mem_cons.mp hp with rfl | hp
          · exact Or.inr (Or.inr hd)
          · rw [push_of_isPlain d hn] at hp
            exact Or.inl hp
        · exact Or.inr (Or.inr hp)
      · cases h

/-- The tree of the directories along two paths, without files. -/
def ofTrails (ns ms : List Name) : Tree where
  isDirectory p := p ∈ trail [] ns || p ∈ trail [] ms
  isFile _ := false
  root := by cases ns <;> simp [trail]
  parent := by
    intro d n h
    simp only [Bool.or_eq_true, decide_eq_true_eq, Bool.false_eq_true, or_false] at h ⊢
    have hnot : ¬ d ++ [n] <+: [] := by simp
    exact h.imp (fun h => (mem_trail_parent h).resolve_right hnot)
      fun h => (mem_trail_parent h).resolve_right hnot
  disjoint _ _ := rfl

end Tree

end FilePath
