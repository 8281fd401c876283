/-
  The crop frame of an image: `ImageCropperQLabel` while the mouse drags it.

  Each corner of the frame has its own copy of the same computation. `always_valid_iff`: the frame
  stays inside the image, not below the minimum size, and square where it has to be, exactly as
  long as no drag of the right upper corner makes it too small and no drag of the left upper corner
  of a square takes it above the image. The first copy measures the width from the wrong edge
  (`dx` is negative as soon as the mouse is left of the corner, and a negative `int` is a large
  `std::size_t`), the second one compares the wrong way round.

  A `QRect` has inclusive edges. The image is the one that the label shows, whose coordinates are
  far below the range of `int`: what is computed from points in it does not overflow (`IsInt`).
-/
import Mathlib.Algebra.Group.Int.Defs
import Mathlib.Algebra.Group.Nat.Even
import DistributedIM.Lib.Trace

namespace DistributedIM.Client

/-! ## Points and rectangles -/

structure QPoint where
  x : Int
  y : Int
  deriving DecidableEq, Repr

structure QRect where
  left : Int
  top : Int
  right : Int
  bottom : Int
  deriving DecidableEq, Repr

namespace QRect

def width (r : QRect) : Int := r.right - r.left + 1

def height (r : QRect) : Int := r.bottom - r.top + 1

def topLeft (r : QRect) : QPoint := ⟨r.left, r.top⟩

def topRight (r : QRect) : QPoint := ⟨r.right, r.top⟩

def bottomLeft (r : QRect) : QPoint := ⟨r.left, r.bottom⟩

def bottomRight (r : QRect) : QPoint := ⟨r.right, r.bottom⟩

/-- The divisions are those of C++, towards 0. -/
def center (r : QRect) : QPoint :=
  ⟨(r.left + r.right).tdiv 2, (r.top + r.bottom).tdiv 2⟩

def moveTo (r : QRect) (x y : Int) : QRect :=
  ⟨x, y, r.right + (x - r.left), r.bottom + (y - r.top)⟩

/-- `lo` and `hi` may be the wrong way round. -/
def between (lo hi n : Int) (proper : Bool) : Bool :=
  let (l, r) := if hi < lo - 1 then (hi + 1, lo - 1) else (lo, hi)
  if proper then l < n && n < r else l ≤ n && n ≤ r

/-- `proper`: on an edge is not inside. -/
def contains (r : QRect) (p : QPoint) (proper : Bool) : Bool :=
  between r.left r.right p.x proper && between r.top r.bottom p.y proper

/-- The coordinates are `int`, and so are their sums, and twice the distances between them. -/
structure IsInt (r : QRect) : Prop where
  left : -2 ^ 29 ≤ r.left
  top : -2 ^ 29 ≤ r.top
  right : r.right < 2 ^ 29
  bottom : r.bottom < 2 ^ 29

end QRect

/-- An `int` that is compared with a `std::size_t`. -/
def intToSize (n : Int) : Nat :=
  (n % 2 ^ 64).toNat

theorem intToSize_lt_iff {n : Int} {m : Nat} (hlo : -2 ^ 63 ≤ n) (hhi : n < 2 ^ 63)
    (hm : m < 2 ^ 63) : intToSize n < m ↔ 0 ≤ n ∧ n < m := by
  unfold intToSize
  omega

/-! ## The label -/

inductive CroppingShape
  | undefined
  | fixedRect
  | fixedEllipse
  | rect
  | square
  | ellipse
  | circle
  deriving DecidableEq, Repr

inductive CroppingPosition
  | outsideRect
  | insideRect
  | leftTop
  | leftMid
  | leftButtom
  | rightTop
  | rightMid
  | rightButtom
  | buttomMid
  | topMid
  deriving DecidableEq, Repr

structure ImageCropperQLabel where
  isLbuttonPressed : Bool
  pressedPos : QPoint
  currMovedPos : QPoint
  shape : CroppingShape
  imageRect : QRect
  croppedRect : QRect
  imageRect_int : imageRect.IsInt

namespace ImageCropperQLabel

def selectionSquareLength : Nat := 8

def cropperMinimumWidth : Nat := selectionSquareLength * 2

def cropperMinimumHeight : Nat := selectionSquareLength * 2

def isMouseInsideSelectionSquare (p₁ p₂ : QPoint) : Bool :=
  intToSize ((p₁.x - p₂.x).natAbs * 2) ≤ selectionSquareLength &&
    intToSize ((p₁.y - p₂.y).natAbs * 2) ≤ selectionSquareLength

def getPositionInCropperRect (r : QRect) (p : QPoint) : CroppingPosition :=
  if isMouseInsideSelectionSquare p ⟨r.right, r.center.y⟩ then .rightMid
  else if isMouseInsideSelectionSquare p ⟨r.left, r.center.y⟩ then .leftMid
  else if isMouseInsideSelectionSquare p ⟨r.center.x, r.bottom⟩ then .buttomMid
  else if isMouseInsideSelectionSquare p ⟨r.center.x, r.top⟩ then .topMid
  else if isMouseInsideSelectionSquare p r.bottomLeft then .leftButtom
  else if isMouseInsideSelectionSquare p r.bottomRight then .rightButtom
  else if isMouseInsideSelectionSquare p r.topLeft then .leftTop
  else if isMouseInsideSelectionSquare p r.topRight then .rightTop
  else if r.contains p true then .insideRect
  else .outsideRect

/-- What the four corners share: nothing happens if both sides would be below the minimum, and the
    shape decides between two ways to go on. -/
def resized (s : ImageCropperQLabel) (dx dy : Int) (free square : QRect) : QRect :=
  if intToSize dx < cropperMinimumWidth ∧ intToSize dy < cropperMinimumHeight then s.croppedRect
  else
    match s.shape with
    | .rect | .ellipse => free
    | .square | .circle => square
    | _ => s.croppedRect

def rightButtom (s : ImageCropperQLabel) : QRect :=
  let p := s.currMovedPos
  let r := s.croppedRect
  let dx := p.x - r.left
  let dy := p.y - r.top
  s.resized dx dy
    { r with
      right := if cropperMinimumWidth ≤ intToSize dx then p.x else r.right
      bottom := if cropperMinimumHeight ≤ intToSize dy then p.y else r.bottom }
    (if dy < dx ∧ dx + r.top ≤ s.imageRect.bottom then
      { r with bottom := r.top + dx, right := p.x }
    else if dx ≤ dy ∧ dy + r.left ≤ s.imageRect.right then
      { r with bottom := p.y, right := dy + r.left }
    else r)

def leftButtom (s : ImageCropperQLabel) : QRect :=
  let p := s.currMovedPos
  let r := s.croppedRect
  let dx := r.right - p.x
  let dy := p.y - r.top
  s.resized dx dy
    { r with
      left := if cropperMinimumWidth ≤ intToSize dx then p.x else r.left
      bottom := if cropperMinimumHeight ≤ intToSize dy then p.y else r.bottom }
    (if dy < dx ∧ dx + r.top ≤ s.imageRect.bottom then
      { r with bottom := r.top + dx, left := p.x }
    else if dx ≤ dy ∧ s.imageRect.left ≤ r.right - dy then
      { r with bottom := p.y, left := r.right - dy }
    else r)

/-- The first branch of a square compares the other way round than that of the other corners. -/
def leftTop (s : ImageCropperQLabel) : QRect :=
  let p := s.currMovedPos
  let r := s.croppedRect
  let dx := r.right - p.x
  let dy := r.bottom - p.y
  s.resized dx dy
    { r with
      left := if cropperMinimumWidth ≤ intToSize dx then p.x else r.left
      top := if cropperMinimumHeight ≤ intToSize dy then p.y else r.top }
    (if dy < dx ∧ r.bottom - dx ≤ s.imageRect.top then
      { r with top := r.bottom - dx, left := p.x }
    else if dx ≤ dy ∧ s.imageRect.left ≤ r.right - dy then
      { r with top := p.y, left := r.right - dy }
    else r)

/-- `dx` is not measured from the left edge, and the last branch sets the bottom to an x. -/
def rightTop (s : ImageCropperQLabel) : QRect :=
  let p := s.currMovedPos
  let r := s.croppedRect
  let dx := p.x - r.right
  let dy := r.bottom - p.y
  s.resized dx dy
    { r with
      right := if cropperMinimumWidth ≤ intToSize dx then p.x else r.right
      top := if cropperMinimumHeight ≤ intToSize dy then p.y else r.top }
    (if dx < dy ∧ dy + r.left ≤ s.imageRect.right then
      { r with right := dy + r.left, top := p.y }
    else if dy ≤ dx ∧ s.imageRect.top ≤ r.bottom - dx then
      { r with bottom := p.x, left := p.x - dx }
    else r)

/-- An offset along one axis, 0 if it would take the edges `lo` and `hi` out of the image. -/
def clamp (offset lo hi imageLo imageHi : Int) : Int :=
  if 0 < offset then
    if imageHi < hi + offset then 0 else offset
  else
    if lo + offset < imageLo then 0 else offset

def translated (s : ImageCropperQLabel) (xOffset yOffset : Int) : QRect :=
  let r := s.croppedRect
  let xOffset := clamp xOffset r.left r.right s.imageRect.left s.imageRect.right
  let yOffset := clamp yOffset r.top r.bottom s.imageRect.top s.imageRect.bottom
  r.moveTo (r.left + xOffset) (r.top + yOffset)

/-- The frame after `moveSelectionFrame`. -/
def moveSelectionFrame (s : ImageCropperQLabel) (pos : CroppingPosition) (xOffset yOffset : Int) :
    QRect :=
  match pos with
  | .rightButtom => s.rightButtom
  | .leftButtom => s.leftButtom
  | .leftTop => s.leftTop
  | .rightTop => s.rightTop
  | .insideRect => s.translated xOffset yOffset
  | _ => s.croppedRect

def mousePressEvent (s : ImageCropperQLabel) (p : QPoint) : ImageCropperQLabel :=
  { s with isLbuttonPressed := true, pressedPos := p, currMovedPos := p }

def mouseMoveEvent (s : ImageCropperQLabel) (p : QPoint) : ImageCropperQLabel :=
  let status := getPositionInCropperRect s.croppedRect p
  let s := { s with currMovedPos := p }
  if !s.isLbuttonPressed || !s.imageRect.contains p false then s
  else
    { s with
      pressedPos := p
      croppedRect := s.moveSelectionFrame status (p.x - s.pressedPos.x) (p.y - s.pressedPos.y) }

def mouseReleaseEvent (s : ImageCropperQLabel) : ImageCropperQLabel :=
  { s with isLbuttonPressed := false }

inductive MouseEvent
  | press (p : QPoint)
  | move (p : QPoint)
  | release
  deriving DecidableEq, Repr

def step (s : ImageCropperQLabel) : MouseEvent → Option ImageCropperQLabel
  | .press p => some (s.mousePressEvent p)
  | .move p => some (s.mouseMoveEvent p)
  | .release => some s.mouseReleaseEvent

/-! ## What the frame is to be -/

def isFree : CroppingShape → Bool
  | .rect | .ellipse => true
  | _ => false

def isSquare : CroppingShape → Bool
  | .square | .circle => true
  | _ => false

/-- The frame `r` is inside the image, not too small, and square if it has to be. -/
structure ValidFrame (shape : CroppingShape) (image r : QRect) : Prop where
  left : image.left ≤ r.left
  top : image.top ≤ r.top
  right : r.right ≤ image.right
  bottom : r.bottom ≤ image.bottom
  width : cropperMinimumWidth ≤ r.width
  height : cropperMinimumHeight ≤ r.height
  square : isSquare shape = true → r.width = r.height

def Valid (s : ImageCropperQLabel) : Prop :=
  ValidFrame s.shape s.imageRect s.croppedRect

/-- The drags of the upper corners of a frame `r` that keep it valid. -/
def KeepsFrame (shape : CroppingShape) (image r : QRect) (p : QPoint) : CroppingPosition → Prop
  | .rightTop => p.x < r.right →
      (isFree shape = true → cropperMinimumWidth ≤ p.x - r.left + 1) ∧
      (isSquare shape = true → r.bottom - p.y + r.left ≤ image.right →
        cropperMinimumHeight ≤ r.bottom - p.y + 1)
  | .leftTop => isSquare shape = true → r.bottom - p.y < r.right - p.x →
      cropperMinimumWidth ≤ r.right - p.x → image.top ≤ r.bottom - (r.right - p.x)
  | _ => True

/-- The event is no drag that spoils the frame. -/
def Careful (s : ImageCropperQLabel) : MouseEvent → Prop
  | .move p => s.isLbuttonPressed = true → s.imageRect.contains p false = true →
      KeepsFrame s.shape s.imageRect s.croppedRect p (getPositionInCropperRect s.croppedRect p)
  | _ => True

instance (shape : CroppingShape) (image r : QRect) (p : QPoint) :
    ∀ pos, Decidable (KeepsFrame shape image r p pos)
  | .rightTop => inferInstanceAs (Decidable (_ → (_ → _) ∧ (_ → _ → _)))
  | .leftTop => inferInstanceAs (Decidable (_ → _ → _ → _))
  | .outsideRect | .insideRect | .leftMid | .leftButtom | .rightMid | .rightButtom
  | .buttomMid | .topMid => isTrue trivial

instance (s : ImageCropperQLabel) : ∀ e, Decidable (Careful s e)
  | .move _ => inferInstanceAs (Decidable (_ → _ → KeepsFrame _ _ _ _ _))
  | .press _ | .release => isTrue trivial

/-! ## The mouse at a corner -/

/-- The mouse is inside the image of a valid frame. -/
structure Drag (s : ImageCropperQLabel) : Prop where
  valid : s.Valid
  left : s.imageRect.left ≤ s.currMovedPos.x
  right : s.currMovedPos.x ≤ s.imageRect.right
  top : s.imageRect.top ≤ s.currMovedPos.y
  bottom : s.currMovedPos.y ≤ s.imageRect.bottom

/-- The mouse is on the square around `q`. -/
structure Near (p q : QPoint) : Prop where
  left : q.x - 4 ≤ p.x
  right : p.x ≤ q.x + 4
  top : q.y - 4 ≤ p.y
  bottom : p.y ≤ q.y + 4

theorem near_of_inside {p q : QPoint} (h : isMouseInsideSelectionSquare p q = true)
    (hx : (p.x - q.x).natAbs < 2 ^ 32) (hy : (p.y - q.y).natAbs < 2 ^ 32) : Near p q := by
  rw [isMouseInsideSelectionSquare, Bool.and_eq_true, decide_eq_true_iff, decide_eq_true_iff] at h
  obtain ⟨hx', hy'⟩ := h
  unfold selectionSquareLength intToSize at hx' hy'
  constructor <;> omega

/-- The corner that a position stands for. -/
def cornerOf (r : QRect) : CroppingPosition → Option QPoint
  | .leftButtom => some r.bottomLeft
  | .rightButtom => some r.bottomRight
  | .leftTop => some r.topLeft
  | .rightTop => some r.topRight
  | _ => none

theorem inside_cornerOf {r : QRect} {p q : QPoint}
    (hq : cornerOf r (getPositionInCropperRect r p) = some q) :
    isMouseInsideSelectionSquare p q = true := by
  unfold getPositionInCropperRect at hq
  split_ifs at hq with h₁ h₂ h₃ h₄ hleftButtom hrightButtom hleftTop hrightTop
  · cases hq
  · cases hq
  · cases hq
  · cases hq
  · obtain rfl := Option.some.inj hq
    exact hleftButtom
  · obtain rfl := Option.some.inj hq
    exact hrightButtom
  · obtain rfl := Option.some.inj hq
    exact hleftTop
  · obtain rfl := Option.some.inj hq
    exact hrightTop
  · cases hq
  · cases hq

theorem between_iff {lo hi n : Int} (h : lo ≤ hi) :
    QRect.between lo hi n false = true ↔ lo ≤ n ∧ n ≤ hi := by
  have hright : ¬ hi < lo - 1 := by omega
  simp [QRect.between, hright]

theorem minimumWidth_eq : cropperMinimumWidth = 16 := rfl

theorem minimumHeight_eq : cropperMinimumHeight = 16 := rfl

theorem drag_of_contains {s : ImageCropperQLabel} (h : s.Valid)
    (hp : s.imageRect.contains s.currMovedPos false = true) : s.Drag := by
  have hwidth := h.width
  have hheight := h.height
  rw [minimumWidth_eq] at hwidth
  rw [minimumHeight_eq] at hheight
  have hx : s.imageRect.left ≤ s.imageRect.right := by
    have := h.left
    have := h.right
    unfold QRect.width at hwidth
    omega
  have hy : s.imageRect.top ≤ s.imageRect.bottom := by
    have := h.top
    have := h.bottom
    unfold QRect.height at hheight
    omega
  rw [QRect.contains, Bool.and_eq_true, between_iff hx, between_iff hy] at hp
  exact ⟨h, hp.1.1, hp.1.2, hp.2.1, hp.2.2⟩

/-! ## The corners -/

theorem validFrame_iff {shape : CroppingShape} {image r : QRect} : ValidFrame shape image r ↔
    (image.left ≤ r.left ∧ image.top ≤ r.top ∧ r.right ≤ image.right ∧ r.bottom ≤ image.bottom) ∧
      15 ≤ r.right - r.left ∧ 15 ≤ r.bottom - r.top ∧
      (isSquare shape = true → r.right - r.left = r.bottom - r.top) := by
  constructor
  · intro h
    have hwidth := h.width
    have hheight := h.height
    have hsquare := h.square
    simp only [QRect.width, QRect.height, minimumWidth_eq, minimumHeight_eq]
      at hwidth hheight hsquare
    refine ⟨⟨h.left, h.top, h.right, h.bottom⟩, by omega, by omega, ?_⟩
    intro hshape
    have := hsquare hshape
    omega
  · rintro ⟨⟨hleft, htop, hright, hbottom⟩, hwidth, hheight, hsquare⟩
    refine ⟨hleft, htop, hright, hbottom, ?_, ?_, ?_⟩
    · rw [QRect.width, minimumWidth_eq]
      omega
    · rw [QRect.height, minimumHeight_eq]
      omega
    · intro hshape
      rw [QRect.width, QRect.height, hsquare hshape]

theorem small_iff {n : Int} (hlo : -2 ^ 32 ≤ n) (hhi : n < 2 ^ 32) :
    intToSize n < cropperMinimumWidth ↔ 0 ≤ n ∧ n < 16 :=
  intToSize_lt_iff (by omega) (by omega) (by decide)

theorem isFree_of_isSquare {shape : CroppingShape} (h : isSquare shape = true) :
    isFree shape = false := by
  cases shape <;> first | rfl | cases h

theorem validFrame_resized_iff {s : ImageCropperQLabel} (h : s.Valid) (dx dy : Int)
    (free square : QRect) : ValidFrame s.shape s.imageRect (s.resized dx dy free square) ↔
      (¬ (intToSize dx < cropperMinimumWidth ∧ intToSize dy < cropperMinimumHeight) →
        (isFree s.shape = true → ValidFrame s.shape s.imageRect free) ∧
        (isSquare s.shape = true → ValidFrame s.shape s.imageRect square)) := by
  unfold Valid at h
  unfold resized
  split
  · rename_i hsmall
    exact ⟨fun _ hbig => absurd hsmall hbig, fun _ => h⟩
  · rename_i hbig
    rw [forall_prop_of_true hbig]
    cases hshape : s.shape <;> simp [isFree, isSquare, hshape] at h ⊢ <;> exact h

/-- A free frame only has to be inside the image and large enough. -/
theorem validFrame_free {shape : CroppingShape} (hfree : isFree shape = true) {image r : QRect} :
    ValidFrame shape image r ↔
      (image.left ≤ r.left ∧ image.top ≤ r.top ∧ r.right ≤ image.right ∧
        r.bottom ≤ image.bottom) ∧ 15 ≤ r.right - r.left ∧ 15 ≤ r.bottom - r.top := by
  have hsquare : isSquare shape ≠ true := by
    intro hsquare
    rw [isFree_of_isSquare hsquare] at hfree
    cases hfree
  rw [validFrame_iff, forall_prop_of_false hsquare, and_true]

section Corner

variable {s : ImageCropperQLabel}

theorem validFrame_rightButtom (h : s.Drag)
    (hnear : Near s.currMovedPos s.croppedRect.bottomRight) :
    ValidFrame s.shape s.imageRect s.rightButtom := by
  obtain ⟨hvalid, hx, hx', hy, hy'⟩ := h
  obtain ⟨⟨hleft, htop, hright, hbottom⟩, hwidth, hheight, hsquare⟩ := validFrame_iff.mp hvalid
  obtain ⟨hil, hit, hir, hib⟩ := s.imageRect_int
  have hnearX : s.croppedRect.right - 4 ≤ s.currMovedPos.x := hnear.left
  have hnearY : s.croppedRect.bottom - 4 ≤ s.currMovedPos.y := hnear.top
  have hdx := small_iff (n := s.currMovedPos.x - s.croppedRect.left) (by omega) (by omega)
  have hdy := small_iff (n := s.currMovedPos.y - s.croppedRect.top) (by omega) (by omega)
  have hH : cropperMinimumHeight = cropperMinimumWidth := rfl
  refine (validFrame_resized_iff hvalid _ _ _ _).mpr fun hbig => ⟨?_, ?_⟩
  · intro hfree
    rw [validFrame_free hfree]
    dsimp only
    split_ifs <;> omega
  · intro hshape
    have hside := hsquare hshape
    rw [validFrame_iff]
    split_ifs
    · dsimp only
      omega
    · dsimp only
      omega
    · omega

theorem validFrame_leftButtom (h : s.Drag)
    (hnear : Near s.currMovedPos s.croppedRect.bottomLeft) :
    ValidFrame s.shape s.imageRect s.leftButtom := by
  obtain ⟨hvalid, hx, hx', hy, hy'⟩ := h
  obtain ⟨⟨hleft, htop, hright, hbottom⟩, hwidth, hheight, hsquare⟩ := validFrame_iff.mp hvalid
  obtain ⟨hil, hit, hir, hib⟩ := s.imageRect_int
  have hnearX : s.currMovedPos.x ≤ s.croppedRect.left + 4 := hnear.right
  have hnearY : s.croppedRect.bottom - 4 ≤ s.currMovedPos.y := hnear.top
  have hdx := small_iff (n := s.croppedRect.right - s.currMovedPos.x) (by omega) (by omega)
  have hdy := small_iff (n := s.currMovedPos.y - s.croppedRect.top) (by omega) (by omega)
  have hH : cropperMinimumHeight = cropperMinimumWidth := rfl
  refine (validFrame_resized_iff hvalid _ _ _ _).mpr fun hbig => ⟨?_, ?_⟩
  · intro hfree
    rw [validFrame_free hfree]
    dsimp only
    split_ifs <;> omega
  · intro hshape
    have hside := hsquare hshape
    rw [validFrame_iff]
    split_ifs
    · dsimp only
      omega
    · dsimp only
      omega
    · omega

/-- The first branch of a square is only right if it takes the frame to the upper edge. -/
theorem validFrame_leftTop_iff (h : s.Drag) (hnear : Near s.currMovedPos s.croppedRect.topLeft) :
    ValidFrame s.shape s.imageRect s.leftTop ↔
      KeepsFrame s.shape s.imageRect s.croppedRect s.currMovedPos .leftTop := by
  obtain ⟨hvalid, hx, hx', hy, hy'⟩ := h
  obtain ⟨⟨hleft, htop, hright, hbottom⟩, hwidth, hheight, hsquare⟩ := validFrame_iff.mp hvalid
  obtain ⟨hil, hit, hir, hib⟩ := s.imageRect_int
  have hnearX : s.currMovedPos.x ≤ s.croppedRect.left + 4 := hnear.right
  have hnearY : s.currMovedPos.y ≤ s.croppedRect.top + 4 := hnear.bottom
  have hdx := small_iff (n := s.croppedRect.right - s.currMovedPos.x) (by omega) (by omega)
  have hdy := small_iff (n := s.croppedRect.bottom - s.currMovedPos.y) (by omega) (by omega)
  have hH : cropperMinimumHeight = cropperMinimumWidth := rfl
  have hW := minimumWidth_eq
  rw [leftTop, validFrame_resized_iff hvalid]
  constructor
  · intro hresized hshape hlong hlarge
    have hframe := (hresized (by omega)).2 hshape
    rw [validFrame_iff] at hframe
    split_ifs at hframe
    · exact hframe.1.2.1
    · omega
    · omega
  · intro hkeeps hbig
    constructor
    · intro hfree
      rw [validFrame_free hfree]
      dsimp only
      split_ifs <;> omega
    · intro hshape
      have hside := hsquare hshape
      have hinside := hkeeps hshape
      rw [validFrame_iff]
      split_ifs
      · dsimp only
        omega
      · dsimp only
        omega
      · omega

theorem validFrame_rightTop_iff (h : s.Drag) (hnear : Near s.currMovedPos s.croppedRect.topRight) :
    ValidFrame s.shape s.imageRect s.rightTop ↔
      KeepsFrame s.shape s.imageRect s.croppedRect s.currMovedPos .rightTop := by
  obtain ⟨hvalid, hx, hx', hy, hy'⟩ := h
  obtain ⟨⟨hleft, htop, hright, hbottom⟩, hwidth, hheight, hsquare⟩ := validFrame_iff.mp hvalid
  obtain ⟨hil, hit, hir, hib⟩ := s.imageRect_int
  have hnearX : s.croppedRect.right - 4 ≤ s.currMovedPos.x := hnear.left
  have hnearX' : s.currMovedPos.x ≤ s.croppedRect.right + 4 := hnear.right
  have hnearY : s.currMovedPos.y ≤ s.croppedRect.top + 4 := hnear.bottom
  -- `dx` is at most 4, so only a negative one gets past the comparisons with the minimum
  have hdx := small_iff (n := s.currMovedPos.x - s.croppedRect.right) (by omega) (by omega)
  have hdy := small_iff (n := s.croppedRect.bottom - s.currMovedPos.y) (by omega) (by omega)
  have hH : cropperMinimumHeight = cropperMinimumWidth := rfl
  have hW := minimumWidth_eq
  rw [rightTop, validFrame_resized_iff hvalid]
  constructor
  · intro hresized hshrinks
    obtain ⟨hfrees, hsquares⟩ := hresized (by omega)
    constructor
    · intro hfree
      have hframe := hfrees hfree
      rw [validFrame_free hfree] at hframe
      dsimp only at hframe
      split_ifs at hframe <;> omega
    · intro hshape hfits
      have hframe := hsquares hshape
      rw [validFrame_iff] at hframe
      split_ifs at hframe
      · dsimp only at hframe
        omega
      · omega
      · omega
  · intro hkeeps hbig
    constructor
    · intro hfree
      have hlarge := fun hshrinks => (hkeeps hshrinks).1 hfree
      rw [validFrame_free hfree]
      dsimp only
      split_ifs <;> omega
    · intro hshape
      have hside := hsquare hshape
      have hlarge := fun hshrinks => (hkeeps hshrinks).2 hshape
      rw [validFrame_iff]
      split_ifs
      · dsimp only
        omega
      · omega
      · omega

end Corner

/-! ## Translation -/

theorem clamp_inside {lo hi imageLo imageHi : Int} (hlo : imageLo ≤ lo) (hhi : hi ≤ imageHi)
    (offset : Int) :
    imageLo ≤ lo + clamp offset lo hi imageLo imageHi ∧
      hi + clamp offset lo hi imageLo imageHi ≤ imageHi := by
  unfold clamp
  split_ifs <;> omega

theorem validFrame_translated {s : ImageCropperQLabel} (h : s.Valid) (xOffset yOffset : Int) :
    ValidFrame s.shape s.imageRect (s.translated xOffset yOffset) := by
  obtain ⟨⟨hleft, htop, hright, hbottom⟩, hwidth, hheight, hsquare⟩ := validFrame_iff.mp h
  have hx := clamp_inside hleft hright xOffset
  have hy := clamp_inside htop hbottom yOffset
  rw [validFrame_iff, translated]
  dsimp only [QRect.moveTo]
  refine ⟨by omega, by omega, by omega, fun hshape => ?_⟩
  have hside := hsquare hshape
  omega

/-! ## Runs -/

/-- The mouse is near the corner whose position it has. -/
theorem Drag.near {s : ImageCropperQLabel} (h : s.Drag) {q : QPoint} (hq : cornerOf s.croppedRect
    (getPositionInCropperRect s.croppedRect s.currMovedPos) = some q) :
    Near s.currMovedPos q := by
  have hinside := inside_cornerOf hq
  obtain ⟨hvalid, hx, hx', hy, hy'⟩ := h
  obtain ⟨⟨hleft, htop, hright, hbottom⟩, hwidth, hheight, -⟩ := validFrame_iff.mp hvalid
  obtain ⟨hil, hit, hir, hib⟩ := s.imageRect_int
  have hcorner : (q.x = s.croppedRect.left ∨ q.x = s.croppedRect.right) ∧
      (q.y = s.croppedRect.top ∨ q.y = s.croppedRect.bottom) := by
    generalize getPositionInCropperRect s.croppedRect s.currMovedPos = pos at hq
    cases pos with
    | leftButtom =>
      obtain rfl := Option.some.inj hq
      exact ⟨Or.inl rfl, Or.inr rfl⟩
    | rightButtom =>
      obtain rfl := Option.some.inj hq
      exact ⟨Or.inr rfl, Or.inr rfl⟩
    | leftTop =>
      obtain rfl := Option.some.inj hq
      exact ⟨Or.inl rfl, Or.inl rfl⟩
    | rightTop =>
      obtain rfl := Option.some.inj hq
      exact ⟨Or.inr rfl, Or.inl rfl⟩
    | _ => cases hq
  exact near_of_inside hinside (by omega) (by omega)

/-- What a drag does to the frame. -/
theorem validFrame_moveSelectionFrame_iff {s : ImageCropperQLabel} (h : s.Drag)
    (xOffset yOffset : Int) :
    ValidFrame s.shape s.imageRect (s.moveSelectionFrame
        (getPositionInCropperRect s.croppedRect s.currMovedPos) xOffset yOffset) ↔
      KeepsFrame s.shape s.imageRect s.croppedRect s.currMovedPos
        (getPositionInCropperRect s.croppedRect s.currMovedPos) := by
  have hnear : ∀ q, cornerOf s.croppedRect
      (getPositionInCropperRect s.croppedRect s.currMovedPos) = some q →
      Near s.currMovedPos q := fun q hq => h.near hq
  generalize getPositionInCropperRect s.croppedRect s.currMovedPos = pos at hnear ⊢
  cases pos with
  | rightButtom => exact iff_of_true (validFrame_rightButtom h (hnear _ rfl)) trivial
  | leftButtom => exact iff_of_true (validFrame_leftButtom h (hnear _ rfl)) trivial
  | leftTop => exact validFrame_leftTop_iff h (hnear _ rfl)
  | rightTop => exact validFrame_rightTop_iff h (hnear _ rfl)
  | insideRect => exact iff_of_true (validFrame_translated h.valid _ _) trivial
  | _ => exact iff_of_true h.valid trivial

theorem valid_step_iff {s s' : ImageCropperQLabel} {e : MouseEvent} (h : s.Valid)
    (hstep : step s e = some s') : s'.Valid ↔ Careful s e := by
  cases e with
  | press p =>
    obtain rfl := Option.some.inj hstep
    exact iff_of_true h trivial
  | release =>
    obtain rfl := Option.some.inj hstep
    exact iff_of_true h trivial
  | move p =>
    obtain rfl := Option.some.inj hstep
    unfold mouseMoveEvent Careful
    dsimp only
    split
    · rename_i hignored
      refine iff_of_true h fun hpressed hinside => ?_
      rw [hpressed, hinside] at hignored
      exact absurd hignored Bool.false_ne_true
    · rename_i hdragged
      rw [Bool.or_eq_true, not_or, Bool.not_eq_true', Bool.not_eq_true', Bool.not_eq_false,
        Bool.not_eq_false] at hdragged
      have hdrag := drag_of_contains (s := { s with currMovedPos := p }) h hdragged.2
      rw [forall_prop_of_true hdragged.1, forall_prop_of_true hdragged.2]
      exact validFrame_moveSelectionFrame_iff hdrag _ _

/-- The frame stays valid exactly as long as every drag is one that keeps it. -/
theorem always_valid_iff {s : ImageCropperQLabel} (h : s.Valid) (es : List MouseEvent) :
    Trace.Always step Valid s es ↔ Trace.Meets step Careful s es :=
  Trace.always_iff_meets Valid (fun _ hs => hs)
    (fun _ _ _ hs hcareful hstep => (valid_step_iff hs hstep).mpr hcareful)
    (fun _ _ _ hs hcareful hstep hs' => hcareful ((valid_step_iff hs hstep).mp hs')) h es

def circleLabel : ImageCropperQLabel where
  isLbuttonPressed := false
  pressedPos := ⟨0, 0⟩
  currMovedPos := ⟨0, 0⟩
  shape := .circle
  imageRect := ⟨0, 0, 99, 99⟩
  croppedRect := ⟨20, 2, 50, 32⟩
  imageRect_int := ⟨by decide, by decide, by decide, by decide⟩

theorem valid_circleLabel : circleLabel.Valid :=
  validFrame_iff.mpr (by decide)

theorem always_valid_translated :
    Trace.Always step Valid circleLabel [.press ⟨35, 17⟩, .move ⟨40, 20⟩] :=
  (always_valid_iff valid_circleLabel _).mpr (by decide)

/-- The left upper corner is drawn four pixels to the left, and the frame leaves the image. -/
theorem not_always_valid_leftTop :
    circleLabel.Valid ∧
      ¬ Trace.Always step Valid circleLabel [.press ⟨20, 2⟩, .move ⟨16, 2⟩] := by
  refine ⟨valid_circleLabel, fun h => ?_⟩
  have hframe := Trace.exec_of_always h rfl
  exact absurd hframe.top (by decide)

end ImageCropperQLabel

end DistributedIM.Client
