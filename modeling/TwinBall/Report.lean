import TwinBall.Motion

/-!
# Mouse reports

A report tells the host which buttons are held and how far the pointer and the two wheels moved
since the last report.  This library writes the four axes and never touches the buttons.

When the host is slow, reports are merged: `coalesce` folds a later report into an earlier one as
far as the axes allow and leaves the rest in the later one.  The main statement, `toInt_foldAxis`,
says that no movement gets lost between the two.
-/

namespace TwinBall

/-- A mouse report. -/
structure Report where
  /-- One bit per held button. -/
  buttons : UInt8
  /-- Pointer movement to the right. -/
  x : Int8
  /-- Pointer movement downward. -/
  y : Int8
  /-- Vertical scroll ticks. -/
  wheel : Int8
  /-- Horizontal scroll ticks. -/
  pan : Int8
  deriving DecidableEq, Repr, Inhabited

namespace Report

/-- No buttons, no movement. -/
def empty : Report := ⟨0, 0, 0, 0, 0⟩

/-- Whether any axis is non-zero. -/
def hasMotion (r : Report) : Bool := r.x != 0 || r.y != 0 || r.wheel != 0 || r.pan != 0

/-- Whether a scroll axis is non-zero. -/
def hasScroll (r : Report) : Bool := r.pan != 0 || r.wheel != 0

/-- Folds `next` into `acc` on one axis: the sum as far as the axis can hold it, and the rest. -/
def foldAxis (acc next : Int8) : Int8 × Int8 :=
  let kept := addAxes acc next
  (kept, (acc.toInt16 + next.toInt16 - kept.toInt16).toInt8)

/-- Folds the report `next` into `acc`, axis by axis, and answers both: the merged report and
what did not fit.  The buttons follow `next`, which keeps its own. -/
def coalesce (acc next : Report) : Report × Report :=
  let (x, x') := foldAxis acc.x next.x
  let (y, y') := foldAxis acc.y next.y
  let (wheel, wheel') := foldAxis acc.wheel next.wheel
  let (pan, pan') := foldAxis acc.pan next.pan
  (⟨next.buttons, x, y, wheel, pan⟩, ⟨next.buttons, x', y', wheel', pan'⟩)

/-- On one axis, what is kept and what is left over make up the two values folded together. -/
theorem toInt_foldAxis (acc next : Int8) :
    (foldAxis acc next).1.toInt + (foldAxis acc next).2.toInt = acc.toInt + next.toInt := by
  have ha := acc.toInt_lt
  have ha' := acc.le_toInt
  have hn := next.toInt_lt
  have hn' := next.le_toInt
  have hk := toInt_addAxes acc next
  have sum : (acc.toInt + next.toInt).bmod (2 ^ 16) = acc.toInt + next.toInt :=
    Int.bmod_eq_of_le (by omega) (by omega)
  simp only [foldAxis, Int16.toInt_toInt8, Int16.toInt_sub, Int16.toInt_add,
    Int8.toInt_toInt16, hk, sum]
  rw [Int.bmod_bmod_of_dvd (by decide), Int.bmod_eq_of_le] <;> omega

end Report

end TwinBall
