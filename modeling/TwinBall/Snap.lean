import TwinBall.Report

/-!
# Scroll snapping

Rolling a ball straight is hard, so a vertical scroll always carries some horizontal ticks.  Two
strategies suppress them:

* under `lock` the user picks the allowed axes, and the others are zeroed;
* under `tension` horizontal ticks are swallowed until enough of them have built up, and a pause
  in scrolling lets the tension go.
-/

namespace TwinBall

/-- How horizontal ticks that the user did not mean are suppressed. -/
inductive SnapStrategy
  /-- Only the axes of the selected mode pass. -/
  | lock
  /-- Horizontal ticks pass once their sum has reached `threshold`; `resetAfter` milliseconds
  without a scroll forget the sum. -/
  | tension (threshold : UInt8) (resetAfter : UInt32)
  deriving DecidableEq, Repr

/-- Whether the user selects the scroll axes. -/
def SnapStrategy.isLock : SnapStrategy → Bool
  | lock => true
  | tension _ _ => false

/-- The axes that may scroll under `SnapStrategy.lock`. -/
inductive SnapMode
  | vertical
  | horizontal
  | free
  deriving DecidableEq, Repr

namespace SnapMode

/-- The stored number of a mode. -/
def code : SnapMode → UInt8
  | vertical => 0
  | horizontal => 1
  | free => 2

/-- The mode with a stored number.  Numbers that name no mode select `free`. -/
def ofCode (c : UInt8) : SnapMode :=
  if c = 0 then vertical else if c = 1 then horizontal else free

/-- Zeroes the scroll axis that the mode does not allow. -/
def project (m : SnapMode) (r : Report) : Report :=
  match m with
  | vertical => { r with pan := 0 }
  | horizontal => { r with wheel := 0 }
  | free => r

@[simp] theorem ofCode_code (m : SnapMode) : ofCode m.code = m := by
  cases m <;> rfl

end SnapMode

/-- A scroll snap filter: its strategy and what it remembers. -/
structure SnapFilter where
  /-- The strategy, fixed when the filter is made. -/
  strategy : SnapStrategy
  /-- The selected axes; they matter under `lock` only. -/
  mode : SnapMode
  /-- The horizontal ticks swallowed since the tension was last let go. -/
  tension : Int8
  /-- When the last report with scroll ticks came. -/
  lastScroll : UInt32
  deriving DecidableEq, Repr

namespace SnapFilter

/-- A filter in vertical mode, without tension. -/
def new (strategy : SnapStrategy) : SnapFilter := ⟨strategy, .vertical, 0, 0⟩

/-- Selects the allowed axes. -/
def setMode (f : SnapFilter) (m : SnapMode) : SnapFilter := { f with mode := m }

/-- The filter at time `now`, after it has looked at the scroll ticks of a report: a scroll is
remembered, a long enough pause lets the tension go.  Times count modulo `2 ^ 32`. -/
def observe (f : SnapFilter) (resetAfter : UInt32) (r : Report) (now : UInt32) : SnapFilter :=
  if r.hasScroll then { f with lastScroll := now }
  else if now - f.lastScroll ≥ resetAfter then { f with tension := 0 }
  else f

/-- Whether horizontal ticks are still swallowed. -/
def isHolding (f : SnapFilter) (threshold : UInt8) : Bool :=
  f.tension.toInt.natAbs < threshold.toNat

/-- Swallows the horizontal ticks of a report into the tension. -/
def hold (f : SnapFilter) (r : Report) : SnapFilter × Report :=
  ({ f with tension := addAxes f.tension r.pan }, { r with pan := 0 })

/-- Filters a report with fresh scroll ticks at time `now`. -/
def apply (f : SnapFilter) (r : Report) (now : UInt32) : SnapFilter × Report :=
  match f.strategy with
  | .lock => (f, f.mode.project r)
  | .tension threshold resetAfter =>
    let f := f.observe resetAfter r now
    if f.isHolding threshold then f.hold r else (f, r)

@[simp] theorem strategy_setMode (f : SnapFilter) (m : SnapMode) :
    (f.setMode m).strategy = f.strategy := rfl

@[simp] theorem strategy_observe (f : SnapFilter) (resetAfter : UInt32) (r : Report)
    (now : UInt32) : (f.observe resetAfter r now).strategy = f.strategy := by
  unfold observe
  split
  · rfl
  · split <;> rfl

@[simp] theorem strategy_apply (f : SnapFilter) (r : Report) (now : UInt32) :
    (f.apply r now).1.strategy = f.strategy := by
  unfold apply
  split
  · rfl
  · dsimp only
    split
    · exact strategy_observe ..
    · exact strategy_observe ..

end SnapFilter

end TwinBall
