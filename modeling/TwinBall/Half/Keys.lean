import TwinBall.Half.Settings
import TwinBall.Policy

/-!
# Key events of a half

Every key event is noted for the status display.  A keyboard may then keep the event for itself;
otherwise the keys of this library act on their press and are consumed by it, unless their feature
is not built in.  The key that scrolls while held acts on both edges and is never consumed.
-/

namespace TwinBall.Half

/-- Notes a key event for the status display. -/
def noteKey (h : Half) (e : KeyEvent) : Half :=
  { h with
    lastCode := e.code
    lastRow := e.row
    lastCol := e.col
    held := h.held.update e.code e.pressed }

/-- Whether the build has the feature of an action. -/
def hasFeature (h : Half) : KeyAction → Bool
  | .autoMouseToggle | .autoMouseLonger | .autoMouseShorter => h.config.autoMouse
  | .snapVertical | .snapHorizontal | .snapFree => h.config.hasSnapLock
  | _ => true

/-- The half after the press of an action's key at time `now`.  Saving acts on the store only. -/
def act (h : Half) (a : KeyAction) (now : UInt32) : Half :=
  match a with
  | .resetSettings => h.resetSettings
  | .saveSettings => h
  | .cpiUp => h.addCpi 1
  | .cpiDown => h.addCpi (-1)
  | .cpiUpFar => h.addCpi 10
  | .cpiDownFar => h.addCpi (-10)
  | .scrollToggle => h.setScrolling (!h.scrolling) now
  | .scrollHold => h.setScrolling true now
  | .scrollDivUp => h.addScrollDiv 1
  | .scrollDivDown => h.addScrollDiv (-1)
  | .autoMouseToggle => { h with autoMouse := h.autoMouse.setEnabled !h.autoMouse.enabled }
  | .autoMouseLonger => { h with autoMouse := h.autoMouse.step true }
  | .autoMouseShorter => { h with autoMouse := h.autoMouse.step false }
  | .snapVertical => h.setSnapMode .vertical
  | .snapHorizontal => h.setSnapMode .horizontal
  | .snapFree => h.setSnapMode .free

variable {σ : Type} [SettingsStore σ]

/-- The store after the press of an action's key: only the key that saves writes, and a refused
write is let go. -/
def actStore (h : Half) (a : KeyAction) (store : σ) : σ :=
  match a with
  | .saveSettings =>
    match h.save store with
    | .ok store => store
    | .error _ => store
  | _ => store

/-- Acts on a key event that was noted and not kept by the keyboard.  Answers whether the event
should be processed further. -/
def dispatch (h : Half) (e : KeyEvent) (store : σ) (now : UInt32) : Bool × Half × σ :=
  match KeyAction.ofCode? e.code with
  | none => (true, h, store)
  | some .scrollHold => (true, h.setScrolling e.pressed now, store)
  | some a =>
    if e.pressed && h.hasFeature a then (false, h.act a now, h.actStore a store)
    else (true, h, store)

/-- Takes in a key event at time `now`.  Answers whether the event should be processed further;
`false` means that it was consumed. -/
def key (h : Half) (policy : Policy) (e : KeyEvent) (store : σ) (now : UInt32) :
    Bool × Half × σ :=
  let h := h.noteKey e
  if policy.admits e then h.dispatch e store now else (false, h, store)

end TwinBall.Half

namespace TwinBall

/-- Whether a key code keeps the auto mouse layer on. -/
def Policy.keepsMouseLayer (policy : Policy) (code : UInt16) : Bool :=
  TwinBall.isMouseCode code || policy.isMouseCode code

end TwinBall
