import TwinBall.Half.Settings
import TwinBall.Policy

/-!
# Booting a half
-/

namespace TwinBall.Half

/-- Starts a half: notes whether its sensor answered, takes in the stored settings, and lets the
keyboard adjust its layout.  A sensor that answered has to be told the resolution. -/
def boot {σ : Type} [SettingsStore σ] (h : Half) (ball : Bool) (store : σ) :
    Half × List Notice :=
  let h := { h with ownBall := ball, cpiUnapplied := ball }
  ((h.load store).2, [.layout .pending])

end TwinBall.Half
