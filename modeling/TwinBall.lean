import TwinBall.Lighting
import TwinBall.Link.Serial
import TwinBall.Pair
import TwinBall.Report.Output
import TwinBall.Sensor.Pmw3360
import TwinBall.Settings.Flash
import TwinBall.Status
import TwinBall.Proofs.Wire.Reading
import TwinBall.Proofs.Wire.RoundTrip
import TwinBall.Proofs.Wire.Emission
import TwinBall.Proofs.Half.Answering
import TwinBall.Proofs.Half.Calls
import TwinBall.Proofs.Half.Discovery
import TwinBall.Proofs.Half.Ranges
import TwinBall.Proofs.Settings.Word
import TwinBall.Proofs.Half.Persistence
import TwinBall.Proofs.Settings.Ledger
import TwinBall.Proofs.Settings.Durability
import TwinBall.Proofs.Half.Resolution
import TwinBall.Proofs.Relay.Line
import TwinBall.Proofs.Relay.Delivery
import TwinBall.Proofs.Motion.Counter
import TwinBall.Proofs.Half.Exactness
import TwinBall.Proofs.Lighting.Effects
import TwinBall.Proofs.Lighting.Slots
import TwinBall.Proofs.Relay.Accord
import TwinBall.Proofs.Wire.Corruption
import TwinBall.Proofs.Half.Draining
import TwinBall.Proofs.Half.OneBall
import TwinBall.Proofs.Half.Alike
import TwinBall.Proofs.Half.Inhibition
import TwinBall.Proofs.Half.Reports
import TwinBall.Proofs.Half.Defaults
import TwinBall.Proofs.Link.Requests
import TwinBall.Proofs.Report.Tension
import TwinBall.Proofs.Sensor.Select
import TwinBall.Proofs.Sensor.Bursts
import TwinBall.Proofs.Lighting.Values
import TwinBall.Proofs.Wire.StaleBytes
import TwinBall.Proofs.Key.Display
import TwinBall.Proofs.Report.Merging
import TwinBall.Proofs.Status.Lines
import TwinBall.Proofs.Relay.Pair
