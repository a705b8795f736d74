import DriverStation.Wire
import DriverStation.Float32
import DriverStation.Inbound
import DriverStation.Util
import DriverStation.Outbound
import DriverStation.Tcp
import DriverStation.Backoff
import DriverStation.State
import DriverStation.Engine
import DriverStation.Footprint
import DriverStation.Lifecycle
import DriverStation.Locks
import DriverStation.Reset
import DriverStation.Targets
import DriverStation.Stream
import DriverStation.Feedback
