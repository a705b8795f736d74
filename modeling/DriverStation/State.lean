import DriverStation.Inbound
import DriverStation.Outbound

/-!
# Shared driver-station state

`ds/state.rs` is absent from the sources; its three sub-states are modelled from the
spec's data model (§3) and its description of the send state (§4.2). Each sits behind its
own lock in the engine. The joystick supplier is the engine's input at each tick, so the
send state does not hold it, and the TCP state holds only which supervisor's tag sender is
installed, the consumer closure being user code.
-/

set_option autoImplicit false

namespace DS.State
open DS.Wire DS.Inbound DS.Outbound

/-- The robot mode; its control bits are 0 teleop, 1 test, 2 autonomous. -/
inductive Mode where
  | teleop
  | test
  | autonomous
  deriving DecidableEq, Repr

def Mode.bits : Mode → Byte
  | .teleop => Control.TELEOP
  | .test => Control.TEST
  | .autonomous => Control.AUTO

inductive DsMode where
  | normal
  | simulation
  deriving DecidableEq, Repr

def controlOf (mode : Mode) (enabled estopped : Bool) : Control :=
  ⟨mode.bits ||| (if enabled then Control.ENABLED else 0) ||| (if estopped then Control.ESTOP else 0),
    by cases mode <;> cases enabled <;> cases estopped <;> decide⟩

/-- Modelled from the spec: `SendState` of `ds/state.rs`, absent from the sources. -/
structure SendState where
  mode : Mode
  seqnum : BitVec 16
  enabled : Bool
  estopped : Bool
  alliance : Alliance
  pendingRequest : Option Request
  pendingUdp : List UdpTag
  dsMode : DsMode
  deriving DecidableEq

namespace SendState

/-- Modelled from the spec: a fresh send state; the spec leaves the first mode open, so it
is a parameter. -/
def new (alliance : Alliance) (mode : Mode) : SendState :=
  ⟨mode, 0, false, false, alliance, none, [], .normal⟩

def enable (s : SendState) : SendState := { s with enabled := true }
def disable (s : SendState) : SendState := { s with enabled := false }
def estop (s : SendState) : SendState := { s with estopped := true }
def setMode (s : SendState) (mode : Mode) : SendState := { s with mode }
def setAlliance (s : SendState) (alliance : Alliance) : SendState := { s with alliance }
def setDsMode (s : SendState) (dsMode : DsMode) : SendState := { s with dsMode }
def request (s : SendState) (r : Request) : SendState := { s with pendingRequest := some r }
def queueUdp (s : SendState) (t : UdpTag) : SendState := { s with pendingUdp := s.pendingUdp ++ [t] }
def incrementSeqnum (s : SendState) : SendState := { s with seqnum := s.seqnum + 1 }
def resetSeqnum (s : SendState) : SendState := { s with seqnum := 0 }

/-- Modelled from the spec: `control()`, the packet of one tick. Joystick tags come first,
then the queued tags in order; the queue and the pending request are taken. -/
def control (s : SendState) (joysticks : List Joysticks) : UdpControlPacket × SendState :=
  ({ seqnum := s.seqnum, control := controlOf s.mode s.enabled s.estopped,
     request := s.pendingRequest, alliance := s.alliance,
     tags := joysticks.map .joysticks ++ s.pendingUdp },
   { s with pendingRequest := none, pendingUdp := [] })

end SendState

/-- Modelled from the spec: `RecvState`, the last trace and battery voltage. -/
structure RecvState where
  trace : Trace
  batteryVoltage : ℚ
  deriving DecidableEq

/-- Modelled from the spec: the reset primitive zeros both. -/
def RecvState.reset : RecvState := ⟨Flags.empty, 0⟩

theorem controlOf_enabled (mode : Mode) (enabled estopped : Bool) :
    (controlOf mode enabled estopped).contains Control.ENABLED = enabled := by
  cases mode <;> cases enabled <;> cases estopped <;> decide

end DS.State
