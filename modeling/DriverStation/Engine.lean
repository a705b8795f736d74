import DriverStation.State
import DriverStation.Backoff
import DriverStation.Tcp

/-!
# The connection engine

`udp_conn` runs the receive loop and spawns the UDP send task; the loop spawns a TCP
supervisor `tcp_conn` after a decoded response; `sim_conn` probes for a simulator; the
facade `DriverStation` writes the shared state and posts signals. Each party is a program
counter with its locals, and `step` takes one action of one party. A step ends where the
code awaits a lock another party may hold: the receive loop's `NewMode` arm is three steps
(take the signal, read `ds_mode`, then `set_ds_mode` and forward) and its packet arm four.
A tick is one step: it holds the send-state lock from `control()` to `increment_seqnum()`,
across the backoff's sleep and the send, so a step that takes that lock falls wholly before
or after it. The locks held across steps are the send-state lock of the send task's
refused-send and reset arms and the recv-state lock of the packet arm; `sendHeld` and
`recvHeld` read them off the program counters, and a step that needs a lock held by another
party is not enabled. Binds and connects succeed. The receive loop takes a datagram already
decoded: one that fails to decode changes nothing, and the decoder's panics (`Inbound`) are
not steps. An inbound TCP frame handed to the consumer and the facade's reads change nothing
and are not steps either.
-/

set_option autoImplicit false

namespace DS.Conn
open DS.Wire DS.Inbound DS.Outbound DS.State DS.Backoff DS.Tcp DS.Util

inductive Signal where
  | disconnect
  | newTarget (ip : String)
  | newMode (mode : DsMode)
  deriving DecidableEq, Repr

/-- The UDP send task: at its `select!`, holding the send-state lock after a refused first
send or in a reset handler (both wait for the recv-state lock), or ended by a panic, whose
unwinding dropped its guard. -/
inductive SendPc where
  | idle
  | refused
  | resetting (target : String)
  | panicked
  deriving DecidableEq, Repr

/-- The receive loop of `udp_conn`: at its `select!`; in the three stages of the packet arm,
which hold the recv-state lock; between taking `NewMode(mode)` and reading `ds_mode`, and
between that read and `set_ds_mode`; or returned with `Ok` or `Err`. -/
inductive RecvPc where
  | idle
  | dating (p : UdpResponsePacket)
  | spawning (p : UdpResponsePacket)
  | estopping (p : UdpResponsePacket)
  | readingMode (mode : DsMode)
  | writingMode (mode : DsMode)
  | returned
  | failed
  deriving DecidableEq

inductive SupPc where
  | connecting
  | running
  | exited
  deriving DecidableEq, Repr

/-- A spawned `tcp_conn`: its queued `Disconnect`s, whether the receive loop still holds its
private channel's sender, and its outbound tag channel. -/
structure Supervisor where
  target : String
  pc : SupPc
  shutdown : ℕ
  shutdownOpen : Bool
  tags : List TcpTag
  deriving DecidableEq

structure SendTask where
  pc : SendPc
  socket : String
  backoff : ExponentialBackoff
  deriving DecidableEq

structure RecvTask where
  pc : RecvPc
  targetIp : String
  connected : Bool
  tcpConnected : Bool
  tcpTx : Option ℕ
  deriving DecidableEq

/-- The `DriverStation` value: not yet built while `new` awaits `udp_conn`, live, dropped,
or with its caller panicked on a closed channel. -/
inductive Facade where
  | constructing
  | live
  | dropped
  | panicked
  deriving DecidableEq, Repr

inductive SendResult where
  | ok
  | refused
  | failed
  deriving DecidableEq, Repr

structure Engine where
  send : SendState
  recv : RecvState
  tcpTx : Option ℕ
  sender : SendTask
  receiver : RecvTask
  fwd : List Signal
  rx : List Signal
  sups : List Supervisor
  simMode : DsMode
  simAlive : Bool
  facade : Facade
  teamNumber : BitVec 16
  /-- Every call of `udp_tx.send`, whatever the socket answered: the destination and the
  packet. -/
  sent : List (String × UdpControlPacket)

inductive SendAct where
  | tick (joysticks : List Joysticks) (result : SendResult)
  | recvReset
  | signal

inductive RecvAct where
  | datagram (p : UdpResponsePacket)
  | timeout
  | signal
  | date (now : DateTime)
  | spawn
  | finish
  | readMode
  | writeMode

inductive SupAct where
  | connect (ok : Bool)
  | streamEnd
  | shutdown
  | sendTag
  | tagsClosed

inductive FacadeOp where
  | enable
  | disable
  | estop
  | setMode (mode : Mode)
  | setAlliance (alliance : Alliance)
  | request (r : Request)
  | queueUdp (t : UdpTag)
  | queueTcp (t : TcpTag)
  | setGameSpecificMessage (message : List Byte)
  | setTeamNumber (team : BitVec 16)
  | setUseUsb (useUsb : Bool)
  | drop

inductive Act where
  | send (a : SendAct)
  | recv (a : RecvAct)
  | sup (i : ℕ) (a : SupAct)
  | sim (received : Bool)
  | facade (op : FacadeOp)
  | constructed

namespace Engine

def sendHeld (s : Engine) : Bool :=
  match s.sender.pc with
  | .refused | .resetting _ => true
  | _ => false

def recvHeld (s : Engine) : Bool :=
  match s.receiver.pc with
  | .dating _ | .spawning _ | .estopping _ => true
  | _ => false

def recvAlive (s : Engine) : Bool :=
  match s.receiver.pc with
  | .returned | .failed => false
  | _ => true

def closeShutdown (s : Engine) : List Supervisor :=
  match s.receiver.tcpTx with
  | some j => List.modify (fun u => { u with shutdownOpen := false }) j s.sups
  | none => s.sups

/-- `tcp_tx.send(Signal::Disconnect)` and `tcp_connected = false`, once one was spawned. -/
def disconnectSup (s : Engine) : Engine :=
  match s.receiver.tcpTx with
  | some j =>
    { s with
      sups := List.modify (fun u => { u with shutdown := u.shutdown + 1 }) j s.sups
      receiver := { s.receiver with tcpConnected := false } }
  | none => s

def exitRecv (s : Engine) (pc : RecvPc) : Engine :=
  { s with sups := s.closeShutdown, receiver := { s.receiver with pc } }

/-- `fwd_tx.send(..)?` of each signal; it fails once the send task has gone. -/
def forward (s : Engine) (sigs : List Signal) : Engine :=
  if s.sender.pc = .panicked then s.exitRecv .failed else { s with fwd := s.fwd ++ sigs }

def sendStep (s : Engine) : SendAct → Option Engine
  | .tick joysticks result =>
    if s.sender.pc ≠ .idle then none else
    match s.send.control joysticks with
    | (packet, send) =>
      match packet.encode with
      | .error _ => some { s with send, sender := { s.sender with pc := .panicked } }
      | .ok _ =>
        match s.sender.backoff.run (result == .ok) with
        | .error _ =>
          some { s with
            send, sent := s.sent ++ [(s.sender.socket, packet)]
            sender := { s.sender with pc := .panicked } }
        | .ok (outcome, backoff) =>
          if result = .refused ∧ outcome = some true then
            some { s with
              send, sent := s.sent ++ [(s.sender.socket, packet)]
              sender := { s.sender with pc := .refused, backoff } }
          else
            some { s with
              send := send.incrementSeqnum, sent := s.sent ++ [(s.sender.socket, packet)]
              sender := { s.sender with backoff } }
  | .recvReset =>
    if s.recvHeld then none else
    match s.sender.pc with
    | .refused =>
      some { s with
        recv := .reset, send := s.send.incrementSeqnum
        sender := { s.sender with pc := .idle } }
    | .resetting target =>
      some { s with
        recv := .reset
        sender := { s.sender with pc := .idle, socket := target, backoff := s.sender.backoff.reset } }
    | _ => none
  | .signal =>
    if s.sender.pc ≠ .idle then none else
    match s.fwd with
    | .newTarget ip :: rest =>
      some { s with
        fwd := rest, send := s.send.resetSeqnum.disable
        sender := { s.sender with pc := .resetting ip } }
    | .newMode .simulation :: rest =>
      some { s with
        fwd := rest, send := s.send.resetSeqnum.disable
        sender := { s.sender with pc := .resetting "127.0.0.1" } }
    | _ :: rest => some { s with fwd := rest }
    | [] => if s.recvAlive then none else some s

def recvStep (s : Engine) : RecvAct → Option Engine
  | .datagram p =>
    match s.receiver.pc with
    | .idle => some { s with receiver := { s.receiver with pc := .dating p, connected := true } }
    | _ => none
  | .timeout =>
    match s.receiver.pc with
    | .idle =>
      some (if s.receiver.connected then
        { s with recv := .reset, receiver := { s.receiver with connected := false } } else s)
    | _ => none
  | .date now =>
    match s.receiver.pc with
    | .dating p =>
      if !p.needDate then some { s with receiver := { s.receiver with pc := .spawning p } }
      else if s.sendHeld then none
      else
        some { s with
          send := s.send.queueUdp (.dateTime now)
          receiver := { s.receiver with pc := .spawning p } }
    | _ => none
  | .spawn =>
    match s.receiver.pc with
    | .spawning p =>
      if s.receiver.tcpConnected then some { s with receiver := { s.receiver with pc := .estopping p } }
      else if s.sendHeld then none
      else
        some { s with
          sups := s.closeShutdown ++ [⟨if s.send.dsMode = .normal then s.receiver.targetIp
            else "127.0.0.1", .connecting, 0, true, []⟩]
          receiver := { s.receiver with
            pc := .estopping p, tcpConnected := true, tcpTx := some s.sups.length } }
    | _ => none
  | .finish =>
    match s.receiver.pc with
    | .estopping p =>
      if p.status.emergencyStopped ∧ s.sendHeld then none
      else
        some { s with
          send := if p.status.emergencyStopped ∧ !s.send.estopped then s.send.estop else s.send
          recv := ⟨p.trace, p.battery⟩, receiver := { s.receiver with pc := .idle } }
    | _ => none
  | .signal =>
    match s.receiver.pc with
    | .idle =>
      match s.rx with
      | .disconnect :: rest => some (exitRecv { s with rx := rest } .returned)
      | .newTarget ip :: rest =>
        let s' := disconnectSup { s with rx := rest }
        some (forward { s' with receiver := { s'.receiver with targetIp := ip } } [.newTarget ip])
      | .newMode m :: rest =>
        some { s with rx := rest, receiver := { s.receiver with pc := .readingMode m } }
      | [] => if s.facade = .dropped ∧ !s.simAlive then some (s.exitRecv .returned) else none
    | _ => none
  | .readMode =>
    match s.receiver.pc with
    | .readingMode m =>
      if s.sendHeld then none
      else if m = s.send.dsMode then some { s with receiver := { s.receiver with pc := .idle } }
      else
        let s' := s.disconnectSup
        some { s' with receiver := { s'.receiver with pc := .writingMode m } }
    | _ => none
  | .writeMode =>
    match s.receiver.pc with
    | .writingMode m =>
      if s.sendHeld then none
      else
        some (forward { s with
            send := s.send.setDsMode m, receiver := { s.receiver with pc := .idle } }
          (if m = .normal then [.newTarget s.receiver.targetIp, .newMode m] else [.newMode m]))
    | _ => none

def setSup (s : Engine) (i : ℕ) (u : Supervisor) : Engine := { s with sups := s.sups.set i u }

def supStep (s : Engine) (i : ℕ) (a : SupAct) : Option Engine :=
  match s.sups[i]? with
  | none => none
  | some u =>
    match u.pc, a with
    | .connecting, .connect true => some { s.setSup i { u with pc := .running } with tcpTx := some i }
    | .connecting, .connect false => some (s.setSup i { u with pc := .exited })
    | .running, .streamEnd => some (s.setSup i { u with pc := .exited })
    | .running, .shutdown =>
      if 0 < u.shutdown then
        some { s.setSup i { u with shutdown := u.shutdown - 1 } with tcpTx := none }
      else if u.shutdownOpen then none
      else some { s with tcpTx := none }
    | .running, .sendTag =>
      match u.tags with
      | _ :: rest => some (s.setSup i { u with tags := rest })
      | [] => none
    | .running, .tagsClosed =>
      if u.tags = [] ∧ s.tcpTx ≠ some i then some (s.setSup i { u with pc := .exited }) else none
    | _, _ => none

/-- One probe of `sim_conn`: a byte received, or the 250 ms timeout. Its `unwrap` of a send
on the closed channel ends it. -/
def simStep (s : Engine) (received : Bool) : Option Engine :=
  if !s.simAlive then none else
  let m := if received then DsMode.simulation else .normal
  if s.simMode = m then some s
  else if s.recvAlive then some { s with simMode := m, rx := s.rx ++ [.newMode m] }
  else some { s with simMode := m, simAlive := false }

def withSend (s : Engine) (f : SendState → SendState) : Option Engine :=
  if s.sendHeld then none else some { s with send := f s.send }

/-- Modelled from the spec: `TcpState::queue_tcp`, absent from the sources. The tag goes
on the installed supervisor's channel, and is dropped when none is installed. -/
def queueTcp (s : Engine) (t : TcpTag) : Engine :=
  match s.tcpTx with
  | some i => { s with sups := List.modify (fun u => { u with tags := u.tags ++ [t] }) i s.sups }
  | none => s

/-- `thread_tx.send(..).unwrap()`: once `udp_conn` has returned the channel is closed and
the caller panics. -/
def postSignal (s : Engine) (sig : Signal) : Engine :=
  if s.recvAlive then { s with rx := s.rx ++ [sig] } else { s with facade := .panicked }

def trySignal (s : Engine) (sig : Signal) : Engine :=
  if s.recvAlive then { s with rx := s.rx ++ [sig] } else s

def teamIp (team : BitVec 16) : String := (ipFromTeamNumber (team.setWidth 32)).getD ""

def facadeStep (s : Engine) : FacadeOp → Option Engine
  | .enable => s.withSend SendState.enable
  | .disable => s.withSend SendState.disable
  | .estop => s.withSend SendState.estop
  | .setMode m => s.withSend (·.setMode m)
  | .setAlliance a => s.withSend (·.setAlliance a)
  | .request r => s.withSend (·.request r)
  | .queueUdp t => s.withSend (·.queueUdp t)
  | .queueTcp t => some (s.queueTcp t)
  | .setGameSpecificMessage m => some (if m.length = 3 then s.queueTcp (.gameData ⟨m⟩) else s)
  | .setTeamNumber team => some (postSignal { s with teamNumber := team } (.newTarget (teamIp team)))
  | .setUseUsb true => some (s.postSignal (.newTarget "172.22.11.2"))
  | .setUseUsb false => some (s.postSignal (.newTarget (teamIp s.teamNumber)))
  | .drop => some (trySignal { s with facade := .dropped } .disconnect)

def step (s : Engine) : Act → Option Engine
  | .send a => s.sendStep a
  | .recv a => s.recvStep a
  | .sup i a => s.supStep i a
  | .sim received => s.simStep received
  | .facade op => if s.facade = .live then s.facadeStep op else none
  | .constructed =>
    if s.facade = .constructing ∧ s.receiver.pc = .returned then some { s with facade := .live }
    else none

def run (s : Engine) : List Act → Option Engine
  | [] => some s
  | a :: as => (s.step a).bind fun s' => s'.run as

end Engine

structure Config where
  ip : String
  alliance : Alliance
  mode : Mode
  teamNumber : BitVec 16

/-- The state `DriverStation::new(ip, alliance, team_number)` sets up: fresh shared state,
the send task connected to `ip:1110` with a 5 s backoff ceiling, `sim_conn` spawned, and
the receive loop at its top. `facade` is `constructing` while `new` awaits `udp_conn`. -/
def init (c : Config) (facade : Facade) : Engine where
  send := SendState.new c.alliance c.mode
  recv := .reset
  tcpTx := none
  sender := ⟨.idle, c.ip, .new (Duration.fromMillis 5000)⟩
  receiver := ⟨.idle, c.ip, true, false, none⟩
  fwd := []
  rx := []
  sups := []
  simMode := .normal
  simAlive := true
  facade := facade
  teamNumber := c.teamNumber
  sent := []

def Reachable (s0 s : Engine) : Prop := ∃ as, s0.run as = some s

theorem Engine.run_cons (s : Engine) (a : Act) (as : List Act) :
    s.run (a :: as) = (s.step a).bind fun s' => s'.run as := rfl

theorem Engine.run_induction (P : Engine → Prop) (allowed : Act → Prop)
    (hstep : ∀ {t t' : Engine} {a : Act}, allowed a → P t → t.step a = some t' → P t')
    {as : List Act} {s s' : Engine} (h0 : P s) (h : s.run as = some s')
    (has : ∀ a ∈ as, allowed a) : P s' := by
  induction as generalizing s with
  | nil => cases h; exact h0
  | cons a as ih =>
    simp only [Engine.run_cons, Option.bind_eq_some] at h
    obtain ⟨t, ht, h⟩ := h
    exact ih (hstep (has a (List.mem_cons_self _ _)) h0 ht) h fun b hb =>
      has b (List.mem_cons_of_mem _ hb)

theorem Reachable.induction (P : Engine → Prop) {s0 s : Engine} (h0 : P s0)
    (hstep : ∀ {t t' : Engine} {a : Act}, P t → t.step a = some t' → P t')
    (h : Reachable s0 s) : P s :=
  let ⟨_, h⟩ := h
  Engine.run_induction P (fun _ => True) (fun _ => hstep) h0 h fun _ _ => trivial

end DS.Conn
