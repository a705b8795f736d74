import DriverStation.Lifecycle

/-!
# The two state locks

The send task takes the send-state lock and then the recv-state lock, in its refused-send
arm and in its `NewTarget` and `NewMode(Simulation)` handlers. The receive loop holds the
recv-state lock across its packet arm and takes the send-state lock inside it, for the
`DateTime` tag, for the `ds_mode` read before a spawn and for the e-stop latch. The two
orders meet: once each task holds its first lock and waits for the other's, no step of
any party releases either, and the simulator's announcement reaches that state while
`DriverStation::new` is still waiting for `udp_conn`.
-/

set_option autoImplicit false

namespace DS.Conn
open DS.Wire DS.Inbound DS.Outbound DS.State

namespace Engine

variable {s s' : Engine}

def SendWaitsRecv (s : Engine) : Prop := s.sender.pc = .refused ∨ ∃ t, s.sender.pc = .resetting t

def RecvWaitsSend (s : Engine) : Prop :=
  (∃ p, s.receiver.pc = .dating p ∧ p.needDate = true) ∨
  (∃ p, s.receiver.pc = .spawning p ∧ s.receiver.tcpConnected = false) ∨
  (∃ p, s.receiver.pc = .estopping p ∧ p.status.emergencyStopped = true)

def Deadlocked (s : Engine) : Prop := SendWaitsRecv s ∧ RecvWaitsSend s

theorem sendHeld_of_waits (h : SendWaitsRecv s) : s.sendHeld = true := by
  rcases h with h | ⟨t, h⟩ <;> simp [sendHeld, h]

theorem recvHeld_of_waits (h : RecvWaitsSend s) : s.recvHeld = true := by
  rcases h with ⟨p, h, -⟩ | ⟨p, h, -⟩ | ⟨p, h, -⟩ <;> simp [recvHeld, h]

theorem sendStep_deadlocked (h : Deadlocked s) (a : SendAct) : s.sendStep a = none := by
  have hr := recvHeld_of_waits h.2
  rcases h.1 with hp | ⟨t, hp⟩ <;> cases a <;> simp [sendStep, hp, hr]

theorem recvStep_deadlocked (h : Deadlocked s) (a : RecvAct) : s.recvStep a = none := by
  have hs := sendHeld_of_waits h.1
  rcases h.2 with ⟨p, hp, hw⟩ | ⟨p, hp, hw⟩ | ⟨p, hp, hw⟩ <;> cases a <;>
    simp [recvStep, hp, hs, hw]

theorem deadlocked_step (h : Deadlocked s) {a : Act} (hs : s.step a = some s') :
    s'.sender = s.sender ∧ s'.receiver = s.receiver := by
  cases a with
  | send a => simp [step, sendStep_deadlocked h] at hs
  | recv a => simp [step, recvStep_deadlocked h] at hs
  | sup i a => obtain ⟨_, _, rfl⟩ := supStep_eq hs; exact ⟨rfl, rfl⟩
  | sim b => obtain ⟨_, _, _, rfl⟩ := simStep_eq hs; exact ⟨rfl, rfl⟩
  | facade op => obtain ⟨_, _, _, _, _, rfl⟩ := facadeStep_eq (step_facade hs).2; exact ⟨rfl, rfl⟩
  | constructed =>
    have hpc : s.receiver.pc ≠ .returned := by
      rcases h.2 with ⟨p, hp, -⟩ | ⟨p, hp, -⟩ | ⟨p, hp, -⟩ <;> simp [hp]
    simp [step, hpc] at hs

theorem deadlocked_of_frame (h : Deadlocked s) (hsend : s'.sender = s.sender)
    (hrecv : s'.receiver = s.receiver) : Deadlocked s' := by
  simpa [Deadlocked, SendWaitsRecv, RecvWaitsSend, hsend, hrecv] using h

theorem deadlocked_run (h : Deadlocked s) {as : List Act} (hr : s.run as = some s') :
    s'.sender = s.sender ∧ s'.receiver = s.receiver :=
  (run_induction (fun t => Deadlocked t ∧ t.sender = s.sender ∧ t.receiver = s.receiver)
    (fun _ => True)
    (fun _ ⟨hd, h1, h2⟩ ht =>
      let ⟨h3, h4⟩ := deadlocked_step hd ht
      ⟨deadlocked_of_frame hd h3 h4, h3.trans h1, h4.trans h2⟩)
    ⟨h, rfl, rfl⟩ hr fun _ _ => trivial).2

end Engine

def simStatus : UdpResponsePacket := ⟨0, Flags.empty, Flags.empty, 0, false⟩

def midnight : DateTime := ⟨0, 0, 0, 0, 1, 0, 124⟩

/-- `sim_conn` hears the simulator, the receive loop takes `NewMode`, reads `ds_mode`, sets
it and forwards the signal, the send task's handler takes the send lock, and the
simulator's first status arrives. -/
def simulatorStart : List Act :=
  [.sim true, .recv .signal, .recv .readMode, .recv .writeMode, .send .signal,
    .recv (.datagram simStatus), .recv (.date midnight)]

/-- Inside `DriverStation::new`, with no facade call, the simulator's announcement leaves
the send task in its handler waiting for the recv-state lock and the receive loop in its
packet arm waiting for the send-state lock, and neither ever moves again. -/
theorem simulator_start_deadlock :
    ∃ s, (init team4533 .constructing).run simulatorStart = some s ∧ s.Deadlocked ∧
      ∀ as s', s.run as = some s' → s'.sender = s.sender ∧ s'.receiver = s.receiver := by
  refine ⟨_, rfl, ⟨.inr ⟨"127.0.0.1", rfl⟩, .inr (.inl ⟨simStatus, rfl, rfl⟩)⟩, ?_⟩
  intro as s' h
  exact Engine.deadlocked_run ⟨.inr ⟨"127.0.0.1", rfl⟩, .inr (.inl ⟨simStatus, rfl, rfl⟩)⟩ h

end DS.Conn
