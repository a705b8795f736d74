import DriverStation.Locks
import DriverStation.Reset

/-!
# Peers and TCP supervisors

The receive loop forwards every `NewTarget` to the send task, in Simulation too, while the
supervisor it spawns aims at `127.0.0.1` whenever `ds_mode` is Simulation, so the two
streams can address different peers. The supervisors' lifecycle runs on the flag
`tcp_connected`, which only a reconfiguration clears: a supervisor that fails to connect or
loses its stream is not replaced, and an old one told to disconnect clears the tag sender
of its successor with `set_tcp_tx(None)`.
-/

set_option autoImplicit false

namespace DS.Conn
open DS.Wire DS.Tcp DS.State

/-- No signal is in flight and neither task is inside an arm. -/
def Quiescent (s : Engine) : Prop :=
  s.rx = [] ∧ s.fwd = [] ∧ s.sender.pc = .idle ∧ s.receiver.pc = .idle

/-- The simulator announces itself and both tasks apply it; the facade then changes the team
number and both tasks apply that; a status packet then has a supervisor spawned. -/
def newTargetInSimulation : List Act :=
  [.sim true, .recv .signal, .recv .readMode, .recv .writeMode, .send .signal, .send .recvReset,
    .facade (.setTeamNumber 4533), .recv .signal, .send .signal, .send .recvReset,
    .recv (.datagram simStatus), .recv (.date midnight), .recv .spawn, .recv .finish]

/-- In a quiescent state with `ds_mode` Simulation the send socket is connected to the
team's RIO, not to `127.0.0.1`, and the supervisor aims at `127.0.0.1`. -/
theorem new_target_in_simulation_splits_peers :
    ∃ s, (init team4533 .live).run newTargetInSimulation = some s ∧ Quiescent s ∧
      s.send.dsMode = .simulation ∧ s.sender.socket = "10.45.33.2" ∧
      s.sups.map Supervisor.target = ["127.0.0.1"] :=
  ⟨_, rfl, ⟨rfl, rfl, rfl, rfl⟩, rfl, rfl, rfl⟩

/-- A status packet spawns a supervisor, which connects; the facade changes the team number
and the receive loop tells that supervisor to disconnect; the next status packet spawns a
second supervisor, which connects and installs its tag sender. -/
def successorInstalled : List Act :=
  [.recv (.datagram simStatus), .recv (.date midnight), .recv .spawn, .recv .finish,
    .sup 0 (.connect true), .facade (.setTeamNumber 4533), .recv .signal,
    .recv (.datagram simStatus), .recv (.date midnight), .recv .spawn, .recv .finish,
    .sup 1 (.connect true)]

def gameMessage : TcpTag := .gameData ⟨[0x4c, 0x52, 0x4c]⟩

/-- After the newer supervisor has installed its sender, the older one takes its queued
`Disconnect` and clears the TCP state's sender; both keep running, and a tag queued next is
dropped instead of reaching the newer supervisor. -/
theorem stale_shutdown_clears_successor :
    ∃ s s' s'', (init team4533 .live).run successorInstalled = some s ∧ s.tcpTx = some 1 ∧
      s.step (.sup 0 .shutdown) = some s' ∧ s'.tcpTx = none ∧
      s'.sups.map Supervisor.pc = [.running, .running] ∧
      s'.step (.facade (.queueTcp gameMessage)) = some s'' ∧ s''.sups.map Supervisor.tags = [[], []] :=
  ⟨_, _, _, rfl, rfl, rfl, rfl, rfl, rfl, rfl⟩

namespace Engine

variable {s s' : Engine}

theorem step_keeps_supervisors {a : Act} (h : s.step a = some s') (ha : a ≠ .recv .signal)
    (hc : s.receiver.tcpConnected = true) (hm : ∀ m, s.receiver.pc ≠ .readingMode m) :
    s'.receiver.tcpConnected = true ∧ s'.sups.length = s.sups.length ∧
      ∀ m, s'.receiver.pc ≠ .readingMode m := by
  cases a with
  | send a => obtain ⟨_, _, _, _, _, rfl⟩ := sendStep_eq h; exact ⟨hc, rfl, hm⟩
  | recv a =>
    cases a with
    | signal => exact absurd rfl ha
    | readMode => obtain ⟨m, hpc, -⟩ := recvStep_readMode h; exact absurd hpc (hm m)
    | writeMode =>
      obtain ⟨_, -, -, rfl⟩ := recvStep_writeMode h
      refine ⟨by simpa using hc, by simp, fun m => ?_⟩
      simp only [forward_pc]; split <;> simp
    | datagram p => obtain ⟨-, rfl⟩ := recvStep_datagram h; exact ⟨hc, rfl, by simp⟩
    | timeout =>
      obtain ⟨-, ⟨-, rfl⟩ | ⟨-, rfl⟩⟩ := recvStep_timeout h <;> exact ⟨hc, rfl, hm⟩
    | date now => obtain ⟨_, -, -, rfl⟩ := recvStep_date h; exact ⟨hc, rfl, by simp⟩
    | spawn =>
      obtain ⟨_, -, ⟨-, rfl⟩ | ⟨hc', -⟩⟩ := recvStep_spawn h
      · exact ⟨hc, rfl, by simp⟩
      · simp [hc] at hc'
    | finish => obtain ⟨_, -, -, rfl⟩ := recvStep_finish h; exact ⟨hc, rfl, by simp⟩
  | sup i a =>
    have hl := supStep_sups_length h
    obtain ⟨_, _, rfl⟩ := supStep_eq h
    exact ⟨hc, hl, hm⟩
  | sim b => obtain ⟨_, _, _, rfl⟩ := simStep_eq h; exact ⟨hc, rfl, hm⟩
  | facade op =>
    have h := (step_facade h).2
    cases hw : op.sendWrite with
    | some f => obtain ⟨-, rfl⟩ := facadeStep_write h hw; exact ⟨hc, rfl, hm⟩
    | none =>
      obtain ⟨-, hr, hl, -⟩ := facadeStep_other h hw
      exact ⟨hr ▸ hc, hl, hr ▸ hm⟩
  | constructed => obtain ⟨-, -, rfl⟩ := step_constructed h; exact ⟨hc, rfl, hm⟩

theorem run_keeps_supervisors {as : List Act} (h : s.run as = some s')
    (has : ∀ a ∈ as, a ≠ .recv .signal) (hc : s.receiver.tcpConnected = true)
    (hm : ∀ m, s.receiver.pc ≠ .readingMode m) : s'.sups.length = s.sups.length :=
  (run_induction (fun t => t.receiver.tcpConnected = true ∧ t.sups.length = s.sups.length ∧
      ∀ m, t.receiver.pc ≠ .readingMode m)
    (· ≠ .recv .signal)
    (fun ha ⟨hc, hl, hm⟩ ht =>
      let ⟨hc', hl', hm'⟩ := step_keeps_supervisors ht ha hc hm
      ⟨hc', hl'.trans hl, hm'⟩)
    ⟨hc, rfl, hm⟩ h has).2.1

end Engine

def refusedTcp : List Act :=
  [.recv (.datagram simStatus), .recv (.date midnight), .recv .spawn, .recv .finish,
    .sup 0 (.connect false),
    .recv (.datagram simStatus), .recv (.date midnight), .recv .spawn, .recv .finish]

/-- After a supervisor fails to connect, `tcp_connected` stays true with no supervisor
alive, and along every continuation without a reconfiguration signal no supervisor is
ever spawned again, however many status packets arrive. -/
theorem no_supervisor_after_failed_connect :
    ∃ s, (init team4533 .live).run refusedTcp = some s ∧ s.receiver.tcpConnected = true ∧
      s.sups.map Supervisor.pc = [.exited] ∧
      ∀ as s', s.run as = some s' → (∀ a ∈ as, a ≠ .recv .signal) → s'.sups.length = 1 :=
  ⟨_, rfl, rfl, rfl, fun _ _ h has => Engine.run_keeps_supervisors h has rfl
    fun _ h => RecvPc.noConfusion h⟩

/-! ### How many supervisors -/

def Act.isRecvSignal : Act → Bool
  | .recv .signal => true
  | _ => false

def RecvPc.readsMode : RecvPc → Bool
  | .readingMode _ => true
  | _ => false

namespace Engine

variable {s s' : Engine}

/-- The supervisors spawned so far, one more while the receive loop may still spawn, and one
more while a `NewMode` it has taken may still clear `tcp_connected`. -/
def supervisorBudget (s : Engine) : ℕ :=
  s.sups.length + (!s.receiver.tcpConnected).toNat + s.receiver.pc.readsMode.toNat

theorem recvStep_budget {a : RecvAct} (h : s.recvStep a = some s') :
    s'.supervisorBudget ≤ s.supervisorBudget + if (Act.recv a).isRecvSignal then 1 else 0 := by
  have hb := Bool.toNat_le (!s.receiver.tcpConnected || s.receiver.tcpTx.isSome)
  cases a with
  | signal =>
    obtain ⟨hpc, ⟨_, -, rfl⟩ | ⟨_, _, -, rfl⟩ | ⟨_, _, -, rfl⟩ | ⟨-, -, -, rfl⟩⟩ := recvStep_signal h
    · simp [supervisorBudget, exitRecv, closeShutdown_length, hpc, RecvPc.readsMode]
    · simp only [supervisorBudget, forward_pc, forward_sups_length, forward_tcpConnected]
      split <;> simp [hpc, RecvPc.readsMode, Act.isRecvSignal] <;> omega
    · simp [supervisorBudget, hpc, RecvPc.readsMode, Act.isRecvSignal]
    · simp [supervisorBudget, exitRecv, closeShutdown_length, hpc, RecvPc.readsMode]
  | readMode =>
    obtain ⟨_, hpc, -, ⟨-, rfl⟩ | ⟨-, rfl⟩⟩ := recvStep_readMode h <;>
      simp [supervisorBudget, hpc, RecvPc.readsMode] <;> omega
  | writeMode =>
    obtain ⟨_, hpc, -, rfl⟩ := recvStep_writeMode h
    simp only [supervisorBudget, forward_pc, forward_sups_length, forward_tcpConnected]
    split <;> simp [hpc, RecvPc.readsMode]
  | spawn =>
    obtain ⟨_, hpc, ⟨-, rfl⟩ | ⟨hc, -, rfl⟩⟩ := recvStep_spawn h
    · simp [supervisorBudget, hpc, RecvPc.readsMode]
    · simp [supervisorBudget, hpc, RecvPc.readsMode, closeShutdown_length, hc]
  | datagram p =>
    obtain ⟨hpc, rfl⟩ := recvStep_datagram h
    simp [supervisorBudget, hpc, RecvPc.readsMode]
  | timeout =>
    obtain ⟨hpc, ⟨-, rfl⟩ | ⟨-, rfl⟩⟩ := recvStep_timeout h <;>
      simp [supervisorBudget, hpc, RecvPc.readsMode]
  | date now =>
    obtain ⟨_, hpc, -, rfl⟩ := recvStep_date h
    simp [supervisorBudget, hpc, RecvPc.readsMode]
  | finish =>
    obtain ⟨_, hpc, -, rfl⟩ := recvStep_finish h
    simp [supervisorBudget, hpc, RecvPc.readsMode]

theorem step_budget {a : Act} (h : s.step a = some s') :
    s'.supervisorBudget ≤ s.supervisorBudget + if a.isRecvSignal then 1 else 0 := by
  cases a with
  | recv b => exact recvStep_budget h
  | send b => obtain ⟨_, _, _, _, _, rfl⟩ := sendStep_eq h; exact Nat.le_add_right _ _
  | sup i b =>
    have hl := supStep_sups_length h
    obtain ⟨_, _, rfl⟩ := supStep_eq h
    simp [supervisorBudget, hl]
  | sim b => obtain ⟨_, _, _, rfl⟩ := simStep_eq h; exact Nat.le_add_right _ _
  | facade op =>
    have h := (step_facade h).2
    cases hw : op.sendWrite with
    | some f => obtain ⟨-, rfl⟩ := facadeStep_write h hw; exact Nat.le_add_right _ _
    | none =>
      obtain ⟨-, hr, hl, -⟩ := facadeStep_other h hw
      simp [supervisorBudget, hr, hl, Act.isRecvSignal]
  | constructed => obtain ⟨-, -, rfl⟩ := step_constructed h; exact Nat.le_add_right _ _

theorem run_budget {as : List Act} (h : s.run as = some s') :
    s'.supervisorBudget ≤ s.supervisorBudget + as.countP Act.isRecvSignal := by
  induction as generalizing s with
  | nil => cases h; exact Nat.le_add_right _ _
  | cons a as ih =>
    rw [run_cons, Option.bind_eq_some] at h
    obtain ⟨t, ht, h⟩ := h
    have := step_budget ht
    rw [List.countP_cons]
    exact (ih h).trans (by omega)

end Engine

/-- The receive loop never leaks TCP supervisors: from a fresh driver station it has
spawned at most one more than the signals it has taken, so between two reconfigurations
at most one, however many status packets arrive. -/
theorem supervisors_le_signals {c : Config} {phase : Facade} {as : List Act} {s : Engine}
    (h : (init c phase).run as = some s) : s.sups.length ≤ 1 + as.countP Act.isRecvSignal :=
  calc s.sups.length ≤ s.supervisorBudget := by unfold Engine.supervisorBudget; omega
    _ ≤ 1 + as.countP Act.isRecvSignal := Engine.run_budget h

theorem supervisors_le_signals_refused :
    ∃ s, (init team4533 .live).run refusedTcp = some s ∧
      s.sups.length ≤ 1 + refusedTcp.countP Act.isRecvSignal :=
  ⟨_, rfl, @supervisors_le_signals team4533 .live refusedTcp _ rfl⟩

end DS.Conn
