import DriverStation.Engine

/-!
# What each step can do

For every party a footprint lemma names the fields its step may write. For the send task
and the receive loop one inversion lemma per arm says when the arm is enabled and what it
leaves, and the facade's calls split into the send-state writes and the rest. The
invariants of the engine are derived from these and do not unfold a step again.
-/

set_option autoImplicit false

namespace DS.Conn
open DS.Wire DS.Inbound DS.Outbound DS.State

def Signal.mode? : Signal → Option DsMode
  | .newMode m => some m
  | _ => none

/-- The send-state write of each facade call that makes one. -/
def FacadeOp.sendWrite : FacadeOp → Option (SendState → SendState)
  | .enable => some SendState.enable
  | .disable => some SendState.disable
  | .estop => some SendState.estop
  | .setMode m => some (·.setMode m)
  | .setAlliance a => some (·.setAlliance a)
  | .request r => some (·.request r)
  | .queueUdp t => some (·.queueUdp t)
  | _ => none

namespace Engine

variable {s s' : Engine}

/-- The send task's `select!` would take a `NewTarget` or a `NewMode(Simulation)`, the two
signals with a reset handler. -/
def takesReset (s : Engine) : Bool :=
  match s.fwd with
  | .newTarget _ :: _ | .newMode .simulation :: _ => true
  | _ => false

/-! ### The receive loop's helpers -/

theorem closeShutdown_length : s.closeShutdown.length = s.sups.length := by
  unfold closeShutdown; split <;> simp [List.length_modify]

section
variable (sigs : List Signal)

@[simp] theorem forward_send : (s.forward sigs).send = s.send := by unfold forward; split <;> rfl
@[simp] theorem forward_recv : (s.forward sigs).recv = s.recv := by unfold forward; split <;> rfl
@[simp] theorem forward_rx : (s.forward sigs).rx = s.rx := by unfold forward; split <;> rfl
@[simp] theorem forward_simMode : (s.forward sigs).simMode = s.simMode := by
  unfold forward; split <;> rfl

@[simp] theorem forward_pc :
    (s.forward sigs).receiver.pc = if s.sender.pc = .panicked then .failed else s.receiver.pc := by
  unfold forward; split <;> simp_all [exitRecv]

@[simp] theorem forward_tcpConnected :
    (s.forward sigs).receiver.tcpConnected = s.receiver.tcpConnected := by
  unfold forward; split <;> rfl

@[simp] theorem forward_sups_length : (s.forward sigs).sups.length = s.sups.length := by
  unfold forward; split
  · exact closeShutdown_length
  · rfl

end

@[simp] theorem disconnectSup_send : s.disconnectSup.send = s.send := by
  unfold disconnectSup; split <;> rfl
@[simp] theorem disconnectSup_recv : s.disconnectSup.recv = s.recv := by
  unfold disconnectSup; split <;> rfl
@[simp] theorem disconnectSup_rx : s.disconnectSup.rx = s.rx := by
  unfold disconnectSup; split <;> rfl
@[simp] theorem disconnectSup_sender : s.disconnectSup.sender = s.sender := by
  unfold disconnectSup; split <;> rfl
@[simp] theorem disconnectSup_simMode : s.disconnectSup.simMode = s.simMode := by
  unfold disconnectSup; split <;> rfl
@[simp] theorem disconnectSup_pc : s.disconnectSup.receiver.pc = s.receiver.pc := by
  unfold disconnectSup; split <;> rfl

@[simp] theorem disconnectSup_tcpConnected :
    s.disconnectSup.receiver.tcpConnected = (s.receiver.tcpConnected && s.receiver.tcpTx.isNone) := by
  unfold disconnectSup; split <;> simp_all

@[simp] theorem disconnectSup_sups_length : s.disconnectSup.sups.length = s.sups.length := by
  unfold disconnectSup; split <;> simp [List.length_modify]

/-! ### Footprints -/

theorem supStep_eq {i : ℕ} {a : SupAct} (h : s.supStep i a = some s') :
    ∃ sups tcpTx, s' = { s with sups, tcpTx } := by
  unfold supStep setSup at h
  repeat' split at h
  all_goals first | (cases h; exact ⟨_, _, rfl⟩) | cases h

theorem supStep_sups_length {i : ℕ} {a : SupAct} (h : s.supStep i a = some s') :
    s'.sups.length = s.sups.length := by
  unfold supStep setSup at h
  repeat' split at h
  all_goals first | (cases h; simp) | cases h

theorem simStep_eq {b : Bool} (h : s.simStep b = some s') :
    ∃ rx simMode simAlive, s' = { s with rx, simMode, simAlive } := by
  simp only [simStep] at h
  split_ifs at h <;> cases h <;> exact ⟨_, _, _, rfl⟩

theorem simStep_cases {b : Bool} (h : s.simStep b = some s') :
    s' = s ∨ ∃ m, (s.recvAlive = true ∧ s' = { s with simMode := m, rx := s.rx ++ [.newMode m] }) ∨
      (s.recvAlive = false ∧ s' = { s with simMode := m, simAlive := false }) := by
  simp only [simStep] at h
  split_ifs at h <;> cases h
  all_goals first
    | exact .inl rfl
    | exact .inr ⟨_, .inl ⟨‹_›, rfl⟩⟩
    | exact .inr ⟨_, .inr ⟨Bool.eq_false_iff.mpr ‹_›, rfl⟩⟩

theorem facadeStep_eq {op : FacadeOp} (h : s.facadeStep op = some s') :
    ∃ send sups rx facade teamNumber, s' = { s with send, sups, rx, facade, teamNumber } := by
  cases op <;> simp only [facadeStep, withSend, queueTcp, postSignal, trySignal] at h <;>
    repeat' split at h
  all_goals first | (cases h; exact ⟨_, _, _, _, _, rfl⟩) | cases h

theorem sendStep_eq {a : SendAct} (h : s.sendStep a = some s') :
    ∃ send recv sender fwd sent, s' = { s with send, recv, sender, fwd, sent } := by
  unfold sendStep at h
  repeat' split at h
  all_goals first | (cases h; exact ⟨_, _, _, _, _, rfl⟩) | cases h

theorem recvStep_eq {a : RecvAct} (h : s.recvStep a = some s') :
    ∃ send recv receiver fwd rx sups, s' = { s with send, recv, receiver, fwd, rx, sups } := by
  cases a <;> simp only [recvStep, exitRecv, forward, disconnectSup] at h <;> repeat' split at h
  all_goals first | (cases h; exact ⟨_, _, _, _, _, _, rfl⟩) | cases h

/-! ### The send task's arms -/

theorem sendStep_tick {js : List Joysticks} {r : SendResult}
    (h : s.sendStep (.tick js r) = some s') :
    s.sender.pc = .idle ∧ s'.recv = s.recv ∧
    (s'.sent = s.sent ∧ s'.sender.pc = .panicked ∨
      s'.sent = s.sent ++ [(s.sender.socket, (s.send.control js).1)]) ∧
    (s'.send = (s.send.control js).2.incrementSeqnum ∧ s'.sender.pc = .idle ∨
      s'.send = (s.send.control js).2 ∧ (s'.sender.pc = .refused ∨ s'.sender.pc = .panicked)) := by
  simp only [sendStep] at h
  repeat' split at h
  all_goals first | (cases h; simp_all) | cases h

theorem sendStep_recvReset (h : s.sendStep .recvReset = some s') :
    s'.sent = s.sent ∧ s'.recv = .reset ∧ s'.sender.pc = .idle ∧
      (s.sender.pc = .refused ∧ s'.send = s.send.incrementSeqnum ∨
        (∃ t, s.sender.pc = .resetting t) ∧ s'.send = s.send) := by
  simp only [sendStep] at h
  repeat' split at h
  all_goals first | (cases h; simp_all) | cases h

theorem sendStep_signal (h : s.sendStep .signal = some s') :
    s.sender.pc = .idle ∧ s'.sent = s.sent ∧ s'.recv = s.recv ∧
      (s.takesReset = true ∧ s'.send = s.send.resetSeqnum.disable ∧
          (∃ t, s'.sender.pc = .resetting t) ∨
        s.takesReset = false ∧ s'.send = s.send ∧ s'.sender = s.sender) := by
  simp only [sendStep] at h
  split at h
  · cases h
  refine ⟨not_not.mp ‹_›, ?_⟩
  rcases hf : s.fwd with _ | ⟨_ | ip | (_ | _), rest⟩ <;> simp only [hf] at h
  all_goals first | (split at h <;> cases h) | cases h
  all_goals simp [takesReset, hf]

/-! ### The receive loop's arms -/

theorem recvStep_datagram {p : UdpResponsePacket} (h : s.recvStep (.datagram p) = some s') :
    s.receiver.pc = .idle ∧
      s' = { s with receiver := { s.receiver with pc := .dating p, connected := true } } := by
  simp only [recvStep] at h
  split at h
  · exact ⟨‹_›, (Option.some.inj h).symm⟩
  · cases h

theorem recvStep_timeout (h : s.recvStep .timeout = some s') :
    s.receiver.pc = .idle ∧ (s.receiver.connected = true ∧
      s' = { s with recv := .reset, receiver := { s.receiver with connected := false } } ∨
      s.receiver.connected = false ∧ s' = s) := by
  simp only [recvStep] at h
  split at h
  · cases h; cases s.receiver.connected <;> simp_all
  · cases h

theorem recvStep_date {now : DateTime} (h : s.recvStep (.date now) = some s') :
    ∃ p, s.receiver.pc = .dating p ∧ (p.needDate = true → s.sendHeld = false) ∧
      s' = { s with
        send := if p.needDate then s.send.queueUdp (.dateTime now) else s.send
        receiver := { s.receiver with pc := .spawning p } } := by
  simp only [recvStep] at h
  repeat' split at h
  all_goals first | (cases h; simp_all) | cases h

theorem recvStep_spawn (h : s.recvStep .spawn = some s') :
    ∃ p, s.receiver.pc = .spawning p ∧
      (s.receiver.tcpConnected = true ∧
          s' = { s with receiver := { s.receiver with pc := .estopping p } } ∨
        s.receiver.tcpConnected = false ∧ s.sendHeld = false ∧
          s' = { s with
            sups := s.closeShutdown ++ [⟨if s.send.dsMode = .normal then s.receiver.targetIp
              else "127.0.0.1", .connecting, 0, true, []⟩]
            receiver := { s.receiver with
              pc := .estopping p, tcpConnected := true, tcpTx := some s.sups.length } }) := by
  simp only [recvStep] at h
  repeat' split at h
  all_goals first | (cases h; simp_all) | cases h

theorem recvStep_finish (h : s.recvStep .finish = some s') :
    ∃ p, s.receiver.pc = .estopping p ∧
      (p.status.emergencyStopped = true → s.sendHeld = false) ∧
      s' = { s with
        send := if p.status.emergencyStopped ∧ !s.send.estopped then s.send.estop else s.send
        recv := ⟨p.trace, p.battery⟩, receiver := { s.receiver with pc := .idle } } := by
  simp only [recvStep] at h
  split at h
  next _ p hpc =>
    split at h
    next => cases h
    next hn => cases h; exact ⟨p, hpc, fun he => by simpa [he] using hn, rfl⟩
  next => cases h

theorem recvStep_signal (h : s.recvStep .signal = some s') :
    s.receiver.pc = .idle ∧
      ((∃ rest, s.rx = .disconnect :: rest ∧ s' = exitRecv { s with rx := rest } .returned) ∨
        (∃ ip rest, s.rx = .newTarget ip :: rest ∧
          let t := disconnectSup { s with rx := rest }
          s' = forward { t with receiver := { t.receiver with targetIp := ip } } [.newTarget ip]) ∨
        (∃ m rest, s.rx = .newMode m :: rest ∧
          s' = { s with rx := rest, receiver := { s.receiver with pc := .readingMode m } }) ∨
        (s.rx = [] ∧ s.facade = .dropped ∧ s.simAlive = false ∧ s' = s.exitRecv .returned)) := by
  simp only [recvStep] at h
  split at h
  next hpc =>
    refine ⟨hpc, ?_⟩
    rcases hrx : s.rx with _ | ⟨_ | ip | m, rest⟩ <;> simp only [hrx] at h
    · split at h
      next hd => cases h; exact .inr (.inr (.inr ⟨rfl, hd.1, by simpa using hd.2, rfl⟩))
      next => cases h
    · cases h; exact .inl ⟨rest, rfl, rfl⟩
    · cases h; exact .inr (.inl ⟨ip, rest, rfl, rfl⟩)
    · cases h; exact .inr (.inr (.inl ⟨m, rest, rfl, rfl⟩))
  next => cases h

theorem recvStep_readMode (h : s.recvStep .readMode = some s') :
    ∃ m, s.receiver.pc = .readingMode m ∧ s.sendHeld = false ∧
      (m = s.send.dsMode ∧ s' = { s with receiver := { s.receiver with pc := .idle } } ∨
        m ≠ s.send.dsMode ∧
          s' = { s.disconnectSup with
            receiver := { s.disconnectSup.receiver with pc := .writingMode m } }) := by
  simp only [recvStep] at h
  repeat' split at h
  all_goals first | (cases h; simp_all) | cases h

theorem recvStep_writeMode (h : s.recvStep .writeMode = some s') :
    ∃ m, s.receiver.pc = .writingMode m ∧ s.sendHeld = false ∧
      s' = forward { s with
          send := s.send.setDsMode m, receiver := { s.receiver with pc := .idle } }
        (if m = .normal then [.newTarget s.receiver.targetIp, .newMode m] else [.newMode m]) := by
  simp only [recvStep] at h
  repeat' split at h
  all_goals first | (cases h; simp_all) | cases h

theorem recvStep_send {a : RecvAct} (h : s.recvStep a = some s') :
    s'.send = s.send ∨ (∃ now, a = .date now ∧ s'.send = s.send.queueUdp (.dateTime now)) ∨
      (a = .finish ∧ s'.send = s.send.estop) ∨
      (∃ m, a = .writeMode ∧ s'.send = s.send.setDsMode m) := by
  cases a with
  | date now =>
    obtain ⟨p, -, -, rfl⟩ := recvStep_date h
    cases p.needDate
    exacts [.inl rfl, .inr (.inl ⟨now, rfl, rfl⟩)]
  | finish =>
    obtain ⟨p, -, -, rfl⟩ := recvStep_finish h
    split
    exacts [.inr (.inr (.inl ⟨rfl, rfl⟩)), .inl rfl]
  | writeMode =>
    obtain ⟨m, -, -, rfl⟩ := recvStep_writeMode h
    exact .inr (.inr (.inr ⟨m, rfl, by simp⟩))
  | signal =>
    rcases (recvStep_signal h).2 with ⟨_, -, rfl⟩ | ⟨_, _, -, rfl⟩ | ⟨_, _, -, rfl⟩ | ⟨-, -, -, rfl⟩ <;>
      simp [exitRecv]
  | readMode => obtain ⟨_, -, -, ⟨-, rfl⟩ | ⟨-, rfl⟩⟩ := recvStep_readMode h <;> simp
  | datagram p => obtain ⟨-, rfl⟩ := recvStep_datagram h; exact .inl rfl
  | timeout => obtain ⟨-, ⟨-, rfl⟩ | ⟨-, rfl⟩⟩ := recvStep_timeout h <;> exact .inl rfl
  | spawn => obtain ⟨_, -, ⟨-, rfl⟩ | ⟨-, -, rfl⟩⟩ := recvStep_spawn h <;> exact .inl rfl

/-! ### The facade -/

theorem facadeStep_write {op : FacadeOp} {f : SendState → SendState}
    (h : s.facadeStep op = some s') (hf : op.sendWrite = some f) :
    s.sendHeld = false ∧ s' = { s with send := f s.send } := by
  cases op <;> cases hf <;> simp only [facadeStep, withSend] at h <;> split at h <;>
    first | (cases h; exact ⟨Bool.eq_false_iff.mpr ‹_›, rfl⟩) | cases h

theorem facadeStep_other {op : FacadeOp} (h : s.facadeStep op = some s')
    (hf : op.sendWrite = none) :
    s'.send = s.send ∧ s'.receiver = s.receiver ∧ s'.sups.length = s.sups.length ∧
      s'.rx.filterMap Signal.mode? = s.rx.filterMap Signal.mode? := by
  rcases op with _ | _ | _ | _ | _ | _ | _ | _ | _ | _ | (_ | _) | _ <;>
    simp only [FacadeOp.sendWrite, reduceCtorEq] at hf <;>
    simp only [facadeStep, queueTcp, postSignal, trySignal] at h <;> repeat' split at h
  all_goals cases h; simp [List.filterMap_append, Signal.mode?, List.length_modify]

theorem step_facade {op : FacadeOp} (h : s.step (.facade op) = some s') :
    s.facade = .live ∧ s.facadeStep op = some s' := by
  simp only [step] at h
  split at h
  · exact ⟨‹_›, h⟩
  · cases h

theorem step_constructed (h : s.step .constructed = some s') :
    s.facade = .constructing ∧ s.receiver.pc = .returned ∧ s' = { s with facade := .live } := by
  simp only [step] at h
  split at h
  · cases h; exact ⟨‹_ ∧ _›.1, ‹_ ∧ _›.2, rfl⟩
  · cases h

theorem step_sender {a : Act} (h : s.step a = some s') (ha : ∀ b, a ≠ .send b) :
    s'.sender = s.sender := by
  cases a with
  | send b => exact absurd rfl (ha b)
  | recv b => obtain ⟨_, _, _, _, _, _, rfl⟩ := recvStep_eq h; rfl
  | sup i b => obtain ⟨_, _, rfl⟩ := supStep_eq h; rfl
  | sim b => obtain ⟨_, _, _, rfl⟩ := simStep_eq h; rfl
  | facade op => obtain ⟨_, _, _, _, _, rfl⟩ := facadeStep_eq (step_facade h).2; rfl
  | constructed => obtain ⟨-, -, rfl⟩ := step_constructed h; rfl

end Engine

end DS.Conn
