import DriverStation.Footprint

/-!
# Construction and shutdown

`DriverStation::new` awaits `udp_conn` itself, and `udp_conn` returns `Ok` only on a
`Disconnect` or when its channel closes. While `new` runs, the only other holder of the
channel is `sim_conn`, which posts `NewMode` alone, so `new` never returns. Conversely, once
`udp_conn` has returned, the send task's `select!` reads the closed forward channel as
`None`, which its `_ => {}` arm ignores, and it keeps sending a control packet on every tick.
-/

set_option autoImplicit false

namespace DS.Conn
open DS.Wire DS.Outbound DS.State DS.Backoff

namespace Engine

variable {s s' : Engine}

theorem recvStep_rx {a : RecvAct} (h : s.recvStep a = some s') :
    s'.rx = s.rx ∨ ∃ sig, s.rx = sig :: s'.rx := by
  cases a with
  | signal =>
    rcases (recvStep_signal h).2 with ⟨_, hrx, rfl⟩ | ⟨_, _, hrx, rfl⟩ | ⟨_, _, hrx, rfl⟩ | ⟨-, -, -, rfl⟩
    · exact .inr ⟨_, hrx⟩
    · exact .inr ⟨_, by simpa using hrx⟩
    · exact .inr ⟨_, hrx⟩
    · exact .inl rfl
  | readMode => obtain ⟨_, -, -, ⟨-, rfl⟩ | ⟨-, rfl⟩⟩ := recvStep_readMode h <;> simp
  | writeMode => obtain ⟨_, -, -, rfl⟩ := recvStep_writeMode h; simp
  | datagram p => obtain ⟨-, rfl⟩ := recvStep_datagram h; exact .inl rfl
  | timeout => obtain ⟨-, ⟨-, rfl⟩ | ⟨-, rfl⟩⟩ := recvStep_timeout h <;> exact .inl rfl
  | date now => obtain ⟨_, -, -, rfl⟩ := recvStep_date h; exact .inl rfl
  | spawn => obtain ⟨_, -, ⟨-, rfl⟩ | ⟨-, -, rfl⟩⟩ := recvStep_spawn h <;> exact .inl rfl
  | finish => obtain ⟨_, -, -, rfl⟩ := recvStep_finish h; exact .inl rfl

theorem recvStep_returned {a : RecvAct} (h : s.recvStep a = some s')
    (hr : s'.receiver.pc = .returned) : (∃ rest, s.rx = .disconnect :: rest) ∨ s.facade = .dropped := by
  cases a with
  | signal =>
    obtain ⟨hpc, ⟨rest, hrx, -⟩ | ⟨_, _, -, rfl⟩ | ⟨_, _, -, rfl⟩ | ⟨-, hd, -⟩⟩ := recvStep_signal h
    · exact .inl ⟨rest, hrx⟩
    · simp only [forward_pc] at hr; split at hr <;> simp_all
    · cases hr
    · exact .inr hd
  | readMode => obtain ⟨_, -, -, ⟨-, rfl⟩ | ⟨-, rfl⟩⟩ := recvStep_readMode h <;> cases hr
  | writeMode =>
    obtain ⟨_, -, -, rfl⟩ := recvStep_writeMode h
    simp only [forward_pc] at hr; split at hr <;> cases hr
  | datagram p => obtain ⟨-, rfl⟩ := recvStep_datagram h; cases hr
  | timeout => obtain ⟨hpc, ⟨-, rfl⟩ | ⟨-, rfl⟩⟩ := recvStep_timeout h <;> simp [hpc] at hr
  | date now => obtain ⟨_, -, -, rfl⟩ := recvStep_date h; cases hr
  | spawn => obtain ⟨_, -, ⟨-, rfl⟩ | ⟨-, -, rfl⟩⟩ := recvStep_spawn h <;> cases hr
  | finish => obtain ⟨_, -, -, rfl⟩ := recvStep_finish h; cases hr

theorem simStep_rx {b : Bool} (h : s.simStep b = some s') :
    s'.rx = s.rx ∨ ∃ m, s'.rx = s.rx ++ [.newMode m] := by
  rcases simStep_cases h with rfl | ⟨m, ⟨-, rfl⟩ | ⟨-, rfl⟩⟩
  exacts [.inl rfl, .inr ⟨m, rfl⟩, .inl rfl]

end Engine

/-- While `new` awaits `udp_conn`: no facade exists, the loop has not returned, and no
`Disconnect` is queued for it. -/
structure Constructing (s : Engine) : Prop where
  facade : s.facade = .constructing
  running : s.receiver.pc ≠ .returned
  noDisconnect : Signal.disconnect ∉ s.rx

theorem constructing_step {s s' : Engine} {a : Act} (hc : Constructing s)
    (h : s.step a = some s') : Constructing s' := by
  cases a with
  | send a =>
    obtain ⟨_, _, _, _, _, rfl⟩ := Engine.sendStep_eq h
    exact ⟨hc.facade, hc.running, hc.noDisconnect⟩
  | recv a =>
    have hf : s'.facade = s.facade := by
      obtain ⟨_, _, _, _, _, _, rfl⟩ := Engine.recvStep_eq h; rfl
    refine ⟨hf.trans hc.facade, fun hr => ?_, ?_⟩
    · rcases Engine.recvStep_returned h hr with ⟨rest, hrx⟩ | hd
      · exact hc.noDisconnect (by simp [hrx])
      · simp [hc.facade] at hd
    · rcases Engine.recvStep_rx h with hrx | ⟨sig, hrx⟩
      · exact hrx ▸ hc.noDisconnect
      · exact fun hm => hc.noDisconnect (by rw [hrx]; exact List.mem_cons_of_mem _ hm)
  | sup i a =>
    obtain ⟨_, _, rfl⟩ := Engine.supStep_eq h
    exact ⟨hc.facade, hc.running, hc.noDisconnect⟩
  | sim b =>
    have hrx := Engine.simStep_rx h
    obtain ⟨_, _, _, rfl⟩ := Engine.simStep_eq h
    refine ⟨hc.facade, hc.running, ?_⟩
    rcases hrx with hrx | ⟨m, hrx⟩ <;> simp only at hrx <;> simp [hrx, hc.noDisconnect]
  | facade op => simp [Engine.step, hc.facade] at h
  | constructed => simp [Engine.step, hc.running] at h

/-- `DriverStation::new` never returns: in every run it starts, for every network and
simulator behaviour, the facade is still being constructed and `udp_conn` is still looping. -/
theorem new_never_returns {c : Config} {s : Engine} (h : Reachable (init c .constructing) s) :
    s.facade = .constructing ∧ s.receiver.pc ≠ .returned :=
  have hc := Reachable.induction Constructing ⟨rfl, by simp [init], by simp [init]⟩
    constructing_step h
  ⟨hc.facade, hc.running⟩

def team4533 : Config := ⟨"10.45.33.2", ⟨0⟩, .teleop, 4533⟩

/-- The simulator announces itself, the receive loop applies and forwards the mode change,
and the send task takes it. -/
def simulatorAnnounced : List Act :=
  [.sim true, .recv .signal, .recv .readMode, .recv .writeMode, .send .signal, .send .recvReset]

theorem new_never_returns_simulator :
    ∃ s, (init team4533 .constructing).run simulatorAnnounced = some s ∧
      s.facade = .constructing ∧ s.receiver.pc ≠ .returned :=
  ⟨_, rfl, new_never_returns ⟨simulatorAnnounced, rfl⟩⟩

namespace Engine

variable {s : Engine}

theorem encode_untagged (p : UdpControlPacket) (h : p.tags = []) :
    p.encode = .ok (be16 p.seqnum ++ [0x01, p.control.bits, requestBits p.request, p.alliance.byte]) := by
  simp only [UdpControlPacket.encode, h, List.mapM_nil]
  rfl

theorem tick_sends (hpc : s.sender.pc = .idle) (hq : s.send.pendingUdp = []) :
    s.step (.send (.tick [] .ok)) = some { s with
      send := (s.send.control []).2.incrementSeqnum
      sent := s.sent ++ [(s.sender.socket, (s.send.control []).1)]
      sender := { s.sender with backoff := s.sender.backoff.reset } } := by
  have he := encode_untagged (s.send.control []).1 (by simp [SendState.control, hq])
  simp only [step, sendStep, hpc, ne_eq, not_true_eq_false, if_false]
  simp [he, ExponentialBackoff.run]

theorem ticks_send (hpc : s.sender.pc = .idle) (hq : s.send.pendingUdp = []) (n : ℕ) :
    ∃ s' new, s.run (List.replicate n (.send (.tick [] .ok))) = some s' ∧
      s'.sent = s.sent ++ new ∧ new.length = n ∧
      ∀ e ∈ new, e.2.control.contains Control.ENABLED = s.send.enabled := by
  induction n generalizing s with
  | zero => exact ⟨s, [], rfl, by simp, rfl, by simp⟩
  | succ n ih =>
    obtain ⟨s', new, hr, hsent, hlen, hen⟩ := ih (s := { s with
      send := (s.send.control []).2.incrementSeqnum
      sent := s.sent ++ [(s.sender.socket, (s.send.control []).1)]
      sender := { s.sender with backoff := s.sender.backoff.reset } }) hpc (by rfl)
    refine ⟨s', (s.sender.socket, (s.send.control []).1) :: new,
      by rw [List.replicate_succ, run_cons, tick_sends hpc hq]; exact hr,
      by simp [hsent], by simp [hlen], ?_⟩
    simp only [List.mem_cons, forall_eq_or_imp]
    exact ⟨controlOf_enabled _ _ _, hen⟩

end Engine

def enabledThenDropped : List Act := [.facade .enable, .facade .drop, .recv .signal]

/-- After `udp_conn` has returned on the facade's `Disconnect`, the send task goes on
sending, on every one of any number of ticks, a control packet with the enabled bit set. -/
theorem send_task_outlives_udp_conn :
    ∃ s, (init team4533 .live).run enabledThenDropped = some s ∧ s.receiver.pc = .returned ∧
      ∀ n, ∃ s' new, s.run (List.replicate n (.send (.tick [] .ok))) = some s' ∧
        s'.sent = s.sent ++ new ∧ new.length = n ∧
        ∀ e ∈ new, e.2.control.contains Control.ENABLED = true :=
  ⟨_, rfl, rfl, fun n => Engine.ticks_send rfl rfl n⟩

end DS.Conn
