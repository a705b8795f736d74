import DriverStation.Lifecycle

/-!
# Sequence numbers and the enabled bit across resets

The send task's `NewTarget` and `NewMode(Simulation)` handlers reset the sequence number
and disable the robot under the send-state lock, and hold it until the socket is
reconnected; afterwards only a tick moves the sequence number and only `enable` sets the
enabled flag, so the first packet on the new socket starts again at 0, disabled. Losing the
RIO is different: the receive timeout and a refused first send reset the recv state alone,
and the enabled flag is carried into the packets that follow.
-/

set_option autoImplicit false

namespace DS.Conn
open DS.Wire DS.Outbound DS.State

namespace Engine

variable {s s' : Engine}

theorem recvStep_seqnum_enabled {a : RecvAct} (h : s.recvStep a = some s') :
    s'.send.seqnum = s.send.seqnum ∧ s'.send.enabled = s.send.enabled := by
  rcases recvStep_send h with h' | ⟨_, -, h'⟩ | ⟨-, h'⟩ | ⟨_, -, h'⟩ <;>
    simp [h', SendState.queueUdp, SendState.estop, SendState.setDsMode]

theorem facadeStep_seqnum_enabled {op : FacadeOp} (h : s.facadeStep op = some s') :
    s'.send.seqnum = s.send.seqnum ∧
      (s'.send.enabled = true → s.send.enabled = true ∨ op = .enable) ∧
      (s'.send.enabled = s.send.enabled ∨ op = .enable ∨ op = .disable ∨ op = .estop) := by
  cases hw : op.sendWrite with
  | none =>
    have hs := (facadeStep_other h hw).1
    exact ⟨by rw [hs], fun he => .inl (hs ▸ he), .inl (by rw [hs])⟩
  | some f =>
    obtain ⟨-, rfl⟩ := facadeStep_write h hw
    cases op <;> cases hw <;>
      simp [SendState.enable, SendState.disable, SendState.estop, SendState.setMode,
        SendState.setAlliance, SendState.request, SendState.queueUdp]

theorem sendStep_sent {a : SendAct} (h : s.sendStep a = some s') :
    s'.sent = s.sent ∨ ∃ js r, a = .tick js r ∧
      s'.sent = s.sent ++ [(s.sender.socket, (s.send.control js).1)] := by
  cases a with
  | tick js r =>
    rcases (sendStep_tick h).2.2.1 with ⟨h', -⟩ | h'
    exacts [.inl h', .inr ⟨js, r, rfl, h'⟩]
  | recvReset => exact .inl (sendStep_recvReset h).1
  | signal => exact .inl (sendStep_signal h).2.1

end Engine

/-- The two places the engine notices that the RIO is gone: the receive timeout while
connected, and the recv-state reset after a refused first send. -/
def DetectsLoss (s : Engine) (a : Act) : Prop :=
  (a = .recv .timeout ∧ s.receiver.pc = .idle ∧ s.receiver.connected = true) ∨
  (a = .send .recvReset ∧ s.sender.pc = .refused)

/-- The steps that can change the enabled flag: `enable`, `disable`, `estop`, and the send
task taking a `NewTarget` or `NewMode(Simulation)`, whose handlers disable. -/
def WritesEnabled (s : Engine) (a : Act) : Prop :=
  a = .facade .enable ∨ a = .facade .disable ∨ a = .facade .estop ∨
    a = .send .signal ∧ s.takesReset = true

/-- No step of the run of `as` from `s` is one of `P`. -/
def Engine.Avoids (P : Engine → Act → Prop) (s : Engine) : List Act → Prop
  | [] => True
  | a :: as => ¬P s a ∧ ∀ t, s.step a = some t → t.Avoids P as

theorem step_enabled {s s' : Engine} {a : Act} (h : s.step a = some s')
    (ha : ¬WritesEnabled s a) : s'.send.enabled = s.send.enabled := by
  simp only [WritesEnabled, not_or, not_and] at ha
  cases a with
  | send a =>
    cases a with
    | tick js r =>
      rcases (Engine.sendStep_tick h).2.2.2 with ⟨hs, -⟩ | ⟨hs, -⟩ <;>
        simp [hs, SendState.control, SendState.incrementSeqnum]
    | recvReset =>
      rcases (Engine.sendStep_recvReset h).2.2.2 with ⟨-, hs⟩ | ⟨-, hs⟩ <;>
        simp [hs, SendState.incrementSeqnum]
    | signal =>
      obtain ⟨-, -, -, ⟨hr, -⟩ | ⟨-, hs, -⟩⟩ := Engine.sendStep_signal h
      · exact absurd hr (ha.2.2.2 rfl)
      · rw [hs]
  | recv a => exact (Engine.recvStep_seqnum_enabled h).2
  | sup i a => obtain ⟨_, _, rfl⟩ := Engine.supStep_eq h; rfl
  | sim b => obtain ⟨_, _, _, rfl⟩ := Engine.simStep_eq h; rfl
  | facade op =>
    rcases (Engine.facadeStep_seqnum_enabled (Engine.step_facade h).2).2.2 with
      he | rfl | rfl | rfl
    · exact he
    all_goals simp at ha
  | constructed => obtain ⟨-, -, rfl⟩ := Engine.step_constructed h; rfl

theorem run_enabled {s s' : Engine} {as : List Act} (h : s.run as = some s')
    (has : s.Avoids WritesEnabled as) : s'.send.enabled = s.send.enabled := by
  induction as generalizing s with
  | nil => cases h; rfl
  | cons a as ih =>
    rw [Engine.run_cons, Option.bind_eq_some] at h
    obtain ⟨t, ht, h⟩ := h
    rw [ih h (has.2 t ht), step_enabled ht has.1]

theorem detectsLoss_recv {s s' : Engine} {a : Act} (hd : DetectsLoss s a)
    (h : s.step a = some s') : s'.recv = .reset := by
  rcases hd with ⟨rfl, -, hc⟩ | ⟨rfl, -⟩
  · obtain ⟨-, ⟨-, rfl⟩ | ⟨hc', -⟩⟩ := Engine.recvStep_timeout h
    · rfl
    · simp [hc] at hc'
  · exact (Engine.sendStep_recvReset h).2.1

/-- Losing the RIO clears the recv state only: every control packet sent afterwards carries
the enabled flag the send state held when the loss was detected, until `enable`,
`disable`, `estop` or a reset handler changes it. -/
theorem loss_detection_keeps_enabled {s s1 s2 s3 : Engine} {a : Act} {as : List Act}
    {js : List Joysticks} {r : SendResult} {dst : String} {p : UdpControlPacket}
    (hd : DetectsLoss s a) (h1 : s.step a = some s1) (h2 : s1.run as = some s2)
    (has : s1.Avoids WritesEnabled as) (h3 : s2.step (.send (.tick js r)) = some s3)
    (hp : s3.sent = s2.sent ++ [(dst, p)]) :
    s1.recv = .reset ∧ p.control.contains Control.ENABLED = s.send.enabled := by
  have hw : ¬WritesEnabled s a := by
    rcases hd with ⟨rfl, -⟩ | ⟨rfl, -⟩ <;> simp [WritesEnabled]
  refine ⟨detectsLoss_recv hd h1, ?_⟩
  rcases Engine.sendStep_sent (s := s2) (a := .tick js r) h3 with h | ⟨js', r', he, h⟩
  · simp [hp] at h
  · cases he
    rw [hp, List.append_cancel_left_eq, List.cons.injEq, Prod.mk.injEq] at h
    obtain ⟨⟨-, rfl⟩, -⟩ := h
    simp only [SendState.control, controlOf_enabled]
    rw [run_enabled h2 has, step_enabled h1 hw]

theorem loss_detection_keeps_enabled_timeout :
    ∃ s s1 s2 s3 p, (init team4533 .live).run [.facade .enable] = some s ∧
      DetectsLoss s (.recv .timeout) ∧ s.step (.recv .timeout) = some s1 ∧ s1.run [] = some s2 ∧
      s1.Avoids WritesEnabled [] ∧ s2.step (.send (.tick [] .ok)) = some s3 ∧
      s3.sent = s2.sent ++ [("10.45.33.2", p)] ∧
      s1.recv = .reset ∧ p.control.contains Control.ENABLED = s.send.enabled :=
  have hd : DetectsLoss _ (.recv .timeout) := .inl ⟨rfl, rfl, rfl⟩
  ⟨_, _, _, _, _, rfl, hd, rfl, rfl, trivial, rfl, rfl,
    @loss_detection_keeps_enabled _ _ _ _ _ [] [] .ok _ _ hd rfl rfl trivial rfl rfl⟩

/-- The robot is enabled and the RIO falls silent for two seconds; the next control packet,
with no `enable` after the detection, still has the enabled bit set. -/
theorem enabled_packet_after_rio_loss :
    ∃ s s1 s2 p, (init team4533 .live).run [.facade .enable] = some s ∧
      DetectsLoss s (.recv .timeout) ∧ s.step (.recv .timeout) = some s1 ∧
      s1.step (.send (.tick [] .ok)) = some s2 ∧ s2.sent = s1.sent ++ [("10.45.33.2", p)] ∧
      p.control.contains Control.ENABLED = true :=
  ⟨_, _, _, _, rfl, .inl ⟨rfl, rfl, rfl⟩, rfl, rfl, rfl, by decide⟩

end DS.Conn
