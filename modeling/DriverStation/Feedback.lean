import DriverStation.Stream

/-!
# What the RIO and the simulator feed back

Three parts of the shared state are written from outside the driver station. The e-stop
is set by `estop()` and by the receive loop when a status carries the e-stop bit, and
nothing in the engine clears it: the sources have no re-arm path, so once set, every packet
the send task sends carries the e-stop control bit. The recv state, which `trace()` and
`battery_voltage()` read, holds either its reset value or what a status packet of the RIO
reported. The DS mode is written only by the receive loop, from the `NewMode` signals of
`sim_conn`; it follows the probe, so that once the channel is drained the send state's mode
is the one `sim_conn` last saw.
-/

set_option autoImplicit false

namespace DS.Conn
open DS.Wire DS.Inbound DS.Outbound DS.State

theorem controlOf_estop (mode : Mode) (enabled estopped : Bool) :
    (controlOf mode enabled estopped).contains Control.ESTOP = estopped := by
  cases mode <;> cases enabled <;> cases estopped <;> decide

namespace Engine

variable {s s' : Engine}

/-! ### The e-stop latch -/

theorem step_estopped {a : Act} (h : s.step a = some s') (he : s.send.estopped = true) :
    s'.send.estopped = true ∧ ∃ new, s'.sent = s.sent ++ new ∧
      ∀ e ∈ new, e.2.control.contains Control.ESTOP = true := by
  by_cases hs : ∀ b, a ≠ .send b
  · have hk := keepsSend_step h hs
    exact ⟨hk.estopped he, [], by simp [hk.sent], by simp⟩
  push_neg at hs
  obtain ⟨b, rfl⟩ := hs
  refine ⟨?_, ?_⟩
  · rcases sendStep_send h with ⟨js, h' | h'⟩ | h' | h' | h' <;>
      simp [h', he, SendState.control, SendState.incrementSeqnum, SendState.resetSeqnum,
        SendState.disable]
  · rcases sendStep_sent h with h' | ⟨js, r, -, h'⟩
    · exact ⟨[], by simp [h'], by simp⟩
    · exact ⟨_, h', by simp [SendState.control, controlOf_estop, he]⟩

theorem run_estopped {as : List Act} (he : s.send.estopped = true) (h : s.run as = some s') :
    s'.send.estopped = true ∧ ∃ new, s'.sent = s.sent ++ new ∧
      ∀ e ∈ new, e.2.control.contains Control.ESTOP = true :=
  run_induction (fun t => t.send.estopped = true ∧ ∃ new, t.sent = s.sent ++ new ∧
      ∀ e ∈ new, e.2.control.contains Control.ESTOP = true) (fun _ => True)
    (fun _ ⟨he, new, hs, hn⟩ ht =>
      let ⟨he', new', hs', hn'⟩ := step_estopped ht he
      ⟨he', new ++ new', by rw [hs', hs, List.append_assoc],
        fun e hm => (List.mem_append.mp hm).elim (hn e) (hn' e)⟩)
    ⟨he, [], by simp, by simp⟩ h fun _ _ => trivial

/-- Once `estop()` has returned, the robot stays e-stopped whatever else happens, and every
packet the send task sends afterwards carries the e-stop bit. -/
theorem estop_is_sticky {as : List Act} (h : s.run (.facade .estop :: as) = some s') :
    s'.send.estopped = true ∧ ∃ new, s'.sent = s.sent ++ new ∧
      ∀ e ∈ new, e.2.control.contains Control.ESTOP = true := by
  rw [run_cons, Option.bind_eq_some] at h
  obtain ⟨t, ht, h⟩ := h
  have hk := keepsSend_step ht (by simp)
  have he : t.send.estopped = true := by
    obtain ⟨-, rfl⟩ := facadeStep_write (step_facade ht).2 (rfl : FacadeOp.estop.sendWrite = _)
    rfl
  rw [← hk.sent]
  exact run_estopped he h

theorem estop_is_sticky_enable :
    ∃ s', (init team4533 .live).run
        [.facade .estop, .facade .enable, .send (.tick [] .ok), .send (.tick [] .ok)] = some s' ∧
      s'.send.estopped = true ∧ ∃ new, s'.sent = [] ++ new ∧
        ∀ e ∈ new, e.2.control.contains Control.ESTOP = true :=
  ⟨_, rfl, @estop_is_sticky (init team4533 .live) _
    [.facade .enable, .send (.tick [] .ok), .send (.tick [] .ok)] rfl⟩

/-- When the receive loop finishes handling a response whose status has the e-stop bit,
the driver station is e-stopped from then on, and every packet the send task sends
afterwards carries the e-stop bit. -/
theorem rio_estop_is_latched {p : UdpResponsePacket} {as : List Act}
    (hpc : s.receiver.pc = .estopping p) (he : p.status.emergencyStopped = true)
    (h : s.run (.recv .finish :: as) = some s') :
    s'.send.estopped = true ∧ ∃ new, s'.sent = s.sent ++ new ∧
      ∀ e ∈ new, e.2.control.contains Control.ESTOP = true := by
  rw [run_cons, Option.bind_eq_some] at h
  obtain ⟨t, ht, h⟩ := h
  have hk := keepsSend_step ht (by simp)
  have he' : t.send.estopped = true := by
    obtain ⟨p', hpc', -, rfl⟩ := recvStep_finish (s := s) ht
    rw [hpc] at hpc'
    cases hpc'
    cases hs : s.send.estopped <;> simp [hs, he, SendState.estop]
  rw [← hk.sent]
  exact run_estopped he' h

def estopStatus : UdpResponsePacket :=
  { simStatus with status := ⟨Status.ESTOP, by decide⟩ }

theorem rio_estop_is_latched_tick :
    ∃ s s', (init team4533 .live).run
        [.recv (.datagram estopStatus), .recv (.date midnight), .recv .spawn] = some s ∧
      s.receiver.pc = .estopping estopStatus ∧
      s.run [.recv .finish, .send (.tick [] .ok)] = some s' ∧
      s'.send.estopped = true ∧ ∃ new, s'.sent = s.sent ++ new ∧
        ∀ e ∈ new, e.2.control.contains Control.ESTOP = true :=
  ⟨_, _, rfl, rfl, rfl, @rio_estop_is_latched _ _ estopStatus [.send (.tick [] .ok)] rfl rfl rfl⟩

end Engine

/-! ### Telemetry -/

def RecvPc.packet? : RecvPc → Option UdpResponsePacket
  | .dating p | .spawning p | .estopping p => some p
  | _ => none

def Act.datagram? : Act → Option UdpResponsePacket
  | .recv (.datagram p) => some p
  | _ => none

namespace Engine

variable {s s' : Engine}

theorem sendStep_recv {a : SendAct} (h : s.sendStep a = some s') :
    s'.recv = s.recv ∨ s'.recv = .reset := by
  cases a with
  | tick js r => exact .inl (sendStep_tick h).2.1
  | recvReset => exact .inr (sendStep_recvReset h).2.1
  | signal => exact .inl (sendStep_signal h).2.2.1

theorem recvStep_recv {a : RecvAct} (h : s.recvStep a = some s') :
    (s'.recv = s.recv ∨ s'.recv = .reset ∨
      ∃ p, s.receiver.pc = .estopping p ∧ s'.recv = ⟨p.trace, p.battery⟩) ∧
    ∀ p, s'.receiver.pc.packet? = some p → s.receiver.pc.packet? = some p ∨ a = .datagram p := by
  cases a with
  | datagram q =>
    obtain ⟨-, rfl⟩ := recvStep_datagram h
    exact ⟨.inl rfl, fun p hp => .inr (by cases hp; rfl)⟩
  | timeout =>
    obtain ⟨-, ⟨-, rfl⟩ | ⟨-, rfl⟩⟩ := recvStep_timeout h
    exacts [⟨.inr (.inl rfl), fun p hp => .inl hp⟩, ⟨.inl rfl, fun p hp => .inl hp⟩]
  | date now =>
    obtain ⟨q, hpc, -, rfl⟩ := recvStep_date h
    exact ⟨.inl rfl, fun p hp => .inl (by rw [hpc]; exact hp)⟩
  | spawn =>
    obtain ⟨q, hpc, ⟨-, rfl⟩ | ⟨-, -, rfl⟩⟩ := recvStep_spawn h <;>
      exact ⟨.inl rfl, fun p hp => .inl (by rw [hpc]; exact hp)⟩
  | finish =>
    obtain ⟨q, hpc, -, rfl⟩ := recvStep_finish h
    exact ⟨.inr (.inr ⟨q, hpc, rfl⟩), fun p hp => by cases hp⟩
  | signal =>
    obtain ⟨hpc, ⟨_, -, rfl⟩ | ⟨_, _, -, rfl⟩ | ⟨_, _, -, rfl⟩ | ⟨-, -, -, rfl⟩⟩ :=
      recvStep_signal h
    · exact ⟨.inl rfl, fun p hp => by cases hp⟩
    · refine ⟨.inl (by simp), fun p hp => ?_⟩
      by_cases hp0 : s.sender.pc = .panicked <;> simp [hp0, hpc, RecvPc.packet?] at hp
    · exact ⟨.inl rfl, fun p hp => by cases hp⟩
    · exact ⟨.inl rfl, fun p hp => by cases hp⟩
  | readMode =>
    obtain ⟨_, -, -, ⟨-, rfl⟩ | ⟨-, rfl⟩⟩ := recvStep_readMode h
    · exact ⟨.inl rfl, fun p hp => by cases hp⟩
    · exact ⟨.inl (by simp), fun p hp => by cases hp⟩
  | writeMode =>
    obtain ⟨_, -, -, rfl⟩ := recvStep_writeMode h
    refine ⟨.inl (by simp), fun p hp => ?_⟩
    by_cases hp0 : s.sender.pc = .panicked <;> simp [hp0, RecvPc.packet?] at hp

/-- The recv state holds its reset value or what one of `seen` reported, and the packet arm
is handling one of `seen`. -/
structure FromRio (seen : List UdpResponsePacket) (s : Engine) : Prop where
  recv : s.recv = .reset ∨ ∃ p ∈ seen, s.recv = ⟨p.trace, p.battery⟩
  handling : ∀ p, s.receiver.pc.packet? = some p → p ∈ seen

theorem fromRio_step {seen : List UdpResponsePacket} {a : Act} (hf : FromRio seen s)
    (h : s.step a = some s') : FromRio (seen ++ a.datagram?.toList) s' := by
  have hsub : seen ⊆ seen ++ a.datagram?.toList := List.subset_append_left _ _
  have hold : s.recv = .reset ∨ ∃ p ∈ seen ++ a.datagram?.toList, s.recv = ⟨p.trace, p.battery⟩ :=
    hf.recv.imp_right fun ⟨p, hp, he⟩ => ⟨p, hsub hp, he⟩
  have hkeep : ∀ p, s.receiver.pc.packet? = some p → p ∈ seen ++ a.datagram?.toList :=
    fun p hp => hsub (hf.handling p hp)
  cases a with
  | recv b =>
    obtain ⟨hr, hpc⟩ := recvStep_recv h
    refine ⟨?_, fun p hp => ?_⟩
    · rcases hr with hr | hr | ⟨p, hp, hr⟩
      · exact hr ▸ hold
      · exact .inl hr
      · exact .inr ⟨p, hkeep p (by simp [hp, RecvPc.packet?]), hr⟩
    · rcases hpc p hp with hp | rfl
      · exact hkeep p hp
      · simp [Act.datagram?]
  | send b =>
    obtain ⟨_, _, _, _, _, rfl⟩ := sendStep_eq h
    exact ⟨(sendStep_recv h).elim (fun hr => hr ▸ hold) .inl, hkeep⟩
  | sup i b =>
    obtain ⟨_, _, rfl⟩ := supStep_eq h
    exact ⟨hold, hkeep⟩
  | sim b =>
    obtain ⟨_, _, _, rfl⟩ := simStep_eq h
    exact ⟨hold, hkeep⟩
  | facade op =>
    obtain ⟨_, _, _, _, _, rfl⟩ := facadeStep_eq (step_facade h).2
    exact ⟨hold, hkeep⟩
  | constructed =>
    obtain ⟨-, -, rfl⟩ := step_constructed h
    exact ⟨hold, hkeep⟩

theorem fromRio_run {seen : List UdpResponsePacket} {as : List Act} (hf : FromRio seen s)
    (h : s.run as = some s') : FromRio (seen ++ as.filterMap Act.datagram?) s' := by
  induction as generalizing s seen with
  | nil => cases h; simpa using hf
  | cons a as ih =>
    rw [run_cons, Option.bind_eq_some] at h
    obtain ⟨t, ht, h⟩ := h
    have := ih (fromRio_step hf ht) h
    cases hd : a.datagram? <;> simpa [List.filterMap_cons, hd] using this

end Engine

/-- `trace()` and `battery_voltage()` report nothing the RIO did not send: along every run
from a fresh driver station, the recv state is its reset value or the trace and battery of
a status packet the run received. -/
theorem telemetry_from_rio {c : Config} {phase : Facade} {as : List Act} {s : Engine}
    (h : (init c phase).run as = some s) :
    s.recv = .reset ∨ ∃ p ∈ as.filterMap Act.datagram?, s.recv = ⟨p.trace, p.battery⟩ :=
  (@Engine.fromRio_run (init c phase) s [] as ⟨.inl rfl, fun _ h => by cases h⟩ h).recv.imp_right
    fun ⟨p, hp, he⟩ => ⟨p, by simpa using hp, he⟩

def statusHandled : List Act :=
  [.recv (.datagram Engine.dateRequest), .recv (.date midnight), .recv .spawn, .recv .finish]

theorem telemetry_from_rio_status :
    ∃ s, (init team4533 .live).run statusHandled = some s ∧
      (s.recv = .reset ∨ ∃ p ∈ [Engine.dateRequest], s.recv = ⟨p.trace, p.battery⟩) :=
  ⟨_, rfl, @telemetry_from_rio team4533 .live statusHandled _ rfl⟩

/-! ### The simulator mode -/

def RecvPc.mode? : RecvPc → Option DsMode
  | .readingMode m | .writingMode m => some m
  | _ => none

namespace Engine

variable {s s' : Engine}

/-- The DS mode the receive loop holds once it has applied the mode it is handling and every
signal now in its channel. -/
def pendingMode (s : Engine) : DsMode :=
  ((s.receiver.pc.mode?.toList ++ s.rx.filterMap Signal.mode?).getLast?).getD s.send.dsMode

/-- While `udp_conn` runs, the mode it is heading to is the mode `sim_conn` last saw. -/
def FollowsSim (s : Engine) : Prop :=
  s.recvAlive = true → s.pendingMode = s.simMode

theorem sendStep_dsMode {a : SendAct} (h : s.sendStep a = some s') :
    s'.send.dsMode = s.send.dsMode := by
  rcases sendStep_send h with ⟨js, h' | h'⟩ | h' | h' | h' <;>
    simp [h', SendState.control, SendState.incrementSeqnum, SendState.resetSeqnum,
      SendState.disable]

theorem facadeStep_mode {op : FacadeOp} (h : s.facadeStep op = some s') :
    s'.send.dsMode = s.send.dsMode ∧ s'.receiver = s.receiver ∧
      s'.rx.filterMap Signal.mode? = s.rx.filterMap Signal.mode? := by
  cases hw : op.sendWrite with
  | none => exact ⟨by rw [(facadeStep_other h hw).1], (facadeStep_other h hw).2.1,
      (facadeStep_other h hw).2.2.2⟩
  | some f =>
    obtain ⟨-, rfl⟩ := facadeStep_write h hw
    refine ⟨?_, rfl, rfl⟩
    cases op <;> cases hw <;>
      simp [SendState.enable, SendState.disable, SendState.estop, SendState.setMode,
        SendState.setAlliance, SendState.request, SendState.queueUdp]

theorem followsSim_of_eq (hf : FollowsSim s) (hpc : s'.receiver.pc.mode? = s.receiver.pc.mode?)
    (ha : s'.recvAlive = true → s.recvAlive = true)
    (hrx : s'.rx.filterMap Signal.mode? = s.rx.filterMap Signal.mode?)
    (hm : s'.send.dsMode = s.send.dsMode) (hsim : s'.simMode = s.simMode) : FollowsSim s' := by
  intro h'
  simp only [pendingMode, hpc, hrx, hm, hsim]
  exact hf (ha h')

theorem recvStep_followsSim {a : RecvAct} (hf : FollowsSim s) (h : s.recvStep a = some s') :
    FollowsSim s' := by
  cases a with
  | datagram q =>
    obtain ⟨hpc, rfl⟩ := recvStep_datagram h
    exact followsSim_of_eq hf (by simp [hpc, RecvPc.mode?]) (fun _ => by simp [recvAlive, hpc])
      rfl rfl rfl
  | timeout =>
    obtain ⟨-, ⟨-, rfl⟩ | ⟨-, rfl⟩⟩ := recvStep_timeout h
    exacts [followsSim_of_eq hf rfl id rfl rfl rfl, hf]
  | date now =>
    obtain ⟨q, hpc, -, rfl⟩ := recvStep_date h
    exact followsSim_of_eq hf (by simp [hpc, RecvPc.mode?]) (fun _ => by simp [recvAlive, hpc])
      rfl (by split <;> rfl) rfl
  | spawn =>
    obtain ⟨q, hpc, ⟨-, rfl⟩ | ⟨-, -, rfl⟩⟩ := recvStep_spawn h <;>
      exact followsSim_of_eq hf (by simp [hpc, RecvPc.mode?]) (fun _ => by simp [recvAlive, hpc])
        rfl rfl rfl
  | finish =>
    obtain ⟨q, hpc, -, rfl⟩ := recvStep_finish h
    exact followsSim_of_eq hf (by simp [hpc, RecvPc.mode?]) (fun _ => by simp [recvAlive, hpc])
      rfl (by split <;> rfl) rfl
  | signal =>
    obtain ⟨hpc, ⟨_, -, rfl⟩ | ⟨_, _, hrx, rfl⟩ | ⟨_, _, hrx, rfl⟩ | ⟨-, -, -, rfl⟩⟩ :=
      recvStep_signal h
    · intro ha; simp [exitRecv, recvAlive] at ha
    · refine followsSim_of_eq hf ?_ (fun _ => by simp [recvAlive, hpc]) (by simp [hrx, Signal.mode?])
        (by simp) (by simp)
      by_cases hp0 : s.sender.pc = .panicked <;> simp [hp0, hpc, RecvPc.mode?]
    · intro _
      have := hf (by simp [recvAlive, hpc])
      simpa [pendingMode, hpc, hrx, RecvPc.mode?, Signal.mode?] using this
    · intro ha; simp [exitRecv, recvAlive] at ha
  | readMode =>
    obtain ⟨m, hpc, -, ⟨hm, rfl⟩ | ⟨-, rfl⟩⟩ := recvStep_readMode h
    · intro _
      have := hf (by simp [recvAlive, hpc])
      simpa [pendingMode, hpc, hm, RecvPc.mode?, List.getLast?_cons] using this
    · exact followsSim_of_eq hf (by simp [hpc, RecvPc.mode?]) (fun _ => by simp [recvAlive, hpc])
        (by simp) (by simp) (by simp)
  | writeMode =>
    obtain ⟨m, hpc, -, rfl⟩ := recvStep_writeMode h
    have := hf (by simp [recvAlive, hpc])
    intro ha
    by_cases hp0 : s.sender.pc = .panicked
    · simp [recvAlive, hp0] at ha
    · simpa [pendingMode, hp0, hpc, RecvPc.mode?, List.getLast?_cons, SendState.setDsMode]
        using this

theorem followsSim_step {a : Act} (hf : FollowsSim s) (h : s.step a = some s') :
    FollowsSim s' := by
  cases a with
  | send b =>
    have hm := sendStep_dsMode h
    obtain ⟨_, _, _, _, _, rfl⟩ := sendStep_eq h
    exact followsSim_of_eq hf rfl id rfl hm rfl
  | recv b => exact recvStep_followsSim hf h
  | sup i b => obtain ⟨_, _, rfl⟩ := supStep_eq h; exact hf
  | sim b =>
    rcases simStep_cases h with rfl | ⟨m, ⟨-, rfl⟩ | ⟨hr, rfl⟩⟩
    · exact hf
    · intro _
      simp [pendingMode, List.filterMap_append, Signal.mode?]
    · intro ha
      exact absurd ha (by simpa [recvAlive] using hr)
  | facade op =>
    obtain ⟨hm, -, hrx⟩ := facadeStep_mode (step_facade h).2
    obtain ⟨_, _, _, _, _, rfl⟩ := facadeStep_eq (step_facade h).2
    exact followsSim_of_eq hf rfl id hrx hm rfl
  | constructed => obtain ⟨-, -, rfl⟩ := step_constructed h; exact hf

end Engine

/-- The driver station follows the simulator probe: in every reachable state where
`udp_conn` still runs, no `NewMode` waits in its channel and none is being read or written,
the send state's DS mode is the one `sim_conn` last saw, whatever the order of probes,
facade calls and task steps. -/
theorem dsMode_follows_simulator {c : Config} {phase : Facade} {s : Engine}
    (h : Reachable (init c phase) s) (halive : s.recvAlive = true)
    (hrx : ∀ m, Signal.newMode m ∉ s.rx)
    (hpc : ∀ m, s.receiver.pc ≠ .readingMode m ∧ s.receiver.pc ≠ .writingMode m) :
    s.send.dsMode = s.simMode := by
  have hf : Engine.FollowsSim s :=
    Reachable.induction _ (fun _ => rfl) (fun hf ht => Engine.followsSim_step hf ht) h
  have hnil : s.rx.filterMap Signal.mode? = [] := by
    rw [List.filterMap_eq_nil_iff]
    intro sig hsig
    cases sig with
    | newMode m => exact absurd hsig (hrx m)
    | _ => rfl
  have hnone : s.receiver.pc.mode? = none := by
    cases hp : s.receiver.pc with
    | readingMode m => exact absurd hp (hpc m).1
    | writingMode m => exact absurd hp (hpc m).2
    | _ => rfl
  simpa [Engine.pendingMode, hnil, hnone] using hf halive

def simulatorProbed : List Act :=
  [.sim true, .recv .signal, .recv .readMode, .recv .writeMode, .sim true]

theorem dsMode_follows_simulator_probe :
    ∃ s, (init team4533 .live).run simulatorProbed = some s ∧ s.send.dsMode = s.simMode :=
  ⟨_, rfl, @dsMode_follows_simulator team4533 .live _ ⟨simulatorProbed, rfl⟩ rfl
    (fun _ => List.not_mem_nil _) fun _ => ⟨RecvPc.noConfusion, RecvPc.noConfusion⟩⟩

end DS.Conn
