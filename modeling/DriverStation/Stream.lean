import DriverStation.Targets

/-!
# What the send task hands to the socket

Every packet the engine passes to `udp_tx.send` is the snapshot one tick of the send task
takes with `control()`; the tick's `SendResult` says whether the socket accepted it. The
other parties write the send state only through the facade's setters and the receive loop's
`DateTime`, e-stop and mode arms; `KeepsSend` says once what those writes leave alone. From
these and the send task's arm lemmas: between two reconfigurations each tick sends one
packet, with consecutive sequence numbers; no more packets carry a request than there were
requests; the tags the socket accepts leave the UDP queue in order and at most once, and
all of them when no send is refused; and a packet that fails to encode ends the send task,
after which nothing is sent again.
-/

set_option autoImplicit false

namespace DS.Conn
open DS.Wire DS.Inbound DS.Outbound DS.State DS.Backoff

def Act.isTick : Act → Bool
  | .send (.tick _ _) => true
  | _ => false

def Act.isRequest : Act → Bool
  | .facade (.request _) => true
  | _ => false

namespace Engine

/-- The UDP tags a step appends to the send state's queue: the facade's `queue_udp`, and
the receive loop's `DateTime` when the response it handles asks for the date. -/
def udpIn (s : Engine) : Act → List UdpTag
  | .facade (.queueUdp t) => [t]
  | .recv (.date now) =>
    match s.receiver.pc with
    | .dating p => if p.needDate then [.dateTime now] else []
    | _ => []
  | _ => []

/-- What a step of any party but the send task does to the send state and the send log: it
sends nothing, moves no sequence number, clears no e-stop, changes the request only by
`request`, and appends to the UDP queue exactly what `udpIn` names. -/
structure KeepsSend (s s' : Engine) (a : Act) : Prop where
  sent : s'.sent = s.sent
  seqnum : s'.send.seqnum = s.send.seqnum
  estopped : s.send.estopped = true → s'.send.estopped = true
  pendingRequest : a.isRequest = false → s'.send.pendingRequest = s.send.pendingRequest
  pendingUdp : s'.send.pendingUdp = s.send.pendingUdp ++ s.udpIn a

variable {s s' : Engine}

theorem recvStep_keepsSend {a : RecvAct} (h : s.recvStep a = some s') :
    KeepsSend s s' (.recv a) := by
  have hsent : s'.sent = s.sent := by obtain ⟨_, _, _, _, _, _, rfl⟩ := recvStep_eq h; rfl
  cases a with
  | date now =>
    obtain ⟨p, hpc, -, rfl⟩ := recvStep_date h
    cases hd : p.needDate <;>
      exact ⟨hsent, by simp [hd, SendState.queueUdp], by simp [hd, SendState.queueUdp],
        fun _ => by simp [hd, SendState.queueUdp], by simp [udpIn, hpc, hd, SendState.queueUdp]⟩
  | _ =>
    rcases recvStep_send h with h' | ⟨_, ⟨⟩, -⟩ | ⟨-, h'⟩ | ⟨_, -, h'⟩ <;>
      exact ⟨hsent, by simp [h', SendState.estop, SendState.setDsMode],
        by simp [h', SendState.estop, SendState.setDsMode],
        fun _ => by simp [h', SendState.estop, SendState.setDsMode],
        by simp [h', udpIn, SendState.estop, SendState.setDsMode]⟩

theorem facadeStep_keepsSend {op : FacadeOp} (h : s.facadeStep op = some s') :
    KeepsSend s s' (.facade op) := by
  cases hw : op.sendWrite with
  | none =>
    obtain ⟨hs, -⟩ := facadeStep_other h hw
    have hsent : s'.sent = s.sent := by obtain ⟨_, _, _, _, _, rfl⟩ := facadeStep_eq h; rfl
    have hin : s.udpIn (.facade op) = [] := by
      cases op <;> first | rfl | simp [FacadeOp.sendWrite] at hw
    exact ⟨hsent, by rw [hs], fun he => by rw [hs]; exact he, fun _ => by rw [hs],
      by rw [hs, hin, List.append_nil]⟩
  | some f =>
    obtain ⟨-, rfl⟩ := facadeStep_write h hw
    cases op <;> cases hw <;> constructor <;>
      simp [udpIn, Act.isRequest, SendState.enable, SendState.disable, SendState.estop,
        SendState.setMode, SendState.setAlliance, SendState.request, SendState.queueUdp]

theorem keepsSend_step {a : Act} (h : s.step a = some s') (ha : ∀ b, a ≠ .send b) :
    KeepsSend s s' a := by
  cases a with
  | send b => exact absurd rfl (ha b)
  | recv b => exact recvStep_keepsSend h
  | sup i b =>
    obtain ⟨_, _, rfl⟩ := supStep_eq h
    exact ⟨rfl, rfl, id, fun _ => rfl, (List.append_nil _).symm⟩
  | sim b =>
    obtain ⟨_, _, _, rfl⟩ := simStep_eq h
    exact ⟨rfl, rfl, id, fun _ => rfl, (List.append_nil _).symm⟩
  | facade op => exact facadeStep_keepsSend (step_facade h).2
  | constructed =>
    obtain ⟨-, -, rfl⟩ := step_constructed h
    exact ⟨rfl, rfl, id, fun _ => rfl, (List.append_nil _).symm⟩

theorem sendStep_send {a : SendAct} (h : s.sendStep a = some s') :
    (∃ js, s'.send = (s.send.control js).2 ∨ s'.send = (s.send.control js).2.incrementSeqnum) ∨
      s'.send = s.send.incrementSeqnum ∨ s'.send = s.send.resetSeqnum.disable ∨
      s'.send = s.send := by
  cases a with
  | tick js r =>
    rcases (sendStep_tick h).2.2.2 with ⟨h', -⟩ | ⟨h', -⟩
    exacts [.inl ⟨js, .inr h'⟩, .inl ⟨js, .inl h'⟩]
  | recvReset =>
    rcases (sendStep_recvReset h).2.2.2 with ⟨-, h'⟩ | ⟨-, h'⟩
    exacts [.inr (.inl h'), .inr (.inr (.inr h'))]
  | signal =>
    rcases (sendStep_signal h).2.2.2 with ⟨-, h', -⟩ | ⟨-, h', -⟩
    exacts [.inr (.inr (.inl h')), .inr (.inr (.inr h'))]

/-! ### A panicked send task -/

theorem sendStep_panicked (hp : s.sender.pc = .panicked) (a : SendAct) : s.sendStep a = none := by
  cases a <;> simp [sendStep, hp]

theorem step_panicked {a : Act} (hp : s.sender.pc = .panicked) (h : s.step a = some s') :
    s'.sender = s.sender ∧ s'.sent = s.sent := by
  by_cases ha : ∀ b, a ≠ .send b
  · exact ⟨step_sender h ha, (keepsSend_step h ha).sent⟩
  · push_neg at ha
    obtain ⟨b, rfl⟩ := ha
    simp [step, sendStep_panicked hp] at h

theorem run_panicked {as : List Act} (hp : s.sender.pc = .panicked) (h : s.run as = some s') :
    s'.sender = s.sender ∧ s'.sent = s.sent :=
  run_induction (fun t => t.sender = s.sender ∧ t.sent = s.sent) (fun _ => True)
    (fun _ ⟨h1, h2⟩ ht =>
      let ⟨h3, h4⟩ := step_panicked (h1 ▸ hp) ht
      ⟨h3.trans h1, h4.trans h2⟩)
    ⟨rfl, rfl⟩ h fun _ _ => trivial

theorem ne_panicked_of_run {as : List Act} (h : s.run as = some s')
    (hp : s'.sender.pc ≠ .panicked) : s.sender.pc ≠ .panicked :=
  fun e => hp (by rw [(run_panicked e h).1]; exact e)

/-! ### Sequence numbers -/

/-- The sequence number the send task's next packet carries: after a refused first send
the increment is still to come, in the reset arm. -/
def nextSeqnum (s : Engine) : BitVec 16 :=
  if s.sender.pc = .refused then s.send.seqnum + 1 else s.send.seqnum

theorem step_seqnum {a : Act} (h : s.step a = some s') (ha : a ≠ .send .signal)
    (hp : s'.sender.pc ≠ .panicked) :
    ∃ new, s'.sent = s.sent ++ new ∧
      new.map (·.2.seqnum) =
        (List.range (if a.isTick then 1 else 0)).map (s.nextSeqnum + BitVec.ofNat 16 ·) ∧
      s'.nextSeqnum = s.nextSeqnum + BitVec.ofNat 16 (if a.isTick then 1 else 0) := by
  by_cases hs : ∀ b, a ≠ .send b
  · have hk := keepsSend_step h hs
    have ht : a.isTick = false := by cases a <;> first | rfl | exact absurd rfl (hs _)
    refine ⟨[], by simp [hk.sent], by simp [ht], ?_⟩
    simp [nextSeqnum, ht, step_sender h hs, hk.seqnum]
  push_neg at hs
  obtain ⟨b, rfl⟩ := hs
  cases b with
  | tick js r =>
    obtain ⟨hidle, -, hsent, hsend⟩ := sendStep_tick h
    rcases hsent with ⟨-, hpan⟩ | hsent
    · exact absurd hpan hp
    refine ⟨_, hsent,
      by simp [Act.isTick, nextSeqnum, hidle, SendState.control, List.range_succ], ?_⟩
    rcases hsend with ⟨hs', hpc⟩ | ⟨hs', hpc | hpc⟩
    · simp [nextSeqnum, hs', hpc, hidle, SendState.incrementSeqnum, SendState.control, Act.isTick]
    · simp [nextSeqnum, hs', hpc, hidle, SendState.control, Act.isTick]
    · exact absurd hpc hp
  | recvReset =>
    obtain ⟨hsent, -, hpc, hr⟩ := sendStep_recvReset h
    refine ⟨[], by simp [hsent], by simp [Act.isTick], ?_⟩
    rcases hr with ⟨hpr, hs'⟩ | ⟨⟨t, hpr⟩, hs'⟩ <;>
      simp [nextSeqnum, hpr, hpc, hs', SendState.incrementSeqnum, Act.isTick]
  | signal => exact absurd rfl ha

/-- Between two reconfigurations of the send task, whatever the socket answers and
whatever the other parties do, the ticks of a run that leaves the send task alive hand one
packet each to `udp_tx.send`, numbered on from `nextSeqnum` without gap or repeat, mod
2^16. -/
theorem seqnums_contiguous {as : List Act} (h : s.run as = some s')
    (hsig : ∀ a ∈ as, a ≠ .send .signal) (hp : s'.sender.pc ≠ .panicked) :
    ∃ new, s'.sent = s.sent ++ new ∧
      new.map (·.2.seqnum) =
        (List.range (as.countP Act.isTick)).map (s.nextSeqnum + BitVec.ofNat 16 ·) ∧
      s'.nextSeqnum = s.nextSeqnum + BitVec.ofNat 16 (as.countP Act.isTick) := by
  induction as generalizing s with
  | nil => cases h; exact ⟨[], by simp, by simp, by simp⟩
  | cons a as ih =>
    rw [run_cons, Option.bind_eq_some] at h
    obtain ⟨t, ht, h⟩ := h
    obtain ⟨new1, hs1, hm1, hn1⟩ :=
      step_seqnum ht (hsig a (List.mem_cons_self _ _)) (ne_panicked_of_run h hp)
    obtain ⟨new2, hs2, hm2, hn2⟩ := ih h (fun b hb => hsig b (List.mem_cons_of_mem _ hb))
    refine ⟨new1 ++ new2, by rw [hs2, hs1, List.append_assoc], ?_, ?_⟩
    · rw [List.map_append, hm1, hm2, hn1, List.countP_cons, Nat.add_comm, List.range_add,
        List.map_append, List.map_map]
      simp [Function.comp_def, BitVec.add_assoc, BitVec.ofNat_add_ofNat]
    · rw [hn2, hn1, List.countP_cons, BitVec.add_assoc, BitVec.ofNat_add_ofNat, Nat.add_comm]

def refusedThenResent : List Act :=
  [.send (.tick [] .ok), .send (.tick [] .refused), .send .recvReset, .send (.tick [] .ok)]

theorem seqnums_contiguous_refused :
    ∃ s', (init team4533 .live).run refusedThenResent = some s' ∧
      ∃ new, s'.sent = [] ++ new ∧
        new.map (·.2.seqnum) = (List.range 3).map ((0 : BitVec 16) + BitVec.ofNat 16 ·) ∧
        s'.nextSeqnum = 0 + BitVec.ofNat 16 3 :=
  ⟨_, rfl, @seqnums_contiguous (init team4533 .live) _ refusedThenResent rfl
    (by simp [refusedThenResent]) (by decide)⟩

/-! ### Requests -/

theorem control_pending (st : SendState) (js : List Joysticks) :
    (st.control js).2.pendingRequest = none ∧ (st.control js).2.pendingUdp = [] ∧
      (st.control js).2.incrementSeqnum.pendingRequest = none ∧
      (st.control js).2.incrementSeqnum.pendingUdp = [] :=
  ⟨rfl, rfl, rfl, rfl⟩

theorem step_requests {a : Act} (h : s.step a = some s') :
    ∃ new, s'.sent = s.sent ++ new ∧
      new.countP (·.2.request.isSome) + s'.send.pendingRequest.isSome.toNat ≤
        s.send.pendingRequest.isSome.toNat + if a.isRequest then 1 else 0 := by
  by_cases hs : ∀ b, a ≠ .send b
  · have hk := keepsSend_step h hs
    refine ⟨[], by simp [hk.sent], ?_⟩
    cases hr : a.isRequest
    · simp [hk.pendingRequest hr]
    · simp only [List.countP_nil, zero_add, if_true]
      exact (Bool.toNat_le _).trans (Nat.le_add_left _ _)
  push_neg at hs
  obtain ⟨b, rfl⟩ := hs
  cases b with
  | tick js r =>
    obtain ⟨-, -, hsent, hsend⟩ := sendStep_tick h
    have hq : s'.send.pendingRequest = none := by
      rcases hsend with ⟨hs', -⟩ | ⟨hs', -⟩ <;> simp [hs', control_pending]
    rcases hsent with ⟨hsent, -⟩ | hsent
    · exact ⟨[], by simp [hsent], by simp [hq]⟩
    · exact ⟨_, hsent, by cases hr : s.send.pendingRequest <;> simp [hq, hr, SendState.control]⟩
  | recvReset =>
    obtain ⟨hsent, -, -, hr⟩ := sendStep_recvReset h
    refine ⟨[], by simp [hsent], ?_⟩
    rcases hr with ⟨-, hs'⟩ | ⟨-, hs'⟩ <;> simp [hs', SendState.incrementSeqnum]
  | signal =>
    obtain ⟨-, hsent, -, ⟨-, hs', -⟩ | ⟨-, hs', -⟩⟩ := sendStep_signal h <;>
      exact ⟨[], by simp [hsent], by simp [hs', SendState.resetSeqnum, SendState.disable]⟩

theorem run_requests {as : List Act} (h : s.run as = some s') :
    ∃ new, s'.sent = s.sent ++ new ∧
      new.countP (·.2.request.isSome) + s'.send.pendingRequest.isSome.toNat ≤
        s.send.pendingRequest.isSome.toNat + as.countP Act.isRequest := by
  induction as generalizing s with
  | nil => cases h; exact ⟨[], by simp, by simp⟩
  | cons a as ih =>
    rw [run_cons, Option.bind_eq_some] at h
    obtain ⟨t, ht, h⟩ := h
    obtain ⟨new1, hs1, hc1⟩ := step_requests ht
    obtain ⟨new2, hs2, hc2⟩ := ih h
    refine ⟨new1 ++ new2, by rw [hs2, hs1, List.append_assoc], ?_⟩
    rw [List.countP_append, List.countP_cons]
    omega

/-- From a fresh driver station, no more packets carry a request than there were calls of
`restart_code` and `restart_roborio`: a request is sent at most once. -/
theorem request_packets_le_calls {c : Config} {phase : Facade} {as : List Act}
    (h : (init c phase).run as = some s) :
    s.sent.countP (·.2.request.isSome) ≤ as.countP Act.isRequest := by
  obtain ⟨new, hs, hc⟩ := run_requests h
  rw [hs]
  simp only [init, SendState.new, List.nil_append, Option.isSome_none, Bool.toNat_false,
    zero_add] at hc ⊢
  omega

def restartTwice : List Act :=
  [.facade (.request ⟨Request.RESTART_CODE, by decide⟩), .send (.tick [] .ok),
    .send (.tick [] .ok)]

theorem request_packets_le_calls_restart :
    ∃ s, (init team4533 .live).run restartTwice = some s ∧
      s.sent.countP (·.2.request.isSome) ≤ restartTwice.countP Act.isRequest :=
  ⟨_, rfl, @request_packets_le_calls _ team4533 .live restartTwice rfl⟩

/-! ### The UDP tag queue -/

def dateRequest : UdpResponsePacket := { simStatus with needDate := true }

theorem mapM_error {α β : Type} {g : α → Except Fault β} {l : List α}
    (h : ∃ x ∈ l, ∃ f, g x = .error f) : ∃ f, l.mapM g = .error f := by
  induction l with
  | nil => simp at h
  | cons x l ih =>
    rw [List.mapM_cons]
    cases hx : g x with
    | error f => exact ⟨f, rfl⟩
    | ok y =>
      obtain ⟨z, hz, f, hf⟩ := h
      rcases List.mem_cons.mp hz with rfl | hz
      · rw [hx] at hf; cases hf
      obtain ⟨f', hf'⟩ := ih ⟨z, hz, f, hf⟩
      exact ⟨f', by rw [hf']; rfl⟩

theorem tick_panics {js : List Joysticks} {r : SendResult} {f : Fault}
    (hpc : s.sender.pc = .idle) (he : (s.send.control js).1.encode = .error f) :
    s.sendStep (.tick js r) =
      some { s with send := (s.send.control js).2, sender := { s.sender with pc := .panicked } } := by
  simp only [sendStep, hpc, ne_eq, not_true_eq_false, if_false, he]

/-- A tick whose joysticks or queue hold a tag that `construct` rejects panics the send
task: that packet and the queued tags are lost, and no packet is sent in any continuation. -/
theorem encode_failure_stops_sending {js : List Joysticks} {r : SendResult} {as : List Act}
    (ht : ∃ t ∈ js.map UdpTag.joysticks ++ s.send.pendingUdp, ∃ f, t.construct = .error f)
    (h : s.run (.send (.tick js r) :: as) = some s') :
    s'.sent = s.sent ∧ s'.sender.pc = .panicked := by
  rw [run_cons, Option.bind_eq_some] at h
  obtain ⟨t, ht1, h⟩ := h
  have hpc : s.sender.pc = .idle := (sendStep_tick ht1).1
  obtain ⟨f, hf⟩ := mapM_error (g := UdpTag.construct) ht
  have he : (s.send.control js).1.encode = .error f := by
    simp only [UdpControlPacket.encode, SendState.control, hf]; rfl
  rw [step, tick_panics hpc he, Option.some.injEq] at ht1
  subst ht1
  obtain ⟨h1, h2⟩ := run_panicked rfl h
  exact ⟨h2, by rw [h1]⟩

def oversizedTimezone : UdpTag := .timezone ⟨List.replicate 255 0⟩

set_option maxRecDepth 4000 in
theorem encode_failure_stops_sending_timezone :
    ∃ s s', (init team4533 .live).run [.facade (.queueUdp oversizedTimezone)] = some s ∧
      s.run [.send (.tick [] .ok), .facade .enable] = some s' ∧
      s'.sent = s.sent ∧ s'.sender.pc = .panicked :=
  ⟨_, _, rfl, rfl, @encode_failure_stops_sending _ _ [] .ok [.facade .enable]
    ⟨oversizedTimezone, .head _, _, rfl⟩ rfl⟩

end Engine

end DS.Conn
