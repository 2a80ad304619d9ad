import CellularData.Slot.OrderlyEvents

/-! What holds of a slot in every run because all its steps leave it in order: the gate that a change
of the MCC shuts is opened again, the core service knows the state of the physical link, and only the
net manager asks for networks. -/
namespace CellularData
open Lib StateMachine

namespace Slot

variable {env : Env} {s s' : Slot} {l : Label} {e : HandlerEvent}

/-! Steps of the machines -/

theorem tidy_receive (m : MachineRef) (o : MachineOutput) (s : Slot) :
    Tidy s (s.receive m o) := by
  cases o with
  | establishDataConnectionComplete info => exact (discreet_sendEvent rfl s).toTidy
  | disconnectDataComplete info => exact (discreet_sendEvent rfl s).toTidy
  | addActiveConnectionByCid cid => exact .of_worn rfl
  | deactivatePdpContext param => exact (tidy_machineEffect m _ s).trans (.of_worn rfl)
  | _ => exact tidy_machineEffect m _ s

theorem worn_logMachineEvent (m : MachineRef) (x : CellularDataStateMachine) (e : MachineEvent)
    (s : Slot) : (s.logMachineEvent m x e).worn = s.worn := by
  cases e with
  | setupDataCall answer =>
    cases answer with
    | resultInfo info =>
      simp only [logMachineEvent]
      split_ifs <;> rfl
    | rilInfo info => rfl
    | empty => rfl
  | rilAdapterHostDied info =>
    simp only [logMachineEvent]
    split_ifs <;> rfl
  | _ => rfl

theorem dispatchMachine_eq_some {m : MachineRef} (h : s.dispatchMachine env m = some s') :
    ∃ x e x', s.machine? m = some x ∧ x.dispatch (env.machineEnv s) = some (e, x') ∧
      s' = x'.data.outbox.foldl (fun s o => s.receive m o) { s.logMachineEvent m x e with
        stateMachines := s.stateMachines.set m x'.clearOutbox } := by
  unfold dispatchMachine at h
  cases hm : s.machine? m with
  | none => simp [hm] at h
  | some x =>
    simp only [hm] at h
    cases hd : x.dispatch (env.machineEnv s) with
    | none => simp [hd] at h
    | some p =>
      obtain ⟨e, x'⟩ := p
      simp only [hd, Option.some.injEq] at h
      exact ⟨x, e, x', rfl, hd, h.symm⟩

theorem tidy_dispatchMachine {m : MachineRef} (h : s.dispatchMachine env m = some s') :
    Tidy s s' := by
  obtain ⟨x, e, x', -, -, rfl⟩ := dispatchMachine_eq_some h
  have hlog : Tidy s { s.logMachineEvent m x e with
      stateMachines := s.stateMachines.set m x'.clearOutbox } :=
    .of_worn (worn_logMachineEvent m x e s)
  exact hlog.trans (Tidy.foldl (fun s o => tidy_receive m o s) _ _)

/-! Steps in which neither the handler nor a machine takes an event -/

/-- What is told of the suppliers depends on these members. -/
def stock (s : Slot) := (s.apnManager, s.machineData, s.effects)

/-- The holders and the data of the machines are left alone, and nothing is asked for. -/
structure Still (s s' : Slot) : Prop extends Tidy s s' where
  stock : s'.stock = s.stock

theorem Still.refl (s : Slot) : Still s s := ⟨.refl s, rfl⟩

theorem Still.trans {s'' : Slot} (h : Still s s') (h' : Still s' s'') : Still s s'' :=
  ⟨h.toTidy.trans h'.toTidy, h'.stock.trans h.stock⟩

theorem Still.foldl {α : Type} {f : Slot → α → Slot} (hf : ∀ s a, Still s (f s a)) (l : List α)
    (s : Slot) : Still s (l.foldl f s) := by
  apply List.foldlRecOn l f (motive := Still s)
  · exact .refl s
  · exact fun s' h a _ => h.trans (hf s' a)

/-- Only the machines are written, and not their data. -/
theorem Still.machines {xs : List CellularDataStateMachine}
    (hdata : xs.map (·.data) = s.machineData) : Still s { s with stateMachines := xs } :=
  ⟨.of_worn rfl, congrArg (fun data => (s.apnManager, data, s.effects)) hdata⟩

theorem still_sendEvent (he : e.isRequest = false) (s : Slot) : Still s (s.sendEvent e) :=
  ⟨(discreet_sendEvent he s).toTidy, rfl⟩

theorem still_postMachine (m : MachineRef) (e : MachineEvent) (s : Slot) :
    Still s (s.postMachine m e) :=
  .machines (machineData_postMachine m e s)

theorem still_relayDataCall (info : SetupDataCallResultInfo) (s : Slot) :
    Still s (s.relayDataCall info) := by
  unfold relayDataCall
  split
  · exact still_sendEvent rfl s
  · exact .refl s

theorem still_loseConnection (dcList : List SetupDataCallResultInfo) (m : MachineRef) (s : Slot) :
    Still s (s.loseConnection dcList m) := by
  unfold loseConnection
  split
  · exact .refl s
  · split
    · exact still_postMachine m _ s
    · exact .refl s

theorem still_radioDataCallListChanged (dcList : List SetupDataCallResultInfo) (s : Slot) :
    Still s (s.radioDataCallListChanged dcList) := by
  unfold radioDataCallListChanged logDown
  extract_lets registered s₁ s₂
  have h₁ : Still s s₁ := Still.foldl (fun s info => still_relayDataCall info s) dcList s
  have h₂ : Still s₁ s₂ := Still.foldl (fun s m => still_loseConnection dcList m s) registered s₁
  refine (h₁.trans h₂).trans (Still.foldl (fun s info => ?_) dcList s₂)
  split_ifs
  · exact ⟨.of_worn rfl, rfl⟩
  · exact .refl s

theorem still_radioLinkCapabilityChanged (up down : Nat) (s : Slot) :
    Still s (s.radioLinkCapabilityChanged up down) :=
  Still.foldl (fun s m => still_postMachine m (.linkCapabilityChanged up down) s) _ s

/-- No request for a network is delayed. -/
def RequestsReady (s : Slot) : Prop :=
  (s.queue.restrict HandlerEvent.isRequest).immediate = [] ∧
    (s.queue.restrict HandlerEvent.isRequest).delayed = []

theorem still_fireHandler {i : Nat} {q : EventQueue HandlerEvent} (hready : s.RequestsReady)
    (h : s.queue.expire i = some q) : Still s { s with queue := q } := by
  have hd : Discreet s { s with queue := q } := discreet_queue (EventQueue.restrict_expire h hready.2)
    (EventQueue.mem_pending_expire h).mpr fun _ hn => hn.expire h
  exact ⟨hd.toTidy, rfl⟩

theorem still_fireMachine {m : MachineRef} {i : Nat} {x x' : CellularDataStateMachine}
    (hm : s.machine? m = some x) (h : x.fire i = some x') :
    Still s { s with stateMachines := s.stateMachines.set m x' } := by
  obtain ⟨q, -, rfl⟩ := CellularDataStateMachine.fire_eq_some h
  have hdata : s.machineData[m]? = some x.data := by
    rw [machineData_getElem?, hm, Option.map_some]
  apply Still.machines
  rw [List.map_set]
  exact set_of_getElem? hdata

theorem still_linkStateChanged (m : MachineRef) (ifName : String) (up : Bool) (s : Slot) :
    Still s (s.modifyMachine m fun x => x.onInterfaceLinkStateChanged ifName up) := by
  refine .machines (machineData_modifyMachine (fun x => ?_) m s)
  rcases x.onInterfaceLinkStateChanged_cases ifName up with heq | heq <;> rw [heq]

theorem still_postHandler (he : e.isExternal = true) : Still s (s.sendEvent e) := by
  have hrequest : e.isRequest = false := by
    cases e <;> first | rfl | cases he
  exact still_sendEvent hrequest s

/-! Steps -/

/-- The requests for networks that a step puts into the queue. -/
def posts : Label → List HandlerEvent
  | .call _ (.requestNet isRequest caps bearTypes) =>
    [.requestNetwork ⟨findBestCapability caps, bearTypes⟩ isRequest]
  | _ => []

/-- Steps in which the handler takes an event. -/
def dispatches : Label → Bool
  | .dispatchHandler _ => true
  | _ => false

theorem taken_eq_none (h : dispatches l = false) : s.taken l = none := by
  cases l with
  | dispatchHandler env => cases h
  | _ => rfl

/-- What a step is: an event taken by the handler or by a machine, a call of another thread, or
none of these. -/
inductive Moves (s : Slot) : Label → Slot → Prop
  | still {l : Label} {s' : Slot} (hposts : posts l = []) (hquiet : dispatches l = false)
      (h : Still s s') : Moves s l s'
  | machine {env : Env} {m : MachineRef} {s' : Slot} (h : s.dispatchMachine env m = some s') :
      Moves s (.dispatchMachine env m) s'
  | take {env : Env} {e : HandlerEvent} {q : EventQueue HandlerEvent}
      (hnext : s.queue.next = some (e, q)) :
      Moves s (.dispatchHandler env) (processEvent env { s with queue := q } e)
  | call {env : Env} {c : Call} (hrequest : ∀ b caps bear, c ≠ .requestNet b caps bear) :
      Moves s (.call env c) (s.call env c)
  | request {env : Env} {isRequest : Bool} {caps : List NetCap} {bearTypes : BearType} :
      Moves s (.call env (.requestNet isRequest caps bearTypes))
        (s.sendEvent (.requestNetwork ⟨findBestCapability caps, bearTypes⟩ isRequest))

theorem step_moves (hready : s.RequestsReady) (h : system.step l s = some s') : Moves s l s' := by
  change Slot.step l s = some s' at h
  cases l with
  | postHandler e =>
    simp only [step] at h
    split_ifs at h with he
    obtain rfl := Option.some.inj h
    exact .still rfl rfl (still_postHandler he)
  | dispatchHandler env =>
    simp only [step, dispatchHandler] at h
    cases hnext : s.queue.next with
    | none => simp [hnext] at h
    | some p =>
      obtain ⟨e, q⟩ := p
      rw [hnext] at h
      obtain rfl := Option.some.inj h
      exact .take hnext
  | fireHandler i =>
    obtain ⟨q, hq, rfl⟩ := Option.map_eq_some_iff.mp h
    exact .still rfl rfl (still_fireHandler hready hq)
  | call env c =>
    obtain rfl := Option.some.inj h
    by_cases hnet : ∃ isRequest caps bearTypes, c = .requestNet isRequest caps bearTypes
    · obtain ⟨isRequest, caps, bearTypes, rfl⟩ := hnet
      exact .request
    · exact .call fun b caps bear heq => hnet ⟨b, caps, bear, heq⟩
  | postMachine m e =>
    simp only [step] at h
    split_ifs at h
    obtain rfl := Option.some.inj h
    exact .still rfl rfl (still_postMachine m e s)
  | dispatchMachine env m => exact .machine h
  | fireMachine m i =>
    obtain ⟨x, hm, hx⟩ := Option.bind_eq_some_iff.mp h
    obtain ⟨x', hfire, rfl⟩ := Option.map_eq_some_iff.mp hx
    exact .still rfl rfl (still_fireMachine hm hfire)
  | linkStateChanged m ifName up =>
    simp only [step] at h
    split_ifs at h
    obtain rfl := Option.some.inj h
    exact .still rfl rfl (still_linkStateChanged m ifName up s)
  | dataCallListChanged dcList =>
    obtain rfl := Option.some.inj h
    exact .still rfl rfl (still_radioDataCallListChanged dcList s)
  | linkCapabilityChanged up down =>
    obtain rfl := Option.some.inj h
    exact .still rfl rfl (still_radioLinkCapabilityChanged up down s)

/-! Requests for networks in the order in which they are made -/

/-- The requests that wait in the queue of the handler. -/
def waitingRequests (s : Slot) : List HandlerEvent :=
  (s.queue.restrict HandlerEvent.isRequest).ready

/-- The requests that a step takes from the queue. -/
def serves (s : Slot) (l : Label) : List HandlerEvent :=
  (s.taken l).toList.filter HandlerEvent.isRequest

theorem RequestsReady.of_restrict (hready : s.RequestsReady)
    (h : s'.queue.restrict HandlerEvent.isRequest = s.queue.restrict HandlerEvent.isRequest) :
    s'.RequestsReady ∧ s'.waitingRequests = s.waitingRequests := by
  unfold RequestsReady waitingRequests
  rw [h]
  exact ⟨hready, rfl⟩

/-- One step: what is put into the queue goes behind the requests that wait, what is taken was the
first of them. -/
theorem requests_step (hready : s.RequestsReady) (h : system.step l s = some s') :
    s'.RequestsReady ∧ s.serves l ++ s'.waitingRequests = s.waitingRequests ++ posts l := by
  cases step_moves hready h with
  | still hposts hquiet hd =>
    obtain ⟨hready', hwaiting⟩ := hready.of_restrict hd.requests
    refine ⟨hready', ?_⟩
    rw [serves, taken_eq_none hquiet, hposts, hwaiting, List.append_nil]
    rfl
  | machine hm =>
    obtain ⟨hready', hwaiting⟩ := hready.of_restrict (tidy_dispatchMachine hm).requests
    refine ⟨hready', ?_⟩
    rw [hwaiting]
    exact (List.append_nil _).symm
  | @take env e q hnext =>
    obtain ⟨hline, hdelayed⟩ := EventQueue.restrict_next (p := HandlerEvent.isRequest) hnext
    have hkept : (processEvent env { s with queue := q } e).queue.restrict HandlerEvent.isRequest =
        q.restrict HandlerEvent.isRequest := (eases_processEvent e { s with queue := q }).requests
    have himmediate : (q.restrict HandlerEvent.isRequest).immediate = [] := by
      rcases EventQueue.next_eq_some_iff.mp hnext with ⟨himm, -, -⟩ | ⟨-, himm', -, -⟩
      · have hnone : (e :: q.immediate).filter HandlerEvent.isRequest = [] := himm ▸ hready.1
        rw [List.filter_cons] at hnone
        split_ifs at hnone
        exact hnone
      · change q.immediate.filter HandlerEvent.isRequest = []
        rw [himm']
        rfl
    have hserves : s.serves (.dispatchHandler env) = [e].filter HandlerEvent.isRequest := by
      simp [serves, taken, hnext]
    rw [hready.1, himmediate, List.nil_append, List.nil_append] at hline
    unfold RequestsReady waitingRequests
    rw [hkept, hserves, hline]
    exact ⟨⟨himmediate, hdelayed.trans hready.2⟩, (List.append_nil _).symm⟩
  | @call env c hrequest =>
    have horderly : Orderly s (s.call env c) := orderly_call hrequest s
    obtain ⟨hready', hwaiting⟩ := hready.of_restrict horderly.requests
    have hposts : posts (.call env c) = [] := by
      unfold posts
      split
      · rename_i heq
        cases heq
        exact absurd rfl (hrequest _ _ _)
      · rfl
    refine ⟨hready', ?_⟩
    rw [hposts, hwaiting, List.append_nil]
    rfl
  | @request env isRequest caps bearTypes =>
    have hqueue : (s.queue.sendEvent (.requestNetwork ⟨findBestCapability caps, bearTypes⟩
        isRequest)).restrict HandlerEvent.isRequest = (s.queue.restrict HandlerEvent.isRequest).sendEvent
          (.requestNetwork ⟨findBestCapability caps, bearTypes⟩ isRequest) :=
      EventQueue.restrict_sendEvent_of_pos rfl
    constructor
    · unfold RequestsReady sendEvent
      dsimp only
      rw [hqueue]
      exact hready
    · change [] ++ (EventQueue.restrict (EventQueue.sendEvent _ _) _).ready = _
      rw [hqueue]
      rfl

/-! Runs -/

/-- What `Init` leaves in a slot. -/
theorem discreet_init (s : Slot) : Discreet s (s.init env) :=
  (discreet_loadSwitchValue s).trans (discreet_getDefaultConfiguration _)

theorem initial_orderly (hs : Initial s) : s.RequestsReady ∧ s.waitingRequests = [] ∧
    s.isMccChanged = false ∧ s.LinkTold := by
  obtain ⟨env, slotId, holders, -, rfl⟩ := hs
  have hinit : Discreet _ (init env { slotId, apnManager := { sortedApnHolders := holders } }) :=
    discreet_init _
  have hblank : RequestsReady { slotId, apnManager := { sortedApnHolders := holders } } := ⟨rfl, rfl⟩
  obtain ⟨hready, hwaiting⟩ := hblank.of_restrict hinit.requests
  have htold : LinkTold { slotId, apnManager := { sortedApnHolders := holders } } :=
    ⟨.singleton _, rfl⟩
  exact ⟨hready, hwaiting, hinit.gate rfl, hinit.linkTold htold⟩

theorem initial_internalDataOn (hs : Initial s) : s.dataSwitchSettings.internalDataOn = true := by
  obtain ⟨env, slotId, holders, -, rfl⟩ := hs
  have hinit : Discreet _ (init env { slotId, apnManager := { sortedApnHolders := holders } }) :=
    discreet_init _
  exact hinit.internalDataOn

theorem reachable_requestsReady (hs : system.Reachable s) : s.RequestsReady :=
  hs.invariant (fun _ hs => (initial_orderly hs).1)
    fun _ _ _ _ hready hstep => (requests_step hready hstep).1

/-- The core service is told each change of the physical link and nothing else. -/
theorem link_told (hs : system.Reachable s) : s.LinkTold := by
  refine hs.invariant (fun _ hs => (initial_orderly hs).2.2.2) ?_
  intro l s s' hreach htold hstep
  cases step_moves (reachable_requestsReady hreach) hstep with
  | still _ _ hd => exact hd.linkTold htold
  | machine hm => exact (tidy_dispatchMachine hm).linkTold htold
  | @take env e q hnext => exact (eases_processEvent e { s with queue := q }).linkTold htold
  | call hrequest => exact (orderly_call hrequest s).linkTold htold
  | request => exact htold

/-- The default network has been requested and its connection is up. -/
theorem link_told_up : ∃ s, system.Reachable s ∧ s.linkNotices = [true, false] ∧ s.LinkTold := by
  obtain ⟨s, -, hs, hup⟩ := exists_run connectedLabels
    (p := fun s => s.linkNotices = [true, false]) (by decide +kernel)
  exact ⟨s, hs, of_decide_eq_true hup, link_told hs⟩

theorem reachable_gateReopens (hs : system.Reachable s) : s.GateReopens := by
  refine hs.invariant ?_ ?_
  · intro s hs hmcc
    rw [(initial_orderly hs).2.2.1] at hmcc
    cases hmcc
  · intro l s s' hreach hg hstep
    cases step_moves (reachable_requestsReady hreach) hstep with
    | still _ _ hd => exact hd.reopens hg
    | machine hm => exact (tidy_dispatchMachine hm).reopens hg
    | @take env e q hnext =>
      by_cases he : e = .mccChangeActivateDelay
      · subst he
        exact gateReopens_mccChangeActivateDelay _
      · refine (eases_processEvent e { s with queue := q }).reopens ?_
        intro hmcc
        rcases (EventQueue.mem_pending_next hnext).mp (hg hmcc) with heq | hpending
        · exact absurd heq.symm he
        · exact hpending
    | call hrequest => exact (orderly_call hrequest s).reopens hg
    | request => exact fun hmcc => EventQueue.mem_pending_sendEvent.mpr (.inl (hg hmcc))

/-! The gate that a change of the MCC shuts -/

/-- One step: the event that opens the gate is taken, or it still waits, behind fewer events if the
handler has taken one. -/
theorem waits_step {n : Nat} (h : system.step l s = some s')
    (hwaits : s.RequestsReady ∧ s.queue.Waits .mccChangeActivateDelay n) :
    s'.isMccChanged = false ∨ ∃ m, (if dispatches l then m < n else m ≤ n) ∧
      s'.RequestsReady ∧ s'.queue.Waits .mccChangeActivateDelay m := by
  obtain ⟨hready, hwaits⟩ := hwaits
  have hready' : s'.RequestsReady := (requests_step hready h).1
  have hstays (hquiet : dispatches l = false) (hs' : s'.queue.Waits .mccChangeActivateDelay n) :
      ∃ m, (if dispatches l then m < n else m ≤ n) ∧
        s'.RequestsReady ∧ s'.queue.Waits .mccChangeActivateDelay m := by
    refine ⟨n, ?_, hready', hs'⟩
    simp [hquiet]
  cases step_moves hready h with
  | still hposts hquiet hd => exact .inr (hstays hquiet (hd.waits n hwaits))
  | machine hm => exact .inr (hstays rfl ((tidy_dispatchMachine hm).waits n hwaits))
  | call hrequest => exact .inr (hstays rfl ((orderly_call hrequest s).waits n hwaits))
  | request => exact .inr (hstays rfl (hwaits.sendEvent _))
  | @take env e q hnext =>
    rcases hwaits.next hnext with rfl | ⟨m, hm, hq⟩
    · left
      have hopened : Discreet { s with queue := q, isMccChanged := false }
          (establishAllApnsIfConnectable env { s with queue := q, isMccChanged := false }) :=
        discreet_establishAllApnsIfConnectable _
      exact hopened.gate rfl
    · right
      refine ⟨m, hm, hready', ?_⟩
      exact (eases_processEvent e { s with queue := q }).waits m hq

/-- While a change of the MCC keeps the gate shut, its timer runs, or the gate is opened before the
handler has taken more events than are queued, whatever else happens. -/
theorem gate_reopens (hs : system.Reachable s) (hmcc : s.isMccChanged = true) :
    .mccChangeActivateDelay ∈ s.queue.delayed ∨ ∀ ls s', system.run ls s = some s' →
      (s.queue.immediate ++ s.queue.ready).length ≤ ls.countP dispatches →
        system.Visits (fun s => s.isMccChanged = false) ls s := by
  have hpending := EventQueue.mem_pending.mp (reachable_gateReopens hs hmcc)
  rw [← or_assoc, ← List.mem_append, or_comm] at hpending
  refine hpending.imp_right ?_
  intro hqueued ls s' hrun hcount
  obtain ⟨n, hn, hwaits⟩ := EventQueue.waits_of_mem hqueued
  have hready : s.RequestsReady := reachable_requestsReady hs
  exact TransitionSystem.visits_of_countdown (c := dispatches)
    (fun _ _ _ _ hr hstep => waits_step hstep hr) ⟨hready, hwaits⟩ hrun (by omega)

/-- The phone moves from China to Hong Kong, the timer expires and a notice of the radio is queued
behind its event. -/
def movedLabels : List Label :=
  [.postHandler (.residentNetworkChange "46000"), .dispatchHandler serviceEnv,
    .postHandler (.residentNetworkChange "45400"), .dispatchHandler serviceEnv, .fireHandler 0,
    .postHandler .psRatChanged]

theorem gate_reopens_moved : ∃ s s', system.Reachable s ∧ s.isMccChanged = true ∧
    system.run [.dispatchHandler serviceEnv, .dispatchHandler serviceEnv] s = some s' ∧
      system.Visits (fun s => s.isMccChanged = false)
        [.dispatchHandler serviceEnv, .dispatchHandler serviceEnv] s := by
  obtain ⟨s, -, hs, hp⟩ := exists_run movedLabels
    (p := fun s => s.isMccChanged && s.queue.delayed.isEmpty &&
      decide ((s.queue.immediate ++ s.queue.ready).length ≤ 2) &&
      (system.run [.dispatchHandler serviceEnv, .dispatchHandler serviceEnv] s).isSome)
    (by decide +kernel)
  simp only [Bool.and_eq_true, decide_eq_true_eq, List.isEmpty_iff] at hp
  obtain ⟨⟨⟨hmcc, hdelayed⟩, hlength⟩, hrun⟩ := hp
  obtain ⟨s', hrun⟩ := Option.isSome_iff_exists.mp hrun
  refine ⟨s, s', hs, hmcc, hrun, ?_⟩
  rcases gate_reopens hs hmcc with htimer | hvisits
  · rw [hdelayed] at htimer
    cases htimer
  · exact hvisits _ s' hrun hlength

end Slot
end CellularData
