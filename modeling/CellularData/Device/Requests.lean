import CellularData.Device.Composition
import CellularData.Slot.Requests

/-! Requests for networks on their way from the net manager to the connections of a slot. -/
namespace CellularData
open Lib

namespace Slot

variable {env : Env} {s s' : Slot} {t : ApnType} {ls : List Label}

/-- The request for a network that the handler takes next. -/
def nextRequest (s : Slot) : List HandlerEvent :=
  (s.queue.next.map (·.1)).toList.filter HandlerEvent.isRequest

/-- Orders put no request into the queue and take none. -/
theorem requests_run (hready : s.RequestsReady) (hrun : system.run ls s = some s')
    (hls : ∀ l ∈ ls, ∃ env enable, l = .call env (.changeConnectionForDsds enable)) :
    s'.waitingRequests = s.waitingRequests := by
  have hall : s'.RequestsReady ∧ s'.waitingRequests = s.waitingRequests := by
    refine TransitionSystem.run_invariant
      (P := fun t => t.RequestsReady ∧ t.waitingRequests = s.waitingRequests) ?_ ⟨hready, rfl⟩ hrun
    rintro l hl t t' ⟨ht, hsame⟩ hstep
    obtain ⟨env, enable, rfl⟩ := hls l hl
    obtain ⟨ht', hone⟩ := requests_step ht hstep
    have hone' : t'.waitingRequests = t.waitingRequests := hone.trans (List.append_nil _)
    exact ⟨ht', hone'.trans hsame⟩
  exact hall.2

/-- Orders enable no holder and open no connection. -/
theorem heeds_run (hrun : system.run ls s = some s')
    (hls : ∀ l ∈ ls, ∃ env enable, l = .call env (.changeConnectionForDsds enable)) :
    (∀ t, (s'.holder t).dataCallEnabled = true → (s.holder t).dataCallEnabled = true) ∧
      s'.connectLog = s.connectLog := by
  refine TransitionSystem.run_invariant (P := fun s' : Slot =>
    (∀ t, (s'.holder t).dataCallEnabled = true → (s.holder t).dataCallEnabled = true) ∧
      s'.connectLog = s.connectLog) ?_ ⟨fun _ ht => ht, rfl⟩ hrun
  rintro l hl s₁ s₂ ⟨henabled, hlog⟩ hstep
  obtain ⟨env, enable, rfl⟩ := hls l hl
  constructor
  · intro t ht
    rcases enabled_step hstep ht with hasked | ⟨hbefore, -⟩
    · cases hasked
    · exact henabled t hbefore
  · rw [← hlog]
    obtain rfl := Option.some.inj hstep
    change (s₁.changeConnectionForDsds env enable).connectLog = _
    unfold changeConnectionForDsds
    extract_lets s₂
    split_ifs
    · rfl
    · exact congrArg (·.2.2.2.2) (scene_clearAllConnections (s := s₂) _)

end Slot

namespace Device

variable {caps : CapabilityNumbers} {e : CallEnv} {i : Int} {d d' : Device} {s s' : Slot}
  {L : DeviceLabel} {H : List (DeviceLabel × Device)} {t : ApnType}

/-! In order, and none lost -/

/-- The request that the handler of a slot takes in a step. -/
def servedBy (i : Int) (L : DeviceLabel) (d : Device) : List HandlerEvent :=
  match taking L with
  | some (slotId, _) => if slotId = i then (d.handler i).toList.flatMap Slot.nextRequest else []
  | none => []

/-- The requests that the net manager has sent to a slot in a run, the first one first. -/
def routed (i : Int) : List (DeviceLabel × Device) → List HandlerEvent
  | [] => []
  | (L, d) :: H => routed i H ++ routedBy i L d

/-- The requests that the handler of a slot has taken in a run, the first one first. -/
def served (i : Int) : List (DeviceLabel × Device) → List HandlerEvent
  | [] => []
  | (L, d) :: H => served i H ++ servedBy i L d

theorem servedBy_eq_nil (h : ∀ env, taking L ≠ some (i, env)) : servedBy i L d = [] := by
  unfold servedBy
  split
  · rename_i slotId env heq
    apply if_neg
    rintro rfl
    exact h env heq
  · rfl

/-- One step for a slot that has a handler. -/
theorem requests_slot_step (hreach : Slot.system.Reachable s) (hs : d.handler i = some s)
    (hmoves : SlotMoves i L d s s') :
    servedBy i L d ++ s'.waitingRequests = s.waitingRequests ++ routedBy i L d := by
  have hready : s.RequestsReady := Slot.reachable_requestsReady hreach
  cases hmoves with
  | follow hrun hrouted htaking =>
    have hwaiting : s'.waitingRequests = s.waitingRequests :=
      Slot.requests_run hready hrun orderLabels_call
    rw [servedBy_eq_nil htaking, hrouted, hwaiting, List.append_nil]
    rfl
  | @work e es l s₁ hstep hrun hrouted htaking =>
    obtain ⟨hready₁, hone⟩ := Slot.requests_step hready hstep
    have hwaiting : s'.waitingRequests = s₁.waitingRequests :=
      Slot.requests_run hready₁ hrun orderLabels_call
    have hserved : servedBy i L d = s.serves l := by
      rcases htaking with ⟨hquiet, hnone⟩ | ⟨env, registerNetSupplier, rfl, htaking⟩
      · rw [Slot.serves, Slot.taken_eq_none hquiet]
        simp [servedBy, hnone]
      · simp [servedBy, htaking, hs, Slot.nextRequest, Slot.serves, Slot.taken]
    rw [hserved, hwaiting, hrouted]
    exact hone

/-- The requests that the net manager sends to a slot are taken by its handler in the same order, each
once, or still wait in its queue. -/
theorem requests_routed (hh : (system caps).History H d) (hs : d.handler i = some s) :
    served i H ++ s.waitingRequests = routed i H := by
  have hall : (∀ s, d.handler i = some s → served i H ++ s.waitingRequests = routed i H) ∧
      (d.handler i = none → served i H = [] ∧ routed i H = []) := by
    clear hs
    induction hh with
    | init hd =>
      obtain ⟨simNum, tstsModeEnabled, netCapabilities, rfl⟩ := hd
      refine ⟨?_, fun _ => ⟨rfl, rfl⟩⟩
      intro s hs
      rw [handler_init] at hs
      cases hs
    | @step H L d d' hh hstep ih =>
      simp only [served, routed]
      cases ht : d.handler i with
      | none =>
        obtain ⟨hcreated, hrouted, htaking⟩ := slot_created hstep ht
        obtain ⟨hserved, hnone⟩ := ih.2 ht
        rw [servedBy_eq_nil htaking, hrouted, hserved, hnone]
        refine ⟨?_, fun _ => ⟨rfl, rfl⟩⟩
        intro s' hs'
        rcases hcreated with hempty | ⟨s, hs, hinit⟩
        · rw [hempty] at hs'
          cases hs'
        · obtain rfl := Option.some.inj (hs.symm.trans hs')
          exact (Slot.initial_orderly hinit).2.1
      | some t =>
        obtain ⟨t', ht', hmoves⟩ := slot_moves hstep ht
        have hreach : Slot.system.Reachable t := reachable_handler hh.reachable ht
        have hone := requests_slot_step hreach ht hmoves
        constructor
        · intro s' hs'
          obtain rfl := Option.some.inj (ht'.symm.trans hs')
          rw [List.append_assoc, hone, ← List.append_assoc, ih.1 t ht]
        · intro hempty
          rw [ht'] at hempty
          cases hempty
  exact hall.1 s hs

/-- Slot 0 has taken a request for the default network, and one for messages waits. -/
theorem requests_routed_two : ∃ H d s, (system serviceCaps).History H d ∧ d.handler 0 = some s ∧
    (routed 0 H).length = 2 ∧ s.waitingRequests.length = 1 ∧
      served 0 H ++ s.waitingRequests = routed 0 H := by
  obtain ⟨H, d, hh, hp⟩ := exists_history
    (requestedLabels ++ [.networkCallback true ⟨identPrefix ++ ['1'], [.mms], .other 0⟩ serviceCall])
    (p := fun H d => (d.handler 0).any fun s =>
      (routed 0 H).length = 2 ∧ s.waitingRequests.length = 1) (by decide +kernel)
  obtain ⟨s, hs, hp⟩ := (Option.any_eq_true _ _).mp hp
  obtain ⟨hrouted, hwaiting⟩ := of_decide_eq_true hp
  exact ⟨H, d, s, hh, hs, hrouted, hwaiting, requests_routed hh hs⟩

/-! Connections only on request -/

/-- The handler of the slot takes a request for the network of the type. -/
def Asks (i : Int) (t : ApnType) (L : DeviceLabel) (d : Device) : Prop :=
  ∃ env s, taking L = some (i, env) ∧ d.handler i = some s ∧
    s.requested (.dispatchHandler env) = some t

/-- It takes the release of that network, or hears that the SIM is gone. -/
def Withdraws (i : Int) (t : ApnType) (L : DeviceLabel) (d : Device) : Prop :=
  ∃ env s, taking L = some (i, env) ∧ d.handler i = some s ∧
    s.withdrawn (.dispatchHandler env) t = true

/-- The network has been requested of the slot and the request still stands. -/
def Wanted (i : Int) (t : ApnType) : List (DeviceLabel × Device) → Prop :=
  Standing (Asks i t) (Withdraws i t)

/-- The holder of a slot that has its handler is enabled. -/
def Enabled (i : Int) (t : ApnType) (d : Device) : Prop :=
  ∃ s, d.handler i = some s ∧ (s.holder t).dataCallEnabled = true

theorem enabled_slot_step (hs : d.handler i = some s) (hmoves : SlotMoves i L d s s')
    (ht : (s'.holder t).dataCallEnabled = true) :
    Asks i t L d ∨ (s.holder t).dataCallEnabled = true ∧ ¬ Withdraws i t L d := by
  cases hmoves with
  | follow hrun hrouted htaking =>
    right
    refine ⟨(Slot.heeds_run hrun orderLabels_call).1 t ht, ?_⟩
    rintro ⟨env, -, heq, -⟩
    exact htaking env heq
  | @work e es l s₁ hstep hrun hrouted htaking =>
    have ht₁ : (s₁.holder t).dataCallEnabled = true := (Slot.heeds_run hrun orderLabels_call).1 t ht
    have hone := Slot.enabled_step hstep ht₁
    rcases htaking with ⟨hquiet, hnone⟩ | ⟨env, registerNetSupplier, rfl, htaking⟩
    · rcases hone with hasked | ⟨hbefore, -⟩
      · rw [Slot.requested, Slot.taken_eq_none hquiet] at hasked
        cases hasked
      · refine .inr ⟨hbefore, ?_⟩
        rintro ⟨env, -, heq, -⟩
        rw [hnone] at heq
        cases heq
    · rcases hone with hasked | ⟨hbefore, hkept⟩
      · exact .inl ⟨env, s, htaking, hs, hasked⟩
      · refine .inr ⟨hbefore, ?_⟩
        rintro ⟨env', s', heq, hs', hw⟩
        obtain rfl := Option.some.inj (hs.symm.trans hs')
        obtain rfl : env = env' := congrArg Prod.snd (Option.some.inj (htaking.symm.trans heq))
        exact hkept hw

theorem enabled_wanted (hh : (system caps).History H d) (ht : Enabled i t d) : Wanted i t H := by
  refine hh.standing (P := Enabled i t) ?_ ?_ ht
  · rintro d ⟨simNum, tstsModeEnabled, netCapabilities, rfl⟩ ⟨s, hs, -⟩
    rw [handler_init] at hs
    cases hs
  · rintro L d d' - hstep ⟨s', hs', henabled⟩
    cases hs : d.handler i with
    | none =>
      rcases (slot_created hstep hs).1 with hnone | ⟨s, hnew, hinit⟩
      · rw [hnone] at hs'
        cases hs'
      · obtain rfl := Option.some.inj (hnew.symm.trans hs')
        rw [Slot.initial_holder hinit t] at henabled
        cases henabled
    | some s =>
      obtain ⟨s₁, hs₁, hmoves⟩ := slot_moves hstep hs
      obtain rfl := Option.some.inj (hs₁.symm.trans hs')
      rcases enabled_slot_step hs hmoves henabled with hasks | ⟨hbefore, hkept⟩
      · exact .inl hasks
      · exact .inr ⟨⟨s, hs, hbefore⟩, hkept⟩

/-- Whatever the order of the steps, a slot opens a connection only for a network that has been
requested of that slot and not been given back since. -/
theorem connections_wanted (hh : (system caps).History H d) (hstep : step caps L d = some d')
    (hs : d.handler i = some s) (hs' : d'.handler i = some s') :
    ∃ rs, s'.connectLog = rs ++ s.connectLog ∧ ∀ r ∈ rs, Wanted i r.apnType H := by
  obtain ⟨s₁, hs₁, hmoves⟩ := slot_moves hstep hs
  obtain rfl := Option.some.inj (hs₁.symm.trans hs')
  cases hmoves with
  | follow hrun hrouted htaking =>
    exact ⟨[], (Slot.heeds_run hrun orderLabels_call).2, fun _ hr => nomatch hr⟩
  | @work e es l s₂ hwork hrun hrouted htaking =>
    obtain ⟨rs, hlog, hrs⟩ := Slot.opened_step hwork
    refine ⟨rs, (Slot.heeds_run hrun orderLabels_call).2.trans hlog, ?_⟩
    intro r hr
    exact enabled_wanted hh ⟨s, hs, hrs r hr⟩

theorem connections_wanted_default : ∃ H d d' s s' r rs, (system serviceCaps).History H d ∧
    step serviceCaps (.dispatchHandler 0 Slot.serviceEnv serviceCall CellularDataNetAgent.acceptingEnv) d = some d' ∧
      d.handler 0 = some s ∧ d'.handler 0 = some s' ∧ r.apnType = .default_ ∧
        s'.connectLog = r :: rs ∧ Wanted 0 .default_ H := by
  obtain ⟨H, d, hh, hp⟩ := exists_history requestedLabels
    (p := fun _ d => (step serviceCaps (.dispatchHandler 0 Slot.serviceEnv serviceCall
      CellularDataNetAgent.acceptingEnv) d).any fun d' => (d.handler 0).any fun s => (d'.handler 0).any fun s' =>
        s.connectLog = [] ∧ s'.connectLog.map (·.apnType) = [.default_]) (by decide +kernel)
  obtain ⟨d', hstep, hp⟩ := (Option.any_eq_true _ _).mp hp
  obtain ⟨s, hs, hp⟩ := (Option.any_eq_true _ _).mp hp
  obtain ⟨s', hs', hlog⟩ := (Option.any_eq_true _ _).mp hp
  obtain ⟨hnone, hone⟩ := of_decide_eq_true hlog
  obtain ⟨r, rs, heq, htype, -⟩ := List.map_eq_cons_iff.mp hone
  obtain ⟨new, hnew, hwanted⟩ := connections_wanted hh hstep hs hs'
  have hr : r ∈ new := by
    rw [hnone, List.append_nil] at hnew
    rw [← hnew, heq]
    exact List.mem_cons_self
  refine ⟨H, d, d', s, s', r, rs, hh, hstep, hs, hs', htype, heq, ?_⟩
  rw [← htype]
  exact hwanted r hr

end Device
end CellularData
