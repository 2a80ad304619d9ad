import CellularData.Machine.Supply
import CellularData.Slot.Steps

/-! What the functions of the handler leave in order: the requests that wait in its queue, the timer
that reopens the activation gate, the notices of the physical link and the switch of internal data. -/
namespace CellularData
open Lib StateMachine

/-- Events that ask for a network or give it back. -/
def HandlerEvent.isRequest : HandlerEvent → Bool
  | .requestNetwork _ _ => true
  | _ => false

/-- The state of the physical link that a request tells the core service. -/
def Effect.linkNotice : Effect → Option Bool
  | .dcPhysicalLinkActiveUpdate active => some active
  | _ => none

/-- The slot whose internal data a request orders off. -/
def Effect.orderedOff : Effect → Option Int
  | .changeConnectionForDsds slotId false => some slotId
  | _ => none

/-- What a machine tells the net manager of the availability of its supplier for a capability. -/
def Effect.offer (m : MachineRef) (capability : NetCap) : Effect → Option Bool
  | .machine n (.updateNetSupplierInfo cap info) =>
    if n = m ∧ cap = capability then some info.isAvailable else none
  | _ => none

theorem offer_of_not_supplierInfo {o : MachineOutput} (ho : o.isSupplierInfo = false)
    (n m : MachineRef) (cap : NetCap) : (Effect.machine n o).offer m cap = none := by
  cases o with
  | updateNetSupplierInfo c info => cases ho
  | _ => rfl

/-- Requests to other components that concern neither the link nor the suppliers and switch off no
internal data. -/
def Effect.isPlain : Effect → Bool
  | .dcPhysicalLinkActiveUpdate _ | .machine _ (.updateNetSupplierInfo _ _) => false
  | .changeConnectionForDsds _ enable => enable
  | _ => true

namespace Slot

variable {env : Env} {s s' s'' : Slot} {t : ApnType}

/-- While the change of the MCC keeps the gate shut, the event that opens it again is pending. -/
def GateReopens (s : Slot) : Prop :=
  s.isMccChanged = true → .mccChangeActivateDelay ∈ s.queue.pending

/-- The notices sent so far, the last one first, before which the link counted as down. -/
def linkNotices (s : Slot) : List Bool := s.effects.filterMap Effect.linkNotice ++ [false]

/-- Every notice has told a change, and the last one tells the state of the link. -/
def LinkTold (s : Slot) : Prop :=
  s.linkNotices.IsChain (· ≠ ·) ∧ s.linkNotices.head? = some s.physicalConnectionActiveState

def machineData (s : Slot) : List MachineData := s.stateMachines.map (·.data)

/-- No machine has anything to send. -/
def Quiet (s : Slot) : Prop := ∀ d ∈ s.machineData, d.outbox = []

/-- A machine holds its supplier for available. -/
def available (s : Slot) (m : MachineRef) : Bool :=
  s.machineData[m]?.any fun d => d.link.netSupplierInfo.isAvailable

/-- The capability for which a machine supplies a network. -/
def sells (s : Slot) (m : MachineRef) : Option NetCap :=
  s.machineData[m]?.map (·.link.capability)

/-- Nothing is told of the suppliers, and none becomes available. -/
structure Mute (s s' : Slot) : Prop where
  quiet : s'.Quiet
  offers : ∀ m cap, s'.latest (Effect.offer m cap) = s.latest (Effect.offer m cap)
  available : ∀ m, s'.available m = true → s.available m = true

/-- One machine tells whether its supplier is available, the others nothing. -/
structure Tells (m : MachineRef) (on : Bool) (s s' : Slot) : Prop where
  quiet : s'.Quiet
  offers : ∀ n cap, s'.latest (Effect.offer n cap) =
    if n = m ∧ s.sells m = some cap then some on else s.latest (Effect.offer n cap)
  available : ∀ n, s'.available n = true → if n = m then on = true else s.available n = true

/-- What a function of the handler leaves in order. It orders internal data off on other slots only. -/
structure Orderly (s s' : Slot) : Prop where
  slotId : s'.slotId = s.slotId
  requests : s'.queue.restrict HandlerEvent.isRequest = s.queue.restrict HandlerEvent.isRequest
  reopens : s.GateReopens → s'.GateReopens
  waits : ∀ n, s.queue.Waits .mccChangeActivateDelay n → s'.queue.Waits .mccChangeActivateDelay n
  linkTold : s.LinkTold → s'.LinkTold
  effects : ∃ es, s'.effects = es ++ s.effects ∧
    ∀ e ∈ es, ∀ i, e.orderedOff = some i → i ≠ s.slotId

/-- The function does not shut the gate, and the switch of internal data keeps its value. -/
structure Tidy (s s' : Slot) : Prop extends Orderly s s' where
  gate : s.isMccChanged = false → s'.isMccChanged = false
  internalDataOn : s'.dataSwitchSettings.internalDataOn = s.dataSwitchSettings.internalDataOn

/-- The same for a function that publishes nothing. -/
structure Discreet (s s' : Slot) : Prop extends Tidy s s' where
  mute : s.Quiet → Mute s s'

/-- The same for a function that has one machine report. -/
structure Reports (m : MachineRef) (on : Bool) (s s' : Slot) : Prop extends Tidy s s' where
  tells : s.Quiet → Tells m on s s'

/-- Nothing is asked of other components. -/
theorem Orderly.silent (hslot : s'.slotId = s.slotId)
    (hrequests : s'.queue.restrict HandlerEvent.isRequest = s.queue.restrict HandlerEvent.isRequest)
    (hreopens : s.GateReopens → s'.GateReopens)
    (hwaits : ∀ n, s.queue.Waits .mccChangeActivateDelay n → s'.queue.Waits .mccChangeActivateDelay n)
    (hlink : s.LinkTold → s'.LinkTold) (heffects : s'.effects = s.effects) : Orderly s s' :=
  ⟨hslot, hrequests, hreopens, hwaits, hlink, [], heffects, fun _ he => nomatch he⟩

theorem Orderly.refl (s : Slot) : Orderly s s :=
  .silent rfl rfl id (fun _ h => h) id rfl

theorem Orderly.trans (h : Orderly s s') (h' : Orderly s' s'') : Orderly s s'' := by
  obtain ⟨es, hes, hothers⟩ := h.effects
  obtain ⟨es', hes', hothers'⟩ := h'.effects
  refine ⟨h'.slotId.trans h.slotId, h'.requests.trans h.requests,
    fun hg => h'.reopens (h.reopens hg), fun n hn => h'.waits n (h.waits n hn),
    fun hl => h'.linkTold (h.linkTold hl), es' ++ es, ?_, ?_⟩
  · rw [hes', hes, List.append_assoc]
  · intro e he i hi
    rcases List.mem_append.mp he with he | he
    · rw [← h.slotId]
      exact hothers' e he i hi
    · exact hothers e he i hi

theorem Tidy.refl (s : Slot) : Tidy s s := ⟨.refl s, id, rfl⟩

theorem Tidy.trans (h : Tidy s s') (h' : Tidy s' s'') : Tidy s s'' :=
  ⟨h.toOrderly.trans h'.toOrderly, fun hopen => h'.gate (h.gate hopen),
    h'.internalDataOn.trans h.internalDataOn⟩

theorem Tidy.foldl {α : Type} {f : Slot → α → Slot} (hf : ∀ s a, Tidy s (f s a)) (l : List α)
    (s : Slot) : Tidy s (l.foldl f s) := by
  apply List.foldlRecOn l f (motive := Tidy s)
  · exact .refl s
  · exact fun s' h a _ => h.trans (hf s' a)

theorem Mute.trans (h : Mute s s') (h' : Mute s' s'') : Mute s s'' :=
  ⟨h'.quiet, fun m cap => (h'.offers m cap).trans (h.offers m cap),
    fun m hm => h.available m (h'.available m hm)⟩

theorem Discreet.refl (s : Slot) : Discreet s s :=
  ⟨.refl s, fun hq => ⟨hq, fun _ _ => rfl, fun _ => id⟩⟩

theorem Discreet.trans (h : Discreet s s') (h' : Discreet s' s'') : Discreet s s'' :=
  ⟨h.toTidy.trans h'.toTidy, fun hq => (h.mute hq).trans (h'.mute (h.mute hq).quiet)⟩

theorem Discreet.foldl {α : Type} {f : Slot → α → Slot} (hf : ∀ s a, Discreet s (f s a)) (l : List α)
    (s : Slot) : Discreet s (l.foldl f s) := by
  apply List.foldlRecOn l f (motive := Discreet s)
  · exact .refl s
  · exact fun s' h a _ => h.trans (hf s' a)

theorem Tells.trans {m : MachineRef} {on : Bool} (h : Tells m on s s') (h' : Mute s' s'') :
    Tells m on s s'' :=
  ⟨h'.quiet, fun n cap => (h'.offers n cap).trans (h.offers n cap),
    fun n hn => h.available n (h'.available n hn)⟩

theorem Reports.trans {m : MachineRef} {on : Bool} (h : Reports m on s s') (h' : Discreet s' s'') :
    Reports m on s s'' :=
  ⟨h.toTidy.trans h'.toTidy, fun hq => (h.tells hq).trans (h'.mute (h.tells hq).quiet)⟩

/-- The machines are left alone before the report. -/
theorem Reports.after {m : MachineRef} {on : Bool} (h : Reports m on s' s'') (h' : Discreet s s')
    (hdata : s'.machineData = s.machineData) : Reports m on s s'' := by
  refine ⟨h'.toTidy.trans h.toTidy, fun hq => ?_⟩
  have hmute : Mute s s' := h'.mute hq
  have htells : Tells m on s' s'' := h.tells hmute.quiet
  have hsells : s'.sells m = s.sells m := by
    unfold sells
    rw [hdata]
  refine ⟨htells.quiet, fun n cap => ?_, fun n hn => ?_⟩
  · rw [htells.offers n cap, hsells, hmute.offers n cap]
  · have hon := htells.available n hn
    split_ifs at hon ⊢
    · exact hon
    · exact hmute.available n hon

/-- Internal data is not switched off. -/
structure Eases (s s' : Slot) : Prop extends Orderly s s' where
  off : s'.dataSwitchSettings.internalDataOn = false → s.dataSwitchSettings.internalDataOn = false

theorem Tidy.eases (h : Tidy s s') : Eases s s' :=
  ⟨h.toOrderly, fun hoff => h.internalDataOn ▸ hoff⟩

/-- The same for a function that publishes nothing. -/
structure Mild (s s' : Slot) : Prop extends Eases s s' where
  mute : s.Quiet → Mute s s'

theorem Discreet.mild (h : Discreet s s') : Mild s s' := ⟨h.eases, h.mute⟩

theorem Mild.trans (h : Mild s s') (h' : Mild s' s'') : Mild s s'' :=
  ⟨⟨h.toOrderly.trans h'.toOrderly, fun hoff => h.off (h'.off hoff)⟩,
    fun hq => (h.mute hq).trans (h'.mute (h.mute hq).quiet)⟩

theorem Mild.foldl {α : Type} {f : Slot → α → Slot} (hf : ∀ s a, Mild s (f s a)) (l : List α)
    (s : Slot) : Mild s (l.foldl f s) := by
  apply List.foldlRecOn l f (motive := Mild s)
  · exact (Discreet.refl s).mild
  · exact fun s' h a _ => h.trans (hf s' a)

/-! Single writes -/

theorem isPlain_spec {e : Effect} (he : e.isPlain = true) :
    e.linkNotice = none ∧ e.orderedOff = none ∧ ∀ m cap, e.offer m cap = none := by
  cases e with
  | changeConnectionForDsds i enable =>
    obtain rfl : enable = true := he
    exact ⟨rfl, rfl, fun _ _ => rfl⟩
  | machine m o =>
    cases o with
    | updateNetSupplierInfo cap info => cases he
    | _ => exact ⟨rfl, rfl, fun _ _ => rfl⟩
  | dcPhysicalLinkActiveUpdate b => cases he
  | _ => exact ⟨rfl, rfl, fun _ _ => rfl⟩

/-- Only the machines and the requests to other components are written. -/
theorem mute_of_effects {es : List Effect} (hes : ∀ e ∈ es, ∀ m cap, e.offer m cap = none)
    (heffects : s'.effects = es ++ s.effects) (hdata : s'.machineData = s.machineData)
    (hq : s.Quiet) : Mute s s' := by
  refine ⟨?_, ?_, ?_⟩
  · unfold Quiet
    rw [hdata]
    exact hq
  · intro m cap
    unfold latest
    rw [heffects, List.findSome?_append, List.findSome?_eq_none_iff.mpr fun e he => hes e he m cap,
      Option.none_or]
  · intro m
    unfold available
    rw [hdata]
    exact id

/-- The members on which the order depends. -/
def worn (s : Slot) :=
  (s.slotId, s.queue, s.isMccChanged, s.physicalConnectionActiveState, s.effects,
    s.dataSwitchSettings.internalDataOn)

theorem Tidy.of_worn (h : s'.worn = s.worn) : Tidy s s' := by
  simp only [worn, Prod.mk.injEq] at h
  obtain ⟨hslot, hqueue, hmcc, hlink, heffects, hinternal⟩ := h
  refine ⟨.silent hslot ?_ ?_ ?_ ?_ heffects, hmcc.trans, hinternal⟩
  · rw [hqueue]
  · unfold GateReopens
    rw [hmcc, hqueue]
    exact id
  · rw [hqueue]
    exact fun _ h => h
  · unfold LinkTold linkNotices
    rw [hlink, heffects]
    exact id

theorem Discreet.of_worn (h : s'.worn = s.worn) (hdata : s'.machineData = s.machineData) :
    Discreet s s' := by
  have heffects : s'.effects = [] ++ s.effects := congrArg (·.2.2.2.2.1) h
  exact ⟨.of_worn h, mute_of_effects (by simp) heffects hdata⟩

/-- Requests to other components that are no notices of the link. -/
theorem tidy_effects {es : List Effect} (hes : ∀ e ∈ es, e.linkNotice = none)
    (hothers : ∀ e ∈ es, ∀ i, e.orderedOff = some i → i ≠ s.slotId) :
    Tidy s { s with effects := es ++ s.effects } := by
  refine ⟨⟨rfl, rfl, id, fun _ h => h, ?_, es, rfl, hothers⟩, id, rfl⟩
  have hnone : es.filterMap Effect.linkNotice = [] := List.filterMap_eq_nil_iff.mpr hes
  unfold LinkTold linkNotices
  dsimp only
  rw [List.filterMap_append, hnone, List.nil_append]
  exact id

theorem tidy_machineEffect (m : MachineRef) (o : MachineOutput) (s : Slot) :
    Tidy s (s.effect (.machine m o)) :=
  @tidy_effects s [_] (by simp [Effect.linkNotice]) (by simp [Effect.orderedOff])

theorem discreet_effect {e : Effect} (he : e.isPlain = true) (s : Slot) : Discreet s (s.effect e) := by
  obtain ⟨hlink, hoff, hoffer⟩ := isPlain_spec he
  have htidy : Tidy s (s.effect e) := @tidy_effects s [e] (by simpa using hlink) (by simp [hoff])
  have hall : ∀ e' ∈ [e], ∀ m cap, e'.offer m cap = none := by simpa using hoffer
  exact ⟨htidy, mute_of_effects hall rfl rfl⟩

/-- A notice that tells a change of the link. -/
theorem discreet_linkNotice {b : Bool} (hb : s.physicalConnectionActiveState ≠ b) :
    Discreet s ({ s with physicalConnectionActiveState := b }.effect
      (.dcPhysicalLinkActiveUpdate b)) := by
  have hnotices : ({ s with physicalConnectionActiveState := b }.effect
      (.dcPhysicalLinkActiveUpdate b)).linkNotices = b :: s.linkNotices := rfl
  have hothers : ∀ e ∈ [Effect.dcPhysicalLinkActiveUpdate b], ∀ i, e.orderedOff = some i →
      i ≠ s.slotId := by
    intro e he i hi
    obtain rfl := List.mem_singleton.mp he
    cases hi
  have hoffer : ∀ e ∈ [Effect.dcPhysicalLinkActiveUpdate b], ∀ m cap, e.offer m cap = none := by
    intro e he m cap
    obtain rfl := List.mem_singleton.mp he
    rfl
  refine ⟨⟨⟨rfl, rfl, id, fun _ h => h, ?_, [.dcPhysicalLinkActiveUpdate b], rfl, hothers⟩, id, rfl⟩,
    mute_of_effects hoffer rfl rfl⟩
  rintro ⟨hchain, hhead⟩
  constructor
  · rw [hnotices]
    obtain ⟨rest, hrest⟩ : ∃ rest, s.linkNotices = s.physicalConnectionActiveState :: rest :=
      ⟨_, List.eq_cons_of_mem_head? hhead⟩
    rw [hrest] at hchain ⊢
    exact .cons_cons hb.symm hchain
  · rw [hnotices]
    rfl

/-- Only the queue of the handler is written. -/
theorem discreet_queue {q : EventQueue HandlerEvent}
    (hrequests : q.restrict HandlerEvent.isRequest = s.queue.restrict HandlerEvent.isRequest)
    (hkeeps : .mccChangeActivateDelay ∈ s.queue.pending → .mccChangeActivateDelay ∈ q.pending)
    (hwaits : ∀ n, s.queue.Waits .mccChangeActivateDelay n → q.Waits .mccChangeActivateDelay n) :
    Discreet s { s with queue := q } :=
  ⟨⟨.silent rfl hrequests (fun hg hmcc => hkeeps (hg hmcc)) hwaits id rfl, id, rfl⟩,
    mute_of_effects (List.forall_mem_nil _) rfl rfl⟩

theorem discreet_sendEvent {e : HandlerEvent} (he : e.isRequest = false) (s : Slot) :
    Discreet s (s.sendEvent e) :=
  discreet_queue (EventQueue.restrict_sendEvent_of_neg he)
    (fun h => EventQueue.mem_pending_sendEvent.mpr (.inl h)) fun _ h => h.sendEvent e

theorem discreet_sendEventAfter {e : HandlerEvent} (he : e.isRequest = false) (delay : Int)
    (s : Slot) : Discreet s (s.sendEventAfter e delay) :=
  discreet_queue (EventQueue.restrict_sendEventAfter_of_neg he delay)
    (fun h => EventQueue.mem_pending_sendEventAfter.mpr (.inl h)) fun _ h => h.sendEventAfter e delay

theorem discreet_removeEvent {p : HandlerEvent → Bool}
    (hrequest : ∀ request isRequest, p (.requestNetwork request isRequest) = false)
    (hp : p .mccChangeActivateDelay = false) (s : Slot) : Discreet s (s.removeEvent p) := by
  refine discreet_queue (EventQueue.restrict_removeEvent ?_)
    (fun h => EventQueue.mem_pending_removeEvent.mpr ⟨h, hp⟩) fun _ h => h.removeEvent hp
  intro e he
  cases e with
  | requestNetwork request isRequest => exact hrequest request isRequest
  | _ => cases he

theorem discreet_modifyHolder (t : ApnType) (f : ApnHolder → ApnHolder) (s : Slot) :
    Discreet s (s.modifyHolder t f) := .of_worn rfl rfl

theorem discreet_setApnState (t : ApnType) (st : ApnProfileState) (s : Slot) :
    Discreet s (s.setApnState t st) := .of_worn rfl rfl

theorem machineData_modifyMachine {f : CellularDataStateMachine → CellularDataStateMachine}
    (hf : ∀ x, (f x).data = x.data) (m : MachineRef) (s : Slot) :
    (s.modifyMachine m f).machineData = s.machineData := by
  unfold machineData modifyMachine
  dsimp only
  rw [map_modify (h := id) hf, List.modify_id]

theorem machineData_postMachine (m : MachineRef) (e : MachineEvent) (s : Slot) :
    (s.postMachine m e).machineData = s.machineData :=
  machineData_modifyMachine (f := fun x => x.post e) (fun _ => rfl) m s

theorem discreet_postMachine (m : MachineRef) (e : MachineEvent) (s : Slot) :
    Discreet s (s.postMachine m e) := .of_worn rfl (machineData_postMachine m e s)

theorem tidy_callMachine (m : MachineRef)
    (f : CellularDataStateMachine → CellularDataStateMachine) (s : Slot) :
    Tidy s (s.callMachine m f) := by
  unfold callMachine
  split
  · have hsent : ∀ e ∈ ((f ‹_›).data.outbox.map (Effect.machine m)).reverse,
        e.linkNotice = none ∧ e.orderedOff = none := by
      intro e he
      obtain ⟨o, -, rfl⟩ := List.mem_map.mp (List.mem_reverse.mp he)
      exact ⟨rfl, rfl⟩
    have hmachines : Tidy s { s with stateMachines := s.stateMachines.set m (f ‹_›).clearOutbox } :=
      .of_worn rfl
    refine hmachines.trans (tidy_effects (fun e he => (hsent e he).1) ?_)
    intro e he i hi
    rw [(hsent e he).2] at hi
    cases hi
  · exact .refl s

theorem machineData_getElem? (s : Slot) (m : MachineRef) :
    s.machineData[m]? = (s.machine? m).map (·.data) := List.getElem?_map

theorem callMachine_of_none {f : CellularDataStateMachine → CellularDataStateMachine}
    {m : MachineRef} (hm : s.machine? m = none) : s.callMachine m f = s := by
  simp only [callMachine, hm]

theorem callMachine_of_some {f : CellularDataStateMachine → CellularDataStateMachine}
    {m : MachineRef} {x : CellularDataStateMachine} (hm : s.machine? m = some x) :
    s.callMachine m f = { s with
      stateMachines := s.stateMachines.set m (f x).clearOutbox
      effects := ((f x).data.outbox.map (Effect.machine m)).reverse ++ s.effects } := by
  simp only [callMachine, hm]

/-- What a machine has been left with does not speak for the others. -/
theorem quiet_set {m : MachineRef} {y : CellularDataStateMachine} (hq : s.Quiet) :
    Quiet { s with stateMachines := s.stateMachines.set m y.clearOutbox } := by
  intro d hd
  have hset : d ∈ s.machineData.set m y.clearOutbox.data := List.map_set ▸ hd
  rcases List.mem_or_eq_of_mem_set hset with hd | rfl
  · exact hq d hd
  · rfl

theorem available_set {m : MachineRef} {x y : CellularDataStateMachine}
    (hm : s.machine? m = some x) (hs' : s'.stateMachines = s.stateMachines.set m y) (n : MachineRef) :
    s'.available n = if n = m then y.isAvailable else s.available n := by
  have hlt : m < s.stateMachines.length := (List.getElem?_eq_some_iff.mp hm).1
  unfold available machineData
  rw [hs', List.map_set, List.getElem?_set, List.length_map]
  by_cases hmn : n = m
  · subst hmn
    simp [hlt, CellularDataStateMachine.isAvailable]
  · simp [hmn, Ne.symm hmn]

theorem available_of_some {m : MachineRef} {x : CellularDataStateMachine} (hm : s.machine? m = some x) :
    s.available m = x.isAvailable := by
  unfold available
  rw [machineData_getElem?, hm]
  rfl

theorem sells_of_some {m : MachineRef} {x : CellularDataStateMachine} (hm : s.machine? m = some x) :
    s.sells m = some x.data.link.capability := by
  unfold sells
  rw [machineData_getElem?, hm]
  rfl

/-- A method of a machine that says nothing of its supplier. -/
theorem discreet_callMachine {f : CellularDataStateMachine → CellularDataStateMachine}
    (hf : ∀ x, x.data.outbox = [] → (∀ o ∈ (f x).data.outbox, o.isSupplierInfo = false) ∧
      (f x).data.link.netSupplierInfo = x.data.link.netSupplierInfo)
    (m : MachineRef) (s : Slot) : Discreet s (s.callMachine m f) := by
  refine ⟨tidy_callMachine m f s, fun hq => ?_⟩
  cases hm : s.machine? m with
  | none =>
    rw [callMachine_of_none hm]
    exact (Discreet.refl s).mute hq
  | some x =>
    have hdata : s.machineData[m]? = some x.data := by
      rw [machineData_getElem?, hm, Option.map_some]
    obtain ⟨houtbox, hinfo⟩ := hf x (hq x.data (List.mem_of_getElem? hdata))
    rw [callMachine_of_some hm]
    refine ⟨quiet_set hq, fun n cap => ?_, fun n hn => ?_⟩
    · unfold latest
      dsimp only
      rw [List.findSome?_append, List.findSome?_eq_none_iff.mpr, Option.none_or]
      intro e he
      obtain ⟨o, ho, rfl⟩ := List.mem_map.mp (List.mem_reverse.mp he)
      exact offer_of_not_supplierInfo (houtbox o ho) m n cap
    · rw [available_set hm rfl] at hn
      split_ifs at hn with hmn
      · rw [hmn, available_of_some hm]
        unfold CellularDataStateMachine.isAvailable
        rw [← hinfo]
        exact hn
      · exact hn

/-- A method that publishes the supplier of its machine. -/
theorem reports_callMachine {f : CellularDataStateMachine → CellularDataStateMachine} {on : Bool}
    (hf : ∀ x, CellularDataStateMachine.Announces on x (f x)) (m : MachineRef) (s : Slot) :
    Reports m on s (s.callMachine m f) := by
  refine ⟨tidy_callMachine m f s, fun hq => ?_⟩
  cases hm : s.machine? m with
  | none =>
    have hsells : s.sells m = none := by
      unfold sells
      rw [machineData_getElem?, hm]
      rfl
    have hnone : s.available m = false := by
      unfold available
      rw [machineData_getElem?, hm]
      rfl
    rw [callMachine_of_none hm]
    refine ⟨hq, fun n cap => ?_, fun n hn => ?_⟩
    · simp [hsells]
    · split_ifs with hnm
      · rw [hnm, hnone] at hn
        cases hn
      · exact hn
  | some x =>
    have hdata : s.machineData[m]? = some x.data := by
      rw [machineData_getElem?, hm, Option.map_some]
    have hempty : x.data.outbox = [] := hq x.data (List.mem_of_getElem? hdata)
    obtain ⟨-, havailable, info, os, rfl, houtbox, hos⟩ := hf x
    rw [callMachine_of_some hm]
    refine ⟨quiet_set hq, fun n cap => ?_, fun n hn => ?_⟩
    · have hrest : ((os.map (Effect.machine m)).reverse.findSome? (Effect.offer n cap)) = none := by
        rw [List.findSome?_eq_none_iff]
        intro e he
        obtain ⟨o, ho, rfl⟩ := List.mem_map.mp (List.mem_reverse.mp he)
        exact offer_of_not_supplierInfo (hos o ho) m n cap
      unfold latest
      dsimp only
      rw [houtbox, hempty, sells_of_some hm, List.nil_append, List.map_cons, List.reverse_cons,
        List.findSome?_append, List.findSome?_append, hrest, Option.none_or]
      simp only [List.findSome?_cons, List.findSome?_nil, Effect.offer, Option.some.injEq]
      by_cases heq : n = m ∧ x.data.link.capability = cap
      · simp [heq]
      · have hne : ¬ (m = n ∧ x.data.link.capability = cap) := fun h => heq ⟨h.1.symm, h.2⟩
        simp [heq, hne]
    · rw [available_set hm rfl] at hn
      split_ifs at hn ⊢
      · exact havailable.symm.trans hn
      · exact hn

theorem discreet_updateCellularDataConnectState (t : ApnType) (s : Slot) :
    Discreet s (s.updateCellularDataConnectState t) := by
  unfold updateCellularDataConnectState
  split_ifs
  · exact discreet_effect rfl s
  · exact .refl s

/-! Switches -/

theorem discreet_queryUserDataStatus (s : Slot) : Discreet s (s.queryUserDataStatus env).1 := by
  unfold queryUserDataStatus
  split_ifs
  · exact .of_worn rfl rfl
  · split <;> exact .of_worn rfl rfl

theorem discreet_queryUserDataRoamingStatus (s : Slot) :
    Discreet s (s.queryUserDataRoamingStatus env).1 := by
  unfold queryUserDataRoamingStatus
  split_ifs
  · exact .of_worn rfl rfl
  · exact .refl s
  · split <;> exact .of_worn rfl rfl

theorem discreet_loadSwitchValue (s : Slot) : Discreet s (s.loadSwitchValue env) :=
  (discreet_queryUserDataStatus s).trans (discreet_queryUserDataRoamingStatus _)

theorem discreet_isCellularDataEnabled (s : Slot) : Discreet s (s.isCellularDataEnabled env).1 := by
  unfold isCellularDataEnabled
  split_ifs
  · exact discreet_queryUserDataStatus s
  · exact .refl s

theorem discreet_isCellularDataRoamingEnabled (s : Slot) :
    Discreet s (s.isCellularDataRoamingEnabled env).1 := by
  unfold isCellularDataRoamingEnabled
  split_ifs
  · exact .refl s
  · exact discreet_queryUserDataRoamingStatus s

theorem discreet_setUserDataOn (on : Bool) (s : Slot) : Discreet s (s.setUserDataOn env on).1 := by
  have hput : Discreet s (s.putValue .dataEnable on) := discreet_effect rfl s
  unfold setUserDataOn
  split_ifs
  · exact .refl s
  · apply hput.trans
    dsimp only
    split <;> exact .of_worn rfl rfl

theorem discreet_setIntelliSwitchOn (on : Bool) (s : Slot) :
    Discreet s (s.setIntelliSwitchOn env on).1 := by
  have hput : Discreet s (s.putValue .intelligenceSwitch on) := discreet_effect rfl s
  unfold setIntelliSwitchOn
  apply hput.trans
  dsimp only
  split <;> exact .of_worn rfl rfl

theorem discreet_setUserDataRoamingOn (on : Bool) (s : Slot) :
    Discreet s (s.setUserDataRoamingOn env on).1 := by
  have hput : Discreet s (s.putValue (.dataRoaming env.simId) on) := discreet_effect rfl s
  unfold setUserDataRoamingOn
  split_ifs
  · exact .refl s
  · exact .refl s
  · apply hput.trans
    dsimp only
    split <;> exact .of_worn rfl rfl

theorem discreet_setCellularDataEnable (on : Bool) (s : Slot) :
    Discreet s (s.setCellularDataEnable env on).1 := by
  have hquery : Discreet s (s.queryUserDataStatus env).1 := discreet_queryUserDataStatus s
  unfold setCellularDataEnable
  split
  · rename_i heq
    rwa [heq] at hquery
  · rename_i heq
    rw [heq] at hquery
    split_ifs
    · exact hquery
    · exact hquery.trans (discreet_setUserDataOn _ _)

theorem discreet_setIntelligenceSwitchEnable (on : Bool) (s : Slot) :
    Discreet s (s.setIntelligenceSwitchEnable env on).1 := by
  have hquery : Discreet s (s.queryIntelligenceSwitchStatus env).1 := .of_worn rfl rfl
  simp only [setIntelligenceSwitchEnable]
  split_ifs
  · exact hquery
  · exact hquery.trans (discreet_setIntelliSwitchOn _ _)

theorem discreet_setCellularDataRoamingEnabled (on : Bool) (s : Slot) :
    Discreet s (s.setCellularDataRoamingEnabled env on).1 := by
  simp only [setCellularDataRoamingEnabled]
  split_ifs
  · exact discreet_queryUserDataRoamingStatus s
  · exact (discreet_queryUserDataRoamingStatus s).trans (discreet_setUserDataRoamingOn _ _)

/-! Data permission and the checks of an attempt -/

theorem discreet_setDataPermitted (slotId : Int) (b : Bool) (s : Slot) :
    Discreet s (s.setDataPermitted env slotId b) := by
  unfold setDataPermitted
  split_ifs
  · exact .refl s
  · exact .refl s
  · exact discreet_effect rfl s

theorem discreet_setDataPermittedForMms (b : Bool) (s : Slot) :
    Discreet s (s.setDataPermittedForMms env b) := by
  unfold setDataPermittedForMms
  split_ifs
  · exact .refl s
  · exact .refl s
  · exact .refl s
  · rename_i hdsds
    have hdefault : Discreet s (s.setDataPermitted env env.defaultCellularDataSlotId !b) :=
      discreet_setDataPermitted _ _ s
    have hown : Discreet s ((s.setDataPermitted env env.defaultCellularDataSlotId !b).setDataPermitted
        env s.slotId b) := hdefault.trans (discreet_setDataPermitted _ _ _)
    have hslot : (s.setDataPermitted env env.defaultCellularDataSlotId !b).slotId = s.slotId := by
      unfold setDataPermitted
      split_ifs <;> rfl
    dsimp only
    rw [hslot]
    refine hown.trans ?_
    generalize (s.setDataPermitted env env.defaultCellularDataSlotId !b).setDataPermitted env
      s.slotId b = s₁ at hown ⊢
    have hoffer : ∀ e ∈ [Effect.changeConnectionForDsds env.defaultCellularDataSlotId !b], ∀ m cap,
        e.offer m cap = none := by simp [Effect.offer]
    refine ⟨@tidy_effects s₁ [_] (by simp [Effect.linkNotice]) ?_, mute_of_effects hoffer rfl rfl⟩
    intro e he i hi
    obtain rfl := List.mem_singleton.mp he
    rw [hown.slotId]
    have hother : env.defaultCellularDataSlotId ≠ s.slotId := by
      intro heq
      apply hdsds
      simp [checkDataPermittedByDsds, heq]
    cases b with
    | false => cases hi
    | true =>
      obtain rfl := Option.some.inj hi
      exact hother

theorem discreet_checkAttachAndSimState (t : ApnType) (s : Slot) :
    Discreet s (s.checkAttachAndSimState env t).1 := by
  unfold checkAttachAndSimState
  split
  · exact .refl s
  · split
    · refine Discreet.trans ?_ (discreet_setDataPermittedForMms _ _)
      split_ifs
      · exact .refl s
      · exact discreet_sendEventAfter rfl _ s
    · exact .refl s

theorem discreet_getSinglePdpEnabledFromOpCfg (s : Slot) :
    Discreet s (s.getSinglePdpEnabledFromOpCfg env) := by
  unfold getSinglePdpEnabledFromOpCfg
  split <;> exact .of_worn rfl rfl

theorem discreet_isSingleConnectionEnabled (radioTech : RadioTech) (s : Slot) :
    Discreet s (s.isSingleConnectionEnabled env radioTech).1 := by
  unfold isSingleConnectionEnabled
  split_ifs
  · exact .of_worn rfl rfl
  · exact discreet_getSinglePdpEnabledFromOpCfg s

/-! Clearing -/

theorem discreet_disconnect (t : ApnType) (m : MachineRef) (params : DataDisconnectParams) (s : Slot) :
    Discreet s ((s.setApnState t .disconnecting).postMachine m (.disconnect params)) :=
  (discreet_setApnState t _ s).trans (discreet_postMachine m _ _)

theorem discreet_clearConnection (t : ApnType) (reason : DisConnectionReason) (s : Slot) :
    Discreet s (s.clearConnection t reason) := by
  unfold clearConnection
  split
  · exact .refl s
  · split
    · exact .refl s
    · exact .refl s
    · exact .refl s
    · exact discreet_disconnect t _ _ s

theorem discreet_clearHolders (reason : DisConnectionReason) (s : Slot) :
    Discreet s (s.clearHolders reason) := by
  refine Discreet.foldl (fun s t => ?_) _ s
  split_ifs
  · exact .refl s
  · exact discreet_clearConnection t reason s

theorem discreet_clearAllConnections (reason : DisConnectionReason) (s : Slot) :
    Discreet s (s.clearAllConnections env reason) := by
  have hdeactivate : Discreet s (s.effect .deactivatePdpAfterHandover) := discreet_effect rfl s
  unfold clearAllConnections
  split_ifs
  · exact hdeactivate
  · have hhandover : Discreet s { s.effect .deactivatePdpAfterHandover with
        isHandoverOccurred := false } := hdeactivate.trans (.of_worn rfl rfl)
    exact hhandover.trans (discreet_clearHolders reason _)
  · exact discreet_clearHolders reason s

theorem discreet_releaseDataConnection (t : ApnType) (s : Slot) :
    Discreet s (s.releaseDataConnection t) := by
  unfold releaseDataConnection
  split
  · exact .refl s
  · exact (discreet_modifyHolder t _ s).trans (discreet_postMachine _ _ _)

/-- The clearing that depends on the overall state. -/
theorem discreet_clearIfConnecting (reason : DisConnectionReason) (s : Slot) :
    Discreet s (match s.apnManager.getOverallApnState with
      | .connecting | .connected => s.clearAllConnections env reason
      | _ => s) := by
  split
  · exact discreet_clearAllConnections _ s
  · exact discreet_clearAllConnections _ s
  · exact .refl s

/-! Attempts -/

theorem discreet_checkApnState (t : ApnType) (s : Slot) :
    Discreet s (s.checkApnState env t).1 := by
  unfold checkApnState
  split
  · exact discreet_sendEventAfter rfl _ s
  · split
    · exact .refl s
    · dsimp only
      have hreset : Discreet s
          (if (s.holder t).apnState = .failed then s.setApnState t .idle else s) := by
        split_ifs <;> exact .of_worn rfl rfl
      generalize (if (s.holder t).apnState = .failed then s.setApnState t .idle else s) = s₁
        at hreset ⊢
      split_ifs
      · exact hreset
      · split
        · exact hreset
        · exact hreset.trans (.of_worn rfl rfl)

theorem discreet_checkMultiApnState (t : ApnType) (s : Slot) :
    Discreet s (s.checkMultiApnState t) := by
  unfold checkMultiApnState
  split_ifs
  · exact .refl s
  · refine Discreet.foldl (fun s u => ?_) _ s
    split_ifs
    · split
      · exact discreet_releaseDataConnection u s
      · exact discreet_releaseDataConnection u s
      · exact .refl s
    · exact .refl s

theorem discreet_chooseApnItem (t : ApnType) (s : Slot) : Discreet s (s.chooseApnItem env t).1 := by
  unfold chooseApnItem
  split <;> exact .of_worn rfl rfl

theorem discreet_checkForCompatibleDataConnection (t : ApnType) (s : Slot) :
    Discreet s (s.checkForCompatibleDataConnection env t).1 := by
  have hroaming : Discreet s (s.isCellularDataRoamingEnabled env).1 :=
    discreet_isCellularDataRoamingEnabled s
  simp only [checkForCompatibleDataConnection]
  split_ifs <;> exact hroaming.trans (.of_worn rfl rfl)

theorem discreet_findOrCreateCellularDataConnect (s : Slot) :
    Discreet s s.findOrCreateCellularDataConnect.1 := by
  unfold findOrCreateCellularDataConnect
  split
  · exact .refl s
  · refine ⟨.of_worn rfl, fun hq => ⟨fun d hd => ?_, fun _ _ => rfl, fun m hm => ?_⟩⟩
    · simp only [machineData, List.map_append, List.mem_append, List.map_singleton,
        List.mem_singleton] at hd
      rcases hd with hd | rfl
      · exact hq d hd
      · rfl
    · unfold available machineData at hm ⊢
      rw [List.map_append, List.getElem?_append] at hm
      split_ifs at hm
      · exact hm
      · rw [List.map_singleton, List.getElem?_singleton] at hm
        split_ifs at hm <;> cases hm

theorem discreet_startConnection (t : ApnType) (m : MachineRef) (apnItem : ItemRef)
    (radioTech : RadioTech) (s : Slot) :
    Discreet s (s.startConnection env t m apnItem radioTech) := by
  unfold startConnection
  extract_lets s₁ s₂ s₃ s₄ s₅ s₆
  have h₁ : Discreet s s₁ := by
    refine discreet_callMachine (fun x hx => ?_) m s
    refine ⟨fun o (ho : o ∈ x.data.outbox) => ?_, rfl⟩
    rw [hx] at ho
    cases ho
  have h₄ : Discreet s₁ s₄ := .of_worn rfl rfl
  have h₅ : Discreet s₄ s₅ := discreet_updateCellularDataConnectState t s₄
  have h₆ : Discreet s₅ s₆ := (discreet_postMachine m _ s₅).trans (.of_worn rfl rfl)
  have hstart : Discreet s₆ (setApnActivateStart env s₆ t) :=
    .of_worn (apply_setApnActivateStart worn (fun _ _ _ => rfl) t)
      (apply_setApnActivateStart machineData (fun _ _ _ => rfl) t)
  exact (((h₁.trans h₄).trans h₅).trans h₆).trans hstart

theorem discreet_handleCompatibleDataConnection (m : MachineRef) (t : ApnType) (s : Slot) :
    Discreet s (s.handleCompatibleDataConnection m t).1 := by
  simp only [handleCompatibleDataConnection]
  split_ifs
  · refine (discreet_modifyHolder t _ s).trans (discreet_callMachine (fun x hx => ?_) m _)
    unfold CellularDataStateMachine.setIfReuseSupplierId
    split_ifs
    · refine ⟨fun o (ho : o ∈ x.data.outbox) => ?_, rfl⟩
      rw [hx] at ho
      cases ho
    · refine ⟨fun o (ho : o ∈ x.data.outbox ++ [_]) => ?_, rfl⟩
      rw [hx, List.nil_append, List.mem_singleton] at ho
      subst ho
      rfl
  · exact discreet_sendEventAfter rfl _ s

theorem discreet_establishOwnConnection (t : ApnType) (apnItem : ItemRef) (radioTech : RadioTech)
    (s : Slot) : Discreet s (s.establishOwnConnection env t apnItem radioTech).1 := by
  have hsingle : Discreet s (s.isSingleConnectionEnabled env radioTech).1 :=
    discreet_isSingleConnectionEnabled radioTech s
  simp only [establishOwnConnection]
  split_ifs
  · exact hsingle
  · exact hsingle.trans (discreet_clearAllConnections _ _)
  · have hfound := hsingle.trans (discreet_findOrCreateCellularDataConnect _)
    exact hfound.trans (discreet_startConnection t _ _ _ _)

theorem discreet_establishDataConnection (t : ApnType) (radioTech : RadioTech) (s : Slot) :
    Discreet s (s.establishDataConnection env t radioTech).1 := by
  have hchoose : Discreet s (s.chooseApnItem env t).1 := discreet_chooseApnItem t s
  unfold establishDataConnection
  generalize s.chooseApnItem env t = r at hchoose ⊢
  obtain ⟨s₁, item⟩ := r
  cases item with
  | none => exact hchoose
  | some apnItem =>
    dsimp only
    split_ifs
    · exact hchoose.trans (discreet_establishOwnConnection t apnItem radioTech s₁)
    · have hsearch : Discreet s₁ (s₁.checkForCompatibleDataConnection env t).1 :=
        discreet_checkForCompatibleDataConnection t s₁
      generalize s₁.checkForCompatibleDataConnection env t = r at hsearch ⊢
      obtain ⟨s₂, dc⟩ := r
      have hboth := hchoose.trans hsearch
      cases dc with
      | some m => exact hboth.trans (discreet_handleCompatibleDataConnection m t s₂)
      | none => exact hboth.trans (discreet_establishOwnConnection t apnItem radioTech s₂)

theorem discreet_attemptEstablishDataConnection (t : ApnType) (s : Slot) :
    Discreet s (s.attemptEstablishDataConnection env t) := by
  have hattach : Discreet s (s.checkAttachAndSimState env t).1 := discreet_checkAttachAndSimState t s
  unfold attemptEstablishDataConnection
  split_ifs
  · exact .refl s
  · exact .refl s
  generalize s.checkAttachAndSimState env t = r at hattach ⊢
  obtain ⟨s₁, ok⟩ := r
  cases ok with
  | false => exact hattach
  | true =>
    dsimp only
    split_ifs
    · exact hattach
    have hstate : Discreet s (s₁.checkApnState env t).1 :=
      hattach.trans (discreet_checkApnState t s₁)
    generalize s₁.checkApnState env t = r at hstate ⊢
    obtain ⟨s₂, ok⟩ := r
    cases ok with
    | false => exact hstate
    | true =>
      dsimp only
      have hestablish : Discreet s ((s₂.checkMultiApnState t).establishDataConnection env t
          env.psRadioTech).1 :=
        (hstate.trans (discreet_checkMultiApnState t s₂)).trans
          (discreet_establishDataConnection t _ _)
      generalize (s₂.checkMultiApnState t).establishDataConnection env t env.psRadioTech = r
        at hestablish ⊢
      obtain ⟨s₃, ok⟩ := r
      cases ok with
      | false => exact hestablish
      | true => exact hestablish.trans (.of_worn rfl rfl)

theorem discreet_establishIfConnectable (t : ApnType) (s : Slot) :
    Discreet s (s.establishIfConnectable env t) := by
  unfold establishIfConnectable
  split_ifs
  · have hpush : Discreet s (s.updateCellularDataConnectState t) :=
      discreet_updateCellularDataConnectState t s
    refine Discreet.trans ?_ (discreet_attemptEstablishDataConnection t _)
    split
    · exact hpush.trans (discreet_releaseDataConnection t _)
    · exact hpush.trans (discreet_releaseDataConnection t _)
    · exact hpush
  · exact .refl s

theorem discreet_clearAllApnBad (s : Slot) : Discreet s s.clearAllApnBad := .of_worn rfl rfl

theorem discreet_establishAllApnsIfConnectable (s : Slot) :
    Discreet s (s.establishAllApnsIfConnectable env) :=
  (discreet_clearAllApnBad s).trans
    (Discreet.foldl (fun s t => discreet_establishIfConnectable t s) _ _)

end Slot
end CellularData
