import CellularData.Device.System

/-! Every step of the device is, for each slot, a run of that slot's own system. -/
namespace CellularData
open Lib

/-- What a call of another slot orders of this one. -/
def Effect.ordersTo (slotId : Int) : Effect → Option Bool
  | .changeConnectionForDsds i enable => if i = slotId then some enable else none
  | _ => none

namespace Device

variable {caps : CapabilityNumbers} {e : CallEnv} {slotId i : Int} {d d' : Device} {s s' : Slot}
  {L : DeviceLabel}

theorem handler_eq_some_iff : d.handler i = some s ↔
    (0 ≤ i ∧ d.service.isInitSuccess = true) ∧ d.service.cellularDataControllers i = some ⟨some s⟩ := by
  unfold handler CellularDataService.handler CellularDataService.getCellularDataController
  split_ifs with h
  · simp only [Option.bind_none, reduceCtorEq, false_iff, not_and]
    rintro ⟨hi, hinit⟩
    rcases h with h | h
    · omega
    · simp [hinit] at h
  · rw [not_or, not_lt, Bool.not_eq_true', Bool.not_eq_false] at h
    constructor
    · intro hs
      obtain ⟨⟨c⟩, hc, rfl⟩ := Option.bind_eq_some_iff.mp hs
      exact ⟨h, hc⟩
    · rintro ⟨-, hc⟩
      rw [hc]
      rfl

theorem getCellularDataController_of_handler (h : d.handler i = some s) :
    d.service.getCellularDataController i = some ⟨some s⟩ := by
  obtain ⟨⟨hi, hinit⟩, hc⟩ := handler_eq_some_iff.mp h
  unfold CellularDataService.getCellularDataController
  rw [if_neg, hc]
  simp [hinit, hi]

theorem handler_of_controller (h : d.service.getCellularDataController i = some ⟨some s⟩) :
    d.handler i = some s := by
  unfold handler CellularDataService.handler
  rw [h]
  rfl

theorem handler_setHandler_of_ne (hi : i ≠ slotId) : (d.setHandler slotId s).handler i = d.handler i := by
  unfold handler CellularDataService.handler CellularDataService.getCellularDataController setHandler
    CellularDataService.setController
  simp only [if_neg hi]

theorem handler_setHandler_self (h : (d.service.getCellularDataController i).isSome = true) :
    (d.setHandler i s).handler i = some s := by
  rw [handler_eq_some_iff]
  unfold CellularDataService.getCellularDataController at h
  split_ifs at h with hcond
  · cases h
  · rw [not_or, not_lt, Bool.not_eq_true', Bool.not_eq_false] at hcond
    refine ⟨hcond, ?_⟩
    simp [setHandler, CellularDataService.setController]

/-! Calls of a handler -/

/-- The calls that the requests of another handler make of the slot. -/
def orderLabels (e : CallEnv) (i : Int) (es : List Effect) : List Label :=
  (es.filterMap (Effect.ordersTo i)).map fun enable =>
    .call (e.slot i) (.changeConnectionForDsds enable)

theorem deliver_handler {giver : Int} {effect : Effect} (h : d.handler i = some s) :
    ∃ s', (d.deliver e giver effect).handler i = some s' ∧
      Slot.system.run (orderLabels e i [effect]) s = some s' := by
  have hother : effect.ordersTo i = none → Slot.system.run (orderLabels e i [effect]) s = some s := by
    intro hnone
    simp [orderLabels, hnone, TransitionSystem.run]
  cases effect with
  | changeConnectionForDsds j enable =>
    by_cases hj : j = i
    · subst hj
      have hc := getCellularDataController_of_handler h
      refine ⟨s.changeConnectionForDsds (e.slot j) enable, ?_, ?_⟩
      · simp only [deliver, changeConnectionForDsds, hc]
        apply handler_setHandler_self
        rw [hc]
        rfl
      · have hlabels : orderLabels e j [.changeConnectionForDsds j enable] =
            [.call (e.slot j) (.changeConnectionForDsds enable)] := by
          simp [orderLabels, Effect.ordersTo]
        rw [hlabels]
        rfl
    · refine ⟨s, ?_, hother (if_neg hj)⟩
      rw [← h]
      simp only [deliver, changeConnectionForDsds]
      split
      · rfl
      · split
        · rfl
        · exact handler_setHandler_of_ne (Ne.symm hj)
  | _ => exact ⟨s, h, hother rfl⟩

theorem deliver_all_handler {giver : Int} (es : List Effect) (h : d.handler i = some s) :
    ∃ s', (es.foldl (deliver e giver) d).handler i = some s' ∧
      Slot.system.run (orderLabels e i es) s = some s' := by
  induction es generalizing d s with
  | nil => exact ⟨s, h, rfl⟩
  | cons effect es ih =>
    obtain ⟨s₁, h₁, hrun₁⟩ := @deliver_handler e i d s giver effect h
    obtain ⟨s₂, h₂, hrun₂⟩ := ih h₁
    refine ⟨s₂, h₂, ?_⟩
    have hsplit : orderLabels e i (effect :: es) = orderLabels e i [effect] ++ orderLabels e i es := by
      simp only [orderLabels, ← List.map_append, ← List.filterMap_append, List.singleton_append]
    rw [hsplit, TransitionSystem.run_append, hrun₁]
    exact hrun₂

/-! What a step is -/

/-- What a step orders of the slot itself. -/
def orders : Label → List Bool
  | .call _ (.changeConnectionForDsds enable) => [enable]
  | _ => []

/-- Labels under which the handler takes no event, and neither a request is posted nor an order
given. -/
def Plain (l : Label) : Prop :=
  Slot.dispatches l = false ∧ Slot.posts l = [] ∧ orders l = []

/-- The requests that a step puts into the queue of a slot. -/
def routedBy (i : Int) (L : DeviceLabel) (d : Device) : List HandlerEvent :=
  match L with
  | .networkCallback isRequest request e =>
    match identSimId request.ident with
    | .simId simId =>
      if request.netCaps ≠ [] ∧ d.netAgent.getSlotId simId = i ∧ (d.handler i).isSome = true ∧
          ¬ (isRequest = true ∧ e.powerSaveMode = true) then
        [.requestNetwork ⟨findBestCapability request.netCaps, request.bearTypes⟩ isRequest]
      else []
    | _ => []
  | _ => []

/-- The slot whose handler takes an event in the step, and what it reads meanwhile. -/
def taking : DeviceLabel → Option (Int × Env)
  | .dispatchHandler slotId env _ _ => some (slotId, env)
  | _ => none

/-- What a step is: no handler takes part in it, a handler is made, or one handler works. -/
inductive Moves (d : Device) (L : DeviceLabel) (d' : Device) : Prop
  | still (hsame : ∀ i, d'.handler i = d.handler i) (hlog : d'.orderLog = d.orderLog)
      (hrouted : ∀ i, routedBy i L d = []) (htaking : taking L = none)
  | create {slotId : Int} {s : Slot} (hnone : d.handler slotId = none) (hs : Slot.system.init s)
      (hslot : s.slotId = slotId)
      (hsame : ∀ i, d'.handler i = if i = slotId then some s else d.handler i)
      (hlog : d'.orderLog = d.orderLog) (hrouted : ∀ i, routedBy i L d = [])
      (htaking : taking L = none)
  | work {e : CallEnv} {j : Int} {l : Label} {s s' : Slot} (a : CellularDataNetAgent)
      (hs : d.handler j = some s) (hstep : Slot.system.step l s = some s')
      (hd : d' = { d with netAgent := a }.settle e j s s')
      (horder : orders l = [])
      (hrouted : ∀ i, routedBy i L d = if i = j then Slot.posts l else [])
      (htaking : Slot.dispatches l = false ∧ taking L = none ∨ ∃ env registerNetSupplier,
        l = .dispatchHandler { env with registerNetSupplier } ∧ taking L = some (j, env))

/-- The same for calls of the service. -/
inductive Serves (e : CallEnv) (d d' : Device) : Prop
  | still (hsame : ∀ i, d'.handler i = d.handler i) (hlog : d'.orderLog = d.orderLog)
  | work {j : Int} {l : Label} {s s' : Slot} (hs : d.handler j = some s)
      (hstep : Slot.system.step l s = some s') (hl : Plain l) (hd : d' = d.settle e j s s')

theorem Serves.refl (e : CallEnv) (d : Device) : Serves e d d := .still (fun _ => rfl) rfl

theorem Serves.checked {systemApi : Bool} {p : Permission} {call : Device × ServiceReply}
    (h : Serves e d call.1) : Serves e d (d.checked e systemApi p call).1 := by
  unfold Device.checked
  split_ifs
  · exact .refl e d
  · exact h
  · exact .refl e d

theorem Serves.withController {missing : ServiceCode}
    {call : CellularDataController → Device × ServiceReply}
    (h : ∀ c, d.service.getCellularDataController slotId = some c → Serves e d (call c).1) :
    Serves e d (d.withController slotId missing call).1 := by
  unfold Device.withController
  split
  · exact .refl e d
  · exact h _ ‹_›

theorem settle_self (h : d.handler slotId = some s) :
    (∀ i, (d.settle e slotId s s).handler i = d.handler i) ∧
      (d.settle e slotId s s).orderLog = d.orderLog := by
  have hnone : newEffects s s = [] := by simp [newEffects]
  unfold settle
  rw [hnone, List.foldl_nil]
  refine ⟨fun i => ?_, rfl⟩
  by_cases hi : i = slotId
  · subst hi
    rw [h]
    apply handler_setHandler_self
    rw [getCellularDataController_of_handler h]
    rfl
  · exact handler_setHandler_of_ne hi

theorem Serves.callHandler {failed : ServiceReply} {call : Slot → Slot × ServiceReply}
    {c : CellularDataController} (hc : d.service.getCellularDataController slotId = some c)
    (h : ∀ s, (call s).1 = s ∨ ∃ l, Plain l ∧ Slot.system.step l s = some (call s).1) :
    Serves e d (d.callHandler e slotId failed call c).1 := by
  obtain ⟨handler⟩ := c
  cases handler with
  | none => exact .refl e d
  | some s =>
    have hs : d.handler slotId = some s := handler_of_controller hc
    rcases h s with heq | ⟨l, hl, hstep⟩
    · obtain ⟨hsame, hlog⟩ := settle_self (e := e) hs
      refine .still (fun i => ?_) ?_
      · change (d.settle e slotId s (call s).1).handler i = d.handler i
        rw [heq]
        exact hsame i
      · change (d.settle e slotId s (call s).1).orderLog = d.orderLog
        rw [heq]
        exact hlog
    · exact .work hs hstep hl rfl

theorem plain_call {env : Env} {c : Slot.Call} (hrequest : ∀ b caps bear, c ≠ .requestNet b caps bear)
    (horder : ∀ enable, c ≠ .changeConnectionForDsds enable) : Plain (.call env c) := by
  refine ⟨rfl, ?_, ?_⟩
  · cases c with
    | requestNet b caps bear => exact absurd rfl (hrequest b caps bear)
    | _ => rfl
  · cases c with
    | changeConnectionForDsds enable => exact absurd rfl (horder enable)
    | _ => rfl

theorem plain_postHandler (event : HandlerEvent) : Plain (.postHandler event) := ⟨rfl, rfl, rfl⟩

/-- A call that changes the handler by one of its functions. -/
theorem Serves.run {failed : ServiceReply} {reply : Slot → ServiceReply} {c : CellularDataController}
    (call : Slot.Call) (hc : d.service.getCellularDataController slotId = some c)
    (hrequest : ∀ b caps bear, call ≠ .requestNet b caps bear)
    (horder : ∀ enable, call ≠ .changeConnectionForDsds enable) :
    Serves e d (d.callHandler e slotId failed (fun s => (s.call (e.slot slotId) call, reply s)) c).1 :=
  .callHandler hc fun _ => .inr ⟨.call (e.slot slotId) call, plain_call hrequest horder, rfl⟩

/-- A call that only asks the handler. -/
theorem Serves.ask {failed : ServiceReply} {reply : Slot → ServiceReply} {c : CellularDataController}
    (hc : d.service.getCellularDataController slotId = some c) :
    Serves e d (d.callHandler e slotId failed (fun s => (s, reply s)) c).1 :=
  .callHandler hc fun _ => .inl rfl

theorem Serves.post {failed : ServiceReply} {reply : Slot → ServiceReply} {c : CellularDataController}
    {event : HandlerEvent} (hevent : event.isExternal = true)
    (hc : d.service.getCellularDataController slotId = some c) :
    Serves e d (d.callHandler e slotId failed (fun s => (s.sendEvent event, reply s)) c).1 := by
  refine .callHandler hc fun s => .inr ⟨.postHandler event, plain_postHandler event, ?_⟩
  exact if_pos hevent

theorem handler_addNetSupplier (netCapabilities : List Nat) :
    (d.addNetSupplier slotId netCapabilities).handler i = d.handler i := by
  unfold handler CellularDataService.handler CellularDataService.getCellularDataController
    addNetSupplier
  dsimp only
  split_ifs with hcond hi
  · rfl
  · rw [hi]
    cases d.service.cellularDataControllers slotId <;> rfl
  · rfl

theorem serve_serves (c : ServiceCall) (e : CallEnv) (d : Device) :
    Serves e d (d.serve caps e c).1 := by
  cases c with
  | enableCellularData enable =>
    refine .checked (.withController fun c hc => ?_)
    split_ifs
    · exact .refl e d
    · exact .refl e d
    · exact Serves.run (.setCellularDataEnable enable) hc nofun nofun
  | enableIntelligenceSwitch enable =>
    exact .checked (.withController fun c hc =>
      Serves.run (.setIntelligenceSwitchEnable enable) hc nofun nofun)
  | enableCellularDataRoaming slotId enable =>
    exact .checked (.withController fun c hc =>
      Serves.run (.setCellularDataRoamingEnabled enable) hc nofun nofun)
  | isCellularDataEnabled =>
    exact .checked (.withController fun c hc =>
      Serves.run .isCellularDataEnabled hc nofun nofun)
  | getIntelligenceSwitchState =>
    exact .checked (.withController fun c hc =>
      Serves.run .getIntelligenceSwitchState hc nofun nofun)
  | isCellularDataRoamingEnabled slotId =>
    exact .checked (.withController fun c hc =>
      Serves.run .isCellularDataRoamingEnabled hc nofun nofun)
  | getCellularDataState => exact .checked (.withController fun c hc => .ask hc)
  | getApnState slotId apnType => exact .checked (.withController fun c hc => .ask hc)
  | getDataConnApnAttr slotId => exact .checked (.withController fun c hc => .ask hc)
  | getDataConnIpType slotId => exact .checked (.withController fun c hc => .ask hc)
  | hasInternetCapability slotId cid => exact .withController fun c hc => .ask hc
  | getIfSupportDunApn => exact .checked (.withController fun c hc => .ask hc)
  | getCellularDataSupplierId slotId capability =>
    refine .checked ?_
    split_ifs <;> exact .refl e d
  | getSupplierRegisterState supplierId =>
    refine .checked ?_
    split <;> exact .refl e d
  | handleApnChanged slotId => exact .checked (.withController fun c hc => .post rfl hc)
  | clearAllConnections slotId reason =>
    exact .checked (.withController fun c hc =>
      Serves.run (.clearAllConnections reason) hc nofun nofun)
  | establishAllApnsIfConnectable slotId =>
    refine .checked (.withController fun c hc => ?_)
    split_ifs
    · exact .refl e d
    · exact .refl e d
    · exact .post rfl hc
  | correctNetSupplierNoAvailable slotId =>
    refine .checked (.withController fun c hc => .callHandler hc fun s => ?_)
    split_ifs
    · exact .inl rfl
    · exact .inr ⟨.call (e.slot slotId) .updateNetworkInfo, plain_call nofun nofun, rfl⟩
  | initCellularDataController slotId =>
    refine .checked ?_
    split_ifs
    · exact .refl e d
    · exact .still (fun i => handler_addNetSupplier _) rfl

theorem netStrategySwitch_serves (simId : List Char) (enable : Bool) (e : CallEnv) (d : Device) :
    Serves e d (d.netStrategySwitch e simId enable).1 := by
  unfold netStrategySwitch
  split
  · exact .refl e d
  · extract_lets netSimId
    split
    · exact .withController fun c hc => Serves.run (.setPolicyDataOn enable) hc nofun nofun
    · exact .refl e d

theorem Serves.moves (h : Serves e d d') (hrouted : ∀ i, routedBy i L d = [])
    (htaking : taking L = none) : Moves d L d' := by
  cases h with
  | still hsame hlog => exact .still hsame hlog hrouted htaking
  | @work j l s s' hs hstep hl hd =>
    obtain ⟨hdispatches, hposts, horders⟩ := hl
    refine .work d.netAgent hs hstep hd horders ?_ (.inl ⟨hdispatches, htaking⟩)
    intro i
    rw [hrouted, hposts, ite_self]

theorem plain_of_isOwn {l : Label} (h : l.isOwn = true) : Plain l := by
  cases l with
  | dispatchHandler env => cases h
  | call env c =>
    cases c with
    | callStateChanged state => exact plain_call nofun nofun
    | defaultDataSubscriptionChanged => exact plain_call nofun nofun
    | operatorConfigChanged => exact plain_call nofun nofun
    | dataShareReady => exact plain_call nofun nofun
    | _ => cases h
  | _ => exact ⟨rfl, rfl, rfl⟩

theorem asynchronousRegister_moves {env : Env} {holders : List ApnType}
    (h : d.asynchronousRegister slotId env holders = some d') :
    Moves d (.asynchronousRegister slotId env holders) d' := by
  unfold asynchronousRegister at h
  split at h
  · rename_i hc
    split_ifs at h with hsorted
    obtain rfl := Option.some.inj h
    have hnone : d.handler slotId = none := by
      unfold handler CellularDataService.handler
      rw [hc]
      rfl
    refine .create hnone ⟨env, slotId, holders, hsorted, rfl⟩ (Slot.discreet_init _).slotId ?_ rfl
      (fun _ => rfl) rfl
    intro i
    by_cases hi : i = slotId
    · rw [if_pos hi, hi]
      apply handler_setHandler_self
      rw [hc]
      rfl
    · rw [if_neg hi]
      exact handler_setHandler_of_ne hi
  · cases h

theorem requestNet_moves {isRequest : Bool} {request : NetworkRequest} {simId : Int}
    (hcaps : request.netCaps ≠ []) (hident : identSimId request.ident = .simId simId) :
    Moves d (.networkCallback isRequest request e)
      (d.requestNet e isRequest simId request.netCaps request.bearTypes).1 := by
  have hquiet (hs : (d.handler (d.netAgent.getSlotId simId)).isSome = true →
      isRequest = true ∧ e.powerSaveMode = true) (i : Int) :
      routedBy i (.networkCallback isRequest request e) d = [] := by
    simp only [routedBy, hident]
    apply if_neg
    rintro ⟨-, rfl, hsome, hsave⟩
    exact hsave (hs hsome)
  unfold requestNet withController
  dsimp only
  split
  · rename_i hc
    refine .still (fun _ => rfl) rfl (hquiet ?_) rfl
    intro hsome
    obtain ⟨s, hs⟩ := Option.isSome_iff_exists.mp hsome
    rw [getCellularDataController_of_handler hs] at hc
    cases hc
  · rename_i c hc
    obtain ⟨handler⟩ := c
    cases handler with
    | none =>
      refine .still (fun _ => rfl) rfl (hquiet ?_) rfl
      intro hsome
      obtain ⟨s, hs⟩ := Option.isSome_iff_exists.mp hsome
      rw [getCellularDataController_of_handler hs] at hc
      cases hc
    | some s =>
      have hs : d.handler (d.netAgent.getSlotId simId) = some s := handler_of_controller hc
      unfold callHandler
      dsimp only
      split_ifs with hsave
      · refine .still (settle_self hs).1 (settle_self hs).2 (hquiet fun _ => ?_) rfl
        simpa using hsave
      · refine .work (l := .call (e.slot (d.netAgent.getSlotId simId))
          (.requestNet isRequest request.netCaps request.bearTypes)) d.netAgent hs rfl rfl rfl ?_
          (.inl ⟨rfl, rfl⟩)
        intro i
        have hgoes : ¬ (isRequest = true ∧ e.powerSaveMode = true) := by simpa using hsave
        simp only [routedBy, hident, ne_eq, hcaps, not_false_eq_true, true_and]
        by_cases hi : i = d.netAgent.getSlotId simId
        · subst hi
          rw [if_pos ⟨rfl, by rw [hs]; rfl, hgoes⟩, if_pos rfl]
          rfl
        · rw [if_neg fun h => hi h.1.symm, if_neg hi]

theorem networkCallback_moves {isRequest : Bool} {request : NetworkRequest} {r : Device × ServiceReply}
    (h : d.networkCallback e isRequest request = some r) :
    Moves d (.networkCallback isRequest request e) r.1 := by
  unfold networkCallback at h
  split_ifs at h with hcaps
  · obtain rfl := Option.some.inj h
    refine .still (fun _ => rfl) rfl (fun i => ?_) rfl
    simp only [routedBy]
    split
    · exact if_neg fun h => h.1 hcaps
    · rfl
  · split at h
    · rename_i hident
      obtain rfl := Option.some.inj h
      refine .still (fun _ => rfl) rfl (fun i => ?_) rfl
      simp only [routedBy, hident]
    · cases h
    · rename_i simId hident
      obtain rfl := Option.some.inj h
      exact requestNet_moves hcaps hident

theorem step_moves (h : step caps L d = some d') : Moves d L d' := by
  cases L with
  | asynchronousRegister slotId env holders => exact asynchronousRegister_moves h
  | dispatchHandler slotId env e a =>
    obtain ⟨s, hs, h⟩ := Option.bind_eq_some_iff.mp h
    obtain ⟨s', hstep, rfl⟩ := Option.map_eq_some_iff.mp h
    exact .work (l := .dispatchHandler _) _ hs hstep rfl rfl (fun i => (ite_self _).symm)
      (.inr ⟨env, _, rfl, rfl⟩)
  | slot slotId l e =>
    simp only [step] at h
    split_ifs at h with hown
    obtain ⟨s, hs, h⟩ := Option.bind_eq_some_iff.mp h
    obtain ⟨s', hstep, rfl⟩ := Option.map_eq_some_iff.mp h
    exact (Serves.work hs hstep (plain_of_isOwn hown) rfl).moves (fun _ => rfl) rfl
  | netConnManagerAdded slotId e a =>
    obtain ⟨s, hs, rfl⟩ := Option.map_eq_some_iff.mp h
    exact .work (l := .call (e.slot slotId) .updateNetworkInfo) _ hs rfl rfl rfl
      (fun i => (ite_self _).symm) (.inl ⟨rfl, rfl⟩)
  | service c e =>
    obtain rfl := Option.some.inj h
    exact (serve_serves c e d).moves (fun _ => rfl) rfl
  | networkCallback isRequest request e =>
    obtain ⟨r, hr, rfl⟩ := Option.map_eq_some_iff.mp h
    exact networkCallback_moves hr
  | netStrategySwitch simId enable e =>
    obtain rfl := Option.some.inj h
    exact (netStrategySwitch_serves simId enable e d).moves (fun _ => rfl) rfl

/-! Slots of the device -/

theorem orderLabels_call {es : List Effect} :
    ∀ l ∈ orderLabels e i es, ∃ env enable, l = .call env (.changeConnectionForDsds enable) := by
  intro l hl
  obtain ⟨enable, -, rfl⟩ := List.mem_map.mp hl
  exact ⟨e.slot i, enable, rfl⟩

/-- What a working handler leaves in each slot: its own step, and the orders that it gives. -/
theorem settle_handler {j : Int} {t : Slot} (hj : d.handler j = some s) (hi : d.handler i = some t) :
    ∃ t', (d.settle e j s s').handler i = some t' ∧
      Slot.system.run (orderLabels e i (newEffects s s')) (if i = j then s' else t) = some t' := by
  by_cases hij : i = j
  · subst hij
    rw [if_pos rfl]
    apply deliver_all_handler
    apply handler_setHandler_self
    rw [getCellularDataController_of_handler hj]
    rfl
  · rw [if_neg hij]
    exact deliver_all_handler _ ((handler_setHandler_of_ne hij).trans hi)

theorem deliver_handler_none {giver : Int} {effect : Effect} (h : d.handler i = none) :
    (d.deliver e giver effect).handler i = none := by
  cases effect with
  | changeConnectionForDsds j enable =>
    simp only [deliver, changeConnectionForDsds]
    split
    · exact h
    · rename_i c hc
      split
      · exact h
      · rename_i s hs
        by_cases hij : i = j
        · subst hij
          obtain ⟨handler⟩ := c
          obtain rfl : handler = some s := hs
          rw [handler_of_controller hc] at h
          cases h
        · exact (handler_setHandler_of_ne hij).trans h
  | _ => exact h

theorem settle_handler_none {j : Int} (hj : d.handler j = some s) (hi : d.handler i = none) :
    (d.settle e j s s').handler i = none := by
  have hij : i ≠ j := by
    rintro rfl
    rw [hi] at hj
    cases hj
  have hset : (d.setHandler j s').handler i = none := (handler_setHandler_of_ne hij).trans hi
  unfold settle
  apply List.foldlRecOn (newEffects s s') (deliver e j) (motive := fun d => d.handler i = none)
  · exact hset
  · exact fun d hd effect _ => deliver_handler_none hd

/-- What a step of the device is for one slot: its own step, if it works, and then the orders that it
is given. -/
inductive SlotMoves (i : Int) (L : DeviceLabel) (d : Device) (t t' : Slot) : Prop
  | follow {e : CallEnv} {es : List Effect} (hrun : Slot.system.run (orderLabels e i es) t = some t')
      (hrouted : routedBy i L d = []) (htaking : ∀ env, taking L ≠ some (i, env))
  | work {e : CallEnv} {es : List Effect} {l : Label} {t₁ : Slot}
      (hstep : Slot.system.step l t = some t₁)
      (hrun : Slot.system.run (orderLabels e i es) t₁ = some t') (hrouted : routedBy i L d = Slot.posts l)
      (htaking : Slot.dispatches l = false ∧ taking L = none ∨ ∃ env registerNetSupplier,
        l = .dispatchHandler { env with registerNetSupplier } ∧ taking L = some (i, env))

theorem SlotMoves.refl {t : Slot} (hrouted : routedBy i L d = []) (htaking : taking L = none) :
    SlotMoves i L d t t := by
  have hnever : ∀ env, taking L ≠ some (i, env) := by
    intro env heq
    rw [htaking] at heq
    cases heq
  exact @SlotMoves.follow i L d t t {} [] rfl hrouted hnever

theorem slot_moves {t : Slot} (h : step caps L d = some d') (ht : d.handler i = some t) :
    ∃ t', d'.handler i = some t' ∧ SlotMoves i L d t t' := by
  cases step_moves h with
  | still hsame _ hrouted htaking =>
    exact ⟨t, (hsame i).trans ht, .refl (hrouted i) htaking⟩
  | @create slotId s hnone hs _ hsame _ hrouted htaking =>
    have hi : i ≠ slotId := by
      rintro rfl
      rw [hnone] at ht
      cases ht
    refine ⟨t, ?_, .refl (hrouted i) htaking⟩
    rw [hsame, if_neg hi, ht]
  | @work e j l s s' a hs hstep hd horder hrouted htaking =>
    have hs' : { d with netAgent := a }.handler j = some s := hs
    obtain ⟨t', ht', hrun⟩ : ∃ t', ({ d with netAgent := a }.settle e j s s').handler i = some t' ∧
        Slot.system.run (orderLabels e i (newEffects s s')) (if i = j then s' else t) = some t' :=
      settle_handler hs' ht
    rw [← hd] at ht'
    refine ⟨t', ht', ?_⟩
    by_cases hij : i = j
    · subst hij
      obtain rfl : s = t := Option.some.inj (hs.symm.trans ht)
      rw [if_pos rfl] at hrun
      exact .work hstep hrun ((hrouted i).trans (if_pos rfl)) htaking
    · rw [if_neg hij] at hrun
      refine .follow hrun ((hrouted i).trans (if_neg hij)) ?_
      intro env heq
      rcases htaking with ⟨-, hnone⟩ | ⟨env', b, -, hsome⟩
      · rw [hnone] at heq
        cases heq
      · rw [hsome] at heq
        exact hij (congrArg Prod.fst (Option.some.inj heq)).symm

/-- A slot without a handler keeps none or is given a new one. -/
theorem slot_created (h : step caps L d = some d') (hi : d.handler i = none) :
    (d'.handler i = none ∨ ∃ s, d'.handler i = some s ∧ Slot.system.init s) ∧
      routedBy i L d = [] ∧ ∀ env, taking L ≠ some (i, env) := by
  have hnever : taking L = none → ∀ env, taking L ≠ some (i, env) := by
    intro hnone env heq
    rw [hnone] at heq
    cases heq
  cases step_moves h with
  | still hsame _ hrouted htaking =>
    exact ⟨.inl ((hsame i).trans hi), hrouted i, hnever htaking⟩
  | @create slotId s hnone hs _ hsame _ hrouted htaking =>
    refine ⟨?_, hrouted i, hnever htaking⟩
    rw [hsame]
    split_ifs
    · exact .inr ⟨s, rfl, hs⟩
    · exact .inl hi
  | @work e j l s s' a hs hstep hd horder hrouted htaking =>
    have hij : i ≠ j := by
      rintro rfl
      rw [hi] at hs
      cases hs
    refine ⟨.inl ?_, (hrouted i).trans (if_neg hij), ?_⟩
    · rw [hd]
      exact settle_handler_none (d := { d with netAgent := a }) hs hi
    · rcases htaking with ⟨-, hnone⟩ | ⟨env', b, -, hsome⟩
      · exact hnever hnone
      · intro env heq
        rw [hsome] at heq
        exact hij (congrArg Prod.fst (Option.some.inj heq)).symm

/-! Runs -/

theorem handler_init {simNum : Nat} {tstsModeEnabled : Bool} {netCapabilities : List Nat} :
    (init (moduleSlots simNum tstsModeEnabled) netCapabilities).handler i = none := by
  unfold handler CellularDataService.handler CellularDataService.getCellularDataController init
  dsimp only
  split_ifs <;> rfl

/-- Each handler of the device is in a state that its slot's own system reaches. -/
theorem reachable_handler (hd : (system caps).Reachable d) (hs : d.handler i = some s) :
    Slot.system.Reachable s := by
  have hall : ∀ i s, d.handler i = some s → Slot.system.Reachable s := by
    refine hd.invariant (P := fun d => ∀ i s, d.handler i = some s → Slot.system.Reachable s) ?_ ?_
    · rintro d ⟨simNum, tstsModeEnabled, netCapabilities, rfl⟩ i s hs
      rw [handler_init] at hs
      cases hs
    · intro L d d' _ ih hstep i s' hs'
      cases ht : d.handler i with
      | none =>
        rcases (slot_created hstep ht).1 with hnone | ⟨s, hs, hinit⟩
        · rw [hnone] at hs'
          cases hs'
        · obtain rfl := Option.some.inj (hs.symm.trans hs')
          exact .init hinit
      | some t =>
        obtain ⟨t', ht', hmoves⟩ := slot_moves hstep ht
        obtain rfl := Option.some.inj (ht'.symm.trans hs')
        have hreach : Slot.system.Reachable t := ih i t ht
        cases hmoves with
        | follow hrun _ _ => exact hreach.run hrun
        | work hwork hrun _ _ => exact (hreach.step hwork).run hrun
  exact hall i s hs

end Device
end CellularData
