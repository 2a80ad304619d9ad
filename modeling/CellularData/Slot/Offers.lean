import CellularData.Slot.Capabilities
import CellularData.Slot.Completions
import CellularData.Slot.StandingOrder

/-! What the net manager has been told last of the networks that the machines supply. -/
namespace CellularData
open Lib StateMachine Relation

/-! Reports of the end of a connection -/

namespace Control

variable {env : MachineEnv} {c c' : Control} {e : MachineEvent} {os : List MachineOutput}

theorem disconnectInfo_active (c : Control) : c.disconnectInfo.active = 0 := by
  unfold disconnectInfo
  split <;> rfl

theorem endCall_active {info : SetupDataCallResultInfo}
    (h : .disconnectDataComplete info ∈ c.endCall.2) : info.active = 0 := by
  obtain rfl := MachineOutput.disconnectDataComplete.inj (List.mem_singleton.mp h)
  exact c.disconnectInfo_active

/-- A machine reports the end of a call as a call that is not active. -/
theorem Transition.ends_inactive (ht : Transition env c e c' os) {info : SetupDataCallResultInfo}
    (h : .disconnectDataComplete info ∈ os) : info.active = 0 := by
  cases ht with
  | ignore _ => cases h
  | boot _ => cases h
  | connect _ => cases h
  | defer _ _ => cases h
  | accept _ _ _ => cases List.mem_singleton.mp h
  | fail _ => exact endCall_active h
  | abandon _ => cases h
  | complete _ => cases List.mem_singleton.mp h
  | disconnect _ _ => cases List.mem_singleton.mp h
  | lose _ _ => exact endCall_active h
  | finish _ _ => exact endCall_active h
  | release _ _ => exact endCall_active h

end Control

/-- The reports of ended calls that are on their way tell of calls that are not active. -/
def Core.EndsInactive (k : Core) : Prop :=
  ∀ info, .disconnectDataComplete info ∈ k.notices → info.active = 0

theorem Core.EndsInactive.append {k k' : Core} {es : List HandlerEvent} (h : k.EndsInactive)
    (hnotices : k'.notices = k.notices ++ es)
    (hes : ∀ info, .disconnectDataComplete info ∈ es → info.active = 0) : k'.EndsInactive := by
  intro info hmem
  rw [hnotices] at hmem
  rcases List.mem_append.mp hmem with hmem | hmem
  · exact h info hmem
  · exact hes info hmem

namespace Slot

variable {env : Env} {s s' : Slot} {t : ApnType} {m : MachineRef} {cap : NetCap} {l : Label}
  {e : HandlerEvent}

theorem reachable_endsInactive (h : system.Reachable s) : s.core.EndsInactive := by
  refine calls_invariant h (fun _ hmem => nomatch hmem) (fun k k' _ _ hp ha => ?_)
    fun l s k _ _ _ _ hp _ ht => ?_
  · rcases ha with hc | ⟨t, m, he⟩
    · exact fun info hmem => hp info (hc.notices.subset hmem)
    · exact fun info hmem => hp info (he.notices ▸ hmem)
  · generalize s.cue l = cue at ht
    cases ht with
    | calm hc => exact fun info hmem => hp info (hc.notices.subset hmem)
    | releases hr =>
      intro info hmem
      apply hp info
      rw [hr.notices]
      exact List.mem_cons_of_mem _ hmem
    | @dispatch menv m c c' e q os hm hnext ht =>
      obtain ⟨k', heq, -, -, -, hnotices⟩ := Core.dispatch_frame s.core m c c' e os
      rw [← heq]
      refine hp.append hnotices fun info hmem => ?_
      obtain ⟨o, ho, hnotice⟩ := List.mem_filterMap.mp hmem
      have hend : o = .disconnectDataComplete info := by
        cases o <;> cases hnotice
        rfl
      exact ht.ends_inactive (hend ▸ ho)
    | report =>
      refine Core.report_invariant (P := Core.EndsInactive) (fun k info _ hk => ?_)
        (fun k m _ hk => ?_) (fun k cid hk => hk) hp
      · refine Core.relayDataCall_invariant hk fun _ => hk.append rfl fun info' hmem => ?_
        cases List.mem_singleton.mp hmem
      · exact Core.loseConnection_invariant hk (fun _ => hk) _

/-! Offers -/

/-- Networks are offered only by machines that a holder owns, for the capability of its type. -/
structure Offered (s : Slot) : Prop where
  available : ∀ m, s.available m = true → ∃ t, (s.holder t).cellularDataStateMachine = some m
  offers : ∀ m cap, s.latest (Effect.offer m cap) = some true →
    ∃ t, (s.holder t).cellularDataStateMachine = some m ∧ findApnIdByCapability cap = some t

theorem Offered.mute (h : s.Offered) (hm : Mute s s')
    (howner : ∀ t m, (s.holder t).cellularDataStateMachine = some m →
      (s'.holder t).cellularDataStateMachine = some m) : s'.Offered := by
  constructor
  · intro m hon
    obtain ⟨t, ht⟩ := h.available m (hm.available m hon)
    exact ⟨t, howner t m ht⟩
  · intro m cap hlast
    rw [hm.offers] at hlast
    obtain ⟨t, ht, hcap⟩ := h.offers m cap hlast
    exact ⟨t, howner t m ht, hcap⟩

/-- An owned machine tells what the modem has reported. -/
theorem Offered.tells {on : Bool} (h : s.Offered) (hb : s.Branded)
    (hm : (s.holder t).cellularDataStateMachine = some m) (htells : Tells m on s s')
    (howner : ∀ t m, (s.holder t).cellularDataStateMachine = some m →
      (s'.holder t).cellularDataStateMachine = some m) : s'.Offered := by
  constructor
  · intro n hon
    have hn := htells.available n hon
    split_ifs at hn with hnm
    · exact ⟨t, howner t n (hnm ▸ hm)⟩
    · obtain ⟨u, hu⟩ := h.available n hn
      exact ⟨u, howner u n hu⟩
  · intro n cap hlast
    rw [htells.offers] at hlast
    split_ifs at hlast with hnm
    · obtain ⟨cap', hsells, hcap⟩ := hb t m hm
      obtain rfl := Option.some.inj (hnm.2.symm.trans hsells)
      exact ⟨t, howner t n (hnm.1 ▸ hm), hcap⟩
    · obtain ⟨u, hu, hcap⟩ := h.offers n cap hlast
      exact ⟨u, howner u n hu, hcap⟩

/-- A machine that is taken from its holder tells that its network is gone. -/
theorem Offered.withdraws (h : s.Offered) (hb : s.Branded)
    (hm : (s.holder t).cellularDataStateMachine = some m) (htells : Tells m false s s')
    (howner : ∀ u n, u ≠ t → (s.holder u).cellularDataStateMachine = some n →
      (s'.holder u).cellularDataStateMachine = some n) : s'.Offered := by
  have hother {u : ApnType} {n : MachineRef} (hn : n ≠ m)
      (hu : (s.holder u).cellularDataStateMachine = some n) : u ≠ t := by
    rintro rfl
    exact hn (Option.some.inj (hu.symm.trans hm))
  constructor
  · intro n hon
    have hn := htells.available n hon
    split_ifs at hn with hnm
    obtain ⟨u, hu⟩ := h.available n hn
    exact ⟨u, howner u n (hother hnm hu) hu⟩
  · intro n cap hlast
    rw [htells.offers] at hlast
    split_ifs at hlast with hnm
    · cases hlast
    obtain ⟨u, hu, hcap⟩ := h.offers n cap hlast
    have hut : u ≠ t := by
      rintro rfl
      obtain rfl := Option.some.inj (hu.symm.trans hm)
      obtain ⟨cap', hsells, hcap'⟩ := hb u n hm
      exact hnm ⟨rfl, findApnIdByCapability_injective hcap' hcap ▸ hsells⟩
    exact ⟨u, howner u n hut hu, hcap⟩

/-- The holders, the machines and the requests are as before. -/
theorem Offered.of_stock (h : s.Offered) (hstock : s'.stock = s.stock) : s'.Offered := by
  obtain ⟨hmanager, hrest⟩ := Prod.mk.inj hstock
  obtain ⟨hdata, heffects⟩ := Prod.mk.inj hrest
  constructor
  · intro m hon
    unfold Slot.available at hon
    rw [hdata] at hon
    unfold holder
    rw [hmanager]
    exact h.available m hon
  · intro m cap hlast
    unfold latest at hlast
    rw [heffects] at hlast
    unfold holder
    rw [hmanager]
    exact h.offers m cap hlast

/-! A machine takes an event -/

theorem machineData_receive (m : MachineRef) (o : MachineOutput) (s : Slot) :
    (s.receive m o).machineData = s.machineData := by
  cases o <;> rfl

theorem latest_receive (m : MachineRef) (o : MachineOutput) (n : MachineRef) (cap : NetCap) (s : Slot) :
    (s.receive m o).latest (Effect.offer n cap) =
      ((Effect.machine m o).offer n cap).or (s.latest (Effect.offer n cap)) := by
  cases o with
  | updateNetSupplierInfo c info =>
    unfold latest receive effect
    dsimp only
    rw [List.findSome?_cons]
    cases (Effect.machine m (.updateNetSupplierInfo c info)).offer n cap <;> rfl
  | _ => rfl

/-- What has been told before stands, or the machine tells it now. -/
theorem latest_foldl_receive (m : MachineRef) (os : List MachineOutput) (n : MachineRef) (cap : NetCap)
    (s : Slot) (h : (os.foldl (fun s o => s.receive m o) s).latest (Effect.offer n cap) = some true) :
    s.latest (Effect.offer n cap) = some true ∨ n = m ∧ ∃ info,
      .updateNetSupplierInfo cap info ∈ os ∧ info.isAvailable = true := by
  induction os generalizing s with
  | nil => exact .inl h
  | cons o os ih =>
    rcases ih _ h with hbefore | ⟨hnm, info, hmem, hon⟩
    · rw [latest_receive] at hbefore
      cases hoffer : (Effect.machine m o).offer n cap with
      | none =>
        rw [hoffer] at hbefore
        exact .inl hbefore
      | some on =>
        rw [hoffer] at hbefore
        cases o with
        | updateNetSupplierInfo c info =>
          simp only [Effect.offer] at hoffer
          split_ifs at hoffer with heq
          obtain ⟨rfl, rfl⟩ := heq
          have hon : info.isAvailable = true :=
            (Option.some.inj hoffer).trans (Option.some.inj hbefore)
          exact .inr ⟨rfl, info, List.mem_cons_self, hon⟩
        | _ => cases hoffer
    · exact .inr ⟨hnm, info, List.mem_cons_of_mem _ hmem, hon⟩

theorem stock_logMachineEvent (m : MachineRef) (x : CellularDataStateMachine) (e : MachineEvent)
    (s : Slot) : (s.logMachineEvent m x e).stock = s.stock := by
  cases e with
  | setupDataCall answer =>
    cases answer with
    | resultInfo info =>
      simp only [logMachineEvent]
      split_ifs <;> rfl
    | rilInfo info => rfl
    | empty => rfl
  | rilAdapterHostDied info =>
    simp only [logMachineEvent]
    split_ifs <;> rfl
  | _ => rfl

theorem honest_dispatch {menv : MachineEnv} {x x' : CellularDataStateMachine} {e : MachineEvent}
    (h : x.dispatch menv = some (e, x')) : x.Honest x' := by
  obtain ⟨q, -, rfl⟩ := CellularDataStateMachine.dispatch_eq_some h
  have hprocess : CellularDataStateMachine.Honest { x with queue := q }
      (CellularDataStateMachine.process menv { x with queue := q } e) :=
    CellularDataStateMachine.honest_process
  exact ⟨hprocess.capability, hprocess.available, hprocess.tells⟩

/-- An event that a machine takes makes no network available. -/
theorem offered_dispatchMachine (hq : s.Quiet) (hb : s.Branded) (ho : s.Offered)
    (h : s.dispatchMachine env m = some s') : s'.Branded ∧ s'.Offered := by
  have hholder (t : ApnType) : s'.holder t = s.holder t := (aside_dispatchMachine h).holder t
  obtain ⟨x, e, x', hm, hd, heq⟩ := dispatchMachine_eq_some h
  have hhonest : x.Honest x' := honest_dispatch hd
  generalize hs₁ : { s.logMachineEvent m x e with
    stateMachines := s.stateMachines.set m x'.clearOutbox } = s₁ at heq
  have hmachines : s₁.stateMachines = s.stateMachines.set m x'.clearOutbox := by rw [← hs₁]
  have heffects : s₁.effects = s.effects := by
    rw [← hs₁]
    exact congrArg (·.2.2) (stock_logMachineEvent m x e s)
  have hdata : s'.machineData = s₁.machineData := by
    rw [heq]
    exact apply_foldl machineData (fun s o => machineData_receive m o s) _ _
  have hsells (n : MachineRef) : s'.sells n = s.sells n := by
    have hlt : m < s.stateMachines.length := (List.getElem?_eq_some_iff.mp hm).1
    by_cases hnm : n = m
    · subst hnm
      rw [sells_of_some hm, ← hhonest.capability]
      unfold sells
      rw [hdata, machineData, hmachines]
      simp [hlt, CellularDataStateMachine.clearOutbox, EventHandler.modifyData]
    · unfold sells
      rw [hdata]
      unfold machineData
      rw [hmachines, List.map_set, List.getElem?_set_ne (Ne.symm hnm)]
  have havailable (n : MachineRef) (hon : s'.available n = true) : s.available n = true := by
    have hset : s₁.available n = if n = m then x'.isAvailable else s.available n :=
      available_set hm hmachines n
    have hsame : s'.available n = s₁.available n := by
      unfold available
      rw [hdata]
    rw [hsame, hset] at hon
    split_ifs at hon with hnm
    · rw [hnm, available_of_some hm]
      exact hhonest.available hon
    · exact hon
  refine ⟨fun t n hn => ?_, fun n hon => ?_, fun n cap hlast => ?_⟩
  · rw [hsells]
    exact hb t n (hholder t ▸ hn)
  · obtain ⟨t, ht⟩ := ho.available n (havailable n hon)
    exact ⟨t, (hholder t).symm ▸ ht⟩
  · rw [heq] at hlast
    rcases latest_foldl_receive m _ n cap s₁ hlast with hbefore | ⟨rfl, info, hmem, hon⟩
    · have hlast' : s.latest (Effect.offer n cap) = some true := by
        unfold latest at hbefore ⊢
        rw [← heffects]
        exact hbefore
      obtain ⟨t, ht, hcap⟩ := ho.offers n cap hlast'
      exact ⟨t, (hholder t).symm ▸ ht, hcap⟩
    · obtain ⟨os, hos, htells⟩ := hhonest.tells
      have hempty : x.data.outbox = [] := by
        apply hq
        rw [List.mem_iff_getElem?]
        exact ⟨n, by rw [machineData_getElem?, hm, Option.map_some]⟩
      rw [hos, hempty, List.nil_append] at hmem
      obtain ⟨rfl, hbefore⟩ := htells cap info hmem
      obtain ⟨t, ht⟩ := ho.available n ((available_of_some hm).trans (hbefore hon))
      obtain ⟨cap', hsells', hcap⟩ := hb t n ht
      obtain rfl := Option.some.inj ((sells_of_some hm).symm.trans hsells')
      exact ⟨t, (hholder t).symm ▸ ht, hcap⟩

/-! The handler takes an event -/

theorem quiet_of_regular (hr : s.Regular) : s.Quiet := by
  intro d hd
  obtain ⟨x, hx, rfl⟩ := List.mem_map.mp hd
  exact (hr.settled x hx).outbox

theorem Passes.kept (hp : Passes e s s') (he : ∀ info, e ≠ .disconnectDataComplete info) (t : ApnType)
    (m : MachineRef) (hm : (s.holder t).cellularDataStateMachine = some m) :
    (s'.holder t).cellularDataStateMachine = some m := by
  rcases hp.owner t m hm with howner | ⟨info, heq, -⟩
  · exact howner
  · exact absurd heq (he info)

/-- The report of an ended connection takes the machine from its holder. -/
theorem offered_disconnectDataComplete {info : SetupDataCallResultInfo} (hq : s.Quiet)
    (hb : s.Branded) (ho : s.Offered) (hactive : info.active = 0)
    (hp : Passes (.disconnectDataComplete info) s (s.disconnectDataComplete env info)) :
    (s.disconnectDataComplete env info).Offered := by
  cases ht : ApnType.ofId info.flag with
  | none =>
    simp only [disconnectDataComplete, ht]
    exact ho
  | some t =>
    have hother (u : ApnType) (n : MachineRef) (hut : u ≠ t)
        (hu : (s.holder u).cellularDataStateMachine = some n) :
        ((s.disconnectDataComplete env info).holder u).cellularDataStateMachine = some n := by
      rcases hp.owner u n hu with howner | ⟨info', heq, hu'⟩
      · exact howner
      · obtain rfl := HandlerEvent.disconnectDataComplete.inj heq
        exact absurd (Option.some.inj (hu'.symm.trans ht)) hut
    have hreports : ReportsOwned t info s (s.disconnectDataComplete env info) :=
      reports_disconnectDataComplete ht s
    cases hm : (s.holder t).cellularDataStateMachine with
    | none =>
      refine ho.mute ((hreports.unowned hm).mute hq) fun u n hu => ?_
      have hut : u ≠ t := by
        rintro rfl
        cases hm.symm.trans hu
      exact hother u n hut hu
    | some m =>
      have htells := (hreports.owned m hm).tells hq
      rw [hactive] at htells
      exact ho.withdraws hb hm htells hother

theorem offered_event (hq : s.Quiet) (hb : s.Branded) (ho : s.Offered)
    (hactive : ∀ info, e = .disconnectDataComplete info → info.active = 0)
    (hp : Passes e s (s.processEvent env e)) : (s.processEvent env e).Offered := by
  cases he : e.isNotice with
  | false =>
    refine ho.mute ((mild_processEvent he s).mute hq) (hp.kept fun info heq => ?_)
    rw [heq] at he
    cases he
  | true =>
    cases e with
    | establishDataConnectionComplete info =>
      have hkept := hp.kept fun _ => HandlerEvent.noConfusion
      change (s.establishDataConnectionComplete env info).Offered
      cases ht : apnHolderByName info.flag with
      | none =>
        simp only [establishDataConnectionComplete, ht]
        exact ho.of_stock rfl
      | some t =>
        have hreports : ReportsOwned t info s (s.establishDataConnectionComplete env info) :=
          reports_establishDataConnectionComplete ht s
        cases hm : (s.holder t).cellularDataStateMachine with
        | none => exact ho.mute ((hreports.unowned hm).mute hq) hkept
        | some m => exact ho.tells hb hm ((hreports.owned m hm).tells hq) hkept
    | disconnectDataComplete info =>
      exact offered_disconnectDataComplete hq hb ho (hactive info rfl) hp
    | dataCallListChanged info =>
      have hkept := hp.kept fun _ => HandlerEvent.noConfusion
      change (s.handleUpdateNetInfo env info).Offered
      rcases @reports_handleUpdateNetInfo env info s with hd | ⟨t, m, hm, hreports⟩
      · exact ho.mute (hd.mute hq) hkept
      · exact ho.tells hb hm (hreports.tells hq) hkept
    | _ => cases he

theorem mute_call (c : Call) (hq : s.Quiet) : Mute s (s.call env c) := by
  by_cases hdsds : ∃ enable, c = .changeConnectionForDsds enable
  · obtain ⟨enable, rfl⟩ := hdsds
    exact (orderly_changeConnectionForDsds enable s).2.1 hq
  by_cases hrequest : ∃ isRequest caps bearTypes, c = .requestNet isRequest caps bearTypes
  · obtain ⟨isRequest, caps, bearTypes, rfl⟩ := hrequest
    exact mute_of_effects (List.forall_mem_nil _) rfl rfl hq
  · have hd : Discreet s (s.call env c) := discreet_call (fun enable heq => hdsds ⟨enable, heq⟩)
      (fun isRequest caps bearTypes heq => hrequest ⟨isRequest, caps, bearTypes, heq⟩) s
    exact hd.mute hq

/-! Runs -/

/-- What every step keeps. -/
structure Stocked (s : Slot) : Prop where
  branded : s.Branded
  asked : s.Asked
  offered : s.Offered

theorem reachable_sane (hs : system.Reachable s) : s.Sane :=
  ⟨(reachable_regular hs).1, (reachable_regular hs).2, reachable_owned hs⟩

theorem Stocked.call (h : s.Stocked) (hs : system.Reachable s) (c : Call) :
    (s.call env c).Stocked := by
  have hsane : s.Sane := reachable_sane hs
  have hdoes : Does env (Establishes env) s (s.call env c) := (does_call c).establishes
  have hkept : Kept s (s.call env c) := (hdoes.kept hsane h.branded h.asked).1
  have hheeds : Heeds s (s.call env c) := (Heeds.refl s).event hdoes
  exact ⟨hkept.branded h.branded, h.asked.heeds hkept hheeds,
    h.offered.mute (mute_call c (quiet_of_regular hsane.regular)) hkept.owner⟩

theorem Stocked.step (h : s.Stocked) (hs : system.Reachable s) (hstep : system.step l s = some s') :
    s'.Stocked := by
  have hsane : s.Sane := reachable_sane hs
  cases step_moves (reachable_requestsReady hs) hstep with
  | still _ _ hstill =>
    obtain ⟨hmanager, hrest⟩ := Prod.mk.inj hstill.stock
    have hgoods : s'.goods = s.goods := goods_of_eq hmanager (Prod.mk.inj hrest).1
    have hasked : s'.Asked := by
      unfold Asked holder
      rw [hmanager]
      exact h.asked
    exact ⟨(kept_of_goods hgoods).branded h.branded, hasked, h.offered.of_stock hstill.stock⟩
  | machine hm =>
    obtain ⟨hb, ho⟩ := offered_dispatchMachine (quiet_of_regular hsane.regular) h.branded h.offered hm
    refine ⟨hb, fun t ht => ?_, ho⟩
    rw [(aside_dispatchMachine hm).holder] at ht ⊢
    exact h.asked t ht
  | @take env e q hnext =>
    have hpasses : Passes e { s with queue := q } (processEvent env { s with queue := q } e) :=
      take_passes hsane h.branded h.asked hnext
    refine ⟨hpasses.branded, hpasses.asked, ?_⟩
    have hq : Quiet { s with queue := q } := (quiet_of_regular hsane.regular :)
    refine offered_event hq h.branded (h.offered.of_stock rfl) (fun info heq => ?_) hpasses
    subst heq
    obtain ⟨hready, -⟩ := next_ready hsane.regular hnext
    obtain ⟨hnotices, -⟩ := core_takeNotice hready rfl
    exact reachable_endsInactive hs info (hnotices ▸ List.mem_cons_self)
  | call _ => exact h.call hs _
  | @request env isRequest caps bearTypes =>
    exact @Stocked.call env s h hs (.requestNet isRequest caps bearTypes)

theorem initial_stocked (h : Initial s) : s.Stocked := by
  obtain ⟨env, slotId, holders, -, rfl⟩ := h
  generalize hs₀ : ({ slotId, apnManager := { sortedApnHolders := holders } } : Slot) = s₀
  have hblank : s₀.Stocked := by
    rw [← hs₀]
    refine ⟨fun t m hm => ?_, fun t ht => ?_, fun m hon => ?_, fun m cap hlast => ?_⟩
    · cases hm
    · cases ht
    · cases hon
    · cases hlast
  have hsane : s₀.Sane := by
    rw [← hs₀]
    refine ⟨⟨?_, rfl, ?_⟩, ?_, Core.blank_owned⟩
    · exact fun x hx => nomatch hx
    · exact fun e he => nomatch he
    · exact fun c hc => nomatch hc
  have hq : s₀.Quiet := quiet_of_regular hsane.regular
  have hdoes : Does env (Establishes env) s₀ (s₀.init env) := does_init.establishes
  have hkept : Kept s₀ (s₀.init env) := (hdoes.kept hsane hblank.branded hblank.asked).1
  have hheeds : Heeds s₀ (s₀.init env) := (Heeds.refl s₀).event hdoes
  exact ⟨hkept.branded hblank.branded, hblank.asked.heeds hkept hheeds,
    hblank.offered.mute ((discreet_init s₀).mute hq) hkept.owner⟩

theorem reachable_stocked (hs : system.Reachable s) : s.Stocked :=
  hs.invariant (fun _ hs => initial_stocked hs) fun _ _ _ hreach hstocked hstep =>
    hstocked.step hreach hstep

/-- If the net manager has been told last that a machine's network for a capability is available, the
holder of the capability's type owns the machine and is connecting, connected or disconnecting, and no
other machine offers the capability. -/
theorem offers_owned (hs : system.Reachable s) (h : s.latest (Effect.offer m cap) = some true) :
    (∃ t, findApnIdByCapability cap = some t ∧ (s.holder t).cellularDataStateMachine = some m ∧
      (s.holder t).apnState.isEngaged = true) ∧
      ∀ n, s.latest (Effect.offer n cap) = some true → n = m := by
  have hstocked : s.Stocked := reachable_stocked hs
  obtain ⟨t, howner, hcap⟩ := hstocked.offered.offers m cap h
  have hengaged : (s.holder t).apnState.isEngaged = true := by
    by_contra hnot
    rw [Bool.not_eq_true] at hnot
    have hnone := (((reachable_owned hs).linked t).of_not_engaged hnot).1
    have hsome : s.core.owner t = some m := howner
    rw [hnone] at hsome
    cases hsome
  refine ⟨⟨t, hcap, howner, hengaged⟩, fun n hn => ?_⟩
  obtain ⟨u, howner', hcap'⟩ := hstocked.offered.offers n cap hn
  obtain rfl := Option.some.inj (hcap.symm.trans hcap')
  exact Option.some.inj (howner'.symm.trans howner)

/-- The connection of the default network is up and on offer. -/
theorem offers_owned_connected : ∃ s, system.Reachable s ∧
    s.latest (Effect.offer 0 .internet) = some true ∧
    (∃ t, findApnIdByCapability .internet = some t ∧
      (s.holder t).cellularDataStateMachine = some 0 ∧ (s.holder t).apnState.isEngaged = true) ∧
      ∀ n, s.latest (Effect.offer n .internet) = some true → n = 0 := by
  obtain ⟨s, -, hs, hoffer⟩ := exists_run connectedLabels
    (p := fun s => s.latest (Effect.offer 0 .internet) = some true) (by decide +kernel)
  have hlast : s.latest (Effect.offer 0 .internet) = some true := of_decide_eq_true hoffer
  exact ⟨s, hs, hlast, offers_owned hs hlast⟩

end Slot
end CellularData
