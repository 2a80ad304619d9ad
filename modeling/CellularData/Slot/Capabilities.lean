import CellularData.Slot.Orderly
import CellularData.Slot.Requests
import CellularData.Slot.Wiring

/-! The capabilities for which the machines supply networks: those of the holders that own them. -/
namespace CellularData
open Lib StateMachine Relation

theorem findApnIdByCapability_injective {c c' : NetCap} {t : ApnType}
    (h : findApnIdByCapability c = some t) (h' : findApnIdByCapability c' = some t) : c = c' := by
  cases c <;> cases h <;> cases c' <;> first | rfl | cases h'

namespace Slot

variable {env : Env} {C : Slot → Slot → Prop} {s s' s'' : Slot} {t : ApnType} {m : MachineRef}
  {e : HandlerEvent} {l : Label}

/-- What the holders are asked for, what they own, and what the machines supply. -/
def goods (s : Slot) :=
  (fun t => ((s.holder t).capability, (s.holder t).cellularDataStateMachine), s.sells)

theorem goods_of_eq (hmanager : s'.apnManager = s.apnManager) (hdata : s'.machineData = s.machineData) :
    s'.goods = s.goods := by
  unfold goods holder sells
  rw [hmanager, hdata]

theorem goods_modifyHolder {f : ApnHolder → ApnHolder}
    (hcap : (f (s.holder t)).capability = (s.holder t).capability)
    (howner : (f (s.holder t)).cellularDataStateMachine = (s.holder t).cellularDataStateMachine) :
    (s.modifyHolder t f).goods = s.goods := by
  have hholders : (fun u => (((s.modifyHolder t f).holder u).capability,
      ((s.modifyHolder t f).holder u).cellularDataStateMachine)) =
        fun u => ((s.holder u).capability, (s.holder u).cellularDataStateMachine) := by
    funext u
    rw [holder_modifyHolder]
    split_ifs with hu
    · rw [hu, hcap, howner]
    · rfl
  exact congrArg (·, s.sells) hholders

theorem goods_setApnState (t : ApnType) (st : ApnProfileState) :
    (s.setApnState t st).goods = s.goods := by
  apply goods_modifyHolder
  · exact capability_setApnState _ st
  · unfold ApnHolder.setApnState
    split_ifs <;> rfl

theorem sells_callMachine {f : CellularDataStateMachine → CellularDataStateMachine}
    {x : CellularDataStateMachine} (hm : s.machine? m = some x) (n : MachineRef) :
    (s.callMachine m f).sells n = if n = m then some (f x).data.link.capability else s.sells n := by
  have hlt : m < s.stateMachines.length := (List.getElem?_eq_some_iff.mp hm).1
  rw [callMachine_of_some hm]
  unfold sells machineData
  dsimp only
  rw [List.map_set, List.getElem?_set, List.length_map]
  by_cases hmn : n = m
  · subst hmn
    simp [hlt, CellularDataStateMachine.clearOutbox, EventHandler.modifyData]
  · simp [hmn, Ne.symm hmn]

/-- The method keeps the capability of the machine. -/
theorem goods_callMachine {f : CellularDataStateMachine → CellularDataStateMachine}
    (hf : ∀ x, (f x).data.link.capability = x.data.link.capability) (m : MachineRef) :
    (s.callMachine m f).goods = s.goods := by
  cases hm : s.machine? m with
  | none => rw [callMachine_of_none hm]
  | some x =>
    have hsells : (s.callMachine m f).sells = s.sells := by
      funext n
      rw [sells_callMachine hm]
      split_ifs with hn
      · rw [hn, hf, sells_of_some hm]
      · rfl
    unfold goods holder
    rw [hsells, apnManager_callMachine]

theorem goods_postMachine (m : MachineRef) (e : MachineEvent) :
    (s.postMachine m e).goods = s.goods := goods_of_eq rfl (machineData_postMachine m e s)

theorem goods_publish (m : MachineRef) (info : SetupDataCallResultInfo)
    (menv : MachineEnv) :
    (s.callMachine m fun x => x.updateNetworkInfoFrom menv info).goods = s.goods := by
  refine goods_callMachine (fun x => ?_) m
  exact (CellularDataStateMachine.publishes_updateNetworkInfoFrom info).bound.capability

theorem goods_push (s : Slot) (t : ApnType) :
    (s.updateCellularDataConnectState t).goods = s.goods :=
  apply_updateCellularDataConnectState Slot.goods (fun _ _ => rfl) t

theorem Write.goods (h : Write env s s') : s'.goods = s.goods := by
  cases h with
  | other h =>
    have hmachines : s'.stateMachines = s.stateMachines := congrArg (·.2.2.2.2.1) h
    refine goods_of_eq (congrArg (·.2.2.1) h) ?_
    unfold machineData
    rw [hmachines]
  | push => exact goods_push s _
  | holder _ howner _ hcap _ => exact goods_modifyHolder hcap howner
  | machine hf => exact goods_callMachine (fun x => (hf x).bound.capability) _
  | reuse _ =>
    refine goods_callMachine (fun x => ?_) _
    unfold CellularDataStateMachine.setIfReuseSupplierId
    split_ifs <;> rfl
  | reload =>
    unfold applyApnReload
    split <;> rfl
  | setBad =>
    unfold setApnBadState
    split <;> rfl
  | lend =>
    unfold lendDataPermitted
    refine (apply_setDataPermittedForMms Slot.goods (fun _ _ _ => rfl) (fun _ _ _ => rfl) true).trans ?_
    split_ifs <;> rfl
  | giveBack =>
    exact apply_setDataPermittedForMms Slot.goods (fun _ _ _ => rfl) (fun _ _ _ => rfl) false
  | _ => rfl

theorem Writes.goods (h : Writes env s s') : s'.goods = s.goods :=
  h.invariant (P := fun s' => s'.goods = s.goods) (fun _ _ heq hw => hw.goods.trans heq) rfl

theorem goods_renewHolder (s : Slot) (t : ApnType) : (s.renewHolder t).goods = s.goods := by
  unfold renewHolder
  split_ifs
  · have hcount : (s.modifyHolder t fun h => h.initialApnRetryCount).goods = s.goods :=
      goods_modifyHolder rfl rfl
    exact (goods_setApnState t .idle).trans hcount
  · rfl

/-- Only a new connection changes what is owned or supplied. -/
theorem Op.goods (h : Op env C s s') : s'.goods = s.goods ∨ C s s' := by
  cases h with
  | write h => exact .inl h.goods
  | disconnect _ => exact .inl ((goods_postMachine _ _).trans (goods_setApnState _ _))
  | reset _ => exact .inl (goods_setApnState _ _)
  | @retry t id delay _ _ _ => exact .inl (goods_setApnState (s := s) t .retrying)
  | renew => exact .inl (apply_renewHolders Slot.goods goods_renewHolder s)
  | @tell e _ =>
    refine .inl (goods_of_eq rfl ?_)
    unfold machineData sendToMachines
    dsimp only
    rw [List.map_map]
    exact List.map_congr_left fun _ _ => rfl
  | search =>
    obtain ⟨d, c, heq⟩ := checkForCompatibleDataConnection_eq env s _
    rw [heq]
    exact .inl rfl
  | connect h => exact .inr h

/-! Connections within one event -/

/-- A holder that was enabled when the event began is connected. -/
def ConnectsEnabled (env : Env) (s a b : Slot) : Prop :=
  ∃ t, (s.holder t).dataCallEnabled = true ∧ Starts env t a b

theorem does_enabled_attempt (ht : (s.holder t).dataCallEnabled = true) :
    Does env (ConnectsEnabled env s) s' (s'.attemptEstablishDataConnection env t) := by
  rcases attemptEstablishDataConnection_cases env s' t with hw | ⟨-, hd⟩
  · exact hw.does
  · exact hd.bind fun _ _ hs => (Op.connect ⟨t, ht, hs⟩).does

theorem does_enabled_establishIfConnectable
    (ht : (s'.holder t).dataCallEnabled = true → (s.holder t).dataCallEnabled = true) :
    Does env (ConnectsEnabled env s) s' (s'.establishIfConnectable env t) := by
  unfold establishIfConnectable
  split_ifs with henabled
  · have hpush : Does env (ConnectsEnabled env s) s' (s'.updateCellularDataConnectState t) :=
      (writes_updateCellularDataConnectState t).does
    refine (hpush.trans ?_).trans (does_enabled_attempt (ht henabled))
    split
    · exact does_releaseDataConnection t
    · exact does_releaseDataConnection t
    · exact .refl _
  · exact .refl s'

theorem does_enabled_all (hh : Heeds s s') :
    Does env (ConnectsEnabled env s) s' (s'.establishAllApnsIfConnectable env) := by
  have hclear : Write env s' s'.clearAllApnBad := .clearBad
  have hfold (types : List ApnType) (a : Slot) (ha : Heeds s a ∧ Does env (ConnectsEnabled env s) s' a) :
      Heeds s (types.foldl (fun a t => a.establishIfConnectable env t) a) ∧
        Does env (ConnectsEnabled env s) s' (types.foldl (fun a t => a.establishIfConnectable env t) a) := by
    refine List.foldlRecOn types (motive := fun a => Heeds s a ∧ Does env (ConnectsEnabled env s) s' a) _ ha ?_
    rintro a ⟨hheeds, hdoes⟩ t -
    exact ⟨hheeds.establishIfConnectable t,
      hdoes.trans (does_enabled_establishIfConnectable (hheeds.enabled t))⟩
  exact (hfold _ s'.clearAllApnBad ⟨hh.write hclear, hclear.writes.does⟩).2

theorem Does.connectsEnabled (hd : Does env (Establishes env) s s') : Does env (ConnectsEnabled env s) s s' := by
  induction hd with
  | refl => exact .refl s
  | @tail a b hd hop ih =>
    have hh : Heeds s a := (Heeds.refl s).event hd
    apply ih.trans
    cases hop with
    | write h => exact (Op.write h).does
    | disconnect howner => exact (Op.disconnect howner).does
    | reset h => exact (Op.reset h).does
    | retry h hid henabled => exact (Op.retry h hid henabled).does
    | renew => exact Op.renew.does
    | tell he => exact (Op.tell he).does
    | search => exact Op.search.does
    | connect h =>
      cases h with
      | attempt h => exact does_enabled_attempt (hh.enabled _ h)
      | all => exact does_enabled_all hh

/-! Owned machines -/

/-- What holds between two operations of one event. -/
structure Sane (s : Slot) : Prop where
  regular : s.Regular
  wellFormed : s.core.WellFormed
  owned : s.core.Owned

theorem Sane.acts (h : s.Sane) (ha : Acts s s') : s'.Sane := by
  obtain ⟨hr, hacts⟩ := ha h.regular
  have hcore : s'.core.WellFormed ∧ s'.core.Owned :=
    reflTransGen_invariant (P := fun k => k.WellFormed ∧ k.Owned)
      (fun _ _ hk ha => ⟨hk.1.act ha, hk.2.act hk.1 ha⟩) hacts ⟨h.wellFormed, h.owned⟩
  exact ⟨hr, hcore.1, hcore.2⟩

/-- A machine that a holder owns supplies the capability of the holder's type. -/
def Branded (s : Slot) : Prop :=
  ∀ t m, (s.holder t).cellularDataStateMachine = some m →
    ∃ cap, s.sells m = some cap ∧ findApnIdByCapability cap = some t

/-- An enabled holder has been asked for the capability of its type. -/
def Asked (s : Slot) : Prop :=
  ∀ t, (s.holder t).dataCallEnabled = true → findApnIdByCapability (s.holder t).capability = some t

/-- The holders keep their capabilities and their machines. -/
structure Kept (s s' : Slot) : Prop where
  capability : ∀ t, (s'.holder t).capability = (s.holder t).capability
  owner : ∀ t m, (s.holder t).cellularDataStateMachine = some m →
    (s'.holder t).cellularDataStateMachine = some m
  branded : s.Branded → s'.Branded

theorem kept_of_goods (h : s'.goods = s.goods) : Kept s s' := by
  obtain ⟨hholders, hsells⟩ := Prod.mk.inj h
  have howner (t : ApnType) : (s'.holder t).cellularDataStateMachine =
      (s.holder t).cellularDataStateMachine := congrArg Prod.snd (congrFun hholders t)
  refine ⟨fun t => congrArg Prod.fst (congrFun hholders t), fun t m hm => (howner t).trans hm, ?_⟩
  intro hb t m hm
  rw [hsells]
  exact hb t m ((howner t).symm.trans hm)

theorem Kept.trans (h : Kept s s') (h' : Kept s' s'') : Kept s s'' :=
  ⟨fun t => (h'.capability t).trans (h.capability t), fun t m hm => h'.owner t m (h.owner t m hm),
    fun hb => h'.branded (h.branded hb)⟩

/-- The machine that a connection is given to, found or created, is nobody's. -/
theorem findOrCreate_free (hb : s.Branded) :
    (∃ x, s.findOrCreateCellularDataConnect.1.machine? s.findOrCreateCellularDataConnect.2 = some x) ∧
      (∀ u, (s.holder u).cellularDataStateMachine ≠ some s.findOrCreateCellularDataConnect.2) ∧
      ∀ n, n ≠ s.findOrCreateCellularDataConnect.2 →
        s.findOrCreateCellularDataConnect.1.sells n = s.sells n := by
  unfold findOrCreateCellularDataConnect
  cases hfind : s.findIdleCellularDataConnection with
  | some m =>
    obtain ⟨x, hx, -, hfree⟩ := findIdle_some hfind
    exact ⟨⟨x, hx⟩, hfree, fun _ _ => rfl⟩
  | none =>
    refine ⟨⟨CellularDataStateMachine.create, by simp [machine?]⟩, fun u hu => ?_, fun n hn => ?_⟩
    · obtain ⟨cap, hsells, -⟩ := hb u _ hu
      simp [sells, machineData] at hsells
    · have hne : @Ne Nat n s.stateMachines.length := hn
      unfold sells machineData
      dsimp only
      rw [List.map_append, List.getElem?_append, List.length_map]
      split_ifs with hlt
      · rfl
      · have hpast : s.stateMachines.length < n := by omega
        have hnone : (s.stateMachines.map (·.data))[n]? = none := by
          rw [List.getElem?_eq_none_iff, List.length_map]
          omega
        rw [hnone, List.getElem?_eq_none]
        exact Nat.sub_pos_of_lt hpast

theorem sells_startConnection {x : CellularDataStateMachine} (hm : s.machine? m = some x)
    (apnItem : ItemRef) (radioTech : RadioTech) (n : MachineRef) :
    (s.startConnection env t m apnItem radioTech).sells n =
      if n = m then some (s.holder t).capability else s.sells n := by
  have hcall := sells_callMachine (f := fun x => x.setCapability (s.holder t).capability) hm n
  unfold startConnection
  extract_lets s₁ s₂ s₃ s₄ s₅ s₆
  have hstart : (setApnActivateStart env s₆ t).sells = s₆.sells :=
    apply_setApnActivateStart Slot.sells (fun _ _ _ => rfl) t
  have hconnect : s₆.sells = s₅.sells := by
    have hdata : s₆.machineData = s₅.machineData := machineData_postMachine m _ s₅
    unfold sells
    rw [hdata]
  have hpush : s₅.sells = s₄.sells :=
    apply_updateCellularDataConnectState Slot.sells (fun _ _ => rfl) t
  rw [hstart, hconnect, hpush]
  exact hcall

/-- A connection is opened for a holder that has been asked for its capability. -/
theorem kept_starts (hs : s.Sane) (hb : s.Branded)
    (ht : findApnIdByCapability (s.holder t).capability = some t) (h : Starts env t s s') :
    Kept s s' := by
  cases h with
  | @start apnItem hidle hopen hsingle =>
    obtain ⟨⟨x, hx⟩, hfree, hothers⟩ := findOrCreate_free hb
    have hholder (u : ApnType) : s.findOrCreateCellularDataConnect.1.holder u = s.holder u :=
      holder_findOrCreateCellularDataConnect u
    generalize s.findOrCreateCellularDataConnect = r at hx hfree hothers hholder ⊢
    obtain ⟨s₁, m⟩ := r
    have hstarted (u : ApnType) := @holder_startConnection env s₁ u t m apnItem env.psRadioTech
    have hsold := @sells_startConnection env s₁ t m x hx apnItem env.psRadioTech
    dsimp only at hx hfree hothers hholder ⊢
    refine ⟨fun u => ?_, fun u n hu => ?_, fun _ u n hu => ?_⟩
    · rw [hstarted]
      split_ifs with hut
      · rw [hut, hholder]
      · rw [hholder]
    · have hne : u ≠ t := by
        rintro rfl
        have hnone := ((hs.owned.linked u).of_not_engaged (by
          change (s.holder u).apnState.isEngaged = false
          rw [hidle]
          rfl)).1
        exact absurd (hu.symm.trans hnone) (Option.some_ne_none n)
      rw [hstarted, if_neg hne, hholder]
      exact hu
    · rw [hstarted] at hu
      split_ifs at hu with hut
      · obtain rfl := Option.some.inj hu
        rw [hsold, if_pos rfl, hholder, hut]
        exact ⟨_, rfl, ht⟩
      · rw [hholder] at hu
        have hnm : n ≠ m := by
          rintro rfl
          exact hfree u hu
        rw [hsold, if_neg hnm, hothers n hnm]
        exact hb u n hu

theorem Does.kept (hd : Does env (Establishes env) s s') (hs : s.Sane) (hb : s.Branded)
    (ha : s.Asked) : Kept s s' ∧ s'.Sane := by
  refine hd.connectsEnabled.invariant (P := fun a => Kept s a ∧ a.Sane) ?_ ⟨kept_of_goods rfl, hs⟩
  rintro a b ⟨hk, hsane⟩ hop
  have hconnects : Does env (Connects env) a b :=
    hop.does.bind fun _ _ ⟨t, _, hstart⟩ => (Op.connect ⟨t, hstart⟩).does
  refine ⟨hk.trans ?_, hsane.acts hconnects.acts⟩
  rcases hop.goods with heq | ⟨t, ht, hstart⟩
  · exact kept_of_goods heq
  · refine kept_starts hsane (hk.branded hb) ?_ hstart
    rw [hk.capability]
    exact ha t ht

theorem Asked.heeds (ha : s.Asked) (hk : Kept s s') (hh : Heeds s s') : s'.Asked := by
  intro t ht
  rw [hk.capability]
  exact ha t (hh.enabled t ht)

/-! Events -/

theorem goods_dropResume :
    (if t = .mms then s.removeEvent isResumeDataPermittedTimeout else s).goods = s.goods := by
  split_ifs <;> rfl

theorem goods_handleDisconnectDataCompleteForMmsType :
    (s.handleDisconnectDataCompleteForMmsType env t).goods = s.goods := by
  unfold handleDisconnectDataCompleteForMmsType
  split_ifs
  · exact apply_setDataPermittedForMms Slot.goods (fun _ _ _ => rfl) (fun _ _ _ => rfl) false
  · rfl

/-- The completion of an attempt leaves the machine with its holder. -/
theorem goods_complete {info : SetupDataCallResultInfo} {s₁ s₂ s₃ : Slot}
    (h₁ : Writes env (s.completed env t info) s₁)
    (h₂ : Writes env (match (s.holder t).cellularDataStateMachine with
      | some _ => s₁
      | none => s₁.setApnState t .idle) s₂)
    (h₃ : Writes env (s₂.updateCellularDataConnectState t) s₃) : s₃.goods = s.goods := by
  have hcompleted : (s.completed env t info).goods = s.goods := goods_setApnState t .connected
  have hfirst : s₁.goods = s.goods := h₁.goods.trans hcompleted
  have hsecond : s₂.goods = s.goods := by
    refine h₂.goods.trans ?_
    split
    · exact hfirst
    · exact (goods_setApnState t .idle).trans hfirst
  exact h₃.goods.trans ((goods_push s₂ t).trans hsecond)

/-- A machine that is released is nobody's any more. -/
theorem releaseMachine_goods (info : SetupDataCallResultInfo) :
    (s.releaseMachine env t m info).sells = s.sells ∧ ∀ u,
      ((s.releaseMachine env t m info).holder u).capability = (s.holder u).capability ∧
      ((s.releaseMachine env t m info).holder u).cellularDataStateMachine =
        if u = t then none else (s.holder u).cellularDataStateMachine := by
  unfold releaseMachine
  extract_lets menv s₁ s₂ s₃
  have h₂ : s₂.goods = s.goods := by
    have hpublished : s₁.goods = s.goods := goods_publish m info menv
    refine Eq.trans ?_ hpublished
    dsimp only [s₂]
    split <;> rfl
  obtain ⟨hholders, hsells⟩ := Prod.mk.inj h₂
  obtain ⟨hidle, hsells'⟩ := Prod.mk.inj (goods_setApnState (s := s₃) t .idle)
  refine ⟨hsells'.trans hsells, fun u => ?_⟩
  have hu := congrFun hholders u
  have hu' := congrFun hidle u
  have hcapability : (s₂.holder u).capability = (s.holder u).capability := congrArg Prod.fst hu
  have howner : (s₂.holder u).cellularDataStateMachine = (s.holder u).cellularDataStateMachine :=
    congrArg Prod.snd hu
  have hreleased : (s₃.holder u).capability = (s₂.holder u).capability ∧
      (s₃.holder u).cellularDataStateMachine =
        if u = t then none else (s₂.holder u).cellularDataStateMachine := by
    dsimp only [s₃]
    rw [holder_modifyHolder]
    split_ifs with hut
    · exact ⟨by rw [hut], rfl⟩
    · exact ⟨rfl, rfl⟩
  constructor
  · exact (congrArg Prod.fst hu').trans (hreleased.1.trans hcapability)
  · rw [← howner, ← hreleased.2]
    exact congrArg Prod.snd hu'

theorem sane_release {info : SetupDataCallResultInfo} {q : EventQueue HandlerEvent} (hs : s.Sane)
    (hnext : s.queue.next = some (.disconnectDataComplete info, q))
    (ht : ApnType.ofId info.flag = some t) (hm : (s.holder t).cellularDataStateMachine = some m) :
    ((releaseMachine env { s with queue := q } t m info).updateCellularDataConnectState t).Sane := by
  obtain ⟨hready, hr⟩ := next_ready hs.regular hnext
  obtain ⟨hnotices, hcore⟩ := core_takeNotice hready rfl
  obtain ⟨hregular, hreleased⟩ := releaseMachine_spec env { s with queue := q } t m info
  have hpush : Hidden (releaseMachine env { s with queue := q } t m info)
      ((releaseMachine env { s with queue := q } t m info).updateCellularDataConnectState t) :=
    hidden_updateCellularDataConnectState _
  have howner : s.core.owner t = some m := hm
  have hfinish : ((releaseMachine env { s with queue := q } t m info).updateCellularDataConnectState
      t).core = Core.finish { s.core with notices := q.ready.filter HandlerEvent.isNotice } info := by
    rw [hpush.core, hreleased, hcore]
    simp only [Core.finish, ht, howner]
  have htrigger := Core.Trigger.finish hnotices
  refine ⟨hpush.regular (hregular hr), ?_, ?_⟩
  · rw [hfinish]
    exact hs.wellFormed.trigger htrigger
  · rw [hfinish]
    exact hs.owned.trigger hs.wellFormed htrigger

/-- What an event leaves: only the end of a connection takes a machine away from its holder. -/
structure Passes (e : HandlerEvent) (s s' : Slot) : Prop where
  branded : s'.Branded
  asked : s'.Asked
  owner : ∀ t m, (s.holder t).cellularDataStateMachine = some m →
    (s'.holder t).cellularDataStateMachine = some m ∨
      ∃ info, e = .disconnectDataComplete info ∧ ApnType.ofId info.flag = some t

theorem Kept.passes (hk : Kept s s') (hh : Heeds s s') (hb : s.Branded) (ha : s.Asked) :
    Passes e s s' :=
  ⟨hk.branded hb, ha.heeds hk hh, fun t m hm => .inl (hk.owner t m hm)⟩

theorem passes_request {request : NetRequest} (hb : s.Branded) (ha : s.Asked)
    (ht : findApnIdByCapability request.capability = some t)
    (hw : Writes env (s.modifyHolder t fun h => h.requestCellularData request.capability) s') :
    Passes e s s' := by
  obtain ⟨hholders, hsells⟩ := Prod.mk.inj hw.goods
  have howner (u : ApnType) : (s'.holder u).cellularDataStateMachine =
      (s.holder u).cellularDataStateMachine := by
    refine (congrArg Prod.snd (congrFun hholders u)).trans ?_
    dsimp only
    rw [holder_modifyHolder]
    split_ifs with hu
    · rw [hu]
      rfl
    · rfl
  have hcapability (u : ApnType) : (s'.holder u).capability =
      if u = t then request.capability else (s.holder u).capability := by
    refine (congrArg Prod.fst (congrFun hholders u)).trans ?_
    dsimp only
    rw [holder_modifyHolder]
    split_ifs <;> rfl
  refine ⟨fun u n hn => ?_, fun u hu => ?_, fun u n hn => .inl ((howner u).trans hn)⟩
  · rw [hsells]
    exact hb u n ((howner u).symm.trans hn)
  · rw [hcapability]
    split_ifs with hut
    · rw [hut]
      exact ht
    · rcases (request_asks hw).2 u hu with heq | hbefore
      · exact absurd heq.symm hut
      · exact ha u hbefore

theorem passes_finish {info : SetupDataCallResultInfo} {q : EventQueue HandlerEvent} {s₁ : Slot}
    (hs : s.Sane) (hb : s.Branded) (ha : s.Asked)
    (hnext : s.queue.next = some (.disconnectDataComplete info, q))
    (ht : ApnType.ofId info.flag = some t) (hm : (s.holder t).cellularDataStateMachine = some m)
    (hd : Does env (Establishes env)
      ((releaseMachine env { s with queue := q } t m info).updateCellularDataConnectState t) s₁)
    (hheeds : Heeds { s with queue := q } (s₁.handleDisconnectDataCompleteForMmsType env t)) :
    Passes (.disconnectDataComplete info) { s with queue := q }
      (s₁.handleDisconnectDataCompleteForMmsType env t) := by
  have hsane : ((releaseMachine env { s with queue := q } t m info).updateCellularDataConnectState
      t).Sane := sane_release hs hnext ht hm
  generalize hr : (releaseMachine env { s with queue := q } t m info).updateCellularDataConnectState t
    = r at hd hsane
  have hpush : r.goods = (releaseMachine env { s with queue := q } t m info).goods := by
    rw [← hr]
    exact goods_push _ t
  obtain ⟨hsells, hreleased⟩ := @releaseMachine_goods env { s with queue := q } t m info
  obtain ⟨hholders, hsells'⟩ := Prod.mk.inj hpush
  have hcapability (u : ApnType) : (r.holder u).capability = (s.holder u).capability :=
    (congrArg Prod.fst (congrFun hholders u)).trans (hreleased u).1
  have howner (u : ApnType) : (r.holder u).cellularDataStateMachine =
      if u = t then none else (s.holder u).cellularDataStateMachine :=
    (congrArg Prod.snd (congrFun hholders u)).trans (hreleased u).2
  have hbranded : r.Branded := by
    intro u n hn
    rw [howner] at hn
    split_ifs at hn
    rw [hsells', hsells]
    exact hb u n hn
  have hasked : r.Asked := by
    intro u hu
    have hr' : Heeds { s with queue := q } r := hr ▸ (Heeds.refl _).releaseMachine.push t
    rw [hcapability]
    exact ha u (hr'.enabled u hu)
  obtain ⟨hkept, -⟩ := hd.kept hsane hbranded hasked
  have hmms : Kept s₁ (s₁.handleDisconnectDataCompleteForMmsType env t) :=
    kept_of_goods goods_handleDisconnectDataCompleteForMmsType
  have hall := hkept.trans hmms
  refine ⟨hall.branded hbranded, fun u hu => ?_, fun u n hn => ?_⟩
  · rw [hall.capability, hcapability]
    exact ha u (hheeds.enabled u hu)
  by_cases hut : u = t
  · subst hut
    exact .inr ⟨info, rfl, ht⟩
  · exact .inl (hall.owner u n ((howner u).trans ((if_neg hut).trans hn)))

theorem take_passes {q : EventQueue HandlerEvent} (hs : s.Sane) (hb : s.Branded) (ha : s.Asked)
    (hnext : s.queue.next = some (e, q)) :
    Passes e { s with queue := q } (processEvent env { s with queue := q } e) := by
  obtain ⟨hready, hr⟩ := next_ready hs.regular hnext
  have hbq : Branded { s with queue := q } := hb
  have haq : Asked { s with queue := q } := ha
  by_cases hasked : ∃ request t, e = .requestNetwork request true ∧
      findApnIdByCapability request.capability = some t
  · obtain ⟨request, t, rfl, ht⟩ := hasked
    rcases msgRequestNetwork_cases env (s := { s with queue := q }) request with ⟨hnone, -⟩ | h
    · rw [ht] at hnone
      cases hnone
    · obtain ⟨t', ht', hw⟩ := h
      obtain rfl := Option.some.inj (ht.symm.trans ht')
      have hpasses : Passes (.requestNetwork request true) { s with queue := q }
          (msgRequestNetwork { s with queue := q } request true) := passes_request hbq haq ht hw
      exact hpasses
  · have htakes := processEvent_takes env { s with queue := q } e
    have hheeds : Heeds { s with queue := q } (processEvent env { s with queue := q } e) := by
      refine (Heeds.refl _).takes htakes fun request heq => ?_
      by_contra hknown
      obtain ⟨t, ht⟩ := Option.ne_none_iff_exists'.mp hknown
      exact hasked ⟨request, t, heq, ht⟩
    generalize processEvent env { s with queue := q } e = s' at htakes hheeds ⊢
    cases htakes with
    | event he hd =>
      have hcore := core_take hready he
      have hsane : Sane { s with queue := q } := ⟨hr, hcore ▸ hs.wellFormed, hcore ▸ hs.owned⟩
      exact (hd.kept hsane hbq haq).1.passes hheeds hbq haq
    | @request request t _ ht _ => exact absurd ⟨request, t, rfl, ht⟩ hasked
    | @noCompletion info _ =>
      have hgoods : (setApnActivateEnd env { s with queue := q } info).goods =
          Slot.goods { s with queue := q } := rfl
      exact (kept_of_goods hgoods).passes hheeds hbq haq
    | @complete info t s₁ s₂ s₃ ht h₁ h₂ h₃ =>
      exact (kept_of_goods (goods_dropResume.trans (goods_complete h₁ h₂ h₃))).passes hheeds hbq haq
    | noEnd _ => exact (kept_of_goods rfl).passes hheeds hbq haq
    | @endWithoutMachine info t _ _ =>
      exact (kept_of_goods (goods_setApnState t .idle)).passes hheeds hbq haq
    | finish ht hm hd => exact passes_finish hs hb ha hnext ht hm hd hheeds
    | update hw => exact (kept_of_goods hw.goods).passes hheeds hbq haq

end Slot
end CellularData
