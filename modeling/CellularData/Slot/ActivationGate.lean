import CellularData.Slot.Invariant
import CellularData.Machine.Attempt

/-! The activation gate in every reachable state: every request to a machine is on record, and the
record shows what the gate would have read when the request was posted. -/
namespace CellularData
open Lib StateMachine Relation

namespace Core

variable {k k' : Core} {cue : Cue} {P P' : MachineRef → DataConnectionParams → Prop}

def GateKept (k : Core) : Prop := ∀ r ∈ k.connectLog, r.Gate ↔ ¬ r.RoamingReadOff

/-- Every request on its way to a machine has the property. -/
def Requested (k : Core) (P : MachineRef → DataConnectionParams → Prop) : Prop :=
  ∀ m c, k.controls[m]? = some c → ∀ params, .connect params ∈ c.events → P m params

/-- A request on its way to a machine has been recorded. -/
def Recorded (k : Core) : Prop :=
  k.Requested fun m params => ∃ r ∈ k.connectLog, r.apnType = params.apnHolder ∧ r.machine = m

theorem connectLog_receive (k : Core) (m : MachineRef) (os : List MachineOutput) :
    (os.foldl (fun k o => k.receive m o) k).connectLog = k.connectLog := by
  induction os generalizing k with
  | nil => rfl
  | cons o os ih =>
    refine (ih _).trans ?_
    cases o <;> rfl

theorem connectLog_logMachineEvent (k : Core) (m : MachineRef) (c : Control) (e : MachineEvent) :
    (k.logMachineEvent m c e).connectLog = k.connectLog := by
  cases e with
  | setupDataCall answer =>
    cases answer with
    | resultInfo info =>
      simp only [logMachineEvent]
      split_ifs <;> rfl
    | rilInfo info => rfl
    | empty => rfl
  | rilAdapterHostDied info =>
    simp only [logMachineEvent]
    split_ifs <;> rfl
  | _ => rfl

/-- No trigger posts a request. -/
theorem Trigger.connectLog (ht : Trigger cue k k') : k'.connectLog = k.connectLog := by
  cases ht with
  | complete hnotices =>
    unfold Core.complete
    split
    · rfl
    · split <;> rfl
  | finish hnotices =>
    unfold Core.finish
    split
    · rfl
    · split
      · rfl
      · unfold unregister
        dsimp only [setState, setOwner]
        split <;> rfl
  | dispatch hm hnext ht =>
    exact (connectLog_receive _ _ _).trans (connectLog_logMachineEvent _ _ _ _)
  | @report k dcList =>
    refine report_invariant (P := fun k₁ => k₁.connectLog = k.connectLog) (fun k₁ info _ hk => ?_)
      (fun k₁ m _ hk => ?_) (fun _ _ hk => hk) rfl
    · exact relayDataCall_invariant (P := fun k₁ => k₁.connectLog = k.connectLog) hk fun _ => hk
    · exact loseConnection_invariant (P := fun k₁ => k₁.connectLog = k.connectLog) hk
        (fun _ => hk) dcList
  | @capability k up down =>
    have hpost : ∀ (k₁ : Core) (m : MachineRef), k₁.connectLog = k.connectLog →
        (k₁.post m (.linkCapabilityChanged up down)).connectLog = k.connectLog := fun _ _ hk => hk
    exact foldl_invariant (P := fun k₁ => k₁.connectLog = k.connectLog) hpost _ rfl
  | _ => rfl

theorem GateKept.act (h : k.GateKept) (ha : Act k k') : k'.GateKept := by
  cases ha with
  | connect hidle hm hinactive hfree hparams hrecord =>
    intro r hr
    rcases List.mem_cons.mp hr with rfl | hr
    · exact hrecord.gate
    · exact h r hr
  | create hidle hbusy hparams hrecord =>
    intro r hr
    rcases List.mem_cons.mp hr with rfl | hr
    · exact hrecord.gate
    · exact h r hr
  | _ => exact h

theorem Requested.mono (h : k.Requested P) (hP : ∀ m params, P m params → P' m params) :
    k.Requested P' := fun m c hm params hmem => hP m params (h m c hm params hmem)

theorem Requested.congr (h : k.Requested P) (hcontrols : k'.controls = k.controls) :
    k'.Requested P := fun m c hm params hmem => h m c (hcontrols ▸ hm) params hmem

/-- An event is posted; if it is a request it has the property too. -/
theorem Requested.post (h : k.Requested P) (m : MachineRef) {e : MachineEvent}
    (he : ∀ params, e = .connect params → P m params) : (k.post m e).Requested P := by
  intro n c hn params hmem
  have hn' : (k.controls.modify m fun c => c.post e)[n]? = some c := hn
  rw [List.getElem?_modify] at hn'
  obtain ⟨c₀, hc₀, rfl⟩ := Option.map_eq_some_iff.mp hn'
  have hold : .connect params ∈ c₀.events → P n params := h n c₀ hc₀ params
  split_ifs at hmem with hmn
  · rcases Control.mem_events_post.mp hmem with hmem | heq
    · exact hold hmem
    · exact hmn ▸ he params heq.symm
  · exact hold hmem

theorem Requested.set (h : k.Requested P) {m : MachineRef} {c c' : Control}
    (hm : k.controls[m]? = some c)
    (hc : ∀ params, .connect params ∈ c'.events → .connect params ∈ c.events) :
    Requested { k with controls := k.controls.set m c' } P := by
  intro n x hn params hmem
  by_cases hmn : m = n
  · subst hmn
    have hn' : (k.controls.set m c')[m]? = some x := hn
    rw [List.getElem?_set_self (List.getElem?_eq_some_iff.mp hm).1] at hn'
    obtain rfl := Option.some.inj hn'
    exact h m c hm params (hc params hmem)
  · have hn' : (k.controls.set m c')[n]? = some x := hn
    rw [List.getElem?_set_ne hmn] at hn'
    exact h n x hn' params hmem

/-- A machine that is created has no request. -/
theorem Requested.create (h : k.Requested P) :
    Requested { k with controls := k.controls ++ [CellularDataStateMachine.create.control] } P := by
  intro n c hn params hmem
  have hn' : (k.controls ++ [CellularDataStateMachine.create.control])[n]? = some c := hn
  rw [List.getElem?_append] at hn'
  split_ifs at hn' with hlt
  · exact h n c hn' params hmem
  · have hc := List.mem_singleton.mp (List.mem_of_getElem? hn')
    rw [hc] at hmem
    cases List.mem_singleton.mp hmem

/-- A request and its record. -/
theorem Requested.connect (h : k.Requested P) {t : ApnType} {m : MachineRef}
    {params : DataConnectionParams} (record : ConnectRecord) (hnew : P m params) :
    (k.connect t m params record).Requested P := by
  have hpost : (((k.setState t .connecting).setOwner t (some m)).post m
      (.connect params)).Requested P := by
    refine Requested.post (k := (k.setState t .connecting).setOwner t (some m)) h m ?_
    intro params' heq
    obtain rfl := MachineEvent.connect.inj heq
    exact hnew
  exact hpost

theorem isConnect_of_isExternal {e : MachineEvent} (he : e.isExternal = true) :
    e.isConnect = false := by
  cases e <;> first | rfl | cases he

theorem not_isTimer_connect {params : DataConnectionParams} :
    ¬ MachineEvent.isTimer (.connect params) = true := Bool.false_ne_true

theorem Requested.tell (h : k.Requested P) {e : MachineEvent} (he : e.isNews = true) :
    Requested { k with controls := k.controls.map fun c => c.post e } P := by
  intro n c hn params hmem
  dsimp only at hn
  rw [List.getElem?_map] at hn
  obtain ⟨c₀, hc₀, rfl⟩ := Option.map_eq_some_iff.mp hn
  rcases Control.mem_events_post.mp hmem with hmem | rfl
  · exact h n c₀ hc₀ params hmem
  · cases he

/-- No trigger makes a request. -/
theorem Requested.trigger (h : k.Requested P) (ht : Trigger cue k k') : k'.Requested P := by
  have hpost : ∀ {k : Core} (m : MachineRef) {e : MachineEvent}, e.isConnect = false →
      k.Requested P → (k.post m e).Requested P := by
    intro k m e he hk
    refine hk.post m fun params heq => ?_
    rw [heq] at he
    cases he
  cases ht with
  | skip hcue => exact h
  | complete hnotices => exact h.congr (controls_complete _ _)
  | finish hnotices => exact h.congr (controls_finish _ _)
  | update hnotices => exact h
  | answer he => exact hpost _ (isConnect_of_isExternal he) h
  | dispatch hm hnext ht =>
    refine Requested.congr (h.set hm fun params hmem => ?_) (controls_foldl_receive _ _ _)
    exact (Control.mem_events_dispatch hnext ht hmem).resolve_right not_isTimer_connect
  | fire hm hq => exact h.set hm fun params hmem => (Control.mem_events_fire hq).mp hmem
  | @rearm k m =>
    intro n c hn params hmem
    have hn' : (k.controls.modify m Control.rearm)[n]? = some c := hn
    rw [List.getElem?_modify] at hn'
    obtain ⟨c₀, hc₀, rfl⟩ := Option.map_eq_some_iff.mp hn'
    refine h n c₀ hc₀ params ?_
    split_ifs at hmem with hmn
    · exact (Control.mem_events_rearm hmem).resolve_right not_isTimer_connect
    · exact hmem
  | report =>
    refine report_invariant (P := fun k => k.Requested P) (fun k info _ hk => ?_)
      (fun k m _ hk => ?_) (fun _ _ hk => hk) h
    · exact hk.congr (controls_relayDataCall k info)
    · exact loseConnection_invariant (P := fun k => k.Requested P) hk (fun _ => hpost _ rfl hk) _
  | capability => exact foldl_invariant (P := fun k => k.Requested P) (fun k m hk => hpost m rfl hk) _ h

theorem Recorded.act (h : k.Recorded) (ha : Act k k') : k'.Recorded := by
  cases ha with
  | @disconnect t m params howner =>
    exact Requested.post (k := k.setState t .disconnecting) h m fun _ heq => nomatch heq
  | reset hstate => exact h
  | retry hstate => exact h
  | connect hidle hm hinactive hfree hparams hrecord =>
    refine Requested.connect (h.mono ?_) _ ⟨_, List.mem_cons_self,
      hrecord.apnType.trans hparams.apnHolder.symm, hrecord.machine⟩
    rintro m params ⟨r, hr, hrec⟩
    exact ⟨r, List.mem_cons_of_mem _ hr, hrec⟩
  | create hidle hbusy hparams hrecord =>
    refine Requested.connect (Requested.create (h.mono ?_)) _ ⟨_, List.mem_cons_self,
      hrecord.apnType.trans hparams.apnHolder.symm, hrecord.machine⟩
    rintro m params ⟨r, hr, hrec⟩
    exact ⟨r, List.mem_cons_of_mem _ hr, hrec⟩
  | tell he => exact Requested.tell h he

theorem Recorded.trigger (h : k.Recorded) (ht : Trigger cue k k') : k'.Recorded := by
  unfold Recorded
  rw [ht.connectLog]
  exact Requested.trigger h ht

end Core

namespace Slot

variable {s : Slot} {r : ConnectRecord}

/-- No request reaches a machine without a record. -/
theorem reachable_recorded (h : system.Reachable s) {m : MachineRef} {x : CellularDataStateMachine}
    (hm : s.machine? m = some x) {params : DataConnectionParams}
    (hmem : .connect params ∈ x.queue.pending ∨ .connect params ∈ x.deferEvents) :
    ∃ r ∈ s.connectLog, r.apnType = params.apnHolder ∧ r.machine = m := by
  have hrecorded : s.core.Recorded :=
    core_invariant h (fun _ _ hc => nomatch hc) (fun _ _ _ hp ha => hp.act ha)
      fun _ _ _ _ _ hp _ ht => hp.trigger ht
  have hc : s.core.controls[m]? = some x.control := by
    rw [controls_getElem?, hm, Option.map_some]
  exact hrecorded m x.control hc params (Control.mem_events_iff.mpr hmem)

/-- A request has passed the gate exactly when the roaming switch was not read again as off. -/
theorem gate_iff (h : system.Reachable s) (hr : r ∈ s.connectLog) :
    r.Gate ↔ ¬ r.RoamingReadOff := by
  have hkept : s.core.GateKept :=
    core_invariant h (fun _ hr => nomatch hr) (fun _ _ _ hp ha => hp.act ha)
      fun _ _ _ _ _ hp _ ht r hr => hp r (ht.connectLog ▸ hr)
  exact hkept r hr

/-! A request made while roaming -/

/-- The settings store answers that data roaming is on or off. -/
def storeEnv (psRoamingState roaming : Int) : Env :=
  { serviceEnv with
    psRoamingState
    getValue := fun key =>
      match key with
      | .dataRoaming _ => (.success, some roaming)
      | _ => (.databaseReadEmpty, none) }

/-- Data roaming is switched on and loaded; then the slot is roaming and the store reads `roaming`
when a network for MMS is requested. -/
def roamingLabels (roaming : Int) : List Label :=
  [.postHandler (.sim .recordsLoaded 0), .dispatchHandler (storeEnv 0 1),
    .call (storeEnv 1 roaming) (.requestNet true [.mms] (.other 0)),
    .dispatchHandler (storeEnv 1 roaming), .dispatchHandler (storeEnv 1 roaming)]

theorem gate_roaming : ∃ s r, system.run (roamingLabels 1) start = some s ∧ r ∈ s.connectLog ∧
    r.apnType = .mms ∧ r.psRoamingState = 1 ∧ r.Gate := by
  obtain ⟨s, hrun, hs, hp⟩ := exists_run (roamingLabels 1)
    (p := fun s => s.connectLog.any fun r =>
      r.apnType = .mms ∧ r.psRoamingState = 1 ∧ r.storedDataRoaming = some true) (by decide +kernel)
  obtain ⟨r, hr, hrec⟩ := List.any_eq_true.mp hp
  obtain ⟨htype, hroaming, hstored⟩ := of_decide_eq_true hrec
  refine ⟨s, r, hrun, hr, htype, hroaming, (gate_iff hs hr).mpr ?_⟩
  rintro ⟨-, -, -, hoff⟩
  cases hstored.symm.trans hoff

/-- The search for a compatible machine reads the switch as off, and the request is still posted. -/
theorem request_after_roaming_off : ∃ s r, system.run (roamingLabels 0) start = some s ∧
    r ∈ s.connectLog ∧ r.psRoamingState = 1 ∧ r.switches.userDataRoaming = false ∧
      s.crash = none ∧ (s.machine? 0).any (fun x => x.queue.ready.length = 1) = true ∧
      ¬ r.Gate := by
  obtain ⟨s, hrun, -, hp⟩ := exists_run (roamingLabels 0)
    (p := fun s => s.crash = none ∧ (s.machine? 0).any (fun x => x.queue.ready.length = 1) ∧
      s.connectLog.any fun r => r.psRoamingState = 1 ∧ r.switches.userDataRoaming = false)
    (by decide +kernel)
  obtain ⟨hcrash, hposted, hlog⟩ := of_decide_eq_true hp
  obtain ⟨r, hr, hrec⟩ := List.any_eq_true.mp hlog
  obtain ⟨hroaming, hoff⟩ := of_decide_eq_true hrec
  refine ⟨s, r, hrun, hr, hroaming, hoff, hcrash, hposted, fun hgate => hgate.roaming ⟨?_, hoff⟩⟩
  rw [hroaming]
  decide

end Slot
end CellularData
