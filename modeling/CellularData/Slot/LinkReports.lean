import CellularData.Slot.Obligations
import CellularData.Slot.Registry
import CellularData.Slot.Teardown

/-! Reports about data calls on their way to the handler: which call they are about when they are
applied. -/
namespace CellularData
open Lib StateMachine Relation

namespace Core

variable {k k' : Core} {cue : Cue} {t : ApnType} {m : MachineRef} {c c' : Control}

/-- A report that waits is about the call of its holder's machine, and it comes before the report of
the end of that call. -/
structure Relayed (k : Core) : Prop where
  call : ∀ info, .dataCallListChanged info ∈ k.notices → ∃ t m c, info.flag = ApnType.id t ∧
    k.owner t = some m ∧ k.controls[m]? = some c ∧ c.cid = info.cid ∧
    (c.InCall ∨ c.attempt = none)
  order : k.notices.Pairwise fun a b =>
    ∀ info, b = .dataCallListChanged info → a.isEnd info.flag = false

/-- Registered machines of the reported cids have a call. -/
def InService (k : Core) (dcList : List SetupDataCallResultInfo) : Prop :=
  ∀ info ∈ dcList, ∀ m c, k.registered info.cid = some m → k.controls[m]? = some c → c.InCall

theorem Relayed.still (h : k.Relayed) (howner : k'.owner = k.owner)
    (hnotices : k'.notices <:+ k.notices)
    (hcontrols : ∀ {m : MachineRef} {c : Control}, k.controls[m]? = some c →
      ∃ c', k'.controls[m]? = some c' ∧ c'.state = c.state ∧ c'.cid = c.cid ∧
        c'.attempt = c.attempt) : k'.Relayed where
  call info hmem := by
    obtain ⟨t, m, c, hflag, hown, hm, hcid, hcall⟩ := h.call info (hnotices.subset hmem)
    obtain ⟨c', hm', hstate', hcid', ha'⟩ := hcontrols hm
    exact ⟨t, m, c', hflag, howner ▸ hown, hm', hcid'.trans hcid,
      hcall.imp (fun h => h.congr hstate') fun h => ha'.trans h⟩
  order := h.order.sublist hnotices.sublist

theorem Relayed.calm (h : k.Relayed) (hc : Calm k k') : k'.Relayed :=
  h.still hc.owner hc.notices fun hm => by
    obtain ⟨c', hm', hk⟩ := hc.controls hm
    exact ⟨c', hm', hk.state, hk.cid, hk.attempt⟩

theorem Relayed.engages (h : k.Relayed) (he : Engages k k' t m) : k'.Relayed where
  call info hmem := by
    obtain ⟨u, n, c, hflag, hown, hn, hcall⟩ := h.call info (he.notices ▸ hmem)
    have hu : u ≠ t := by
      rintro rfl
      simp [he.vacant] at hown
    have hne : n ≠ m := by
      rintro rfl
      exact he.free u hown
    exact ⟨u, n, c, hflag, (he.owner u hu).trans hown, (he.others n hne).trans hn, hcall⟩
  order := he.notices ▸ h.order

theorem Relayed.releases (h : k.Relayed) {info : SetupDataCallResultInfo}
    (hr : Releases k k' info t m c) : k'.Relayed := by
  have horder := h.order
  rw [hr.notices, List.pairwise_cons] at horder
  refine ⟨fun info' hmem => ?_, horder.2⟩
  obtain ⟨u, n, x, hflag, hown, hn, hcall⟩ :=
    h.call info' (hr.notices ▸ List.mem_cons_of_mem _ hmem)
  have hu : u ≠ t := by
    rintro rfl
    have hend := horder.1 _ hmem info' rfl
    simp [HandlerEvent.isEnd, hr.flag, hflag] at hend
  refine ⟨u, n, x, hflag, ?_, hr.controls ▸ hn, hcall⟩
  rw [hr.owner, if_neg hu, hown]

theorem Relayed.dispatch (h : k.Relayed) (hw : k.WellFormed) (ho : k.Owned) {env : MachineEnv}
    {e : MachineEvent} {q : EventQueue MachineEvent} {os : List MachineOutput}
    (hm : k.controls[m]? = some c) (hnext : c.queue.next = some (e, q))
    (ht : Control.Transition env { c with queue := q } e c' os) :
    Relayed (os.foldl (fun k o => k.receive m o)
      { k.logMachineEvent m c e with controls := k.controls.set m c' }) := by
  have hmem := List.mem_of_getElem? hm
  have hs := (ho.sound c hmem).single
  obtain ⟨-, hp⟩ := hs.transition (hw c hmem) hnext ht
  obtain ⟨k', heq, -, howner, hcontrols, hnotices⟩ := dispatch_frame k m c c' e os
  rw [← heq]
  have hquiet : ∀ info, .dataCallListChanged info ∉ os.filterMap MachineOutput.notice := by
    intro info hx
    obtain ⟨o, -, ho⟩ := List.mem_filterMap.mp hx
    cases o <;> cases ho
  have hcall : c.InCall ∨ c.attempt = none →
      c'.cid = c.cid ∧ (c'.InCall ∨ c'.attempt = none) := by
    rintro (hin | ha)
    · obtain ⟨hcid, -, hin'⟩ := ht.inCall hin
      refine ⟨hcid, hin'.imp_right ?_⟩
      rintro ⟨info, rfl⟩
      cases hp with
      | keep _ _ _ _ hno => exact absurd (List.mem_singleton_self _) (hno info)
      | complete _ _ hos => cases hos
      | finish _ ha => exact ha
    · obtain ⟨hcid, -, ha', -⟩ := hs.transition_none (hw c hmem) hnext ht ha
      exact ⟨hcid, .inr ha'⟩
  refine ⟨fun info hx => ?_, ?_⟩
  · rw [hnotices] at hx
    obtain ⟨t, n, x, hflag, hown, hn, hcid, hin⟩ :=
      h.call info ((List.mem_append.mp hx).resolve_right (hquiet info))
    rw [howner, hcontrols]
    by_cases hne : n = m
    · subst hne
      obtain rfl := Option.some.inj (hm.symm.trans hn)
      obtain ⟨hcid', hin'⟩ := hcall hin
      exact ⟨t, n, c', hflag, hown, List.getElem?_set_self (List.getElem?_eq_some_iff.mp hm).1,
        hcid'.trans hcid, hin'⟩
    · exact ⟨t, n, x, hflag, hown, getElem?_set_other hne hn, hcid, hin⟩
  · rw [hnotices]
    refine List.pairwise_append.mpr ⟨h.order, List.pairwise_of_forall_mem_list ?_, ?_⟩
    · rintro a - b hb info rfl
      exact absurd hb (hquiet info)
    · rintro a - b hb info rfl
      exact absurd hb (hquiet info)

/-- What the report of the data calls keeps until all of it has been worked off. -/
structure Reporting (k k' : Core) : Prop where
  owner : k'.owner = k.owner
  registry : k'.registry = k.registry
  ends : ∀ t, k'.ends t = k.ends t
  controls : ∀ {m : MachineRef} {c' : Control}, k'.controls[m]? = some c' →
    ∃ c, k.controls[m]? = some c ∧ c'.state = c.state ∧ c'.cid = c.cid ∧ c'.apnId = c.apnId

theorem Relayed.relay (h : k'.Relayed) (hk : Reporting k k') (ho : k.Owned) (hreg : k.Registered)
    {dcList : List SetupDataCallResultInfo} (hin : k.InService dcList)
    {info : SetupDataCallResultInfo} (hinfo : info ∈ dcList) :
    Reporting k (k'.relayDataCall info) ∧ (k'.relayDataCall info).Relayed := by
  unfold relayDataCall
  split
  · rename_i c' hc'
    obtain ⟨m, hregistered, hm'⟩ := Option.bind_eq_some_iff.mp hc'
    have hregistered' : k.registered info.cid = some m := by
      rw [registered, ← hk.registry]
      exact hregistered
    obtain ⟨c, hm, hstate, hcid, hid⟩ := hk.controls hm'
    have hcall := hin info hinfo m c hregistered' hm
    have ha := Control.attempt_busy hcall.isBusy
    have hsome : c.attempt ≠ none := ha ▸ Option.some_ne_none _
    obtain ⟨t, hown⟩ := ho.owned m c hm hsome
    obtain ⟨hends, hid'⟩ := ho.attempt hown hm hsome
    have happn : c.apnId = t.id := Option.some.inj (ha.symm.trans hid')
    have hcid' : c.cid = info.cid := by
      obtain ⟨p, hp, rfl⟩ := Option.map_eq_some_iff.mp hregistered'
      obtain ⟨x, hx, hxcid, -⟩ := hreg.entry p.1 p.2 (List.mem_of_find?_eq_some hp)
      obtain rfl := Option.some.inj (hm.symm.trans hx)
      exact hxcid.trans (by simpa using List.find?_some hp)
    refine ⟨⟨hk.owner, hk.registry, fun u => ?_, hk.controls⟩, fun info' hmem => ?_, ?_⟩
    · rw [← hk.ends u]
      simp [ends, Core.notify, HandlerEvent.isEnd]
    · rcases List.mem_append.mp hmem with hmem | hmem
      · exact h.call info' hmem
      · obtain rfl := HandlerEvent.dataCallListChanged.inj (List.mem_singleton.mp hmem)
        exact ⟨t, m, c', hid.trans happn, hk.owner ▸ hown, hm', hcid.trans hcid',
          .inl (hcall.congr hstate)⟩
    · refine List.pairwise_append.mpr ⟨h.order, List.pairwise_singleton _ _, fun a hmem b hb => ?_⟩
      rintro info' rfl
      obtain rfl := HandlerEvent.dataCallListChanged.inj (List.mem_singleton.mp hb)
      have hnone : k'.notices.countP (HandlerEvent.isEnd t.id) = 0 := (hk.ends t).trans hends
      have hflag : c'.apnId = t.id := hid.trans happn
      simpa [hflag] using List.countP_eq_zero.mp hnone a hmem
  · exact ⟨hk, h⟩

theorem Relayed.report (h : k.Relayed) (ho : k.Owned) (hreg : k.Registered)
    {dcList : List SetupDataCallResultInfo} (hin : k.InService dcList) :
    (k.radioDataCallListChanged dcList).Relayed := by
  refine (report_invariant (P := fun k₁ => Reporting k k₁ ∧ k₁.Relayed) (fun k₁ info hinfo hk => ?_)
    (fun k₁ m _ hk => ?_) (fun k₁ cid hk => ?_) ⟨⟨rfl, rfl, fun _ => rfl, fun hm =>
      ⟨_, hm, rfl, rfl, rfl⟩⟩, h⟩).2
  · exact hk.2.relay hk.1 ho hreg hin hinfo
  · obtain ⟨hk, hrel⟩ := hk
    refine loseConnection_invariant (P := fun k₁ => Reporting k k₁ ∧ k₁.Relayed) ⟨hk, hrel⟩
      (fun info => ⟨⟨hk.owner, hk.registry, hk.ends, fun {n c'} hn => ?_⟩,
        hrel.still rfl (List.suffix_refl _) fun {n c} hn => ?_⟩) dcList
    · have hn' : (k₁.controls.modify m fun c => c.post _)[n]? = some c' := hn
      rw [List.getElem?_modify] at hn'
      obtain ⟨c₀, hc₀, rfl⟩ := Option.map_eq_some_iff.mp hn'
      obtain ⟨c, hc, hsame⟩ := hk.controls hc₀
      refine ⟨c, hc, ?_⟩
      split_ifs <;> exact hsame
    · by_cases hmn : m = n
      · subst hmn
        exact ⟨_, getElem?_modify_self hn, rfl, rfl, Control.post_attempt rfl⟩
      · exact ⟨c, (getElem?_modify_of_ne hmn _ _).trans hn, rfl, rfl, rfl⟩
  · exact ⟨⟨hk.1.owner, hk.1.registry, hk.1.ends, hk.1.controls⟩, hk.2.call, hk.2.order⟩

end Core

namespace Slot

variable {s s' : Slot} {l : Label} {t : ApnType} {m : MachineRef} {info : SetupDataCallResultInfo}

/-- The modem's list has a call whose registered machine is neither in `Active` nor in
`Disconnecting`. -/
def RelaysEndedCall (l : Label) (s : Slot) : Prop :=
  ∃ dcList info m x, l = .dataCallListChanged dcList ∧ info ∈ dcList ∧
    s.getActiveConnectionByCid (SetupDataCallResultInfo.cid info) = some m ∧
    s.machine? m = some x ∧ x.isActiveState = false ∧ x.isDisconnectingState = false

/-- The step applies a report to the machine of the holder. -/
structure AppliesReport (l : Label) (s : Slot) (info : SetupDataCallResultInfo) (t : ApnType)
    (m : MachineRef) : Prop where
  taken : s.taken l = some (.dataCallListChanged info)
  flag : info.flag = t.id
  state : (s.holder t).apnState = .connecting ∨ (s.holder t).apnState = .connected
  machine : (s.holder t).cellularDataStateMachine = some m

/-- The handler takes a report for a holder while the end of a call of this holder waits in its
queue. -/
def TakesLateReport (l : Label) (s : Slot) : Prop :=
  ∃ info e, s.taken l = some (.dataCallListChanged info) ∧ .disconnectDataComplete e ∈ s.queue.pending ∧
    info.flag = e.flag

theorem reachable_relayed (h : system.ReachableWhen (fun l s => ¬ RelaysEndedCall l s) s) :
    s.core.Relayed := by
  refine calls_invariant h ⟨(fun _ hm => nomatch hm), .nil⟩ (fun k k' _ _ hp ha => ?_)
    fun l s k hr hw ho hreg hp hok ht => ?_
  · rcases ha with hc | ⟨t, m, he⟩
    · exact hp.calm hc
    · exact hp.engages he
  · generalize hcue : s.cue l = cue at ht
    cases ht with
    | calm hc => exact hp.calm hc
    | releases hrel => exact hp.releases hrel
    | dispatch hm hnext ht => exact hp.dispatch hw ho hm hnext ht
    | @report dcList =>
      refine hp.report ho hreg fun info hinfo m c hregistered hm => ?_
      obtain ⟨x, hx, rfl⟩ := machine_of_control hm
      have hsettled := hr.settled x (List.mem_of_getElem? hx)
      by_contra hnot
      refine hok ⟨dcList, info, m, x, report_of_cue hcue, hinfo, hregistered, hx, ?_, ?_⟩
      · exact decide_eq_false fun hst => hnot (.inl ((hsettled.isState_iff _).mp hst))
      · exact decide_eq_false fun hst => hnot (.inr ((hsettled.isState_iff _).mp hst))

/-- A report that is taken was on its way. -/
theorem notice_of_taken (hr : s.Regular) {e : HandlerEvent} (he : e.isNotice = true)
    (h : s.taken l = some e) : e ∈ s.core.notices := by
  cases l with
  | dispatchHandler env =>
    obtain ⟨p, hp, rfl⟩ := Option.map_eq_some_iff.mp h
    refine List.mem_filter.mpr ⟨?_, he⟩
    rw [(next_ready (e := p.1) (q := p.2) hr hp).1]
    exact List.mem_cons_self
  | _ => cases h

/-- The report that is applied is about the holder's call as long as no end of the call is on its
way. -/
theorem live_iff (h : system.ReachableWhen (fun l s => ¬ RelaysEndedCall l s) s)
    (ha : AppliesReport l s info t m) :
    (∃ x, s.machine? m = some x ∧ (x.isActiveState = true ∨ x.isDisconnectingState = true) ∧
      x.data.cid = info.cid) ↔
    ∀ e : SetupDataCallResultInfo, e.flag = t.id → .disconnectDataComplete e ∉ s.queue.pending := by
  obtain ⟨hr, -⟩ := reachable_regular h
  obtain ⟨ho, -⟩ := reachable_registered h
  obtain ⟨u, n, c, hflag, hown, hn, hcid, hcall⟩ :=
    (reachable_relayed h).call info (notice_of_taken hr rfl ha.taken)
  obtain rfl : u = t := ApnType.id_injective (hflag.symm.trans ha.flag)
  obtain rfl : n = m := Option.some.inj (hown.symm.trans ha.machine)
  obtain ⟨x, hx, rfl⟩ := machine_of_control hn
  have hstate : ∀ st, x.data.currentState = some st ↔ x.control.state = some st :=
    (hr.settled x (List.mem_of_getElem? hx)).isState_iff
  constructor
  · rintro ⟨y, hy, hin, -⟩ e hflag' hmem
    obtain rfl := Option.some.inj (hx.symm.trans hy)
    have hbusy : x.control.InCall := hin.imp (fun h => (hstate _).mp (of_decide_eq_true h))
      fun h => (hstate _).mp (of_decide_eq_true h)
    have hattempt : x.control.attempt ≠ none := by
      rw [Control.attempt_busy hbusy.isBusy]
      exact Option.some_ne_none _
    have hends : 0 < s.core.ends u := List.countP_pos_iff.mpr
      ⟨_, notice_of_mem_pending hr rfl hmem, decide_eq_true hflag'⟩
    rw [(ho.attempt hown hn hattempt).1] at hends
    exact Nat.lt_irrefl _ hends
  · intro hno
    refine ⟨x, hx, ?_, hcid⟩
    rcases hcall with hin | hnone
    · exact hin.imp (fun h => decide_eq_true ((hstate _).mpr h))
        fun h => decide_eq_true ((hstate _).mpr h)
    · obtain ⟨e, he, hmem⟩ := exists_end (ho.ends_of_attempt hown hn hnone)
      exact absurd hmem (hno e he)

/-- In a run in which no list has an ended call and no report is taken late, a report that is applied
is about the call of the machine it is applied to. -/
theorem applied_live
    (h : system.ReachableWhen (fun l s => ¬ RelaysEndedCall l s ∧ ¬ TakesLateReport l s) s)
    (hl : ¬ TakesLateReport l s) (ha : AppliesReport l s info t m) :
    ∃ x, s.machine? m = some x ∧ (x.isActiveState = true ∨ x.isDisconnectingState = true) ∧
      x.data.cid = info.cid := by
  have hrun : system.ReachableWhen (fun l s => ¬ RelaysEndedCall l s) s :=
    h.mono fun _ _ hok => hok.1
  apply (live_iff hrun ha).mpr
  intro e hflag hpending
  exact hl ⟨info, e, ha.taken, hpending, ha.flag.trans hflag.symm⟩

/-! A report about the call of a machine in `Active`, and two reports that come too late -/

/-- Every registered machine is in `Active` when the modem reports, and no end of a call waits when
the handler takes an event. -/
def isFaithful (l : Label) (s : Slot) : Bool :=
  match l with
  | .dataCallListChanged _ =>
    s.cidActiveConnectionMap.all fun p => (s.machine? p.2).any (·.isActiveState)
  | .dispatchHandler _ => s.queue.pending.all fun
    | .disconnectDataComplete _ => false
    | _ => true
  | _ => true

theorem faithful_of_isFaithful (l : Label) (s : Slot) (h : isFaithful l s = true) :
    ¬ RelaysEndedCall l s ∧ ¬ TakesLateReport l s := by
  constructor
  · rintro ⟨dcList, info, m, x, rfl, -, hregistered, hx, hactive, -⟩
    obtain ⟨p, hp, rfl⟩ := Option.map_eq_some_iff.mp hregistered
    have hall := List.all_eq_true.mp h p (List.mem_of_find?_eq_some hp)
    rw [hx, Option.any_some, hactive] at hall
    cases hall
  · rintro ⟨info, e, htaken, hpending, -⟩
    cases l with
    | dispatchHandler env => cases List.all_eq_true.mp h _ hpending
    | _ => cases htaken

theorem applied_live_connected : ∃ s info x,
    system.runIf isFaithful (connectedLabels ++ [.dataCallListChanged [{ cid := 5, active := 1 }]])
        start = some s ∧
      AppliesReport (.dispatchHandler serviceEnv) s info .default_ 0 ∧
      s.machine? 0 = some x ∧ (x.isActiveState = true ∨ x.isDisconnectingState = true) ∧
      x.data.cid = info.cid := by
  have hrun : (system.runIf isFaithful
      (connectedLabels ++ [.dataCallListChanged [{ cid := 5, active := 1 }]]) start).any
      (fun s => s.taken (.dispatchHandler serviceEnv) =
          some (.dataCallListChanged { cid := 5, active := 1, flag := 1 }) ∧
        (s.holder .default_).apnState = .connected ∧
        (s.holder .default_).cellularDataStateMachine = some 0 ∧
        isFaithful (.dispatchHandler serviceEnv) s) = true := by decide +kernel
  obtain ⟨s, hs, hp⟩ := (Option.any_eq_true _ _).mp hrun
  obtain ⟨htaken, hstate, howner, hnext⟩ := of_decide_eq_true hp
  have ha : AppliesReport (.dispatchHandler serviceEnv) s { cid := 5, active := 1, flag := 1 }
      .default_ 0 := ⟨htaken, rfl, .inr hstate, howner⟩
  have hreach := (TransitionSystem.ReachableWhen.init start_initial).path
    (TransitionSystem.path_of_runIf faithful_of_isFaithful hs)
  obtain ⟨x, hx⟩ := applied_live hreach (faithful_of_isFaithful _ _ hnext).2 ha
  exact ⟨s, _, x, hs, ha, hx⟩

/-- The call is lost with the same list of the modem that reports it. -/
theorem report_applied_to_lost_call : ∃ s x,
    system.run (connectedLabels ++ [.dataCallListChanged [{ cid := 5, active := 0 }],
        .dispatchMachine serviceEnv 0]) start = some s ∧ s.crash = none ∧
      AppliesReport (.dispatchHandler serviceEnv) s { cid := 5, active := 0, flag := 1 }
        .default_ 0 ∧
      s.machine? 0 = some x ∧ x.isInactiveState = true := by
  obtain ⟨s, hrun, -, hp⟩ := exists_run
    (connectedLabels ++ [.dataCallListChanged [{ cid := 5, active := 0 }],
      .dispatchMachine serviceEnv 0])
    (p := fun s => s.crash = none ∧ s.taken (.dispatchHandler serviceEnv) =
        some (.dataCallListChanged { cid := 5, active := 0, flag := 1 }) ∧
      (s.holder .default_).apnState = .connected ∧
      (s.holder .default_).cellularDataStateMachine = some 0 ∧
      (s.machine? 0).any (·.isInactiveState)) (by decide +kernel)
  obtain ⟨hcrash, htaken, hstate, howner, hmachine⟩ := of_decide_eq_true hp
  obtain ⟨x, hx, hinactive⟩ := (Option.any_eq_true _ _).mp hmachine
  exact ⟨s, x, hrun, hcrash, ⟨htaken, rfl, .inr hstate, howner⟩, hx, hinactive⟩

/-- The call is released, reported once more and requested again. -/
def releasedLabels : List Label :=
  connectedLabels ++ [clearLabel, .dispatchMachine serviceEnv 0,
    .postMachine 0 (.deactivateDataCall none), .dispatchMachine serviceEnv 0,
    .dataCallListChanged [{ cid := 5, active := 0 }], .dispatchHandler serviceEnv]

/-- The report about the released call is applied to the machine of the next attempt. -/
theorem report_applied_to_next_attempt : ∃ s s' x info,
    system.run releasedLabels start = some s ∧
      AppliesReport (.dispatchHandler serviceEnv) s { cid := 5, active := 0, flag := 1 }
        .default_ 0 ∧
      (s.holder .default_).apnState = .connecting ∧ s.machine? 0 = some x ∧
      x.isInactiveState = true ∧ system.step (.dispatchHandler serviceEnv) s = some s' ∧
      s'.crash = none ∧
      s'.effects = .machine 0 (.updateNetSupplierInfo .internet info) :: s.effects := by
  obtain ⟨s, hrun, -, hp⟩ := exists_run (releasedLabels)
    (p := fun s => s.taken (.dispatchHandler serviceEnv) =
        some (.dataCallListChanged { cid := 5, active := 0, flag := 1 }) ∧
      (s.holder .default_).apnState = .connecting ∧
      (s.holder .default_).cellularDataStateMachine = some 0 ∧
      (s.machine? 0).any (·.isInactiveState) ∧
      (system.step (.dispatchHandler serviceEnv) s).any fun s' => s'.crash = none ∧
        s'.effects = Effect.machine 0 (.updateNetSupplierInfo .internet
          { linkUpBandwidthKbps := 14, linkDownBandwidthKbps := 14, score := 60 }) :: s.effects)
    (by decide +kernel)
  obtain ⟨htaken, hstate, howner, hmachine, hafter⟩ := of_decide_eq_true hp
  obtain ⟨x, hx, hinactive⟩ := (Option.any_eq_true _ _).mp hmachine
  obtain ⟨s', hstep, hs'⟩ := (Option.any_eq_true _ _).mp hafter
  obtain ⟨hcrash, heffects⟩ := of_decide_eq_true hs'
  exact ⟨s, s', x, _, hrun, ⟨htaken, rfl, .inl hstate, howner⟩, hstate, hx, hinactive, hstep, hcrash,
    heffects⟩

end Slot
end CellularData
