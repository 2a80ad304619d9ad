import CellularData.Slot.Obligations
import CellularData.Slot.Registry
import CellularData.Slot.Teardown

/-! Data calls without an owner: calls that a machine has accepted, and calls that no machine takes
up. -/
namespace CellularData
open Lib StateMachine Relation

/-- Calls accepted by a machine for which it has sent no deactivation since, and which have neither
been reported as down nor ended with the modem's host since. -/
def openCalls : List CallEvent → List (MachineRef × Int)
  | [] => []
  | .setupAnswer _ _ :: log => openCalls log
  | .accepted m cid :: log => (m, cid) :: openCalls log
  | .deactivateRequest m cid :: log => (openCalls log).filter fun p => p ≠ (m, cid)
  | .reportedDown cid :: log => (openCalls log).filter fun p => p.2 ≠ cid
  | .hostDied m :: log => (openCalls log).filter fun p => p.1 ≠ m

/-- Cids of the calls reported as up that have neither been reported as down since nor named in a
deactivation request. -/
def unreleasedCids : List CallEvent → List Int
  | [] => []
  | .setupAnswer _ info :: log =>
    if Control.setupSucceeds info then info.cid :: unreleasedCids log else unreleasedCids log
  | .deactivateRequest _ cid :: log => (unreleasedCids log).filter (· ≠ cid)
  | .reportedDown cid :: log => (unreleasedCids log).filter (· ≠ cid)
  | _ :: log => unreleasedCids log

namespace Core

variable {k k' : Core} {cue : Cue} {t : ApnType} {m : MachineRef} {c c' : Control}

/-- The call is under way and no report of its loss waits. -/
def HasCall (k : Core) (p : MachineRef × Int) : Prop :=
  ∃ c, k.controls[p.1]? = some c ∧ c.state = some .active ∧ c.cid = p.2 ∧
    ∀ x ∈ c.upcoming, x.isLost = false

def CallsKept (k : Core) : Prop := ∀ p ∈ openCalls k.callLog, k.HasCall p

theorem CallsKept.calm (h : k.CallsKept) (hc : Calm k k') : k'.CallsKept := by
  intro p hp
  obtain ⟨c, hm, hst, hcid, hlost⟩ := h p (hc.callLog ▸ hp)
  obtain ⟨c', hm', hk⟩ := hc.controls hm
  refine ⟨c', hm', hk.state.trans hst, hk.cid.trans hcid, fun x hx => ?_⟩
  by_contra hl
  rw [Bool.not_eq_false] at hl
  exact absurd hl (by simp [hlost x (hk.upcoming x hx hl)])

theorem CallsKept.engages (h : k.CallsKept) (he : Engages k k' t m) : k'.CallsKept := by
  intro p hp
  obtain ⟨c, hm, hst, hcall⟩ := h p (he.callLog ▸ hp)
  have hne : p.1 ≠ m := fun heq => he.idle c (heq ▸ hm) (.inl hst)
  exact ⟨c, (he.others _ hne).trans hm, hst, hcall⟩

theorem CallsKept.releases (h : k.CallsKept) {info : SetupDataCallResultInfo}
    (hr : Releases k k' info t m c) : k'.CallsKept := by
  intro p hp
  obtain ⟨x, hx, hcall⟩ := h p (hr.callLog ▸ hp)
  exact ⟨x, hr.controls ▸ hx, hcall⟩

/-! A machine processes an event -/

/-- The answer of the modem is no call yet. -/
theorem openCalls_logMachineEvent (k : Core) (m : MachineRef) (c : Control) (e : MachineEvent) :
    openCalls (k.logMachineEvent m c e).callLog ⊆ openCalls k.callLog ∧
      ((∃ info, e = .rilAdapterHostDied info) → c.state = some .active →
        ∀ p ∈ openCalls (k.logMachineEvent m c e).callLog, p.1 ≠ m) := by
  cases e with
  | setupDataCall answer =>
    constructor
    swap
    · rintro ⟨_, h⟩
      cases h
    cases answer with
    | resultInfo info =>
      simp only [logMachineEvent]
      split_ifs <;> exact List.Subset.refl _
    | rilInfo info => exact List.Subset.refl _
    | empty => exact List.Subset.refl _
  | rilAdapterHostDied info =>
    simp only [logMachineEvent]
    split_ifs with hst
    · exact ⟨fun p hp => (List.mem_filter.mp hp).1, fun _ _ p hp =>
        of_decide_eq_true (List.mem_filter.mp hp).2⟩
    · exact ⟨List.Subset.refl _, fun _ h => absurd h hst⟩
  | _ =>
    refine ⟨List.Subset.refl _, ?_⟩
    rintro ⟨_, h⟩
    cases h

/-- An answer is accepted by a machine for which no loss is reported. -/
theorem HasCall.accept (hreg : k.Registered) (hw : k.WellFormed) (ho : k.Owned) {env : MachineEnv}
    {e : MachineEvent} {q : EventQueue MachineEvent} {os : List MachineOutput} {cid : Int}
    (hm : k.controls[m]? = some c) (hnext : c.queue.next = some (e, q))
    (ht : Control.Transition env { c with queue := q } e c' os)
    (hadd : .addActiveConnectionByCid cid ∈ os) (hm' : k'.controls[m]? = some c') :
    k'.HasCall (m, cid) := by
  have hmem := List.mem_of_getElem? hm
  obtain ⟨hst, hst', hcid, -⟩ := ht.accepted hadd
  have hst : c.state = some .activating := hst
  have hactive : c'.attempt ≠ none := by
    rw [Control.attempt_busy (Control.isBusy_iff.mpr (.inr (.inl hst')))]
    exact Option.some_ne_none _
  have hattempt : c.attempt ≠ none := by
    rw [Control.attempt_busy (Control.isBusy_iff.mpr (.inl hst))]
    exact Option.some_ne_none _
  have hnot : ¬ c.InCall := by
    rintro (h | h) <;> cases hst.symm.trans h
  refine ⟨c', hm', hst', hcid, fun x hx => ?_⟩
  rcases (ho.sound c hmem).single.mem_upcoming (hw c hmem) hnext ht hactive hx with hx | hx
  · exact hreg.lost m c hm hattempt hnot x hx
  · exact Control.isLost_of_isTimer hx

/-- A machine in `Active` stays there until it sends a deactivation or its call is lost. -/
theorem HasCall.transition (hw : k.WellFormed) (ho : k.Owned) {env : MachineEnv}
    {e : MachineEvent} {q : EventQueue MachineEvent} {os : List MachineOutput} {cid : Int}
    (h : k.HasCall (m, cid)) (hm : k.controls[m]? = some c) (hnext : c.queue.next = some (e, q))
    (ht : Control.Transition env { c with queue := q } e c' os) (hm' : k'.controls[m]? = some c') :
    k'.HasCall (m, cid) ∨ (∃ param : DeactivateDataParam, os = [.deactivatePdpContext param] ∧
      param.cid = cid) ∨ ∃ info, e = .rilAdapterHostDied info := by
  obtain ⟨x, hx, hst, hcid, hlost⟩ := h
  obtain rfl := Option.some.inj (hm.symm.trans hx)
  have hmem := List.mem_of_getElem? hm
  have hs := (ho.sound c hmem).single
  have hb : c.isBusy = true := Control.isBusy_iff.mpr (.inr (.inl hst))
  have hkeep : c'.state = some .active → c'.cid = c.cid → k'.HasCall (m, cid) := by
    intro hst' hcid'
    have hactive : c'.attempt ≠ none := by
      rw [Control.attempt_busy (Control.isBusy_iff.mpr (.inr (.inl hst')))]
      exact Option.some_ne_none _
    refine ⟨c', hm', hst', hcid'.trans hcid, fun x hx => ?_⟩
    rcases hs.mem_upcoming (hw c hmem) hnext ht hactive hx with hx | hx
    · exact hlost x hx
    · exact Control.isLost_of_isTimer hx
  have hno : ∀ {st : ConnState}, st ≠ .active → c.state ≠ some st := fun hne h =>
    hne (Option.some.inj (h.symm.trans hst))
  cases ht with
  | ignore _ => exact .inl (hkeep hst rfl)
  | boot h => cases hst.symm.trans h
  | connect h => exact absurd h (hno (by decide))
  | defer h he =>
    rcases h with h | h
    · exact absurd h (hno (by decide))
    · exact absurd h (hno (by decide))
  | accept h hflag hsuccess => exact absurd h (hno (by decide))
  | fail h => exact absurd h (hno (by decide))
  | abandon h => exact absurd h (hno (by decide))
  | complete h => exact .inl (hkeep hst rfl)
  | disconnect h he => exact .inr (.inl ⟨_, rfl, hcid⟩)
  | lose h he =>
    have hconnect : e.isConnect = false := by cases e <;> first | rfl | cases he
    have hupcoming : e ∈ c.upcoming := ((hs.took hnext hconnect).busy hb e).mpr (.inl rfl)
    have hlost' := hlost e hupcoming
    cases e with
    | lostConnection info => cases hlost'
    | rilAdapterHostDied info => exact .inr (.inr ⟨info, rfl⟩)
    | _ => cases he
  | finish h he => exact absurd h (hno (by decide))
  | release h he => exact absurd h (hno (by decide))

/-- Only an accepted answer opens a call. -/
theorem openCalls_receive {os : List MachineOutput} {p : MachineRef × Int} (k : Core)
    (hp : p ∈ openCalls (os.foldl (fun k o => k.receive m o) k).callLog) :
    p ∈ openCalls k.callLog ∨ ∃ cid, p = (m, cid) ∧ .addActiveConnectionByCid cid ∈ os := by
  induction os generalizing k with
  | nil => exact .inl hp
  | cons o os ih =>
    rcases ih _ hp with hp | ⟨cid, heq, hmem⟩
    · cases o with
      | addActiveConnectionByCid cid =>
        rcases List.mem_cons.mp hp with hp | hp
        · exact .inr ⟨cid, hp, List.mem_cons_self⟩
        · exact .inl hp
      | deactivatePdpContext param => exact .inl (List.mem_filter.mp hp).1
      | _ => exact .inl hp
    · exact .inr ⟨cid, heq, List.mem_cons_of_mem _ hmem⟩

theorem CallsKept.dispatch (h : k.CallsKept) (hreg : k.Registered) (hw : k.WellFormed)
    (ho : k.Owned) {env : MachineEnv} {e : MachineEvent} {q : EventQueue MachineEvent}
    {os : List MachineOutput} (hm : k.controls[m]? = some c)
    (hnext : c.queue.next = some (e, q))
    (ht : Control.Transition env { c with queue := q } e c' os) :
    CallsKept (os.foldl (fun k o => k.receive m o)
      { k.logMachineEvent m c e with controls := k.controls.set m c' }) := by
  obtain ⟨k', heq, -, -, hcontrols, -⟩ := dispatch_frame k m c c' e os
  obtain ⟨hsubset, hdied⟩ := openCalls_logMachineEvent k m c e
  have hm' : k'.controls[m]? = some c' := by
    rw [hcontrols, List.getElem?_set_self (List.getElem?_eq_some_iff.mp hm).1]
  rw [← heq]
  rintro ⟨n, cid⟩ hp
  rw [heq] at hp
  rcases openCalls_receive _ hp with hlog | ⟨cid', hpair, hadd⟩
  · have hcall := h _ (hsubset hlog)
    by_cases hne : n = m
    · subst hne
      obtain ⟨x, hx, hst, -⟩ := id hcall
      obtain rfl := Option.some.inj (hm.symm.trans hx)
      rcases hcall.transition hw ho hm hnext ht hm' with hkept | ⟨param, rfl, rfl⟩ | he
      · exact hkept
      · exact absurd rfl (of_decide_eq_true (List.mem_filter.mp hp).2)
      · exact absurd rfl (hdied he hst _ hlog)
    · obtain ⟨x, hx, hcall⟩ := hcall
      exact ⟨x, hcontrols ▸ getElem?_set_other hne hx, hcall⟩
  · obtain ⟨rfl, rfl⟩ := Prod.mk.inj hpair
    exact HasCall.accept hreg hw ho hm hnext ht hadd hm'

/-! The modem reports its data calls -/

theorem openCalls_logDown (k : Core) (dcList : List SetupDataCallResultInfo) {p : MachineRef × Int}
    (hp : p ∈ openCalls (k.logDown dcList).callLog) :
    p ∈ openCalls k.callLog ∧ ∀ info ∈ dcList, info.active ≤ 0 → info.cid ≠ p.2 := by
  induction dcList generalizing k with
  | nil => exact ⟨hp, fun _ h => nomatch h⟩
  | cons info l ih =>
    obtain ⟨hlog, hdown⟩ := ih _ hp
    have hone : p ∈ openCalls k.callLog ∧ (info.active ≤ 0 → info.cid ≠ p.2) := by
      dsimp only at hlog
      split_ifs at hlog with hactive
      · obtain ⟨hlog, hne⟩ := List.mem_filter.mp hlog
        exact ⟨hlog, fun _ heq => of_decide_eq_true hne heq.symm⟩
      · exact ⟨hlog, fun h => absurd h hactive⟩
    refine ⟨hone.1, fun x hx => ?_⟩
    rcases List.mem_cons.mp hx with rfl | hx
    · exact hone.2
    · exact hdown x hx

theorem callLog_relayDataCall (k : Core) (info : SetupDataCallResultInfo) :
    (k.relayDataCall info).callLog = k.callLog :=
  relayDataCall_invariant (P := fun k' => k'.callLog = k.callLog) rfl fun _ => rfl

theorem callLog_loseConnection (k : Core) (dcList : List SetupDataCallResultInfo)
    (m : MachineRef) : (k.loseConnection dcList m).callLog = k.callLog :=
  loseConnection_invariant (P := fun k' => k'.callLog = k.callLog) rfl (fun _ => rfl) dcList

/-- A machine that is told of a loss has a call that is reported as down. -/
theorem loseConnection_hasCall {dcList : List SetupDataCallResultInfo} {p : MachineRef × Int}
    (h : k.HasCall p) (m : MachineRef) :
    (k.loseConnection dcList m).HasCall p ∨ ∃ info ∈ dcList, info.active ≤ 0 ∧ info.cid = p.2 := by
  unfold loseConnection
  split
  · exact .inl h
  · rename_i x hx
    split
    · rename_i info hfind
      obtain ⟨c, hc, hst, hcid, hlost⟩ := h
      by_cases hmp : m = p.1
      · obtain rfl := Option.some.inj ((hmp ▸ hx).symm.trans hc)
        have hfound := List.find?_some hfind
        obtain ⟨hinfo, hactive⟩ := of_decide_eq_true hfound
        exact .inr ⟨info, List.mem_of_find?_eq_some hfind, hactive, hinfo.trans hcid⟩
      · exact .inl ⟨c, (getElem?_modify_of_ne hmp _ _).trans hc, hst, hcid, hlost⟩
    · exact .inl h

theorem CallsKept.report (h : k.CallsKept) (dcList : List SetupDataCallResultInfo) :
    (k.radioDataCallListChanged dcList).CallsKept := by
  have hkept := report_invariant (k := k)
    (P := fun k₁ => ∀ p ∈ openCalls k₁.callLog, k₁.HasCall p ∨
      ∃ info ∈ dcList, info.active ≤ 0 ∧ info.cid = p.2)
    (fun k₁ info (_ : info ∈ dcList) hk p hp => ?_) (fun k₁ m _ hk p hp => ?_)
    (fun k₁ cid hk p hp => ?_) fun p hp => .inl (h p hp)
  · intro p hp
    obtain ⟨-, hdown⟩ := openCalls_logDown _ _ hp
    refine (hkept p hp).resolve_right ?_
    rintro ⟨info, hinfo, hactive, hcid⟩
    exact hdown info hinfo hactive hcid
  · rw [callLog_relayDataCall] at hp
    refine (hk p hp).imp_left ?_
    rintro ⟨c, hc, hcall⟩
    exact ⟨c, (controls_relayDataCall k₁ info).symm ▸ hc, hcall⟩
  · rw [callLog_loseConnection] at hp
    rcases hk p hp with hcall | hdown
    · exact loseConnection_hasCall hcall m
    · exact .inr hdown
  · exact hk p (List.mem_filter.mp hp).1

/-! Calls reported as up -/

/-- A call that is reported as up is the call of a machine, unless it has been given back. -/
def CallsTaken (k : Core) : Prop := ∀ cid ∈ unreleasedCids k.callLog, ∃ m, (m, cid) ∈ openCalls k.callLog

theorem CallsTaken.congr (h : k.CallsTaken) (hlog : k'.callLog = k.callLog) : k'.CallsTaken := by
  unfold CallsTaken
  rw [hlog]
  exact h

theorem CallsTaken.deactivate (h : k.CallsTaken) (m : MachineRef) (cid : Int) :
    (k.logCall (.deactivateRequest m cid)).CallsTaken := by
  intro cid' hcid
  obtain ⟨hmem, hne⟩ := List.mem_filter.mp hcid
  obtain ⟨n, hn⟩ := h cid' hmem
  refine ⟨n, List.mem_filter.mpr ⟨hn, decide_eq_true fun heq => ?_⟩⟩
  exact of_decide_eq_true hne (congrArg Prod.snd heq)

theorem CallsTaken.down (h : k.CallsTaken) (cid : Int) :
    (k.logCall (.reportedDown cid)).CallsTaken := by
  intro cid' hcid
  obtain ⟨hmem, hne⟩ := List.mem_filter.mp hcid
  obtain ⟨n, hn⟩ := h cid' hmem
  exact ⟨n, List.mem_filter.mpr ⟨hn, hne⟩⟩

theorem CallsTaken.receive (h : k.CallsTaken) (m : MachineRef) (o : MachineOutput) :
    (k.receive m o).CallsTaken := by
  cases o with
  | addActiveConnectionByCid cid =>
    intro cid' hcid
    obtain ⟨n, hn⟩ := h cid' hcid
    exact ⟨n, List.mem_cons_of_mem _ hn⟩
  | deactivatePdpContext param => exact h.deactivate m param.cid
  | _ => exact h

theorem CallsTaken.report (h : k.CallsTaken) (dcList : List SetupDataCallResultInfo) :
    (k.radioDataCallListChanged dcList).CallsTaken := by
  refine report_invariant (P := CallsTaken) (fun k₁ info _ hk => ?_) (fun k₁ m _ hk => ?_)
    (fun k₁ cid hk => hk.down cid) h
  · exact hk.congr (callLog_relayDataCall k₁ info)
  · exact hk.congr (callLog_loseConnection k₁ dcList m)

/-- The machine is about to take a successful answer that it does not wait for, or the death of the
modem's host ends its call. -/
def LosesCall (c : Control) : Prop :=
  ∃ e q, c.queue.next = some (e, q) ∧
    ((∃ info, e = .setupDataCall (.resultInfo info) ∧ c.queue.immediate = [] ∧
        Control.setupSucceeds info = true ∧
        ¬ (c.state = some .activating ∧ info.flag = c.connectId)) ∨
      (∃ info, e = .rilAdapterHostDied info) ∧ c.state = some .active)

/-- A machine that loses no call takes each call that is reported as up. -/
theorem CallsTaken.dispatch (h : k.CallsTaken) {env : MachineEnv} {e : MachineEvent}
    {q : EventQueue MachineEvent} {os : List MachineOutput} (hnext : c.queue.next = some (e, q))
    (ht : Control.Transition env { c with queue := q } e c' os) (hkeeps : ¬ LosesCall c) :
    CallsTaken (os.foldl (fun k o => k.receive m o)
      { k.logMachineEvent m c e with controls := k.controls.set m c' }) := by
  have hreceived : ∀ k₁ : Core, k₁.CallsTaken →
      (os.foldl (fun k o => k.receive m o) k₁).CallsTaken := fun k₁ h₁ =>
    List.foldlRecOn os _ h₁ fun _ hk o _ => hk.receive m o
  by_cases hanswer : ∃ info, e = .setupDataCall (.resultInfo info) ∧ c.queue.immediate = []
  · obtain ⟨info, rfl, himmediate⟩ := hanswer
    have hlog : (k.logMachineEvent m c (.setupDataCall (.resultInfo info))).callLog =
        .setupAnswer m info :: k.callLog := congrArg callLog (if_pos himmediate)
    by_cases hs : Control.setupSucceeds info = true
    · have htakes : c.state = some .activating ∧ info.flag = c.connectId := by
        by_contra hno
        exact hkeeps ⟨_, q, hnext, .inl ⟨info, rfl, himmediate, hs, hno⟩⟩
      obtain rfl : os = [.addActiveConnectionByCid info.cid] := ht.accepts htakes.1 htakes.2 hs
      intro cid hcid
      change cid ∈ unreleasedCids (.accepted m info.cid :: _) at hcid
      change ∃ n, (n, cid) ∈ openCalls (.accepted m info.cid :: _)
      simp only [hlog, unreleasedCids, openCalls, hs, if_true] at hcid ⊢
      rcases List.mem_cons.mp hcid with rfl | hcid
      · exact ⟨m, List.mem_cons_self⟩
      · obtain ⟨n, hn⟩ := h cid hcid
        exact ⟨n, List.mem_cons_of_mem _ hn⟩
    · apply hreceived
      intro cid hcid
      change cid ∈ unreleasedCids (k.logMachineEvent m c _).callLog at hcid
      change ∃ n, (n, cid) ∈ openCalls (k.logMachineEvent m c _).callLog
      simp only [hlog, unreleasedCids, openCalls, hs] at hcid ⊢
      exact h cid hcid
  · apply hreceived
    refine CallsTaken.congr (k := k) h ?_
    change (k.logMachineEvent m c e).callLog = k.callLog
    cases e with
    | setupDataCall answer =>
      cases answer with
      | resultInfo info => exact congrArg callLog (if_neg fun himm => hanswer ⟨info, rfl, himm⟩)
      | _ => rfl
    | rilAdapterHostDied info =>
      refine congrArg callLog (if_neg fun hst => ?_)
      exact hkeeps ⟨_, q, hnext, .inr ⟨⟨info, rfl⟩, hst⟩⟩
    | _ => rfl

end Core

namespace Slot

variable {s : Slot} {l : Label} {m : MachineRef} {cid : Int}

/-- Calls that the modem has set up are held by a machine or have been given back. -/
def NoOrphan (s : Slot) : Prop :=
  ∀ cid ∈ unreleasedCids s.callLog, ∃ m x, s.machine? m = some x ∧
    (x.isActiveState = true ∨ x.isDisconnectingState = true) ∧ x.data.cid = cid

theorem reachable_callsKept (h : system.Reachable s) : s.core.CallsKept := by
  refine calls_invariant h (fun _ hp => nomatch hp) (fun k k' _ _ hp ha => ?_)
    fun l s k _ hw ho hreg hp _ ht => ?_
  · rcases ha with hc | ⟨t, m, he⟩
    · exact hp.calm hc
    · exact hp.engages he
  · generalize s.cue l = cue at ht
    cases ht with
    | calm hc => exact hp.calm hc
    | releases hrel => exact hp.releases hrel
    | dispatch hm hnext ht => exact hp.dispatch hreg hw ho hm hnext ht
    | report => exact hp.report _

/-- The machine that has accepted a call has it until it asks the modem to take the call down. -/
theorem open_call_active (h : system.Reachable s) (hp : (m, cid) ∈ openCalls s.callLog) :
    ∃ x, s.machine? m = some x ∧ x.isActiveState = true ∧ x.data.cid = cid := by
  obtain ⟨hr, -⟩ := reachable_regular h
  obtain ⟨c, hc, hst, hcid, -⟩ := reachable_callsKept h (m, cid) hp
  obtain ⟨x, hx, rfl⟩ := machine_of_control hc
  exact ⟨x, hx, decide_eq_true (((hr.settled x (List.mem_of_getElem? hx)).isState_iff _).mpr hst),
    hcid⟩

/-- A machine takes a successful answer that is not the one it waits for in `Activating`. -/
def MissesAnswer (l : Label) (s : Slot) : Prop :=
  ∃ env m x info q, l = .dispatchMachine env m ∧ s.machine? m = some x ∧ x.queue.immediate = [] ∧
    x.queue.next = some (.setupDataCall (.resultInfo info), q) ∧
    Control.setupSucceeds info = true ∧
    ¬ (x.isActivatingState = true ∧ info.flag = x.data.connectId)

/-- The modem's host dies under the call of a machine in `Active`. -/
def LosesHost (l : Label) (s : Slot) : Prop :=
  ∃ env m x info q, l = .dispatchMachine env m ∧ s.machine? m = some x ∧
    x.queue.next = some (.rilAdapterHostDied info, q) ∧ x.isActiveState = true

theorem reachable_callsTaken
    (h : system.ReachableWhen (fun l s => ¬ MissesAnswer l s ∧ ¬ LosesHost l s) s) :
    s.core.CallsTaken := by
  refine calls_invariant h (fun _ hp => nomatch hp) (fun k k' _ _ hp ha => ?_)
    fun l s k hr hw ho hreg hp hok ht => ?_
  · rcases ha with hc | ⟨t, m, he⟩
    · exact hp.congr hc.callLog
    · exact hp.congr he.callLog
  · generalize hcue : s.cue l = cue at ht
    cases ht with
    | calm hc => exact hp.congr hc.callLog
    | releases hrel => exact hp.congr hrel.callLog
    | @dispatch _ m _ _ _ _ _ hm hnext ht =>
      refine hp.dispatch hnext ht ?_
      obtain ⟨x, hx, rfl⟩ := machine_of_control hm
      obtain ⟨env, rfl⟩ := machine_of_cue hcue
      have hstate : ∀ st, x.data.currentState = some st ↔ x.control.state = some st :=
        (hr.settled x (List.mem_of_getElem? hx)).isState_iff
      rintro ⟨e, q, hnext, ⟨info, rfl, himmediate, hs, hno⟩ | ⟨⟨info, rfl⟩, hst⟩⟩
      · refine hok.1 ⟨env, m, x, info, q, rfl, hx, himmediate, hnext, hs, fun hyes => hno ?_⟩
        exact ⟨(hstate _).mp (of_decide_eq_true hyes.1), hyes.2⟩
      · exact hok.2 ⟨env, m, x, info, q, rfl, hx, hnext, decide_eq_true ((hstate _).mpr hst)⟩
    | report => exact hp.report _

/-- No call is orphaned in a run in which each successful answer is taken by the machine that waits
for it and the modem's host dies under no call. -/
theorem no_orphan (h : system.ReachableWhen (fun l s => ¬ MissesAnswer l s ∧ ¬ LosesHost l s) s) :
    s.NoOrphan := by
  intro cid hcid
  obtain ⟨m, hm⟩ := reachable_callsTaken h cid hcid
  obtain ⟨x, hx, hactive, hxcid⟩ := open_call_active h.reachable hm
  exact ⟨m, x, hx, .inl hactive, hxcid⟩

/-- Each answer is taken by the machine that waits for it, and no machine takes the death of the
modem's host. -/
def takesAnswers (l : Label) (s : Slot) : Bool :=
  match l with
  | .dispatchMachine _ m => (s.machine? m).all fun x =>
    match x.queue.next with
    | some (.setupDataCall (.resultInfo info), _) =>
      x.isActivatingState && info.flag = x.data.connectId
    | some (.rilAdapterHostDied _, _) => false
    | _ => true
  | _ => true

theorem keeps_of_takesAnswers (l : Label) (s : Slot) (h : takesAnswers l s = true) :
    ¬ MissesAnswer l s ∧ ¬ LosesHost l s := by
  constructor
  · rintro ⟨env, m, x, info, q, rfl, hx, -, hnext, -, hno⟩
    simp only [takesAnswers, hx, Option.all_some, hnext, Bool.and_eq_true, decide_eq_true_eq] at h
    exact hno h
  · rintro ⟨env, m, x, info, q, rfl, hx, hnext, -⟩
    simp only [takesAnswers, hx, Option.all_some, hnext] at h
    cases h

theorem no_orphan_answered : ∃ s,
    system.runIf takesAnswers (askedLabels ++ answeredLabels) start = some s ∧
      5 ∈ unreleasedCids s.callLog ∧ s.NoOrphan := by
  have hrun : (system.runIf takesAnswers (askedLabels ++ answeredLabels) start).any
      (fun s => 5 ∈ unreleasedCids s.callLog) = true := by decide +kernel
  obtain ⟨s, hs, hp⟩ := (Option.any_eq_true _ _).mp hrun
  have hreach := (TransitionSystem.ReachableWhen.init start_initial).path
    (TransitionSystem.path_of_runIf keeps_of_takesAnswers hs)
  exact ⟨s, hs, of_decide_eq_true hp, no_orphan hreach⟩

/-- The connect timer has expired after 180 seconds, and then the modem reports the call. -/
def lateAnswerLabels : List Label :=
  askedLabels ++ [.fireMachine 0 0,
    .dispatchMachine { serviceEnv with currentTime := 180000 } 0,
    .postMachine 0 (.setupDataCall (.resultInfo { cid := 5, flag := 1, active := 1 })),
    .dispatchMachine serviceEnv 0]

/-- The call is up, and the only machine is in `Inactive`. -/
theorem orphan_of_inactive (hcid : cid ∈ unreleasedCids s.callLog)
    (hlength : s.stateMachines.length = 1)
    (hmachine : (s.machine? 0).any (·.isInactiveState) = true) : ¬ s.NoOrphan := by
  obtain ⟨x, hx, hinactive⟩ := (Option.any_eq_true _ _).mp hmachine
  intro hno
  obtain ⟨m, y, hy, hstate, -⟩ := hno cid hcid
  have hlt : m < 1 := hlength ▸ (List.getElem?_eq_some_iff.mp hy).1
  obtain rfl : m = 0 := Nat.lt_one_iff.mp hlt
  obtain rfl := Option.some.inj (hx.symm.trans hy)
  have hcurrent : x.data.currentState = some .inactive := of_decide_eq_true hinactive
  rcases hstate with hstate | hstate
  · cases hcurrent.symm.trans (of_decide_eq_true hstate)
  · cases hcurrent.symm.trans (of_decide_eq_true hstate)

/-- The late answer is dropped: the call is up and nothing takes it down. -/
theorem late_answer_orphans : ∃ s, system.run lateAnswerLabels start = some s ∧ s.crash = none ∧
    s.callLog = [.setupAnswer 0 { cid := 5, flag := 1, active := 1 }] ∧
    system.Reachable s ∧ ¬ s.NoOrphan := by
  obtain ⟨s, hrun, hs, hp⟩ := exists_run (lateAnswerLabels)
    (p := fun s => s.crash = none ∧
      s.callLog = [.setupAnswer 0 { cid := 5, flag := 1, active := 1 }] ∧
      s.stateMachines.length = 1 ∧ (s.machine? 0).any (·.isInactiveState)) (by decide +kernel)
  obtain ⟨hcrash, hlog, hlength, hmachine⟩ := of_decide_eq_true hp
  have hcid : (5 : Int) ∈ unreleasedCids s.callLog := hlog ▸ List.mem_singleton_self _
  exact ⟨s, hrun, hcrash, hlog, hs, orphan_of_inactive hcid hlength hmachine⟩

/-- The machine of a connected holder is told that the modem's host has died. -/
def hostDeathLabels : List Label :=
  connectedLabels ++ [.postHandler .rilAdapterHostDied, .dispatchHandler serviceEnv,
    .dispatchMachine serviceEnv 0]

/-- The death of the modem's host frees the machine and asks for no deactivation. -/
theorem host_death_orphans : ∃ s, system.run hostDeathLabels start = some s ∧ s.crash = none ∧
    system.Reachable s ∧ ¬ s.NoOrphan := by
  obtain ⟨s, hrun, hs, hp⟩ := exists_run (hostDeathLabels)
    (p := fun s => s.crash = none ∧ 5 ∈ unreleasedCids s.callLog ∧
      s.stateMachines.length = 1 ∧ (s.machine? 0).any (·.isInactiveState)) (by decide +kernel)
  obtain ⟨hcrash, hcid, hlength, hmachine⟩ := of_decide_eq_true hp
  exact ⟨s, hrun, hcrash, hs, orphan_of_inactive hcid hlength hmachine⟩

end Slot
end CellularData
