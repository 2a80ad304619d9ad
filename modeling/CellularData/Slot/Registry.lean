import CellularData.Slot.Holding

/-! The registry of active calls: which machines may stand in it, and how acts and triggers change
it. -/
namespace CellularData
open Lib StateMachine Relation

namespace Core

variable {k k' : Core} {cue : Cue} {t : ApnType} {m : MachineRef} {c c' : Control}

/-- Owners, calls and the registry stay as they are; reports may be taken. -/
structure Calm (k k' : Core) : Prop where
  owner : k'.owner = k.owner
  registry : k'.registry = k.registry
  callLog : k'.callLog = k.callLog
  notices : k'.notices <:+ k.notices
  length : k'.controls.length = k.controls.length
  controls : ∀ {m : MachineRef} {c : Control}, k.controls[m]? = some c →
    ∃ c', k'.controls[m]? = some c' ∧ c.Calm c'

/-- A machine that nobody owns is given a request for `t`. -/
structure Engages (k k' : Core) (t : ApnType) (m : MachineRef) : Prop where
  free : ∀ u, k.owner u ≠ some m
  idle : ∀ c, k.controls[m]? = some c → ¬ c.InCall
  vacant : k.owner t = none
  owner : ∀ u, u ≠ t → k'.owner u = k.owner u
  registry : k'.registry = k.registry
  callLog : k'.callLog = k.callLog
  notices : k'.notices = k.notices
  others : ∀ n, n ≠ m → k'.controls[n]? = k.controls[n]?
  request : ∃ c, k'.controls[m]? = some c ∧ ¬ c.InCall ∧ c.upcoming = []

/-- The machine of `t` is given up, and the registration under its cid with it. -/
structure Releases (k k' : Core) (info : SetupDataCallResultInfo) (t : ApnType) (m : MachineRef)
    (c : Control) : Prop where
  flag : info.flag = t.id
  notices : k.notices = .disconnectDataComplete info :: k'.notices
  owned : k.owner t = some m
  control : k.controls[m]? = some c
  attempt : c.attempt = none
  owner : ∀ u, k'.owner u = if u = t then none else k.owner u
  registry : k'.registry = k.registry.filter fun p => p.1 ≠ c.cid
  controls : k'.controls = k.controls
  callLog : k'.callLog = k.callLog

theorem Calm.control (h : Calm k k') {m : MachineRef} {c' : Control}
    (hm : k'.controls[m]? = some c') : ∃ c, k.controls[m]? = some c ∧ c.Calm c' := by
  have hlt : m < k.controls.length := h.length ▸ (List.getElem?_eq_some_iff.mp hm).1
  obtain ⟨c'', hm'', hc⟩ := h.controls (List.getElem?_eq_getElem hlt)
  obtain rfl : c' = c'' := Option.some.inj (hm.symm.trans hm'')
  exact ⟨_, List.getElem?_eq_getElem hlt, hc⟩

theorem Calm.of_controls (howner : k'.owner = k.owner) (hregistry : k'.registry = k.registry)
    (hlog : k'.callLog = k.callLog) (hnotices : k'.notices <:+ k.notices)
    (hcontrols : k'.controls = k.controls) : Calm k k' :=
  ⟨howner, hregistry, hlog, hnotices, congrArg List.length hcontrols, fun hm =>
    ⟨_, hcontrols ▸ hm, .refl _⟩⟩

theorem Calm.of_modify {f : Control → Control} (hf : ∀ c : Control, c.Calm (f c))
    (howner : k'.owner = k.owner) (hregistry : k'.registry = k.registry)
    (hlog : k'.callLog = k.callLog) (hnotices : k'.notices = k.notices)
    (hcontrols : k'.controls = k.controls.modify m f) : Calm k k' := by
  refine ⟨howner, hregistry, hlog, hnotices ▸ List.suffix_refl _, by rw [hcontrols,
    List.length_modify], fun {n c} hn => ?_⟩
  rw [hcontrols, List.getElem?_modify, hn]
  by_cases hmn : m = n
  · exact ⟨f c, by simp [hmn], hf c⟩
  · exact ⟨c, by simp [hmn], .refl c⟩

theorem Calm.trans {k'' : Core} (h : Calm k k') (h' : Calm k' k'') : Calm k k'' := by
  refine ⟨h'.owner.trans h.owner, h'.registry.trans h.registry, h'.callLog.trans h.callLog,
    h'.notices.trans h.notices, h'.length.trans h.length, fun hm => ?_⟩
  obtain ⟨c', hm', hc⟩ := h.controls hm
  obtain ⟨c'', hm'', hc'⟩ := h'.controls hm'
  refine ⟨c'', hm'', hc'.state.trans hc.state, hc'.cid.trans hc.cid, hc'.apnId.trans hc.apnId,
    hc'.attempt.trans hc.attempt, fun x hx hl => hc.upcoming x (hc'.upcoming x hx hl) hl⟩

theorem Calm.refl (k : Core) : Calm k k := .of_controls rfl rfl rfl (List.suffix_refl _) rfl

theorem calm_post (k : Core) (m : MachineRef) {e : MachineEvent} (he : e.isConnect = false)
    (hlost : e.isLost = false) : Calm k (k.post m e) :=
  .of_modify (fun _ => Control.calm_post he hlost) rfl rfl rfl rfl rfl

theorem calls_of_isNews {e : MachineEvent} (he : e.isNews = true) :
    e.isConnect = false ∧ e.isLost = false := by
  cases e <;> first | exact ⟨rfl, rfl⟩ | cases he

theorem calls_of_isExternal {e : MachineEvent} (he : e.isExternal = true) :
    e.isConnect = false ∧ e.isLost = false := by
  cases e <;> first | exact ⟨rfl, rfl⟩ | cases he

/-- The request is given to a machine that has no attempt. -/
theorem engages_connect (hidle : k.owner t = none) (hfree : ∀ u, k.owner u ≠ some m)
    (hm : k.controls[m]? = some c) (hb : c.isBusy = false) (ha : c.attempt = none)
    (params : DataConnectionParams) (record : ConnectRecord) :
    Engages k (k.connect t m params record) t m := by
  have hcall : ¬ c.InCall := by
    intro hcall
    rw [hcall.isBusy] at hb
    cases hb
  refine ⟨hfree, fun x hx => ?_, hidle, fun u hu => if_neg hu, rfl, rfl, rfl, fun n hn =>
    getElem?_modify_of_ne (Ne.symm hn) _ _, _, getElem?_modify_self hm, fun h => hcall h,
    Control.upcoming_post_connect hb ha params⟩
  obtain rfl := Option.some.inj (hm.symm.trans hx)
  exact hcall

theorem Act.calls (h : k.Owned) (hw : k.WellFormed) (ha : Act k k') :
    Calm k k' ∨ ∃ t m, Engages k k' t m := by
  have hvacant : ∀ {t : ApnType}, k.state t = .idle → k.owner t = none := fun hidle =>
    ((h.linked _).of_not_engaged (by rw [hidle]; rfl)).1
  cases ha with
  | disconnect howner =>
    exact .inl (.of_modify (fun _ => Control.calm_post rfl rfl) rfl rfl rfl rfl rfl)
  | reset hstate => exact .inl (.of_controls rfl rfl rfl (List.suffix_refl _) rfl)
  | retry hstate => exact .inl (.of_controls rfl rfl rfl (List.suffix_refl _) rfl)
  | connect hidle hm hinactive hfree hparams hrecord =>
    exact .inr ⟨_, _, engages_connect (hvacant hidle) hfree hm
      (by simp [Control.isBusy, hinactive]) (h.idle hw hm hfree).2 _ _⟩
  | @create t params record hidle hbusy hparams hrecord =>
    have hfree : ∀ u, k.owner u ≠ some k.controls.length := by
      intro u hu
      cases h.linked u with
      | free ho => simp [hu] at ho
      | ended ho hm =>
        obtain rfl := Option.some.inj (hu.symm.trans ho)
        simp at hm
      | held ho hm =>
        obtain rfl := Option.some.inj (hu.symm.trans ho)
        simp at hm
    have hnew : (k.controls ++ [CellularDataStateMachine.create.control])[k.controls.length]? =
        some CellularDataStateMachine.create.control := by
      rw [List.getElem?_append_right (Nat.le_refl _), Nat.sub_self]
      rfl
    have he := engages_connect (k := { k with
      controls := k.controls ++ [CellularDataStateMachine.create.control] })
      (hvacant hidle) hfree hnew rfl rfl params record
    refine .inr ⟨_, _, hfree, fun c hc => ?_, hvacant hidle, he.owner, rfl, rfl, rfl, fun n hn => ?_,
      he.request⟩
    · simp at hc
    · refine (he.others n hn).trans ?_
      rcases Nat.lt_or_ge n k.controls.length with hlt | hge
      · exact List.getElem?_append_left hlt
      · rw [List.getElem?_eq_none hge, List.getElem?_eq_none]
        rw [List.length_append, List.length_singleton]
        exact Nat.lt_of_le_of_ne hge (Ne.symm hn)
  | tell he =>
    refine .inl ⟨rfl, rfl, rfl, List.suffix_refl _, List.length_map .., fun hm => ?_⟩
    obtain ⟨hconnect, hlost⟩ := calls_of_isNews he
    exact ⟨_, by rw [List.getElem?_map, hm, Option.map_some], Control.calm_post hconnect hlost⟩

/-- The end of a connection that was on its way to its holder. -/
theorem Owned.finish_calls (h : k.Owned) {info : SetupDataCallResultInfo}
    {rest : List HandlerEvent} (hnotices : k.notices = .disconnectDataComplete info :: rest) :
    Calm k (Core.finish { k with notices := rest } info) ∨
      ∃ t m c, Releases k (Core.finish { k with notices := rest } info) info t m c := by
  have hrest : rest <:+ k.notices := hnotices ▸ List.suffix_cons _ _
  unfold Core.finish
  cases hid : ApnType.ofId info.flag with
  | none => exact .inl (.of_controls rfl rfl rfl hrest rfl)
  | some t =>
    have hflag : info.flag = t.id := (ApnType.id_of_ofId hid).symm
    have hone : 1 ≤ k.ends t := by
      rw [ends_cons hnotices t]
      simp [HandlerEvent.isEnd, hflag]
    dsimp only
    cases h.linked t with
    | free howner hends => omega
    | held howner hm hends => omega
    | @ended m c howner hm hends hstate ha =>
      rw [howner]
      have hun : unregister { k with notices := rest } m =
          { k with notices := rest, registry := k.registry.filter fun p => p.1 ≠ c.cid } := by
        simp only [unregister, hm]
      refine .inr ⟨t, m, c, hflag, ?_, howner, hm, ha, fun u => ?_, ?_, ?_, ?_⟩
      · dsimp only
        rw [hun]
        exact hnotices
      · dsimp only
        rw [hun]
        rfl
      · dsimp only
        rw [hun]
        rfl
      · dsimp only
        rw [hun]
        rfl
      · dsimp only
        rw [hun]
        rfl

theorem calm_complete {info : SetupDataCallResultInfo} {rest : List HandlerEvent}
    (hnotices : k.notices = .establishDataConnectionComplete info :: rest) :
    Calm k (Core.complete { k with notices := rest } info) := by
  have hrest : rest <:+ k.notices := hnotices ▸ List.suffix_cons _ _
  unfold Core.complete
  split
  · exact .of_controls rfl rfl rfl hrest rfl
  · split <;> exact .of_controls rfl rfl rfl hrest rfl

/-- What a trigger does to owners, calls and the registry. -/
inductive Trigger.Calls (k : Core) : Cue → Core → Prop
  | calm {cue : Cue} {k' : Core} (h : Calm k k') : Trigger.Calls k cue k'
  | releases {k' : Core} {info : SetupDataCallResultInfo} {t : ApnType} {m : MachineRef}
      {c : Control} (h : Releases k k' info t m c) :
      Trigger.Calls k (.handler (.disconnectDataComplete info)) k'
  | dispatch {env : MachineEnv} {m : MachineRef} {c c' : Control} {e : MachineEvent}
      {q : EventQueue MachineEvent} {os : List MachineOutput} (hm : k.controls[m]? = some c)
      (hnext : c.queue.next = some (e, q))
      (ht : Control.Transition env { c with queue := q } e c' os) :
      Trigger.Calls k (.machine m) (os.foldl (fun k o => k.receive m o)
        { k.logMachineEvent m c e with controls := k.controls.set m c' })
  | report {dcList : List SetupDataCallResultInfo} :
      Trigger.Calls k (.report dcList) (k.radioDataCallListChanged dcList)

theorem Trigger.calls (h : k.Owned) (hw : k.WellFormed) (ht : Trigger cue k k') :
    Trigger.Calls k cue k' := by
  cases ht with
  | skip hcue => exact .calm (.refl k)
  | complete hnotices => exact .calm (calm_complete hnotices)
  | finish hnotices =>
    rcases h.finish_calls hnotices with hcalm | ⟨t, m, c, hr⟩
    · exact .calm hcalm
    · exact .releases hr
  | update hnotices =>
    exact .calm (.of_controls rfl rfl rfl (hnotices ▸ List.suffix_cons _ _) rfl)
  | answer he =>
    obtain ⟨hconnect, hlost⟩ := calls_of_isExternal he
    exact .calm (calm_post k _ hconnect hlost)
  | dispatch hm hnext ht => exact .dispatch hm hnext ht
  | @fire _ m c i q hm hq =>
    refine .calm ⟨rfl, rfl, rfl, List.suffix_refl _, List.length_set, fun {n x} hn => ?_⟩
    by_cases hne : n = m
    · subst hne
      obtain rfl := Option.some.inj (hm.symm.trans hn)
      exact ⟨_, List.getElem?_set_self (List.getElem?_eq_some_iff.mp hm).1,
        Control.calm_fire (hw _ (List.mem_of_getElem? hm)) hq⟩
    · exact ⟨x, getElem?_set_other hne hn, .refl x⟩
  | rearm => exact .calm (.of_modify (fun _ => Control.calm_rearm) rfl rfl rfl rfl rfl)
  | report => exact .report
  | capability =>
    exact .calm (foldl_invariant (P := Calm k) (fun k₁ m hk => hk.trans (calm_post k₁ m rfl rfl)) _
      (.refl k))

/-! Registered machines -/

/-- Where a registered machine has no call, the report of its end has been sent to its holder. A
report of a loss waits only for machines that are registered. -/
structure Registered (k : Core) : Prop where
  entry : ∀ cid m, (cid, m) ∈ k.registry → ∃ c, k.controls[m]? = some c ∧ c.cid = cid ∧
    (c.InCall ∨ c.attempt = none ∧ ∃ t, k.owner t = some m ∧ c.apnId = t.id)
  lost : ∀ (m : MachineRef) (c : Control), k.controls[m]? = some c → c.attempt ≠ none →
    ¬ c.InCall → ∀ x ∈ c.upcoming, x.isLost = false

theorem Registered.calm (h : k.Registered) (hc : Calm k k') : k'.Registered where
  entry cid m hmem := by
    obtain ⟨c, hm, hcid, hcall⟩ := h.entry cid m (hc.registry ▸ hmem)
    obtain ⟨c', hm', hk⟩ := hc.controls hm
    refine ⟨c', hm', hk.cid.trans hcid, hcall.imp (fun h => h.congr hk.state) ?_⟩
    rintro ⟨ha, t, ht, hid⟩
    exact ⟨hk.attempt.trans ha, t, hc.owner ▸ ht, hk.apnId.trans hid⟩
  lost m c' hm' ha hcall x hx := by
    obtain ⟨c, hm, hk⟩ := hc.control hm'
    have hno := h.lost m c hm (hk.attempt ▸ ha) fun h => hcall (h.congr hk.state)
    by_contra hl
    rw [Bool.not_eq_false] at hl
    exact absurd hl (by simp [hno x (hk.upcoming x hx hl)])

theorem Registered.engages (h : k.Registered) (he : Engages k k' t m) : k'.Registered where
  entry cid n hmem := by
    obtain ⟨c, hn, hcid, hcall⟩ := h.entry cid n (he.registry ▸ hmem)
    have hne : n ≠ m := by
      rintro rfl
      rcases hcall with hcall | ⟨-, u, hu, -⟩
      · exact he.idle c hn hcall
      · exact he.free u hu
    refine ⟨c, (he.others n hne).trans hn, hcid, hcall.imp_right ?_⟩
    rintro ⟨ha, u, hu, hid⟩
    refine ⟨ha, u, ?_, hid⟩
    rw [he.owner u, hu]
    rintro rfl
    simp [he.vacant] at hu
  lost n c hn ha hcall x hx := by
    by_cases hne : n = m
    · subst hne
      obtain ⟨c', hm', -, hup⟩ := he.request
      obtain rfl := Option.some.inj (hn.symm.trans hm')
      rw [hup] at hx
      cases hx
    · exact h.lost n c ((he.others n hne).symm.trans hn) ha hcall x hx

theorem Registered.releases (h : k.Registered) {info : SetupDataCallResultInfo}
    (hr : Releases k k' info t m c) : k'.Registered where
  entry cid n hmem := by
    rw [hr.registry] at hmem
    obtain ⟨hmem, hne⟩ := List.mem_filter.mp hmem
    obtain ⟨x, hn, hcid, hcall⟩ := h.entry cid n hmem
    refine ⟨x, hr.controls ▸ hn, hcid, hcall.imp_right ?_⟩
    rintro ⟨ha, u, hu, hid⟩
    refine ⟨ha, u, ?_, hid⟩
    rw [hr.owner, if_neg, hu]
    rintro rfl
    obtain rfl := Option.some.inj (hu.symm.trans hr.owned)
    obtain rfl := Option.some.inj (hn.symm.trans hr.control)
    exact of_decide_eq_true hne hcid.symm
  lost n x hn := h.lost n x (hr.controls ▸ hn)

theorem registry_receive {os : List MachineOutput}
    (hno : ∀ cid, .addActiveConnectionByCid cid ∉ os) (k : Core) (m : MachineRef) :
    (os.foldl (fun k o => k.receive m o) k).registry = k.registry := by
  induction os generalizing k with
  | nil => rfl
  | cons o os ih =>
    refine (ih (fun cid h => hno cid (List.mem_cons_of_mem _ h)) _).trans ?_
    cases o with
    | addActiveConnectionByCid cid => exact absurd List.mem_cons_self (hno cid)
    | _ => rfl

theorem registry_logMachineEvent (k : Core) (m : MachineRef) (c : Control) (e : MachineEvent) :
    (k.logMachineEvent m c e).registry = k.registry := by
  cases e with
  | setupDataCall answer =>
    cases answer with
    | resultInfo info =>
      simp only [logMachineEvent]
      split_ifs <;> rfl
    | rilInfo info => rfl
    | empty => rfl
  | rilAdapterHostDied info =>
    simp only [logMachineEvent]
    split_ifs <;> rfl
  | _ => rfl

/-- The machine `m` has become `c'`; whatever it has got to do with the registry is shown. -/
theorem Registered.set (h : k.Registered) (hm : k.controls[m]? = some c)
    (howner : k'.owner = k.owner) (hcontrols : k'.controls = k.controls.set m c')
    (hself : ∀ cid, (cid, m) ∈ k'.registry → c'.cid = cid ∧
      (c'.InCall ∨ c'.attempt = none ∧ ∃ t, k.owner t = some m ∧ c'.apnId = t.id))
    (hother : ∀ cid n, n ≠ m → (cid, n) ∈ k'.registry → (cid, n) ∈ k.registry)
    (hlost : c'.attempt ≠ none → ¬ c'.InCall → ∀ x ∈ c'.upcoming, x.isLost = false) :
    k'.Registered where
  entry cid n hmem := by
    rw [howner, hcontrols]
    by_cases hne : n = m
    · subst hne
      exact ⟨c', List.getElem?_set_self (List.getElem?_eq_some_iff.mp hm).1, hself cid hmem⟩
    · obtain ⟨x, hn, hx⟩ := h.entry cid n (hother cid n hne hmem)
      exact ⟨x, getElem?_set_other hne hn, hx⟩
  lost n x hn := by
    rcases getElem?_set_cases hm (hcontrols ▸ hn) with ⟨rfl, rfl⟩ | ⟨-, hn⟩
    · exact hlost
    · exact h.lost n x hn

theorem Registered.dispatch (h : k.Registered) (hw : k.WellFormed) (ho : k.Owned)
    {env : MachineEnv} {e : MachineEvent} {q : EventQueue MachineEvent} {os : List MachineOutput}
    (hm : k.controls[m]? = some c) (hnext : c.queue.next = some (e, q))
    (ht : Control.Transition env { c with queue := q } e c' os) :
    Registered (os.foldl (fun k o => k.receive m o)
      { k.logMachineEvent m c e with controls := k.controls.set m c' }) := by
  have hmem := List.mem_of_getElem? hm
  have hs := (ho.sound c hmem).single
  obtain ⟨-, hp⟩ := hs.transition (hw c hmem) hnext ht
  obtain ⟨k', heq, -, howner, hcontrols, -⟩ := dispatch_frame k m c c' e os
  have hregistry := registry_logMachineEvent k m c e
  rw [← heq]
  -- The report of the end goes to the holder that owns the machine.
  have hend : ∀ info, os = [.disconnectDataComplete info] → c'.attempt = none ∧ c.attempt ≠ none := by
    rintro info rfl
    cases hp with
    | keep _ _ _ _ hno => exact absurd (List.mem_singleton_self _) (hno info)
    | complete _ _ hos => cases hos
    | finish hflag ha => exact ⟨ha, hflag ▸ Option.some_ne_none _⟩
  have hcall : c.InCall → c'.cid = c.cid ∧
      (c'.InCall ∨ c'.attempt = none ∧ ∃ t, k.owner t = some m ∧ c'.apnId = t.id) := by
    intro hc
    obtain ⟨hcid, hid, hin⟩ := ht.inCall hc
    refine ⟨hcid, hin.imp_right fun ⟨info, hos⟩ => ?_⟩
    obtain ⟨ha, hnone⟩ := hend info hos
    obtain ⟨t, hown⟩ := ho.owned m c hm hnone
    exact ⟨ha, t, hown, hid.trans (Option.some.inj
      ((Control.attempt_busy hc.isBusy).symm.trans (ho.attempt hown hm hnone).2))⟩
  have hlost : c'.attempt ≠ none → ¬ c'.InCall → ∀ x ∈ c'.upcoming, x.isLost = false := by
    intro ha hnot x hx
    have hattempt : c.attempt ≠ none := fun hnone =>
      ha (hs.transition_none (hw c hmem) hnext ht hnone).2.2.1
    have hout : ¬ c.InCall := by
      intro hc
      rcases (hcall hc).2 with hin | ⟨hnone, -⟩
      · exact hnot hin
      · exact ha hnone
    rcases hs.mem_upcoming (hw c hmem) hnext ht ha hx with hx | htimer
    · exact h.lost m c hm hattempt hout x hx
    · exact Control.isLost_of_isTimer htimer
  by_cases hadd : ∃ cid, .addActiveConnectionByCid cid ∈ os
  · obtain ⟨cid, hadd⟩ := hadd
    obtain ⟨hst, hst', hcid, rfl, -⟩ := ht.accepted hadd
    have hst : c.state = some .activating := hst
    have hreg : k'.registry = (cid, m) :: k.registry.filter fun p => p.1 ≠ cid := by
      rw [heq, ← hregistry]
      rfl
    refine h.set hm howner hcontrols (fun i hi => ?_) (fun i n hne hi => ?_) hlost
    · refine ⟨hcid.trans ?_, .inl (.inl hst')⟩
      rcases List.mem_cons.mp (hreg ▸ hi) with hi | hi
      · exact (congrArg Prod.fst hi).symm
      · obtain ⟨x, hx, -, hin⟩ := h.entry i m (List.mem_filter.mp hi).1
        obtain rfl := Option.some.inj (hm.symm.trans hx)
        rcases hin with (hin | hin) | ⟨ha, -⟩
        · cases hst.symm.trans hin
        · cases hst.symm.trans hin
        · rw [Control.attempt_busy (Control.isBusy_iff.mpr (.inl hst))] at ha
          cases ha
    · rcases List.mem_cons.mp (hreg ▸ hi) with hi | hi
      · exact absurd (congrArg Prod.snd hi) hne
      · exact (List.mem_filter.mp hi).1
  · have hno : ∀ cid, .addActiveConnectionByCid cid ∉ os := fun cid h => hadd ⟨cid, h⟩
    have hreg : k'.registry = k.registry := heq ▸ (registry_receive hno _ m).trans hregistry
    refine h.set hm howner hcontrols (fun cid hi => ?_) (fun cid n _ hi => hreg ▸ hi) hlost
    obtain ⟨x, hx, hcid, hin⟩ := h.entry cid m (hreg ▸ hi)
    obtain rfl := Option.some.inj (hm.symm.trans hx)
    rcases hin with hin | ⟨ha, t, hown, hid⟩
    · exact ⟨(hcall hin).1.trans hcid, (hcall hin).2⟩
    · obtain ⟨hcid', hid', ha', -⟩ := hs.transition_none (hw _ hmem) hnext ht ha
      exact ⟨hcid'.trans hcid, .inr ⟨ha', t, hown, hid'.trans hid⟩⟩

theorem Registered.report (h : k.Registered) (dcList : List SetupDataCallResultInfo) :
    (k.radioDataCallListChanged dcList).Registered := by
  refine (report_invariant (P := fun k₁ => k₁.Registered ∧ k₁.registry = k.registry)
    (fun k₁ info _ hk => ?_) (fun k₁ m hmem hk => ?_) (fun k₁ cid hk => ?_) ⟨h, rfl⟩).1
  · unfold relayDataCall
    split
    · exact ⟨⟨hk.1.entry, hk.1.lost⟩, hk.2⟩
    · exact hk
  · obtain ⟨hk, hreg⟩ := hk
    obtain ⟨⟨cid, n⟩, hentry, rfl⟩ := List.mem_map.mp hmem
    obtain ⟨c, hm, -, hin⟩ := hk.entry cid n (hreg ▸ hentry)
    simp only [loseConnection, hm]
    split
    · rename_i info _
      refine ⟨hk.set hm rfl (modify_of_getElem? hm _) (fun i hi => ?_) (fun _ _ _ hi => hi)
        fun ha hnot => ?_, hreg⟩
      · obtain ⟨x, hx, hcid, hcall⟩ := hk.entry i n hi
        obtain rfl := Option.some.inj (hm.symm.trans hx)
        refine ⟨hcid, hcall.imp (fun h => h.congr rfl) ?_⟩
        rintro ⟨ha, hown⟩
        exact ⟨(Control.post_attempt rfl).trans ha, hown⟩
      · rcases hin with hin | ⟨hnone, -⟩
        · exact absurd (hin.congr rfl) hnot
        · exact absurd ((Control.post_attempt rfl).trans hnone) ha
    · exact ⟨hk, hreg⟩
  · exact ⟨⟨hk.1.entry, hk.1.lost⟩, hk.2⟩

theorem Registered.act (h : k.Registered) (ha : Calm k k' ∨ ∃ t m, Engages k k' t m) :
    k'.Registered := by
  rcases ha with hc | ⟨t, m, he⟩
  · exact h.calm hc
  · exact h.engages he

theorem Registered.trigger (h : k.Registered) (hw : k.WellFormed) (ho : k.Owned)
    (ht : Trigger.Calls k cue k') : k'.Registered := by
  cases ht with
  | calm hc => exact h.calm hc
  | releases hr => exact h.releases hr
  | dispatch hm hnext ht => exact h.dispatch hw ho hm hnext ht
  | report => exact h.report _

theorem blank_registered : blank.Registered where
  entry _ _ h := nomatch h
  lost _ _ h := nomatch h

end Core

namespace Slot

variable {s : Slot} {ok : Label → Slot → Prop}

theorem reachable_registered (h : system.ReachableWhen ok s) :
    s.core.Owned ∧ s.core.Registered :=
  core_invariant (P := fun k => k.Owned ∧ k.Registered) h ⟨Core.blank_owned, Core.blank_registered⟩
    (fun _ _ hw hp ha => ⟨hp.1.act hw ha, hp.2.act (ha.calls hp.1 hw)⟩)
    fun _ _ _ _ hw hp _ ht => ⟨hp.1.trigger hw ht, hp.2.trigger hw hp.1 (ht.calls hp.1 hw)⟩

/-- The rule for invariants about calls. -/
theorem calls_invariant {P : Core → Prop} (h : system.ReachableWhen ok s) (hblank : P Core.blank)
    (hact : ∀ k k', k.Owned → k.Registered → P k →
      (Core.Calm k k' ∨ ∃ t m, Core.Engages k k' t m) → P k')
    (htrigger : ∀ l s k, s.Regular → s.core.WellFormed → s.core.Owned → s.core.Registered →
      P s.core → ok l s → Core.Trigger.Calls s.core (s.cue l) k → P k) : P s.core := by
  refine (core_invariant (P := fun k => (k.Owned ∧ k.Registered) ∧ P k) h
    ⟨⟨Core.blank_owned, Core.blank_registered⟩, hblank⟩ ?_ ?_).2
  · rintro k k' hw ⟨⟨ho, hreg⟩, hp⟩ ha
    have hcalls := ha.calls ho hw
    exact ⟨⟨ho.act hw ha, hreg.act hcalls⟩, hact k k' ho hreg hp hcalls⟩
  · rintro l s k hr hw ⟨⟨ho, hreg⟩, hp⟩ hok ht
    have hcalls := ht.calls ho hw
    exact ⟨⟨ho.trigger hw ht, hreg.trigger hw ho hcalls⟩,
      htrigger l s k hr hw ho hreg hp hok hcalls⟩

end Slot
end CellularData
