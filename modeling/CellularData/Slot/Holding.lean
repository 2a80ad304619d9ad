import Mathlib.Data.List.Perm.Subperm
import CellularData.Slot.Ownership

/-! Every act and every trigger keeps the ownership of the machines. -/
namespace CellularData
open Lib StateMachine Relation

namespace Core

variable {k k' : Core} {cue : Cue} {t u : ApnType}

/-! Acts -/

/-- The holder of another type is linked as before. -/
theorem Linked.other (h : k.Linked u) (hstate : k'.state u = k.state u)
    (howner : k'.owner u = k.owner u) (hends : k'.ends u = k.ends u)
    (hcompletes : k.Completes u → k'.Completes u)
    (hcontrols : ∀ {m : MachineRef} {c : Control}, k.owner u = some m → k.controls[m]? = some c →
      k'.controls[m]? = some c) : k'.Linked u := by
  cases h with
  | free ho he hst => exact .free (howner.trans ho) (hends.trans he) (hstate ▸ hst)
  | ended ho hm he hst ha =>
    exact .ended (howner.trans ho) (hcontrols ho hm) (hends.trans he) (hstate ▸ hst) ha
  | held ho hm he hst ha hc hd =>
    refine .held (howner.trans ho) (hcontrols ho hm) (hends.trans he) (hstate ▸ hst) ha
      (fun h => ?_) fun h => hd (hstate ▸ h)
    exact (hc (hstate ▸ h)).imp id (Or.imp_right hcompletes)

theorem setState_of_ne {st : ApnProfileState} (h : u ≠ t) : (k.setState t st).state u = k.state u :=
  if_neg h

theorem setState_self {st : ApnProfileState} : (k.setState t st).state t = st := if_pos rfl

/-- A holder without a machine changes its state. -/
theorem Owned.setState (h : k.Owned) {st : ApnProfileState}
    (hst : (k.state t).isEngaged = false) (hst' : st.isEngaged = false) :
    (k.setState t st).Owned where
  linked u := by
    by_cases hu : u = t
    · subst hu
      obtain ⟨howner, hends⟩ := (h.linked u).of_not_engaged hst
      exact .free howner hends (setState_self.symm ▸ hst')
    · exact (h.linked u).other (setState_of_ne hu) rfl rfl id fun _ hm => hm
  injective := h.injective
  sound := h.sound
  owned := h.owned
  size := h.size

theorem getElem?_modify_of_ne {m n : MachineRef} (hmn : m ≠ n) (f : Control → Control)
    (l : List Control) : (l.modify m f)[n]? = l[n]? := by
  simp [hmn]

theorem getElem?_modify_self {m : MachineRef} {f : Control → Control} {l : List Control}
    {c : Control} (hm : l[m]? = some c) : (l.modify m f)[m]? = some (f c) := by
  simp [hm]

theorem Owned.disconnect (h : k.Owned) {m : MachineRef} (howner : k.owner t = some m)
    (params : DataDisconnectParams) : (k.disconnect t m params).Owned := by
  have hattempt : ∀ {n : MachineRef} {c : Control},
      (k.controls.modify m fun c => c.post (.disconnect params))[n]? = some c →
      ∃ c₀, k.controls[n]? = some c₀ ∧ c.attempt = c₀.attempt := by
    intro n c hn
    rw [List.getElem?_modify] at hn
    obtain ⟨c₀, hc₀, rfl⟩ := Option.map_eq_some_iff.mp hn
    refine ⟨c₀, hc₀, ?_⟩
    by_cases hmn : m = n
    · simp only [hmn, if_true]
      exact Control.post_attempt rfl
    · simp only [hmn, if_false]
  refine ⟨fun u => ?_, h.injective, forall_mem_modify h.sound (fun c hc =>
    (hc.post_disconnect params).1) m, fun n c hn ha => ?_, ?_⟩
  · by_cases hu : u = t
    · subst hu
      have hst' : (k.disconnect u m params).state u = .disconnecting := setState_self
      cases h.linked u with
      | free ho => simp [howner] at ho
      | ended ho hm he hst ha =>
        obtain rfl := Option.some.inj (howner.symm.trans ho)
        exact .ended howner (getElem?_modify_self hm) he (hst' ▸ rfl)
          ((Control.post_attempt rfl).trans ha)
      | @held _ c ho hm he hst ha hc hd =>
        obtain rfl := Option.some.inj (howner.symm.trans ho)
        have hsound := h.sound _ (List.mem_of_getElem? hm)
        refine .held howner (getElem?_modify_self hm) he (hst' ▸ rfl)
          ((Control.post_attempt rfl).trans ha) (fun h => ?_) fun _ => ?_
        · rw [hst'] at h
          cases h
        · exact (hsound.post_disconnect params).2 (ha ▸ Option.some_ne_none _)
    · refine (h.linked u).other (setState_of_ne hu) rfl rfl id fun {n c} ho hn => ?_
      have hmn : m ≠ n := by
        rintro rfl
        exact hu (h.injective u t m ho howner)
      exact (getElem?_modify_of_ne hmn _ _).trans hn
  · obtain ⟨c₀, hc₀, heq⟩ := hattempt hn
    exact h.owned n c₀ hc₀ (heq ▸ ha)
  · exact Nat.le_trans (Nat.le_of_eq (List.length_modify ..)) h.size

/-- An idle machine without holder and attempt is given to a holder that has none. -/
theorem owned_connect {m : MachineRef} {c : Control} (hlinked : ∀ u, k.Linked u)
    (hinjective : ∀ t u m, k.owner t = some m → k.owner u = some m → t = u)
    (hsound : ∀ n c, n ≠ m → k.controls[n]? = some c → c.Sound)
    (howned : ∀ n c, k.controls[n]? = some c → c.attempt ≠ none → ∃ t, k.owner t = some n)
    (hsize : k.controls.length ≤ ApnType.all.length) (hidle : k.state t = .idle)
    (hm : k.controls[m]? = some c) (hfree : ∀ u, k.owner u ≠ some m) (hs : c.Single)
    (hb : c.isBusy = false) (ha : c.attempt = none) {params : DataConnectionParams}
    (hparams : params.apnHolder = t) (record : ConnectRecord) :
    (k.connect t m params record).Owned := by
  obtain ⟨hsound', hattempt', hdue', hwaits'⟩ := hs.post_connect hb ha params
  obtain ⟨hnone, hends⟩ := (hlinked t).of_not_engaged (by rw [hidle]; rfl)
  have howner : ∀ u, (k.connect t m params record).owner u = if u = t then some m else k.owner u :=
    fun _ => rfl
  have hst' : (k.connect t m params record).state t = .connecting := setState_self
  have hm' : (k.connect t m params record).controls[m]? = some (c.post (.connect params)) :=
    getElem?_modify_self hm
  have hother : ∀ {n : MachineRef}, n ≠ m →
      (k.connect t m params record).controls[n]? = k.controls[n]? :=
    fun hn => getElem?_modify_of_ne (Ne.symm hn) _ _
  refine ⟨fun u => ?_, fun u v n hu hv => ?_, fun x hx => ?_, fun n x hn hx => ?_, ?_⟩
  · by_cases hu : u = t
    · subst hu
      refine .held ((howner u).trans (if_pos rfl)) hm' hends (hst' ▸ rfl) (hparams ▸ hattempt')
        (fun _ => ⟨hdue', .inl hwaits'⟩) fun h => ?_
      rw [hst'] at h
      cases h
    · refine (hlinked u).other (setState_of_ne hu) ((howner u).trans (if_neg hu)) rfl id
        fun {n c} ho hn => ?_
      have hne : n ≠ m := by
        rintro rfl
        exact hfree u ho
      exact (hother hne).trans hn
  · rw [howner] at hu hv
    split_ifs at hu hv with hut hvt hvt
    · exact hut.trans hvt.symm
    · exact absurd (Option.some.inj hu ▸ hv) (hfree v)
    · exact absurd (Option.some.inj hv ▸ hu) (hfree u)
    · exact hinjective u v n hu hv
  · obtain ⟨n, hn⟩ := List.mem_iff_getElem?.mp hx
    by_cases hne : n = m
    · subst hne
      obtain rfl := Option.some.inj (hn.symm.trans hm')
      exact hsound'
    · exact hsound n x hne ((hother hne).symm.trans hn)
  · by_cases hne : n = m
    · exact ⟨t, by rw [howner, if_pos rfl, hne]⟩
    · obtain ⟨u, hu⟩ := howned n x ((hother hne).symm.trans hn) hx
      refine ⟨u, ?_⟩
      rw [howner, if_neg, hu]
      rintro rfl
      simp [hnone] at hu
  · exact Nat.le_trans (Nat.le_of_eq (List.length_modify ..)) hsize

/-- A machine that nobody owns is idle. -/
theorem Owned.idle (h : k.Owned) (hw : k.WellFormed) {m : MachineRef} {c : Control}
    (hm : k.controls[m]? = some c) (hfree : ∀ u, k.owner u ≠ some m) :
    c.state = some .inactive ∧ c.attempt = none := by
  have hmem := List.mem_of_getElem? hm
  have ha : c.attempt = none := by
    by_contra ha
    obtain ⟨u, hu⟩ := h.owned m c hm ha
    exact hfree u hu
  refine ⟨?_, ha⟩
  cases hst : c.state with
  | none => exact absurd ha ((h.sound c hmem).booted hst)
  | some st =>
    cases st with
    | inactive => rfl
    | default_ => exact absurd hst (hw c hmem).leaf
    | _ =>
      rw [Control.attempt_busy (by simp [Control.isBusy, hst])] at ha
      cases ha

/-- Where every machine is taken there are fewer machines than holders. -/
theorem length_lt_of_owned (hall : ∀ m, m < k.controls.length → ∃ u, k.owner u = some m)
    (hnone : k.owner t = none) : k.controls.length < ApnType.all.length := by
  have hsub : List.range k.controls.length ⊆ (ApnType.all.erase t).filterMap k.owner := by
    intro m hm
    obtain ⟨u, hu⟩ := hall m (List.mem_range.mp hm)
    have hne : u ≠ t := by
      rintro rfl
      simp [hnone] at hu
    exact List.mem_filterMap.mpr ⟨u, (List.mem_erase_of_ne hne).mpr u.mem_all, hu⟩
  have hle := (List.Nodup.subperm List.nodup_range hsub).length_le
  rw [List.length_range] at hle
  have herase : (ApnType.all.erase t).length + 1 = ApnType.all.length := by
    rw [List.length_erase_of_mem t.mem_all]
    rfl
  have hfilter := List.length_filterMap_le k.owner (ApnType.all.erase t)
  omega

theorem Owned.create (h : k.Owned) (hw : k.WellFormed) (hidle : k.state t = .idle)
    (hbusy : ∀ m c, k.controls[m]? = some c → c.state ≠ some .inactive ∨ ∃ u, k.owner u = some m)
    {params : DataConnectionParams} (hparams : params.apnHolder = t) (record : ConnectRecord) :
    (Core.connect { k with controls := k.controls ++ [CellularDataStateMachine.create.control] } t
      k.controls.length params record).Owned := by
  have hlt : ∀ {m : MachineRef} {c : Control}, k.controls[m]? = some c → m < k.controls.length :=
    fun hm => (List.getElem?_eq_some_iff.mp hm).1
  have hold : ∀ {m : MachineRef} {c : Control}, k.controls[m]? = some c →
      (k.controls ++ [CellularDataStateMachine.create.control])[m]? = some c :=
    fun hm => (List.getElem?_append_left (hlt hm)).trans hm
  have hnew : ∀ {m : MachineRef} {c : Control},
      (k.controls ++ [CellularDataStateMachine.create.control])[m]? = some c →
      m = k.controls.length ∧ c = CellularDataStateMachine.create.control ∨
        k.controls[m]? = some c := by
    intro m c hm
    rcases Nat.lt_or_ge m k.controls.length with hml | hml
    · exact .inr ((List.getElem?_append_left hml).symm.trans hm)
    · rw [List.getElem?_append_right hml] at hm
      obtain ⟨hi, hget⟩ := List.getElem?_eq_some_iff.mp hm
      have hzero : m - k.controls.length = 0 := by simpa using hi
      refine .inl ⟨Nat.le_antisymm (Nat.sub_eq_zero_iff_le.mp hzero) hml, ?_⟩
      simpa [hzero] using hget.symm
  have hfree : ∀ u, k.owner u ≠ some k.controls.length := by
    intro u hu
    cases h.linked u with
    | free ho => simp [hu] at ho
    | ended ho hm =>
      obtain rfl := Option.some.inj (hu.symm.trans ho)
      exact absurd (hlt hm) (Nat.lt_irrefl _)
    | held ho hm =>
      obtain rfl := Option.some.inj (hu.symm.trans ho)
      exact absurd (hlt hm) (Nat.lt_irrefl _)
  have hall : ∀ m, m < k.controls.length → ∃ u, k.owner u = some m := by
    intro m hm
    by_contra hno
    have hfree : ∀ u, k.owner u ≠ some m := fun u hu => hno ⟨u, hu⟩
    rcases hbusy m _ (List.getElem?_eq_getElem hm) with hb | hb
    · exact hb (h.idle hw (List.getElem?_eq_getElem hm) hfree).1
    · exact hno hb
  have hsize := length_lt_of_owned hall ((h.linked t).of_not_engaged (by rw [hidle]; rfl)).1
  refine owned_connect (k := { k with
      controls := k.controls ++ [CellularDataStateMachine.create.control] })
    (fun u => ?_) h.injective (fun n c hn hc => ?_) (fun n c hc ha => ?_) ?_ hidle
    (c := CellularDataStateMachine.create.control) ?_ hfree ?_ rfl rfl hparams record
  · exact (h.linked u).other rfl rfl rfl id fun _ hm => hold hm
  · rcases hnew hc with ⟨rfl, -⟩ | hc
    · exact absurd rfl hn
    · exact h.sound c (List.mem_of_getElem? hc)
  · rcases hnew hc with ⟨-, rfl⟩ | hc
    · exact absurd rfl ha
    · exact h.owned n c hc ha
  · rw [List.length_append]
    exact hsize
  · rw [List.getElem?_append_right (Nat.le_refl _), Nat.sub_self]
    rfl
  · exact ⟨fun x hx => List.mem_singleton.mp hx ▸ rfl, (fun x hx => nomatch hx), fun h => nomatch h⟩

theorem Owned.act (h : k.Owned) (hw : k.WellFormed) (ha : Act k k') : k'.Owned := by
  cases ha with
  | disconnect howner => exact h.disconnect howner _
  | reset hst => exact h.setState (by rcases hst with hst | hst <;> rw [hst] <;> rfl) rfl
  | retry hst => exact h.setState (by rw [hst]; rfl) rfl
  | connect hidle hm hinactive hfree hparams hrecord =>
    have hs := h.sound _ (List.mem_of_getElem? hm)
    exact owned_connect h.linked h.injective (fun _ c _ hc => h.sound c (List.mem_of_getElem? hc))
      h.owned h.size hidle hm hfree hs.single (by simp [Control.isBusy, hinactive])
      (h.idle hw hm hfree).2 hparams.apnHolder _
  | create hidle hbusy hparams hrecord => exact h.create hw hidle hbusy hparams.apnHolder _
  | tell he =>
    refine h.modifyAll (List.length_map ..) fun hm => ?_
    exact ⟨_, by rw [List.getElem?_map, hm, Option.map_some],
      Control.same_post (isStrong_of_isNews he)⟩

/-! Triggers -/

theorem countP_isEnd_append {l : List HandlerEvent} {e : HandlerEvent} {i : Int} :
    (l ++ [e]).countP (HandlerEvent.isEnd i) =
      l.countP (HandlerEvent.isEnd i) + if e.isEnd i then 1 else 0 := by
  rw [List.countP_append, List.countP_singleton]

/-- What the outputs of a machine do to the abstract slot. -/
theorem receive_frame (k : Core) (m : MachineRef) (os : List MachineOutput) :
    (os.foldl (fun k o => k.receive m o) k).state = k.state ∧
      (os.foldl (fun k o => k.receive m o) k).owner = k.owner ∧
      (os.foldl (fun k o => k.receive m o) k).notices =
        k.notices ++ os.filterMap MachineOutput.notice := by
  induction os generalizing k with
  | nil => exact ⟨rfl, rfl, (List.append_nil _).symm⟩
  | cons o os ih =>
    obtain ⟨hstate, howner, hnotices⟩ := ih (k.receive m o)
    have hone : (k.receive m o).state = k.state ∧ (k.receive m o).owner = k.owner ∧
        (k.receive m o).notices = k.notices ++ [o].filterMap MachineOutput.notice := by
      cases o <;> exact ⟨rfl, rfl, by simp [receive, notify, logCall, MachineOutput.notice]⟩
    refine ⟨hstate.trans hone.1, howner.trans hone.2.1, ?_⟩
    rw [List.foldl_cons, hnotices, hone.2.2, List.append_assoc, ← List.filterMap_append]
    rfl

theorem logMachineEvent_frame (k : Core) (m : MachineRef) (c : Control) (e : MachineEvent) :
    (k.logMachineEvent m c e).state = k.state ∧ (k.logMachineEvent m c e).owner = k.owner ∧
      (k.logMachineEvent m c e).notices = k.notices := by
  cases e with
  | setupDataCall answer =>
    cases answer with
    | resultInfo info =>
      simp only [logMachineEvent]
      split_ifs <;> exact ⟨rfl, rfl, rfl⟩
    | rilInfo info => exact ⟨rfl, rfl, rfl⟩
    | empty => exact ⟨rfl, rfl, rfl⟩
  | rilAdapterHostDied info =>
    simp only [logMachineEvent]
    split_ifs <;> exact ⟨rfl, rfl, rfl⟩
  | _ => exact ⟨rfl, rfl, rfl⟩

/-- The abstract slot after a machine has processed an event. -/
theorem dispatch_frame (k : Core) (m : MachineRef) (c c' : Control) (e : MachineEvent)
    (os : List MachineOutput) :
    ∃ k', k' = os.foldl (fun k o => k.receive m o)
        { k.logMachineEvent m c e with controls := k.controls.set m c' } ∧
      k'.state = k.state ∧ k'.owner = k.owner ∧ k'.controls = k.controls.set m c' ∧
      k'.notices = k.notices ++ os.filterMap MachineOutput.notice := by
  obtain ⟨hstate, howner, hnotices⟩ := receive_frame
    { k.logMachineEvent m c e with controls := k.controls.set m c' } m os
  obtain ⟨hstate', howner', hnotices'⟩ := logMachineEvent_frame k m c e
  refine ⟨_, rfl, hstate.trans hstate', howner.trans howner', controls_foldl_receive _ _ _, ?_⟩
  rw [hnotices]
  exact congrArg (· ++ _) hnotices'

theorem getElem?_set_cases {m n : MachineRef} {l : List Control} {c c' x : Control}
    (hm : l[m]? = some c) (hn : (l.set m c')[n]? = some x) : n = m ∧ x = c' ∨ n ≠ m ∧ l[n]? = some x := by
  by_cases hne : m = n
  · subst hne
    rw [List.getElem?_set_self (List.getElem?_eq_some_iff.mp hm).1] at hn
    exact .inl ⟨rfl, (Option.some.inj hn).symm⟩
  · rw [List.getElem?_set_ne hne] at hn
    exact .inr ⟨Ne.symm hne, hn⟩

theorem getElem?_set_other {m n : MachineRef} {l : List Control} {c' x : Control} (hne : n ≠ m)
    (hn : l[n]? = some x) : (l.set m c')[n]? = some x := by
  rwa [List.getElem?_set_ne (Ne.symm hne)]

theorem filterMap_notice_eq_nil {os : List MachineOutput}
    (hcomplete : ∀ info, .establishDataConnectionComplete info ∉ os)
    (hdisconnect : ∀ info, .disconnectDataComplete info ∉ os) :
    os.filterMap MachineOutput.notice = [] := by
  refine List.filterMap_eq_nil_iff.mpr fun o ho => ?_
  cases o with
  | establishDataConnectionComplete info => exact absurd ho (hcomplete info)
  | disconnectDataComplete info => exact absurd ho (hdisconnect info)
  | _ => rfl

theorem ends_congr (h : k'.notices = k.notices) (t : ApnType) : k'.ends t = k.ends t := by
  simp only [ends, h]

/-- The attempt of a machine ends with one report for the holder that owns it. -/
theorem Owned.ended (h : k.Owned) {m : MachineRef} {c c' : Control} {i : Int}
    {info : SetupDataCallResultInfo} (hm : k.controls[m]? = some c) (hi : c.attempt = some i)
    (hflag : info.flag = i) (ha : c'.attempt = none) (hsound : c'.Sound)
    (hstate : k'.state = k.state) (howner : k'.owner = k.owner)
    (hcontrols : k'.controls = k.controls.set m c')
    (hnotices : k'.notices = k.notices ++ [.disconnectDataComplete info]) : k'.Owned := by
  obtain ⟨t, ht⟩ := h.owned m c hm (hi ▸ Option.some_ne_none _)
  have hid : i = t.id :=
    Option.some.inj (hi.symm.trans (h.attempt ht hm (hi ▸ Option.some_ne_none _)).2)
  have hself : k'.controls[m]? = some c' := by
    rw [hcontrols, List.getElem?_set_self (List.getElem?_eq_some_iff.mp hm).1]
  have hends : ∀ u, k'.ends u = k.ends u + if u = t then 1 else 0 := by
    intro u
    simp only [ends, hnotices, countP_isEnd_append, HandlerEvent.isEnd, hflag, hid]
    by_cases hu : u = t
    · simp [hu]
    · have hne : t.id ≠ u.id := fun h => hu (ApnType.id_injective h).symm
      simp [hu, hne]
  have hst : ∀ u, k'.state u = k.state u := congrFun hstate
  have ho : ∀ u, k'.owner u = k.owner u := congrFun howner
  refine ⟨fun u => ?_, fun u v n => ?_, fun x hx => ?_, fun n x hn hx => ?_, ?_⟩
  · by_cases hu : u = t
    · subst hu
      cases h.linked u with
      | free ho' => simp [ht] at ho'
      | ended ho' hm' _ _ ha' =>
        obtain rfl := Option.some.inj (ht.symm.trans ho')
        obtain rfl := Option.some.inj (hm.symm.trans hm')
        rw [hi] at ha'
        cases ha'
      | held ho' hm' he hs _ _ _ =>
        refine .ended ((ho u).trans ht) hself ?_ ((hst u).symm ▸ hs) ha
        rw [hends, he, if_pos rfl]
    · refine (h.linked u).other (hst u) (ho u) ((hends u).trans (by rw [if_neg hu, Nat.add_zero]))
        ?_ fun {n x} hn hx => ?_
      · rintro ⟨e, he, hc⟩
        exact ⟨e, hnotices ▸ List.mem_append_left _ he, hc⟩
      · rw [hcontrols]
        refine getElem?_set_other ?_ hx
        rintro rfl
        exact hu (h.injective u t n hn ht)
  · rw [howner]
    exact h.injective u v n
  · rw [hcontrols] at hx
    exact (List.mem_or_eq_of_mem_set hx).elim (h.sound x) fun heq => heq ▸ hsound
  · rw [hcontrols] at hn
    rw [howner]
    rcases getElem?_set_cases hm hn with ⟨rfl, -⟩ | ⟨-, hn⟩
    · exact ⟨t, ht⟩
    · exact h.owned n x hn hx
  · rw [hcontrols, List.length_set]
    exact h.size

/-- The attempt of a machine goes on. -/
theorem Owned.keptOn (h : k.Owned) {m : MachineRef} {c c' : Control}
    (hm : k.controls[m]? = some c) (hk : c.Kept c') (hsound : c'.Sound)
    (hstate : k'.state = k.state) (howner : k'.owner = k.owner)
    (hcontrols : k'.controls = k.controls.set m c') (hnotices : k'.notices = k.notices) :
    k'.Owned := by
  refine h.still ⟨hstate, howner, ends_congr hnotices, fun t ⟨e, he, hc⟩ => ⟨e, hnotices ▸ he, hc⟩,
    by rw [hcontrols, List.length_set], fun {n x} hn => ?_⟩ fun x hx => ?_
  · by_cases hne : n = m
    · subst hne
      obtain rfl := Option.some.inj (hm.symm.trans hn)
      exact ⟨c', by rw [hcontrols, List.getElem?_set_self (List.getElem?_eq_some_iff.mp hm).1], hk⟩
    · exact ⟨x, hcontrols ▸ getElem?_set_other hne hn, .refl x⟩
  · rw [hcontrols] at hx
    exact (List.mem_or_eq_of_mem_set hx).elim (h.sound x) fun heq => heq ▸ hsound

/-- The attempt of a machine is reported as complete. -/
theorem Owned.completed (h : k.Owned) {m : MachineRef} {c c' : Control}
    {info : SetupDataCallResultInfo} (hm : k.controls[m]? = some c)
    (hi : c.attempt = some info.flag) (ha : c'.attempt = c.attempt) (hd : c'.Due ↔ c.Due)
    (hsound : c'.Sound) (hstate : k'.state = k.state) (howner : k'.owner = k.owner)
    (hcontrols : k'.controls = k.controls.set m c')
    (hnotices : k'.notices = k.notices ++ [.establishDataConnectionComplete info]) :
    k'.Owned := by
  have hself : k'.controls[m]? = some c' := by
    rw [hcontrols, List.getElem?_set_self (List.getElem?_eq_some_iff.mp hm).1]
  have hends : ∀ u, k'.ends u = k.ends u := by
    intro u
    simp only [ends, hnotices, countP_isEnd_append, HandlerEvent.isEnd, Bool.false_eq_true, if_false,
      Nat.add_zero]
  have hcompletes : ∀ u, k.Completes u → k'.Completes u := fun u ⟨e, he, hc⟩ =>
    ⟨e, hnotices ▸ List.mem_append_left _ he, hc⟩
  have hst : ∀ u, k'.state u = k.state u := congrFun hstate
  have ho : ∀ u, k'.owner u = k.owner u := congrFun howner
  refine ⟨fun u => ?_, fun u v n => ?_, fun x hx => ?_, fun n x hn hx => ?_, ?_⟩
  · by_cases hu : k.owner u = some m
    · cases h.linked u with
      | free ho' => simp [hu] at ho'
      | ended ho' hm' he hs ha' =>
        obtain rfl := Option.some.inj (hu.symm.trans ho')
        obtain rfl := Option.some.inj (hm.symm.trans hm')
        rw [hi] at ha'
        cases ha'
      | held ho' hm' he hs ha' hc' hd' =>
        obtain rfl := Option.some.inj (hu.symm.trans ho')
        obtain rfl := Option.some.inj (hm.symm.trans hm')
        refine .held ((ho u).trans hu) hself ((hends u).trans he) ((hst u).symm ▸ hs) (ha.trans ha')
          (fun hcon => ⟨fun hdue => (hc' (hst u ▸ hcon)).1 (hd.mp hdue), .inr ?_⟩)
          fun hdis => hd.mpr (hd' (hst u ▸ hdis))
        refine ⟨_, hnotices ▸ List.mem_append_right _ (List.mem_singleton_self _), ?_⟩
        exact decide_eq_true (Option.some.inj (hi.symm.trans ha'))
    · refine (h.linked u).other (hst u) (ho u) (hends u) (hcompletes u) fun {n x} hn hx => ?_
      rw [hcontrols]
      refine getElem?_set_other ?_ hx
      rintro rfl
      exact hu hn
  · rw [howner]
    exact h.injective u v n
  · rw [hcontrols] at hx
    exact (List.mem_or_eq_of_mem_set hx).elim (h.sound x) fun heq => heq ▸ hsound
  · rw [hcontrols] at hn
    rw [howner]
    rcases getElem?_set_cases hm hn with ⟨rfl, rfl⟩ | ⟨-, hn⟩
    · exact h.owned n c hm (ha ▸ hx)
    · exact h.owned n x hn hx
  · rw [hcontrols, List.length_set]
    exact h.size

theorem Owned.dispatch (h : k.Owned) (hw : k.WellFormed) {env : MachineEnv} {m : MachineRef}
    {c c' : Control} {e : MachineEvent} {q : EventQueue MachineEvent} {os : List MachineOutput}
    (hm : k.controls[m]? = some c) (hnext : c.queue.next = some (e, q))
    (ht : Control.Transition env { c with queue := q } e c' os) :
    Owned (os.foldl (fun k o => k.receive m o)
      { k.logMachineEvent m c e with controls := k.controls.set m c' }) := by
  have hmem := List.mem_of_getElem? hm
  obtain ⟨hs, hp⟩ := (h.sound c hmem).single.transition (hw c hmem) hnext ht
  obtain ⟨k', heq, hstate, howner, hcontrols, hnotices⟩ :=
    dispatch_frame k m c c' e os
  rw [← heq]
  have hnone : c'.state = none → c.state = none ∧ os = [] := by
    intro hn
    obtain ⟨rfl, hos⟩ := ht.state_none hn
    exact ⟨hn, hos⟩
  cases hp with
  | keep ha hd hwaits hcomplete hdisconnect =>
    rw [filterMap_notice_eq_nil hcomplete hdisconnect, List.append_nil] at hnotices
    exact h.keptOn hm ⟨ha, hd, hwaits⟩
      ⟨hs, fun hn => ha ▸ (h.sound c hmem).booted (hnone hn).1⟩ hstate howner hcontrols hnotices
  | complete ha hd hos hflag =>
    subst hos
    exact h.completed hm hflag ha hd ⟨hs, fun hn => ha ▸ (h.sound c hmem).booted (hnone hn).1⟩ hstate
      howner hcontrols hnotices
  | finish hflag ha hos =>
    subst hos
    exact h.ended hm hflag rfl ha ⟨hs, fun hn => nomatch (hnone hn).2⟩ hstate howner hcontrols
      hnotices

/-! The handler takes a report -/

theorem ends_cons {e : HandlerEvent} {rest : List HandlerEvent} (h : k.notices = e :: rest)
    (t : ApnType) : k.ends t = rest.countP (HandlerEvent.isEnd t.id) +
      if e.isEnd t.id then 1 else 0 := by
  simp only [ends, h, List.countP_cons]

theorem Completes.rest {e : HandlerEvent} {rest : List HandlerEvent} (h : k.notices = e :: rest)
    (hc : k.Completes t) (he : e.isCompletion t.id = false) :
    ∃ x ∈ rest, x.isCompletion t.id = true := by
  obtain ⟨x, hx, hxt⟩ := hc
  rw [h] at hx
  rcases List.mem_cons.mp hx with rfl | hx
  · rw [he] at hxt
    cases hxt
  · exact ⟨x, hx, hxt⟩

theorem Owned.complete (h : k.Owned) {info : SetupDataCallResultInfo} {rest : List HandlerEvent}
    (hnotices : k.notices = .establishDataConnectionComplete info :: rest) :
    (Core.complete { k with notices := rest } info).Owned := by
  have hends : ∀ u, rest.countP (HandlerEvent.isEnd u.id) = k.ends u := fun u =>
    ((ends_cons hnotices u).trans (Nat.add_zero _)).symm
  have hcompletes : ∀ {u : ApnType}, k.Completes u → apnHolderByName info.flag ≠ some u →
      ∃ x ∈ rest, x.isCompletion u.id = true := by
    intro u hc hne
    refine hc.rest hnotices (decide_eq_false ?_)
    intro hflag
    exact hne (hflag ▸ apnHolderByName_id u)
  unfold Core.complete
  cases hname : apnHolderByName info.flag with
  | none =>
    refine h.congr rfl rfl rfl hends fun u hc => hcompletes hc ?_
    rw [hname]
    exact fun h => nomatch h
  | some t =>
    have hother : ∀ {u : ApnType}, u ≠ t → k.Completes u →
        ∃ x ∈ rest, x.isCompletion u.id = true := fun hu hc =>
      hcompletes hc (by rw [hname]; exact fun h => hu (Option.some.inj h).symm)
    dsimp only
    cases ht : k.owner t with
    | none =>
      have hst := ((h.linked t).of_owner_none ht).2
      refine ⟨fun u => ?_, h.injective, h.sound, h.owned, h.size⟩
      by_cases hu : u = t
      · subst hu
        exact .free ht ((hends u).trans ((h.linked u).of_owner_none ht).1) (setState_self ▸ rfl)
      · exact (h.linked u).other (setState_of_ne hu) rfl (hends u) (hother hu) fun _ hm => hm
    | some m =>
      dsimp only
      refine ⟨fun u => ?_, h.injective, h.sound, h.owned, h.size⟩
      by_cases hu : u = t
      · subst hu
        have hst' : (Core.setState { k with notices := rest } u .connected).state u = .connected :=
          setState_self
        cases h.linked u with
        | free ho => simp [ht] at ho
        | ended ho hm he hs ha =>
          exact .ended ho hm ((hends u).trans he) (congrArg ApnProfileState.isEngaged hst') ha
        | held ho hm he hs ha hc hd =>
          refine .held ho hm ((hends u).trans he) (congrArg ApnProfileState.isEngaged hst') ha
            (fun h => ?_) fun h => ?_
          · rw [hst'] at h
            cases h
          · rw [hst'] at h
            cases h
      · exact (h.linked u).other (setState_of_ne hu) rfl (hends u) (hother hu) fun _ hm => hm

theorem unregister_frame (k : Core) (m : MachineRef) :
    (k.unregister m).state = k.state ∧ (k.unregister m).owner = k.owner ∧
      (k.unregister m).controls = k.controls ∧ (k.unregister m).notices = k.notices := by
  unfold unregister
  split <;> exact ⟨rfl, rfl, rfl, rfl⟩

theorem Owned.finish (h : k.Owned) {info : SetupDataCallResultInfo} {rest : List HandlerEvent}
    (hnotices : k.notices = .disconnectDataComplete info :: rest) :
    (Core.finish { k with notices := rest } info).Owned := by
  have hends : ∀ u, k.ends u = rest.countP (HandlerEvent.isEnd u.id) +
      if info.flag = u.id then 1 else 0 := by
    intro u
    rw [ends_cons hnotices u]
    simp [HandlerEvent.isEnd]
  have hcompletes : ∀ u : ApnType, k.Completes u → ∃ x ∈ rest, x.isCompletion u.id = true :=
    fun u hc => hc.rest hnotices rfl
  unfold Core.finish
  cases hid : ApnType.ofId info.flag with
  | none =>
    refine h.congr rfl rfl rfl (fun u => ?_) hcompletes
    have hne : info.flag ≠ u.id := by
      intro hflag
      rw [hflag, ApnType.ofId_id] at hid
      cases hid
    rw [hends, if_neg hne]
    rfl
  | some t =>
    have hflag : info.flag = t.id := (ApnType.id_of_ofId hid).symm
    have hone : 1 ≤ k.ends t := by
      rw [hends, if_pos hflag]
      omega
    have hother : ∀ {u : ApnType}, u ≠ t → rest.countP (HandlerEvent.isEnd u.id) = k.ends u := by
      intro u hu
      have hne : info.flag ≠ u.id := fun h => hu (ApnType.id_injective (hflag.symm.trans h)).symm
      rw [hends, if_neg hne, Nat.add_zero]
    dsimp only
    cases h.linked t with
    | free _ he => omega
    | held _ _ he => omega
    | @ended m c ho hm he hs ha =>
      rw [ho]
      dsimp only
      obtain ⟨hstate', howner', hcontrols', hnotices'⟩ :=
        unregister_frame { k with notices := rest } m
      generalize unregister { k with notices := rest } m = k₁ at hstate' howner' hcontrols' hnotices'
      have howner : ∀ u, ((k₁.setOwner t none).setState t .idle).owner u =
          if u = t then none else k.owner u := by
        intro u
        rw [← congrFun howner' u]
        rfl
      have hstate : ∀ {u}, u ≠ t → ((k₁.setOwner t none).setState t .idle).state u = k.state u :=
        fun hu => (setState_of_ne hu).trans (congrFun hstate' _)
      have hends' : ∀ u, ((k₁.setOwner t none).setState t .idle).ends u =
          rest.countP (HandlerEvent.isEnd u.id) := fun u => congrArg (List.countP _) hnotices'
      have hafter : ((k₁.setOwner t none).setState t .idle).controls = k.controls ∧
          ((k₁.setOwner t none).setState t .idle).notices = rest := ⟨hcontrols', hnotices'⟩
      refine ⟨fun u => ?_, fun u v n hu hv => ?_, hafter.1 ▸ h.sound, fun n x hn hx => ?_,
        hafter.1 ▸ h.size⟩
      · by_cases hu : u = t
        · subst hu
          refine .free ((howner u).trans (if_pos rfl)) ?_ (setState_self ▸ rfl)
          have heq := hends u
          rw [if_pos hflag, he] at heq
          rw [hends']
          omega
        · refine (h.linked u).other (hstate hu) ((howner u).trans (if_neg hu))
            ((hends' u).trans (hother hu)) (fun hc => ?_) fun _ hn => ?_
          · obtain ⟨x, hx, hxu⟩ := hcompletes u hc
            exact ⟨x, hafter.2 ▸ hx, hxu⟩
          · exact hafter.1 ▸ hn
      · rw [howner] at hu hv
        split_ifs at hu hv with hut hvt
        exact h.injective u v n hu hv
      · have hn' : k.controls[n]? = some x := hafter.1 ▸ hn
        obtain ⟨u, hu⟩ := h.owned n x hn' hx
        refine ⟨u, ?_⟩
        rw [howner, if_neg, hu]
        rintro rfl
        obtain rfl := Option.some.inj (ho.symm.trans hu)
        obtain rfl := Option.some.inj (hm.symm.trans hn')
        exact hx ha

theorem Owned.notify (h : k.Owned) (info : SetupDataCallResultInfo) :
    (k.notify (.dataCallListChanged info)).Owned := by
  refine h.congr rfl rfl rfl (fun t => ?_) fun t ⟨e, he, hc⟩ => ⟨e, List.mem_append_left _ he, hc⟩
  simp [ends, Core.notify, HandlerEvent.isEnd]

theorem Owned.trigger (h : k.Owned) (hw : k.WellFormed) (ht : Trigger cue k k') : k'.Owned := by
  cases ht with
  | skip hcue => exact h
  | complete hnotices => exact h.complete hnotices
  | finish hnotices => exact h.finish hnotices
  | update hnotices =>
    refine h.congr rfl rfl rfl (fun t => ?_) fun t hc => hc.rest hnotices rfl
    exact ((ends_cons hnotices t).trans (Nat.add_zero _)).symm
  | answer he => exact h.post _ (isStrong_of_isExternal he)
  | dispatch hm hnext ht => exact h.dispatch hw hm hnext ht
  | fire hm hq => exact h.set hm (Control.same_fire (hw _ (List.mem_of_getElem? hm)) hq)
  | rearm => exact h.modify _ fun _ => Control.same_rearm
  | @report dcList =>
    refine report_invariant (P := Owned) (fun k info _ hk => ?_) (fun k m _ hk => ?_)
      (fun k cid hk => hk.congr rfl rfl rfl (fun _ => rfl) fun _ => id) h
    · exact relayDataCall_invariant hk fun _ => hk.notify _
    · exact loseConnection_invariant hk (fun _ => hk.post _ rfl) _
  | capability => exact foldl_invariant (P := Owned) (fun k m hk => hk.post m rfl) _ h

theorem blank_owned : blank.Owned where
  linked _ := .free rfl rfl rfl
  injective _ _ _ h := nomatch h
  sound _ h := nomatch h
  owned _ _ h := nomatch h
  size := Nat.zero_le _

end Core

namespace Slot

variable {s : Slot} {ok : Label → Slot → Prop}

/-- In every reachable state the machines are owned as the holders' states say. -/
theorem reachable_owned (h : system.ReachableWhen ok s) : s.core.Owned :=
  core_invariant h Core.blank_owned (fun _ _ hw hp ha => hp.act hw ha)
    fun _ _ _ _ hw hp _ ht => hp.trigger hw ht

/-- No holder has a machine where the overall state is neither connecting nor connected. -/
theorem not_engaged_of_overall (h : s.apnManager.getOverallApnState ≠ .connecting ∧
    s.apnManager.getOverallApnState ≠ .connected) (t : ApnType) :
    (s.holder t).apnState.isEngaged = false := by
  unfold ApnManager.getOverallApnState at h
  split_ifs at h with hconnected hconnecting
  · exact absurd rfl h.2
  · exact absurd rfl h.1
  all_goals
    simp only [ApnManager.hasAnyConnectedState, List.any_eq_true, not_exists, not_and,
      Bool.or_eq_true, decide_eq_true_eq, not_or] at hconnected hconnecting
    have hnot := hconnected t t.mem_all
    have hnot' := hconnecting t t.mem_all
    unfold holder
    cases hst : (s.apnManager.holder t).apnState <;> simp_all [ApnProfileState.isEngaged]

end Slot
end CellularData
