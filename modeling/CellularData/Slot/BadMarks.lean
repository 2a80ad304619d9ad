import Mathlib.Data.List.GetD
import CellularData.Slot.ApnChoice
import CellularData.Slot.Activation

/-! Bad marks of the APN items, and whether `ClearAllApnBad` finds them all. -/
namespace CellularData
open Lib StateMachine TransitionSystem

namespace Slot

variable {env : Env} {s s' : Slot} {t : ApnType} {r : ItemRef}

/-- The item stands in the table and is marked as bad. -/
def Marked (s : Slot) (r : ItemRef) : Prop :=
  r ∈ s.apnManager.allApnItem ∧ (s.apnItem r).badApn = true

/-- No item of the table is marked as bad. -/
def Unmarked (s : Slot) : Prop := ∀ r ∈ s.apnManager.allApnItem, (s.apnItem r).badApn = false

/-- `ClearAllApnBad` leaves no item of the table marked. -/
def ClearsMarks (s : Slot) : Prop := s.clearAllApnBad.Unmarked

/-- Every marked item of the table is the current item of some holder. -/
def MarksHeld (s : Slot) : Prop := ∀ r, s.Marked r → ∃ t, (s.holder t).apnItem = some r

/-- The marked item of `t`, used by no other holder, is no longer its item after the step. -/
def LeavesMark (s s' : Slot) (t : ApnType) : Prop :=
  ∃ r ∈ s.apnManager.allApnItem, (s.apnItem r).badApn = true ∧ (s.holder t).apnItem = some r ∧
    (∀ u ∈ ApnType.all, u ≠ t → (s.holder u).apnItem ≠ some r) ∧ (s'.holder t).apnItem ≠ some r

/-- The enabled holder that the handler connects on its own in the step. -/
def attempted (s : Slot) (l : Label) : Option ApnType :=
  match s.taken l with
  | some (.establishDataConnection id _) =>
    (ApnType.ofId id).filter fun t => (s.holder t).dataCallEnabled
  | _ => none

/-- The last holder of a marked item is connected with another item. -/
def StrandsMark (l : Label) (s : Slot) : Prop :=
  ∃ t ∈ s.attempted l, ∃ s' ∈ system.step l s, LeavesMark s s' t

instance (s : Slot) (r : ItemRef) : Decidable (s.Marked r) :=
  inferInstanceAs (Decidable (_ ∧ _))

instance (s s' : Slot) (t : ApnType) : Decidable (LeavesMark s s' t) :=
  inferInstanceAs (Decidable (∃ r ∈ s.apnManager.allApnItem, _))

instance (l : Label) (s : Slot) : Decidable (StrandsMark l s) :=
  inferInstanceAs (Decidable (∃ t ∈ s.attempted l, _))

/-! What clearing does -/

theorem getD_modify (items : List ApnItem) (f : ApnItem → ApnItem) (hf : f {} = {}) (i j : Nat) :
    (items.modify i f).getD j {} = if i = j then f (items.getD j {}) else items.getD j {} := by
  simp only [List.getD_eq_getElem?_getD, List.getElem?_modify]
  split_ifs
  · cases items[j]? with
    | none => exact hf.symm
    | some item => rfl
  · cases items[j]? <;> rfl

/-- The loop of `ClearAllApnBad` for one holder. -/
def clearBadOf (s : Slot) (items : List ApnItem) (t : ApnType) : List ApnItem :=
  match (s.holder t).apnItem with
  | some r => items.modify r fun item => { item with badApn := false }
  | none => items

theorem badApn_foldl_clearBadOf (s : Slot) (l : List ApnType) (items : List ApnItem)
    (r : ItemRef) :
    ((l.foldl s.clearBadOf items).getD r {}).badApn = true ↔
      (items.getD r {}).badApn = true ∧ ∀ t ∈ l, (s.holder t).apnItem ≠ some r := by
  induction l generalizing items with
  | nil => simp
  | cons t l ih =>
    rw [List.foldl_cons, ih, List.forall_mem_cons]
    unfold clearBadOf
    cases ht : (s.holder t).apnItem with
    | none => simp
    | some i =>
      dsimp only
      rw [getD_modify _ _ rfl]
      by_cases hi : i = r
      · simp [hi]
      · simp [hi]

theorem badApn_clearAllApnBad (s : Slot) (r : ItemRef) :
    (s.clearAllApnBad.apnItem r).badApn = true ↔
      (s.apnItem r).badApn = true ∧ ∀ t, (s.holder t).apnItem ≠ some r := by
  have hfold := badApn_foldl_clearBadOf s ApnType.all s.apnItems r
  refine hfold.trans (and_congr_right fun _ => ?_)
  exact ⟨fun h t => h t t.mem_all, fun h t _ => h t⟩

/-- Clearing goes through the items of the holders and leaves the mark of any other. -/
theorem clearsMarks_iff : s.ClearsMarks ↔ s.MarksHeld := by
  unfold ClearsMarks MarksHeld Unmarked Marked
  constructor
  · rintro hclear r ⟨hr, hbad⟩
    have hgood := hclear r hr
    by_contra hfree
    rw [not_exists] at hfree
    rw [(badApn_clearAllApnBad s r).mpr ⟨hbad, hfree⟩] at hgood
    cases hgood
  · intro hheld r hr
    rw [← Bool.not_eq_true, badApn_clearAllApnBad]
    rintro ⟨hbad, hfree⟩
    obtain ⟨t, ht⟩ := hheld r ⟨hr, hbad⟩
    exact hfree t ht

theorem Unmarked.marksHeld (h : s.Unmarked) : s.MarksHeld := by
  rintro r ⟨hr, hbad⟩
  rw [h r hr] at hbad
  cases hbad

/-! The table with its marks, and the items of the holders -/

def apnUse (s : Slot) :=
  (s.apnItems, s.apnManager.allApnItem, fun t => (s.holder t).apnItem)

theorem apnItem_of_apnUse (h : s'.apnUse = s.apnUse) (t : ApnType) :
    (s'.holder t).apnItem = (s.holder t).apnItem := by
  simp only [apnUse, Prod.mk.injEq] at h
  exact congrFun h.2.2 t

theorem marksHeld_of_apnUse (h : s'.apnUse = s.apnUse) : s'.MarksHeld ↔ s.MarksHeld := by
  have hitems : s'.apnItems = s.apnItems := congrArg (·.1) h
  have hall : s'.apnManager.allApnItem = s.apnManager.allApnItem := congrArg (·.2.1) h
  simp only [MarksHeld, Marked, apnItem, hitems, hall, apnItem_of_apnUse h]

theorem apnUse_of_apnManager (hmanager : s'.apnManager = s.apnManager)
    (hitems : s'.apnItems = s.apnItems) : s'.apnUse = s.apnUse := by
  simp only [apnUse, holder, hmanager, hitems]

theorem apnUse_modifyHolder {f : ApnHolder → ApnHolder}
    (hf : (f (s.holder t)).apnItem = (s.holder t).apnItem) :
    (s.modifyHolder t f).apnUse = s.apnUse := by
  have hholders : (fun u => ((s.modifyHolder t f).holder u).apnItem) =
      fun u => (s.holder u).apnItem := by
    funext u
    rw [holder_modifyHolder]
    split_ifs with hu
    · rw [hu, hf]
    · rfl
  unfold apnUse
  rw [hholders]
  rfl

theorem apnUse_setApnState (t : ApnType) (st : ApnProfileState) :
    (s.setApnState t st).apnUse = s.apnUse := by
  apply apnUse_modifyHolder
  unfold ApnHolder.setApnState
  split_ifs <;> rfl

theorem apnUse_callMachine (m : MachineRef)
    (f : CellularDataStateMachine → CellularDataStateMachine) :
    (s.callMachine m f).apnUse = s.apnUse :=
  apply_callMachine apnUse (fun _ _ _ => rfl) m f

theorem apnUse_updateCellularDataConnectState (t : ApnType) :
    (s.updateCellularDataConnectState t).apnUse = s.apnUse :=
  apply_updateCellularDataConnectState apnUse (fun _ _ => rfl) t

theorem apnUse_setDataPermittedForMms (b : Bool) :
    (s.setDataPermittedForMms env b).apnUse = s.apnUse := by
  apply apnUse_of_apnManager (apnManager_setDataPermittedForMms b)
  have hscene : (s.setDataPermittedForMms env b).scene = s.scene := scene_setDataPermittedForMms b
  exact congrArg (·.2.1) hscene

theorem apnUse_renewHolder (s : Slot) (t : ApnType) : (s.renewHolder t).apnUse = s.apnUse := by
  unfold renewHolder
  split_ifs
  · have hcount : (s.modifyHolder t fun h => h.initialApnRetryCount).apnUse = s.apnUse :=
      apnUse_modifyHolder rfl
    exact (apnUse_setApnState t .idle).trans hcount
  · rfl

theorem apnUse_renewHolders (s : Slot) : s.renewHolders.apnUse = s.apnUse :=
  apply_renewHolders apnUse apnUse_renewHolder s

theorem apnUse_releaseMachine (t : ApnType) (m : MachineRef) (info : SetupDataCallResultInfo) :
    (s.releaseMachine env t m info).apnUse = s.apnUse := by
  refine apply_releaseMachine apnUse (fun _ => apnUse_callMachine m _) fun s registry => ?_
  refine (apnUse_setApnState t .idle).trans ?_
  exact apnUse_modifyHolder (s := { s with cidActiveConnectionMap := registry }) rfl

/-! Writes and operations -/

theorem unmarked_clearAllApnBad (h : s.MarksHeld) : s.clearAllApnBad.Unmarked :=
  clearsMarks_iff.mpr h

/-- The items that a reload adds are the ones of the new table, and none of them is marked. -/
theorem MarksHeld.applyApnReload (h : s.MarksHeld) (a : ApnReload) :
    (s.applyApnReload a).MarksHeld := by
  obtain ⟨items, preferId, count, hgood⟩ := a
  cases items with
  | none => exact h
  | some items =>
    apply Unmarked.marksHeld
    intro r hr
    obtain ⟨i, hi, rfl⟩ := List.mem_range'.mp hr
    show ((s.apnItems ++ items).getD (s.apnItems.length + 1 * i) {}).badApn = false
    rw [Nat.one_mul, List.getD_append_right _ _ _ _ (Nat.le_add_right _ i),
      Nat.add_sub_cancel_left, List.getD_eq_getElem _ _ hi]
    exact hgood _ (List.getElem_mem hi)

/-- A mark is set on the item of a holder. -/
theorem MarksHeld.setApnBadState (h : s.MarksHeld) (t : ApnType) (isBad : Bool) :
    (s.setApnBadState t isBad).MarksHeld := by
  unfold Slot.setApnBadState
  cases hitem : (s.holder t).apnItem with
  | none => exact h
  | some i =>
    rintro r ⟨hr, hbad⟩
    by_cases hi : i = r
    · exact ⟨t, hi ▸ hitem⟩
    · refine h r ⟨hr, ?_⟩
      simp only [apnItem, List.getD_eq_getElem?_getD, List.getElem?_modify_ne _ _ hi] at hbad
      simpa only [apnItem, List.getD_eq_getElem?_getD] using hbad

theorem Write.marksHeld (hw : Write env s s') (h : s.MarksHeld) : s'.MarksHeld := by
  have hsame : s'.apnUse = s.apnUse → s'.MarksHeld := fun heq => (marksHeld_of_apnUse heq).mpr h
  cases hw with
  | other he =>
    exact hsame (apnUse_of_apnManager (congrArg (·.2.2.1) he) (congrArg (·.2.2.2.1) he))
  | holder _ _ hitem _ _ => exact hsame (apnUse_modifyHolder hitem)
  | push => exact hsame (apnUse_updateCellularDataConnectState _)
  | machine _ => exact hsame (apnUse_callMachine _ _)
  | reuse _ => exact hsame (apnUse_callMachine _ _)
  | reload => exact h.applyApnReload _
  | clearBad => exact (unmarked_clearAllApnBad h).marksHeld
  | setBad => exact h.setApnBadState _ _
  | lend =>
    apply hsame
    unfold lendDataPermitted
    refine (apnUse_setDataPermittedForMms true).trans ?_
    split_ifs <;> rfl
  | giveBack => exact hsame (apnUse_setDataPermittedForMms false)
  | _ => exact h

theorem MarksHeld.setApnState (h : s.MarksHeld) (t : ApnType) (st : ApnProfileState) :
    (s.setApnState t st).MarksHeld := (marksHeld_of_apnUse (apnUse_setApnState t st)).mpr h

theorem Writes.marksHeld (hw : Writes env s s') (h : s.MarksHeld) : s'.MarksHeld :=
  hw.invariant (fun _ _ h hw => hw.marksHeld h) h

/-! An attempt leaves the table as it is, and the items of the other holders -/

theorem supply_startConnection (t : ApnType) (m : MachineRef) (apnItem : ItemRef)
    (radioTech : RadioTech) : (s.startConnection env t m apnItem radioTech).supply = s.supply := by
  have hstart (s : Slot) : (s.setApnActivateStart env t).supply = s.supply :=
    apply_setApnActivateStart supply (fun _ _ _ => rfl) t
  unfold startConnection
  extract_lets s₁ s₂ s₃ s₄ s₅ s₆
  have h₁ : s₁.supply = s.supply := supply_of_scene (scene_callMachine m _)
  have h₅ : s₅.supply = s₄.supply := supply_of_scene (scene_updateCellularDataConnectState t)
  exact (hstart s₆).trans (h₅.trans h₁)

theorem supply_establishOwnConnection (t : ApnType) (apnItem : ItemRef) (radioTech : RadioTech) :
    (s.establishOwnConnection env t apnItem radioTech).1.supply = s.supply := by
  have hquery : (s.isSingleConnectionEnabled env radioTech).1.supply = s.supply :=
    supply_of_scene (scene_isSingleConnectionEnabled radioTech)
  simp only [establishOwnConnection]
  split_ifs
  · exact hquery
  · exact (supply_of_scene (scene_clearAllConnections _)).trans hquery
  · exact (supply_startConnection t _ _ _).trans
      ((supply_of_scene scene_findOrCreateCellularDataConnect).trans hquery)

theorem supply_establishDataConnection (t : ApnType) (radioTech : RadioTech) :
    (s.establishDataConnection env t radioTech).1.supply = s.supply := by
  have hchoose := supply_of_scene (chooseApnItem_spec env s t).2
  unfold establishDataConnection
  generalize s.chooseApnItem env t = c at hchoose ⊢
  obtain ⟨s₁, item⟩ := c
  cases item with
  | none => exact hchoose
  | some apnItem =>
    dsimp only
    split_ifs
    · exact (supply_establishOwnConnection t _ _).trans hchoose
    · have hsearch := supply_of_scene (scene_checkForCompatibleDataConnection env s₁ t)
      replace hsearch := (hsearch.trans scene_isCellularDataRoamingEnabled.1).trans hchoose
      generalize s₁.checkForCompatibleDataConnection env t = c at hsearch ⊢
      obtain ⟨s₂, dc⟩ := c
      cases dc with
      | some m =>
        exact (supply_of_scene (scene_handleCompatibleDataConnection m t)).trans hsearch
      | none => exact (supply_establishOwnConnection t _ _).trans hsearch

theorem supply_attemptEstablishDataConnection (t : ApnType) :
    (s.attemptEstablishDataConnection env t).supply = s.supply := by
  have hattach : (s.checkAttachAndSimState env t).1.supply = s.supply :=
    supply_of_scene scene_checkAttachAndSimState
  unfold attemptEstablishDataConnection
  split_ifs
  · rfl
  · rfl
  generalize s.checkAttachAndSimState env t = c at hattach ⊢
  obtain ⟨s₁, ok⟩ := c
  cases ok with
  | false => exact hattach
  | true =>
    dsimp only
    split_ifs
    · exact hattach
    have hstate := supply_of_scene (checkApnState_spec env (Connects env) s₁ t).2.1
    generalize s₁.checkApnState env t = c at hstate ⊢
    obtain ⟨s₂, ok⟩ := c
    cases ok with
    | false => exact hstate.trans hattach
    | true =>
      have hmulti := supply_of_scene (checkMultiApnState_spec env (Connects env) s₂ t).2.1
      have hestablish : ((s₂.checkMultiApnState t).establishDataConnection env t
          env.psRadioTech).1.supply = (s₂.checkMultiApnState t).supply :=
        supply_establishDataConnection t _
      replace hestablish := hestablish.trans (hmulti.trans (hstate.trans hattach))
      dsimp only
      generalize (s₂.checkMultiApnState t).establishDataConnection env t env.psRadioTech = c
        at hestablish ⊢
      obtain ⟨s₃, ok⟩ := c
      cases ok <;> exact hestablish

theorem Op.apnItem_of_starts {u : ApnType} (hu : u ≠ t) (hop : Op env (Starts env t) s s') :
    (s'.holder u).apnItem = (s.holder u).apnItem := by
  cases hop with
  | write hw => exact hw.apnItem u
  | disconnect howner => exact apnItem_setApnState _ _ _
  | reset _ => exact apnItem_setApnState _ _ _
  | @retry v id delay _ _ _ => exact apnItem_setApnState v u .retrying
  | renew => exact apnItem_of_apnUse (apnUse_renewHolders s) u
  | tell _ => rfl
  | search =>
    obtain ⟨d, c, heq⟩ := checkForCompatibleDataConnection_eq env s _
    rw [heq]
    rfl
  | connect hc =>
    cases hc with
    | start hidle hopen hsingle =>
      rw [holder_startConnection, if_neg hu, holder_findOrCreateCellularDataConnect]

theorem apnItem_attemptEstablishDataConnection {u : ApnType} (hu : u ≠ t) :
    ((s.attemptEstablishDataConnection env t).holder u).apnItem = (s.holder u).apnItem := by
  rcases attemptEstablishDataConnection_cases env s t with hw | ⟨-, hd⟩
  · exact hw.invariant (P := fun s' => (s'.holder u).apnItem = (s.holder u).apnItem)
      (fun _ _ h hw => (hw.apnItem u).trans h) rfl
  · exact hd.invariant (P := fun s' => (s'.holder u).apnItem = (s.holder u).apnItem)
      (fun _ _ h hop => (hop.apnItem_of_starts hu).trans h) rfl

theorem unmarked_congr (hitems : s'.apnItems = s.apnItems)
    (hall : s'.apnManager.allApnItem = s.apnManager.allApnItem) : s'.Unmarked ↔ s.Unmarked := by
  simp only [Unmarked, apnItem, hitems, hall]

theorem supply_establishIfConnectable (s : Slot) (t : ApnType) :
    (s.establishIfConnectable env t).supply = s.supply := by
  have hpush : (s.updateCellularDataConnectState t).supply = s.supply :=
    supply_of_scene (scene_updateCellularDataConnectState t)
  unfold establishIfConnectable
  split_ifs
  · refine (supply_attemptEstablishDataConnection t).trans ?_
    split
    · exact (supply_of_scene (releaseDataConnection_frame _ t).1).trans hpush
    · exact (supply_of_scene (releaseDataConnection_frame _ t).1).trans hpush
    · exact hpush
  · rfl

/-- Where all holders are to be connected every item of the table can be chosen again. -/
theorem unmarked_establishAllApnsIfConnectable (h : s.MarksHeld) :
    (s.establishAllApnsIfConnectable env).Unmarked := by
  have hsupply : (s.establishAllApnsIfConnectable env).supply = s.clearAllApnBad.supply :=
    apply_foldl supply supply_establishIfConnectable _ _
  exact (unmarked_congr (congrArg (·.1) hsupply) (congrArg (·.2.1) hsupply)).mpr
    (unmarked_clearAllApnBad h)

theorem EstablishesAll.marksHeld (he : EstablishesAll env s s') (h : s.MarksHeld) :
    s'.MarksHeld := by
  cases he with
  | all => exact (unmarked_establishAllApnsIfConnectable h).marksHeld

theorem Op.marksHeld (hop : Op env (EstablishesAll env) s s') (h : s.MarksHeld) :
    s'.MarksHeld := by
  cases hop with
  | write hw => exact hw.marksHeld h
  | @disconnect t m params _ => exact h.setApnState t .disconnecting
  | reset _ => exact h.setApnState _ _
  | @retry t id delay _ _ _ => exact h.setApnState t .retrying
  | renew => exact (marksHeld_of_apnUse (apnUse_renewHolders s)).mpr h
  | tell _ => exact h
  | search =>
    obtain ⟨d, c, heq⟩ := checkForCompatibleDataConnection_eq env s _
    rw [heq]
    exact h
  | connect hc => exact hc.marksHeld h

theorem Does.marksHeld (hd : Does env (EstablishesAll env) s s') (h : s.MarksHeld) :
    s'.MarksHeld := hd.invariant (fun _ _ h hop => hop.marksHeld h) h

theorem unmarked_of_apnUse (h : s'.apnUse = s.apnUse) : s'.Unmarked ↔ s.Unmarked :=
  unmarked_congr (congrArg (·.1) h) (congrArg (·.2.1) h)

/-- After a change of the APN table every item of the new one can be chosen. -/
theorem unmarked_handleApnChanged (h : s.MarksHeld) : (s.handleApnChanged env).Unmarked := by
  have hattach : Writes env s ((s.createApnItem env).setRilAttachApn env) :=
    writes_createApnItem.trans writes_setRilAttachApn
  have hcleared : (((s.createApnItem env).setRilAttachApn env).clearConnectionsOnUpdateApns env
      .clearConnection).MarksHeld :=
    (does_clearConnectionsOnUpdateApns .clearConnection).marksHeld (hattach.marksHeld h)
  rw [handleApnChanged_eq]
  exact (unmarked_of_apnUse (apnUse_renewHolders _)).mpr (unmarked_clearAllApnBad hcleared)

/-- A mark is lost sight of only with the item of the holder that is connected. -/
theorem attempt_marksHeld_iff (h : s.MarksHeld) :
    (s.attemptEstablishDataConnection env t).MarksHeld ↔
      ¬ LeavesMark s (s.attemptEstablishDataConnection env t) t := by
  have hsupply : (s.attemptEstablishDataConnection env t).supply = s.supply :=
    supply_attemptEstablishDataConnection t
  have hother : ∀ u, u ≠ t →
      ((s.attemptEstablishDataConnection env t).holder u).apnItem = (s.holder u).apnItem :=
    fun u hu => apnItem_attemptEstablishDataConnection hu
  generalize s.attemptEstablishDataConnection env t = s' at hsupply hother ⊢
  have hmarked (r : ItemRef) : s'.Marked r ↔ s.Marked r := by
    have hall : s'.apnManager.allApnItem = s.apnManager.allApnItem := congrArg (·.2.1) hsupply
    simp only [Marked, hall, apnItem_of_supply hsupply]
  constructor
  · rintro hheld ⟨r, hr, hbad, -, halone, hleft⟩
    obtain ⟨u, hu⟩ := hheld r ((hmarked r).mpr ⟨hr, hbad⟩)
    by_cases hut : u = t
    · exact hleft (hut ▸ hu)
    · exact halone u u.mem_all hut ((hother u hut).symm.trans hu)
  · intro hkeeps r hr'
    have hr := (hmarked r).mp hr'
    by_contra hno
    rw [not_exists] at hno
    have halone : ∀ u, u ≠ t → (s.holder u).apnItem ≠ some r :=
      fun u hu heq => hno u ((hother u hu).trans heq)
    obtain ⟨u, hu⟩ := h r hr
    obtain rfl : u = t := by_contra fun hut => halone u hut hu
    exact hkeeps ⟨r, hr.1, hr.2, hu, fun v _ hv => halone v hv, hno u⟩

/-! Events and steps -/

theorem disconnectDataComplete_marksHeld (h : s.MarksHeld) (info : SetupDataCallResultInfo) :
    (s.disconnectDataComplete env info).MarksHeld := by
  cases ht : ApnType.ofId info.flag with
  | none => simpa only [disconnectDataComplete, ht] using h
  | some t =>
    cases hm : (s.holder t).cellularDataStateMachine with
    | none =>
      simp only [disconnectDataComplete, ht, hm]
      exact h.setApnState t .idle
    | some m =>
      obtain ⟨s₁, hdoes, heq⟩ := disconnectDataComplete_does env s ht hm
      have hrelease : ((s.releaseMachine env t m info).updateCellularDataConnectState t).apnUse =
          s.apnUse :=
        (apnUse_updateCellularDataConnectState t).trans (apnUse_releaseMachine t m info)
      have h₁ : s₁.MarksHeld := hdoes.marksHeld ((marksHeld_of_apnUse hrelease).mpr h)
      rw [heq]
      unfold handleDisconnectDataCompleteForMmsType
      split_ifs
      · exact (marksHeld_of_apnUse (apnUse_setDataPermittedForMms false)).mpr h₁
      · exact h₁

theorem establishDataConnectionComplete_marksHeld (h : s.MarksHeld)
    (info : SetupDataCallResultInfo) : (s.establishDataConnectionComplete env info).MarksHeld := by
  cases ht : apnHolderByName info.flag with
  | none =>
    simp only [establishDataConnectionComplete, ht]
    exact h
  | some t =>
    obtain ⟨s₁, s₂, s₃, hw₁, hw₂, hw₃, heq⟩ := establishDataConnectionComplete_writes env s ht
    have hcompleted : (s.completed env t info).MarksHeld := h.setApnState t .connected
    have h₁ : s₁.MarksHeld := hw₁.marksHeld hcompleted
    have h₂ : s₂.MarksHeld := by
      cases hm : (s.holder t).cellularDataStateMachine with
      | some m =>
        rw [hm] at hw₂
        exact hw₂.marksHeld h₁
      | none =>
        rw [hm] at hw₂
        exact hw₂.marksHeld (h₁.setApnState t .idle)
    have h₃ : s₃.MarksHeld :=
      hw₃.marksHeld ((marksHeld_of_apnUse (apnUse_updateCellularDataConnectState t)).mpr h₂)
    rw [heq]
    split_ifs
    · exact h₃
    · exact h₃

theorem msgRequestNetwork_marksHeld (h : s.MarksHeld) (request : NetRequest) :
    (s.msgRequestNetwork request true).MarksHeld := by
  rcases msgRequestNetwork_cases {} request with ⟨-, heq⟩ | ⟨t, -, hw⟩
  · rw [heq]
    exact h
  · have hask : (s.modifyHolder t fun h => h.requestCellularData request.capability).apnUse =
        s.apnUse := apnUse_modifyHolder rfl
    exact hw.marksHeld ((marksHeld_of_apnUse hask).mpr h)

/-- Only the event that names a holder can lose sight of a mark. -/
theorem processEvent_marksHeld (h : s.MarksHeld) {e : HandlerEvent}
    (he : ∀ id b, e ≠ .establishDataConnection id b) : (s.processEvent env e).MarksHeld := by
  by_cases hrequest : ∃ request, e = .requestNetwork request true
  · obtain ⟨request, rfl⟩ := hrequest
    exact msgRequestNetwork_marksHeld h request
  cases hnotice : e.isNotice with
  | false =>
    exact (does_processEvent_all hnotice (fun request heq => hrequest ⟨request, heq⟩) he).marksHeld
      h
  | true =>
    cases e with
    | establishDataConnectionComplete info => exact establishDataConnectionComplete_marksHeld h info
    | disconnectDataComplete info => exact disconnectDataComplete_marksHeld h info
    | dataCallListChanged info =>
      have hw : Writes env s (s.handleUpdateNetInfo env info) := writes_handleUpdateNetInfo info
      exact hw.marksHeld h
    | _ => cases hnotice

theorem attempted_of_taken {l : Label} {id : Int} {b : Option BearType}
    (htaken : s.taken l = some (.establishDataConnection id b)) :
    s.attempted l = (ApnType.ofId id).filter fun t => (s.holder t).dataCallEnabled := by
  simp only [attempted, htaken]

theorem taken_of_attempted {l : Label} (ht : t ∈ s.attempted l) :
    ∃ id b, s.taken l = some (.establishDataConnection id b) := by
  unfold attempted at ht
  split at ht
  next id b htaken => exact ⟨id, b, htaken⟩
  next => cases ht

/-- No holder is connected on its own where the event is another one. -/
theorem not_strandsMark {l : Label} (h : ∀ id b, s.taken l ≠ some (.establishDataConnection id b)) :
    ¬ StrandsMark l s := by
  rintro ⟨t, ht, -⟩
  obtain ⟨id, b, htaken⟩ := taken_of_attempted ht
  exact h id b htaken

/-- The step in which the handler takes the event that names a holder. -/
theorem establish_marksHeld_iff {id : Int} {b : Option BearType}
    {q : EventQueue HandlerEvent} (h : s.MarksHeld)
    (hnext : s.queue.next = some (.establishDataConnection id b, q)) :
    (msgEstablishDataConnection env { s with queue := q } id b).MarksHeld ↔
      ¬ StrandsMark (.dispatchHandler env) s := by
  have htaken : s.taken (.dispatchHandler env) = some (.establishDataConnection id b) := by
    rw [taken, hnext]
    rfl
  have hstep : system.step (.dispatchHandler env) s =
      some (msgEstablishDataConnection env { s with queue := q } id b) := by
    show s.dispatchHandler env = _
    rw [dispatchHandler, hnext]
    rfl
  have hq : MarksHeld { s with queue := q } := h
  rcases msgEstablishDataConnection_cases env (EstablishesAll env) { s with queue := q } id b with
    ⟨t, ht, henabled, heq⟩ | ⟨hdisabled, hdoes⟩
  · have hattempt : s.attempted (.dispatchHandler env) = some t := by
      rw [attempted_of_taken htaken, ht]
      exact Option.filter_some_pos henabled
    rw [heq] at hstep ⊢
    rw [attempt_marksHeld_iff hq, not_iff_not]
    constructor
    · exact fun hleaves => ⟨t, hattempt, _, hstep, hleaves⟩
    · rintro ⟨u, hu, s', hs', hleaves⟩
      obtain rfl := Option.some.inj (hattempt.symm.trans hu)
      obtain rfl := Option.some.inj (hstep.symm.trans hs')
      exact hleaves
  · refine iff_of_true (hdoes.marksHeld hq) ?_
    rintro ⟨t, hattempt, -⟩
    rw [attempted_of_taken htaken] at hattempt
    obtain ⟨ht, henabled⟩ := Option.mem_filter_iff.mp hattempt
    exact Bool.false_ne_true ((hdisabled t ht).symm.trans henabled)

theorem step_marksHeld_iff {l : Label} (h : s.MarksHeld) (hstep : system.step l s = some s') :
    s'.MarksHeld ↔ ¬ StrandsMark l s := by
  cases step_steps hstep with
  | aside ha =>
    refine iff_of_true ((marksHeld_of_apnUse ?_).mpr h) ?_
    · exact apnUse_of_apnManager ha.apnManager (congrArg (·.2.1) ha.frame)
    · rintro ⟨t, -, s'', hs'', r, -, -, hitem, -, hleft⟩
      obtain rfl := Option.some.inj (hstep.symm.trans hs'')
      exact hleft ((congrArg ApnHolder.apnItem (ha.holder t)).trans hitem)
  | @call env c _ _ =>
    obtain rfl : s.call env c = s' := Option.some.inj hstep
    exact iff_of_true ((does_call c).marksHeld h) (not_strandsMark fun _ _ h => nomatch h)
  | @take env e q hnext =>
    by_cases he : ∃ id b, e = .establishDataConnection id b
    · obtain ⟨id, b, rfl⟩ := he
      exact establish_marksHeld_iff h hnext
    · have hother : ∀ id b, e ≠ .establishDataConnection id b :=
        fun id b heq => he ⟨id, b, heq⟩
      have hq : MarksHeld { s with queue := q } := h
      refine iff_of_true (processEvent_marksHeld hq hother) (not_strandsMark fun id b htaken => ?_)
      rw [taken, hnext] at htaken
      exact hother id b (Option.some.inj htaken)

/-- A slot starts without a table. -/
theorem marksHeld_of_init (h : system.init s) : s.MarksHeld := by
  obtain ⟨env, slotId, l, hinit⟩ := Initial.does h
  refine hinit.marksHeld fun r hr => ?_
  cases hr.1

/-- Clearing the marks clears them all in exactly the runs in which no holder that alone uses a
marked item is connected with another one. -/
theorem clears_marks_iff {h : List (Label × Slot)} (hh : system.History h s) :
    Throughout (fun _ s => s.ClearsMarks) h s ↔ AtSteps (fun _ l s => ¬ StrandsMark l s) h := by
  refine throughout_iff_atSteps ?_ ?_ hh
  · exact fun s hs => clearsMarks_iff.mpr (marksHeld_of_init hs)
  · intro h l s s' _ hstep hclears
    rw [clearsMarks_iff] at hclears ⊢
    exact step_marksHeld_iff hclears hstep

/-! A table with two APNs for data, the first of which the network refuses -/

def pairEnv : Env :=
  { serviceEnv with
    apnReloads := [{
      items := some [{ attr := { profileId := 1, apn := "cmnet" }, apnTypes := ["default"] },
        { attr := { profileId := 2, apn := "cmwap" }, apnTypes := ["default"] }]
      count := 2 }] }

def pairRequest : List Label :=
  [.call pairEnv (.requestNet true [.internet] (.other 0)), .dispatchHandler pairEnv,
    .dispatchHandler pairEnv, .dispatchMachine pairEnv 0]

/-- The holder has been rejected for good with the first APN. -/
def rejectedLabels : List Label :=
  [.postHandler (.sim .recordsLoaded 0), .dispatchHandler pairEnv] ++ pairRequest ++
    [.dispatchMachine pairEnv 0,
      .postMachine 0 (.setupDataCall (.resultInfo { flag := 1, reason := .missingOrUnknownApn })),
      .dispatchMachine pairEnv 0, .dispatchHandler pairEnv]

/-- A mark is cleared as long as the holder has not been connected again. -/
theorem clears_marks_rejected : ∃ h s, system.History h s ∧ s.Marked 0 ∧
    Throughout (fun _ s => s.ClearsMarks) h s := by
  obtain ⟨h, s, hh, hp⟩ := exists_history start_initial rejectedLabels
    (p := fun h s => s.Marked 0 ∧ AtSteps (fun _ l s => ¬ StrandsMark l s) h) (by decide +kernel)
  obtain ⟨hmarked, hsteps⟩ := of_decide_eq_true hp
  exact ⟨h, s, hh, hmarked, (clears_marks_iff hh).mpr hsteps⟩

/-- After the next request the holder uses the second APN. The first one is left marked, also by the
attach that follows. -/
theorem rejected_apn_stays_marked : ∃ s s', system.Reachable s ∧
    (s.holder .default_).apnItem = some 1 ∧ s.clearAllApnBad.Marked 0 ∧
    system.run [.postHandler .psConnectionAttached, .dispatchHandler pairEnv] s = some s' ∧
      s'.Marked 0 := by
  obtain ⟨s, -, hs, hp⟩ := exists_run (rejectedLabels ++ pairRequest)
    (p := fun s => (s.holder .default_).apnItem = some 1 ∧ s.clearAllApnBad.Marked 0 ∧
      (system.run [.postHandler .psConnectionAttached, .dispatchHandler pairEnv] s).any
        fun s' => s'.Marked 0) (by decide +kernel)
  obtain ⟨hitem, hmarked, hattach⟩ := of_decide_eq_true hp
  obtain ⟨s', hrun, hs'⟩ := (Option.any_eq_true _ _).mp hattach
  exact ⟨s, s', hs, hitem, hmarked, hrun, of_decide_eq_true hs'⟩

end Slot
end CellularData
