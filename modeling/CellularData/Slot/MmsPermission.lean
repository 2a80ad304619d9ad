import CellularData.Slot.Retries
import CellularData.Slot.SingleConnection

/-! The data permission that MMS on another slot borrows from the default slot, and its return. -/
namespace CellularData
open Lib StateMachine Relation

/-- The request that ends a move of the data permission, to the MMS slot or back. -/
def Effect.lends : Effect → Option Bool
  | .changeConnectionForDsds _ enable => some !enable
  | _ => none

namespace Slot

variable {env : Env} {s s' : Slot} {t : ApnType} {d mode : Int}

/-- The last move of the permission has been to this slot. -/
def Lent (s : Slot) : Prop := s.latest Effect.lends = some true

/-- What decides where the permission may be moved. -/
def home (s : Slot) := (s.slotId, s.hasIncallDataStateMachine)

/-- `SetDataPermittedForMms` takes effect. -/
def MovesPermission (env : Env) (s : Slot) : Prop :=
  s.hasIncallDataStateMachine = false ∧
    ¬ (s.slotId = cellDataSlotId3 ∧ env.tstsModeEnabled = true) ∧
      s.checkDataPermittedByDsds env = false

instance : Decidable (MovesPermission env s) := inferInstanceAs (Decidable (_ ∧ _ ∧ _))

/-! Moves of the permission -/

theorem setDataPermittedForMms_moves (h : MovesPermission env s) (b : Bool) :
    (s.setDataPermittedForMms env b).latest Effect.lends = some b := by
  obtain ⟨hincall, htsts, hdsds⟩ := h
  unfold setDataPermittedForMms
  rw [if_neg (by simp [hincall]), if_neg (by simpa using htsts), if_neg (by simp [hdsds])]
  cases b <;> rfl

theorem setDataPermittedForMms_stays (h : ¬ MovesPermission env s) (b : Bool) :
    s.setDataPermittedForMms env b = s := by
  unfold setDataPermittedForMms
  split_ifs with hincall htsts hdsds
  · rfl
  · rfl
  · rfl
  · exact absurd ⟨by simpa using hincall, by simpa using htsts, by simpa using hdsds⟩ h

theorem movesPermission_congr (h : s'.home = s.home) :
    MovesPermission env s' ↔ MovesPermission env s := by
  obtain ⟨hslot, hincall⟩ := Prod.mk.inj h
  unfold MovesPermission checkDataPermittedByDsds
  rw [hslot, hincall]

theorem home_of_setting (h : s'.setting = s.setting) : s'.home = s.home := by
  simp only [setting, Prod.mk.injEq] at h
  simp only [home, h]

/-! What an attempt leaves alone -/

theorem home_clearConnection (t : ApnType) (reason : DisConnectionReason) :
    (s.clearConnection t reason).home = s.home :=
  apply_clearConnection home (fun _ _ _ _ => rfl) t reason

theorem home_clearAllConnections (reason : DisConnectionReason) :
    (s.clearAllConnections env reason).home = s.home :=
  apply_clearAllConnections home (fun _ _ _ _ => rfl) (fun _ _ => rfl) reason

theorem home_checkAttachAndSimState :
    (s.checkAttachAndSimState env t).1.home = s.home := by
  have hmove : ∀ s : Slot, (s.setDataPermittedForMms env true).home = s.home := fun s =>
    home_of_setting (setting_setDataPermittedForMms true)
  unfold checkAttachAndSimState
  split
  · rfl
  · split
    · refine (hmove _).trans ?_
      split_ifs <;> rfl
    · rfl

theorem home_checkApnState : (s.checkApnState env t).1.home = s.home := by
  unfold checkApnState
  split
  · rfl
  · split
    · rfl
    · dsimp only
      generalize hs₁ : (if (s.holder t).apnState = .failed then s.setApnState t .idle else s) = s₁
      have hreset : s₁.home = s.home := by
        rw [← hs₁]
        split_ifs <;> rfl
      split_ifs
      · exact hreset
      · split <;> exact hreset

theorem home_releaseDataConnection (t : ApnType) : (s.releaseDataConnection t).home = s.home := by
  unfold releaseDataConnection
  split <;> rfl

theorem home_checkMultiApnState (t : ApnType) : (s.checkMultiApnState t).home = s.home := by
  unfold checkMultiApnState
  split_ifs
  · rfl
  · refine apply_foldl home (fun s u => ?_) _ s
    split_ifs
    · split
      · exact home_releaseDataConnection u
      · exact home_releaseDataConnection u
      · rfl
    · rfl

theorem home_isSingleConnectionEnabled :
    (s.isSingleConnectionEnabled env env.psRadioTech).1.home = s.home := by
  obtain ⟨b, heq, -⟩ := isSingleConnectionEnabled_cases env s
  rw [heq]
  rfl

theorem home_establishOwnConnection (apnItem : ItemRef) :
    (s.establishOwnConnection env t apnItem env.psRadioTech).1.home = s.home := by
  have hsingle : (s.isSingleConnectionEnabled env env.psRadioTech).1.home = s.home :=
    home_isSingleConnectionEnabled
  simp only [establishOwnConnection]
  generalize (s.isSingleConnectionEnabled env env.psRadioTech) = r at hsingle ⊢
  split_ifs
  · exact hsingle
  · exact (home_clearAllConnections _).trans hsingle
  · exact (home_of_setting ((setting_startConnection _ _ _ _).trans
      setting_findOrCreateCellularDataConnect)).trans hsingle

theorem home_handleCompatibleDataConnection (m : MachineRef) :
    (s.handleCompatibleDataConnection m t).1.home = s.home := by
  unfold handleCompatibleDataConnection
  split_ifs
  · exact home_of_setting (setting_callMachine m _)
  · rfl

theorem home_establishDataConnection :
    (s.establishDataConnection env t env.psRadioTech).1.home = s.home := by
  have hchoose : (s.chooseApnItem env t).1.home = s.home := by
    unfold chooseApnItem
    split <;> rfl
  unfold establishDataConnection
  generalize s.chooseApnItem env t = r at hchoose ⊢
  obtain ⟨s₁, item⟩ := r
  cases item with
  | none => exact hchoose
  | some apnItem =>
    dsimp only
    split_ifs
    · exact (home_establishOwnConnection apnItem).trans hchoose
    · have hsearch : (s₁.checkForCompatibleDataConnection env t).1.home = s₁.home := by
        obtain ⟨d, c, heq⟩ := checkForCompatibleDataConnection_eq env s₁ t
        rw [heq]
        rfl
      generalize s₁.checkForCompatibleDataConnection env t = r at hsearch ⊢
      obtain ⟨s₂, dc⟩ := r
      cases dc with
      | some m => exact (home_handleCompatibleDataConnection m).trans (hsearch.trans hchoose)
      | none => exact (home_establishOwnConnection apnItem).trans (hsearch.trans hchoose)

theorem home_attemptEstablishDataConnection :
    (s.attemptEstablishDataConnection env t).home = s.home := by
  have hattach : (s.checkAttachAndSimState env t).1.home = s.home := home_checkAttachAndSimState
  unfold attemptEstablishDataConnection
  split_ifs
  · rfl
  · rfl
  generalize s.checkAttachAndSimState env t = r at hattach ⊢
  obtain ⟨s₁, ok⟩ := r
  cases ok with
  | false => exact hattach
  | true =>
    dsimp only
    split_ifs
    · exact hattach
    have hstate : (s₁.checkApnState env t).1.home = s₁.home := home_checkApnState
    generalize s₁.checkApnState env t = r at hstate ⊢
    obtain ⟨s₂, ok⟩ := r
    cases ok with
    | false => exact hstate.trans hattach
    | true =>
      dsimp only
      have hestablish : ((s₂.checkMultiApnState t).establishDataConnection env t
          env.psRadioTech).1.home = s₂.home :=
        home_establishDataConnection.trans (home_checkMultiApnState t)
      generalize (s₂.checkMultiApnState t).establishDataConnection env t env.psRadioTech = r
        at hestablish ⊢
      obtain ⟨s₃, ok⟩ := r
      cases ok <;> exact hestablish.trans (hstate.trans hattach)

theorem home_establishAllApnsIfConnectable :
    (s.establishAllApnsIfConnectable env).home = s.home := by
  refine apply_foldl home (fun s t => ?_) _ s.clearAllApnBad
  unfold establishIfConnectable
  split_ifs
  · dsimp only
    refine home_attemptEstablishDataConnection.trans ?_
    have hpush : (s.updateCellularDataConnectState t).home = s.home :=
      home_of_setting (setting_updateCellularDataConnectState t)
    split
    · exact (home_releaseDataConnection t).trans hpush
    · exact (home_releaseDataConnection t).trans hpush
    · exact hpush
  · rfl

theorem home_retryOrClearConnection (reason : DisConnectionReason)
    (info : SetupDataCallResultInfo) :
    (s.retryOrClearConnection env t reason info).home = s.home := by
  unfold retryOrClearConnection
  split
  · exact home_establishAllApnsIfConnectable.trans (home_clearConnection t _)
  · exact (home_clearConnection t _).trans (home_of_setting (setting_setApnBadState t true))
  · rfl
  · rfl

/-! What keeps the return of the permission possible -/

/-- While the permission is lent, this is not the default slot, and the return will be tried. -/
def Covered (d mode : Int) (s : Slot) : Prop :=
  s.Lent → (d ≠ s.slotId ∧ mode = dsdsModeV2) ∧
    (.resumeDataPermittedTimeout ∈ s.queue.pending ∨ (s.holder .mms).apnState.isEngaged = true)

/-- The default data slot is `d` and the DSDS mode of this slot and the default slot is `mode`. -/
def SteadyDsds (d mode : Int) (env : Env) (s : Slot) : Prop :=
  env.defaultCellularDataSlotId = d ∧ getDsdsModeForSlots env d s.slotId env.dsdsMode = mode

theorem SteadyDsds.checkDataPermittedByDsds (h : SteadyDsds d mode env s) :
    s.checkDataPermittedByDsds env = false ↔ d ≠ s.slotId ∧ mode = dsdsModeV2 := by
  obtain ⟨rfl, rfl⟩ := h
  simp [Slot.checkDataPermittedByDsds]

theorem SteadyDsds.congr (h : SteadyDsds d mode env s) (hslot : s'.slotId = s.slotId) :
    SteadyDsds d mode env s' := by
  unfold SteadyDsds
  rw [hslot]
  exact h

theorem Covered.of_frame (h : s.Covered d mode) (hslot : s'.slotId = s.slotId)
    (hlent : s'.latest Effect.lends = s.latest Effect.lends)
    (hpending : .resumeDataPermittedTimeout ∈ s.queue.pending →
      .resumeDataPermittedTimeout ∈ s'.queue.pending)
    (hstate : (s.holder .mms).apnState.isEngaged = true →
      (s'.holder .mms).apnState.isEngaged = true) : s'.Covered d mode := by
  intro hl
  have hl' : s.latest Effect.lends = some true := hlent.symm.trans hl
  obtain ⟨helsewhere, hwake⟩ := h hl'
  rw [hslot]
  exact ⟨helsewhere, hwake.imp hpending hstate⟩

theorem covered_of_returned (h : s.latest Effect.lends = some false) : s.Covered d mode := by
  intro hl
  cases h.symm.trans hl

/-- What the handler may do to the permission within one event. -/
structure Moved (env : Env) (s s' : Slot) : Prop where
  slotId : s'.slotId = s.slotId
  incall : s.hasIncallDataStateMachine = true → s'.hasIncallDataStateMachine = true
  latest : s'.latest Effect.lends = s.latest Effect.lends ∨ s'.latest Effect.lends = some false ∨
    MovesPermission env s ∧ .resumeDataPermittedTimeout ∈ s'.queue.pending
  pending : .resumeDataPermittedTimeout ∈ s.queue.pending →
    .resumeDataPermittedTimeout ∈ s'.queue.pending
  engaged : (s.holder .mms).apnState.isEngaged = true → (s'.holder .mms).apnState.isEngaged = true

theorem Moved.still (hhome : s'.home = s.home)
    (hlatest : s'.latest Effect.lends = s.latest Effect.lends)
    (hpending : .resumeDataPermittedTimeout ∈ s.queue.pending →
      .resumeDataPermittedTimeout ∈ s'.queue.pending)
    (hengaged : (s.holder .mms).apnState.isEngaged = true →
      (s'.holder .mms).apnState.isEngaged = true) : Moved env s s' := by
  obtain ⟨hslot, hincall⟩ := Prod.mk.inj hhome
  exact ⟨hslot, fun hi => hincall.trans hi, .inl hlatest, hpending, hengaged⟩

theorem Write.permission (h : Write env s s') : s'.slotId = s.slotId ∧
    (s.hasIncallDataStateMachine = true → s'.hasIncallDataStateMachine = true) ∧
      (s'.latest Effect.lends = s.latest Effect.lends ∨ s'.latest Effect.lends = some false ∨
        MovesPermission env s ∧ .resumeDataPermittedTimeout ∈ s'.queue.pending) := by
  have hsetting : s'.setting = s.setting → s'.slotId = s.slotId ∧
      (s.hasIncallDataStateMachine = true → s'.hasIncallDataStateMachine = true) := by
    intro h
    simp only [setting, Prod.mk.injEq] at h
    exact ⟨h.1, fun hi => h.2.2.2.trans hi⟩
  cases h with
  | other h =>
    simp only [essence, Prod.mk.injEq] at h
    obtain ⟨hslot, -, -, -, -, -, -, hincall, heffects, -⟩ := h
    refine ⟨hslot, fun hi => hincall.trans hi, .inl ?_⟩
    unfold latest
    rw [heffects]
  | @effect e he =>
    refine ⟨rfl, id, ?_⟩
    cases e with
    | changeConnectionForDsds i enable =>
      obtain rfl : enable = true := he
      exact .inr (.inl rfl)
    | _ => exact .inl (latest_effect rfl)
  | push =>
    obtain ⟨hslot, hincall⟩ := hsetting (setting_updateCellularDataConnectState _)
    refine ⟨hslot, hincall, .inl ?_⟩
    unfold updateCellularDataConnectState
    split_ifs
    · exact latest_effect rfl
    · rfl
  | machine _ =>
    obtain ⟨hslot, hincall⟩ := hsetting (setting_callMachine _ _)
    exact ⟨hslot, hincall, .inl (latest_callMachine (fun _ _ => rfl) _ _)⟩
  | reuse _ =>
    obtain ⟨hslot, hincall⟩ := hsetting (setting_callMachine _ _)
    exact ⟨hslot, hincall, .inl (latest_callMachine (fun _ _ => rfl) _ _)⟩
  | reload =>
    obtain ⟨hslot, hincall⟩ := hsetting (setting_applyApnReload _)
    refine ⟨hslot, hincall, .inl ?_⟩
    unfold applyApnReload
    split <;> rfl
  | setBad =>
    obtain ⟨hslot, hincall⟩ := hsetting (setting_setApnBadState _ _)
    refine ⟨hslot, hincall, .inl ?_⟩
    unfold setApnBadState
    split <;> rfl
  | lend =>
    generalize hs₁ : (if s.queue.hasInnerEvent isResumeDataPermittedTimeout then s
      else s.sendEventAfter .resumeDataPermittedTimeout resumeDataPermittedTimeout) = s₁
    have hlend : s.lendDataPermitted env = s₁.setDataPermittedForMms env true := by
      rw [← hs₁]
      rfl
    have hhome : s₁.home = s.home := by
      rw [← hs₁]
      split_ifs <;> rfl
    have hlatest : s₁.latest Effect.lends = s.latest Effect.lends := by
      rw [← hs₁]
      split_ifs <;> rfl
    have hpending : .resumeDataPermittedTimeout ∈ s₁.queue.pending := by
      rw [← hs₁]
      split_ifs with hinner
      · obtain ⟨e, he, hresume⟩ := EventQueue.hasInnerEvent_iff.mp hinner
        cases e <;> first | exact he | cases hresume
      · exact EventQueue.mem_pending_sendEventAfter.mpr (.inr rfl)
    have hmove : (s₁.setDataPermittedForMms env true).setting = s₁.setting :=
      setting_setDataPermittedForMms true
    obtain ⟨hslot, hincall⟩ := Prod.mk.inj ((home_of_setting hmove).trans hhome)
    rw [hlend]
    refine ⟨hslot, fun hi => hincall.trans hi, ?_⟩
    by_cases hmoves : MovesPermission env s₁
    · refine .inr (.inr ⟨(movesPermission_congr hhome).mp hmoves, ?_⟩)
      rw [queue_of_setting hmove]
      exact hpending
    · left
      rw [setDataPermittedForMms_stays hmoves]
      exact hlatest
  | giveBack =>
    obtain ⟨hslot, hincall⟩ := hsetting (setting_setDataPermittedForMms false)
    refine ⟨hslot, hincall, ?_⟩
    by_cases hmoves : MovesPermission env s
    · exact .inr (.inl (setDataPermittedForMms_moves hmoves false))
    · left
      rw [setDataPermittedForMms_stays hmoves]
  | incall => exact ⟨rfl, fun _ => rfl, .inl rfl⟩
  | _ => exact ⟨rfl, id, .inl rfl⟩

theorem Write.moved (h : Write env s s') : Moved env s s' := by
  obtain ⟨hslot, hincall, hlatest⟩ := h.permission
  refine ⟨hslot, hincall, hlatest, h.pending rfl, fun he => ?_⟩
  rw [h.hidden.apnState]
  exact he

theorem latest_startConnection {α : Type} {f : Effect → Option α}
    (hmachine : ∀ m o, f (.machine m o) = none)
    (hpush : ∀ st, f (.updateCellularDataConnectState st) = none) (t : ApnType) (m : MachineRef)
    (apnItem : ItemRef) (radioTech : RadioTech) :
    (s.startConnection env t m apnItem radioTech).latest f = s.latest f := by
  unfold startConnection
  extract_lets s₁ s₂ s₃ s₄ s₅ s₆
  have h₄ : s₄.latest f = s.latest f := latest_callMachine hmachine m _
  have h₅ : s₅.latest f = s₄.latest f := by
    dsimp only [s₅]
    unfold updateCellularDataConnectState
    split_ifs
    · exact latest_effect (hpush _)
    · rfl
  have hstart : (setApnActivateStart env s₆ t).latest f = s₆.latest f :=
    apply_setApnActivateStart (fun s => s.latest f) (fun _ _ _ => rfl) t
  exact hstart.trans (h₅.trans h₄)

theorem moved_renewHolder (s : Slot) (t : ApnType) :
    (s.renewHolder t).home = s.home ∧
      (s.renewHolder t).latest Effect.lends = s.latest Effect.lends ∧
      (.resumeDataPermittedTimeout ∈ s.queue.pending →
        .resumeDataPermittedTimeout ∈ (s.renewHolder t).queue.pending) ∧
      ((s.holder .mms).apnState.isEngaged = true →
        ((s.renewHolder t).holder .mms).apnState.isEngaged = true) := by
  refine ⟨?_, ?_, fun hx => ?_, fun he => ?_⟩
  · unfold renewHolder
    split_ifs <;> rfl
  · unfold renewHolder
    split_ifs <;> rfl
  · unfold renewHolder
    refine EventQueue.mem_pending_sendEventAfter.mpr (.inl ?_)
    split_ifs
    · exact EventQueue.mem_pending_removeEvent.mpr ⟨hx, rfl⟩
    · exact hx
  · rw [apnState_renewHolder]
    split_ifs with h
    · rw [h.1, h.2] at he
      cases he
    · exact he

theorem Op.moved (h : Op env (Connects env) s s') : Moved env s s' := by
  cases h with
  | write h => exact h.moved
  | @disconnect t m params howner =>
    refine .still rfl rfl id fun he => ?_
    change ((s.setApnState t .disconnecting).holder .mms).apnState.isEngaged = true
    rw [apnState_setApnState]
    split_ifs
    · rfl
    · exact he
  | @reset t hstate =>
    refine .still rfl rfl id fun he => ?_
    rw [apnState_setApnState, if_neg]
    · exact he
    · rintro rfl
      rcases hstate with hstate | hstate <;> rw [hstate] at he <;> cases he
  | @retry t id delay hidle hid henabled =>
    refine .still rfl rfl (fun hx => ?_) fun he => ?_
    · exact EventQueue.mem_pending_sendEventAfter.mpr (.inl hx)
    change ((s.setApnState t .retrying).holder .mms).apnState.isEngaged = true
    rw [apnState_setApnState, if_neg]
    · exact he
    · rintro rfl
      rw [hidle] at he
      cases he
  | renew =>
    have hfold : ∀ (l : List ApnType) (s : Slot), (l.foldl renewHolder s).home = s.home ∧
        (l.foldl renewHolder s).latest Effect.lends = s.latest Effect.lends ∧
        (.resumeDataPermittedTimeout ∈ s.queue.pending →
          .resumeDataPermittedTimeout ∈ (l.foldl renewHolder s).queue.pending) ∧
        ((s.holder .mms).apnState.isEngaged = true →
          ((l.foldl renewHolder s).holder .mms).apnState.isEngaged = true) := by
      intro l
      induction l with
      | nil => exact fun s => ⟨rfl, rfl, id, id⟩
      | cons t l ih =>
        intro s
        obtain ⟨hhome, hlatest, hpending, hengaged⟩ := moved_renewHolder s t
        obtain ⟨hhome', hlatest', hpending', hengaged'⟩ := ih (s.renewHolder t)
        exact ⟨hhome'.trans hhome, hlatest'.trans hlatest, fun hx => hpending' (hpending hx),
          fun he => hengaged' (hengaged he)⟩
    obtain ⟨hhome, hlatest, hpending, hengaged⟩ := hfold ApnType.all s
    exact .still hhome hlatest hpending hengaged
  | tell he => exact .still rfl rfl id id
  | search =>
    obtain ⟨d, c, heq⟩ := checkForCompatibleDataConnection_eq env s _
    rw [heq]
    exact .still rfl rfl id id
  | connect hc =>
    obtain ⟨t, hc⟩ := hc
    cases hc with
    | @start apnItem hidle hopen hsingle =>
      have hsetting : (s.findOrCreateCellularDataConnect.1.startConnection env t
          s.findOrCreateCellularDataConnect.2 apnItem env.psRadioTech).setting = s.setting :=
        (setting_startConnection t _ _ _).trans setting_findOrCreateCellularDataConnect
      have hlatest : s.findOrCreateCellularDataConnect.1.latest Effect.lends =
          s.latest Effect.lends := by
        unfold findOrCreateCellularDataConnect
        split <;> rfl
      refine .still (home_of_setting hsetting)
        ((latest_startConnection (fun _ _ => rfl) (fun _ => rfl) t _ _ _).trans hlatest)
        (fun hx => ?_) fun he => ?_
      · rw [queue_of_setting hsetting]
        exact hx
      · rw [apnState_startConnection, holder_findOrCreateCellularDataConnect]
        split_ifs
        · rfl
        · exact he

theorem Moved.covered (h : Moved env s s') (hsteady : SteadyDsds d mode env s)
    (hs : s.Covered d mode) : s'.Covered d mode := by
  rcases h.latest with hsame | hback | ⟨hmoves, hpending⟩
  · exact hs.of_frame h.slotId hsame h.pending h.engaged
  · exact covered_of_returned hback
  · intro _
    rw [h.slotId]
    exact ⟨hsteady.checkDataPermittedByDsds.mp hmoves.2.2, .inl hpending⟩

/-- Where the permission cannot be moved it is not lent. -/
theorem Moved.unlent (h : Moved env s s') (hs : ¬ MovesPermission env s ∧ ¬ s.Lent) :
    ¬ MovesPermission env s' ∧ ¬ s'.Lent := by
  obtain ⟨hmoves, hlent⟩ := hs
  constructor
  · rintro ⟨hincall, htsts, hdsds⟩
    unfold checkDataPermittedByDsds at hdsds
    rw [h.slotId] at htsts hdsds
    refine hmoves ⟨?_, htsts, hdsds⟩
    rw [← Bool.not_eq_true]
    intro hi
    cases hincall.symm.trans (h.incall hi)
  · intro hl
    rcases h.latest with hsame | hback | ⟨hm, -⟩
    · exact hlent (hsame.symm.trans hl)
    · cases hback.symm.trans hl
    · exact hmoves hm

theorem Does.covered (h : Does env (Establishes env) s s') (hsteady : SteadyDsds d mode env s)
    (hs : s.Covered d mode) : s'.Covered d mode := by
  have hboth : SteadyDsds d mode env s' ∧ s'.Covered d mode :=
    h.connects.invariant (P := fun s => SteadyDsds d mode env s ∧ s.Covered d mode)
      (fun _ _ hp hop => ⟨hp.1.congr hop.moved.slotId, hop.moved.covered hp.1 hp.2⟩) ⟨hsteady, hs⟩
  exact hboth.2

theorem Writes.covered (h : Writes env s s') (hsteady : SteadyDsds d mode env s)
    (hs : s.Covered d mode) : s'.Covered d mode :=
  Does.covered h.does hsteady hs

theorem Does.unlent (h : Does env (Establishes env) s s')
    (hs : ¬ MovesPermission env s ∧ ¬ s.Lent) : ¬ MovesPermission env s' ∧ ¬ s'.Lent :=
  h.connects.invariant (fun _ _ hp hop => hop.moved.unlent hp) hs

end Slot
end CellularData
