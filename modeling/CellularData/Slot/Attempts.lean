import CellularData.Slot.Acts

/-! What clearing, the switches and an attempt to connect a holder consist of. -/
namespace CellularData
open Lib StateMachine Relation

namespace Slot

variable {env : Env} {C : Slot → Slot → Prop} {s s' : Slot} {t : ApnType}

theorem writes_effect {e : Effect} (he : e.isOrdinary = true) :
    Writes env s (s.effect e) := (Write.effect he).writes

theorem writes_other (h : s'.essence = s.essence) : Writes env s s' := (Write.other h).writes

/-! Clearing -/

theorem does_clearConnection (t : ApnType) (reason : DisConnectionReason) :
    Does env C s (s.clearConnection t reason) := by
  unfold clearConnection
  split
  · exact .refl s
  · rename_i howner
    split
    · exact .refl s
    · exact .refl s
    · exact .refl s
    · exact (Op.disconnect howner).does

theorem does_clearHolders (reason : DisConnectionReason) :
    Does env C s (s.clearHolders reason) := by
  refine Does.foldl (fun s t => ?_) _ _
  split_ifs
  · exact .refl s
  · exact does_clearConnection t reason

theorem does_clearAllConnections (reason : DisConnectionReason) :
    Does env C s (s.clearAllConnections env reason) := by
  unfold clearAllConnections
  have heffect : Writes env s (s.effect .deactivatePdpAfterHandover) :=
    writes_effect rfl
  split_ifs
  · exact heffect.does
  · have hstart : Writes env s { s.effect .deactivatePdpAfterHandover with
        isHandoverOccurred := false } := heffect.trans (writes_other rfl)
    exact hstart.does.trans (does_clearHolders reason)
  · exact does_clearHolders reason

theorem does_releaseDataConnection (t : ApnType) :
    Does env C s (s.releaseDataConnection t) := by
  unfold releaseDataConnection
  split
  · exact .refl s
  · rename_i howner
    exact (Op.disconnect howner).does

/-! Switches -/

theorem writes_queryUserDataStatus : Writes env s (s.queryUserDataStatus env).1 := by
  unfold queryUserDataStatus
  split_ifs
  · exact writes_other rfl
  · split <;> exact writes_other rfl

theorem writes_queryUserDataRoamingStatus :
    Writes env s (s.queryUserDataRoamingStatus env).1 := by
  rcases queryUserDataRoamingStatus_cases env s with ⟨on, h⟩ | h
  · rw [h]
    exact writes_other rfl
  · rw [h]
    exact .refl s

theorem writes_loadSwitchValue : Writes env s (s.loadSwitchValue env) :=
  writes_queryUserDataStatus.trans writes_queryUserDataRoamingStatus

theorem writes_putValue (key : SettingsKey) (on : Bool) : Writes env s (s.putValue key on) :=
  writes_effect rfl

theorem writes_setUserDataOn (on : Bool) : Writes env s (s.setUserDataOn env on).1 := by
  unfold setUserDataOn
  split_ifs
  · exact .refl s
  · refine (writes_putValue .dataEnable on).trans ?_
    dsimp only
    split <;> exact writes_other rfl

theorem writes_setIntelliSwitchOn (on : Bool) : Writes env s (s.setIntelliSwitchOn env on).1 := by
  unfold setIntelliSwitchOn
  refine (writes_putValue .intelligenceSwitch on).trans ?_
  dsimp only
  split <;> exact writes_other rfl

theorem writes_setUserDataRoamingOn (on : Bool) :
    Writes env s (s.setUserDataRoamingOn env on).1 := by
  unfold setUserDataRoamingOn
  split_ifs
  · exact .refl s
  · exact .refl s
  · refine (writes_putValue (.dataRoaming env.simId) on).trans ?_
    dsimp only
    split <;> exact writes_other rfl

theorem writes_setCellularDataEnable (on : Bool) :
    Writes env s (s.setCellularDataEnable env on).1 := by
  have hquery : Writes env s (s.queryUserDataStatus env).1 := writes_queryUserDataStatus
  unfold setCellularDataEnable
  split
  · rename_i heq
    rwa [heq] at hquery
  · rename_i heq
    rw [heq] at hquery
    split_ifs
    · exact hquery
    · exact hquery.trans (writes_setUserDataOn _)

theorem writes_setIntelligenceSwitchEnable (on : Bool) :
    Writes env s (s.setIntelligenceSwitchEnable env on).1 := by
  have hquery : Writes env s (s.queryIntelligenceSwitchStatus env).1 := writes_other rfl
  simp only [setIntelligenceSwitchEnable]
  split_ifs
  · exact hquery
  · exact hquery.trans (writes_setIntelliSwitchOn _)

theorem writes_isCellularDataEnabled : Writes env s (s.isCellularDataEnabled env).1 := by
  unfold isCellularDataEnabled
  split_ifs
  · exact writes_queryUserDataStatus
  · exact .refl s

theorem writes_isCellularDataRoamingEnabled :
    Writes env s (s.isCellularDataRoamingEnabled env).1 := by
  rw [isCellularDataRoamingEnabled_fst]
  exact writes_queryUserDataRoamingStatus

theorem writes_setCellularDataRoamingEnabled (on : Bool) :
    Writes env s (s.setCellularDataRoamingEnabled env on).1 := by
  simp only [setCellularDataRoamingEnabled]
  split_ifs
  · exact writes_queryUserDataRoamingStatus
  · exact writes_queryUserDataRoamingStatus.trans (writes_setUserDataRoamingOn _)

theorem writes_setDataPermitted (slotId : Int) (b : Bool) :
    Writes env s (s.setDataPermitted env slotId b) := by
  unfold setDataPermitted
  split_ifs
  · exact .refl s
  · exact .refl s
  · exact writes_effect rfl

theorem writes_checkAttachAndSimState (t : ApnType) :
    Writes env s (s.checkAttachAndSimState env t).1 := by
  unfold checkAttachAndSimState
  split
  · exact .refl s
  · split
    · exact Write.lend.writes
    · exact .refl s

/-! Single connection -/

theorem isSingleConnectionEnabled_cases (env : Env) (s : Slot) :
    ∃ b, (s.isSingleConnectionEnabled env env.psRadioTech).1 =
        { s with multipleConnectionsEnabled := b } ∧
      (AnswersSingle env { s with multipleConnectionsEnabled := b } ↔ AnswersSingle env s) := by
  unfold AnswersSingle isSingleConnectionEnabled getSinglePdpEnabledFromOpCfg
  split_ifs
  · exact ⟨false, rfl, iff_of_true rfl rfl⟩
  · cases env.operatorConfig.singlePdpEnabled with
    | some v => exact ⟨!v, rfl, Iff.rfl⟩
    | none => exact ⟨s.multipleConnectionsEnabled, rfl, Iff.rfl⟩

theorem writes_isSingleConnectionEnabled :
    Writes env s (s.isSingleConnectionEnabled env env.psRadioTech).1 := by
  obtain ⟨b, hb, hsame⟩ := isSingleConnectionEnabled_cases env s
  rw [hb]
  exact (Write.single hsame).writes

/-- A query leaves its answer as it is. -/
theorem answersSingle_isSingleConnectionEnabled :
    AnswersSingle env (s.isSingleConnectionEnabled env env.psRadioTech).1 ↔
      AnswersSingle env s := by
  obtain ⟨b, hb, hsame⟩ := isSingleConnectionEnabled_cases env s
  rw [hb]
  exact hsame

theorem writes_getSinglePdpEnabledFromOpCfg :
    Writes env s (s.getSinglePdpEnabledFromOpCfg env) := by
  unfold getSinglePdpEnabledFromOpCfg
  cases h : env.operatorConfig.singlePdpEnabled with
  | some v =>
    refine (Write.single ?_).writes
    unfold AnswersSingle isSingleConnectionEnabled getSinglePdpEnabledFromOpCfg
    split_ifs
    · exact Iff.rfl
    · rw [h]
  | none => exact .refl s

/-! Checks of the holder -/

theorem writes_updateCellularDataConnectState (t : ApnType) :
    Writes env s (s.updateCellularDataConnectState t) := Write.push.writes

/-- A check that succeeds has found the holder idle. -/
theorem checkApnState_spec (env : Env) (C : Slot → Slot → Prop) (s : Slot) (t : ApnType) :
    Does env C s (s.checkApnState env t).1 ∧
      (s.checkApnState env t).1.scene = s.scene ∧
        ((s.checkApnState env t).2 = true →
          ((s.checkApnState env t).1.holder t).apnState = .idle) := by
  unfold checkApnState
  split
  · exact ⟨(Write.sendAfter rfl).writes.does, rfl, fun h => nomatch h⟩
  split
  · exact ⟨.refl s, rfl, fun h => nomatch h⟩
  have hreset : Does env C s (if (s.holder t).apnState = .failed then s.setApnState t .idle else s) ∧
      (if (s.holder t).apnState = .failed then s.setApnState t .idle else s).scene =
        s.scene := by
    split_ifs with hfailed
    · exact ⟨(Op.reset (.inl hfailed)).does, rfl⟩
    · exact ⟨.refl s, rfl⟩
  dsimp only
  generalize (if (s.holder t).apnState = .failed then s.setApnState t .idle else s) = s₁ at hreset ⊢
  obtain ⟨hdoes, hscene⟩ := hreset
  split_ifs with hidle
  · exact ⟨hdoes, hscene, fun h => nomatch h⟩
  · split
    · exact ⟨hdoes, hscene, fun h => nomatch h⟩
    · refine ⟨hdoes.trans (Writes.does ?_), hscene, fun _ => ?_⟩
      · dsimp only
        exact (Write.holder rfl rfl rfl rfl id).writes
      · simpa using not_not.mp hidle

theorem releaseDataConnection_frame (s : Slot) (t : ApnType) :
    (s.releaseDataConnection t).scene = s.scene ∧
      ∀ u, u ≠ t → (s.releaseDataConnection t).holder u = s.holder u := by
  unfold releaseDataConnection
  split
  · exact ⟨rfl, fun _ _ => rfl⟩
  · exact ⟨rfl, fun u hu => by simp [hu]⟩

/-- Only holders of the types that share the default APN are released. -/
theorem checkMultiApnState_spec (env : Env) (C : Slot → Slot → Prop) (s : Slot) (t : ApnType) :
    Does env C s (s.checkMultiApnState t) ∧
      (s.checkMultiApnState t).scene = s.scene ∧
        (s.checkMultiApnState t).holder t = s.holder t := by
  have hfold : ∀ f : Slot → ApnType → Slot,
      (∀ s u, f s u = s ∨ isMultiDefaultApn u = true ∧ f s u = s.releaseDataConnection u) →
      ∀ (l : List ApnType) (s : Slot), Does env C s (l.foldl f s) ∧
        (l.foldl f s).scene = s.scene ∧ (l.foldl f s).holder .default_ = s.holder .default_ := by
    intro f hf l
    induction l with
    | nil => exact fun s => ⟨.refl s, rfl, rfl⟩
    | cons u l ih =>
      intro s
      rw [List.foldl_cons]
      have ⟨hdoes, hscene, hholder⟩ := ih (f s u)
      rcases hf s u with heq | ⟨hu, heq⟩
      · rw [heq] at hdoes hscene hholder ⊢
        exact ⟨hdoes, hscene, hholder⟩
      · have hne : ApnType.default_ ≠ u := by
          rintro rfl
          cases hu
        have hrelease := releaseDataConnection_frame s u
        rw [heq] at hdoes hscene hholder ⊢
        exact ⟨(does_releaseDataConnection u).trans hdoes, hscene.trans hrelease.1,
          hholder.trans (hrelease.2 _ hne)⟩
  unfold checkMultiApnState
  split_ifs with ht
  · exact ⟨.refl s, rfl, rfl⟩
  · obtain rfl : t = .default_ := not_not.mp ht
    refine hfold _ (fun s u => ?_) _ s
    split_ifs with hu
    · split
      · exact .inr ⟨hu, rfl⟩
      · exact .inr ⟨hu, rfl⟩
      · exact .inl rfl
    · exact .inl rfl

/-! Choice of the machine -/

theorem chooseApnItem_spec (env : Env) (s : Slot) (t : ApnType) :
    Writes env s (s.chooseApnItem env t).1 ∧
      (s.chooseApnItem env t).1.scene = s.scene := by
  unfold chooseApnItem
  split
  · exact ⟨.refl s, rfl⟩
  · dsimp only
    exact ⟨(Write.holder rfl rfl rfl rfl id).writes, rfl⟩


/-! Establishing -/

theorem scene_setDataPermittedForMms (b : Bool) :
    (s.setDataPermittedForMms env b).scene = s.scene :=
  apply_setDataPermittedForMms scene (fun _ _ _ => rfl) (fun _ _ _ => rfl) b

theorem scene_checkAttachAndSimState :
    (s.checkAttachAndSimState env t).1.scene = s.scene := by
  unfold checkAttachAndSimState
  split
  · rfl
  · split
    · refine (scene_setDataPermittedForMms true).trans ?_
      split_ifs <;> rfl
    · rfl

theorem scene_clearAllConnections (reason : DisConnectionReason) :
    (s.clearAllConnections env reason).scene = s.scene :=
  apply_clearAllConnections scene (fun _ _ _ _ => rfl) (fun _ _ => rfl) reason

theorem scene_findOrCreateCellularDataConnect :
    s.findOrCreateCellularDataConnect.1.scene = s.scene := by
  unfold findOrCreateCellularDataConnect
  split <;> rfl

theorem scene_handleCompatibleDataConnection (m : MachineRef) (t : ApnType) :
    (s.handleCompatibleDataConnection m t).1.scene = s.scene := by
  simp only [handleCompatibleDataConnection]
  split_ifs
  · exact scene_callMachine m _
  · rfl

theorem Writes.apnState (h : Writes env s s') (t : ApnType) :
    (s'.holder t).apnState = (s.holder t).apnState := h.hidden.apnState t

theorem scene_isSingleConnectionEnabled (radioTech : RadioTech) :
    (s.isSingleConnectionEnabled env radioTech).1.scene = s.scene := by
  unfold isSingleConnectionEnabled getSinglePdpEnabledFromOpCfg
  split_ifs
  · rfl
  · split <;> rfl

theorem does_establishOwnConnection (hidle : (s.holder t).apnState = .idle)
    (hopen : GateOpen env s t) (apnItem : ItemRef) :
    Does env (Starts env t) s (s.establishOwnConnection env t apnItem env.psRadioTech).1 := by
  have hquery : Writes env s (s.isSingleConnectionEnabled env env.psRadioTech).1 :=
    writes_isSingleConnectionEnabled
  simp only [establishOwnConnection]
  split_ifs with hhigher hup
  · exact hquery.does
  · exact hquery.does.trans (does_clearAllConnections _)
  · refine hquery.does.trans (Op.connect (Starts.start ((hquery.apnState t).trans hidle)
      (hopen.congr (gateInputs_of_scene (scene_isSingleConnectionEnabled _))) fun hsingle => ?_)).does
    have htrue : (s.isSingleConnectionEnabled env env.psRadioTech).2 = true :=
      answersSingle_isSingleConnectionEnabled.mp hsingle
    simpa [htrue] using hup

theorem does_handleCompatibleDataConnection (m : MachineRef) (t : ApnType) :
    Does env C s (s.handleCompatibleDataConnection m t).1 := by
  simp only [handleCompatibleDataConnection]
  split_ifs with hactive
  · have hactive' : ((s.modifyHolder t fun h => h.releaseAllCellularData).machine? m).any
        (·.isActiveState) = true := hactive
    exact Writes.does (Writes.trans (Write.holder rfl rfl rfl rfl Bool.noConfusion).writes
      (Write.reuse hactive').writes)
  · exact (Write.sendAfter rfl).writes.does

/-- An idle holder whose attempt has passed the checks is connected through an open gate. -/
theorem does_establishDataConnection (hidle : (s.holder t).apnState = .idle)
    (hchecked : Checked env s t) :
    Does env (Starts env t) s (s.establishDataConnection env t env.psRadioTech).1 := by
  obtain ⟨hchoose, hscene⟩ := chooseApnItem_spec env s t
  unfold establishDataConnection
  generalize s.chooseApnItem env t = r at hchoose hscene ⊢
  obtain ⟨s₁, item⟩ := r
  have hidle₁ : (s₁.holder t).apnState = .idle := (hchoose.apnState t).trans hidle
  have hchecked₁ : Checked env s₁ t := hchecked.congr (gateInputs_of_scene hscene)
  cases item with
  | none => exact hchoose.does
  | some apnItem =>
    dsimp only
    split_ifs with hdefault
    · exact hchoose.does.trans (does_establishOwnConnection hidle₁
        (hchecked₁.gateOpen_default hdefault) apnItem)
    · rw [not_or] at hdefault
      have hsearch : Hidden s₁ (s₁.checkForCompatibleDataConnection env t).1 :=
        hidden_checkForCompatibleDataConnection t
      have hscene₂ := scene_checkForCompatibleDataConnection env s₁ t
      have hdoes : Does env (Starts env t) s (s₁.checkForCompatibleDataConnection env t).1 :=
        hchoose.does.trans Op.search.does
      generalize s₁.checkForCompatibleDataConnection env t = r at hsearch hscene₂ hdoes ⊢
      obtain ⟨s₂, dc⟩ := r
      cases dc with
      | some m => exact hdoes.trans (does_handleCompatibleDataConnection m t)
      | none =>
        exact hdoes.trans (does_establishOwnConnection ((hsearch.apnState t).trans hidle₁)
          ((hchecked₁.gateOpen_other hdefault.1 hdefault.2).congr (gateInputs_of_scene hscene₂))
          apnItem)

/-- An attempt either goes no further than its checks or has passed them. -/
theorem attemptEstablishDataConnection_cases (env : Env) (s : Slot) (t : ApnType) :
    Writes env s (s.attemptEstablishDataConnection env t) ∨
      s.checkRoamingState env t = true ∧
        Does env (Starts env t) s (s.attemptEstablishDataConnection env t) := by
  have hattach : Writes env s (s.checkAttachAndSimState env t).1 := writes_checkAttachAndSimState t
  unfold attemptEstablishDataConnection
  split_ifs with hairplane hslot
  · exact .inl (.refl s)
  · exact .inl (.refl s)
  split
  · rename_i h
    rw [h] at hattach
    exact .inl hattach
  rename_i s₀ h
  obtain ⟨rfl, hmcc, hps, hsim⟩ := checkAttachAndSimState_true h
  split_ifs with hroaming
  · exact .inl (.refl _)
  have hpassed : s₀.checkRoamingState env t = true := by simpa using hroaming
  refine .inr ⟨hpassed, ?_⟩
  have hchecked : Checked env s₀ t := ⟨by simpa using hairplane, hmcc, hps, hsim, hpassed⟩
  obtain ⟨hstate, hscene, hfound⟩ := checkApnState_spec env (Starts env t) s₀ t
  generalize s₀.checkApnState env t = r at hstate hscene hfound ⊢
  obtain ⟨s₁, ok⟩ := r
  cases ok with
  | false => exact hstate
  | true =>
    obtain ⟨hmulti, hscene₂, hkeep⟩ := checkMultiApnState_spec env (Starts env t) s₁ t
    have hestablish : Does env (Starts env t) (s₁.checkMultiApnState t)
        ((s₁.checkMultiApnState t).establishDataConnection env t env.psRadioTech).1 :=
      does_establishDataConnection (hkeep ▸ hfound rfl)
        (hchecked.congr (gateInputs_of_scene (hscene₂.trans hscene)))
    have hdoes := (hstate.trans hmulti).trans hestablish
    dsimp only
    generalize (s₁.checkMultiApnState t).establishDataConnection env t env.psRadioTech = r
      at hdoes ⊢
    obtain ⟨s₂, ok⟩ := r
    cases ok with
    | false => exact hdoes
    | true =>
      have hhandover : Writes env s₂ { s₂ with isHandoverOccurred := false } := writes_other rfl
      exact hdoes.trans hhandover.does

theorem does_attemptEstablishDataConnection (t : ApnType) :
    Does env (Connects env) s (s.attemptEstablishDataConnection env t) := by
  rcases attemptEstablishDataConnection_cases env s t with h | ⟨-, h⟩
  · exact h.does
  · exact h.bind fun _ _ hstart => (Op.connect ⟨t, hstart⟩).does

theorem does_establishIfConnectable (t : ApnType) :
    Does env (Connects env) s (s.establishIfConnectable env t) := by
  unfold establishIfConnectable
  split_ifs
  · have hupdate : Writes env s (s.updateCellularDataConnectState t) :=
      writes_updateCellularDataConnectState t
    dsimp only
    refine (hupdate.does.trans ?_).trans (does_attemptEstablishDataConnection t)
    split
    · exact does_releaseDataConnection t
    · exact does_releaseDataConnection t
    · exact .refl _
  · exact .refl s

theorem Establishes.does (h : Establishes env s s') : Does env (Connects env) s s' := by
  cases h with
  | attempt h => exact does_attemptEstablishDataConnection _
  | all =>
    exact Write.clearBad.writes.does.trans (Does.foldl (fun _ t => does_establishIfConnectable t) _ _)

/-- The attempts taken apart. -/
theorem Does.connects (h : Does env (Establishes env) s s') : Does env (Connects env) s s' :=
  h.bind fun _ _ h => h.does

theorem does_attempt (h : (s.holder t).dataCallEnabled = true) :
    Does env (Establishes env) s (s.attemptEstablishDataConnection env t) :=
  (Op.connect (.attempt h)).does

theorem does_establishAllApnsIfConnectable :
    Does env (EstablishesAll env) s (s.establishAllApnsIfConnectable env) := (Op.connect .all).does

end Slot
end CellularData
