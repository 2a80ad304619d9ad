import CellularData.Slot.Attempts

/-! The APN with which a holder is connected, and whether it serves the holder's type. -/
namespace CellularData
open Lib StateMachine

namespace ConnectionRetryPolicy

variable {isBadApn : ItemRef → Bool} {p : ConnectionRetryPolicy} {r : ItemRef}

theorem nextRetryApnItem_some {fuel : Nat} (h : (p.nextRetryApnItem isBadApn fuel).1 = some r) :
    r ∈ p.matchedApns ∧ isBadApn r = false := by
  induction fuel generalizing p with
  | zero => cases h
  | succ fuel ih =>
    simp only [nextRetryApnItem] at h
    generalize hp : (if p.matchedApns.length ≤ p.currentApnIndex then
      { p with currentApnIndex := 0, tryCount := 0 } else p) = p' at h
    have hmatched : p'.matchedApns = p.matchedApns := by
      rw [← hp]
      split_ifs <;> rfl
    cases hget : p'.matchedApns[p'.currentApnIndex]? with
    | none =>
      rw [hget] at h
      cases h
    | some apnItem =>
      rw [hget] at h
      dsimp only at h
      split_ifs at h with hnext
      · obtain ⟨hmem, hgood⟩ := ih h
        exact ⟨hmatched ▸ hmem, hgood⟩
      · obtain rfl := Option.some.inj h
        rw [not_or, Bool.not_eq_true] at hnext
        exact ⟨hmatched ▸ List.mem_of_getElem? hget, hnext.1⟩

/-- The next APN to try is a matched one that is not bad. -/
theorem getNextRetryApnItem_some (h : (p.getNextRetryApnItem isBadApn).1 = some r) :
    r ∈ p.matchedApns ∧ isBadApn r = false := by
  unfold getNextRetryApnItem at h
  split_ifs at h
  exact nextRetryApnItem_some h

theorem matchedApns_setMatchedApns (profileId : ItemRef → Int) (apns : List ItemRef) :
    (p.setMatchedApns profileId apns).matchedApns = apns := by
  unfold setMatchedApns
  split_ifs <;> rfl

end ConnectionRetryPolicy

namespace ApnManager

variable {a a' : ApnManager} (item : ItemRef → ApnItem)

theorem getApnItemById_congr (hall : a'.allApnItem = a.allApnItem) (id : Int) :
    a'.getApnItemById item id = a.getApnItemById item id := by
  simp only [getApnItemById, hall]

theorem filterMatchedApns_congr (hall : a'.allApnItem = a.allApnItem)
    (hprefer : a'.preferId = a.preferId) (roamingState : Bool) (t : ApnType) :
    a'.filterMatchedApns item roamingState t = a.filterMatchedApns item roamingState t := by
  obtain ⟨_, _, all, prefer⟩ := a
  obtain ⟨_, _, all', prefer'⟩ := a'
  dsimp only at hall hprefer
  subst hall hprefer
  cases t <;> rfl

end ApnManager

namespace Slot

variable {env : Env} {s s' : Slot} {t : ApnType} {r : ItemRef}

/-- The APNs that serve `t`, as an attempt computes them. -/
def matchedApns (env : Env) (s : Slot) (t : ApnType) : List ItemRef :=
  s.apnManager.filterMatchedApns s.apnItem (0 < env.psRoamingState) t

/-- The item with the profile id of the stored preferred APN. -/
def preferredApn (env : Env) (s : Slot) : Option ItemRef :=
  s.apnManager.getApnItemById s.apnItem env.currentApnId

/-- The item serves `t` and is not marked bad. -/
def Serves (env : Env) (s : Slot) (t : ApnType) (r : ItemRef) : Prop :=
  r ∈ s.matchedApns env t ∧ (s.apnItem r).badApn = false

/-- An attempt to connect `t` hands an item to a machine. -/
def HandsOver (env : Env) (s : Slot) (t : ApnType) (r : ItemRef) : Prop :=
  (∃ record, (s.attemptEstablishDataConnection env t).connectLog = record :: s.connectLog) ∧
    ((s.attemptEstablishDataConnection env t).holder t).apnItem = some r

/-- What an attempt takes: the preferred APN if there is one. -/
def Chosen (env : Env) (s : Slot) (t : ApnType) (r : ItemRef) : Prop :=
  match s.preferredApn env with
  | some preferred => r = preferred
  | none => s.Serves env t r

/-! The table is the same throughout an attempt -/

def supply (s : Slot) := (s.apnItems, s.apnManager.allApnItem, s.apnManager.preferId)

theorem supply_of_scene (h : s'.scene = s.scene) : s'.supply = s.supply := by
  simp only [scene, Prod.mk.injEq] at h
  simp only [supply, h.2.1, h.2.2.1, h.2.2.2.1]

theorem apnItem_of_supply (h : s'.supply = s.supply) : s'.apnItem = s.apnItem := by
  have hitems : s'.apnItems = s.apnItems := congrArg (·.1) h
  funext i
  simp only [apnItem, hitems]

theorem matchedApns_of_supply (h : s'.supply = s.supply) (t : ApnType) :
    s'.matchedApns env t = s.matchedApns env t := by
  unfold matchedApns
  rw [apnItem_of_supply h]
  exact ApnManager.filterMatchedApns_congr _ (congrArg (·.2.1) h) (congrArg (·.2.2) h) _ t

theorem chosen_of_supply (h : s'.supply = s.supply) : s'.Chosen env t r ↔ s.Chosen env t r := by
  have hall : s'.apnManager.allApnItem = s.apnManager.allApnItem := congrArg (·.2.1) h
  simp only [Chosen, preferredApn, Serves, matchedApns_of_supply h, apnItem_of_supply h,
    ApnManager.getApnItemById_congr _ hall]

theorem scene_isCellularDataRoamingEnabled :
    (s.isCellularDataRoamingEnabled env).1.supply = s.supply ∧
      (s.isCellularDataRoamingEnabled env).1.connectLog = s.connectLog := by
  rw [isCellularDataRoamingEnabled_fst]
  rcases queryUserDataRoamingStatus_cases env s with ⟨on, h⟩ | h
  · rw [h]
    exact ⟨rfl, rfl⟩
  · rw [h]
    exact ⟨rfl, rfl⟩

/-! The choice -/

/-- A check that succeeds has stored the APNs that serve the holder. -/
theorem matchedApns_checkApnState (h : (s.checkApnState env t).2 = true) :
    ((s.checkApnState env t).1.holder t).retryPolicy.matchedApns = s.matchedApns env t := by
  revert h
  unfold checkApnState
  split
  · exact fun h => nomatch h
  split
  · exact fun h => nomatch h
  dsimp only
  generalize hs₁ : (if (s.holder t).apnState = .failed then s.setApnState t .idle else s) = s₁
  have hmatched : s₁.matchedApns env t = s.matchedApns env t := by
    rw [← hs₁]
    split_ifs
    · exact ApnManager.filterMatchedApns_congr _ rfl rfl _ _
    · rfl
  split_ifs
  · exact fun h => nomatch h
  · split
    · exact fun h => nomatch h
    · rename_i hlist
      intro _
      rw [← hmatched]
      simp only [holder_modifyHolder, if_true,
        ConnectionRetryPolicy.matchedApns_setMatchedApns]
      rfl

theorem chooseApnItem_chosen (hmatched : (s.holder t).retryPolicy.matchedApns = s.matchedApns env t)
    (h : (s.chooseApnItem env t).2 = some r) : s.Chosen env t r := by
  unfold Chosen preferredApn
  unfold chooseApnItem at h
  cases hfound : s.apnManager.getApnItemById s.apnItem env.currentApnId with
  | some preferred =>
    rw [hfound] at h
    exact (Option.some.inj h).symm
  | none =>
    rw [hfound] at h
    obtain ⟨hmem, hgood⟩ := ConnectionRetryPolicy.getNextRetryApnItem_some h
    exact ⟨hmatched ▸ hmem, hgood⟩

/-- A connection of the holder's own is set up with the item given. -/
theorem establishOwnConnection_item {apnItem : ItemRef} {radioTech : RadioTech} :
    (s.establishOwnConnection env t apnItem radioTech).1.scene = s.scene ∨
      ((s.establishOwnConnection env t apnItem radioTech).1.holder t).apnItem = some apnItem := by
  have hquery : (s.isSingleConnectionEnabled env radioTech).1.scene = s.scene :=
    scene_isSingleConnectionEnabled radioTech
  simp only [establishOwnConnection]
  split_ifs
  · exact .inl hquery
  · exact .inl ((scene_clearAllConnections _).trans hquery)
  · right
    rw [holder_startConnection, if_pos rfl]

theorem establishDataConnection_chosen
    (hmatched : (s.holder t).retryPolicy.matchedApns = s.matchedApns env t) (radioTech : RadioTech) :
    (s.establishDataConnection env t radioTech).1.connectLog = s.connectLog ∨
      ∃ r, ((s.establishDataConnection env t radioTech).1.holder t).apnItem = some r ∧
        s.Chosen env t r := by
  have hscene := (chooseApnItem_spec env s t).2
  have hchosen : ∀ r, (s.chooseApnItem env t).2 = some r → s.Chosen env t r :=
    fun r h => chooseApnItem_chosen hmatched h
  unfold establishDataConnection
  generalize s.chooseApnItem env t = c at hscene hchosen ⊢
  obtain ⟨s₁, item⟩ := c
  have hlog₁ : s₁.connectLog = s.connectLog := connectLog_of_scene hscene
  cases item with
  | none => exact .inl hlog₁
  | some apnItem =>
    have hitem : s.Chosen env t apnItem := hchosen apnItem rfl
    dsimp only
    split_ifs
    · rcases establishOwnConnection_item (s := s₁) with h | h
      · exact .inl ((connectLog_of_scene h).trans hlog₁)
      · exact .inr ⟨apnItem, h, hitem⟩
    · have hsearch := scene_checkForCompatibleDataConnection env s₁ t
      generalize s₁.checkForCompatibleDataConnection env t = c at hsearch ⊢
      obtain ⟨s₂, dc⟩ := c
      have hlog₂ : s₂.connectLog = s.connectLog :=
        ((connectLog_of_scene hsearch).trans scene_isCellularDataRoamingEnabled.2).trans hlog₁
      cases dc with
      | some m =>
        exact .inl ((connectLog_of_scene (scene_handleCompatibleDataConnection m t)).trans hlog₂)
      | none =>
        rcases establishOwnConnection_item (s := s₂) with h | h
        · exact .inl ((connectLog_of_scene h).trans hlog₂)
        · exact .inr ⟨apnItem, h, hitem⟩

/-- What an attempt hands over is what the choice gives in the state it starts from. -/
theorem HandsOver.chosen (h : HandsOver env s t r) : s.Chosen env t r := by
  obtain ⟨⟨record, hlog⟩, hitem⟩ := h
  have hcases : (s.attemptEstablishDataConnection env t).connectLog = s.connectLog ∨
      ∃ r, ((s.attemptEstablishDataConnection env t).holder t).apnItem = some r ∧
        s.Chosen env t r := by
    clear hlog hitem
    have hattach : (s.checkAttachAndSimState env t).1.scene = s.scene := scene_checkAttachAndSimState
    unfold attemptEstablishDataConnection
    split_ifs
    · exact .inl rfl
    · exact .inl rfl
    generalize s.checkAttachAndSimState env t = c at hattach ⊢
    obtain ⟨s₁, ok⟩ := c
    cases ok with
    | false => exact .inl (connectLog_of_scene hattach)
    | true =>
      dsimp only
      split_ifs
      · exact .inl (connectLog_of_scene hattach)
      have hstate := (checkApnState_spec env (Connects env) s₁ t).2.1
      have hfound : (s₁.checkApnState env t).2 = true →
          ((s₁.checkApnState env t).1.holder t).retryPolicy.matchedApns = s₁.matchedApns env t :=
        matchedApns_checkApnState
      generalize s₁.checkApnState env t = c at hstate hfound ⊢
      obtain ⟨s₂, ok⟩ := c
      cases ok with
      | false => exact .inl (connectLog_of_scene (hstate.trans hattach))
      | true =>
        obtain ⟨-, hmulti, hholder⟩ := checkMultiApnState_spec env (Connects env) s₂ t
        have hscene : (s₂.checkMultiApnState t).scene = s.scene :=
          (hmulti.trans hstate).trans hattach
        have hmatched : ((s₂.checkMultiApnState t).holder t).retryPolicy.matchedApns =
            (s₂.checkMultiApnState t).matchedApns env t := by
          rw [hholder, hfound rfl,
            matchedApns_of_supply (supply_of_scene (hmulti.trans hstate)) t]
        have hestablish := establishDataConnection_chosen hmatched env.psRadioTech
        dsimp only
        generalize s₂.checkMultiApnState t = s₃ at hscene hestablish ⊢
        generalize s₃.establishDataConnection env t env.psRadioTech = c at hestablish ⊢
        obtain ⟨s₄, ok⟩ := c
        rcases hestablish with hlog | ⟨r', hitem', hchosen⟩
        · left
          cases ok <;> exact hlog.trans (connectLog_of_scene hscene)
        · right
          refine ⟨r', ?_, (chosen_of_supply (supply_of_scene hscene)).mp hchosen⟩
          cases ok <;> exact hitem'
  rcases hcases with hsame | ⟨r', hitem', hchosen⟩
  · rw [hsame] at hlog
    exact absurd hlog.symm (List.cons_ne_self _ _)
  · obtain rfl : r = r' := Option.some.inj (hitem.symm.trans hitem')
    exact hchosen

/-- The APN that is dialled serves its type unless the preferred APN, if in the table, does not. -/
theorem dialled_serves_iff (h : HandsOver env s t r) :
    s.Serves env t r ↔
      ∀ preferred, s.preferredApn env = some preferred → s.Serves env t preferred := by
  have hchosen := h.chosen
  unfold Chosen at hchosen
  cases hpreferred : s.preferredApn env with
  | none =>
    rw [hpreferred] at hchosen
    exact iff_of_true hchosen fun _ h => nomatch h
  | some preferred =>
    rw [hpreferred] at hchosen
    obtain rfl : r = preferred := hchosen
    constructor
    · intro hserves p hp
      obtain rfl := Option.some.inj hp
      exact hserves
    · exact fun hall => hall r rfl

/-! A table with one APN for data and one for MMS, the first of which is the preferred one -/

def preferredEnv : Env :=
  { serviceEnv with
    currentApnId := 1
    apnReloads := [{
      items := some [{ attr := { profileId := 1, apn := "cmnet" }, apnTypes := ["default"] },
        { attr := { profileId := 2, apn := "cmwap" }, apnTypes := ["mms"] }]
      count := 2 }] }

/-- The table is loaded and a network is requested. -/
def preferredLabels (capability : NetCap) : List Label :=
  [.postHandler (.sim .recordsLoaded 0), .dispatchHandler preferredEnv,
    .call preferredEnv (.requestNet true [capability] (.other 0)), .dispatchHandler preferredEnv]

theorem dialled_serves_preferred : ∃ s, system.run (preferredLabels .internet) start = some s ∧
    HandsOver preferredEnv s .default_ 0 ∧ s.Serves preferredEnv .default_ 0 := by
  obtain ⟨s, hrun, -, hp⟩ := exists_run (preferredLabels .internet)
    (p := fun s => s.connectLog = [] ∧
      (s.attemptEstablishDataConnection preferredEnv .default_).connectLog.length = 1 ∧
      ((s.attemptEstablishDataConnection preferredEnv .default_).holder .default_).apnItem =
        some 0 ∧ s.preferredApn preferredEnv = some 0 ∧
      0 ∈ s.matchedApns preferredEnv .default_ ∧ (s.apnItem 0).badApn = false) (by decide +kernel)
  obtain ⟨hlog, hlength, hitem, hpreferred, hserves⟩ := of_decide_eq_true hp
  obtain ⟨record, hrecord⟩ := List.length_eq_one_iff.mp hlength
  have h : HandsOver preferredEnv s .default_ 0 := ⟨⟨record, by rw [hlog, hrecord]⟩, hitem⟩
  refine ⟨s, hrun, h, (dialled_serves_iff h).mpr fun preferred hp => ?_⟩
  obtain rfl := Option.some.inj (hpreferred.symm.trans hp)
  exact hserves

/-- MMS is dialled with the APN for data, although there is one for MMS. -/
theorem preferred_apn_dialled : ∃ s s', system.run (preferredLabels .mms) start = some s ∧
    s.queue.ready.head? = some (.establishDataConnection ApnType.mms.id (some (.other 0))) ∧
    system.step (.dispatchHandler preferredEnv) s = some s' ∧ s'.crash = none ∧
    (s'.holder .mms).apnState = .connecting ∧ (s'.holder .mms).apnItem = some 0 ∧
      s.matchedApns preferredEnv .mms = [1] := by
  obtain ⟨s, hrun, -, hp⟩ := exists_run (preferredLabels .mms)
    (p := fun s => s.queue.ready.head? =
        some (.establishDataConnection ApnType.mms.id (some (.other 0))) ∧
      s.matchedApns preferredEnv .mms = [1] ∧
      (system.step (.dispatchHandler preferredEnv) s).any fun s' => s'.crash = none ∧
        (s'.holder .mms).apnState = .connecting ∧ (s'.holder .mms).apnItem = some 0)
    (by decide +kernel)
  obtain ⟨hhead, hmatched, hstep⟩ := of_decide_eq_true hp
  obtain ⟨s', hstep, hs'⟩ := (Option.any_eq_true _ _).mp hstep
  obtain ⟨hcrash, hstate, hitem⟩ := of_decide_eq_true hs'
  exact ⟨s, s', hrun, hhead, hstep, hcrash, hstate, hitem, hmatched⟩

end Slot
end CellularData
