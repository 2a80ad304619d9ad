import CellularData.Apn.Reload
import CellularData.Slot.Events

/-! What a failed reload of the APN table leaves behind. -/
namespace CellularData
namespace ApnTable

variable {env : ReloadEnv} {t : ApnTable}

theorem preferredFirst_perm (preferId : Int) (items : List ApnItem) :
    (preferredFirst preferId items).Perm items := by
  unfold preferredFirst
  split
  next item hfind =>
    obtain ⟨hp, before, after, hitems, hbefore⟩ := List.find?_eq_some_iff_append.mp hfind
    have herase : items.eraseP (fun item => item.attr.profileId = preferId) = before ++ after := by
      rw [hitems, List.eraseP_append_right _ (fun b hb => by simpa using hbefore b hb)]
      exact congrArg (before ++ ·) (List.eraseP_cons_of_pos hp)
    rw [herase, hitems]
    exact List.perm_middle.symm
  next => exact .refl _

/-- The count is the length of the list that was made. -/
theorem makeSpecificApnItem_count (ps : List PdpProfile) :
    (t.makeSpecificApnItem ps).2 = (t.makeSpecificApnItem ps).1.allApnItem.length :=
  (preferredFirst_perm _ _).length_eq.symm

/-- The list is cleared even when no profile makes an item. -/
theorem makeSpecificApnItem_of_nil {ps : List PdpProfile}
    (h : itemsOf (PdpProfile.tryMergeSimilarPdpProfile t.preferId ps).2
      (PdpProfile.tryMergeSimilarPdpProfile t.preferId ps).1 = []) :
    t.makeSpecificApnItem ps =
      ({ allApnItem := []
         preferId := (PdpProfile.tryMergeSimilarPdpProfile t.preferId ps).2 }, 0) := by
  simp only [makeSpecificApnItem, h]
  rfl

theorem makeSpecificApnItem_pos {ps : List PdpProfile}
    (h : itemsOf (PdpProfile.tryMergeSimilarPdpProfile t.preferId ps).2
      (PdpProfile.tryMergeSimilarPdpProfile t.preferId ps).1 ≠ []) :
    0 < (t.makeSpecificApnItem ps).2 := by
  simp only [makeSpecificApnItem]
  exact List.length_pos_iff.mpr h

theorem makeSpecificApnItem_nil : t.makeSpecificApnItem [] = ({ t with allApnItem := [] }, 0) :=
  rfl

/-- The call fails: it returns no item and a message. -/
def Failed (env : ReloadEnv) (t : ApnTable) : Prop :=
  (t.createAllApnItemByDatabase env).count = 0 ∧ (t.createAllApnItemByDatabase env).errMsg ≠ ""

/-- The preferred profile that the database names, -1 when it names none; `none` when the query
fails. -/
def preferredProfile (env : ReloadEnv) : Option Int :=
  if env.simId ≤ 0 then none
  else if !env.preferHelper then none
  else
    env.queryPreferApn.map fun rows =>
      match ReloadEnv.readApnResult rows with
      | p :: _ => p.profileId
      | [] => -1

/-- The query of all APNs fails. -/
def NoAnswer (env : ReloadEnv) : Prop :=
  env.queryApns env.mcc env.mnc = .noHelper ∨ env.queryApns env.mcc env.mnc = .error

/-- The query of all APNs is answered without a profile to read. -/
def EmptyAnswer (env : ReloadEnv) : Prop :=
  ∃ rows, env.queryApns env.mcc env.mnc = .rows rows ∧ ReloadEnv.readApnResult rows = []

/-- A failure finds in place the id that the reset, the preference and a merge leave, and an empty list
where the list is cleared. -/
def FailureKeeps (env : ReloadEnv) (t : ApnTable) : Prop :=
  env.numeric = "" ∨
    match preferredProfile env with
    | none => t.preferId = -1
    | some preferId =>
      if !env.reloadHelper then t.preferId = preferId
      else
        match env.mvnoProfiles with
        | none =>
          (NoAnswer env → t.preferId = preferId) ∧
            (EmptyAnswer env → t.preferId = preferId ∧ t.allApnItem = [])
        | some ps =>
          let (merged, preferId) := PdpProfile.tryMergeSimilarPdpProfile preferId ps
          itemsOf preferId merged = [] → NoAnswer env ∨ EmptyAnswer env →
            t.preferId = preferId ∧ t.allApnItem = []

theorem getPreferId_none (h : preferredProfile env = none) :
    ∃ errMsg, errMsg ≠ "" ∧ t.getPreferId env = (t, some errMsg) := by
  unfold preferredProfile at h
  unfold getPreferId
  split_ifs at h ⊢
  · exact ⟨_, by decide, rfl⟩
  · exact ⟨_, by decide, rfl⟩
  · rw [Option.map_eq_none_iff.mp h]
    exact ⟨_, by decide, rfl⟩

theorem getPreferId_some {preferId : Int} (h : preferredProfile env = some preferId) :
    ({ t with preferId := -1 } : ApnTable).getPreferId env = ({ t with preferId }, none) := by
  unfold preferredProfile at h
  unfold getPreferId
  split_ifs at h ⊢
  obtain ⟨rows, hrows, hpreferId⟩ := Option.map_eq_some_iff.mp h
  rw [hrows, ← hpreferId]
  dsimp only
  cases ReloadEnv.readApnResult rows <;> rfl

/-- A failed call that wrote `t'`. -/
theorem failed_kept_iff {t' : ApnTable} {errMsg : String} (hmsg : errMsg ≠ "")
    (h : t.createAllApnItemByDatabase env = { table := t', errMsg }) :
    (Failed env t → (t.createAllApnItemByDatabase env).table = t) ↔ t' = t := by
  rw [Failed, h]
  exact ⟨fun hkept => hkept ⟨rfl, hmsg⟩, fun hkept _ => hkept⟩

theorem not_failed {t' : ApnTable} {count : Nat}
    (h : t.createAllApnItemByDatabase env = { table := t', count }) : ¬ Failed env t := by
  rw [Failed, h]
  exact fun hfailed => hfailed.2 rfl

theorem table_eq_iff {items : List ApnItem} {preferId : Int} :
    ({ allApnItem := items, preferId } : ApnTable) = t ↔
      t.preferId = preferId ∧ t.allApnItem = items := by
  constructor
  · rintro rfl
    exact ⟨rfl, rfl⟩
  · rintro ⟨rfl, rfl⟩
    rfl

/-- The query of all APNs, when the MVNO profiles make no item and leave `t'`. -/
theorem queryApns_kept_iff {t' : ApnTable}
    (h : t.createAllApnItemByDatabase env =
      match env.queryApns env.mcc env.mnc with
      | .noHelper => { table := t', errMsg := "dataShareHelper is null" }
      | .error => { table := t', errMsg := "query apns error" }
      | .rows rows =>
        let ps := ReloadEnv.readApnResult rows
        let (table, count) := t'.makeSpecificApnItem ps
        { table, count, errMsg := if ps = [] then "read apn result empty" else "" }) :
    (Failed env t → (t.createAllApnItemByDatabase env).table = t) ↔
      (NoAnswer env → t' = t) ∧ (EmptyAnswer env → { t' with allApnItem := [] } = t) := by
  have hnone : ∀ rows, env.queryApns env.mcc env.mnc = .rows rows → ¬ NoAnswer env := by
    intro rows hrows hno
    rw [NoAnswer, hrows] at hno
    cases hno <;> contradiction
  cases hquery : env.queryApns env.mcc env.mnc with
  | noHelper =>
    rw [hquery] at h
    have hempty : ¬ EmptyAnswer env := fun ⟨rows, hrows, _⟩ => by cases hquery.symm.trans hrows
    rw [failed_kept_iff (by decide) h]
    exact ⟨fun hkept => ⟨fun _ => hkept, fun he => absurd he hempty⟩, fun hc => hc.1 (.inl hquery)⟩
  | error =>
    rw [hquery] at h
    have hempty : ¬ EmptyAnswer env := fun ⟨rows, hrows, _⟩ => by cases hquery.symm.trans hrows
    rw [failed_kept_iff (by decide) h]
    exact ⟨fun hkept => ⟨fun _ => hkept, fun he => absurd he hempty⟩, fun hc => hc.1 (.inr hquery)⟩
  | rows rows =>
    rw [hquery] at h
    dsimp only at h
    by_cases hps : ReloadEnv.readApnResult rows = []
    · rw [if_pos hps, hps, makeSpecificApnItem_nil] at h
      rw [failed_kept_iff (by decide) h]
      exact ⟨fun hkept => ⟨fun hno => absurd hno (hnone rows hquery), fun _ => hkept⟩,
        fun hc => hc.2 ⟨rows, hquery, hps⟩⟩
    · rw [if_neg hps] at h
      have hempty : ¬ EmptyAnswer env := by
        rintro ⟨rows', hrows, hps'⟩
        cases hquery.symm.trans hrows
        exact hps hps'
      exact iff_of_true (fun hfailed => absurd hfailed (not_failed h))
        ⟨fun hno => absurd hno (hnone rows hquery), fun he => absurd he hempty⟩

/-- A failed reload leaves the table alone exactly when the table already held what the reload had
written before it failed. -/
theorem failed_kept_iff_failureKeeps (env : ReloadEnv) (t : ApnTable) :
    (Failed env t → (t.createAllApnItemByDatabase env).table = t) ↔ FailureKeeps env t := by
  unfold FailureKeeps
  by_cases hnumeric : env.numeric = ""
  · have h : t.createAllApnItemByDatabase env = { table := t, errMsg := "numeric is empty" } :=
      if_pos hnumeric
    rw [failed_kept_iff (by decide) h]
    exact iff_of_true rfl (.inl hnumeric)
  rw [or_iff_right hnumeric]
  have hcreate : t.createAllApnItemByDatabase env = _ := if_neg hnumeric
  cases hpreferred : preferredProfile env with
  | none =>
    obtain ⟨errMsg, hmsg, hget⟩ := getPreferId_none (t := { t with preferId := -1 }) hpreferred
    rw [hget] at hcreate
    rw [failed_kept_iff hmsg hcreate, table_eq_iff]
    exact and_iff_left rfl
  | some preferId =>
    rw [getPreferId_some hpreferred] at hcreate
    dsimp only at hcreate ⊢
    by_cases hhelper : (!env.reloadHelper) = true
    · rw [if_pos hhelper] at hcreate ⊢
      rw [failed_kept_iff (by decide) hcreate, table_eq_iff]
      exact and_iff_left rfl
    rw [if_neg hhelper] at hcreate ⊢
    cases hmvno : env.mvnoProfiles with
    | none =>
      have hmade : ({ t with preferId } : ApnTable).createMvnoApnItems env =
          ({ t with preferId }, 0) := by
        rw [createMvnoApnItems, hmvno]
      rw [hmade] at hcreate
      rw [queryApns_kept_iff (hcreate.trans (if_neg (Nat.lt_irrefl 0))), table_eq_iff,
        table_eq_iff, and_iff_left rfl]
    | some ps =>
      have hmade : ({ t with preferId } : ApnTable).createMvnoApnItems env =
          ({ t with preferId } : ApnTable).makeSpecificApnItem ps := by
        rw [createMvnoApnItems, hmvno]
      rw [hmade] at hcreate
      dsimp only
      by_cases hitems : itemsOf (PdpProfile.tryMergeSimilarPdpProfile preferId ps).2
          (PdpProfile.tryMergeSimilarPdpProfile preferId ps).1 = []
      · rw [makeSpecificApnItem_of_nil (t := { t with preferId }) hitems] at hcreate
        rw [queryApns_kept_iff (hcreate.trans (if_neg (Nat.lt_irrefl 0))), table_eq_iff, ← or_imp]
        exact ⟨fun hkept _ => hkept, fun hkept => hkept hitems⟩
      · have hcount : 0 < (({ t with preferId } : ApnTable).makeSpecificApnItem ps).2 :=
          makeSpecificApnItem_pos (t := { t with preferId }) hitems
        have h := hcreate.trans (if_pos hcount)
        exact iff_of_true (fun hfailed => absurd hfailed (not_failed h))
          (fun hnone => absurd hnone hitems)

/-! What a reload has made is not marked as bad -/

theorem makeApn_unmarked {p : PdpProfile} {item : ApnItem} (h : p.makeApn = some item) :
    item.badApn = false := by
  unfold PdpProfile.makeApn at h
  split_ifs at h
  obtain rfl := Option.some.inj h
  rfl

theorem makeSpecificApnItem_unmarked (t : ApnTable) (ps : List PdpProfile) :
    ∀ item ∈ (t.makeSpecificApnItem ps).1.allApnItem, item.badApn = false := by
  intro item hmem
  have hmade := (preferredFirst_perm _ _).mem_iff.mp hmem
  obtain ⟨p, -, hp⟩ := List.mem_filterMap.mp hmade
  exact makeApn_unmarked hp

theorem createMvnoApnItems_unmarked (env : ReloadEnv) (t : ApnTable) :
    (t.createMvnoApnItems env).1.allApnItem = t.allApnItem ∨
      ∀ item ∈ (t.createMvnoApnItems env).1.allApnItem, item.badApn = false := by
  unfold createMvnoApnItems
  cases env.mvnoProfiles with
  | none => exact .inl rfl
  | some ps => exact .inr (makeSpecificApnItem_unmarked t ps)

theorem getPreferId_allApnItem (env : ReloadEnv) (t : ApnTable) :
    (t.getPreferId env).1.allApnItem = t.allApnItem := by
  unfold getPreferId
  split_ifs
  · rfl
  · rfl
  · split
    · rfl
    · split <;> rfl

/-- A reload keeps the list or makes all of it. -/
theorem createAllApnItemByDatabase_unmarked (env : ReloadEnv) (t : ApnTable) :
    (t.createAllApnItemByDatabase env).table.allApnItem = t.allApnItem ∨
      ∀ item ∈ (t.createAllApnItemByDatabase env).table.allApnItem, item.badApn = false := by
  have hprefer := getPreferId_allApnItem env { t with preferId := -1 }
  unfold createAllApnItemByDatabase
  split
  · exact .inl rfl
  generalize ({ t with preferId := -1 } : ApnTable).getPreferId env = c at hprefer ⊢
  obtain ⟨t₁, err⟩ := c
  cases err with
  | some errMsg => exact .inl hprefer
  | none =>
    dsimp only
    split
    · exact .inl hprefer
    have hmvno := createMvnoApnItems_unmarked env t₁
    generalize t₁.createMvnoApnItems env = c at hmvno ⊢
    obtain ⟨t₂, mvnoCount⟩ := c
    rw [hprefer] at hmvno
    dsimp only at hmvno ⊢
    split
    · exact hmvno
    · split
      · exact hmvno
      · exact hmvno
      · exact .inr (makeSpecificApnItem_unmarked t₂ _)

end ApnTable

/-! The slot's reload -/

namespace Slot

/-- The table of the slot's APN manager. -/
def apnTable (s : Slot) : ApnTable where
  allApnItem := s.apnManager.allApnItem.filterMap (s.apnItems[·]?)
  preferId := s.apnManager.preferId

theorem filterMap_range'_getElem? (xs items : List ApnItem) :
    (List.range' xs.length items.length).filterMap ((xs ++ items)[·]?) = items := by
  induction items generalizing xs with
  | nil => rfl
  | cons item items ih =>
    have hhead : (xs ++ item :: items)[xs.length]? = some item := by
      rw [List.getElem?_append_right (Nat.le_refl _), Nat.sub_self, List.getElem?_cons_zero]
    have htail := ih (xs ++ [item])
    rw [List.append_assoc, List.length_append] at htail
    rw [List.length_cons, List.range'_succ, List.filterMap_cons_some hhead]
    exact congrArg (item :: ·) htail

/-- Each reload from the database is one of the reloads that a slot applies. -/
theorem applyApnReload_apnTable (s : Slot) (env : ReloadEnv) :
    ∃ r : ApnReload,
      (s.applyApnReload r).apnTable = (s.apnTable.createAllApnItemByDatabase env).table ∧
        r.count = (s.apnTable.createAllApnItemByDatabase env).count := by
  have hmade := s.apnTable.createAllApnItemByDatabase_unmarked env
  generalize s.apnTable.createAllApnItemByDatabase env = result at hmade ⊢
  obtain ⟨⟨items, preferId⟩, count, errMsg⟩ := result
  rcases hmade with hkept | hunmarked
  · refine ⟨{ preferId, count }, ?_, rfl⟩
    show ({ allApnItem := s.apnTable.allApnItem, preferId } : ApnTable) = _
    rw [← hkept]
  · refine ⟨{ items := some items, preferId, count, unmarked := hunmarked }, ?_, rfl⟩
    show ({ allApnItem := _, preferId } : ApnTable) = _
    rw [ApnTable.mk.injEq]
    exact ⟨filterMap_range'_getElem? s.apnItems items, rfl⟩

end Slot
end CellularData
