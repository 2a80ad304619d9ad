import CellularData.Apn.Loading
import CellularData.Lib.TransitionSystem

/-! The APN for the initial attach, chosen from what the loads of the APN table have left. -/
namespace CellularData
open Lib

namespace ApnTable

/-- The loop of `GetRilAttachApn`. -/
def attachLoop : List ApnItem → Option ApnItem → Option ApnItem
  | [], attachApn => attachApn
  | apnItem :: rest, attachApn =>
    if apnItem.canDealWithType .ia then some apnItem
    else if attachApn = none ∧ apnItem.canDealWithType .default_ then
      attachLoop rest (some apnItem)
    else attachLoop rest attachApn

def getRilAttachApn (t : ApnTable) : Option ApnItem :=
  match t.allApnItem with
  | [] => none
  | first :: rest =>
    if t.preferId ≠ -1 then some first
    else
      match attachLoop (first :: rest) none with
      | some apnItem => some apnItem
      | none => some first

/-- The loads of the table, one after the other, each from its own contents of the database. -/
def loads : TransitionSystem ApnTable ReloadEnv where
  init t := t = {}
  step env t := some (t.createAllApnItemByDatabase env).table

def preferredItem (t : ApnTable) : Option ApnItem :=
  t.allApnItem.find? fun item => item.attr.profileId = t.preferId

/-- The first item for the initial attach, else for data, else the first one. -/
def itemByType (t : ApnTable) : Option ApnItem :=
  ((t.allApnItem.find? fun item => item.canDealWithType .ia).or
    (t.allApnItem.find? fun item => item.canDealWithType .default_)).or t.allApnItem.head?

/-- The preferred item where the list has one, else the one chosen by type, and none only for the
empty list. -/
def AttachesPreferred (t : ApnTable) : Prop :=
  t.getRilAttachApn = t.preferredItem.or t.itemByType ∧
    (t.getRilAttachApn = none ↔ t.allApnItem = [])

/-- The item would be chosen by type where it is the first one. -/
def FirstByType (t : ApnTable) (first : ApnItem) : Prop :=
  first.canDealWithType .ia = true ∨
    (∀ item ∈ t.allApnItem, item.canDealWithType .ia = false) ∧
      (first.canDealWithType .default_ = true ∨
        ∀ item ∈ t.allApnItem, item.canDealWithType .default_ = false)

/-- With a preferred id the first item bears it, or no item does and the first one is chosen by type;
without one no item bears the id that stands for none, unless it is chosen by type anyway. -/
def PreferenceKept (t : ApnTable) : Prop :=
  if t.preferId = -1 then t.preferredItem = none ∨ t.preferredItem = t.itemByType
  else
    ∀ first, t.allApnItem.head? = some first → first.attr.profileId = t.preferId ∨
      t.preferredItem = none ∧ t.FirstByType first

variable {t : ApnTable} {env : ReloadEnv}

theorem attachLoop_eq (items : List ApnItem) (attachApn : Option ApnItem) :
    attachLoop items attachApn = (items.find? fun item => item.canDealWithType .ia).or
      (attachApn.or (items.find? fun item => item.canDealWithType .default_)) := by
  induction items generalizing attachApn with
  | nil => simp [attachLoop]
  | cons item items ih =>
    simp only [attachLoop, List.find?_cons]
    cases item.canDealWithType .ia with
    | true => rfl
    | false =>
      cases attachApn with
      | some apnItem => exact ih _
      | none =>
        cases item.canDealWithType .default_ with
        | true => exact ih _
        | false => exact ih _

/-- Without a preferred id the choice is made by type. -/
theorem getRilAttachApn_of_unset (h : t.preferId = -1) : t.getRilAttachApn = t.itemByType := by
  obtain ⟨items, preferId⟩ := t
  obtain rfl : preferId = -1 := h
  cases items with
  | nil => rfl
  | cons first rest =>
    simp only [getRilAttachApn, itemByType, attachLoop_eq, Option.none_or, List.head?_cons,
      ne_eq, not_true_eq_false, if_false]
    cases (List.find? (fun item => item.canDealWithType .ia) (first :: rest)).or
      (List.find? (fun item => item.canDealWithType .default_) (first :: rest)) <;> rfl

theorem getRilAttachApn_of_set (h : t.preferId ≠ -1) :
    t.getRilAttachApn = t.allApnItem.head? := by
  obtain ⟨items, preferId⟩ := t
  cases items with
  | nil => rfl
  | cons first rest => exact if_pos h

theorem itemByType_eq_none : t.itemByType = none ↔ t.allApnItem = [] := by
  simp only [itemByType, Option.or_eq_none_iff, List.head?_eq_none_iff]
  constructor
  · exact fun h => h.2
  · intro h
    simp [h]

theorem getRilAttachApn_eq_none : t.getRilAttachApn = none ↔ t.allApnItem = [] := by
  by_cases h : t.preferId = -1
  · rw [getRilAttachApn_of_unset h, itemByType_eq_none]
  · rw [getRilAttachApn_of_set h, List.head?_eq_none_iff]

/-- A search with an alternative gives the first item. -/
theorem find?_or_eq_head {first : ApnItem} {rest : List ApnItem} {p : ApnItem → Bool}
    {other : Option ApnItem} : ((first :: rest).find? p).or other = some first ↔
      p first = true ∨ (∀ item ∈ first :: rest, p item = false) ∧ other = some first := by
  cases hfind : (first :: rest).find? p with
  | some item =>
    have hitem := List.find?_some hfind
    have hsome : ¬ ∀ item ∈ first :: rest, p item = false := by
      intro hnone
      rw [hnone item (List.mem_of_find?_eq_some hfind)] at hitem
      cases hitem
    rw [Option.some_or, Option.some.injEq, or_iff_left fun h => hsome h.1]
    constructor
    · rintro rfl
      exact hitem
    · intro hfirst
      rw [List.find?_cons_of_pos hfirst] at hfind
      exact (Option.some.inj hfind).symm
  | none =>
    have hnone : ∀ item ∈ first :: rest, p item = false := by
      intro item hitem
      exact Bool.not_eq_true _ ▸ List.find?_eq_none.mp hfind item hitem
    rw [Option.none_or, hnone first List.mem_cons_self]
    exact ⟨fun h => .inr ⟨hnone, h⟩, fun h => (h.resolve_left Bool.false_ne_true).2⟩

theorem itemByType_eq_head {first : ApnItem} {rest : List ApnItem}
    (h : t.allApnItem = first :: rest) : t.itemByType = some first ↔ t.FirstByType first := by
  unfold itemByType FirstByType
  rw [h, List.head?_cons, Option.or_assoc, find?_or_eq_head, find?_or_eq_head]
  simp only [and_true]

/-- The attach APN is the preferred one, or the one chosen by type, exactly where the preference that
the table keeps fits its list. -/
theorem attachesPreferred_iff (t : ApnTable) : AttachesPreferred t ↔ PreferenceKept t := by
  unfold AttachesPreferred PreferenceKept
  rw [and_iff_left getRilAttachApn_eq_none]
  split_ifs with hunset
  · rw [getRilAttachApn_of_unset hunset]
    cases t.preferredItem with
    | none => simp
    | some item => simp [eq_comm]
  · rw [getRilAttachApn_of_set hunset]
    cases hitems : t.allApnItem with
    | nil =>
      have hpreferred : t.preferredItem = none := by
        unfold preferredItem
        rw [hitems]
        rfl
      rw [hpreferred, itemByType_eq_none.mpr hitems]
      simp
    | cons first rest =>
      have hpreferred : t.preferredItem = none ↔
          ∀ item ∈ first :: rest, decide (item.attr.profileId = t.preferId) = false := by
        unfold preferredItem
        rw [hitems, List.find?_eq_none]
        simp only [Bool.not_eq_true]
      have hchosen : t.preferredItem.or t.itemByType = some first ↔
          first.attr.profileId = t.preferId ∨ t.preferredItem = none ∧ t.FirstByType first := by
        rw [hpreferred, ← itemByType_eq_head hitems, ← decide_eq_true_eq (p := first.attr.profileId = _),
          ← find?_or_eq_head (p := fun item => item.attr.profileId = t.preferId)]
        unfold preferredItem
        rw [hitems]
      rw [List.head?_cons, eq_comm, hchosen]
      constructor
      · intro h first' heq
        obtain rfl := Option.some.inj heq
        exact h
      · exact fun h => h first rfl

theorem preferredFirst_first {preferId : Int} {items : List ApnItem} {first : ApnItem}
    (hfirst : (preferredFirst preferId items).head? = some first)
    (hpreferred : (preferredFirst preferId items).find?
      (fun item => item.attr.profileId = preferId) ≠ none) : first.attr.profileId = preferId := by
  unfold preferredFirst at hfirst hpreferred
  cases hfind : items.find? fun item => item.attr.profileId = preferId with
  | none =>
    rw [hfind] at hpreferred
    exact absurd hfind hpreferred
  | some item =>
    rw [hfind] at hfirst
    obtain rfl := Option.some.inj hfirst
    simpa using List.find?_some hfind

/-! What the loads keep -/

/-- Where a profile is preferred, the list is empty or starts with its item. -/
def StartsWith (preferId : Int) (items : List ApnItem) : Prop :=
  preferId ≠ -1 → ∀ first, items.head? = some first → first.attr.profileId = preferId

/-- No item bears the id that stands for none, and the preferred item is the first one. -/
structure Kept (t : ApnTable) : Prop where
  named : ∀ item ∈ t.allApnItem, item.attr.profileId ≠ -1
  first : StartsWith t.preferId t.allApnItem

/-- The profiles have ids of their own, and the item of the preferred one is made: it is one of them, and
what it can be merged with fits. Where none is preferred, the merge prefers none, or one that fits. -/
structure Preferable (preferId : Int) (ps : List PdpProfile) : Prop where
  distinct : (ps.map PdpProfile.profileId).Nodup
  named : ∀ p ∈ ps, p.profileId ≠ -1
  unset : preferId = -1 → TracedProfile.FallIntoFamilies ps ∨
    PdpProfile.DefaultsFirst ps ∧ ∀ p ∈ ps, TracedProfile.Fit (PdpProfile.network ps p)
  preferred : preferId ≠ -1 → ∃ p ∈ ps, p.profileId = preferId ∧
    (PdpProfile.DefaultsFirst ps ∧ TracedProfile.Fit (PdpProfile.network ps p) ∨
      ∃ family, PdpProfile.grouping.Families ps family ∧
        ∀ i, PdpProfile.grouping.isHead ps family i = true →
          p ∈ PdpProfile.grouping.members ps family i ps.length →
            TracedProfile.Fit (PdpProfile.grouping.members ps family i ps.length))

/-- The load finds the preferred profile among those that it makes the list from, or makes no list and
finds one that starts with it. -/
def KeepsPreference (env : ReloadEnv) (t : ApnTable) : Prop :=
  env.numeric = "" ∨
    match preferredProfile env with
    | none => True
    | some preferId =>
      if !env.reloadHelper then StartsWith preferId t.allApnItem
      else
        (env.mvnoProfiles = none → NoAnswer env → StartsWith preferId t.allApnItem) ∧
        (∀ ps, env.mvnoProfiles = some ps → ps ≠ [] → Preferable preferId ps) ∧
        ((∀ ps, env.mvnoProfiles = some ps → ¬ MakesItem ps) →
          ∀ rows, env.queryApns env.mcc env.mnc = .rows rows →
            ReloadEnv.readApnResult rows ≠ [] → Preferable preferId (ReloadEnv.readApnResult rows))

theorem Kept.preferenceKept (hk : Kept t) : PreferenceKept t := by
  unfold PreferenceKept
  split_ifs with hunset
  · left
    unfold preferredItem
    rw [List.find?_eq_none]
    intro item hitem
    rw [hunset, decide_eq_true_eq]
    exact hk.named item hitem
  · exact fun first hfirst => .inl (hk.first hunset first hfirst)

open TracedProfile in
/-- The merge prefers none, where none is preferred, or a result that fits. -/
theorem Preferable.exists_fit {preferId : Int} {ps : List PdpProfile} (h : Preferable preferId ps) :
    preferId = -1 ∧ (results preferId ps).2 = -1 ∨ ∃ x ∈ (results preferId ps).1,
      x.profile.profileId = (results preferId ps).2 ∧ Fit x.absorbed := by
  by_cases hunset : preferId = -1
  · subst hunset
    rcases h.unset rfl with hfamilies | ⟨horder, hfit⟩
    · left
      have hkept := (preferenceKept_iff_marksRespected (-1) h.distinct h.named).mpr
        (.inr ((marksRespected_iff_families (-1) ps).mpr hfamilies))
      have hid := hkept.2 h.named
      rw [results_eq] at hid
      exact ⟨rfl, hid⟩
    · rcases results_namesLive h.distinct h.named with hnone | ⟨x, hx, hid⟩
      · exact .inl ⟨rfl, hnone⟩
      · have hsound := ((results_sound h.distinct h.named (-1)).1 x hx).1
        obtain ⟨n, hn⟩ := List.exists_mem_of_ne_nil x.absorbed hsound.nonempty
        obtain ⟨taken, hsub, hperm⟩ := results_within_network (-1) horder hx hn
        exact .inr ⟨x, hx, hid, ((hfit n (hsound.inputs n hn)).mono hsub).perm hperm.symm⟩
  · right
    obtain ⟨p, hp, hid, hfit⟩ := h.preferred hunset
    obtain ⟨x, hx, hnamed, habsorbed⟩ := preferred_absorbed h.distinct h.named hp hid
    refine ⟨x, hx, hnamed, ?_⟩
    rcases hfit with ⟨horder, hfit⟩ | ⟨family, hf, hfit⟩
    · obtain ⟨taken, hsub, hperm⟩ := results_within_network preferId horder hx habsorbed
      exact (hfit.mono hsub).perm hperm.symm
    · have hall := Merging.forall_mem_iff_of_forall₂ (results_madeOf preferId hf)
        (P := fun i => p ∈ PdpProfile.grouping.members ps family i ps.length →
          Fit (PdpProfile.grouping.members ps family i ps.length))
        (Q := fun x => p ∈ x.absorbed → Fit x.absorbed)
        fun i x hx => ⟨fun h hp => (h (hx.2.mem_iff.mp hp)).perm hx.2.symm,
          fun h hp => (h (hx.2.mem_iff.mpr hp)).perm hx.2⟩
      exact hall.mp (fun i hi => hfit i (Grouping.mem_heads.mp hi)) x hx habsorbed

theorem makeSpecificApnItem_results (t : ApnTable) (ps : List PdpProfile) :
    (t.makeSpecificApnItem ps).1 =
      { allApnItem := preferredFirst (TracedProfile.results t.preferId ps).2
          (itemsOf (TracedProfile.results t.preferId ps).2
            ((TracedProfile.results t.preferId ps).1.map TracedProfile.profile))
        preferId := (TracedProfile.results t.preferId ps).2 } := by
  unfold makeSpecificApnItem
  rw [TracedProfile.results_eq]

theorem makeSpecificApnItem_named {ps : List PdpProfile}
    (hdistinct : (ps.map PdpProfile.profileId).Nodup) (hnone : ∀ p ∈ ps, p.profileId ≠ -1) :
    ∀ item ∈ (t.makeSpecificApnItem ps).1.allApnItem, item.attr.profileId ≠ -1 := by
  intro item hitem
  rw [makeSpecificApnItem_results] at hitem
  have hmade := (preferredFirst_perm _ _).mem_iff.mp hitem
  obtain ⟨p, hp, hmakes⟩ := mem_itemsOf.mp hmade
  obtain ⟨x, hx, rfl⟩ := List.mem_map.mp hp
  rw [(PdpProfile.of_makeApn hmakes).2, PdpProfile.withDefaultType_profileId]
  exact ((TracedProfile.results_sound hdistinct hnone t.preferId).1 x hx).2

/-- A load that makes the list puts the preferred item first. -/
theorem Preferable.made {ps : List PdpProfile} (h : Preferable t.preferId ps) :
    Kept (t.makeSpecificApnItem ps).1 ∧
      ((t.makeSpecificApnItem ps).2 = 0 → t.preferId = -1 ∧
        (t.makeSpecificApnItem ps).1 = { allApnItem := [], preferId := -1 }) := by
  have hcount := makeSpecificApnItem_count (t := t) ps
  have hnamed := makeSpecificApnItem_named (t := t) h.distinct h.named
  rw [hcount]
  rcases h.exists_fit with ⟨hunset, hnone⟩ | ⟨x, hx, hid, hfit⟩
  · refine ⟨⟨hnamed, fun hset => absurd ?_ hset⟩, fun hempty => ⟨hunset, ?_⟩⟩
    · rw [makeSpecificApnItem_results]
      exact hnone
    · rw [List.length_eq_zero_iff] at hempty
      rw [makeSpecificApnItem_results] at hempty ⊢
      rw [ApnTable.mk.injEq]
      exact ⟨hempty, hnone⟩
  · obtain ⟨item, hitem, hname⟩ := exists_item_of_fit hx hfit (TracedProfile.results t.preferId ps).2
    rw [← (preferredFirst_perm (TracedProfile.results t.preferId ps).2 _).mem_iff] at hitem
    constructor
    · refine ⟨hnamed, fun _ first hfirst => ?_⟩
      rw [makeSpecificApnItem_results] at hfirst ⊢
      apply preferredFirst_first hfirst
      rw [ne_eq, List.find?_eq_none]
      intro hno
      exact hno item hitem (decide_eq_true (hname.trans hid))
    · intro hempty
      rw [makeSpecificApnItem_results, List.length_eq_zero_iff] at hempty
      dsimp only at hempty
      rw [hempty] at hitem
      exact absurd hitem List.not_mem_nil

theorem Kept.empty (preferId : Int) : Kept { allApnItem := [], preferId } where
  named _ hitem := absurd hitem List.not_mem_nil
  first _ first hfirst := absurd hfirst.symm (Option.some_ne_none first)

theorem Kept.withPreferId (hk : Kept t) {preferId : Int} (h : StartsWith preferId t.allApnItem) :
    Kept { t with preferId } :=
  ⟨hk.named, h⟩

/-- The query of all APNs, from the table that the MVNO profiles leave. -/
theorem queryApns_kept (t' : ApnTable) (hno : NoAnswer env → Kept t')
    (hrows : ∀ rows, env.queryApns env.mcc env.mnc = .rows rows →
      ReloadEnv.readApnResult rows ≠ [] → Preferable t'.preferId (ReloadEnv.readApnResult rows))
    (h : (t.createAllApnItemByDatabase env) =
      match env.queryApns env.mcc env.mnc with
      | .noHelper => { table := t', errMsg := "dataShareHelper is null" }
      | .error => { table := t', errMsg := "query apns error" }
      | .rows rows =>
        let ps := ReloadEnv.readApnResult rows
        let (table, count) := t'.makeSpecificApnItem ps
        { table, count, errMsg := if ps = [] then "read apn result empty" else "" }) :
    Kept (t.createAllApnItemByDatabase env).table := by
  rw [h]
  cases hquery : env.queryApns env.mcc env.mnc with
  | noHelper => exact hno (.inl hquery)
  | error => exact hno (.inr hquery)
  | rows rows =>
    show Kept (t'.makeSpecificApnItem (ReloadEnv.readApnResult rows)).1
    by_cases hempty : ReloadEnv.readApnResult rows = []
    · rw [hempty, makeSpecificApnItem_nil]
      exact .empty t'.preferId
    · exact (hrows rows hquery hempty).made.1

theorem load_kept (hk : Kept t) (h : KeepsPreference env t) :
    Kept (t.createAllApnItemByDatabase env).table := by
  unfold KeepsPreference at h
  by_cases hnumeric : env.numeric = ""
  · have hcreate : t.createAllApnItemByDatabase env = { table := t, errMsg := "numeric is empty" } :=
      if_pos hnumeric
    rwa [hcreate]
  replace h := h.resolve_left hnumeric
  have hcreate : t.createAllApnItemByDatabase env = _ := if_neg hnumeric
  cases hpreferred : preferredProfile env with
  | none =>
    obtain ⟨errMsg, hmsg, hget⟩ := getPreferId_none (t := { t with preferId := -1 }) hpreferred
    rw [hget] at hcreate
    rw [hcreate]
    exact hk.withPreferId fun hset => absurd rfl hset
  | some preferId =>
    rw [hpreferred] at h
    rw [getPreferId_some hpreferred] at hcreate
    dsimp only at hcreate h
    by_cases hhelper : (!env.reloadHelper) = true
    · rw [if_pos hhelper] at hcreate h
      rw [hcreate]
      exact hk.withPreferId h
    rw [if_neg hhelper] at hcreate h
    obtain ⟨hstays, hmvno, hrows⟩ := h
    cases hps : env.mvnoProfiles with
    | none =>
      have hmade : ({ t with preferId } : ApnTable).createMvnoApnItems env =
          ({ t with preferId }, 0) := by
        rw [createMvnoApnItems, hps]
      rw [hmade] at hcreate
      apply queryApns_kept { t with preferId } _ _ (hcreate.trans (if_neg (Nat.lt_irrefl 0)))
      · exact fun hno => hk.withPreferId (hstays hps hno)
      · exact hrows fun ps h => absurd (h.symm.trans hps) (Option.some_ne_none ps)
    | some ps =>
      have hmade : ({ t with preferId } : ApnTable).createMvnoApnItems env =
          ({ t with preferId } : ApnTable).makeSpecificApnItem ps := by
        rw [createMvnoApnItems, hps]
      rw [hmade] at hcreate
      by_cases hcount : 0 < (({ t with preferId } : ApnTable).makeSpecificApnItem ps).2
      · rw [hcreate.trans (if_pos hcount)]
        have hne : ps ≠ [] := by
          rintro rfl
          exact absurd hcount (Nat.lt_irrefl 0)
        exact (hmvno ps hps hne).made.1
      · -- No MVNO profile makes an item: the list is empty, and the id is what it was.
        have hzero := Nat.eq_zero_of_not_pos hcount
        have hleft : (({ t with preferId } : ApnTable).makeSpecificApnItem ps).1 =
            { allApnItem := [], preferId } := by
          by_cases hne : ps = []
          · rw [hne]
            rfl
          · obtain ⟨hunset, hleft⟩ := (hmvno ps hps hne).made.2 hzero
            dsimp only at hunset
            rw [hleft, hunset]
        have hnone : ¬ MakesItem ps := by
          intro hmakes
          exact hcount (makeSpecificApnItem_pos (hmakes.itemsOf_ne_nil preferId))
        have hcreate' := hcreate.trans (if_neg hcount)
        rw [hleft] at hcreate'
        apply queryApns_kept { allApnItem := [], preferId } _ _ hcreate'
        · exact fun _ => .empty preferId
        · apply hrows
          intro ps' h
          obtain rfl := Option.some.inj (hps.symm.trans h)
          exact hnone

/-- In each run of loads that find the preferred profile the attach APN is the preferred one, or the one
chosen by type where there is none. -/
theorem attaches_preferred (h : loads.ReachableWhen KeepsPreference t) : AttachesPreferred t := by
  have hk : Kept t := by
    induction h with
    | init hs =>
      rw [show _ = ({} : ApnTable) from hs]
      exact .empty (-1)
    | step _ hok hstep ih =>
      obtain rfl := Option.some.inj hstep
      exact load_kept ih hok
  exact (attachesPreferred_iff t).mpr hk.preferenceKept

/-- The database names the second of two profiles. -/
def storedEnv : ReloadEnv where
  queryPreferApn := some [{ profileId := 2 }]
  queryApns _ _ := .rows [{ profileId := 1, apn := "net", apnTypes := "default" },
    { profileId := 2, apn := "attach", apnTypes := "ia" }]

theorem storedEnv_keeps : KeepsPreference storedEnv {} := by
  have hpreferred : preferredProfile storedEnv = some 2 := by decide +kernel
  have hmvno : storedEnv.mvnoProfiles = some [] := by decide +kernel
  unfold KeepsPreference
  rw [hpreferred, hmvno]
  refine .inr ⟨fun hnone => absurd hnone (Option.some_ne_none []), fun ps hps hne => ?_,
    fun _ rows hrows _ => ?_⟩
  · exact absurd (Option.some.inj hps).symm hne
  · obtain rfl := ApnQuery.rows.inj hrows
    refine ⟨by decide +kernel, by decide +kernel, fun hunset => absurd hunset (by decide), fun _ => ?_⟩
    refine ⟨{ profileId := 2, apn := "attach", apnTypes := "ia" }, by decide +kernel, rfl, .inl ?_⟩
    exact ⟨by decide +kernel, by decide +kernel⟩

theorem attaches_preferred_stored :
    AttachesPreferred (({} : ApnTable).createAllApnItemByDatabase storedEnv).table :=
  attaches_preferred (.step (.init rfl) storedEnv_keeps rfl)

/-- The database names a preferred profile that is none of the operator's. -/
def absentEnv : ReloadEnv where
  queryPreferApn := some [{ profileId := 7 }]
  queryApns _ _ := .rows [{ profileId := 1, apn := "net", apnTypes := "default" },
    { profileId := 2, apn := "attach", apnTypes := "ia" }]

/-- The first item is attached, although there is one for the initial attach. -/
theorem absent_preference_attaches_first : ∃ t, loads.Reachable t ∧ t.preferId = 7 ∧
    t.preferredItem = none ∧ t.getRilAttachApn.map (·.attr.profileId) = some 1 ∧
    t.itemByType.map (·.attr.profileId) = some 2 ∧ ¬ AttachesPreferred t := by
  have ht : loads.Reachable (({} : ApnTable).createAllApnItemByDatabase absentEnv).table :=
    TransitionSystem.Reachable.step (.init rfl) (l := absentEnv) rfl
  refine ⟨_, ht, by decide +kernel, by decide +kernel, by decide +kernel, by decide +kernel,
    fun h => ?_⟩
  have hchoice := congrArg (Option.map fun item => item.attr.profileId) h.1
  exact absurd hchoice (by decide +kernel)

end ApnTable

/-- The slot's manager chooses in the same way. -/
theorem Slot.getRilAttachApn_apnTable (s : Slot)
    (hitems : ∀ r ∈ s.apnManager.allApnItem, r < s.apnItems.length) :
    (s.apnManager.getRilAttachApn s.apnItem).map s.apnItem = s.apnTable.getRilAttachApn := by
  have hlist : s.apnTable.allApnItem = s.apnManager.allApnItem.map s.apnItem := by
    unfold apnTable
    rw [← List.filterMap_eq_map]
    apply List.filterMap_congr
    intro r hr
    have hlt := hitems r hr
    simp [apnItem, hlt]
  have hfind : ∀ p : ApnItem → Bool, s.apnTable.allApnItem.find? p =
      (s.apnManager.allApnItem.find? fun r => p (s.apnItem r)).map s.apnItem := by
    intro p
    rw [hlist, List.find?_map]
    rfl
  have hhead : s.apnTable.allApnItem.head? = s.apnManager.allApnItem.head?.map s.apnItem := by
    rw [hlist, List.head?_map]
  unfold ApnManager.getRilAttachApn
  by_cases h : s.apnManager.preferId = invalidProfileId
  · rw [ApnTable.getRilAttachApn_of_unset h, ApnTable.itemByType, hfind, hfind, hhead, if_neg (by
      exact not_not.mpr h), Option.map_or, Option.map_or]
  · rw [ApnTable.getRilAttachApn_of_set h, hhead, if_pos h]

end CellularData
