import CellularData.Apn.Reload
import CellularData.Lib.MergePass
import CellularData.Text.Split

/-! The merging of similar PDP profiles: what each result has absorbed. -/
namespace CellularData
open Lib

namespace PdpProfile

variable {p q : PdpProfile} {preferId : Int}

/-- The loops of `TryMergeSimilarPdpProfile`, with the preferred id as their state. -/
def merging : Merging PdpProfile Int where
  similar := isSimilarPdpProfile
  merge := mergePdpProfile
  isMarked p := p.profileId = -1
  mark p := { p with profileId := -1 }

theorem behind_eq (p : PdpProfile) (preferId : Int) (qs : List PdpProfile) :
    merging.behind p preferId qs = mergeBehind p preferId qs := by
  induction qs generalizing p preferId with
  | nil => rfl
  | cons q qs ih =>
    unfold Merging.behind mergeBehind
    dsimp only [merging] at ih ⊢
    simp only [ih]

theorem outer_eq (fuel : Nat) (preferId : Int) (ps : List PdpProfile) :
    merging.outer fuel preferId ps = mergeFrom fuel preferId ps := by
  induction fuel generalizing preferId ps with
  | zero => rfl
  | succ fuel ih =>
    cases ps with
    | nil => rfl
    | cons p ps =>
      unfold Merging.outer mergeFrom
      simp only [behind_eq, ih]
      simp only [merging, decide_eq_true_eq]

theorem pass_eq (preferId : Int) (ps : List PdpProfile) :
    merging.pass preferId ps = tryMergeSimilarPdpProfile preferId ps :=
  outer_eq _ preferId ps

theorem isSimilarProperty_comm (a b : String) : isSimilarProperty a b = isSimilarProperty b a := by
  unfold isSimilarProperty
  rw [decide_eq_decide.mpr (eq_comm (a := a) (b := b)), Bool.or_right_comm]

theorem isSimilarProtocol_comm (a b : String) : isSimilarProtocol a b = isSimilarProtocol b a := by
  unfold isSimilarProtocol
  have heq : decide (a = b) = decide (b = a) := decide_eq_decide.mpr eq_comm
  rw [heq]
  grind

theorem isSimilarPdpProfile_comm (p q : PdpProfile) :
    isSimilarPdpProfile p q = isSimilarPdpProfile q p := by
  unfold isSimilarPdpProfile
  rw [Bool.and_comm, isSimilarProperty_comm p.proxyIpAddress, isSimilarProtocol_comm p.pdpProtocol,
    isSimilarProtocol_comm p.roamPdpProtocol, isSimilarProperty_comm p.homeUrl,
    isSimilarProperty_comm p.mmsIpAddress, decide_eq_decide.mpr (eq_comm (a := p.apn)),
    decide_eq_decide.mpr (eq_comm (a := p.mvnoType)),
    decide_eq_decide.mpr (eq_comm (a := p.mvnoMatchData))]

/-- The second half of `MergePdpProfile`: `back` is merged into `front`. -/
def joined (front back : PdpProfile) : PdpProfile :=
  { front with
    apnTypes := front.apnTypes ++ "," ++ back.apnTypes
    pdpProtocol := if front.pdpProtocol = "IPV4V6" then front.pdpProtocol else back.pdpProtocol
    roamPdpProtocol :=
      if front.roamPdpProtocol = "IPV4V6" then front.roamPdpProtocol else back.roamPdpProtocol
    homeUrl := if front.homeUrl = "" then back.homeUrl else front.homeUrl
    mmsIpAddress := if front.mmsIpAddress = "" then back.mmsIpAddress else front.mmsIpAddress
    proxyIpAddress :=
      if front.proxyIpAddress = "" then back.proxyIpAddress else front.proxyIpAddress }

theorem mergePdpProfile_of_default (h : containsText q.apnTypes "default" = true) :
    mergePdpProfile p q preferId =
      (joined q p, p, if preferId = p.profileId then q.profileId else preferId) := by
  unfold mergePdpProfile
  rw [if_pos h]
  rfl

theorem mergePdpProfile_of_not_default (h : ¬ containsText q.apnTypes "default" = true) :
    mergePdpProfile p q preferId =
      (joined p q, q, if preferId = q.profileId then p.profileId else preferId) := by
  unfold mergePdpProfile
  rw [if_neg h]
  rfl

theorem not_default_of_similar (h : isSimilarPdpProfile p q = true)
    (hq : containsText q.apnTypes "default" = true) :
    ¬ containsText p.apnTypes "default" = true := by
  intro hp
  unfold isSimilarPdpProfile at h
  rw [hp, hq] at h
  cases h

end PdpProfile

/-! Profiles with what they have absorbed -/

/-- A profile of the vector with the profiles that have been merged into it. -/
structure TracedProfile where
  profile : PdpProfile
  absorbed : List PdpProfile
deriving DecidableEq

namespace TracedProfile

def ofProfile (p : PdpProfile) : TracedProfile := ⟨p, [p]⟩

/-- `MergePdpProfile`; the swap takes along what the profiles have absorbed. -/
def merge (new old : TracedProfile) (preferId : Int) : TracedProfile × TracedProfile × Int :=
  let r := PdpProfile.mergePdpProfile new.profile old.profile preferId
  let (front, back) :=
    if containsText old.profile.apnTypes "default" then (old.absorbed, new.absorbed)
    else (new.absorbed, old.absorbed)
  (⟨r.1, front ++ back⟩, ⟨r.2.1, back⟩, r.2.2)

def merging : Merging TracedProfile Int where
  similar x y := PdpProfile.isSimilarPdpProfile x.profile y.profile
  merge := merge
  isMarked x := x.profile.profileId = -1
  mark x := { x with profile := { x.profile with profileId := -1 } }

/-- The results of the merge, each with the profiles it has absorbed, and the preferred id. -/
def results (preferId : Int) (ps : List PdpProfile) : List TracedProfile × Int :=
  merging.pass preferId (ps.map ofProfile)

theorem maps : merging.Maps profile PdpProfile.merging where
  similar _ _ := rfl
  merge _ _ _ := rfl
  isMarked _ := rfl
  mark _ := rfl

theorem results_eq (preferId : Int) (ps : List PdpProfile) :
    PdpProfile.tryMergeSimilarPdpProfile preferId ps =
      ((results preferId ps).1.map profile, (results preferId ps).2) := by
  have hprofiles : (ps.map ofProfile).map profile = ps := by
    rw [List.map_map]
    exact List.map_id ps
  have hpass := maps.pass preferId (ps.map ofProfile)
  rw [hprofiles, PdpProfile.pass_eq] at hpass
  exact hpass

/-- `back` is merged into `front`. -/
def mergedInto (front back : TracedProfile) : TracedProfile :=
  ⟨PdpProfile.joined front.profile back.profile, front.absorbed ++ back.absorbed⟩

/-- The preferred id follows the profile that is merged away. -/
def preferAfter (front back : TracedProfile) (preferId : Int) : Int :=
  if preferId = back.profile.profileId then front.profile.profileId else preferId

variable {ps : List PdpProfile} {x p q front back : TracedProfile} {xs ys rest : List TracedProfile}
  {preferId : Int}

/-- What holds of a profile of the vector, merged or not. -/
structure Sound (ps : List PdpProfile) (x : TracedProfile) : Prop where
  own : x.profile.profileId ≠ -1 → ∃ p ∈ x.absorbed, p.profileId = x.profile.profileId
  nonempty : x.absorbed ≠ []
  inputs : ∀ p ∈ x.absorbed, p ∈ ps
  lists : ∀ p ∈ x.absorbed, ∀ t ∈ split p.apnTypes ',', t ∈ split x.profile.apnTypes ','
  listed : ∀ t ∈ split x.profile.apnTypes ',', t ≠ "" → ∃ p ∈ x.absorbed, t ∈ split p.apnTypes ','
  marked : x.profile.profileId = -1 → ¬ containsText x.profile.apnTypes "default" = true

/-- The profiles that are not marked as merged. -/
def live (xs : List TracedProfile) : List TracedProfile :=
  xs.filter fun x => x.profile.profileId ≠ -1

structure Consistent (ps : List PdpProfile) (xs : List TracedProfile) : Prop where
  sound : ∀ x ∈ xs, x.Sound ps
  distinct : ((live xs).map fun x => x.profile.profileId).Nodup

theorem live_cons_of_ne (h : x.profile.profileId ≠ -1) : live (x :: xs) = x :: live xs :=
  List.filter_cons_of_pos (decide_eq_true h)

theorem live_cons_of_eq (h : x.profile.profileId = -1) : live (x :: xs) = live xs :=
  List.filter_cons_of_neg (by simp [h])

theorem live_perm (h : xs.Perm ys) : (live xs).Perm (live ys) := h.filter _

theorem Consistent.perm (h : xs.Perm ys) (hc : Consistent ps xs) : Consistent ps ys where
  sound x hx := hc.sound x (h.mem_iff.mpr hx)
  distinct := ((live_perm h).map _).nodup_iff.mp hc.distinct

theorem live_ofProfile (hnone : ∀ p ∈ ps, p.profileId ≠ -1) :
    live (ps.map ofProfile) = ps.map ofProfile := by
  apply List.filter_eq_self.mpr
  intro x hx
  obtain ⟨p, hp, rfl⟩ := List.mem_map.mp hx
  exact decide_eq_true (hnone p hp)

theorem consistent_ofProfile (hdistinct : (ps.map PdpProfile.profileId).Nodup)
    (hnone : ∀ p ∈ ps, p.profileId ≠ -1) : Consistent ps (ps.map ofProfile) where
  sound x hx := by
    obtain ⟨p, hp, rfl⟩ := List.mem_map.mp hx
    constructor
    · exact fun _ => ⟨p, List.mem_singleton.mpr rfl, rfl⟩
    · exact List.cons_ne_nil p []
    · intro p' hp'
      obtain rfl := List.mem_singleton.mp hp'
      exact hp
    · intro p' hp' t ht
      obtain rfl := List.mem_singleton.mp hp'
      exact ht
    · exact fun t ht _ => ⟨p, List.mem_singleton.mpr rfl, ht⟩
    · exact fun hmarked => absurd hmarked (hnone p hp)
  distinct := by
    rw [live_ofProfile hnone, List.map_map]
    exact hdistinct

theorem Sound.mergedInto (hfront : front.Sound ps) (hback : back.Sound ps)
    (hlive : front.profile.profileId ≠ -1) : (mergedInto front back).Sound ps where
  own _ := by
    obtain ⟨p, hp, hid⟩ := hfront.own hlive
    exact ⟨p, List.mem_append_left _ hp, hid⟩
  nonempty := List.append_ne_nil_of_left_ne_nil hfront.nonempty _
  inputs p hp := by
    rcases List.mem_append.mp hp with hp | hp
    · exact hfront.inputs p hp
    · exact hback.inputs p hp
  lists p hp t ht := by
    apply mem_split_join_of
    rcases List.mem_append.mp hp with hp | hp
    · exact .inl (hfront.lists p hp t ht)
    · exact .inr (hback.lists p hp t ht)
  listed t ht hne := by
    rcases of_mem_split_join hne ht with ht | ht
    · obtain ⟨p, hp, hlists⟩ := hfront.listed t ht hne
      exact ⟨p, List.mem_append_left _ hp, hlists⟩
    · obtain ⟨p, hp, hlists⟩ := hback.listed t ht hne
      exact ⟨p, List.mem_append_right _ hp, hlists⟩
  marked hmarked := absurd hmarked hlive

theorem Sound.mark (hback : back.Sound ps)
    (hdefault : ¬ containsText back.profile.apnTypes "default" = true) :
    (merging.mark back).Sound ps where
  own hlive := absurd rfl hlive
  nonempty := hback.nonempty
  inputs := hback.inputs
  lists := hback.lists
  listed := hback.listed
  marked _ := hdefault

theorem live_merged (hlive : front.profile.profileId ≠ -1) :
    live (mergedInto front back :: merging.mark back :: rest) =
      mergedInto front back :: live rest := by
  have hmerged : (mergedInto front back).profile.profileId ≠ -1 := hlive
  rw [live_cons_of_ne hmerged, live_cons_of_eq rfl]

theorem Consistent.merged (hc : Consistent ps (front :: back :: rest))
    (hlive : front.profile.profileId ≠ -1)
    (hdefault : ¬ containsText back.profile.apnTypes "default" = true) :
    Consistent ps (mergedInto front back :: merging.mark back :: rest) where
  sound x hx := by
    have hfront := hc.sound front List.mem_cons_self
    have hback := hc.sound back (List.mem_cons_of_mem _ List.mem_cons_self)
    rcases List.mem_cons.mp hx with rfl | hx
    · exact hfront.mergedInto hback hlive
    · rcases List.mem_cons.mp hx with rfl | hx
      · exact hback.mark hdefault
      · exact hc.sound x (List.mem_cons_of_mem _ (List.mem_cons_of_mem _ hx))
  distinct := by
    have hdistinct := hc.distinct
    rw [live_merged hlive]
    rw [live_cons_of_ne hlive] at hdistinct
    have hsub : (live rest).Sublist (live (back :: rest)) :=
      (List.sublist_cons_self back rest).filter _
    exact hdistinct.sublist ((hsub.map _).cons_cons _)

theorem merge_of_default (h : containsText q.profile.apnTypes "default" = true) :
    merging.merge p q preferId = (mergedInto q p, p, preferAfter q p preferId) := by
  show merge p q preferId = _
  unfold merge
  rw [PdpProfile.mergePdpProfile_of_default h, if_pos h]
  rfl

theorem merge_of_not_default (h : ¬ containsText q.profile.apnTypes "default" = true) :
    merging.merge p q preferId = (mergedInto p q, q, preferAfter p q preferId) := by
  show merge p q preferId = _
  unfold merge
  rw [PdpProfile.mergePdpProfile_of_not_default h, if_neg h]
  rfl

/-- A merge puts one of the two profiles in front; a marked one stays behind. -/
theorem exists_front_back (preferId : Int) (hp : ¬ merging.isMarked p = true)
    (hpq : merging.similar p q = true) (hc : Consistent ps (p :: q :: rest)) : ∃ front back, [p, q].Perm [front, back] ∧
      front.profile.profileId ≠ -1 ∧ ¬ containsText back.profile.apnTypes "default" = true ∧
      (back.profile.profileId = -1 ↔ q.profile.profileId = -1) ∧
      merging.merge p q preferId =
        (mergedInto front back, back, preferAfter front back preferId) := by
  have hlive : p.profile.profileId ≠ -1 := by simpa only [merging, decide_eq_true_eq] using hp
  by_cases hdefault : containsText q.profile.apnTypes "default" = true
  · have hq : q.profile.profileId ≠ -1 := fun hmarked =>
      (hc.sound q (List.mem_cons_of_mem _ List.mem_cons_self)).marked hmarked hdefault
    exact ⟨q, p, .swap q p [], hq, PdpProfile.not_default_of_similar hpq hdefault,
      iff_of_false hlive hq, merge_of_default hdefault⟩
  · exact ⟨p, q, .refl _, hlive, hdefault, Iff.rfl, merge_of_not_default hdefault⟩

/-- A property of the profiles, whatever their order, and of the preferred id. -/
abbrev Property := List TracedProfile → Int → Prop

/-- A merge takes the vector from `I` to `J` where the profile that goes satisfies `ok`. -/
def Leads (ps : List PdpProfile) (ok : TracedProfile → Prop) (I J : Property) : Prop :=
  ∀ {front back rest preferId}, Consistent ps (front :: back :: rest) →
    front.profile.profileId ≠ -1 → ok back → I (front :: back :: rest) preferId →
      J (mergedInto front back :: merging.mark back :: rest) (preferAfter front back preferId)

def Unordered (I : Property) : Prop := ∀ {xs ys preferId}, xs.Perm ys → I xs preferId → I ys preferId

variable {I J : Property} {ok : TracedProfile → Prop}

theorem Leads.merge (hl : Leads ps ok I J) (hperm : Unordered I)
    (hok : ∀ {x y : TracedProfile}, (x.profile.profileId = -1 ↔ y.profile.profileId = -1) →
      ok y → ok x)
    (hp : ¬ merging.isMarked p = true) (hpq : merging.similar p q = true) (hq : ok q)
    (hi : Consistent ps (p :: q :: rest) ∧ I (p :: q :: rest) preferId) :
    ¬ merging.isMarked (merging.merge p q preferId).1 = true ∧
      Consistent ps ((merging.merge p q preferId).1 ::
        merging.mark (merging.merge p q preferId).2.1 :: rest) ∧
      J ((merging.merge p q preferId).1 :: merging.mark (merging.merge p q preferId).2.1 :: rest)
        (merging.merge p q preferId).2.2 := by
  obtain ⟨front, back, hswap, hlive, hdefault, hmarked, heq⟩ :=
    exists_front_back preferId hp hpq hi.1
  have hvector : (p :: q :: rest).Perm (front :: back :: rest) := hswap.append_right rest
  have hc : Consistent ps (front :: back :: rest) := hi.1.perm hvector
  rw [heq]
  have hmerged : (mergedInto front back).profile.profileId ≠ -1 := hlive
  refine ⟨?_, hc.merged hlive hdefault, hl hc hlive (hok hmarked hq) (hperm hvector hi.2)⟩
  simpa only [merging, decide_eq_true_eq] using hmerged

/-- The profiles that a merge takes up are not marked. -/
abbrev Unmarked (q : TracedProfile) : Prop := q.profile.profileId ≠ -1

theorem keptWhere (hperm : Unordered I) (hl : Leads ps Unmarked I I) :
    merging.KeptWhere (fun _ _ q _ => Unmarked q) (fun xs i => Consistent ps xs ∧ I xs i) where
  perm h hi := ⟨hi.1.perm h, hperm h hi.2⟩
  merge hp hpq hq hi := hl.merge hperm (fun hiff => (not_congr hiff).mpr) hp hpq hq hi

theorem kept (hperm : Unordered I) (hl : Leads ps (fun _ => True) I I) :
    merging.Kept fun xs i => Consistent ps xs ∧ I xs i where
  perm h hi := ⟨hi.1.perm h, hperm h hi.2⟩
  merge hp hpq hq hi := hl.merge hperm (fun _ => id) hp hpq hq hi

theorem decides (hI : Unordered I) (hJ : Unordered J) (hkept : Leads ps Unmarked I I)
    (hspoilt : Leads ps (fun _ => True) J J)
    (hmerge : Leads ps (fun q => q.profile.profileId = -1) I J) :
    merging.Decides (fun _ _ q _ => Unmarked q) (fun xs i => Consistent ps xs ∧ I xs i)
      fun xs i => Consistent ps xs ∧ J xs i where
  kept := keptWhere hI hkept
  spoilt := kept hJ hspoilt
  merge hp hpq hq hi := hmerge.merge hI Iff.mpr hp hpq (not_not.mp hq) hi

/-- The property of the results, which are all that is left unmarked. -/
theorem live_results {dropped : List TracedProfile} (hlive : ∀ x ∈ xs, ¬ merging.isMarked x = true)
    (hdropped : ∀ x ∈ dropped, merging.isMarked x = true) : live (xs ++ (dropped ++ [])) = xs := by
  have hxs : live xs = xs := by
    apply List.filter_eq_self.mpr
    intro x hx
    simpa [merging] using hlive x hx
  have hnone : live dropped = [] := by
    apply List.filter_eq_nil_iff.mpr
    intro x hx
    simpa [merging] using hdropped x hx
  rw [List.append_nil]
  unfold live at hxs hnone ⊢
  rw [List.filter_append, hxs, hnone, List.append_nil]

theorem leaves_results {dropped : List TracedProfile} (hi : Consistent ps (xs ++ (dropped ++ [])))
    (hlive : ∀ x ∈ xs, ¬ merging.isMarked x = true)
    (hdropped : ∀ x ∈ dropped, merging.isMarked x = true) :
    (∀ x ∈ xs, x.Sound ps ∧ x.profile.profileId ≠ -1) ∧
      (xs.map fun x => x.profile.profileId).Nodup := by
  constructor
  · intro x hx
    refine ⟨hi.sound x (List.mem_append_left _ hx), ?_⟩
    simpa [merging] using hlive x hx
  · have hdistinct := hi.distinct
    rwa [live_results hlive hdropped] at hdistinct

/-- The results have ids of their own, and each is one of the vector with all it lists. -/
theorem results_sound (hdistinct : (ps.map PdpProfile.profileId).Nodup)
    (hnone : ∀ p ∈ ps, p.profileId ≠ -1) (preferId : Int) :
    (∀ x ∈ (results preferId ps).1, x.Sound ps ∧ x.profile.profileId ≠ -1) ∧
      ((results preferId ps).1.map fun x => x.profile.profileId).Nodup := by
  have hk : merging.Kept fun xs (_ : Int) => Consistent ps xs ∧ True :=
    kept (I := fun _ _ => True) (fun _ _ => trivial) fun _ _ _ _ => trivial
  obtain ⟨hlive, dropped, hdropped, hc, -⟩ :=
    hk.pass (s := preferId) ⟨consistent_ofProfile hdistinct hnone, trivial⟩
  exact leaves_results hc hlive hdropped

/-! Which profiles are absorbed how often -/

/-- All that the unmarked profiles have absorbed. -/
def taken (xs : List TracedProfile) : List PdpProfile := (live xs).flatMap absorbed

theorem taken_perm (h : xs.Perm ys) : (taken xs).Perm (taken ys) :=
  (live_perm h).flatMap_right absorbed

theorem taken_merged_of_ne (hlive : front.profile.profileId ≠ -1)
    (hback : back.profile.profileId ≠ -1) :
    taken (mergedInto front back :: merging.mark back :: rest) = taken (front :: back :: rest) := by
  unfold taken
  rw [live_merged hlive, live_cons_of_ne hlive, live_cons_of_ne hback, List.flatMap_cons,
    List.flatMap_cons, List.flatMap_cons, ← List.append_assoc]
  rfl

theorem taken_merged_of_eq (hlive : front.profile.profileId ≠ -1)
    (hback : back.profile.profileId = -1) :
    (taken (mergedInto front back :: merging.mark back :: rest)).length =
      (taken (front :: back :: rest)).length + back.absorbed.length := by
  unfold taken
  rw [live_merged hlive, live_cons_of_ne hlive, live_cons_of_eq hback, List.flatMap_cons,
    List.flatMap_cons]
  show ((front.absorbed ++ back.absorbed) ++ _).length = _
  simp only [List.length_append]
  omega

/-- The profile has been absorbed. -/
def Takes (k : PdpProfile) : Property := fun xs _ => k ∈ taken xs

theorem takes_leads (ps : List PdpProfile) (k : PdpProfile) :
    Leads ps (fun _ => True) (Takes k) (Takes k) := by
  rintro front back rest i hc hlive - hk
  unfold Takes taken at hk ⊢
  rw [live_merged hlive]
  rw [live_cons_of_ne hlive] at hk
  rw [List.flatMap_cons, List.mem_append] at hk ⊢
  rcases hk with hk | hk
  · exact .inl (List.mem_append_left _ hk)
  · by_cases hback : back.profile.profileId = -1
    · rw [live_cons_of_eq hback] at hk
      exact .inr hk
    · rw [live_cons_of_ne hback, List.flatMap_cons, List.mem_append] at hk
      exact hk.imp (List.mem_append_right _) id

/-- Each profile of the vector is absorbed. -/
theorem exists_absorbed (hdistinct : (ps.map PdpProfile.profileId).Nodup)
    (hnone : ∀ p ∈ ps, p.profileId ≠ -1) (preferId : Int) {p : PdpProfile} (hp : p ∈ ps) :
    ∃ x ∈ (results preferId ps).1, p ∈ x.absorbed := by
  have hperm : Unordered (Takes p) := fun h hk => (taken_perm h).mem_iff.mp hk
  have hstart : Takes p (ps.map ofProfile) preferId := by
    unfold Takes taken
    rw [live_ofProfile hnone, List.mem_flatMap]
    exact ⟨ofProfile p, List.mem_map_of_mem hp, List.mem_singleton.mpr rfl⟩
  obtain ⟨hlive, dropped, hdropped, -, hk⟩ := (kept (I := Takes p) hperm (takes_leads ps p)).pass
    ⟨consistent_ofProfile hdistinct hnone, hstart⟩
  unfold Takes taken at hk
  rw [live_results hlive hdropped] at hk
  exact List.mem_flatMap.mp hk

/-- No merge takes up a profile that is marked as merged already. -/
def MarksRespected (preferId : Int) (ps : List PdpProfile) : Prop :=
  PdpProfile.merging.AtMerges (fun _ _ q _ => q.profileId ≠ -1) preferId ps

instance (preferId : Int) (ps : List PdpProfile) : Decidable (MarksRespected preferId ps) :=
  Merging.AtMerges.decidable _ _ _ _

theorem marksRespected_iff (preferId : Int) (ps : List PdpProfile) :
    MarksRespected preferId ps ↔
      merging.AtMerges (fun _ _ q _ => Unmarked q) preferId (ps.map ofProfile) := by
  have hprofiles : (ps.map ofProfile).map profile = ps := by
    rw [List.map_map]
    exact List.map_id ps
  have hiff := maps.atMerges (Q := fun _ _ q _ => q.profileId ≠ -1) preferId (ps.map ofProfile)
  rw [hprofiles] at hiff
  exact hiff

theorem taken_decides (ps : List PdpProfile) :
    merging.Decides (fun _ _ q _ => Unmarked q)
      (fun xs (_ : Int) => Consistent ps xs ∧ (taken xs).Perm ps)
      fun xs _ => Consistent ps xs ∧ ps.length < (taken xs).length := by
  apply decides (I := fun xs _ => (taken xs).Perm ps) (J := fun xs _ => ps.length < (taken xs).length)
  · exact fun h hi => (taken_perm h).symm.trans hi
  · exact fun h hj => Nat.lt_of_lt_of_eq hj (taken_perm h).length_eq
  · intro front back rest preferId hc hlive hback hi
    rw [taken_merged_of_ne hlive hback]
    exact hi
  · intro front back rest preferId hc hlive _ hj
    by_cases hback : back.profile.profileId = -1
    · rw [taken_merged_of_eq hlive hback]
      omega
    · rw [taken_merged_of_ne hlive hback]
      exact hj
  · intro front back rest preferId hc hlive hback hi
    have hsound := hc.sound back (List.mem_cons_of_mem _ List.mem_cons_self)
    have hpos : 0 < back.absorbed.length := List.length_pos_iff.mpr hsound.nonempty
    rw [taken_merged_of_eq hlive hback, hi.length_eq]
    omega

/-- The results are named after profiles of the vector, no two after the same; each lists what the
profiles it has absorbed list; and each profile of the vector is absorbed once. -/
structure Partitions (ps : List PdpProfile) (xs : List TracedProfile) : Prop where
  named : ∀ x ∈ xs, x.profile.profileId ≠ -1 ∧ ∃ p ∈ ps, p.profileId = x.profile.profileId
  distinct : (xs.map fun x => x.profile.profileId).Nodup
  lists : ∀ x ∈ xs, ∀ p ∈ x.absorbed, ∀ t ∈ split p.apnTypes ',', t ∈ split x.profile.apnTypes ','
  once : (xs.flatMap absorbed).Perm ps

/-- The merge is a partition exactly where it takes up no profile that is marked already. -/
theorem partitions_iff_marksRespected (preferId : Int) (hdistinct : (ps.map PdpProfile.profileId).Nodup)
    (hnone : ∀ p ∈ ps, p.profileId ≠ -1) :
    (results preferId ps).1.map profile = (PdpProfile.tryMergeSimilarPdpProfile preferId ps).1 ∧
      (Partitions ps (results preferId ps).1 ↔ MarksRespected preferId ps) := by
  constructor
  · rw [results_eq]
  have hstart : Consistent ps (ps.map ofProfile) := consistent_ofProfile hdistinct hnone
  have htaken : taken (ps.map ofProfile) = ps := by
    unfold taken
    rw [live_ofProfile hnone, List.flatMap_map]
    exact List.flatMap_singleton' ps
  rw [marksRespected_iff]
  constructor
  · intro hpartition
    by_contra hq
    obtain ⟨hlive, dropped, hdropped, -, hmore⟩ :=
      (taken_decides ps).pass hq ⟨hstart, .of_eq htaken⟩
    have htotal := hpartition.once.length_eq
    unfold taken at hmore
    rw [live_results hlive hdropped] at hmore
    unfold results at htotal
    omega
  · intro hq
    obtain ⟨hlive, dropped, hdropped, hc, honce⟩ :=
      (taken_decides ps).kept.pass hq ⟨hstart, .of_eq htaken⟩
    obtain ⟨hsound, hdistinct'⟩ := leaves_results hc hlive hdropped
    unfold taken at honce
    rw [live_results hlive hdropped] at honce
    refine ⟨fun x hx => ?_, hdistinct', fun x hx => (hsound x hx).1.lists, honce⟩
    obtain ⟨hx, hid⟩ := hsound x hx
    obtain ⟨p, hp, heq⟩ := hx.own hid
    exact ⟨hid, p, hx.inputs p hp, heq⟩

/-! The preferred profile -/

theorem preferAfter_self : preferAfter front back back.profile.profileId = front.profile.profileId :=
  if_pos rfl

theorem preferAfter_of_ne (h : preferId ≠ back.profile.profileId) :
    preferAfter front back preferId = preferId :=
  if_neg h

/-- An unmarked profile behind another one has another id. -/
theorem id_ne_of_mem (hc : Consistent ps (back :: rest)) (hx : x ∈ live rest) :
    x.profile.profileId ≠ back.profile.profileId := by
  have hlive : x.profile.profileId ≠ -1 := of_decide_eq_true (List.mem_filter.mp hx).2
  by_cases hback : back.profile.profileId = -1
  · rw [hback]
    exact hlive
  · have hdistinct := hc.distinct
    rw [live_cons_of_ne hback, List.map_cons, List.nodup_cons] at hdistinct
    intro heq
    exact hdistinct.1 (List.mem_map.mpr ⟨x, hx, heq⟩)

theorem Consistent.tail (hc : Consistent ps (x :: xs)) : Consistent ps xs where
  sound y hy := hc.sound y (List.mem_cons_of_mem x hy)
  distinct := hc.distinct.sublist (((List.sublist_cons_self x xs).filter _).map _)

/-- The preferred profile has been absorbed by the one that now bears its name. -/
def Bears (k : PdpProfile) : Property :=
  fun xs preferId => ∃ x ∈ live xs, x.profile.profileId = preferId ∧ k ∈ x.absorbed

theorem bears_leads (ps : List PdpProfile) (k : PdpProfile) :
    Leads ps (fun _ => True) (Bears k) (Bears k) := by
  rintro front back rest preferId hc hlive - ⟨x, hx, rfl, hk⟩
  unfold Bears
  rw [live_merged hlive]
  rw [live_cons_of_ne hlive] at hx
  have hmerged : ∀ {i}, i = front.profile.profileId → k ∈ front.absorbed ++ back.absorbed →
      ∃ x ∈ mergedInto front back :: live rest, x.profile.profileId = i ∧ k ∈ x.absorbed := by
    rintro _ rfl hk
    exact ⟨mergedInto front back, List.mem_cons_self, rfl, hk⟩
  by_cases hback : x.profile.profileId = back.profile.profileId
  · apply hmerged
    · rw [hback, preferAfter_self]
    · rcases List.mem_cons.mp hx with rfl | hx
      · exact List.mem_append_left _ hk
      · have hxback : x = back := by
          by_contra hne
          have hrest : x ∈ live rest := by
            have hmem := List.mem_filter.mp hx
            rcases List.mem_cons.mp hmem.1 with heq | hmem'
            · exact absurd heq hne
            · exact List.mem_filter.mpr ⟨hmem', hmem.2⟩
          exact id_ne_of_mem hc.tail hrest hback
        rw [← hxback]
        exact List.mem_append_right _ hk
  · rw [preferAfter_of_ne hback]
    rcases List.mem_cons.mp hx with rfl | hx
    · exact hmerged rfl (List.mem_append_left _ hk)
    · have hmem := List.mem_filter.mp hx
      rcases List.mem_cons.mp hmem.1 with rfl | hmem'
      · exact absurd rfl hback
      · exact ⟨x, List.mem_cons_of_mem _ (List.mem_filter.mpr ⟨hmem', hmem.2⟩), rfl, hk⟩

/-- The id stands for none or names an unmarked profile. -/
def NamesLive : Property :=
  fun xs preferId => preferId = -1 ∨ ∃ x ∈ live xs, x.profile.profileId = preferId

theorem namesLive_leads (ps : List PdpProfile) : Leads ps (fun _ => True) NamesLive NamesLive := by
  rintro front back rest preferId hc hlive - hnames
  unfold NamesLive
  rw [live_merged hlive]
  by_cases hback : preferId = back.profile.profileId
  · rw [hback, preferAfter_self]
    exact .inr ⟨mergedInto front back, List.mem_cons_self, rfl⟩
  · rw [preferAfter_of_ne hback]
    rcases hnames with hnone | ⟨x, hx, hid⟩
    · exact .inl hnone
    · rw [live_cons_of_ne hlive] at hx
      rcases List.mem_cons.mp hx with rfl | hx
      · exact .inr ⟨mergedInto x back, List.mem_cons_self, hid⟩
      · have hmem := List.mem_filter.mp hx
        rcases List.mem_cons.mp hmem.1 with rfl | hmem'
        · exact absurd hid.symm hback
        · exact .inr ⟨x, List.mem_cons_of_mem _ (List.mem_filter.mpr ⟨hmem', hmem.2⟩), hid⟩

/-- The id names a profile of the vector. -/
def NamesInput (ps : List PdpProfile) : Property := fun _ preferId => ∃ p ∈ ps, p.profileId = preferId

theorem exists_input (hx : x.Sound ps) (hlive : x.profile.profileId ≠ -1) :
    ∃ p ∈ ps, p.profileId = x.profile.profileId := by
  obtain ⟨p, hp, hid⟩ := hx.own hlive
  exact ⟨p, hx.inputs p hp, hid⟩

/-- An id that names nothing is changed by a merge only where it is the mark. -/
theorem unnamed_leads (ps : List PdpProfile) {i : Int} (hi : ∀ p ∈ ps, p.profileId ≠ i)
    (ok : TracedProfile → Prop) (hok : ∀ x, ok x → x.profile.profileId = -1 → i ≠ -1) :
    Leads ps ok (fun _ preferId => preferId = i) fun _ preferId => preferId = i := by
  rintro front back rest _ hc hlive hback rfl
  apply preferAfter_of_ne
  intro heq
  by_cases hmarked : back.profile.profileId = -1
  · exact hok back hback hmarked (heq.trans hmarked)
  · obtain ⟨p, hp, hid⟩ := exists_input
      (hc.sound back (List.mem_cons_of_mem _ List.mem_cons_self)) hmarked
    exact hi p hp (hid.trans heq.symm)

/-- Once the id names a profile it always does. -/
theorem namesInput_leads (ps : List PdpProfile) :
    Leads ps (fun _ => True) (NamesInput ps) (NamesInput ps) := by
  rintro front back rest preferId hc hlive - hnames
  unfold NamesInput preferAfter
  split_ifs
  · exact exists_input (hc.sound front List.mem_cons_self) hlive
  · exact hnames

theorem unnamed_decides (hnone : ∀ p ∈ ps, p.profileId ≠ -1) :
    merging.Decides (fun _ _ q _ => Unmarked q)
      (fun xs preferId => Consistent ps xs ∧ preferId = -1)
      fun xs preferId => Consistent ps xs ∧ NamesInput ps xs preferId := by
  apply decides (I := fun _ preferId => preferId = -1) (J := NamesInput ps)
  · exact fun _ hi => hi
  · exact fun _ hj => hj
  · exact unnamed_leads ps hnone _ fun _ hunmarked hmarked => absurd hmarked hunmarked
  · exact namesInput_leads ps
  · rintro front back rest _ hc hlive hback rfl
    unfold NamesInput
    rw [show preferAfter front back (-1) = front.profile.profileId from if_pos hback.symm]
    exact exists_input (hc.sound front List.mem_cons_self) hlive

/-- An id that names a profile names in the end one that has absorbed it, and an id that names none
is unchanged. -/
def PreferenceKept (preferId : Int) (ps : List PdpProfile) : Prop :=
  (∀ p ∈ ps, p.profileId = preferId → ∃ x ∈ (results preferId ps).1,
    x.profile.profileId = (PdpProfile.tryMergeSimilarPdpProfile preferId ps).2 ∧ p ∈ x.absorbed) ∧
  ((∀ p ∈ ps, p.profileId ≠ preferId) →
    (PdpProfile.tryMergeSimilarPdpProfile preferId ps).2 = preferId)

theorem preferred_absorbed (hdistinct : (ps.map PdpProfile.profileId).Nodup)
    (hnone : ∀ p ∈ ps, p.profileId ≠ -1) {p : PdpProfile} (hp : p ∈ ps)
    (hid : p.profileId = preferId) : ∃ x ∈ (results preferId ps).1,
      x.profile.profileId = (results preferId ps).2 ∧ p ∈ x.absorbed := by
  have hperm : Unordered (Bears p) := by
    rintro xs ys i h ⟨x, hx, hbears⟩
    exact ⟨x, (live_perm h).mem_iff.mp hx, hbears⟩
  have hstart : Bears p (ps.map ofProfile) preferId := by
    refine ⟨ofProfile p, ?_, hid, List.mem_singleton.mpr rfl⟩
    rw [live_ofProfile hnone]
    exact List.mem_map_of_mem hp
  obtain ⟨hlive, dropped, hdropped, -, hbears⟩ :=
    (kept (I := Bears p) hperm (bears_leads ps p)).pass ⟨consistent_ofProfile hdistinct hnone, hstart⟩
  unfold Bears at hbears
  rwa [live_results hlive hdropped] at hbears

/-- Where no profile is preferred, the merge prefers none or one of the results. -/
theorem results_namesLive (hdistinct : (ps.map PdpProfile.profileId).Nodup)
    (hnone : ∀ p ∈ ps, p.profileId ≠ -1) : (results (-1) ps).2 = -1 ∨
      ∃ x ∈ (results (-1) ps).1, x.profile.profileId = (results (-1) ps).2 := by
  have hperm : Unordered NamesLive := by
    intro xs ys i h hnames
    apply hnames.imp_right
    rintro ⟨x, hx, hid⟩
    exact ⟨x, (live_perm h).mem_iff.mp hx, hid⟩
  have hstart : NamesLive (ps.map ofProfile) (-1) := .inl rfl
  obtain ⟨hlive, dropped, hdropped, -, hnames⟩ :=
    (kept (I := NamesLive) hperm (namesLive_leads ps)).pass
      ⟨consistent_ofProfile hdistinct hnone, hstart⟩
  unfold NamesLive at hnames
  rwa [live_results hlive hdropped] at hnames

/-- The preference is lost exactly where there is none and a marked profile is merged again. -/
theorem preferenceKept_iff_marksRespected (preferId : Int)
    (hdistinct : (ps.map PdpProfile.profileId).Nodup) (hnone : ∀ p ∈ ps, p.profileId ≠ -1) :
    PreferenceKept preferId ps ↔ preferId ≠ -1 ∨ MarksRespected preferId ps := by
  have hstart : Consistent ps (ps.map ofProfile) := consistent_ofProfile hdistinct hnone
  unfold PreferenceKept
  rw [results_eq, marksRespected_iff]
  dsimp only
  rw [and_iff_right fun p hp hid => preferred_absorbed hdistinct hnone hp hid]
  by_cases hid : preferId = -1
  · subst hid
    rw [or_iff_right fun hne => hne rfl]
    constructor
    · intro hkept
      by_contra hq
      obtain ⟨-, dropped, -, -, p, hp, hnamed⟩ := (unnamed_decides hnone).pass hq ⟨hstart, rfl⟩
      exact hnone p hp (hnamed.trans (hkept hnone))
    · intro hq _
      obtain ⟨-, dropped, -, -, hkept⟩ := (unnamed_decides hnone).kept.pass hq ⟨hstart, rfl⟩
      exact hkept
  · apply iff_of_true
    · intro hunnamed
      have hk := kept (I := fun _ i => i = preferId) (fun _ hi => hi)
        (unnamed_leads ps hunnamed (fun _ => True) fun _ _ _ => hid)
      obtain ⟨-, dropped, -, -, hkept⟩ := hk.pass ⟨hstart, rfl⟩
      exact hkept
    · exact .inl hid

end TracedProfile
end CellularData
