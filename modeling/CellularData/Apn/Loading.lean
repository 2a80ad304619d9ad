import Mathlib.Algebra.Order.BigOperators.Group.List
import Mathlib.Algebra.Order.Group.Nat
import Mathlib.Data.List.Nodup
import CellularData.Apn.Networks
import CellularData.Apn.ReloadFailure

/-! Which services the APN table offers after a load, compared with those of the single profiles. -/
namespace CellularData
open Lib

namespace ApnItem

/-- One of the item's types, in lower case, serves the requested one. -/
def matchesType (type t : String) : Bool :=
  let apnType := t.toLower
  type = apnType || (type = "internal_default" && apnType = "default") ||
    (type ≠ "ia" && apnType = "*")

/-- `CanDealWithType` for a type that need not be one of a holder. -/
def canDealWithText (item : ApnItem) (type : String) : Bool := item.apnTypes.any (matchesType type)

theorem canDealWithType_eq (item : ApnItem) (type : ApnType) :
    item.canDealWithType type = item.canDealWithText type.name := by
  have hdefault : decide (type = .internalDefault) = decide (type.name = "internal_default") := by
    cases type <;> decide
  have hia : decide (type ≠ .ia) = decide (type.name ≠ "ia") := by
    cases type <;> decide
  unfold canDealWithType canDealWithText matchesType
  simp only [hdefault, hia]
  rfl

theorem matchesType_empty {type : String} (h : type ≠ "") : matchesType type "" = false := by
  have hlower : "".toLower = "" := by decide +kernel
  unfold matchesType
  simp [hlower, h]

end ApnItem

/-- The types text serves the requested type. -/
def serves (types type : String) : Bool := (split types ',').any (ApnItem.matchesType type)

namespace PdpProfile

/-- The preferred profile without types serves the default type. -/
def withDefaultType (preferId : Int) (p : PdpProfile) : PdpProfile :=
  if p.profileId = preferId ∧ p.apnTypes = "" then { p with apnTypes := "default" } else p

/-- The texts of a profile that go into buffers, apart from its types. -/
def otherTexts (p : PdpProfile) : List String :=
  [p.mcc ++ p.mnc, p.pdpProtocol, p.roamPdpProtocol, p.apn, p.profileName, p.authUser, p.authPwd,
    p.homeUrl, p.proxyIpAddress, p.mmsIpAddress]

variable {p q : PdpProfile} {preferId : Int} {item : ApnItem} {type : String}

theorem makeApn_isSome_iff :
    p.makeApn.isSome = true ↔ fits p.apnTypes = true ∧ p.otherTexts.all fits = true := by
  unfold makeApn
  rw [show [p.apnTypes, p.mcc ++ p.mnc, p.pdpProtocol, p.roamPdpProtocol, p.apn, p.profileName,
    p.authUser, p.authPwd, p.homeUrl, p.proxyIpAddress, p.mmsIpAddress] =
      p.apnTypes :: p.otherTexts from rfl, List.all_cons, ← Bool.and_eq_true]
  split_ifs with h
  · exact iff_of_true rfl h
  · exact iff_of_false Bool.false_ne_true h

theorem of_makeApn (h : p.makeApn = some item) :
    item.apnTypes = split p.apnTypes ',' ∧ item.attr.profileId = p.profileId := by
  unfold makeApn at h
  split_ifs at h
  obtain rfl := Option.some.inj h
  exact ⟨rfl, rfl⟩

/-- The item that the profile makes serves the type. -/
theorem exists_item_iff : (∃ item, p.makeApn = some item ∧ item.canDealWithText type = true) ↔
    p.makeApn.isSome = true ∧ serves p.apnTypes type = true := by
  constructor
  · rintro ⟨item, hitem, hdeals⟩
    unfold ApnItem.canDealWithText at hdeals
    rw [(of_makeApn hitem).1] at hdeals
    exact ⟨Option.isSome_iff_exists.mpr ⟨item, hitem⟩, hdeals⟩
  · rintro ⟨hsome, hserves⟩
    obtain ⟨item, hitem⟩ := Option.isSome_iff_exists.mp hsome
    refine ⟨item, hitem, ?_⟩
    unfold ApnItem.canDealWithText
    rw [(of_makeApn hitem).1]
    exact hserves

@[simp] theorem withDefaultType_profileId : (p.withDefaultType preferId).profileId = p.profileId := by
  unfold withDefaultType
  split_ifs <;> rfl

@[simp] theorem withDefaultType_otherTexts :
    (p.withDefaultType preferId).otherTexts = p.otherTexts := by
  unfold withDefaultType
  split_ifs <;> rfl

theorem fits_withDefaultType : fits (p.withDefaultType preferId).apnTypes = fits p.apnTypes := by
  unfold withDefaultType
  split_ifs with h
  · rw [h.2]
    rfl
  · rfl

theorem withDefaultType_of_ne (h : p.apnTypes ≠ "") : p.withDefaultType preferId = p :=
  if_neg fun hc => h hc.2

theorem fits_ite {c : Prop} [Decidable c] {a b : String} (ha : fits a = true)
    (hb : fits b = true) : fits (if c then a else b) = true := by
  split_ifs
  · exact ha
  · exact hb

theorem otherTexts_joined (hp : p.otherTexts.all fits = true) (hq : q.otherTexts.all fits = true) :
    (joined p q).otherTexts.all fits = true := by
  simp only [otherTexts, List.all_cons, List.all_nil, Bool.and_true, Bool.and_eq_true] at hp hq ⊢
  obtain ⟨hplmn, hpdp, hroam, hapn, hname, huser, hpwd, hurl, hproxy, hmms⟩ := hp
  obtain ⟨-, hpdp', hroam', -, -, -, -, hurl', hproxy', hmms'⟩ := hq
  exact ⟨hplmn, fits_ite hpdp hpdp', fits_ite hroam hroam', hapn, hname, huser, hpwd,
    fits_ite hurl' hurl, fits_ite hproxy' hproxy, fits_ite hmms' hmms⟩

end PdpProfile

namespace TracedProfile

variable {ps : List PdpProfile} {x front back : TracedProfile} {preferId : Int} {type : String}

/-- The types of the profiles, joined by commas, fit into a buffer. -/
def roomFor (qs : List PdpProfile) : Bool :=
  (qs.map fun q => q.apnTypes.utf8ByteSize + 1).sum ≤ 256

theorem roomFor_mono {qs qs' : List PdpProfile} (h : qs.Sublist qs') (hroom : roomFor qs' = true) :
    roomFor qs = true := by
  have hle := List.Sublist.sum_le_sum (h.map fun q => q.apnTypes.utf8ByteSize + 1)
    fun _ _ => Nat.zero_le _
  unfold roomFor at hroom ⊢
  rw [decide_eq_true_eq] at hroom ⊢
  omega

theorem roomFor_perm {qs qs' : List PdpProfile} (h : qs.Perm qs') : roomFor qs = roomFor qs' := by
  unfold roomFor
  rw [(h.map _).sum_nat]

/-- The texts and the length of the types come from what has been absorbed. -/
structure Measured (x : TracedProfile) : Prop where
  texts : (∀ q ∈ x.absorbed, q.otherTexts.all PdpProfile.fits = true) →
    x.profile.otherTexts.all PdpProfile.fits = true
  size : x.profile.apnTypes.utf8ByteSize + 1 =
    (x.absorbed.map fun q => q.apnTypes.utf8ByteSize + 1).sum

theorem Measured.ofProfile (p : PdpProfile) : (ofProfile p).Measured where
  texts h := h p (List.mem_singleton.mpr rfl)
  size := rfl

theorem Measured.mergedInto (hfront : front.Measured) (hback : back.Measured) :
    (mergedInto front back).Measured where
  texts h := PdpProfile.otherTexts_joined
    (hfront.texts fun q hq => h q (List.mem_append_left _ hq))
    (hback.texts fun q hq => h q (List.mem_append_right _ hq))
  size := by
    have hsize : (TracedProfile.mergedInto front back).profile.apnTypes.utf8ByteSize =
        front.profile.apnTypes.utf8ByteSize + 1 + back.profile.apnTypes.utf8ByteSize := by
      show (front.profile.apnTypes ++ "," ++ back.profile.apnTypes).utf8ByteSize = _
      rw [String.utf8ByteSize_append, String.utf8ByteSize_append]
      rfl
    have hsum := hfront.size
    have hsum' := hback.size
    show _ = ((front.absorbed ++ back.absorbed).map _).sum
    rw [List.map_append, List.sum_append, hsize]
    omega

theorem Measured.mark (hx : x.Measured) : (merging.mark x).Measured := ⟨hx.texts, hx.size⟩

theorem measured : merging.KeepsEach Measured where
  merge {p q s} hp hq _ := by
    by_cases hdefault : containsText q.profile.apnTypes "default" = true
    · rw [merge_of_default hdefault]
      exact ⟨hq.mergedInto hp, hp.mark⟩
    · rw [merge_of_not_default hdefault]
      exact ⟨hp.mergedInto hq, hq.mark⟩

theorem results_measured (preferId : Int) (ps : List PdpProfile) :
    ∀ x ∈ (results preferId ps).1, x.Measured := by
  apply measured.pass
  intro x hx
  obtain ⟨p, -, rfl⟩ := List.mem_map.mp hx
  exact .ofProfile p

/-- The types of the profiles fit together, and their other texts alone. -/
structure Fit (qs : List PdpProfile) : Prop where
  room : roomFor qs = true
  texts : ∀ q ∈ qs, q.otherTexts.all PdpProfile.fits = true

theorem Fit.mono {qs qs' : List PdpProfile} (h : qs.Sublist qs') (hfit : Fit qs') : Fit qs :=
  ⟨roomFor_mono h hfit.room, fun q hq => hfit.texts q (h.subset hq)⟩

theorem Fit.perm {qs qs' : List PdpProfile} (h : qs.Perm qs') (hfit : Fit qs) : Fit qs' :=
  ⟨roomFor_perm h ▸ hfit.room, fun q hq => hfit.texts q (h.mem_iff.mpr hq)⟩

instance (qs : List PdpProfile) : Decidable (Fit qs) :=
  decidable_of_iff (roomFor qs = true ∧ ∀ q ∈ qs, q.otherTexts.all PdpProfile.fits = true)
    ⟨fun h => ⟨h.1, h.2⟩, fun h => ⟨h.room, h.texts⟩⟩

/-- The result makes an item exactly when its types fit. -/
theorem Measured.makeApn_isSome_iff (hx : x.Measured)
    (htexts : ∀ q ∈ x.absorbed, q.otherTexts.all PdpProfile.fits = true) (i : Int) :
    (x.profile.withDefaultType i).makeApn.isSome = true ↔ roomFor x.absorbed = true := by
  have hroom : PdpProfile.fits x.profile.apnTypes = roomFor x.absorbed := by
    have hsize := hx.size
    unfold PdpProfile.fits roomFor
    rw [decide_eq_decide]
    omega
  rw [PdpProfile.makeApn_isSome_iff, PdpProfile.fits_withDefaultType,
    PdpProfile.withDefaultType_otherTexts, hroom, and_iff_left (hx.texts htexts)]

/-- What the loading needs to know of a profile, merged or not. -/
structure Loadable (x : TracedProfile) : Prop extends Measured x where
  single : ∀ q, x.absorbed = [q] → x.profile.profileId ≠ -1 → x.profile = q

theorem Loadable.mergedInto (hfront : front.Loadable) (hback : back.Loadable)
    (hf : front.absorbed ≠ []) (hb : back.absorbed ≠ []) : (mergedInto front back).Loadable where
  toMeasured := hfront.toMeasured.mergedInto hback.toMeasured
  single q hq _ := by
    have hlength := congrArg List.length hq
    have hpos := List.length_pos_iff.mpr hf
    have hpos' := List.length_pos_iff.mpr hb
    change (front.absorbed ++ back.absorbed).length = 1 at hlength
    rw [List.length_append] at hlength
    omega

theorem Loadable.mark (hback : back.Loadable) : (merging.mark back).Loadable where
  toMeasured := hback.toMeasured.mark
  single _ _ hlive := absurd rfl hlive

/-- A profile that is merged with another lists something. -/
theorem Loadable.types_ne (hx : x.Loadable) (h : 2 ≤ x.absorbed.length) : x.profile.apnTypes ≠ "" := by
  intro hempty
  have hsize := hx.size
  rw [hempty] at hsize
  match habsorbed : x.absorbed, h with
  | p :: q :: qs, _ =>
    rw [habsorbed, List.map_cons, List.map_cons, List.sum_cons, List.sum_cons] at hsize
    have hzero : "".utf8ByteSize = 0 := rfl
    omega

/-- An unmerged profile is preferred after the merges exactly where it was before. -/
def Untouched (preferId : Int) : Property := fun xs i =>
  (∀ x ∈ xs, x.Loadable) ∧
    ∀ x ∈ live xs, x.absorbed.length = 1 → (i = x.profile.profileId ↔ preferId = x.profile.profileId)

theorem untouched_leads (ps : List PdpProfile) (preferId : Int) :
    Leads ps (fun _ => True) (Untouched preferId) (Untouched preferId) := by
  rintro front back rest i hc hlive - ⟨hloadable, huntouched⟩
  have hfront := hloadable front List.mem_cons_self
  have hback := hloadable back (List.mem_cons_of_mem _ List.mem_cons_self)
  have hf := (hc.sound front List.mem_cons_self).nonempty
  have hb := (hc.sound back (List.mem_cons_of_mem _ List.mem_cons_self)).nonempty
  constructor
  · intro x hx
    rcases List.mem_cons.mp hx with rfl | hx
    · exact hfront.mergedInto hback hf hb
    · rcases List.mem_cons.mp hx with rfl | hx
      · exact hback.mark
      · exact hloadable x (List.mem_cons_of_mem _ (List.mem_cons_of_mem _ hx))
  · intro x hx hsingle
    rw [live_merged hlive] at hx
    rcases List.mem_cons.mp hx with rfl | hx
    · have hpos := List.length_pos_iff.mpr hf
      have hpos' := List.length_pos_iff.mpr hb
      change (front.absorbed ++ back.absorbed).length = 1 at hsingle
      rw [List.length_append] at hsingle
      omega
    · have hmem := List.mem_filter.mp hx
      have hbefore := huntouched x (List.mem_filter.mpr
        ⟨List.mem_cons_of_mem _ (List.mem_cons_of_mem _ hmem.1), hmem.2⟩) hsingle
      have hneback : x.profile.profileId ≠ back.profile.profileId := id_ne_of_mem hc.tail hx
      have hnefront : x.profile.profileId ≠ front.profile.profileId :=
        id_ne_of_mem hc (List.mem_filter.mpr ⟨List.mem_cons_of_mem _ hmem.1, hmem.2⟩)
      rw [← hbefore]
      unfold preferAfter
      split_ifs with heq
      · exact iff_of_false (fun h => hnefront h.symm) fun h => hneback (h.symm.trans heq)
      · exact Iff.rfl

theorem results_loadable (hdistinct : (ps.map PdpProfile.profileId).Nodup)
    (hnone : ∀ p ∈ ps, p.profileId ≠ -1) (preferId : Int) :
    ∀ x ∈ (results preferId ps).1, x.Loadable ∧ (x.absorbed.length = 1 →
      ((results preferId ps).2 = x.profile.profileId ↔ preferId = x.profile.profileId)) := by
  have hperm : Unordered (Untouched preferId) := fun h hu =>
    ⟨fun x hx => hu.1 x (h.mem_iff.mpr hx), fun x hx => hu.2 x ((live_perm h).mem_iff.mpr hx)⟩
  have hstart : Untouched preferId (ps.map ofProfile) preferId := by
    refine ⟨fun x hx => ?_, fun _ _ _ => Iff.rfl⟩
    obtain ⟨p, hp, rfl⟩ := List.mem_map.mp hx
    exact ⟨.ofProfile p, fun q hq _ => (List.cons.inj hq).1⟩
  obtain ⟨hlive, dropped, hdropped, -, huntouched⟩ :=
    (kept (I := Untouched preferId) hperm (untouched_leads ps preferId)).pass
      ⟨consistent_ofProfile hdistinct hnone, hstart⟩
  intro x hx
  refine ⟨huntouched.1 x (List.mem_append_left _ hx), huntouched.2 x ?_⟩
  rw [live_results hlive hdropped]
  exact hx

theorem serves_iff {types : String} : serves types type = true ↔
    ∃ t ∈ split types ',', ApnItem.matchesType type t = true :=
  List.any_eq_true

/-- A merged profile serves what the profiles serve that it has absorbed. -/
theorem Sound.serves_iff (hx : x.Sound ps) (htype : type ≠ "") :
    serves x.profile.apnTypes type = true ↔ ∃ q ∈ x.absorbed, serves q.apnTypes type = true := by
  constructor
  · intro hserves
    obtain ⟨t, ht, hmatches⟩ := TracedProfile.serves_iff.mp hserves
    have hne : t ≠ "" := by
      rintro rfl
      rw [ApnItem.matchesType_empty htype] at hmatches
      cases hmatches
    obtain ⟨q, hq, hlists⟩ := hx.listed t ht hne
    exact ⟨q, hq, TracedProfile.serves_iff.mpr ⟨t, hlists, hmatches⟩⟩
  · rintro ⟨q, hq, hserves⟩
    obtain ⟨t, ht, hmatches⟩ := TracedProfile.serves_iff.mp hserves
    exact TracedProfile.serves_iff.mpr ⟨t, hx.lists q hq t ht, hmatches⟩

/-- What the absorbed profile contributes: the empty types of the preferred profile stand for the
default type only as long as it is merged with nothing. -/
def contribution (preferId : Int) (absorbed : List PdpProfile) (q : PdpProfile) : String :=
  if absorbed = [q] then (q.withDefaultType preferId).apnTypes else q.apnTypes

/-- The result serves the type: its types fit and one of its profiles contributes the type. -/
def Contributed (preferId : Int) (type : String) (absorbed : List PdpProfile) : Prop :=
  roomFor absorbed = true ∧ ∃ q ∈ absorbed, serves (contribution preferId absorbed q) type = true

/-- The result makes an item that serves the type exactly when its types fit and one of its profiles
contributes the type. -/
theorem Loadable.exists_item_iff (hl : x.Loadable) (hs : x.Sound ps)
    (htexts : ∀ q ∈ x.absorbed, q.otherTexts.all PdpProfile.fits = true)
    (hlive : x.profile.profileId ≠ -1) {i : Int} (htype : type ≠ "")
    (hi : x.absorbed.length = 1 → (i = x.profile.profileId ↔ preferId = x.profile.profileId)) :
    (∃ item, (x.profile.withDefaultType i).makeApn = some item ∧
        item.canDealWithText type = true) ↔ Contributed preferId type x.absorbed := by
  unfold Contributed
  rw [PdpProfile.exists_item_iff, hl.toMeasured.makeApn_isSome_iff htexts]
  apply and_congr_right
  intro _
  match habsorbed : x.absorbed with
  | [] => exact absurd habsorbed hs.nonempty
  | [q] =>
    have hprofile : x.profile = q := hl.single q habsorbed hlive
    have hsame : (x.profile.withDefaultType i).apnTypes = contribution preferId [q] q := by
      have hid := hi (congrArg List.length habsorbed)
      unfold contribution PdpProfile.withDefaultType
      rw [if_pos rfl, hprofile]
      rw [hprofile, eq_comm, eq_comm (a := preferId)] at hid
      simp only [hid]
    rw [hsame]
    constructor
    · exact fun hserves => ⟨q, List.mem_singleton.mpr rfl, hserves⟩
    · rintro ⟨q', hq', hserves⟩
      obtain rfl := List.mem_singleton.mp hq'
      exact hserves
  | q :: q' :: qs =>
    have hne : x.profile.apnTypes ≠ "" := by
      apply hl.types_ne
      rw [habsorbed, List.length_cons, List.length_cons]
      omega
    have hcontribution : ∀ r, contribution preferId (q :: q' :: qs) r = r.apnTypes :=
      fun r => if_neg (by simp)
    rw [PdpProfile.withDefaultType_of_ne hne, hs.serves_iff htype, habsorbed]
    simp only [hcontribution]

theorem Contributed.perm {qs qs' : List PdpProfile} (h : qs.Perm qs')
    (hc : Contributed preferId type qs) : Contributed preferId type qs' := by
  obtain ⟨hroom, q, hq, hserves⟩ := hc
  have hsame : contribution preferId qs' q = contribution preferId qs q := by
    unfold contribution
    have hiff : qs' = [q] ↔ qs = [q] := by
      rw [← List.perm_singleton, ← List.perm_singleton]
      exact ⟨h.trans, h.symm.trans⟩
    simp only [hiff]
  exact ⟨roomFor_perm h ▸ hroom, q, h.mem_iff.mp hq, hsame ▸ hserves⟩

/-- Each type that a profile serves alone is contributed to a family whose types fit. -/
def FamiliesServe (preferId : Int) (ps : List PdpProfile) (family : Nat → Nat) : Prop :=
  ∀ type ≠ "", ∀ p ∈ ps, serves (p.withDefaultType preferId).apnTypes type = true →
    ∃ i, PdpProfile.grouping.isHead ps family i = true ∧
      Contributed preferId type (PdpProfile.grouping.members ps family i ps.length)

/-- No default profile is displaced, the types of each network fit, and a preferred profile that leaves
its types open is alone in its network. -/
structure Roomy (preferId : Int) (ps : List PdpProfile) : Prop where
  order : PdpProfile.DefaultsFirst ps
  room : ∀ p ∈ ps, roomFor (PdpProfile.network ps p) = true
  alone : ∀ p ∈ ps, p.profileId = preferId → p.apnTypes = "" → PdpProfile.network ps p = [p]

theorem Roomy.contributed (h : Roomy preferId ps) (hdistinct : (ps.map PdpProfile.profileId).Nodup)
    (hnone : ∀ p ∈ ps, p.profileId ≠ -1) {p : PdpProfile} (hp : p ∈ ps)
    (hserves : serves (p.withDefaultType preferId).apnTypes type = true) :
    ∃ x ∈ (results preferId ps).1, Contributed preferId type x.absorbed := by
  obtain ⟨x, hx, habsorbed⟩ := exists_absorbed hdistinct hnone preferId hp
  obtain ⟨taken, hsub, hperm⟩ := results_within_network preferId h.order hx habsorbed
  refine ⟨x, hx, ?_, p, habsorbed, ?_⟩
  · rw [roomFor_perm hperm]
    exact roomFor_mono hsub (h.room p hp)
  · unfold contribution
    split_ifs with halone
    · exact hserves
    · by_cases hopen : p.profileId = preferId ∧ p.apnTypes = ""
      · have hnetwork := h.alone p hp hopen.1 hopen.2
        rw [hnetwork] at hsub
        have hmem := hperm.mem_iff.mp habsorbed
        have htaken : taken = [p] := by
          rcases List.sublist_singleton.mp hsub with rfl | rfl
          · exact absurd hmem List.not_mem_nil
          · rfl
        rw [htaken, List.perm_singleton] at hperm
        exact absurd hperm halone
      · rwa [PdpProfile.withDefaultType, if_neg hopen] at hserves

theorem exists_contributed_iff {family : Nat → Nat} (hf : PdpProfile.grouping.Families ps family) :
    (∃ x ∈ (results preferId ps).1, Contributed preferId type x.absorbed) ↔
      ∃ i, PdpProfile.grouping.isHead ps family i = true ∧
        Contributed preferId type (PdpProfile.grouping.members ps family i ps.length) := by
  have hiff := Merging.exists_mem_iff_of_forall₂ (results_madeOf preferId hf)
    (P := fun i => Contributed preferId type (PdpProfile.grouping.members ps family i ps.length))
    (Q := fun x => Contributed preferId type x.absorbed)
    fun i x hx => ⟨Contributed.perm hx.2.symm, Contributed.perm hx.2⟩
  rw [← hiff]
  simp only [Grouping.mem_heads]

end TracedProfile

namespace ApnTable

open TracedProfile

variable {t : ApnTable} {ps : List PdpProfile} {preferId : Int} {items : List ApnItem}

/-- The load offers what the profiles offer alone, counts the items it has made, and puts the
preferred one before the others, which keep their order. -/
structure LosesNothing (t : ApnTable) (ps : List PdpProfile) : Prop where
  served : ∀ type ≠ "", ∀ p ∈ ps,
    (∃ item, (p.withDefaultType t.preferId).makeApn = some item ∧
      item.canDealWithText type = true) →
    ∃ item ∈ (t.makeSpecificApnItem ps).1.allApnItem, item.canDealWithText type = true
  count : (t.makeSpecificApnItem ps).2 = (t.makeSpecificApnItem ps).1.allApnItem.length
  first : ∀ item ∈ (t.makeSpecificApnItem ps).1.allApnItem,
    item.attr.profileId = (t.makeSpecificApnItem ps).1.preferId →
      (t.makeSpecificApnItem ps).1.allApnItem.head? = some item
  order : (((t.makeSpecificApnItem ps).1.allApnItem.filter fun item =>
      item.attr.profileId ≠ (t.makeSpecificApnItem ps).1.preferId).map
        fun item => item.attr.profileId).Sublist
    ((PdpProfile.tryMergeSimilarPdpProfile t.preferId ps).1.map PdpProfile.profileId)

theorem itemsOf_eq (preferId : Int) (ps : List PdpProfile) :
    itemsOf preferId ps = ps.filterMap fun p => (p.withDefaultType preferId).makeApn :=
  rfl

theorem mem_itemsOf {item : ApnItem} : item ∈ itemsOf preferId ps ↔
    ∃ p ∈ ps, (p.withDefaultType preferId).makeApn = some item :=
  List.mem_filterMap

theorem itemsOf_ids (preferId : Int) (ps : List PdpProfile) :
    ((itemsOf preferId ps).map fun item => item.attr.profileId).Sublist
      (ps.map PdpProfile.profileId) := by
  rw [itemsOf_eq]
  induction ps with
  | nil => exact .slnil
  | cons p ps ih =>
    rw [List.filterMap_cons]
    cases hitem : (p.withDefaultType preferId).makeApn with
    | none => exact ih.cons _
    | some item =>
      have hid := (PdpProfile.of_makeApn hitem).2
      rw [PdpProfile.withDefaultType_profileId] at hid
      dsimp only
      rw [List.map_cons, List.map_cons, hid]
      exact ih.cons_cons _

theorem preferredFirst_head {item : ApnItem}
    (hdistinct : (items.map fun item => item.attr.profileId).Nodup)
    (hitem : item ∈ preferredFirst preferId items) (hid : item.attr.profileId = preferId) :
    (preferredFirst preferId items).head? = some item := by
  have hmem : item ∈ items := (preferredFirst_perm preferId items).mem_iff.mp hitem
  unfold preferredFirst
  cases hfind : items.find? fun item => item.attr.profileId = preferId with
  | none =>
    have hno := List.find?_eq_none.mp hfind item hmem
    exact absurd (decide_eq_true hid) hno
  | some found =>
    have hfound : found.attr.profileId = preferId := by simpa using List.find?_some hfind
    have heq : found = item := List.inj_on_of_nodup_map hdistinct (List.mem_of_find?_eq_some hfind)
      hmem (hfound.trans hid.symm)
    exact congrArg some heq

theorem preferredFirst_others (preferId : Int) (items : List ApnItem) :
    (preferredFirst preferId items).filter (fun item => item.attr.profileId ≠ preferId) =
      items.filter fun item => item.attr.profileId ≠ preferId := by
  unfold preferredFirst
  split
  next item hfind =>
    obtain ⟨hp, before, after, hitems, hbefore⟩ := List.find?_eq_some_iff_append.mp hfind
    have hid : item.attr.profileId = preferId := of_decide_eq_true hp
    have herase : items.eraseP (fun item => item.attr.profileId = preferId) = before ++ after := by
      rw [hitems, List.eraseP_append_right _ (fun b hb => by simpa using hbefore b hb)]
      exact congrArg (before ++ ·) (List.eraseP_cons_of_pos hp)
    rw [herase, hitems]
    simp [hid]
  next => rfl

/-- Some network of the vector fits, or some family of profiles that fall into families. -/
def MakesItem (ps : List PdpProfile) : Prop :=
  (∃ p ∈ ps, p.profileId ≠ -1 ∧ Fit (PdpProfile.network ps p)) ∨
    ∃ family, PdpProfile.grouping.Families ps family ∧ ∃ i,
      PdpProfile.grouping.isHead ps family i = true ∧
        Fit (PdpProfile.grouping.members ps family i ps.length)

theorem MakesItem.exists_result (h : MakesItem ps) (preferId : Int) :
    ∃ x ∈ (results preferId ps).1, Fit x.absorbed := by
  rcases h with ⟨p, hp, hlive, hfit⟩ | ⟨family, hf, i, hhead, hfit⟩
  · obtain ⟨x, hx, taken, hsub, hperm⟩ := exists_within_network preferId hp hlive
    exact ⟨x, hx, (hfit.mono hsub).perm hperm.symm⟩
  · have hiff := Merging.exists_mem_iff_of_forall₂ (results_madeOf preferId hf)
      (P := fun i => Fit (PdpProfile.grouping.members ps family i ps.length))
      (Q := fun x => Fit x.absorbed) fun i x hx => ⟨Fit.perm hx.2.symm, Fit.perm hx.2⟩
    exact hiff.mp ⟨i, Grouping.mem_heads.mpr hhead, hfit⟩

/-- A result that fits makes an item of its name. -/
theorem exists_item_of_fit {x : TracedProfile} (hx : x ∈ (results preferId ps).1)
    (hfit : Fit x.absorbed) (i : Int) : ∃ item ∈ itemsOf i ((results preferId ps).1.map profile),
      item.attr.profileId = x.profile.profileId := by
  have hmeasured := results_measured preferId ps x hx
  obtain ⟨item, hitem⟩ := Option.isSome_iff_exists.mp
    ((hmeasured.makeApn_isSome_iff hfit.texts i).mpr hfit.room)
  refine ⟨item, mem_itemsOf.mpr ⟨x.profile, List.mem_map_of_mem hx, hitem⟩, ?_⟩
  rw [(PdpProfile.of_makeApn hitem).2, PdpProfile.withDefaultType_profileId]

theorem MakesItem.itemsOf_ne_nil (h : MakesItem ps) (preferId : Int) :
    itemsOf (PdpProfile.tryMergeSimilarPdpProfile preferId ps).2
      (PdpProfile.tryMergeSimilarPdpProfile preferId ps).1 ≠ [] := by
  obtain ⟨x, hx, hfit⟩ := h.exists_result preferId
  obtain ⟨item, hitem, -⟩ := exists_item_of_fit hx hfit (results preferId ps).2
  rw [results_eq]
  exact List.ne_nil_of_mem hitem

/-- A load loses no service exactly where each type is contributed to a result. -/
theorem losesNothing_iff_contributed (hdistinct : (ps.map PdpProfile.profileId).Nodup)
    (hnone : ∀ p ∈ ps, p.profileId ≠ -1)
    (haccept : ∀ p ∈ ps, (p.withDefaultType t.preferId).makeApn.isSome = true) :
    LosesNothing t ps ↔ ∀ type ≠ "", ∀ p ∈ ps,
      serves (p.withDefaultType t.preferId).apnTypes type = true →
        ∃ x ∈ (results t.preferId ps).1, Contributed t.preferId type x.absorbed := by
  obtain ⟨hsound, hids⟩ := results_sound hdistinct hnone t.preferId
  have hloadable := results_loadable hdistinct hnone t.preferId
  have htexts : ∀ p ∈ ps, p.otherTexts.all PdpProfile.fits = true := by
    intro p hp
    have haccepted := (PdpProfile.makeApn_isSome_iff.mp (haccept p hp)).2
    rwa [PdpProfile.withDefaultType_otherTexts] at haccepted
  have hmake : t.makeSpecificApnItem ps =
      let items := itemsOf (results t.preferId ps).2 ((results t.preferId ps).1.map profile)
      ({ allApnItem := preferredFirst (results t.preferId ps).2 items
         preferId := (results t.preferId ps).2 }, items.length) := by
    unfold makeSpecificApnItem
    rw [results_eq]
  have hserved : ∀ type ≠ "",
      (∃ item ∈ (t.makeSpecificApnItem ps).1.allApnItem, item.canDealWithText type = true) ↔
        ∃ x ∈ (results t.preferId ps).1, Contributed t.preferId type x.absorbed := by
    intro type htype
    rw [hmake]
    dsimp only
    have hresult : ∀ x ∈ (results t.preferId ps).1,
        ((∃ item, (x.profile.withDefaultType (results t.preferId ps).2).makeApn = some item ∧
          item.canDealWithText type = true) ↔ Contributed t.preferId type x.absorbed) :=
      fun x hx => (hloadable x hx).1.exists_item_iff (hsound x hx).1
        (fun q hq => htexts q ((hsound x hx).1.inputs q hq)) (hsound x hx).2 htype (hloadable x hx).2
    constructor
    · rintro ⟨item, hitem, hdeals⟩
      rw [(preferredFirst_perm _ _).mem_iff, mem_itemsOf] at hitem
      obtain ⟨p, hp, hmakes⟩ := hitem
      obtain ⟨x, hx, rfl⟩ := List.mem_map.mp hp
      exact ⟨x, hx, (hresult x hx).mp ⟨item, hmakes, hdeals⟩⟩
    · rintro ⟨x, hx, hcontributes⟩
      obtain ⟨item, hmakes, hdeals⟩ := (hresult x hx).mpr hcontributes
      refine ⟨item, ?_, hdeals⟩
      rw [(preferredFirst_perm _ _).mem_iff, mem_itemsOf]
      exact ⟨x.profile, List.mem_map_of_mem hx, hmakes⟩
  have halone : ∀ type, ∀ p ∈ ps, (∃ item, (p.withDefaultType t.preferId).makeApn = some item ∧
      item.canDealWithText type = true) ↔
        serves (p.withDefaultType t.preferId).apnTypes type = true := by
    intro type p hp
    rw [PdpProfile.exists_item_iff]
    exact and_iff_right (haccept p hp)
  constructor
  · intro hload type htype p hp hserves
    rw [← hserved type htype]
    exact hload.served type htype p hp ((halone type p hp).mpr hserves)
  · intro hfit
    constructor
    · intro type htype p hp hitem
      rw [hserved type htype]
      exact hfit type htype p hp ((halone type p hp).mp hitem)
    · exact makeSpecificApnItem_count ps
    · rw [hmake]
      intro item hitem hid
      apply preferredFirst_head _ hitem hid
      apply List.Nodup.sublist (itemsOf_ids _ _)
      rw [List.map_map]
      exact hids
    · rw [hmake, results_eq]
      dsimp only
      rw [preferredFirst_others]
      exact (List.filter_sublist.map _).trans (itemsOf_ids _ _)

/-- The preferred profile leaves its types open. -/
def openPair : List PdpProfile :=
  [{ profileId := 1, apn := "net" }, { profileId := 2, apn := "net", apnTypes := "mms" }]

end ApnTable
end CellularData
