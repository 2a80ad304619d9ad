import CellularData.Apn.Merge
import CellularData.Lib.MergeFamilies
import Mathlib.Data.List.Infix

/-! Families of similar profiles: what the merge makes of a vector that falls into them. -/
namespace CellularData
open Lib

theorem containsText_iff (s text : String) :
    containsText s text = true ↔ text.toList <:+: s.toList := by
  unfold containsText
  rw [List.any_eq_true, List.infix_iff_prefix_suffix]
  constructor
  · rintro ⟨t, ht, hprefix⟩
    exact ⟨t, List.isPrefixOf_iff_prefix.mp hprefix, (List.mem_tails _ _).mp ht⟩
  · rintro ⟨t, hprefix, ht⟩
    exact ⟨t, (List.mem_tails _ _).mpr ht, List.isPrefixOf_iff_prefix.mpr hprefix⟩

/-- A text without a comma stands in one of the two. -/
theorem containsText_join (a b : String) {text : String} (h : ',' ∉ text.toList) :
    containsText (a ++ "," ++ b) text = true ↔
      containsText a text = true ∨ containsText b text = true := by
  have hjoin : (a ++ "," ++ b).toList = a.toList ++ ',' :: b.toList := by
    rw [String.toList_append, String.toList_append, List.append_assoc]
    rfl
  rw [containsText_iff, containsText_iff, containsText_iff, hjoin, infix_append_cons_iff h]

namespace PdpProfile

/-- No profile of the vector has a wider protocol. -/
structure Widest (protocol : PdpProfile → String) (ps : List PdpProfile) (p : PdpProfile) : Prop where
  mem : p ∈ ps
  wide : (∃ q ∈ ps, protocol q = "IPV4V6") → protocol p = "IPV4V6"

/-- What similar profiles have in common. -/
def SameNetwork (p q : PdpProfile) : Prop :=
  p.apn = q.apn ∧ p.mvnoType = q.mvnoType ∧ p.mvnoMatchData = q.mvnoMatchData

instance (p q : PdpProfile) : Decidable (SameNetwork p q) := inferInstanceAs (Decidable (_ ∧ _))

theorem SameNetwork.refl (p : PdpProfile) : SameNetwork p p := ⟨rfl, rfl, rfl⟩

theorem SameNetwork.symm {p q : PdpProfile} (h : SameNetwork p q) : SameNetwork q p :=
  ⟨h.1.symm, h.2.1.symm, h.2.2.symm⟩

theorem SameNetwork.trans {p q r : PdpProfile} (h : SameNetwork p q) (h' : SameNetwork q r) : SameNetwork p r :=
  ⟨h.1.trans h'.1, h.2.1.trans h'.2.1, h.2.2.trans h'.2.2⟩

theorem isSimilarPdpProfile_iff (p q : PdpProfile) : isSimilarPdpProfile p q = true ↔
    ¬ (containsText p.apnTypes "default" = true ∧ containsText q.apnTypes "default" = true) ∧
      SameNetwork p q ∧ isSimilarProperty p.proxyIpAddress q.proxyIpAddress = true ∧
      isSimilarProperty p.homeUrl q.homeUrl = true ∧
      isSimilarProperty p.mmsIpAddress q.mmsIpAddress = true ∧
      isSimilarProtocol p.pdpProtocol q.pdpProtocol = true ∧
      isSimilarProtocol p.roamPdpProtocol q.roamPdpProtocol = true := by
  unfold isSimilarPdpProfile SameNetwork
  split_ifs with hboth
  · rw [Bool.and_eq_true] at hboth
    simp [hboth]
  · rw [Bool.and_eq_true] at hboth
    rw [and_iff_right hboth]
    simp only [Bool.and_eq_true, decide_eq_true_eq]
    tauto

/-- The merged profiles of the two vectors are similar. -/
structure Alike (ps qs : List PdpProfile) : Prop where
  default : ¬ ((∃ p ∈ ps, containsText p.apnTypes "default" = true) ∧
    ∃ q ∈ qs, containsText q.apnTypes "default" = true)
  network : ∀ p ∈ ps, ∀ q ∈ qs, SameNetwork p q
  proxyIpAddress : ∀ p ∈ ps, ∀ q ∈ qs, isSimilarProperty p.proxyIpAddress q.proxyIpAddress = true
  homeUrl : ∀ p ∈ ps, ∀ q ∈ qs, isSimilarProperty p.homeUrl q.homeUrl = true
  mmsIpAddress : ∀ p ∈ ps, ∀ q ∈ qs, isSimilarProperty p.mmsIpAddress q.mmsIpAddress = true
  pdpProtocol : ∀ p q, Widest pdpProtocol ps p → Widest pdpProtocol qs q →
    isSimilarProtocol p.pdpProtocol q.pdpProtocol = true
  roamPdpProtocol : ∀ p q, Widest roamPdpProtocol ps p → Widest roamPdpProtocol qs q →
    isSimilarProtocol p.roamPdpProtocol q.roamPdpProtocol = true

/-- A default profile takes the place in front of the one it is merged into. -/
def grouping : Grouping PdpProfile where
  alike := Alike
  displaces p := containsText p.apnTypes "default"
  marked p := p.profileId = -1

/-- No three profiles of a network have the protocols IPv4, IPv6 and both. -/
def Unmixed (protocol : PdpProfile → String) (ps : List PdpProfile) : Prop :=
  ∀ p ∈ ps, ∀ q ∈ ps, ∀ r ∈ ps, SameNetwork p r → SameNetwork q r →
    ¬ (protocol p = "IP" ∧ protocol q = "IPV6" ∧ protocol r = "IPV4V6")

variable {ps ps' qs qs' rs inputs : List PdpProfile} {p q : PdpProfile}
  {protocol : PdpProfile → String}

theorem Widest.perm (h : ps.Perm ps') (hp : Widest protocol ps' p) : Widest protocol ps p where
  mem := h.mem_iff.mpr hp.mem
  wide := by
    rintro ⟨q, hq, hwide⟩
    exact hp.wide ⟨q, h.mem_iff.mp hq, hwide⟩

theorem Alike.perm (hps : ps.Perm ps') (hqs : qs.Perm qs') (h : Alike ps qs) : Alike ps' qs' where
  default := by
    rintro ⟨⟨p, hp, hdefault⟩, q, hq, hdefault'⟩
    exact h.default ⟨⟨p, hps.mem_iff.mpr hp, hdefault⟩, q, hqs.mem_iff.mpr hq, hdefault'⟩
  network p hp q hq := h.network p (hps.mem_iff.mpr hp) q (hqs.mem_iff.mpr hq)
  proxyIpAddress p hp q hq := h.proxyIpAddress p (hps.mem_iff.mpr hp) q (hqs.mem_iff.mpr hq)
  homeUrl p hp q hq := h.homeUrl p (hps.mem_iff.mpr hp) q (hqs.mem_iff.mpr hq)
  mmsIpAddress p hp q hq := h.mmsIpAddress p (hps.mem_iff.mpr hp) q (hqs.mem_iff.mpr hq)
  pdpProtocol p q hp hq := h.pdpProtocol p q (hp.perm hps) (hq.perm hqs)
  roamPdpProtocol p q hp hq := h.roamPdpProtocol p q (hp.perm hps) (hq.perm hqs)

/-- A protocol for both is the widest one. -/
theorem isSimilarProtocol_cases {a b : String} (h : isSimilarProtocol a b = true) :
    a = b ∨ a = "IPV4V6" ∨ b = "IPV4V6" := by
  unfold isSimilarProtocol at h
  grind

theorem isSimilarProtocol_dual {a : String} (h : isSimilarProtocol a "IPV4V6" = true) :
    a = "IPV4V6" ∨ a = "IP" ∨ a = "IPV6" := by
  unfold isSimilarProtocol at h
  grind

/-- Where nothing is mixed, a wider protocol makes nothing similar. -/
theorem Unmixed.similar (hunmixed : Unmixed protocol inputs) (hrs : ∀ r ∈ rs, r ∈ inputs)
    (hps : ∀ p ∈ ps, p ∈ inputs) (hqs : ∀ q ∈ qs, q ∈ inputs)
    (hnetwork : ∀ r ∈ rs, ∀ p ∈ ps ++ qs, SameNetwork r p)
    (hnetwork' : ∀ p ∈ ps, ∀ q ∈ qs, SameNetwork p q)
    (hmerged : ∀ p q, Widest protocol ps p → Widest protocol qs q →
      isSimilarProtocol (protocol p) (protocol q) = true)
    (h : ∀ r p, Widest protocol rs r → Widest protocol (ps ++ qs) p →
      isSimilarProtocol (protocol r) (protocol p) = true) :
    ∀ r p, Widest protocol rs r → Widest protocol ps p →
      isSimilarProtocol (protocol r) (protocol p) = true := by
  intro r p hr hp
  by_cases hwide : ∃ q ∈ qs, protocol q = "IPV4V6"
  · obtain ⟨q, hq, hdual⟩ := hwide
    have hrq : isSimilarProtocol (protocol r) (protocol q) = true :=
      h r q hr ⟨List.mem_append_right ps hq, fun _ => hdual⟩
    have hpq : isSimilarProtocol (protocol p) (protocol q) = true :=
      hmerged p q hp ⟨hq, fun _ => hdual⟩
    have hsame := hnetwork r hr.mem q (List.mem_append_right ps hq)
    have hsame' := hnetwork' p hp.mem q hq
    have hmixed := hunmixed r (hrs r hr.mem) p (hps p hp.mem) q (hqs q hq) hsame hsame'
    have hmixed' := hunmixed p (hps p hp.mem) r (hrs r hr.mem) q (hqs q hq) hsame' hsame
    rw [hdual] at hrq hpq hmixed hmixed'
    unfold isSimilarProtocol
    rcases isSimilarProtocol_dual hrq with hr' | hr' | hr' <;>
      rcases isSimilarProtocol_dual hpq with hp' | hp' | hp' <;> simp_all
  · refine h r p hr ⟨List.mem_append_left qs hp.mem, ?_⟩
    rintro ⟨q, hq, hdual⟩
    rcases List.mem_append.mp hq with hq | hq
    · exact hp.wide ⟨q, hq, hdual⟩
    · exact absurd ⟨q, hq, hdual⟩ hwide

theorem Alike.of_append (hpdp : Unmixed PdpProfile.pdpProtocol inputs)
    (hroam : Unmixed PdpProfile.roamPdpProtocol inputs) (hrs : ∀ r ∈ rs, r ∈ inputs)
    (hps : ∀ p ∈ ps, p ∈ inputs) (hqs : ∀ q ∈ qs, q ∈ inputs) (hmerged : Alike ps qs)
    (h : Alike rs (ps ++ qs)) : Alike rs ps where
  default := by
    rintro ⟨hr, p, hp, hdefault⟩
    exact h.default ⟨hr, p, List.mem_append_left qs hp, hdefault⟩
  network r hr p hp := h.network r hr p (List.mem_append_left qs hp)
  proxyIpAddress r hr p hp := h.proxyIpAddress r hr p (List.mem_append_left qs hp)
  homeUrl r hr p hp := h.homeUrl r hr p (List.mem_append_left qs hp)
  mmsIpAddress r hr p hp := h.mmsIpAddress r hr p (List.mem_append_left qs hp)
  pdpProtocol := hpdp.similar hrs hps hqs h.network hmerged.network hmerged.pdpProtocol h.pdpProtocol
  roamPdpProtocol :=
    hroam.similar hrs hps hqs h.network hmerged.network hmerged.roamPdpProtocol h.roamPdpProtocol

end PdpProfile

namespace TracedProfile
open PdpProfile (Widest SameNetwork Alike isSimilarProperty isSimilarProtocol isSimilarPdpProfile)

variable {x y front back p q : TracedProfile} {b : PdpProfile} {f : PdpProfile → String}
  {preferId : Int}

/-- What is filled in comes from an absorbed profile, and agrees with all the others. -/
structure Fills (f : PdpProfile → String) (x : TracedProfile) : Prop where
  agree : ∀ p ∈ x.absorbed, f p = "" ∨ f p = f x.profile
  attained : ∃ p ∈ x.absorbed, f p = f x.profile

/-- The protocol is the widest of those absorbed. -/
structure Widens (f : PdpProfile → String) (x : TracedProfile) : Prop where
  agree : ∀ p, Widest f x.absorbed p → f p = f x.profile
  attained : ∃ p, Widest f x.absorbed p

/-- The profile shows what it has absorbed, as far as its similarity to others goes. -/
structure Shows (x : TracedProfile) : Prop where
  default : containsText x.profile.apnTypes "default" = true ↔
    ∃ p ∈ x.absorbed, containsText p.apnTypes "default" = true
  network : ∀ p ∈ x.absorbed, SameNetwork p x.profile
  proxyIpAddress : Fills PdpProfile.proxyIpAddress x
  homeUrl : Fills PdpProfile.homeUrl x
  mmsIpAddress : Fills PdpProfile.mmsIpAddress x
  pdpProtocol : Widens PdpProfile.pdpProtocol x
  roamPdpProtocol : Widens PdpProfile.roamPdpProtocol x

theorem isSimilarProperty_iff {a b : String} :
    isSimilarProperty a b = true ↔ a = b ∨ a = "" ∨ b = "" := by
  unfold isSimilarProperty
  rw [Bool.or_eq_true, Bool.or_eq_true, decide_eq_true_eq, decide_eq_true_eq, decide_eq_true_eq,
    or_assoc]

theorem Fills.similar_iff (hx : Fills f x) (hy : Fills f y) :
    isSimilarProperty (f x.profile) (f y.profile) = true ↔
      ∀ p ∈ x.absorbed, ∀ q ∈ y.absorbed, isSimilarProperty (f p) (f q) = true := by
  constructor
  · intro h p hp q hq
    rw [isSimilarProperty_iff] at h ⊢
    rcases hx.agree p hp with hempty | heq
    · exact .inr (.inl hempty)
    · rcases hy.agree q hq with hempty | heq'
      · exact .inr (.inr hempty)
      · rwa [heq, heq']
  · intro h
    obtain ⟨p, hp, heq⟩ := hx.attained
    obtain ⟨q, hq, heq'⟩ := hy.attained
    rw [← heq, ← heq']
    exact h p hp q hq

theorem Widens.similar_iff (hx : Widens f x) (hy : Widens f y) :
    isSimilarProtocol (f x.profile) (f y.profile) = true ↔
      ∀ p q, Widest f x.absorbed p → Widest f y.absorbed q → isSimilarProtocol (f p) (f q) = true := by
  constructor
  · intro h p q hp hq
    rwa [hx.agree p hp, hy.agree q hq]
  · intro h
    obtain ⟨p, hp⟩ := hx.attained
    obtain ⟨q, hq⟩ := hy.attained
    rw [← hx.agree p hp, ← hy.agree q hq]
    exact h p q hp hq

/-- The similarity of two profiles is that of what they have absorbed. -/
theorem Shows.similar_iff (hx : x.Shows) (hy : y.Shows) :
    isSimilarPdpProfile x.profile y.profile = true ↔ Alike x.absorbed y.absorbed := by
  have hnetwork : SameNetwork x.profile y.profile ↔
      ∀ p ∈ x.absorbed, ∀ q ∈ y.absorbed, SameNetwork p q := by
    constructor
    · intro h p hp q hq
      exact ((hx.network p hp).trans h).trans (hy.network q hq).symm
    · intro h
      obtain ⟨p, hp, -⟩ := hx.proxyIpAddress.attained
      obtain ⟨q, hq, -⟩ := hy.proxyIpAddress.attained
      exact ((hx.network p hp).symm.trans (h p hp q hq)).trans (hy.network q hq)
  have hproxy := hx.proxyIpAddress.similar_iff hy.proxyIpAddress
  have hurl := hx.homeUrl.similar_iff hy.homeUrl
  have hmms := hx.mmsIpAddress.similar_iff hy.mmsIpAddress
  have hpdp := hx.pdpProtocol.similar_iff hy.pdpProtocol
  have hroam := hx.roamPdpProtocol.similar_iff hy.roamPdpProtocol
  rw [PdpProfile.isSimilarPdpProfile_iff, hx.default, hy.default, hnetwork, hproxy, hurl, hmms, hpdp,
    hroam]
  constructor
  · rintro ⟨hdefault, hnetwork, hproxy, hurl, hmms, hpdp, hroam⟩
    exact ⟨hdefault, hnetwork, hproxy, hurl, hmms, hpdp, hroam⟩
  · intro h
    exact ⟨h.default, h.network, h.proxyIpAddress, h.homeUrl, h.mmsIpAddress, h.pdpProtocol,
      h.roamPdpProtocol⟩

theorem Fills.ofProfile (f : PdpProfile → String) (p : PdpProfile) : Fills f (ofProfile p) where
  agree q hq := by
    obtain rfl := List.mem_singleton.mp hq
    exact .inr rfl
  attained := ⟨p, List.mem_singleton.mpr rfl, rfl⟩

theorem Widens.ofProfile (f : PdpProfile → String) (p : PdpProfile) : Widens f (ofProfile p) where
  agree q hq := by
    obtain rfl := List.mem_singleton.mp hq.mem
    rfl
  attained := by
    refine ⟨p, List.mem_singleton.mpr rfl, ?_⟩
    rintro ⟨q, hq, hwide⟩
    rwa [List.mem_singleton.mp hq] at hwide

theorem Shows.ofProfile (p : PdpProfile) : (ofProfile p).Shows where
  default := by
    constructor
    · exact fun h => ⟨p, List.mem_singleton.mpr rfl, h⟩
    · rintro ⟨q, hq, h⟩
      rwa [List.mem_singleton.mp hq] at h
  network q hq := by
    obtain rfl := List.mem_singleton.mp hq
    exact .refl q
  proxyIpAddress := .ofProfile _ p
  homeUrl := .ofProfile _ p
  mmsIpAddress := .ofProfile _ p
  pdpProtocol := .ofProfile _ p
  roamPdpProtocol := .ofProfile _ p

/-- An empty property of the front is filled in from the back. -/
theorem Fills.mergedInto (hfront : Fills f front) (hback : Fills f back)
    (hsimilar : isSimilarProperty (f front.profile) (f back.profile) = true)
    (hf : f (mergedInto front back).profile =
      if f front.profile = "" then f back.profile else f front.profile) :
    Fills f (mergedInto front back) := by
  rw [isSimilarProperty_iff] at hsimilar
  by_cases hempty : f front.profile = ""
  · rw [if_pos hempty] at hf
    constructor
    · intro p hp
      rw [hf]
      rcases List.mem_append.mp hp with hp | hp
      · rcases hfront.agree p hp with h | h
        · exact .inl h
        · exact .inl (h.trans hempty)
      · exact hback.agree p hp
    · obtain ⟨p, hp, heq⟩ := hback.attained
      exact ⟨p, List.mem_append_right _ hp, heq.trans hf.symm⟩
  · rw [if_neg hempty] at hf
    have hagree : f back.profile = "" ∨ f back.profile = f front.profile := by
      rcases hsimilar with h | h | h
      · exact .inr h.symm
      · exact absurd h hempty
      · exact .inl h
    constructor
    · intro p hp
      rw [hf]
      rcases List.mem_append.mp hp with hp | hp
      · exact hfront.agree p hp
      · rcases hback.agree p hp with h | h
        · exact .inl h
        · rwa [h]
    · obtain ⟨p, hp, heq⟩ := hfront.attained
      exact ⟨p, List.mem_append_left _ hp, heq.trans hf.symm⟩

/-- A profile absorbed by the wider one of the two has the protocol of both. -/
theorem Widens.wide (hx : Widens f x) (h : ∃ p ∈ x.absorbed, f p = "IPV4V6") :
    f x.profile = "IPV4V6" := by
  obtain ⟨p, hp, hwide⟩ := h
  rw [← hx.agree p ⟨hp, fun _ => hwide⟩, hwide]

theorem Widens.mergedInto (hfront : Widens f front) (hback : Widens f back)
    (hsimilar : isSimilarProtocol (f front.profile) (f back.profile) = true)
    (hf : f (mergedInto front back).profile =
      if f front.profile = "IPV4V6" then f front.profile else f back.profile) :
    Widens f (mergedInto front back) := by
  have hleft {p} (hp : Widest f (TracedProfile.mergedInto front back).absorbed p)
      (hmem : p ∈ front.absorbed) : f p = f front.profile := by
    refine hfront.agree p ⟨hmem, ?_⟩
    rintro ⟨q, hq, hwide⟩
    exact hp.wide ⟨q, List.mem_append_left _ hq, hwide⟩
  have hright {p} (hp : Widest f (TracedProfile.mergedInto front back).absorbed p)
      (hmem : p ∈ back.absorbed) : f p = f back.profile := by
    refine hback.agree p ⟨hmem, ?_⟩
    rintro ⟨q, hq, hwide⟩
    exact hp.wide ⟨q, List.mem_append_right _ hq, hwide⟩
  by_cases hwide : ∃ p ∈ (TracedProfile.mergedInto front back).absorbed, f p = "IPV4V6"
  · have hprofile : f (TracedProfile.mergedInto front back).profile = "IPV4V6" := by
      obtain ⟨p, hp, hp'⟩ := hwide
      rw [hf]
      split_ifs with hfront'
      · exact hfront'
      · rcases List.mem_append.mp hp with hp | hp
        · exact absurd (hfront.wide ⟨p, hp, hp'⟩) hfront'
        · exact hback.wide ⟨p, hp, hp'⟩
    constructor
    · intro p hp
      rw [hprofile, hp.wide hwide]
    · obtain ⟨p, hp, hp'⟩ := hwide
      exact ⟨p, hp, fun _ => hp'⟩
  · have hno (x : TracedProfile) (hx : Widens f x)
        (hsub : ∀ p ∈ x.absorbed, p ∈ (TracedProfile.mergedInto front back).absorbed) :
        f x.profile ≠ "IPV4V6" := by
      intro heq
      obtain ⟨p, hp⟩ := hx.attained
      exact hwide ⟨p, hsub p hp.mem, (hx.agree p hp).trans heq⟩
    have hfront' := hno front hfront fun p hp => List.mem_append_left _ hp
    have hback' := hno back hback fun p hp => List.mem_append_right _ hp
    have hsame : f front.profile = f back.profile := by
      rcases PdpProfile.isSimilarProtocol_cases hsimilar with h | h | h
      · exact h
      · exact absurd h hfront'
      · exact absurd h hback'
    rw [if_neg hfront'] at hf
    constructor
    · intro p hp
      rw [hf]
      rcases List.mem_append.mp hp.mem with hmem | hmem
      · exact (hleft hp hmem).trans hsame
      · exact hright hp hmem
    · obtain ⟨p, hp⟩ := hfront.attained
      exact ⟨p, List.mem_append_left _ hp.mem, fun h => absurd h hwide⟩

theorem Shows.mergedInto (hfront : front.Shows) (hback : back.Shows)
    (hsimilar : isSimilarPdpProfile front.profile back.profile = true) :
    (mergedInto front back).Shows := by
  obtain ⟨-, hnetwork, hproxy, hurl, hmms, hpdp, hroam⟩ :=
    (PdpProfile.isSimilarPdpProfile_iff _ _).mp hsimilar
  constructor
  · show containsText (front.profile.apnTypes ++ "," ++ back.profile.apnTypes) "default" = true ↔ _
    rw [containsText_join _ _ (by decide), hfront.default, hback.default]
    constructor
    · rintro (⟨p, hp, h⟩ | ⟨p, hp, h⟩)
      · exact ⟨p, List.mem_append_left _ hp, h⟩
      · exact ⟨p, List.mem_append_right _ hp, h⟩
    · rintro ⟨p, hp, h⟩
      rcases List.mem_append.mp hp with hp | hp
      · exact .inl ⟨p, hp, h⟩
      · exact .inr ⟨p, hp, h⟩
  · intro p hp
    show SameNetwork p front.profile
    rcases List.mem_append.mp hp with hp | hp
    · exact hfront.network p hp
    · exact (hback.network p hp).trans hnetwork.symm
  · exact hfront.proxyIpAddress.mergedInto hback.proxyIpAddress hproxy rfl
  · exact hfront.homeUrl.mergedInto hback.homeUrl hurl rfl
  · exact hfront.mmsIpAddress.mergedInto hback.mmsIpAddress hmms rfl
  · exact hfront.pdpProtocol.mergedInto hback.pdpProtocol hpdp rfl
  · exact hfront.roamPdpProtocol.mergedInto hback.roamPdpProtocol hroam rfl

theorem Shows.mark (hx : x.Shows) : (merging.mark x).Shows where
  default := hx.default
  network := hx.network
  proxyIpAddress := ⟨hx.proxyIpAddress.agree, hx.proxyIpAddress.attained⟩
  homeUrl := ⟨hx.homeUrl.agree, hx.homeUrl.attained⟩
  mmsIpAddress := ⟨hx.mmsIpAddress.agree, hx.mmsIpAddress.attained⟩
  pdpProtocol := ⟨hx.pdpProtocol.agree, hx.pdpProtocol.attained⟩
  roamPdpProtocol := ⟨hx.roamPdpProtocol.agree, hx.roamPdpProtocol.attained⟩

theorem Shows.default_iff (hq : q.Shows) (hb : q.absorbed = [b]) :
    containsText q.profile.apnTypes "default" = containsText b.apnTypes "default" := by
  rw [Bool.eq_iff_iff, hq.default, hb]
  simp

theorem absorbed_merge (p q : TracedProfile) (preferId : Int) :
    (merging.merge p q preferId).1.absorbed.Perm (p.absorbed ++ q.absorbed) := by
  by_cases hdefault : containsText q.profile.apnTypes "default" = true
  · rw [merge_of_default hdefault]
    exact List.perm_append_comm
  · rw [merge_of_not_default hdefault]
    exact .refl _

theorem absorbed_left (p q : TracedProfile) (preferId : Int) :
    (merging.merge p q preferId).2.1.absorbed =
      if containsText q.profile.apnTypes "default" = true then p.absorbed else q.absorbed := by
  split_ifs with hdefault
  · rw [merge_of_default hdefault]
  · rw [merge_of_not_default hdefault]

theorem Shows.merge {s : Int} (hp : p.Shows) (hq : q.Shows)
    (hpq : isSimilarPdpProfile p.profile q.profile = true) :
    (merging.merge p q s).1.Shows ∧
      (merging.mark (merging.merge p q s).2.1).Shows := by
  by_cases hdefault : containsText q.profile.apnTypes "default" = true
  · rw [merge_of_default hdefault]
    rw [PdpProfile.isSimilarPdpProfile_comm] at hpq
    exact ⟨hq.mergedInto hp hpq, hp.mark⟩
  · rw [merge_of_not_default hdefault]
    exact ⟨hp.mergedInto hq hpq, hq.mark⟩

/-- What a profile has absorbed decides over the merging. -/
theorem groups : merging.Groups PdpProfile.grouping ofProfile absorbed Shows where
  alike := Alike.perm
  start b := ⟨.ofProfile b, rfl, rfl⟩
  similar := Shows.similar_iff
  merge {p q b s} hp hq hpf hqf hpq hb := by
    refine ⟨?_, (hpf.merge hqf hpq).1, hb ▸ absorbed_merge p q s⟩
    by_cases hdefault : containsText q.profile.apnTypes "default" = true
    · rw [merge_of_default hdefault, Bool.not_eq_true]
      exact hq
    · rw [merge_of_not_default hdefault]
      exact hp
  left {p q b s} hp hq hpf hqf hpq hb := by
    refine ⟨by simp [merging], (hpf.merge hqf hpq).2, ?_⟩
    show (merging.merge p q s).2.1.absorbed =
      if containsText b.apnTypes "default" = true then p.absorbed else [b]
    rw [absorbed_left, hqf.default_iff hb, hb]

/-- Where nothing is mixed, a merged profile is similar to nothing that it was not similar to. -/
theorem keepsApart {ps : List PdpProfile} (hpdp : PdpProfile.Unmixed PdpProfile.pdpProtocol ps)
    (hroam : PdpProfile.Unmixed PdpProfile.roamPdpProtocol ps) :
    merging.KeepsApart fun x => x.Shows ∧ ∀ p ∈ x.absorbed, p ∈ ps where
  symm x y := PdpProfile.isSimilarPdpProfile_comm x.profile y.profile
  marked x := by simp [merging]
  merge {p q s} hp hq hpq := by
    obtain ⟨hmerged, hleft⟩ := hp.1.merge (s := s) hq.1 hpq
    refine ⟨⟨hmerged, fun b hb => ?_⟩, hleft, fun b hb => ?_⟩
    · rcases List.mem_append.mp ((absorbed_merge p q s).mem_iff.mp hb) with hb | hb
      · exact hp.2 b hb
      · exact hq.2 b hb
    · change b ∈ (merging.merge p q s).2.1.absorbed at hb
      rw [absorbed_left] at hb
      split_ifs at hb
      · exact hp.2 b hb
      · exact hq.2 b hb
  apart {x p q s} hx hp hq hpq hxp := by
    rw [← Bool.not_eq_true] at hxp ⊢
    intro hsimilar
    apply hxp
    have halike := (hp.1.similar_iff hq.1).mp hpq
    have hmerged := (hx.1.similar_iff (hp.1.merge hq.1 hpq).1).mp hsimilar
    have happend : Alike x.absorbed (p.absorbed ++ q.absorbed) :=
      hmerged.perm (.refl _) (absorbed_merge p q s)
    exact (hx.1.similar_iff hp.1).mpr
      (Alike.of_append hpdp hroam hx.2 hp.2 hq.2 halike happend)

/-- The profiles fall into families of similar ones. -/
def FallIntoFamilies (ps : List PdpProfile) : Prop := ∃ family, PdpProfile.grouping.Families ps family

variable {ps : List PdpProfile} {family : Nat → Nat}

/-- No marked profile is merged again exactly where the profiles fall into families. -/
theorem marksRespected_iff_families (preferId : Int) (ps : List PdpProfile) :
    MarksRespected preferId ps ↔ FallIntoFamilies ps := by
  have hunspent : (fun (_ : List TracedProfile) (_ q : TracedProfile) (_ : Int) => Unmarked q) =
      Merging.Unspent merging := by
    funext left p q s
    simp [Merging.Unspent, merging]
  rw [marksRespected_iff, hunspent]
  exact groups.atMerges_iff ps preferId

/-- Each result is made of one family. -/
theorem results_madeOf (preferId : Int) (hf : PdpProfile.grouping.Families ps family) :
    List.Forall₂ (Merging.MadeOf PdpProfile.grouping absorbed Shows ps family)
      (PdpProfile.grouping.headsFrom ps family 0) (results preferId ps).1 :=
  groups.pass hf preferId

/-- The merge is a partition exactly where the profiles fall into families. -/
theorem merge_partitions_iff (preferId : Int) (hdistinct : (ps.map PdpProfile.profileId).Nodup)
    (hnone : ∀ p ∈ ps, p.profileId ≠ -1) :
    (results preferId ps).1.map profile = (PdpProfile.tryMergeSimilarPdpProfile preferId ps).1 ∧
      (Partitions ps (results preferId ps).1 ↔ FallIntoFamilies ps) := by
  rw [← marksRespected_iff_families preferId]
  exact partitions_iff_marksRespected preferId hdistinct hnone

/-- A default profile with its MMS profile. -/
def mmsPair : List PdpProfile :=
  [{ profileId := 1, apn := "net", apnTypes := "default" },
    { profileId := 2, apn := "net", apnTypes := "mms" }]

theorem merge_partitions_mmsPair :
    (results (-1) mmsPair).1.map profile =
        (PdpProfile.tryMergeSimilarPdpProfile (-1) mmsPair).1 ∧
      (Partitions mmsPair (results (-1) mmsPair).1 ↔ FallIntoFamilies mmsPair) :=
  merge_partitions_iff (-1) (by decide) (by decide)

/-- Two default profiles are not similar, and each of them absorbs the MMS profile. -/
def sharedMms : List PdpProfile :=
  [{ profileId := 1, apn := "net", apnTypes := "default" },
    { profileId := 2, apn := "net", apnTypes := "default" },
    { profileId := 3, apn := "net", apnTypes := "mms" }]

theorem mms_absorbed_twice :
    (PdpProfile.tryMergeSimilarPdpProfile (-1) sharedMms).1.map PdpProfile.apnTypes =
        ["default,mms", "default,mms"] ∧
      ¬ Partitions sharedMms (results (-1) sharedMms).1 := by
  refine ⟨by decide +kernel, fun hpartition => ?_⟩
  have htotal := hpartition.once.length_eq
  revert htotal
  decide +kernel

/-- The default profile and the MMS profile are one family; with a second default profile there is none. -/
example : FallIntoFamilies mmsPair ∧ ¬ FallIntoFamilies sharedMms := by
  rw [← marksRespected_iff_families (-1), ← marksRespected_iff_families (-1)]
  constructor <;> decide +kernel

/-- The preference is lost exactly where there is none and the profiles fall into no families. -/
theorem preference_kept_iff (preferId : Int) (hdistinct : (ps.map PdpProfile.profileId).Nodup)
    (hnone : ∀ p ∈ ps, p.profileId ≠ -1) :
    PreferenceKept preferId ps ↔ preferId ≠ -1 ∨ FallIntoFamilies ps := by
  rw [← marksRespected_iff_families preferId]
  exact preferenceKept_iff_marksRespected preferId hdistinct hnone

theorem preference_kept_mmsPair : PreferenceKept 2 mmsPair ↔ 2 ≠ -1 ∨ FallIntoFamilies mmsPair :=
  preference_kept_iff 2 (by decide) (by decide)

/-- No profile is preferred, and the second default profile becomes it. -/
theorem preference_invented : (PdpProfile.tryMergeSimilarPdpProfile (-1) sharedMms).2 = 2 ∧
    ¬ PreferenceKept (-1) sharedMms := by
  have hid : (PdpProfile.tryMergeSimilarPdpProfile (-1) sharedMms).2 = 2 := by decide +kernel
  refine ⟨hid, fun hkept => ?_⟩
  have hunchanged := hkept.2 (by decide)
  rw [hid] at hunchanged
  cases hunchanged

/-- No two results are similar, and a second pass merges nothing. -/
def Coalesced (preferId : Int) (ps : List PdpProfile) : Prop :=
  (PdpProfile.tryMergeSimilarPdpProfile preferId ps).1.Pairwise
      (fun p q => isSimilarPdpProfile p q = false) ∧
    ∀ i, PdpProfile.merging.AtMerges (fun _ _ _ _ => False) i
      (PdpProfile.tryMergeSimilarPdpProfile preferId ps).1

theorem coalesced_of_pairwise {preferId : Int}
    (h : (results preferId ps).1.Pairwise fun x y => merging.similar x y = false) :
    Coalesced preferId ps := by
  unfold Coalesced
  rw [results_eq, List.pairwise_map]
  refine ⟨h, fun i => Merging.atMerges_of_apart ?_⟩
  rw [List.pairwise_map]
  exact h

theorem coalesced_of_unmixed (preferId : Int)
    (hpdp : PdpProfile.Unmixed PdpProfile.pdpProtocol ps)
    (hroam : PdpProfile.Unmixed PdpProfile.roamPdpProtocol ps) : Coalesced preferId ps := by
  apply coalesced_of_pairwise
  apply (keepsApart hpdp hroam).pass
  intro x hx
  obtain ⟨p, hp, rfl⟩ := List.mem_map.mp hx
  refine ⟨.ofProfile p, fun q hq => ?_⟩
  rwa [List.mem_singleton.mp hq]

theorem coalesced_iff (preferId : Int) (hf : PdpProfile.grouping.Families ps family) :
    Coalesced preferId ps ↔ PdpProfile.grouping.Apart ps family := by
  rw [← groups.apart_iff hf preferId]
  constructor
  · intro h
    have hpairwise := h.1
    rw [results_eq, List.pairwise_map] at hpairwise
    exact hpairwise
  · exact coalesced_of_pairwise

/-- An IPv6 profile between an IPv4 one and the default one for both. -/
def widening : List PdpProfile :=
  [{ profileId := 1, apn := "net", apnTypes := "mms", pdpProtocol := "IP" },
    { profileId := 2, apn := "net", apnTypes := "supl", pdpProtocol := "IPV6" },
    { profileId := 3, apn := "net", apnTypes := "default", pdpProtocol := "IPV4V6" }]

end TracedProfile
end CellularData
