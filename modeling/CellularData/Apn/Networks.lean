import CellularData.Apn.Families

/-! What the results of a merge can have absorbed at most, whether or not the profiles fall into
families: a result takes up profiles of one network only. -/
namespace CellularData
open Lib

namespace PdpProfile

/-- The profiles of the network of `p`. -/
def network (ps : List PdpProfile) (p : PdpProfile) : List PdpProfile :=
  ps.filter fun q => SameNetwork p q

/-- No default profile stands behind one of its network that is none. -/
def DefaultsFirst (ps : List PdpProfile) : Prop :=
  ps.Pairwise fun p q => SameNetwork p q → containsText q.apnTypes "default" = true →
    containsText p.apnTypes "default" = true

instance (ps : List PdpProfile) : Decidable (DefaultsFirst ps) :=
  inferInstanceAs (Decidable (ps.Pairwise _))

end PdpProfile

namespace TracedProfile
open PdpProfile (SameNetwork)

variable {n b : PdpProfile} {bs ps : List PdpProfile} {x p q : TracedProfile}
  {xs qs : List TracedProfile} {preferId s : Int} {fuel : Nat}

theorem Shows.sameNetwork (hx : x.Shows) : ∀ p ∈ x.absorbed, ∀ q ∈ x.absorbed, SameNetwork p q := by
  intro p hp q hq
  exact (hx.network p hp).trans (hx.network q hq).symm

theorem Shows.exists_absorbed (hx : x.Shows) : ∃ p, p ∈ x.absorbed := by
  obtain ⟨p, hp, -⟩ := hx.proxyIpAddress.attained
  exact ⟨p, hp⟩

theorem Shows.alike (hp : p.Shows) (hq : q.Shows) (h : merging.similar p q = true) :
    PdpProfile.Alike p.absorbed q.absorbed :=
  (hp.similar_iff hq).mp h

/-! The first result of a network -/

/-- What stands at the place of the profile is of its network, and is the profile itself in the
network of `n`. -/
structure OriginalIn (n b : PdpProfile) (x : TracedProfile) : Prop where
  shows : x.Shows
  network : ∀ q ∈ x.absorbed, SameNetwork q b
  original : SameNetwork n b → x = ofProfile b

theorem OriginalIn.ofProfile (n b : PdpProfile) : OriginalIn n b (ofProfile b) where
  shows := .ofProfile b
  network q hq := by
    obtain rfl := List.mem_singleton.mp hq
    exact .refl q
  original _ := rfl

/-- The loop of another network leaves the profiles of this one alone. -/
theorem behind_other (hp : p.Shows) (hother : ∀ q ∈ p.absorbed, ¬ SameNetwork n q)
    (hqs : List.Forall₂ (OriginalIn n) bs qs) :
    List.Forall₂ (OriginalIn n) bs (merging.behind p s qs).2.1 := by
  induction hqs generalizing p s with
  | nil => exact .nil
  | @cons b q bs qs hq hqs ih =>
    by_cases h : merging.similar p q = true
    · rw [Merging.behind_cons_of_similar h]
      obtain ⟨hmerged, hleft⟩ := hp.merge (s := s) hq.shows h
      obtain ⟨a, ha⟩ := hp.exists_absorbed
      obtain ⟨c, hc⟩ := hq.shows.exists_absorbed
      have hsame : ∀ r ∈ p.absorbed, SameNetwork r b := fun r hr =>
        ((hp.alike hq.shows h).network r hr c hc).trans (hq.network c hc)
      have hb : ¬ SameNetwork n b := fun hn => hother a ha (hn.trans (hsame a ha).symm)
      constructor
      · refine ⟨hleft, fun r hr => ?_, fun hn => absurd hn hb⟩
        change r ∈ (merging.merge p q s).2.1.absorbed at hr
        rw [absorbed_left] at hr
        split_ifs at hr
        · exact hsame r hr
        · exact hq.network r hr
      · apply ih hmerged
        intro r hr hn
        rcases List.mem_append.mp ((absorbed_merge p q s).mem_iff.mp hr) with hr | hr
        · exact hother r hr hn
        · exact hb (hn.trans (hq.network r hr))
    · rw [Merging.behind_cons_of_not_similar h]
      exact .cons hq (ih hp hother)

/-- The first loop of the network takes up each of its profiles at most once. -/
theorem behind_own (hp : p.Shows) (hown : ∀ q ∈ p.absorbed, SameNetwork n q)
    (hqs : List.Forall₂ (OriginalIn n) bs qs) : ∃ taken, taken.Sublist bs ∧
      (∀ q ∈ taken, SameNetwork n q) ∧
        (merging.behind p s qs).1.absorbed.Perm (p.absorbed ++ taken) := by
  induction hqs generalizing p s with
  | nil => exact ⟨[], .slnil, fun _ hq => absurd hq List.not_mem_nil, by simp [Merging.behind]⟩
  | @cons b q bs qs hq hqs ih =>
    by_cases h : merging.similar p q = true
    · rw [Merging.behind_cons_of_similar h]
      obtain ⟨hmerged, -⟩ := hp.merge (s := s) hq.shows h
      obtain ⟨a, ha⟩ := hp.exists_absorbed
      obtain ⟨c, hc⟩ := hq.shows.exists_absorbed
      have hb : SameNetwork n b := ((hown a ha).trans
        ((hp.alike hq.shows h).network a ha c hc)).trans (hq.network c hc)
      have habsorbed : (merging.merge p q s).1.absorbed.Perm (p.absorbed ++ [b]) := by
        have hperm := absorbed_merge p q s
        rwa [hq.original hb] at hperm ⊢
      have hown' : ∀ r ∈ (merging.merge p q s).1.absorbed, SameNetwork n r := by
        intro r hr
        rcases List.mem_append.mp (habsorbed.mem_iff.mp hr) with hr | hr
        · exact hown r hr
        · rwa [List.mem_singleton.mp hr]
      obtain ⟨taken, hsub, hsame, hperm⟩ := ih (s := (merging.merge p q s).2.2) hmerged hown'
      refine ⟨b :: taken, hsub.cons_cons b, List.forall_mem_cons.mpr ⟨hb, hsame⟩, ?_⟩
      have happend := hperm.trans (habsorbed.append_right taken)
      rwa [List.append_assoc] at happend
    · rw [Merging.behind_cons_of_not_similar h]
      obtain ⟨taken, hsub, hsame, hperm⟩ := ih (s := s) hp hown
      exact ⟨taken, hsub.cons b, hsame, hperm⟩

theorem outer_first (hfuel : xs.length ≤ fuel) (hxs : List.Forall₂ (OriginalIn n) bs xs)
    (hb : ∃ b ∈ bs, SameNetwork n b ∧ b.profileId ≠ -1) :
    ∃ x ∈ (merging.outer fuel s xs).1, ∃ taken, taken.Sublist bs ∧
      (∀ q ∈ taken, SameNetwork n q) ∧ x.absorbed.Perm taken := by
  induction fuel generalizing s xs bs with
  | zero =>
    obtain rfl := List.length_eq_zero_iff.mp (Nat.le_zero.mp hfuel)
    cases hxs
    obtain ⟨b, hb, -⟩ := hb
    exact absurd hb List.not_mem_nil
  | succ fuel ih =>
    cases hxs with
    | nil =>
      obtain ⟨b, hb, -⟩ := hb
      exact absurd hb List.not_mem_nil
    | @cons b x bs xs hx hxs =>
      have hlength : xs.length ≤ fuel := Nat.le_of_succ_le_succ hfuel
      have hnext {s : Int} {xs : List TracedProfile} (hlength : xs.length ≤ fuel)
          (hxs : List.Forall₂ (OriginalIn n) bs xs) (hskip : SameNetwork n b → b.profileId = -1) :
          ∃ x ∈ (merging.outer fuel s xs).1, ∃ taken, taken.Sublist (b :: bs) ∧
            (∀ q ∈ taken, SameNetwork n q) ∧ x.absorbed.Perm taken := by
        obtain ⟨c, hc, hsame, hlive⟩ := hb
        rcases List.mem_cons.mp hc with rfl | hc
        · exact absurd (hskip hsame) hlive
        · obtain ⟨y, hy, taken, hsub, hall, hperm⟩ := ih (s := s) hlength hxs ⟨c, hc, hsame, hlive⟩
          exact ⟨y, hy, taken, hsub.cons b, hall, hperm⟩
      by_cases hmarked : merging.isMarked x = true
      · rw [Merging.outer_cons_of_marked hmarked]
        apply hnext hlength hxs
        intro hsame
        rw [hx.original hsame] at hmarked
        exact of_decide_eq_true hmarked
      · rw [Merging.outer_cons_of_unmarked hmarked]
        by_cases hsame : SameNetwork n b
        · have hown : ∀ q ∈ x.absorbed, SameNetwork n q := by
            intro q hq
            exact hsame.trans (hx.network q hq).symm
          obtain ⟨taken, hsub, hall, hperm⟩ := behind_own (s := s) hx.shows hown hxs
          refine ⟨_, List.mem_cons_self, b :: taken, hsub.cons_cons b,
            List.forall_mem_cons.mpr ⟨hsame, hall⟩, ?_⟩
          rwa [hx.original hsame] at hperm ⊢
        · have hother : ∀ q ∈ x.absorbed, ¬ SameNetwork n q := fun q hq hn =>
            hsame (hn.trans (hx.network q hq))
          have hrest := behind_other (s := s) hx.shows hother hxs
          have hsame' := Merging.length_behind (M := merging) x s xs
          have hlength' := Nat.le_trans (Nat.le_of_eq hsame') hlength
          obtain ⟨y, hy, htaken⟩ := hnext (s := (merging.behind x s xs).2.2) hlength' hrest
            fun hn => absurd hn hsame
          exact ⟨y, List.mem_cons_of_mem _ hy, htaken⟩

theorem forall₂_ofProfile {R : PdpProfile → TracedProfile → Prop} (h : ∀ p, R p (ofProfile p))
    (ps : List PdpProfile) : List.Forall₂ R ps (ps.map ofProfile) := by
  induction ps with
  | nil => exact .nil
  | cons p ps ih => exact .cons (h p) ih

/-- The first result of a network has absorbed each profile of the network at most once, and nothing
else. -/
theorem exists_within_network (preferId : Int) (hn : n ∈ ps) (hlive : n.profileId ≠ -1) :
    ∃ x ∈ (results preferId ps).1, ∃ taken, taken.Sublist (PdpProfile.network ps n) ∧
      x.absorbed.Perm taken := by
  obtain ⟨x, hx, taken, hsub, hall, hperm⟩ := outer_first (s := preferId) (n := n)
    (Nat.le_refl (ps.map ofProfile).length) (forall₂_ofProfile (OriginalIn.ofProfile n) ps)
    ⟨n, hn, .refl n, hlive⟩
  refine ⟨x, hx, taken, ?_, hperm⟩
  have hfilter := hsub.filter fun q => decide (SameNetwork n q)
  rwa [List.filter_eq_self.mpr fun q hq => decide_eq_true (hall q hq)] at hfilter

/-! Vectors where no profile is displaced -/

/-- Nothing but the profile has been absorbed at its place. -/
structure Alone (b : PdpProfile) (x : TracedProfile) : Prop where
  shows : x.Shows
  absorbed : x.absorbed = [b]

/-- No default profile of the vector displaces the element. -/
def Undisplaced (p : TracedProfile) (bs : List PdpProfile) : Prop :=
  ∀ a ∈ p.absorbed, ∀ b ∈ bs, SameNetwork a b → containsText b.apnTypes "default" = true →
    containsText a.apnTypes "default" = true

theorem behind_undisplaced (hp : p.Shows) (hundisplaced : Undisplaced p bs)
    (hbs : PdpProfile.DefaultsFirst bs) (hqs : List.Forall₂ Alone bs qs) :
    (merging.behind p s qs).1.Shows ∧ List.Forall₂ Alone bs (merging.behind p s qs).2.1 ∧
      ∃ taken, taken.Sublist bs ∧ (merging.behind p s qs).1.absorbed.Perm (p.absorbed ++ taken) := by
  induction hqs generalizing p s with
  | nil => exact ⟨hp, .nil, [], .slnil, by simp [Merging.behind]⟩
  | @cons b q bs qs hq hqs ih =>
    obtain ⟨hb, hbs⟩ := List.pairwise_cons.mp hbs
    have hrest : Undisplaced p bs := fun a ha c hc => hundisplaced a ha c (List.mem_cons_of_mem b hc)
    by_cases h : merging.similar p q = true
    · rw [Merging.behind_cons_of_similar h]
      obtain ⟨hmerged, hleft⟩ := hp.merge (s := s) hq.shows h
      have halike := hp.alike hq.shows h
      rw [hq.absorbed] at halike
      have hdefault : ¬ containsText q.profile.apnTypes "default" = true := by
        intro hdefault
        rw [hq.shows.default_iff hq.absorbed] at hdefault
        obtain ⟨a, ha⟩ := hp.exists_absorbed
        have hsame := halike.network a ha b List.mem_cons_self
        exact halike.default ⟨⟨a, ha, hundisplaced a ha b List.mem_cons_self hsame hdefault⟩,
          b, List.mem_cons_self, hdefault⟩
      have habsorbed : (merging.merge p q s).1.absorbed.Perm (p.absorbed ++ [b]) :=
        hq.absorbed ▸ absorbed_merge p q s
      have hmerged' : Undisplaced (merging.merge p q s).1 bs := by
        intro a ha c hc
        rcases List.mem_append.mp (habsorbed.mem_iff.mp ha) with ha | ha
        · exact hrest a ha c hc
        · rw [List.mem_singleton.mp ha]
          exact hb c hc
      obtain ⟨hshows, halone, taken, hsub, hperm⟩ :=
        ih (s := (merging.merge p q s).2.2) hmerged hmerged' hbs
      refine ⟨hshows, .cons ⟨hleft, ?_⟩ halone, b :: taken, hsub.cons_cons b, ?_⟩
      · show (merging.merge p q s).2.1.absorbed = [b]
        rw [absorbed_left, if_neg hdefault, hq.absorbed]
      · have happend := hperm.trans (habsorbed.append_right taken)
        rwa [List.append_assoc] at happend
    · rw [Merging.behind_cons_of_not_similar h]
      obtain ⟨hshows, halone, taken, hsub, hperm⟩ := ih (s := s) hp hrest hbs
      exact ⟨hshows, .cons hq halone, taken, hsub.cons b, hperm⟩

theorem outer_undisplaced (hfuel : xs.length ≤ fuel) (hbs : PdpProfile.DefaultsFirst bs)
    (hxs : List.Forall₂ Alone bs xs) : ∀ x ∈ (merging.outer fuel s xs).1, x.Shows ∧
      ∃ taken, taken.Sublist bs ∧ x.absorbed.Perm taken := by
  induction fuel generalizing s xs bs with
  | zero =>
    obtain rfl := List.length_eq_zero_iff.mp (Nat.le_zero.mp hfuel)
    exact fun _ hx => absurd hx List.not_mem_nil
  | succ fuel ih =>
    cases hxs with
    | nil => exact fun _ hx => absurd hx List.not_mem_nil
    | @cons b x bs xs hx hxs =>
      have hlength : xs.length ≤ fuel := Nat.le_of_succ_le_succ hfuel
      obtain ⟨hb, hbs⟩ := List.pairwise_cons.mp hbs
      have hnext {s : Int} {xs : List TracedProfile} (hlength : xs.length ≤ fuel)
          (hxs : List.Forall₂ Alone bs xs) : ∀ x ∈ (merging.outer fuel s xs).1, x.Shows ∧
            ∃ taken, taken.Sublist (b :: bs) ∧ x.absorbed.Perm taken := by
        intro y hy
        obtain ⟨hshows, taken, hsub, hperm⟩ := ih hlength hbs hxs y hy
        exact ⟨hshows, taken, hsub.cons b, hperm⟩
      by_cases hmarked : merging.isMarked x = true
      · rw [Merging.outer_cons_of_marked hmarked]
        exact hnext hlength hxs
      · rw [Merging.outer_cons_of_unmarked hmarked]
        have hundisplaced : Undisplaced x bs := by
          intro a ha
          rw [hx.absorbed, List.mem_singleton] at ha
          rw [ha]
          exact hb
        obtain ⟨hshows, halone, taken, hsub, hperm⟩ :=
          behind_undisplaced (s := s) hx.shows hundisplaced hbs hxs
        intro y hy
        rcases List.mem_cons.mp hy with rfl | hy
        · refine ⟨hshows, b :: taken, hsub.cons_cons b, ?_⟩
          rwa [hx.absorbed] at hperm
        · have hsame := Merging.length_behind (M := merging) x s xs
          have hlength' := Nat.le_trans (Nat.le_of_eq hsame) hlength
          exact hnext hlength' halone y hy

/-- With the default profiles in front no result has absorbed a profile twice. -/
theorem results_within_network (preferId : Int) (h : PdpProfile.DefaultsFirst ps)
    (hx : x ∈ (results preferId ps).1) (hn : n ∈ x.absorbed) :
    ∃ taken, taken.Sublist (PdpProfile.network ps n) ∧ x.absorbed.Perm taken := by
  obtain ⟨hshows, taken, hsub, hperm⟩ := outer_undisplaced (s := preferId)
    (Nat.le_refl (ps.map ofProfile).length) h
    (forall₂_ofProfile (fun p => ⟨.ofProfile p, rfl⟩) ps) x hx
  refine ⟨taken, ?_, hperm⟩
  have hfilter := hsub.filter fun q => decide (SameNetwork n q)
  rwa [List.filter_eq_self.mpr fun q hq => decide_eq_true
    (hshows.sameNetwork n hn q (hperm.mem_iff.mpr hq))] at hfilter

end TracedProfile
end CellularData
