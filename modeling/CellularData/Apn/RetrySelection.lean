import CellularData.Apn.Manager
import CellularData.Lib.RoundRobin
import CellularData.Lib.TransitionSystem

/-! The APN handed out for the next attempt, call after call, and what a newly installed list of
matched APNs finds of the calls before it. -/
namespace CellularData
namespace ConnectionRetryPolicy
open Lib

section
variable (isBadApn : ItemRef → Bool) (p : ConnectionRetryPolicy)

/-- The place of the item and the attempts counted for it. -/
def turn : Turn := ⟨p.currentApnIndex, p.tryCount⟩

def standAt (t : Turn) : ConnectionRetryPolicy :=
  { p with currentApnIndex := t.seat, tryCount := t.count }

def isBadAt (i : Nat) : Bool := isBadApn (p.matchedApns.getD i 0)

/-- The places of the items that are not bad. -/
def goodPlaces : List Nat := Turn.seats p.matchedApns.length (p.isBadAt isBadApn)

def goodApns : List ItemRef := p.matchedApns.filter fun r => !isBadApn r

/-- The turn that the next call takes. -/
def takeTurn : Turn :=
  Turn.after p.matchedApns.length (p.isBadAt isBadApn) p.maxCount p.turn

/-- The policy after `k` calls. -/
def afterCalls (k : Nat) : ConnectionRetryPolicy :=
  (fun p => (p.getNextRetryApnItem isBadApn).2)^[k] p

/-- What the call after `k` others hands out. -/
def handedOut (k : Nat) : Option ItemRef :=
  ((p.afterCalls isBadApn k).getNextRetryApnItem isBadApn).1

end

section
variable {isBadApn : ItemRef → Bool} {p : ConnectionRetryPolicy} {k : Nat}

theorem map_goodPlaces :
    (p.goodPlaces isBadApn).map (fun i => p.matchedApns.getD i 0) = p.goodApns isBadApn :=
  Turn.map_seats p.matchedApns isBadApn 0

theorem goodPlaces_ne_nil (h : ∃ r ∈ p.matchedApns, isBadApn r = false) :
    p.goodPlaces isBadApn ≠ [] := by
  obtain ⟨r, hr, hgood⟩ := h
  intro hnil
  have hmem : r ∈ p.goodApns isBadApn := by
    rw [goodApns, List.mem_filter, Bool.not_eq_true']
    exact ⟨hr, hgood⟩
  rw [← map_goodPlaces, hnil] at hmem
  cases hmem

/-- Behind the last item both counters begin again. -/
theorem wrapped_turn : ∃ p' : ConnectionRetryPolicy,
    (if p.matchedApns.length ≤ p.currentApnIndex then { p with currentApnIndex := 0, tryCount := 0 }
      else p) = p' ∧
    (if p.matchedApns.length ≤ p.turn.seat then {} else p.turn) = p'.turn ∧
    p'.matchedApns = p.matchedApns ∧ p'.maxCount = p.maxCount ∧
    (0 < p.matchedApns.length → p'.currentApnIndex < p.matchedApns.length) ∧
    ∀ t, p'.standAt t = p.standAt t := by
  refine ⟨_, rfl, ?_⟩
  unfold turn
  split_ifs with h
  · exact ⟨rfl, rfl, rfl, id, fun _ => rfl⟩
  · exact ⟨rfl, rfl, rfl, fun _ => Nat.lt_of_not_le h, fun _ => rfl⟩

/-- The recursion is the search for the next turn. -/
theorem nextRetryApnItem_of_next {fuel : Nat} {t : Turn} (hlen : 0 < p.matchedApns.length)
    (h : Turn.next p.matchedApns.length (p.isBadAt isBadApn) p.maxCount fuel p.turn = some t) :
    p.nextRetryApnItem isBadApn fuel = (some (p.matchedApns.getD t.seat 0), p.standAt t) := by
  induction fuel generalizing p with
  | zero => cases h
  | succ fuel ih =>
    obtain ⟨p', hp', hturn, hapns, hmax, hlt, hstand⟩ := wrapped_turn (p := p)
    have hi := hlt hlen
    have hget : p'.matchedApns[p'.currentApnIndex]? =
        some (p.matchedApns.getD p'.currentApnIndex 0) := by
      rw [hapns, List.getD_eq_getElem _ _ hi]
      exact List.getElem?_eq_getElem hi
    simp only [Turn.next, hturn] at h
    simp only [nextRetryApnItem, hp', hget, hmax]
    change (if isBadApn (p.matchedApns.getD p'.currentApnIndex 0) = true ∨
      p.maxCount < p'.tryCount + 1 then _ else _) = some t at h
    split_ifs at h ⊢ with hpass
    · have hbad : p'.isBadAt isBadApn = p.isBadAt isBadApn := by
        unfold isBadAt
        rw [hapns]
      rw [← hapns, ← hbad, ← hmax] at h
      have hnext := ih (p := { p' with tryCount := 0, currentApnIndex := p'.currentApnIndex + 1 })
        (hapns ▸ hlen) h
      rw [← hstand t, ← hapns, ← hmax]
      exact hnext
    · obtain rfl := Option.some.inj h
      rw [← hstand, ← hmax]
      rfl

/-- One call takes the next turn, however deep its recursion may go beyond what it needs. -/
theorem getNextRetryApnItem_eq (hmax : 1 ≤ p.maxCount)
    (hgood : ∃ r ∈ p.matchedApns, isBadApn r = false) {t : Turn}
    (ht : p.takeTurn isBadApn = t) :
    p.getNextRetryApnItem isBadApn = (some (p.matchedApns.getD t.seat 0), p.standAt t) ∧
      ∀ fuel, 2 * p.matchedApns.length + 1 ≤ fuel →
        p.nextRetryApnItem isBadApn fuel = p.getNextRetryApnItem isBadApn := by
  have hseats := goodPlaces_ne_nil hgood
  have hlen := Turn.pos_of_seats hseats
  have hnext : ∀ fuel, 2 * p.matchedApns.length + 1 ≤ fuel →
      p.nextRetryApnItem isBadApn fuel = (some (p.matchedApns.getD t.seat 0), p.standAt t) := by
    intro fuel hfuel
    apply nextRetryApnItem_of_next hlen
    rw [Turn.next_eq_after hmax hseats hfuel]
    exact congrArg some ht
  have hcall : p.getNextRetryApnItem isBadApn = p.nextRetryApnItem isBadApn
      (2 * p.matchedApns.length + 2) := by
    unfold getNextRetryApnItem
    refine if_neg fun h => ?_
    obtain ⟨r, hr, hgood⟩ := hgood
    rcases h with hnil | hall
    · rw [hnil] at hr
      cases hr
    · rw [isAllBadApn, List.all_eq_true] at hall
      rw [hall r hr] at hgood
      cases hgood
  rw [hcall, hnext _ (by omega)]
  exact ⟨rfl, hnext⟩

theorem takeTurn_mem (hmax : 1 ≤ p.maxCount) (hgood : ∃ r ∈ p.matchedApns, isBadApn r = false) :
    (p.takeTurn isBadApn).seat < p.matchedApns.length ∧
      isBadApn (p.matchedApns.getD (p.takeTurn isBadApn).seat 0) = false ∧
      (p.takeTurn isBadApn).count ≤ p.maxCount := by
  obtain ⟨hmem, hcount⟩ := Turn.after_served (t := p.turn) hmax (goodPlaces_ne_nil hgood)
  obtain ⟨hlt, hbad⟩ := Turn.mem_seats.mp hmem
  exact ⟨hlt, hbad, hcount⟩

/-- A call changes the counters alone. -/
theorem afterCalls_eq (hmax : 1 ≤ p.maxCount) (hgood : ∃ r ∈ p.matchedApns, isBadApn r = false)
    (k : Nat) : p.afterCalls isBadApn k =
      p.standAt ((Turn.after p.matchedApns.length (p.isBadAt isBadApn) p.maxCount)^[k] p.turn) := by
  induction k with
  | zero => rfl
  | succ k ih =>
    have hsucc : p.afterCalls isBadApn (k + 1) =
        ((p.afterCalls isBadApn k).getNextRetryApnItem isBadApn).2 :=
      Function.iterate_succ_apply' _ _ _
    rw [hsucc, ih, Function.iterate_succ_apply']
    generalize (Turn.after p.matchedApns.length (p.isBadAt isBadApn) p.maxCount)^[k] p.turn = t
    rw [(getNextRetryApnItem_eq (p := p.standAt t) hmax hgood rfl).1]
    rfl

/-- The call after `k` others leaves the index at the place of the item it hands out. -/
theorem handedOut_eq (hmax : 1 ≤ p.maxCount) (hgood : ∃ r ∈ p.matchedApns, isBadApn r = false)
    (k : Nat) : p.handedOut isBadApn k =
      some (p.matchedApns.getD (p.afterCalls isBadApn (k + 1)).currentApnIndex 0) := by
  unfold handedOut
  rw [afterCalls_eq hmax hgood, afterCalls_eq hmax hgood, Function.iterate_succ_apply']
  generalize (Turn.after p.matchedApns.length (p.isBadAt isBadApn) p.maxCount)^[k] p.turn = t
  rw [(getNextRetryApnItem_eq (p := p.standAt t) hmax hgood rfl).1]
  rfl

/-- From a call that takes turn number `m` of a round on, the turns of the round follow. -/
theorem afterCalls_of_takeTurn (hmax : 1 ≤ p.maxCount)
    (hgood : ∃ r ∈ p.matchedApns, isBadApn r = false) {m : Nat} (hm : p.takeTurn isBadApn =
      Turn.turnAt p.matchedApns.length (p.isBadAt isBadApn) p.maxCount m) (k : Nat) :
    p.afterCalls isBadApn (k + 1) =
      p.standAt (Turn.turnAt p.matchedApns.length (p.isBadAt isBadApn) p.maxCount (m + k)) := by
  rw [afterCalls_eq hmax hgood, Function.iterate_succ_apply]
  change p.standAt ((Turn.after _ _ _)^[k] (p.takeTurn isBadApn)) = _
  rw [hm, Turn.iterate_after hmax (goodPlaces_ne_nil hgood)]

/-- Whatever the counters are, a call ends with an item that is not bad and its place; and from the
first place on the items that are not bad are handed out in turn, each `maxCount` times. -/
theorem retry_round_robin (hmax : 1 ≤ p.maxCount)
    (hgood : ∃ r ∈ p.matchedApns, isBadApn r = false) :
    (∃ r p', p.getNextRetryApnItem isBadApn = (some r, p') ∧
      (∀ fuel, 2 * p.matchedApns.length + 1 ≤ fuel →
        p.nextRetryApnItem isBadApn fuel = (some r, p')) ∧
      isBadApn r = false ∧ p'.matchedApns = p.matchedApns ∧
      p.matchedApns[p'.currentApnIndex]? = some r) ∧
    (p.currentApnIndex = 0 → p.tryCount = 0 → ∀ k, p.handedOut isBadApn k =
      (p.goodApns isBadApn)[k / p.maxCount % (p.goodApns isBadApn).length]?) := by
  constructor
  · obtain ⟨hcall, hfuel⟩ := getNextRetryApnItem_eq hmax hgood rfl
    obtain ⟨hlt, hbad, -⟩ := takeTurn_mem hmax hgood
    refine ⟨_, _, hcall, fun fuel h => (hfuel fuel h).trans hcall, hbad, rfl, ?_⟩
    change p.matchedApns[(p.takeTurn isBadApn).seat]? = _
    rw [List.getElem?_eq_getElem hlt, List.getD_eq_getElem _ _ hlt]
  · intro hindex hcount k
    have hseats := goodPlaces_ne_nil hgood
    have hstart : p.takeTurn isBadApn =
        Turn.turnAt p.matchedApns.length (p.isBadAt isBadApn) p.maxCount 0 := by
      unfold takeTurn turn
      rw [hindex, hcount, Turn.after_first hmax hseats (Nat.zero_le _), ite_self]
    have hplace : k / p.maxCount % (p.goodPlaces isBadApn).length <
        (p.goodPlaces isBadApn).length := Nat.mod_lt _ (List.length_pos_iff.mpr hseats)
    rw [handedOut_eq hmax hgood, afterCalls_of_takeTurn hmax hgood hstart, Nat.zero_add,
      ← map_goodPlaces, List.length_map, List.getElem?_map, List.getElem?_eq_getElem hplace,
      Option.map_some, ← List.getD_eq_getElem _ 0 hplace]
    rfl

theorem retry_round_robin_bad : ({ matchedApns := [7, 8, 9] } : ConnectionRetryPolicy).handedOut
    (fun r => r = 8) 12 = some 7 := by
  refine ((retry_round_robin (p := { matchedApns := [7, 8, 9] }) (by decide)
    ⟨7, by decide, by decide⟩).2 rfl rfl 12).trans ?_
  rfl

/-! A list that is installed -/

/-- Calls on a policy. -/
inductive Call
  | getNextRetryApnItem (isBadApn : ItemRef → Bool)
  | setMatchedApns (profileId : ItemRef → Int) (apns : List ItemRef)
  | clearRetryApns
  | initialRetryCountValue

def call (p : ConnectionRetryPolicy) : Call → ConnectionRetryPolicy
  | .getNextRetryApnItem isBadApn => (p.getNextRetryApnItem isBadApn).2
  | .setMatchedApns profileId apns => p.setMatchedApns profileId apns
  | .clearRetryApns => p.clearRetryApns
  | .initialRetryCountValue => p.initialRetryCountValue

def system (maxCount : Nat) : TransitionSystem ConnectionRetryPolicy Call where
  init p := p = { maxCount }
  step c p := some (p.call c)

/-- The call after `k` others hands out the item at the place. -/
def HandsOut (isBadApn : ItemRef → Bool) (p : ConnectionRetryPolicy) (k place : Nat) : Prop :=
  p.handedOut isBadApn k = p.matchedApns[place]? ∧
    (p.afterCalls isBadApn (k + 1)).currentApnIndex = place

/-- The first item that is not bad is handed out `maxCount` times, and then the one that follows. -/
def StartsAfresh (isBadApn : ItemRef → Bool) (p : ConnectionRetryPolicy) : Prop :=
  (∀ k < p.maxCount, HandsOut isBadApn p k ((p.goodPlaces isBadApn).getD 0 0)) ∧
    HandsOut isBadApn p p.maxCount
      ((p.goodPlaces isBadApn).getD (1 % (p.goodPlaces isBadApn).length) 0)

theorem getNextRetryApnItem_count (hmax : 1 ≤ p.maxCount) (hcount : p.tryCount ≤ p.maxCount) :
    (p.getNextRetryApnItem isBadApn).2.maxCount = p.maxCount ∧
      (p.getNextRetryApnItem isBadApn).2.tryCount ≤ p.maxCount := by
  by_cases hgood : ∃ r ∈ p.matchedApns, isBadApn r = false
  · rw [(getNextRetryApnItem_eq hmax hgood rfl).1]
    exact ⟨rfl, (takeTurn_mem hmax hgood).2.2⟩
  · have hall : p.isAllBadApn isBadApn = true := by
      apply List.all_eq_true.mpr
      intro r hr
      by_contra hbad
      exact hgood ⟨r, hr, Bool.not_eq_true _ ▸ hbad⟩
    unfold getNextRetryApnItem
    rw [if_pos (Or.inr hall)]
    exact ⟨rfl, hcount⟩

/-- No item is counted more attempts than its share. -/
theorem reachable_count {maxCount : Nat} (hmax : 1 ≤ maxCount)
    (hp : (system maxCount).Reachable p) : p.maxCount = maxCount ∧ p.tryCount ≤ maxCount := by
  refine hp.invariant (P := fun p => p.maxCount = maxCount ∧ p.tryCount ≤ maxCount) ?_ ?_
  · rintro _ rfl
    exact ⟨rfl, Nat.zero_le _⟩
  · rintro c p p' - ⟨rfl, hcount⟩ hstep
    obtain rfl := Option.some.inj hstep
    cases c with
    | getNextRetryApnItem isBadApn => exact getNextRetryApnItem_count hmax hcount
    | setMatchedApns profileId apns =>
      simp only [call, setMatchedApns]
      split_ifs
      · exact ⟨rfl, hcount⟩
      · exact ⟨rfl, hcount⟩
    | clearRetryApns => exact ⟨rfl, hcount⟩
    | initialRetryCountValue => exact ⟨rfl, Nat.zero_le _⟩

theorem handsOut_iff (hmax : 1 ≤ p.maxCount) (hgood : ∃ r ∈ p.matchedApns, isBadApn r = false)
    {m : Nat} (hm : p.takeTurn isBadApn =
      Turn.turnAt p.matchedApns.length (p.isBadAt isBadApn) p.maxCount m) {place : Nat} :
    HandsOut isBadApn p k place ↔
      (p.goodPlaces isBadApn).getD ((m + k) / p.maxCount % (p.goodPlaces isBadApn).length) 0 =
        place := by
  have hindex : (p.afterCalls isBadApn (k + 1)).currentApnIndex =
      (p.goodPlaces isBadApn).getD ((m + k) / p.maxCount % (p.goodPlaces isBadApn).length) 0 := by
    rw [afterCalls_of_takeTurn hmax hgood hm]
    rfl
  unfold HandsOut
  rw [handedOut_eq hmax hgood, hindex]
  constructor
  · exact fun h => h.2
  · rintro rfl
    refine ⟨?_, rfl⟩
    have hmem := Turn.getD_mod_mem (goodPlaces_ne_nil hgood) ((m + k) / p.maxCount)
    have hlt := (Turn.mem_seats.mp hmem).1
    exact (List.getElem?_eq_getElem hlt).trans
      (congrArg some (List.getD_eq_getElem _ 0 hlt).symm) |>.symm

theorem goodPlaces_inj {i j : Nat} (hi : i < (p.goodPlaces isBadApn).length)
    (hj : j < (p.goodPlaces isBadApn).length) :
    (p.goodPlaces isBadApn).getD i 0 = (p.goodPlaces isBadApn).getD j 0 ↔ i = j := by
  rw [List.getD_eq_getElem _ 0 hi, List.getD_eq_getElem _ 0 hj]
  exact List.Nodup.getElem_inj_iff Turn.seats_nodup

/-- A policy at the first place starts afresh unless attempts are counted there already, and there
is another item to move on to. -/
theorem startsAfresh_iff (hmax : 1 ≤ p.maxCount) (hcount : p.tryCount ≤ p.maxCount)
    (hindex : p.currentApnIndex = 0) (hgood : ∃ r ∈ p.matchedApns, isBadApn r = false) :
    StartsAfresh isBadApn p ↔ p.tryCount = 0 ∨ p.isBadAt isBadApn 0 = true ∨
      (p.goodApns isBadApn).length = 1 := by
  have hseats := goodPlaces_ne_nil hgood
  have hpos := List.length_pos_iff.mpr hseats
  have hlength : (p.goodApns isBadApn).length = (p.goodPlaces isBadApn).length := by
    rw [← map_goodPlaces, List.length_map]
  have hstart : p.takeTurn isBadApn = Turn.turnAt p.matchedApns.length (p.isBadAt isBadApn)
      p.maxCount (if p.isBadAt isBadApn 0 then 0 else p.tryCount) := by
    unfold takeTurn turn
    rw [hindex, Turn.after_first hmax hseats hcount]
  unfold StartsAfresh
  simp only [handsOut_iff hmax hgood hstart, hlength]
  have hfirst : p.tryCount = 0 ∨ p.isBadAt isBadApn 0 = true ↔
      (if p.isBadAt isBadApn 0 then 0 else p.tryCount) = 0 := by
    cases p.isBadAt isBadApn 0 <;> simp
  have hm : (if p.isBadAt isBadApn 0 then 0 else p.tryCount) ≤ p.maxCount := by
    split_ifs
    · exact Nat.zero_le _
    · exact hcount
  rw [← or_assoc, hfirst]
  generalize (if p.isBadAt isBadApn 0 then 0 else p.tryCount) = m at hm ⊢
  constructor
  · rintro ⟨hall, -⟩
    by_contra hother
    obtain ⟨hne, hone⟩ := not_or.mp hother
    have hmoved := hall (p.maxCount - m) (by omega)
    rw [Nat.add_sub_cancel' hm, Nat.div_self hmax, goodPlaces_inj (Nat.mod_lt _ hpos) hpos,
      Nat.mod_eq_of_lt (by omega)] at hmoved
    cases hmoved
  · rintro (rfl | hone)
    · refine ⟨fun k hk => ?_, ?_⟩
      · rw [Nat.zero_add, Nat.div_eq_of_lt hk, Nat.zero_mod]
      · rw [Nat.zero_add, Nat.div_self hmax]
    · rw [hone]
      simp only [Nat.mod_one, implies_true, and_self]

/-- A list that differs from the one before starts afresh exactly when no attempt is counted at that
moment, or its first item is passed over, or there is no other item to move on to. -/
theorem installed_startsAfresh_iff {maxCount : Nat} (hmax : 1 ≤ maxCount)
    (hp : (system maxCount).Reachable p) {profileId : ItemRef → Int} {apns : List ItemRef}
    (hnew : p.matchedApns.map profileId ≠ apns.map profileId)
    (hgood : ∃ r ∈ apns, isBadApn r = false) :
    StartsAfresh isBadApn (p.setMatchedApns profileId apns) ↔ p.tryCount = 0 ∨
      apns.head?.any isBadApn = true ∨ (apns.filter fun r => !isBadApn r).length = 1 := by
  obtain ⟨rfl, hcount⟩ := reachable_count hmax hp
  have heq : p.setMatchedApns profileId apns = { p with currentApnIndex := 0, matchedApns := apns } :=
    if_neg hnew
  have hhead : (p.setMatchedApns profileId apns).isBadAt isBadApn 0 = apns.head?.any isBadApn := by
    rw [heq]
    obtain ⟨r, hr, -⟩ := hgood
    cases apns with
    | nil => cases hr
    | cons a apns => rfl
  rw [← hhead, heq]
  exact startsAfresh_iff hmax hcount rfl hgood

theorem installed_startsAfresh_bad :
    StartsAfresh (fun r => r = 2) (({} : ConnectionRetryPolicy).setMatchedApns Int.ofNat [2, 3]) :=
  (installed_startsAfresh_iff (by decide) (show (system 5).Reachable {} from .init rfl) (by decide)
    ⟨3, by decide, by decide⟩).mpr (.inr (.inl rfl))

/-- One attempt with the item of the old list is counted against the first item of the new one. -/
theorem old_attempt_counted : ∃ p, (system 5).Reachable p ∧ p.matchedApns = [1] ∧
    (∀ k < 4, (p.setMatchedApns Int.ofNat [2, 3]).handedOut (fun _ => false) k = some 2) ∧
    (p.setMatchedApns Int.ofNat [2, 3]).handedOut (fun _ => false) 4 = some 3 ∧
    ¬ StartsAfresh (fun _ => false) (p.setMatchedApns Int.ofNat [2, 3]) := by
  have hrun : (system 5).run
      [.setMatchedApns Int.ofNat [1], .getNextRetryApnItem fun _ => false] {} =
        some { matchedApns := [1], tryCount := 1 } := rfl
  have hp := TransitionSystem.Reachable.run (.init rfl) hrun
  refine ⟨_, hp, rfl, by decide, by decide, fun h => ?_⟩
  exact absurd (h.1 4 (by decide)).1 (by decide)

end
end ConnectionRetryPolicy
end CellularData
