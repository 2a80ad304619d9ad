import CellularData.Slot.Registry

/-! Completions on their way to the handler: each is for a holder that still has its machine. -/
namespace CellularData
open Lib StateMachine Relation

namespace Core

variable {k k' : Core} {t : ApnType} {m : MachineRef} {c c' : Control}

/-- The holder of a completion that waits has a machine, and the completion comes before the report of
the end of that connection. -/
structure Completing (k : Core) : Prop where
  owner : ∀ info, .establishDataConnectionComplete info ∈ k.notices →
    ∃ t : ApnType, info.flag = t.id ∧ k.owner t ≠ none
  order : k.notices.Pairwise fun a b =>
    ∀ info, b = .establishDataConnectionComplete info → a.isEnd info.flag = false

theorem Completing.still (h : k.Completing) (howner : k'.owner = k.owner)
    (hnotices : k'.notices <:+ k.notices) : k'.Completing where
  owner info hmem := by
    rw [howner]
    exact h.owner info (hnotices.subset hmem)
  order := h.order.sublist hnotices.sublist

theorem Completing.engages (h : k.Completing) (he : Engages k k' t m) : k'.Completing where
  owner info hmem := by
    obtain ⟨u, hflag, hu⟩ := h.owner info (he.notices ▸ hmem)
    have hne : u ≠ t := by
      intro heq
      exact hu (heq ▸ he.vacant)
    refine ⟨u, hflag, ?_⟩
    rw [he.owner u hne]
    exact hu
  order := he.notices ▸ h.order

theorem Completing.releases (h : k.Completing) {info : SetupDataCallResultInfo}
    (hr : Releases k k' info t m c) : k'.Completing := by
  have horder := h.order
  rw [hr.notices, List.pairwise_cons] at horder
  constructor
  · intro info' hmem
    obtain ⟨u, hflag, hu⟩ := h.owner info' (hr.notices ▸ List.mem_cons_of_mem _ hmem)
    have hne : u ≠ t := by
      intro heq
      have hend := horder.1 _ hmem info' rfl
      simp [HandlerEvent.isEnd, hr.flag, hflag, heq] at hend
    refine ⟨u, hflag, ?_⟩
    rw [hr.owner, if_neg hne]
    exact hu
  · exact horder.2

/-- Reports that are no completions may be added. -/
theorem Completing.append (h : k.Completing) (howner : k'.owner = k.owner) {es : List HandlerEvent}
    (hnotices : k'.notices = k.notices ++ es)
    (hes : ∀ info, .establishDataConnectionComplete info ∉ es) : k'.Completing := by
  constructor
  · intro info hmem
    rw [hnotices] at hmem
    rw [howner]
    exact h.owner info ((List.mem_append.mp hmem).resolve_right (hes info))
  · rw [hnotices]
    refine List.pairwise_append.mpr ⟨h.order, List.pairwise_of_forall_mem_list ?_, ?_⟩
    · intro a _ b hb info heq
      exact absurd (heq ▸ hb) (hes info)
    · intro a _ b hb info heq
      exact absurd (heq ▸ hb) (hes info)

theorem Completing.dispatch (h : k.Completing) (hw : k.WellFormed) (ho : k.Owned)
    {env : MachineEnv} {e : MachineEvent} {q : EventQueue MachineEvent} {os : List MachineOutput}
    (hm : k.controls[m]? = some c) (hnext : c.queue.next = some (e, q))
    (ht : Control.Transition env { c with queue := q } e c' os) :
    Completing (os.foldl (fun k o => k.receive m o)
      { k.logMachineEvent m c e with controls := k.controls.set m c' }) := by
  have hmem := List.mem_of_getElem? hm
  obtain ⟨-, hp⟩ := (ho.sound c hmem).single.transition (hw c hmem) hnext ht
  obtain ⟨k', heq, -, howner, -, hnotices⟩ := dispatch_frame k m c c' e os
  rw [← heq]
  cases hp with
  | keep _ _ _ hcomplete hdisconnect =>
    rw [filterMap_notice_eq_nil hcomplete hdisconnect] at hnotices
    exact h.append howner hnotices fun _ => List.not_mem_nil
  | @complete info _ _ hos hflag =>
    subst hos
    obtain ⟨t, hown⟩ := ho.owned m c hm (hflag ▸ Option.some_ne_none _)
    obtain ⟨hends, ha⟩ := ho.attempt hown hm (hflag ▸ Option.some_ne_none _)
    have hid : info.flag = t.id := Option.some.inj (hflag.symm.trans ha)
    have hadded : k'.notices = k.notices ++ [.establishDataConnectionComplete info] := hnotices
    constructor
    · intro info' hmem'
      rw [hadded] at hmem'
      rw [howner]
      rcases List.mem_append.mp hmem' with hmem' | hmem'
      · exact h.owner info' hmem'
      · obtain rfl := HandlerEvent.establishDataConnectionComplete.inj (List.mem_singleton.mp hmem')
        exact ⟨t, hid, hown ▸ Option.some_ne_none _⟩
    · rw [hadded]
      refine List.pairwise_append.mpr ⟨h.order, List.pairwise_singleton _ _, ?_⟩
      intro a ha' b hb info' heq'
      subst heq'
      obtain rfl := HandlerEvent.establishDataConnectionComplete.inj (List.mem_singleton.mp hb)
      rw [hid]
      simpa using List.countP_eq_zero.mp hends a ha'
  | finish _ _ hos =>
    subst hos
    refine h.append howner hnotices fun info' hmem' => ?_
    cases List.mem_singleton.mp hmem'

theorem Completing.report (h : k.Completing) (dcList : List SetupDataCallResultInfo) :
    (k.radioDataCallListChanged dcList).Completing := by
  refine report_invariant (P := Completing) (fun k info _ hk => ?_) (fun k m _ hk => ?_)
    (fun k cid hk => hk.still rfl (List.suffix_refl _)) h
  · refine relayDataCall_invariant hk fun _ => hk.append rfl rfl fun info' hmem => ?_
    cases List.mem_singleton.mp hmem
  · exact loseConnection_invariant hk (fun _ => hk.still rfl (List.suffix_refl _)) dcList

end Core

namespace Slot

variable {s : Slot} {t : ApnType} {info : SetupDataCallResultInfo} {q : EventQueue HandlerEvent}

theorem reachable_completing (h : system.Reachable s) : s.core.Completing := by
  refine calls_invariant h ⟨fun _ hmem => absurd hmem List.not_mem_nil, .nil⟩
    (fun k k' _ _ hp ha => ?_) fun l s k _ hw ho _ hp _ ht => ?_
  · rcases ha with hc | ⟨t, m, he⟩
    · exact hp.still hc.owner hc.notices
    · exact hp.engages he
  · generalize s.cue l = cue at ht
    cases ht with
    | calm hc => exact hp.still hc.owner hc.notices
    | releases hr => exact hp.releases hr
    | dispatch hm hnext ht => exact hp.dispatch hw ho hm hnext ht
    | report => exact hp.report _

/-- A completion is taken while its holder has its machine. -/
theorem owner_of_completion (h : system.Reachable s)
    (hnext : s.queue.next = some (.establishDataConnectionComplete info, q))
    (ht : apnHolderByName info.flag = some t) :
    ∃ m, (s.holder t).cellularDataStateMachine = some m := by
  obtain ⟨hready, -⟩ := next_ready (reachable_regular h).1 hnext
  obtain ⟨hnotices, -⟩ := core_takeNotice hready rfl
  obtain ⟨u, hflag, howner⟩ :=
    (reachable_completing h).owner info (hnotices ▸ List.mem_cons_self)
  rw [hflag, apnHolderByName_id] at ht
  obtain rfl := Option.some.inj ht
  exact Option.ne_none_iff_exists'.mp howner

/-- The end of a connection is taken while its holder has its machine. -/
theorem owner_of_end (h : system.Reachable s)
    (hnext : s.queue.next = some (.disconnectDataComplete info, q))
    (ht : ApnType.ofId info.flag = some t) :
    ∃ m, (s.holder t).cellularDataStateMachine = some m := by
  obtain ⟨hready, -⟩ := next_ready (reachable_regular h).1 hnext
  obtain ⟨hnotices, -⟩ := core_takeNotice hready rfl
  have hend : 0 < s.core.ends t := by
    rw [Core.ends_cons hnotices, if_pos]
    · omega
    · exact decide_eq_true (ApnType.id_of_ofId ht).symm
  apply Option.ne_none_iff_exists'.mp
  intro hnone
  have hnoend := (((reachable_owned h).linked t).of_owner_none hnone).1
  omega

end Slot
end CellularData
