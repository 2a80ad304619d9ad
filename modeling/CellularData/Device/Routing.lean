import CellularData.Agent.Routing
import CellularData.Device.Requests
import CellularData.Device.Switching

/-! Requests for networks find the slot whose SIM they name. -/
namespace CellularData
open Lib

namespace CellularDataNetAgent

variable {snssai6 : Nat} {env : AgentEnv} {a : CellularDataNetAgent}

theorem serve_fst (labels : List AgentLabel) : (a.serve snssai6 env labels).1 =
    (labels.map fun l => (env, l)).foldl (after snssai6) a := by
  unfold serve
  rw [List.foldl_map]
  refine (List.foldl_hom Prod.fst fun r l => ?_).symm
  cases l <;> rfl

end CellularDataNetAgent

namespace Device

variable {caps : CapabilityNumbers} {e : CallEnv} {slotId i simId : Int} {k : Nat} {d d' : Device}
  {s s' : Slot} {L : DeviceLabel} {H : List (DeviceLabel × Device)}

/-! Idents -/

/-- The ident under which the suppliers of a SIM are registered with the net manager. -/
def ident (simId : Nat) : List Char := identPrefix ++ Nat.toDigits 10 simId

theorem decimalValue_toDigits (n : Nat) : decimalValue (Nat.toDigits 10 n) = n := by
  have hdigits : Nat.ofDigitChars 10 (Nat.toDigits 10 n) 0 = n := Nat.ofDigitChars_ten_toDigits
  rwa [Nat.ofDigitChars_eq_foldl] at hdigits

theorem isDecValue_toDigits (n : Nat) : isDecValue (String.ofList (Nat.toDigits 10 n)) = true := by
  unfold isDecValue
  rw [String.toList_ofList]
  have hne : Nat.toDigits 10 n ≠ [] := Nat.toDigits_ne_nil
  have hall : (Nat.toDigits 10 n).all Char.isDigit = true := by
    rw [List.all_eq_true]
    intro c hc
    exact Nat.isDigit_of_mem_toDigits (by decide) (by decide) hc
  simp [hne, hall]

/-- The service reads the SIM id back out of the ident. -/
theorem identSimId_ident (hk : k < 2 ^ 31) : identSimId (ident k) = .simId k := by
  have hdrop : (ident k).drop identPrefix.length = Nat.toDigits 10 k := List.drop_left
  have hlength : ¬ (ident k).length < identPrefix.length := by
    unfold ident
    rw [List.length_append]
    omega
  unfold identSimId
  rw [if_neg hlength]
  simp only [hdrop, isDecValue_toDigits, decimalValue_toDigits]
  rw [if_neg (by simp), if_neg (by omega)]

/-! The agent of the device -/

/-- The calls of the agent in a step. -/
def agentCalls (L : DeviceLabel) (d : Device) : List (AgentEnv × CellularDataNetAgent.AgentLabel) :=
  match L with
  | .dispatchHandler slotId env _ a =>
    ((d.handler slotId).toList.flatMap (Slot.nextAgentCalls env)).map fun l =>
      ({ a with simId := env.simId }, l)
  | .netConnManagerAdded slotId e a => [({ a with simId := (e.slot slotId).simId }, .register slotId)]
  | _ => []

/-- The calls of the agent in a run, each with the agent before it, the last one first. -/
def agentHistory (caps : CapabilityNumbers) : List (DeviceLabel × Device) →
    List ((AgentEnv × CellularDataNetAgent.AgentLabel) × CellularDataNetAgent)
  | [] => []
  | (L, d) :: H => CellularDataNetAgent.callsFrom caps.snssai6 (agentCalls L d) d.netAgent ++ agentHistory caps H

/-- The agent has asked the net manager to register suppliers of the slot under the SIM id, and since
then neither to register them under another one nor to unregister them. The answers of the net manager
do not matter. -/
def AskedAs (caps : CapabilityNumbers) (i simId : Int) (H : List (DeviceLabel × Device)) : Prop :=
  Standing (CellularDataNetAgent.AsksToRegister caps.snssai6 i simId)
    (CellularDataNetAgent.AsksToReplace caps.snssai6 i simId) (agentHistory caps H)

instance : Decidable (AskedAs caps i simId H) :=
  inferInstanceAs (Decidable (Standing _ _ _))

theorem netAgent_changeConnectionForDsds (enable : Bool) :
    (changeConnectionForDsds e i enable d).1.netAgent = d.netAgent := by
  unfold changeConnectionForDsds
  split
  · rfl
  · split
    · rfl
    · rfl

theorem netAgent_settle : (d.settle e i s s').netAgent = d.netAgent := by
  unfold settle
  apply List.foldlRecOn (newEffects s s') (deliver e i) (motive := fun d' => d'.netAgent = d.netAgent)
  · rfl
  · intro d' h effect _
    cases effect with
    | changeConnectionForDsds j enable => exact (netAgent_changeConnectionForDsds enable).trans h
    | _ => exact h

/-- A call that leaves the agent's map alone. -/
def KeepsMap (d : Device) (r : Device × ServiceReply) : Prop :=
  r.1.netAgent.slotIdSimId = d.netAgent.slotIdSimId

theorem KeepsMap.checked {systemApi : Bool} {p : Permission} {call : Device × ServiceReply}
    (h : KeepsMap d call) : KeepsMap d (d.checked e systemApi p call) := by
  unfold Device.checked
  split_ifs
  · rfl
  · exact h
  · rfl

theorem KeepsMap.withController {missing : ServiceCode}
    {call : CellularDataController → Device × ServiceReply} (h : ∀ c, KeepsMap d (call c)) :
    KeepsMap d (d.withController slotId missing call) := by
  unfold Device.withController
  split
  · rfl
  · exact h _

theorem KeepsMap.callHandler {failed : ServiceReply} {call : Slot → Slot × ServiceReply}
    (c : CellularDataController) : KeepsMap d (d.callHandler e slotId failed call c) := by
  unfold Device.callHandler
  split
  · rfl
  · exact congrArg (·.slotIdSimId) netAgent_settle

theorem keepsMap_serve (c : ServiceCall) : KeepsMap d (d.serve caps e c) := by
  cases c with
  | enableCellularData enable =>
    refine .checked (.withController fun c => ?_)
    split_ifs
    · rfl
    · rfl
    · exact .callHandler c
  | getCellularDataSupplierId slotId capability =>
    apply KeepsMap.checked
    split_ifs
    · rfl
    · rfl
  | getSupplierRegisterState supplierId =>
    apply KeepsMap.checked
    split
    · rfl
    · rfl
  | establishAllApnsIfConnectable slotId =>
    refine .checked (.withController fun c => ?_)
    split_ifs
    · rfl
    · rfl
    · exact .callHandler c
  | initCellularDataController slotId =>
    apply KeepsMap.checked
    split_ifs
    · rfl
    · rfl
  | hasInternetCapability slotId cid => exact .withController .callHandler
  | _ => exact .checked (.withController .callHandler)

theorem slotIdSimId_step (hstep : step caps L d = some d') : d'.netAgent.slotIdSimId =
    ((agentCalls L d).foldl (CellularDataNetAgent.after caps.snssai6) d.netAgent).slotIdSimId := by
  cases L with
  | asynchronousRegister slotId env holders =>
    simp only [step, asynchronousRegister] at hstep
    split at hstep
    · split_ifs at hstep
      obtain rfl := Option.some.inj hstep
      rfl
    · cases hstep
  | dispatchHandler slotId env e a =>
    obtain ⟨s, hs, hstep⟩ := Option.bind_eq_some_iff.mp hstep
    obtain ⟨s', -, rfl⟩ := Option.map_eq_some_iff.mp hstep
    have hcalls : agentCalls (.dispatchHandler slotId env e a) d =
        (s.nextAgentCalls env).map fun l => ({ a with simId := env.simId }, l) := by
      simp [agentCalls, hs]
    rw [netAgent_settle, hcalls, ← CellularDataNetAgent.serve_fst]
    rfl
  | slot slotId l e =>
    simp only [step] at hstep
    split_ifs at hstep
    obtain ⟨s, -, hstep⟩ := Option.bind_eq_some_iff.mp hstep
    obtain ⟨s', -, rfl⟩ := Option.map_eq_some_iff.mp hstep
    rw [netAgent_settle]
    rfl
  | netConnManagerAdded slotId e a =>
    obtain ⟨s, -, rfl⟩ := Option.map_eq_some_iff.mp hstep
    rw [netAgent_settle]
    rfl
  | service c e =>
    obtain rfl := Option.some.inj hstep
    exact keepsMap_serve c
  | networkCallback isRequest request e =>
    obtain ⟨r, hr, rfl⟩ := Option.map_eq_some_iff.mp hstep
    unfold networkCallback at hr
    split_ifs at hr
    · obtain rfl := Option.some.inj hr
      rfl
    · split at hr
      · obtain rfl := Option.some.inj hr
        rfl
      · cases hr
      · obtain rfl := Option.some.inj hr
        exact KeepsMap.withController .callHandler
  | netStrategySwitch simId enable e =>
    obtain rfl := Option.some.inj hstep
    change KeepsMap d _
    unfold netStrategySwitch
    split
    · rfl
    · extract_lets netSimId
      split
      · exact .withController .callHandler
      · rfl

/-- The agent's map has a slot under a SIM id exactly when it has last been asked for so. -/
theorem slotIdSimId_iff (hh : (system caps).History H d) :
    d.netAgent.slotIdSimId[i]? = some simId ↔ AskedAs caps i simId H := by
  induction hh with
  | init hd =>
    obtain ⟨simNum, tstsModeEnabled, netCapabilities, rfl⟩ := hd
    refine iff_of_false ?_ id
    change (∅ : Std.TreeMap Int Int)[i]? ≠ some simId
    rw [Std.TreeMap.getElem?_emptyc]
    exact nofun
  | step hh hstep ih =>
    rw [slotIdSimId_step hstep]
    exact CellularDataNetAgent.slotIdSimId_foldl ih

/-! Requests -/

/-- The first slot of those that have last been asked for under the SIM id. -/
def FirstAsked (caps : CapabilityNumbers) (i simId : Int) (H : List (DeviceLabel × Device)) : Prop :=
  AskedAs caps i simId H ∧ ∀ j < i, ¬ AskedAs caps j simId H

theorem getSlotId_eq_iff (hh : (system caps).History H d) (hi : i ≠ -1) :
    d.netAgent.getSlotId simId = i ↔ FirstAsked caps i simId H := by
  rw [CellularDataNetAgent.getSlotId_eq_iff hi]
  simp only [slotIdSimId_iff hh, ne_eq]
  rfl

/-- A handler asks the agent about its own slot. -/
theorem slot_of_register {env : Env} (h : .register i ∈ s.nextAgentCalls env) : i = s.slotId := by
  unfold Slot.nextAgentCalls at h
  cases hnext : s.queue.next with
  | none =>
    rw [hnext] at h
    cases h
  | some p =>
    obtain ⟨event, queue⟩ := p
    rw [hnext] at h
    dsimp only at h
    unfold Slot.netAgentCalls at h
    split at h
    · split_ifs at h
      · simpa using h
      · cases h
    · split_ifs at h
      · simp at h
      · cases h
    · split_ifs at h
      · cases h
      · simpa using h
      · cases h
    · cases h

/-- The slots that the agent has in its map have a handler. -/
theorem handler_of_slotIdSimId (hd : (system caps).Reachable d)
    (hi : d.netAgent.slotIdSimId[i]? = some simId) : (d.handler i).isSome = true := by
  have hall : ∀ i simId, d.netAgent.slotIdSimId[i]? = some simId → (d.handler i).isSome = true := by
    refine hd.invariant (P := fun d => ∀ i simId, d.netAgent.slotIdSimId[i]? = some simId →
      (d.handler i).isSome = true) ?_ ?_
    · rintro d ⟨simNum, tstsModeEnabled, netCapabilities, rfl⟩ i simId hi
      change (∅ : Std.TreeMap Int Int)[i]? = some simId at hi
      rw [Std.TreeMap.getElem?_emptyc] at hi
      cases hi
    · intro L d d' hreach ih hstep i simId hi
      have hbefore : (d.handler i).isSome = true := by
        rw [slotIdSimId_step hstep] at hi
        rcases CellularDataNetAgent.of_slotIdSimId_foldl hi with hi | ⟨c, hc, hregister⟩
        · exact ih i simId hi
        · cases L with
          | dispatchHandler slotId env e a =>
            obtain ⟨l, hl, rfl⟩ := List.mem_map.mp hc
            obtain ⟨s, hs, hl⟩ := List.mem_flatMap.mp hl
            have hhandler : d.handler slotId = some s := Option.mem_toList.mp hs
            obtain rfl : l = .register i := hregister
            have hself : i = s.slotId := slot_of_register hl
            have hkey : s.slotId = slotId := (reachable_ordered hreach slotId s hhandler).1
            rw [hself, hkey, hhandler]
            rfl
          | netConnManagerAdded slotId e a =>
            obtain rfl := List.mem_singleton.mp hc
            obtain rfl : slotId = i := CellularDataNetAgent.AgentLabel.register.inj hregister
            obtain ⟨s, hs, -⟩ := Option.map_eq_some_iff.mp hstep
            exact Option.isSome_iff_exists.mpr ⟨s, hs⟩
          | _ => cases hc
      obtain ⟨s, hs⟩ := Option.isSome_iff_exists.mp hbefore
      obtain ⟨s', hs', -⟩ := slot_moves hstep hs
      exact Option.isSome_iff_exists.mpr ⟨s', hs'⟩
  exact hall i simId hi

/-- What a request or a release with an ident does to the queue of a slot. -/
theorem waitingRequests_callback {isRequest : Bool} {request : NetworkRequest}
    (hh : (system caps).History H d) (hcaps : request.netCaps ≠ []) (hk : k < 2 ^ 31)
    (hident : request.ident = ident k)
    (hstep : step caps (.networkCallback isRequest request e) d = some d')
    (hs : d.handler i = some s) (hs' : d'.handler i = some s') :
    (FirstAsked caps i k H ∧ ¬ (isRequest = true ∧ e.powerSaveMode = true) →
      s'.waitingRequests = s.waitingRequests ++
        [.requestNetwork ⟨findBestCapability request.netCaps, request.bearTypes⟩ isRequest]) ∧
    (¬ FirstAsked caps i k H ∨ isRequest = true ∧ e.powerSaveMode = true →
      s'.waitingRequests = s.waitingRequests) := by
  have hi : i ≠ -1 := by
    have hpos := (handler_eq_some_iff.mp hs).1.1
    omega
  have hsim : identSimId request.ident = .simId k := by rw [hident, identSimId_ident hk]
  have hslot : d.netAgent.getSlotId k = i ↔ FirstAsked caps i k H := getSlotId_eq_iff hh hi
  have hreach : Slot.system.Reachable s := reachable_handler hh.reachable hs
  obtain ⟨t, ht, hmoves⟩ := slot_moves hstep hs
  obtain rfl := Option.some.inj (ht.symm.trans hs')
  have hwaiting := requests_slot_step hreach hs hmoves
  have hserved : servedBy i (.networkCallback isRequest request e) d = [] := rfl
  rw [hserved, List.nil_append] at hwaiting
  constructor
  · rintro ⟨hfirst, hsave⟩
    have hrouted : routedBy i (.networkCallback isRequest request e) d =
        [.requestNetwork ⟨findBestCapability request.netCaps, request.bearTypes⟩ isRequest] := by
      simp only [routedBy, hsim]
      exact if_pos ⟨hcaps, hslot.mpr hfirst, by rw [hs]; rfl, hsave⟩
    rw [hwaiting, hrouted]
  · intro hno
    have hrouted : routedBy i (.networkCallback isRequest request e) d = [] := by
      simp only [routedBy, hsim]
      apply if_neg
      rintro ⟨-, hgoes, -, hsave⟩
      rcases hno with hfirst | hsaves
      · exact hfirst (hslot.mp hgoes)
      · exact hsave hsaves
    rw [hwaiting, hrouted, List.append_nil]

end Device
end CellularData
