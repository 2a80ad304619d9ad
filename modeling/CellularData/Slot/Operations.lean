import CellularData.Machine.Link
import CellularData.Slot.Gate

/-! The writes of which the handler's functions consist. Statements about what the handler does are
checked write by write. -/
namespace CellularData
open Lib StateMachine Relation

/-- Events that are removed again only by what reads the APN table or the SIM account. -/
def HandlerEvent.isReload : HandlerEvent → Bool
  | .retryToCreateApn | .retryToLoadSimAccount _ => true
  | _ => false

/-- Requests that no statement about the machines, the pushed state or the lent permission reads. -/
def Effect.isOrdinary : Effect → Bool
  | .machine _ _ | .updateCellularDataConnectState _ => false
  | .changeConnectionForDsds _ enable => enable
  | _ => true

namespace Slot

variable {env : Env} {C C' : Slot → Slot → Prop} {s s' : Slot} {t : ApnType}

/-- What `IsSingleConnectionEnabled` answers. -/
def AnswersSingle (env : Env) (s : Slot) : Prop :=
  (s.isSingleConnectionEnabled env env.psRadioTech).2 = true

/-- All members but the switches and the marks of single events. -/
def essence (s : Slot) :=
  (s.slotId, s.queue, s.apnManager, s.apnItems, s.stateMachines, s.cidActiveConnectionMap,
    s.multipleConnectionsEnabled, s.hasIncallDataStateMachine, s.effects, s.connectLog, s.callLog,
    s.apnActivateChrList, s.crash)

/-- The loop at the end of `HandleApnChanged` for one holder. -/
def renewHolder (s : Slot) (t : ApnType) : Slot :=
  let s :=
    if (s.holder t).apnState = .retrying then
      ((s.modifyHolder t fun h => h.initialApnRetryCount).setApnState t .idle).removeEvent
        isRetryToSetupDatacall
    else s
  s.sendEventAfter (.establishDataConnection t.id none) establishDataConnectionDelay

def renewHolders (s : Slot) : Slot := ApnType.all.foldl renewHolder s

/-- The default slot's data is lent to the MMS holder of this slot. -/
def lendDataPermitted (env : Env) (s : Slot) : Slot :=
  (if s.queue.hasInnerEvent isResumeDataPermittedTimeout then s
    else s.sendEventAfter .resumeDataPermittedTimeout resumeDataPermittedTimeout).setDataPermittedForMms
      env true

/-- A write that neither the holders' states nor the machines' automata show. -/
inductive Write (env : Env) : Slot → Slot → Prop
  | other {s s' : Slot} (h : s'.essence = s.essence) : Write env s s'
  | effect {s : Slot} {e : Effect} (he : e.isOrdinary = true) : Write env s (s.effect e)
  | fault {s : Slot} {c : Crash} (hc : c ≠ .nullApnItem) : Write env s (s.setCrash c)
  | push {s : Slot} {t : ApnType} : Write env s (s.updateCellularDataConnectState t)
  | single {s : Slot} {b : Bool}
      (hb : AnswersSingle env { s with multipleConnectionsEnabled := b } ↔ AnswersSingle env s) :
      Write env s { s with multipleConnectionsEnabled := b }
  | configure {s : Slot} :
      Write env s { s with multipleConnectionsEnabled := env.defaultMultipleConnections }
  | holder {s : Slot} {t : ApnType} {f : ApnHolder → ApnHolder}
      (hstate : (f (s.holder t)).apnState = (s.holder t).apnState)
      (howner : (f (s.holder t)).cellularDataStateMachine = (s.holder t).cellularDataStateMachine)
      (hitem : (f (s.holder t)).apnItem = (s.holder t).apnItem)
      (hcap : (f (s.holder t)).capability = (s.holder t).capability)
      (henabled : (f (s.holder t)).dataCallEnabled = true → (s.holder t).dataCallEnabled = true) :
      Write env s (s.modifyHolder t f)
  | machine {s : Slot} {m : MachineRef} {f : CellularDataStateMachine → CellularDataStateMachine}
      (hf : ∀ x, CellularDataStateMachine.Publishes x (f x)) : Write env s (s.callMachine m f)
  | reuse {s : Slot} {m : MachineRef} {t : ApnType}
      (hactive : (s.machine? m).any (·.isActiveState) = true) :
      Write env s (s.callMachine m fun x =>
        (x.setReuseApnCap (s.holder t).capability).setIfReuseSupplierId true)
  | reload {s : Slot} {r : ApnReload} : Write env s (s.applyApnReload r)
  | clearBad {s : Slot} : Write env s s.clearAllApnBad
  | setBad {s : Slot} {t : ApnType} {isBad : Bool} : Write env s (s.setApnBadState t isBad)
  | send {s : Slot} {e : HandlerEvent} (he : e.isNotice = false) : Write env s (s.sendEvent e)
  | sendAfter {s : Slot} {e : HandlerEvent} {delay : Int} (he : e.isNotice = false) :
      Write env s (s.sendEventAfter e delay)
  | remove {s : Slot} {p : HandlerEvent → Bool} (hp : ∀ e, p e = true → e.isReload = true) :
      Write env s (s.removeEvent p)
  | lend {s : Slot} : Write env s (s.lendDataPermitted env)
  | giveBack {s : Slot} : Write env s (s.setDataPermittedForMms env false)
  | incall {s : Slot} : Write env s { s with hasIncallDataStateMachine := true }

/-- A write of the handler; `C` is what it does to open connections. -/
inductive Op (env : Env) (C : Slot → Slot → Prop) : Slot → Slot → Prop
  | write {s s' : Slot} (h : Write env s s') : Op env C s s'
  | disconnect {s : Slot} {t : ApnType} {m : MachineRef} {params : DataDisconnectParams}
      (howner : (s.holder t).cellularDataStateMachine = some m) :
      Op env C s ((s.setApnState t .disconnecting).postMachine m (.disconnect params))
  | reset {s : Slot} {t : ApnType}
      (h : (s.holder t).apnState = .failed ∨ (s.holder t).apnState = .retrying) :
      Op env C s (s.setApnState t .idle)
  | retry {s : Slot} {t : ApnType} {id delay : Int} (h : (s.holder t).apnState = .idle)
      (hid : ApnType.ofId id = some t) (henabled : (s.holder t).dataCallEnabled = true) :
      Op env C s ((s.setApnState t .retrying).sendEventAfter (.retryToSetupDatacall id) delay)
  | renew {s : Slot} : Op env C s s.renewHolders
  | tell {s : Slot} {e : MachineEvent} (he : e.isNews = true) : Op env C s (s.sendToMachines e)
  | search {s : Slot} {t : ApnType} : Op env C s (s.checkForCompatibleDataConnection env t).1
  | connect {s s' : Slot} (h : C s s') : Op env C s s'

def Writes (env : Env) : Slot → Slot → Prop := ReflTransGen (Write env)

def Does (env : Env) (C : Slot → Slot → Prop) : Slot → Slot → Prop := ReflTransGen (Op env C)

/-- The two ways in which the handler tries to connect holders. -/
inductive Establishes (env : Env) : Slot → Slot → Prop
  | attempt {s : Slot} {t : ApnType} (h : (s.holder t).dataCallEnabled = true) :
      Establishes env s (s.attemptEstablishDataConnection env t)
  | all {s : Slot} : Establishes env s (s.establishAllApnsIfConnectable env)

/-- The way that connects all holders, taken by every event but the one that names a holder. -/
inductive EstablishesAll (env : Env) : Slot → Slot → Prop
  | all {s : Slot} : EstablishesAll env s (s.establishAllApnsIfConnectable env)

/-- The idle holder `t` is connected to a machine of its own. -/
inductive Starts (env : Env) (t : ApnType) : Slot → Slot → Prop
  | start {s : Slot} {apnItem : ItemRef} (hidle : (s.holder t).apnState = .idle)
      (hopen : GateOpen env s t)
      (hsingle : AnswersSingle env s → s.apnManager.getOverallApnState ≠ .connecting ∧
        s.apnManager.getOverallApnState ≠ .connected) :
      Starts env t s (s.findOrCreateCellularDataConnect.1.startConnection env t
        s.findOrCreateCellularDataConnect.2 apnItem env.psRadioTech)

def Connects (env : Env) (s s' : Slot) : Prop := ∃ t, Starts env t s s'

/-! Sequences of writes -/

theorem Writes.refl (s : Slot) : Writes env s s := ReflTransGen.refl

theorem Write.writes (h : Write env s s') : Writes env s s' := .single h

theorem Writes.trans {s'' : Slot} (h : Writes env s s') (h' : Writes env s' s'') :
    Writes env s s'' := ReflTransGen.trans h h'

theorem Writes.foldl {α : Type} {f : Slot → α → Slot} (hf : ∀ s a, Writes env s (f s a))
    (l : List α) (s : Slot) : Writes env s (l.foldl f s) := by
  induction l generalizing s with
  | nil => exact .refl s
  | cons a l ih => exact (hf s a).trans (ih _)

theorem Does.refl (s : Slot) : Does env C s s := ReflTransGen.refl

theorem Op.does (h : Op env C s s') : Does env C s s' := .single h

theorem Does.trans {s'' : Slot} (h : Does env C s s') (h' : Does env C s' s'') :
    Does env C s s'' := ReflTransGen.trans h h'

theorem Does.foldl {α : Type} {f : Slot → α → Slot} (hf : ∀ s a, Does env C s (f s a))
    (l : List α) (s : Slot) : Does env C s (l.foldl f s) := by
  induction l generalizing s with
  | nil => exact .refl s
  | cons a l ih => exact (hf s a).trans (ih _)

theorem Writes.does (h : Writes env s s') : Does env C s s' := by
  induction h with
  | refl => exact .refl s
  | tail _ hw ih => exact ih.trans (Op.write hw).does

/-- What every write keeps. -/
theorem Writes.invariant {P : Slot → Prop} (hwrite : ∀ s s', P s → Write env s s' → P s')
    (h : Writes env s s') (hs : P s) : P s' := reflTransGen_invariant hwrite h hs

theorem Does.invariant {P : Slot → Prop} (hop : ∀ s s', P s → Op env C s s' → P s')
    (h : Does env C s s') (hs : P s) : P s' := reflTransGen_invariant hop h hs

/-- What opens connections may itself be taken apart. -/
theorem Does.bind (h : Does env C s s') (hC : ∀ s s', C s s' → Does env C' s s') :
    Does env C' s s' := by
  induction h with
  | refl => exact .refl s
  | tail _ hop ih =>
    refine ih.trans ?_
    cases hop with
    | write h => exact (Op.write h).does
    | disconnect howner => exact (Op.disconnect howner).does
    | reset h => exact (Op.reset h).does
    | retry h hid henabled => exact (Op.retry h hid henabled).does
    | renew => exact Op.renew.does
    | tell he => exact (Op.tell he).does
    | search => exact Op.search.does
    | connect h => exact hC _ _ h

theorem EstablishesAll.establishes (h : EstablishesAll env s s') : Establishes env s s' := by
  cases h with
  | all => exact .all

theorem Does.establishes (h : Does env (EstablishesAll env) s s') :
    Does env (Establishes env) s s' :=
  h.bind fun _ _ hall => (Op.connect hall.establishes).does

/-! What the abstract slot sees of them -/

theorem hidden_applyApnReload (r : ApnReload) : Hidden s (s.applyApnReload r) := by
  unfold applyApnReload
  split <;> exact .of_visible rfl

theorem hidden_setApnBadState (isBad : Bool) : Hidden s (s.setApnBadState t isBad) := by
  unfold setApnBadState
  split
  · exact .of_visible rfl
  · exact .refl s

theorem hidden_lendDataPermitted : Hidden s (s.lendDataPermitted env) := by
  unfold lendDataPermitted
  split_ifs
  · exact hidden_setDataPermittedForMms _
  · exact (hidden_sendEventAfter rfl _).trans (hidden_setDataPermittedForMms _)

theorem notice_of_isReload {e : HandlerEvent} (he : e.isReload = true) : e.isNotice = false := by
  cases e <;> first | rfl | cases he

theorem not_isReload_of_notice {p : HandlerEvent → Bool}
    (hp : ∀ e, p e = true → e.isReload = true) (e : HandlerEvent) (he : e.isNotice = true) :
    p e = false := by
  cases h : p e with
  | false => rfl
  | true =>
    rw [notice_of_isReload (hp e h)] at he
    cases he

theorem Write.hidden (h : Write env s s') : Hidden s s' := by
  cases h with
  | other h =>
    refine .of_visible ?_
    simp only [essence, Prod.mk.injEq] at h
    obtain ⟨-, hqueue, hmanager, -, hmachines, hmap, -, -, -, hconnect, hcall, -⟩ := h
    simp only [visible, hqueue, hmanager, hmachines, hmap, hconnect, hcall]
  | effect he => exact hidden_effect _
  | single hb => exact .of_visible rfl
  | configure => exact .of_visible rfl
  | holder hstate howner hitem hcap henabled => exact hidden_modifyHolder _ hstate howner
  | fault hc => exact hidden_setCrash _
  | push => exact hidden_updateCellularDataConnectState _
  | machine hf => exact hidden_callMachine _ fun x => (hf x).unchanged
  | reuse hactive =>
    exact hidden_callMachine _ fun x => (CellularDataStateMachine.unchanged_modifyLink _).trans
      (CellularDataStateMachine.unchanged_setIfReuseSupplierId true)
  | reload => exact hidden_applyApnReload _
  | clearBad => exact .of_visible rfl
  | setBad => exact hidden_setApnBadState _
  | send he => exact hidden_sendEvent he
  | sendAfter he => exact hidden_sendEventAfter he _
  | remove hp => exact hidden_removeEvent (not_isReload_of_notice hp)
  | lend => exact hidden_lendDataPermitted
  | giveBack => exact hidden_setDataPermittedForMms _
  | incall => exact .of_visible rfl

/-- What every iteration of the loop keeps. -/
theorem renewHolders_invariant {P : Slot → Prop} (hP : ∀ s t, P s → P (s.renewHolder t))
    (hs : P s) : P s.renewHolders :=
  List.foldlRecOn ApnType.all renewHolder hs fun s h t _ => hP s t h

theorem apply_renewHolders {α : Type*} (g : Slot → α) (hg : ∀ s t, g (s.renewHolder t) = g s)
    (s : Slot) : g s.renewHolders = g s :=
  apply_foldl g hg ApnType.all s

theorem marks_renewHolders (s : Slot) : s.renewHolders.marks = s.marks := by
  refine apply_renewHolders marks (fun s t => ?_) s
  unfold renewHolder
  split_ifs
  · rfl
  · rfl

theorem Connects.marks (h : Connects env s s') : s'.marks = s.marks := by
  obtain ⟨t, hs⟩ := h
  cases hs with
  | start hidle hopen hsingle =>
    exact (marks_startConnection t _ _ _).trans marks_findOrCreateCellularDataConnect

theorem Writes.hidden (h : Writes env s s') : Hidden s s' := by
  induction h with
  | refl => exact .refl s
  | tail _ hw ih => exact ih.trans hw.hidden

end Slot
end CellularData
