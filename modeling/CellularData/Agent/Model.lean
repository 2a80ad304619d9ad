import Mathlib.Data.List.Nodup
import CellularData.Lib.TransitionSystem

/-! The agent of the net manager: the network suppliers of all slots and their registrations. -/
namespace CellularData
open Std

structure NetSupplier where
  supplierId : Nat := 0
  capability : Nat := 0
  slotId : Int := 0
  simId : Int := 0
  regState : Int := -1
deriving DecidableEq, Repr

/-- What the net manager holds on account of a supplier. -/
structure Registration where
  supplierId : Nat
  slotId : Int
  capability : Nat
  simId : Int
deriving DecidableEq, Repr

/-- What one call of the agent reads: the SIM id of the slot, and for each capability the answers of
the net manager, which numbers its suppliers from 1. -/
structure AgentEnv where
  simId : Int
  registerNetSupplier : Nat → Option Nat
  unregisterNetSupplier : Nat → Bool
  updateNetSupplierInfo : Nat → Int := fun _ => 0
  supplierId_ne_zero : ∀ c, registerNetSupplier c ≠ some 0

/-- The tables that a loop over the suppliers changes besides them. `registrations` stands for the
net manager. -/
structure AgentTables where
  slotIdSimId : TreeMap Int Int := ∅
  registrations : List Registration := []

structure CellularDataNetAgent extends AgentTables where
  netSuppliers : List NetSupplier := []

namespace CellularDataNetAgent

/-- A loop over the suppliers that changes each of them in its turn. -/
def forSuppliers {σ : Type} (f : σ → NetSupplier → σ × NetSupplier) :
    σ → List NetSupplier → σ × List NetSupplier
  | s, [] => (s, [])
  | s, x :: xs =>
    let (s, x) := f s x
    let (s, xs) := forSuppliers f s xs
    (s, x :: xs)

section
variable (snssai6 : Nat) (env : AgentEnv) (slotId : Int)

/-- The body of the loop of `RegisterNetSupplier`, with its flag. -/
def registerOne (t : AgentTables × Bool) (x : NetSupplier) : (AgentTables × Bool) × NetSupplier :=
  if x.slotId ≠ slotId then (t, x)
  else if snssai6 < x.capability then (t, x)
  else if env.simId ≤ 0 then (t, x)
  else
    let (tables, flag) := t
    -- the map is written before the net manager has answered
    let tables := { tables with slotIdSimId := tables.slotIdSimId.insert slotId env.simId }
    match env.registerNetSupplier x.capability with
    | none => ((tables, flag), x)
    | some supplierId =>
      let r : Registration :=
        { supplierId, slotId := x.slotId, capability := x.capability, simId := env.simId }
      (({ tables with registrations := r :: tables.registrations }, true),
        { x with
          supplierId
          simId := env.simId
          regState := env.updateNetSupplierInfo x.capability })

def registerNetSupplier (a : CellularDataNetAgent) : CellularDataNetAgent × Bool :=
  let ((tables, flag), netSuppliers) :=
    forSuppliers (registerOne snssai6 env slotId) (a.toAgentTables, false) a.netSuppliers
  ({ tables with netSuppliers }, flag)

/-- The body of the loop of `UnregisterNetSupplierForSimUpdate`. -/
def unregisterOne (t : AgentTables) (x : NetSupplier) : AgentTables × NetSupplier :=
  if x.slotId ≠ slotId ∨ x.simId ≤ 0 then (t, x)
  else
    let t := { t with slotIdSimId := t.slotIdSimId.erase slotId }
    if env.unregisterNetSupplier x.capability then
      ({ t with registrations := t.registrations.filter fun r => r.supplierId ≠ x.supplierId },
        { x with simId := 0 })
    else (t, x)

def unregisterNetSupplierForSimUpdate (a : CellularDataNetAgent) : CellularDataNetAgent :=
  let (tables, netSuppliers) := forSuppliers (unregisterOne env slotId) a.toAgentTables a.netSuppliers
  { tables with netSuppliers }

end

def getSupplierId (a : CellularDataNetAgent) (slotId : Int) (capability : Nat) : Nat :=
  match a.netSuppliers.find? fun x => x.slotId = slotId && x.capability = capability with
  | some x => x.supplierId
  | none => 0

/-- The map is searched in the order of the slots. -/
def getSlotId (a : CellularDataNetAgent) (simId : Int) : Int :=
  match a.slotIdSimId.toList.find? fun item => item.2 = simId with
  | some item => item.1
  | none => -1

/-- The suppliers as `InitModule` adds them. -/
def initModule (slots : List Int) (netCapabilities : List Nat) : CellularDataNetAgent where
  netSuppliers :=
    slots.flatMap fun slotId => netCapabilities.map fun capability => { slotId, capability }

/-! Runs -/

inductive AgentLabel
  | register (slotId : Int)
  | unregisterForSimUpdate (slotId : Int)
deriving DecidableEq, Repr

def step (snssai6 : Nat) (l : AgentEnv × AgentLabel) (a : CellularDataNetAgent) :
    Option CellularDataNetAgent :=
  match l.2 with
  | .register slotId => some (a.registerNetSupplier snssai6 l.1 slotId).1
  | .unregisterForSimUpdate slotId => some (a.unregisterNetSupplierForSimUpdate l.1 slotId)

/-- A supplier no one has registered yet. -/
def Fresh (x : NetSupplier) : Prop := x.supplierId = 0 ∧ x.simId = 0

def key (x : NetSupplier) : Int × Nat := (x.slotId, x.capability)

/-- The agent begins with any suppliers, one for each slot and capability. -/
def system (snssai6 : Nat) :
    Lib.TransitionSystem CellularDataNetAgent (AgentEnv × AgentLabel) where
  init a := a.toAgentTables = {} ∧ (∀ x ∈ a.netSuppliers, Fresh x) ∧
    (a.netSuppliers.map key).Nodup
  step := step snssai6

/-- The agent after `InitModule` is one of these. -/
theorem initModule_init {snssai6 : Nat} {slots : List Int} {netCapabilities : List Nat}
    (hslots : slots.Nodup) (hcaps : netCapabilities.Nodup) :
    (system snssai6).init (initModule slots netCapabilities) := by
  have hkeys : (initModule slots netCapabilities).netSuppliers.map key =
      slots.flatMap fun slotId => netCapabilities.map fun capability => (slotId, capability) := by
    simp [initModule, List.map_flatMap, key, Function.comp_def]
  refine ⟨rfl, ?_, ?_⟩
  · intro x hx
    simp only [initModule, List.mem_flatMap, List.mem_map] at hx
    obtain ⟨_, -, _, -, rfl⟩ := hx
    exact ⟨rfl, rfl⟩
  · rw [hkeys]
    exact hslots.product hcaps

end CellularDataNetAgent
end CellularData
