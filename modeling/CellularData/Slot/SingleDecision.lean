import CellularData.Slot.SingleConnection

/-! What the answer of `IsSingleConnectionEnabled` depends on: the member that it rewrites is read
where the operator configures nothing. -/
namespace CellularData

/-- A load of the default configuration and the queries made after it, in order. -/
structure SingleHistory where
  slot : Slot := {}
  configuredIn : Env
  queries : List (Env × RadioTech) := []

namespace SingleHistory

variable (h : SingleHistory)

/-- The slot after the queries. -/
def slotAfter : Slot :=
  h.queries.foldl (fun s q => (s.isSingleConnectionEnabled q.1 q.2).1)
    (h.slot.getDefaultConfiguration h.configuredIn)

/-- What one more query is answered. -/
def answer (env : Env) (radioTech : RadioTech) : Bool :=
  (h.slotAfter.isSingleConnectionEnabled env radioTech).2

end SingleHistory

/-- The operator settles the question for the radio technology. -/
def OperatorConfig.Decides (config : OperatorConfig) (radioTech : RadioTech) : Prop :=
  radioTech ∈ config.singlePdpRadioType ∨ config.singlePdpEnabled ≠ none

namespace Slot

variable {env : Env} {s s' : Slot} {radioTech : RadioTech}

/-- Where the operator decides, nothing that the slot stores is read. -/
theorem isSingleConnectionEnabled_of_decides (h : env.operatorConfig.Decides radioTech) (s s' : Slot) :
    (s.isSingleConnectionEnabled env radioTech).2 =
      (s'.isSingleConnectionEnabled env radioTech).2 := by
  unfold isSingleConnectionEnabled getSinglePdpEnabledFromOpCfg
  by_cases hmem : radioTech ∈ env.operatorConfig.singlePdpRadioType
  · rw [if_pos hmem, if_pos hmem]
  · rw [if_neg hmem, if_neg hmem]
    cases hconfig : env.operatorConfig.singlePdpEnabled with
    | some v => rfl
    | none => exact absurd hconfig (h.resolve_left hmem)

/-- Elsewhere the answer is the stored one. -/
theorem isSingleConnectionEnabled_of_not_decides (h : ¬ env.operatorConfig.Decides radioTech)
    (s : Slot) : (s.isSingleConnectionEnabled env radioTech).2 = !s.multipleConnectionsEnabled := by
  have hmem : radioTech ∉ env.operatorConfig.singlePdpRadioType := fun hmem => h (.inl hmem)
  have hnone : env.operatorConfig.singlePdpEnabled = none := by
    by_contra hsome
    exact h (.inr hsome)
  unfold isSingleConnectionEnabled getSinglePdpEnabledFromOpCfg
  rw [if_neg hmem, hnone]

end Slot

namespace SingleHistory

variable {config : OperatorConfig} {radioTech : RadioTech} {b v : Bool}

/-- A load under an operator that sets the switch, followed by no query. -/
def configured (b v : Bool) : SingleHistory where
  configuredIn :=
    { operatorConfig := { singlePdpEnabled := some v }, defaultMultipleConnections := b
      getValue := fun _ => (.success, none) }

theorem multipleConnectionsEnabled_configured :
    (configured b v).slotAfter.multipleConnectionsEnabled = !v := by
  cases b <;> cases v <;> rfl

/-- The answer depends on the last query and the build default alone exactly where the operator
decides it. -/
theorem answer_memoryless_iff (b : Bool) (config : OperatorConfig) (radioTech : RadioTech) :
    (∀ (h h' : SingleHistory) (env env' : Env), h.configuredIn.defaultMultipleConnections = b →
        h'.configuredIn.defaultMultipleConnections = b → env.operatorConfig = config →
        env'.operatorConfig = config → h.answer env radioTech = h'.answer env' radioTech) ↔
      config.Decides radioTech := by
  constructor
  · intro hsame
    by_contra hnot
    have hanswer : ∀ v, (configured b v).answer { operatorConfig := config } radioTech = v := by
      intro v
      unfold answer
      rw [Slot.isSingleConnectionEnabled_of_not_decides hnot,
        multipleConnectionsEnabled_configured, Bool.not_not]
    have hcontra : true = false := by
      rw [← hanswer true, ← hanswer false]
      exact hsame _ _ _ _ rfl rfl rfl rfl
    cases hcontra
  · rintro hdecides h h' env env' - - rfl hconfig
    unfold answer
    have henv : (h'.slotAfter.isSingleConnectionEnabled env' radioTech).2 =
        (h'.slotAfter.isSingleConnectionEnabled env radioTech).2 := by
      unfold Slot.isSingleConnectionEnabled Slot.getSinglePdpEnabledFromOpCfg
      rw [hconfig]
    rw [henv]
    exact Slot.isSingleConnectionEnabled_of_decides hdecides _ _

/-- An operator with GSM in its array and without the switch. -/
def gsmOnly : Env := { operatorConfig := { singlePdpRadioType := [.gsm] } }

/-- A query on GSM decides the later one on NR. -/
theorem earlier_radio_remembered :
    ({ configuredIn := gsmOnly } : SingleHistory).answer gsmOnly .nr = false ∧
      ({ configuredIn := gsmOnly, queries := [(gsmOnly, .gsm)] } : SingleHistory).answer gsmOnly .nr =
        true := by
  constructor <;> rfl

end SingleHistory
end CellularData
