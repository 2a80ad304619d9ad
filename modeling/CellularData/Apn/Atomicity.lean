import CellularData.Apn.Loading

/-! When a failed reload leaves the APN table as it was. -/
namespace CellularData
namespace ApnTable

/-- The table before the call holds what the calls before the failure write: no preferred id where it
cannot be read, the one that the database names where it can, and no item where the list is cleared,
unless the MVNO profiles make one. -/
def FailureHarmless (env : ReloadEnv) (t : ApnTable) : Prop :=
  env.numeric = "" ∨
    match preferredProfile env with
    | none => t.preferId = -1
    | some preferId =>
      if !env.reloadHelper then t.preferId = preferId
      else
        match env.mvnoProfiles with
        | none =>
          (NoAnswer env → t.preferId = preferId) ∧
            (EmptyAnswer env → t.preferId = preferId ∧ t.allApnItem = [])
        | some ps => NoAnswer env ∨ EmptyAnswer env →
            MakesItem ps ∨ ps = [] ∧ t.preferId = preferId ∧ t.allApnItem = []

/-- A failed call leaves the list and the preferred id alone. -/
def Atomic (env : ReloadEnv) (t : ApnTable) : Prop :=
  (t.createAllApnItemByDatabase env).count = 0 ∧ (t.createAllApnItemByDatabase env).errMsg ≠ "" →
    (t.createAllApnItemByDatabase env).table = t

variable {env : ReloadEnv} {t : ApnTable}

theorem FailureHarmless.keeps (h : FailureHarmless env t) : FailureKeeps env t := by
  unfold FailureHarmless at h
  unfold FailureKeeps
  apply h.imp_right
  intro h
  cases hpreferred : preferredProfile env with
  | none => rwa [hpreferred] at h
  | some preferId =>
    rw [hpreferred] at h
    dsimp only at h ⊢
    split_ifs at h ⊢
    · exact h
    · cases hmvno : env.mvnoProfiles with
      | none => rwa [hmvno] at h
      | some ps =>
        rw [hmvno] at h
        intro hitems hanswer
        rcases h hanswer with hmakes | ⟨rfl, hpreferId, hlist⟩
        · exact absurd hitems (hmakes.itemsOf_ne_nil preferId)
        · exact ⟨hpreferId, hlist⟩

theorem FailureKeeps.harmless (h : FailureKeeps env t)
    (hmvno : ∀ ps, env.mvnoProfiles = some ps → ps = [] ∨ MakesItem ps) :
    FailureHarmless env t := by
  unfold FailureKeeps at h
  unfold FailureHarmless
  apply h.imp_right
  intro h
  cases hpreferred : preferredProfile env with
  | none => rwa [hpreferred] at h
  | some preferId =>
    rw [hpreferred] at h
    dsimp only at h ⊢
    split_ifs at h ⊢
    · exact h
    · cases hps : env.mvnoProfiles with
      | none => rwa [hps] at h
      | some ps =>
        rw [hps] at h
        intro hanswer
        rcases hmvno ps hps with rfl | hmakes
        · exact .inr ⟨rfl, h rfl hanswer⟩
        · exact .inl hmakes

/-- An empty answer is an error that clears the list. -/
example :
    (({ allApnItem := [{}] } : ApnTable).createAllApnItemByDatabase {}).errMsg =
        "read apn result empty" ∧
      (({ allApnItem := [{}] } : ApnTable).createAllApnItemByDatabase {}).table.allApnItem = [] := by
  constructor <;> decide +kernel

end ApnTable
end CellularData
