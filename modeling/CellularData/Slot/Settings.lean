import CellularData.Slot.Switches

/-! The settings store behind the data switches, and what a setter of the handler leaves there. -/
namespace CellularData

/-- Success, and the value written, also where only the beginning of the text is a number. -/
def convertStrToInt (str : String) : Bool × Option Int :=
  match fromChars str.toList with
  | none => (false, none)
  | some (value, rest) => (rest = [], some value)

/-- What a query of the store comes to. -/
inductive SettingsQuery
  | noHelper | noResult | empty | found
deriving DecidableEq, Repr

inductive SettingsWrite
  | insert | update
deriving DecidableEq, Repr

/-- The store during one call: its texts, the outcome of the query of the setter and of the one that
precedes a write, whether a helper for the write is there, the code that the write returns and
whether the store has then stored the value, which it never does under `E_ERROR`. -/
structure SettingsStore where
  text : SettingsKey → Option String
  query : SettingsQuery
  existQuery : SettingsQuery
  writeHelper : Bool
  code : Int
  stores : SettingsWrite → Int → Bool
  stores_error : ∀ w, stores w (-1) = false

namespace SettingsStore

variable (st : SettingsStore)

/-- `CellularDataSettingsRdbHelper::GetValue`. -/
def getValue (query : SettingsQuery) (key : SettingsKey) : TelephonyError × Option Int :=
  match query with
  | .noHelper => (.localPtrNull, none)
  | .noResult => (.databaseReadFail, none)
  | .empty => (.databaseReadEmpty, none)
  | .found =>
    let (succ, value) := convertStrToInt ((st.text key).getD "")
    (if succ then .success else .databaseReadEmpty, value)

/-- `CellularDataSettingsRdbHelper::PutValue`: every code but `E_ERROR` is a success. -/
def putValue : TelephonyError :=
  if !st.writeHelper then .localPtrNull
  else if st.code = -1 then .databaseWriteFail
  else .success

/-- A key without a value is inserted, another one updated. -/
def writeKind (key : SettingsKey) : SettingsWrite :=
  if (st.getValue st.existQuery key).1 ≠ .success then .insert else .update

/-- Whether the store has stored the value of a write. -/
def written (key : SettingsKey) : Bool := st.writeHelper && st.stores (st.writeKind key) st.code

/-- The texts after the writes among the effects. -/
def textAfter (effects : List Effect) : SettingsKey → Option String :=
  effects.foldr (fun e text =>
    match e with
    | .putValue key value =>
      if st.written key then fun k => if k = key then some (toString value) else text k else text
    | _ => text) st.text

/-- What the steps of the handler read from the store. -/
def env (base : Env) : Env :=
  { base with getValue := st.getValue st.query, putValue := fun _ => st.putValue }

end SettingsStore

/-- The switch that a text of the store stands for. -/
def switchOf (text : Option String) : Option Bool :=
  match convertStrToInt (text.getD "") with
  | (true, some value) => some (value = 1)
  | _ => none

/-- The three switches that the handler sets. -/
inductive DataSwitch
  | userData | intelligence | roaming
deriving DecidableEq, Repr

namespace DataSwitch

def key (env : Env) : DataSwitch → SettingsKey
  | .userData => .dataEnable
  | .intelligence => .intelligenceSwitch
  | .roaming => .dataRoaming env.simId

def cached (s : Slot) : DataSwitch → Bool
  | .userData => s.dataSwitchSettings.userDataOn
  | .intelligence => s.dataSwitchSettings.intelliSwitchOn
  | .roaming => s.dataSwitchSettings.userDataRoaming

def set (env : Env) (s : Slot) (on : Bool) : DataSwitch → Slot × TelephonyError
  | .userData => s.setCellularDataEnable env on
  | .intelligence => s.setIntelligenceSwitchEnable env on
  | .roaming => s.setCellularDataRoamingEnabled env on

/-- What the store holds for the switch before the call. -/
def held (st : SettingsStore) (env : Env) (d : DataSwitch) : Option Bool :=
  switchOf (st.text (d.key env))

/-- The setter's query finds the value of the switch. -/
def Found (st : SettingsStore) (env : Env) (d : DataSwitch) : Prop :=
  (d = .roaming → invalidSimId < env.simId) ∧ (st.getValue st.query (d.key env)).1 = .success

/-- The value that the setter compares with the one requested when its query has failed; it gives up
when there is none. -/
def assumed (st : SettingsStore) (s : Slot) : DataSwitch → Option Bool
  | .userData => none
  | .intelligence => some ((st.getValue st.query .intelligenceSwitch).2.getD 0 = 1)
  | .roaming => some s.defaultDataRoamingEnable

/-- A query that has failed puts its assumption in the cache. -/
def cachesAssumption : DataSwitch → Bool
  | .intelligence => true
  | _ => false

/-- The switch as the store holds it and as the slot caches it after the call. -/
def heldAfter (st : SettingsStore) (env : Env) (s : Slot) (on : Bool) (d : DataSwitch) :
    Option Bool :=
  let s' := (d.set (st.env env) s on).1
  switchOf (st.textAfter (s'.effects.take (s'.effects.length - s.effects.length)) (d.key env))

def cachedAfter (st : SettingsStore) (env : Env) (s : Slot) (on : Bool) (d : DataSwitch) : Bool :=
  d.cached (d.set (st.env env) s on).1

/-- Success means stored and cached; after an error the cache is unchanged or right. -/
structure Kept (st : SettingsStore) (env : Env) (s : Slot) (on : Bool) (d : DataSwitch) : Prop where
  success : (d.set (st.env env) s on).2 = .success →
    d.heldAfter st env s on = some on ∧ d.cachedAfter st env s on = on
  error : (d.set (st.env env) s on).2 ≠ .success →
    d.cachedAfter st env s on = d.cached s ∨
      d.heldAfter st env s on = some (d.cachedAfter st env s on)

/-- A write that is taken for a success has stored the value, or the store holds it anyway. -/
def WriteStores (st : SettingsStore) (env : Env) (on : Bool) (d : DataSwitch) : Prop :=
  st.putValue = .success → st.written (d.key env) = true ∨ d.held st env = some on

/-- When the query finds the switch, a write that changes it stores; when it fails, what is assumed
instead is what the store holds, and a write that goes against the assumption stores. -/
def Dependable (st : SettingsStore) (env : Env) (s : Slot) (on : Bool) (d : DataSwitch) : Prop :=
  (d.Found st env → d.held st env = some (!on) → d.WriteStores st env on) ∧
    (¬ d.Found st env → ∀ b, d.assumed st s = some b →
      (b = on → d.held st env = some on ∧ (d.cachesAssumption = false → d.cached s = on)) ∧
      (b ≠ on → (d = .roaming → invalidSimId < env.simId) →
        d.WriteStores st env on ∧
          (st.putValue ≠ .success → d.cachesAssumption = true →
            d.cached s = b ∨ d.held st env = some b)))

variable {st : SettingsStore} {env : Env} {s : Slot} {on : Bool} {key : SettingsKey}

theorem getValue_success {query : SettingsQuery} (h : (st.getValue query key).1 = .success) :
    ∃ v, st.getValue query key = (.success, some v) ∧
      switchOf (st.text key) = some (decide (v = 1)) := by
  cases query with
  | noHelper => cases h
  | noResult => cases h
  | empty => cases h
  | found =>
    simp only [SettingsStore.getValue] at h ⊢
    unfold switchOf
    cases hc : convertStrToInt ((st.text key).getD "") with
    | mk succ value =>
      rw [hc] at h
      cases succ with
      | false => cases h
      | true =>
        cases value with
        | none =>
          unfold convertStrToInt at hc
          split at hc <;> simp at hc
        | some v => exact ⟨v, rfl, rfl⟩

theorem switchOf_toString (on : Bool) :
    switchOf (some (toString (if on then 1 else 0 : Int))) = some on := by
  cases on <;> decide +kernel

theorem textAfter_nil : st.textAfter [] key = st.text key := rfl

theorem switchOf_textAfter_putValue :
    switchOf (st.textAfter [.putValue key (if on then 1 else 0)] key) =
      if st.written key then some on else switchOf (st.text key) := by
  show switchOf ((if st.written key then fun k => if k = key then
    some (toString (if on then 1 else 0 : Int)) else st.text k else st.text) key) = _
  by_cases h : st.written key = true
  · rw [if_pos h, if_pos h]
    rw [if_pos rfl, switchOf_toString]
  · rw [if_neg h, if_neg h]

theorem written_putValue (h : st.written key = true) : st.putValue = .success := by
  unfold SettingsStore.written at h
  obtain ⟨hhelper, hstores⟩ := Bool.and_eq_true_iff.mp h
  unfold SettingsStore.putValue
  rw [if_neg (by simp [hhelper]), if_neg]
  intro hcode
  rw [hcode, st.stores_error] at hstores
  cases hstores

/-! What a setter comes to -/

section
variable {d : DataSwitch} {s' : Slot}

theorem heldAfter_of_effects (h : (d.set (st.env env) s on).1.effects = s.effects) :
    d.heldAfter st env s on = d.held st env := by
  simp only [heldAfter, held, h, Nat.sub_self, List.take_zero, textAfter_nil]

/-- The setter finds nothing to change. -/
theorem kept_of_unchanged (hset : d.set (st.env env) s on = (s', .success))
    (heffects : s'.effects = s.effects) :
    d.Kept st env s on ↔ d.held st env = some on ∧ d.cached s' = on := by
  have hheld : d.heldAfter st env s on = d.held st env :=
    heldAfter_of_effects (by rw [hset]; exact heffects)
  have hcached : d.cachedAfter st env s on = d.cached s' := by rw [cachedAfter, hset]
  constructor
  · intro hk
    have h := hk.success (by rw [hset])
    rw [hheld, hcached] at h
    exact h
  · intro h
    refine ⟨fun _ => ?_, fun hne => absurd (by rw [hset]) hne⟩
    rw [hheld, hcached]
    exact h

/-- The setter gives up. -/
theorem kept_of_error {e : TelephonyError} (hset : d.set (st.env env) s on = (s', e))
    (he : e ≠ .success) (hcached : d.cached s' = d.cached s) : d.Kept st env s on := by
  refine ⟨fun h => ?_, fun _ => .inl ?_⟩
  · rw [hset] at h
    exact absurd h he
  · rw [cachedAfter, hset, hcached]

/-- The setter writes; `c` is what it has cached before. -/
theorem kept_of_write {c : Bool} (hset : d.set (st.env env) s on = (s', st.putValue))
    (heffects : s'.effects = .putValue (d.key env) (if on then 1 else 0) :: s.effects)
    (hcached : d.cached s' = if st.putValue = .success then on else c) :
    d.Kept st env s on ↔ d.WriteStores st env on ∧
      (st.putValue ≠ .success → c = d.cached s ∨ d.held st env = some c) := by
  have hheld : d.heldAfter st env s on =
      if st.written (d.key env) then some on else d.held st env := by
    unfold heldAfter
    rw [hset]
    simp only [heffects, List.length_cons, Nat.add_sub_cancel_left, List.take_succ_cons,
      List.take_zero]
    exact switchOf_textAfter_putValue
  have hafter : d.cachedAfter st env s on = if st.putValue = .success then on else c := by
    rw [cachedAfter, hset, hcached]
  constructor
  · intro hk
    constructor
    · intro hsucc
      have h := (hk.success (by rw [hset]; exact hsucc)).1
      rw [hheld] at h
      split_ifs at h with hw
      · exact .inl hw
      · exact .inr h
    · intro hfail
      have h := hk.error (by rw [hset]; exact hfail)
      have hw : ¬ st.written (d.key env) = true := fun hw => hfail (written_putValue hw)
      rw [hafter, if_neg hfail, hheld, if_neg hw] at h
      exact h
  · rintro ⟨hstores, hfail⟩
    constructor
    · intro hsucc
      rw [hset] at hsucc
      rw [hheld, hafter, if_pos hsucc]
      refine ⟨?_, rfl⟩
      split_ifs with hw
      · rfl
      · exact (hstores hsucc).resolve_left hw
    · intro herr
      rw [hset] at herr
      have hw : ¬ st.written (d.key env) = true := fun hw => herr (written_putValue hw)
      rw [hafter, if_neg herr, hheld, if_neg hw]
      exact hfail herr

end

/-! The setters -/

theorem setUserDataOn_eq (hslot : s.slotId ≠ vsimSlotId) :
    ∃ s', s.setUserDataOn (st.env env) on = (s', st.putValue) ∧
      s'.effects = .putValue .dataEnable (if on then 1 else 0) :: s.effects ∧
      s'.dataSwitchSettings.userDataOn =
        if st.putValue = .success then on else s.dataSwitchSettings.userDataOn := by
  unfold Slot.setUserDataOn
  rw [if_neg hslot]
  simp only [SettingsStore.env]
  split
  · rename_i h
    rw [h, if_pos rfl]
    exact ⟨_, rfl, rfl, rfl⟩
  · rename_i h
    exact ⟨_, rfl, rfl, by rw [if_neg h]; rfl⟩

theorem setIntelliSwitchOn_eq :
    ∃ s', s.setIntelliSwitchOn (st.env env) on = (s', st.putValue) ∧
      s'.effects = .putValue .intelligenceSwitch (if on then 1 else 0) :: s.effects ∧
      s'.dataSwitchSettings.intelliSwitchOn =
        if st.putValue = .success then on else s.dataSwitchSettings.intelliSwitchOn := by
  unfold Slot.setIntelliSwitchOn
  simp only [SettingsStore.env]
  split
  · rename_i h
    rw [h, if_pos rfl]
    exact ⟨_, rfl, rfl, rfl⟩
  · rename_i h
    exact ⟨_, rfl, rfl, by rw [if_neg h]; rfl⟩

variable (st on) in
theorem setUserDataRoamingOn_eq (hslot : s.slotId ≠ vsimSlotId) (hsim : invalidSimId < env.simId) :
    ∃ s', s.setUserDataRoamingOn (st.env env) on = (s', st.putValue) ∧
      s'.effects = .putValue (.dataRoaming env.simId) (if on then 1 else 0) :: s.effects ∧
      s'.dataSwitchSettings.userDataRoaming =
        if st.putValue = .success then on else s.dataSwitchSettings.userDataRoaming := by
  have hvalid : ¬ (st.env env).simId ≤ invalidSimId := Int.not_le.mpr hsim
  unfold Slot.setUserDataRoamingOn
  rw [if_neg hslot, if_neg hvalid]
  simp only [SettingsStore.env]
  split
  · rename_i h
    rw [h, if_pos rfl]
    exact ⟨_, rfl, rfl, rfl⟩
  · rename_i h
    exact ⟨_, rfl, rfl, by rw [if_neg h]; rfl⟩

variable (env) in
theorem queryUserDataStatus_found {v : Int} (hslot : s.slotId ≠ vsimSlotId)
    (h : st.getValue st.query .dataEnable = (.success, some v)) :
    s.queryUserDataStatus (st.env env) =
      (s.modifySwitches fun d =>
        { d with lastQryRet := .success, userDataOn := decide (v = 1) }, some (decide (v = 1))) := by
  unfold Slot.queryUserDataStatus
  rw [if_neg hslot]
  simp only [SettingsStore.env, h]
  rfl

variable (env) in
theorem queryUserDataStatus_failed (hslot : s.slotId ≠ vsimSlotId)
    (h : (st.getValue st.query .dataEnable).1 ≠ .success) :
    ∃ s', s.queryUserDataStatus (st.env env) = (s', none) ∧
      s'.dataSwitchSettings.userDataOn = s.dataSwitchSettings.userDataOn := by
  unfold Slot.queryUserDataStatus
  rw [if_neg hslot]
  simp only [SettingsStore.env]
  exact ⟨_, rfl, rfl⟩

theorem queryUserDataRoamingStatus_found {v : Int} (hslot : s.slotId ≠ vsimSlotId)
    (hsim : invalidSimId < env.simId)
    (h : st.getValue st.query (.dataRoaming env.simId) = (.success, some v)) :
    s.queryUserDataRoamingStatus (st.env env) =
      (s.modifySwitches fun d => { d with userDataRoaming := decide (v = 1) },
        some (decide (v = 1))) := by
  have hvalid : ¬ (st.env env).simId ≤ invalidSimId := Int.not_le.mpr hsim
  unfold Slot.queryUserDataRoamingStatus
  rw [if_neg hslot, if_neg hvalid]
  simp only [SettingsStore.env, h]
  rfl

theorem queryUserDataRoamingStatus_failed (hslot : s.slotId ≠ vsimSlotId)
    (h : ¬ roaming.Found st env) : s.queryUserDataRoamingStatus (st.env env) = (s, none) := by
  unfold Slot.queryUserDataRoamingStatus
  rw [if_neg hslot]
  split_ifs with hsim
  · rfl
  · simp only [SettingsStore.env]
    split
    · rename_i hq
      exact absurd ⟨fun _ => Int.not_le.mp hsim, congrArg Prod.fst hq⟩ h
    · rfl

variable (st env s) in
theorem queryIntelligenceSwitchStatus_eq :
    s.queryIntelligenceSwitchStatus (st.env env) =
      (s.modifySwitches fun d =>
        { d with
          intelliSwitchOn := decide ((st.getValue st.query .intelligenceSwitch).2.getD 0 = 1) },
        decide ((st.getValue st.query .intelligenceSwitch).2.getD 0 = 1)) := rfl

/-! The three switches -/

theorem eq_not_of_ne {b c : Bool} (h : b ≠ c) : b = !c := by
  cases b <;> cases c <;> simp_all

theorem dependable_of_found {d : DataSwitch} {b : Bool} (hfound : d.Found st env)
    (hheld : d.held st env = some b) :
    d.Dependable st env s on ↔ (b ≠ on → d.WriteStores st env on) := by
  unfold Dependable
  rw [and_iff_left (fun hnot => absurd hfound hnot), hheld]
  constructor
  · intro h hne
    exact h hfound (congrArg some (eq_not_of_ne hne))
  · intro h _ hb
    apply h
    rintro rfl
    cases b <;> cases hb

/-- A query that finds the switch tells the setter what the store holds. -/
theorem kept_iff_of_found {d : DataSwitch} {b : Bool} (s₁ : Slot) (hfound : d.Found st env)
    (hheld : d.held st env = some b) (heffects : s₁.effects = s.effects)
    (hcached : d.cached s₁ = b)
    (hsame : b = on → d.set (st.env env) s on = (s₁, .success))
    (hwrite : b ≠ on → ∃ s', d.set (st.env env) s on = (s', st.putValue) ∧
      s'.effects = .putValue (d.key env) (if on then 1 else 0) :: s₁.effects ∧
      d.cached s' = if st.putValue = .success then on else d.cached s₁) :
    d.Kept st env s on ↔ d.Dependable st env s on := by
  rw [dependable_of_found hfound hheld]
  by_cases hb : b = on
  · rw [kept_of_unchanged (hsame hb) heffects]
    exact ⟨fun _ hne => absurd hb hne, fun _ => ⟨hb ▸ hheld, hcached.trans hb⟩⟩
  · obtain ⟨s', hset, heff, hcache⟩ := hwrite hb
    rw [heffects] at heff
    rw [hcached] at hcache
    rw [kept_of_write hset heff hcache]
    exact ⟨fun h _ => h.1, fun h => ⟨h hb, fun _ => .inr hheld⟩⟩

theorem userData_kept_iff (hslot : s.slotId ≠ vsimSlotId) :
    userData.Kept st env s on ↔ userData.Dependable st env s on := by
  by_cases hq : (st.getValue st.query .dataEnable).1 = .success
  · obtain ⟨v, hv, hheld⟩ := getValue_success hq
    have hquery := queryUserDataStatus_found env hslot hv
    refine kept_iff_of_found (s.queryUserDataStatus (st.env env)).1
      ⟨(fun h => by cases h), hq⟩ hheld ?_ ?_ ?_ ?_
    · rw [hquery]
      rfl
    · rw [hquery]
      rfl
    · intro hb
      show s.setCellularDataEnable (st.env env) on = _
      unfold Slot.setCellularDataEnable
      rw [hquery]
      exact if_pos hb
    · intro hb
      show ∃ s', s.setCellularDataEnable (st.env env) on = (s', st.putValue) ∧ _
      unfold Slot.setCellularDataEnable
      rw [hquery]
      dsimp only
      rw [if_neg hb]
      exact setUserDataOn_eq hslot
  · obtain ⟨s', hquery, hcached⟩ := queryUserDataStatus_failed env hslot hq
    have hset : userData.set (st.env env) s on = (s', .localPtrNull) := by
      show s.setCellularDataEnable (st.env env) on = _
      unfold Slot.setCellularDataEnable
      rw [hquery]
    refine iff_of_true (kept_of_error hset (by simp) hcached) ⟨fun h => absurd h.2 hq, ?_⟩
    intro _ b hb
    cases hb

theorem roaming_kept_iff (hslot : s.slotId ≠ vsimSlotId) :
    roaming.Kept st env s on ↔ roaming.Dependable st env s on := by
  by_cases hq : roaming.Found st env
  · have hsim := hq.1 rfl
    obtain ⟨v, hv, hheld⟩ := getValue_success hq.2
    have hquery := queryUserDataRoamingStatus_found hslot hsim hv
    refine kept_iff_of_found (s.queryUserDataRoamingStatus (st.env env)).1
      hq hheld ?_ ?_ ?_ ?_
    · rw [hquery]
      rfl
    · rw [hquery]
      rfl
    · intro hb
      show s.setCellularDataRoamingEnabled (st.env env) on = _
      unfold Slot.setCellularDataRoamingEnabled
      rw [hquery]
      exact if_pos hb
    · intro hb
      show ∃ s', s.setCellularDataRoamingEnabled (st.env env) on = (s', st.putValue) ∧ _
      unfold Slot.setCellularDataRoamingEnabled
      rw [hquery]
      dsimp only [Option.getD_some]
      rw [if_neg hb]
      exact setUserDataRoamingOn_eq st on hslot hsim
  · have hquery := queryUserDataRoamingStatus_failed hslot hq
    have hset : roaming.set (st.env env) s on =
        if s.defaultDataRoamingEnable = on then (s, .success)
        else s.setUserDataRoamingOn (st.env env) on := by
      show s.setCellularDataRoamingEnabled (st.env env) on = _
      unfold Slot.setCellularDataRoamingEnabled
      rw [hquery]
      rfl
    have hdep : roaming.Dependable st env s on ↔
        (s.defaultDataRoamingEnable = on → roaming.held st env = some on ∧ roaming.cached s = on) ∧
        (s.defaultDataRoamingEnable ≠ on → invalidSimId < env.simId →
          roaming.WriteStores st env on) := by
      unfold Dependable
      rw [and_iff_right (fun h => absurd h hq)]
      simp only [assumed, Option.some.injEq, forall_eq', cachesAssumption, forall_const, hq,
        not_false_eq_true, Bool.false_eq_true, false_imp_iff, implies_true, and_true]
    rw [hdep]
    by_cases hb : s.defaultDataRoamingEnable = on
    · rw [if_pos hb] at hset
      rw [kept_of_unchanged hset rfl]
      exact ⟨fun h => ⟨fun _ => h, fun hne => absurd hb hne⟩, fun h => h.1 hb⟩
    · rw [if_neg hb] at hset
      by_cases hsim : invalidSimId < env.simId
      · obtain ⟨s', hwrite, heffects, hcached⟩ := setUserDataRoamingOn_eq st on hslot hsim
        rw [kept_of_write (hset.trans hwrite) heffects hcached]
        exact ⟨fun h => ⟨fun heq => absurd heq hb, fun _ _ => h.1⟩,
          fun h => ⟨h.2 hb hsim, fun _ => .inl rfl⟩⟩
      · have hinvalid : s.setUserDataRoamingOn (st.env env) on = (s, .slotIdInvalid) := by
          unfold Slot.setUserDataRoamingOn
          rw [if_neg hslot]
          exact if_pos (Int.not_lt.mp hsim)
        refine iff_of_true (kept_of_error (hset.trans hinvalid) (by simp) rfl) ?_
        exact ⟨fun heq => absurd heq hb, fun _ hpos => absurd hpos hsim⟩

theorem intelligence_kept_iff :
    intelligence.Kept st env s on ↔ intelligence.Dependable st env s on := by
  obtain ⟨b, hbdef⟩ : ∃ b, b = decide ((st.getValue st.query .intelligenceSwitch).2.getD 0 = 1) :=
    ⟨_, rfl⟩
  have hquery := queryIntelligenceSwitchStatus_eq st env s
  rw [← hbdef] at hquery
  have hsame : b = on → intelligence.set (st.env env) s on =
      (s.modifySwitches fun d => { d with intelliSwitchOn := b }, .success) := by
    intro hb
    show s.setIntelligenceSwitchEnable (st.env env) on = _
    unfold Slot.setIntelligenceSwitchEnable
    rw [hquery]
    exact if_pos hb
  have hwrite : b ≠ on → ∃ s', intelligence.set (st.env env) s on = (s', st.putValue) ∧
      s'.effects = .putValue .intelligenceSwitch (if on then 1 else 0) :: s.effects ∧
      intelligence.cached s' = if st.putValue = .success then on else b := by
    intro hb
    show ∃ s', s.setIntelligenceSwitchEnable (st.env env) on = (s', st.putValue) ∧ _
    unfold Slot.setIntelligenceSwitchEnable
    rw [hquery]
    dsimp only
    rw [if_neg hb]
    exact setIntelliSwitchOn_eq
  by_cases hq : intelligence.Found st env
  · obtain ⟨v, hv, hheld⟩ := getValue_success hq.2
    have hv' : st.getValue st.query .intelligenceSwitch = (.success, some v) := hv
    obtain rfl : b = decide (v = 1) := by rw [hbdef, hv']; rfl
    exact kept_iff_of_found
      (s.modifySwitches fun d => { d with intelliSwitchOn := decide (v = 1) })
      hq hheld rfl rfl hsame hwrite
  · have hdep : intelligence.Dependable st env s on ↔
        (b = on → intelligence.held st env = some on) ∧
        (b ≠ on → intelligence.WriteStores st env on ∧
          (st.putValue ≠ .success →
            intelligence.cached s = b ∨ intelligence.held st env = some b)) := by
      unfold Dependable
      rw [and_iff_right (fun h => absurd h hq)]
      simp only [assumed, ← hbdef, Option.some.injEq, forall_eq', cachesAssumption, forall_const,
        hq, not_false_eq_true, reduceCtorEq, false_imp_iff, and_true]
    rw [hdep]
    by_cases hb : b = on
    · rw [kept_of_unchanged (hsame hb) rfl]
      exact ⟨fun h => ⟨fun _ => h.1, fun hne => absurd hb hne⟩, fun h => ⟨h.1 hb, hb⟩⟩
    · obtain ⟨s', hset, heffects, hcached⟩ := hwrite hb
      rw [kept_of_write hset heffects hcached]
      constructor
      · rintro ⟨hstores, herr⟩
        exact ⟨fun heq => absurd heq hb, fun _ => ⟨hstores, fun hfail => (herr hfail).imp_left .symm⟩⟩
      · rintro ⟨-, h⟩
        exact ⟨(h hb).1, fun hfail => ((h hb).2 hfail).imp_left .symm⟩

/-- A setter keeps the switch exactly when the store is dependable for it. -/
theorem kept_iff_dependable (hslot : s.slotId ≠ vsimSlotId) (d : DataSwitch) :
    d.Kept st env s on ↔ d.Dependable st env s on := by
  cases d with
  | userData => exact userData_kept_iff hslot
  | intelligence => exact intelligence_kept_iff
  | roaming => exact roaming_kept_iff hslot

/-- A store with every switch on, with the outcome of the setter's query. -/
def storeOn (query : SettingsQuery) : SettingsStore where
  text := fun _ => some "1"
  query
  existQuery := .found
  writeHelper := true
  code := 1
  stores := fun _ code => 0 < code
  stores_error := by simp

theorem kept_iff_dependable_user_data_off :
    userData.Kept (storeOn .found) {} {} false := by
  refine (kept_iff_dependable (by decide) userData).mpr ⟨?_, ?_⟩
  · intro _ _ _
    exact .inl (by decide +kernel)
  · intro _ b hb
    cases hb

/-- The intelligence switch is read as off when the store cannot be read: a request to turn it off
then succeeds and leaves it on in the store. -/
theorem failed_query_leaves_switch_on :
    (intelligence.set ((storeOn .noResult).env {}) {} false).2 = .success ∧
      intelligence.heldAfter (storeOn .noResult) {} {} false = some true ∧
      ¬ intelligence.Kept (storeOn .noResult) {} {} false := by
  have hsucc : (intelligence.set ((storeOn .noResult).env {}) {} false).2 = .success := by
    decide +kernel
  have hheld : intelligence.heldAfter (storeOn .noResult) {} {} false = some true := by
    decide +kernel
  refine ⟨hsucc, hheld, fun hk => ?_⟩
  have h := (hk.success hsucc).1
  rw [hheld] at h
  cases h

end DataSwitch
end CellularData
