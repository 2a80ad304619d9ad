import CellularData.Apn.Manager
import CellularData.Lib.TransitionSystem
import CellularData.Text.Address

/-! The delay before a retry: the system properties it comes from and how their texts are read. -/
namespace CellularData
open Lib

/-! Numbers at the beginning of a text -/

/-- Decimal notation of a number that fits in an `int32_t`. -/
def IsInt32Text (text : List Char) (n : Int) : Prop :=
  ∃ digits : List Char, digits ≠ [] ∧ (∀ c ∈ digits, c.isDigit = true) ∧
    (text = digits ∧ n = decimalValue digits ∨ text = '-' :: digits ∧ n = -decimalValue digits) ∧
    -(2 ^ 31) ≤ n ∧ n < 2 ^ 31

theorem takeWhile_isDigit_append {digits rest : List Char}
    (hdigits : ∀ c ∈ digits, c.isDigit = true) (hrest : ∀ c ∈ rest.head?, c.isDigit = false) :
    (digits ++ rest).takeWhile Char.isDigit = digits ∧
      (digits ++ rest).dropWhile Char.isDigit = rest := by
  have hnone : rest.takeWhile Char.isDigit = [] ∧ rest.dropWhile Char.isDigit = rest := by
    cases rest with
    | nil => exact ⟨rfl, rfl⟩
    | cons c rest =>
      have hc : c.isDigit = false := hrest c rfl
      simp [hc]
  rw [List.takeWhile_append_of_pos hdigits, List.dropWhile_append_of_pos hdigits, hnone.1, hnone.2,
    List.append_nil]
  exact ⟨rfl, rfl⟩

theorem head?_dropWhile_isDigit (s : List Char) :
    ∀ c ∈ (s.dropWhile Char.isDigit).head?, c.isDigit = false := by
  intro c hc
  have hnot := List.head?_dropWhile_not Char.isDigit s
  rw [Option.mem_def.mp hc] at hnot
  simpa using hnot

/-- The longest number that the text begins with is read, and only one that fits. -/
theorem fromChars_eq_some {s rest : List Char} {n : Int} : fromChars s = some (n, rest) ↔
    ∃ text, s = text ++ rest ∧ IsInt32Text text n ∧ ∀ c ∈ rest.head?, c.isDigit = false := by
  unfold fromChars
  dsimp only
  constructor
  · intro h
    by_cases hsign : s.head? = some '-'
    · obtain ⟨s', rfl⟩ : ∃ s', s = '-' :: s' := List.head?_eq_some_iff.mp hsign
      simp only [hsign, if_true, List.tail_cons] at h
      split_ifs at h with hnone
      obtain ⟨rfl, rfl⟩ := Prod.mk.inj (Option.some.inj h)
      simp only [not_or, not_lt, not_le] at hnone
      refine ⟨'-' :: s'.takeWhile Char.isDigit, ?_, ⟨s'.takeWhile Char.isDigit, hnone.1, ?_,
        .inr ⟨rfl, rfl⟩, hnone.2⟩, head?_dropWhile_isDigit s'⟩
      · rw [List.cons_append, List.takeWhile_append_dropWhile]
      · exact List.all_eq_true.mp List.all_takeWhile
    · simp only [hsign, if_false] at h
      split_ifs at h with hnone
      obtain ⟨rfl, rfl⟩ := Prod.mk.inj (Option.some.inj h)
      simp only [not_or, not_lt, not_le] at hnone
      refine ⟨s.takeWhile Char.isDigit, List.takeWhile_append_dropWhile.symm,
        ⟨s.takeWhile Char.isDigit, hnone.1, ?_, .inl ⟨rfl, rfl⟩, hnone.2⟩,
        head?_dropWhile_isDigit s⟩
      exact List.all_eq_true.mp List.all_takeWhile
  · rintro ⟨text, rfl, ⟨digits, hne, hdigits, htext, hlow, hhigh⟩, hrest⟩
    obtain ⟨htake, hdrop⟩ := takeWhile_isDigit_append hdigits hrest
    have hfits : ¬ (digits = [] ∨ n < -(2 ^ 31) ∨ 2 ^ 31 ≤ n) := by
      simp only [hne, false_or, not_or, not_lt, not_le]
      exact ⟨hlow, hhigh⟩
    rcases htext with ⟨rfl, rfl⟩ | ⟨rfl, rfl⟩
    · have hsign : (text ++ rest).head? ≠ some '-' := by
        cases text with
        | nil => exact absurd rfl hne
        | cons c text =>
          have hc : c.isDigit = true := hdigits c List.mem_cons_self
          intro hsign
          obtain rfl : c = '-' := Option.some.inj hsign
          exact absurd hc (by decide)
      simp only [hsign, if_false, htake, hdrop]
      rw [if_neg hfits]
    · simp only [List.cons_append, List.head?_cons, if_true, List.tail_cons, htake, hdrop]
      rw [if_neg hfits]

theorem fromChars_complete {s : List Char} {n : Int} :
    fromChars s = some (n, []) ↔ IsInt32Text s n := by
  rw [fromChars_eq_some]
  constructor
  · rintro ⟨text, hs, htext, -⟩
    rw [List.append_nil] at hs
    exact hs ▸ htext
  · intro htext
    exact ⟨s, (List.append_nil s).symm, htext, fun c hc => by cases hc⟩

namespace ConnectionRetryPolicy

def minRandomDelay : Int := 0
def maxRandomDelay : Int := 2000
def defaultDelayForSetupFail : Int := 3000
def defaultDelayForModemDend : Int := 1000

def propRetryStrategyAllow : String := "persist.telephony.retrystrategy.allow"
def propSetupFailDelay : String := "persist.telephony.setupfail.delay"
def propModemDendDelay : String := "persist.telephony.modemdend.delay"

/-- The value afterwards, and whether all of the text was a number. The value is written before the
end of the text is looked at. -/
def convertStrToInt (str : String) (value : Int) : Int × Bool :=
  match fromChars str.toList with
  | none => (value, false)
  | some (n, rest) => (n, rest = [])

end ConnectionRetryPolicy

/-- The static members that all retry policies of the process share. -/
structure RetryParameters where
  isPropOn : Bool := false
  defaultSetupFailDelay : Int := ConnectionRetryPolicy.defaultDelayForSetupFail
  defaultModemDendDelay : Int := ConnectionRetryPolicy.defaultDelayForModemDend
deriving DecidableEq, Repr

namespace RetryParameters
open TransitionSystem ConnectionRetryPolicy

variable (p : RetryParameters)

def setSetupFailDelay (value : String) : RetryParameters :=
  { p with defaultSetupFailDelay := (convertStrToInt value p.defaultSetupFailDelay).1 }

def setModemDendDelay (value : String) : RetryParameters :=
  { p with defaultModemDendDelay := (convertStrToInt value defaultDelayForModemDend).1 }

/-- The constructor, with the texts that `GetParameter` has returned. -/
def construct (retryStrategyAllow setupFailDelay modemDendDelay : String) : RetryParameters :=
  ({ p with isPropOn := retryStrategyAllow = "true" }.setSetupFailDelay
    setupFailDelay).setModemDendDelay modemDendDelay

/-- `none` is a null pointer. -/
def onPropChanged : Option String → Option String → RetryParameters
  | some key, some value =>
    if key = propRetryStrategyAllow then { p with isPropOn := value = "true" }
    else if key = propSetupFailDelay then p.setSetupFailDelay value
    else if key = propModemDendDelay then p.setModemDendDelay value
    else p
  | _, _ => p

def delays (random : Int) : Delays where
  random := random
  setupFail := p.defaultSetupFailDelay
  modemDend := p.defaultModemDendDelay

inductive Event
  | construct (retryStrategyAllow setupFailDelay modemDendDelay : String)
  | propChanged (key value : Option String)

def handle : Event → RetryParameters
  | .construct retryStrategyAllow setupFailDelay modemDendDelay =>
    p.construct retryStrategyAllow setupFailDelay modemDendDelay
  | .propChanged key value => p.onPropChanged key value

/-- The process from its start, under any notifications and constructions of policies. -/
def system : TransitionSystem RetryParameters Event where
  init p := p = {}
  step e p := some (p.handle e)

/-- The text notified for the delay after a failed set-up. -/
def Event.setupFailDelay : Event → Option String
  | .construct _ value _ => some value
  | .propChanged (some key) (some value) => if key = propSetupFailDelay then some value else none
  | .propChanged _ _ => none

def Event.modemDendDelay : Event → Option String
  | .construct _ _ value => some value
  | .propChanged (some key) (some value) => if key = propModemDendDelay then some value else none
  | .propChanged _ _ => none

/-- The whole text is an `int32_t` in decimal notation. -/
def IsComplete (value : String) : Prop := ∃ n, IsInt32Text value.toList n

/-- No delay computed from the parameters is negative. -/
def DelaysNonnegative : Prop :=
  ∀ random apnType scene isDefaultApnRetrying, minRandomDelay ≤ random → random ≤ maxRandomDelay →
    0 ≤ getNextRetryDelay (p.delays random) apnType scene isDefaultApnRetrying

/-- A text that is no complete number leaves one delay as it was and sets the other to its default. -/
structure ChangesSoundly (e : Event) (p p' : RetryParameters) : Prop where
  setupFail : ∀ value ∈ e.setupFailDelay, ¬ IsComplete value →
    p'.defaultSetupFailDelay = p.defaultSetupFailDelay
  modemDend : ∀ value ∈ e.modemDendDelay, ¬ IsComplete value →
    p'.defaultModemDendDelay = defaultDelayForModemDend

/-- The delays are not negative and the last event has changed them soundly. -/
def Sane : List (Event × RetryParameters) → RetryParameters → Prop
  | [], p => p.DelaysNonnegative
  | (e, p) :: _, p' => p'.DelaysNonnegative ∧ ChangesSoundly e p p'

/-- A number that the text begins with is all of it and not negative, or the fallback itself. -/
def Harmless (value : String) (fallback : Int) : Prop :=
  ∀ r ∈ fromChars value.toList, (r.2 = [] → 0 ≤ r.1) ∧ (r.2 ≠ [] → r.1 = fallback)

instance (value : String) (fallback : Int) : Decidable (Harmless value fallback) :=
  inferInstanceAs (Decidable (∀ r ∈ fromChars value.toList, _))

/-- What the event notifies is harmless for the two delays. -/
def NotifiesHarmless (e : Event) (p : RetryParameters) : Prop :=
  (∀ value ∈ e.setupFailDelay, Harmless value p.defaultSetupFailDelay) ∧
    ∀ value ∈ e.modemDendDelay, Harmless value defaultDelayForModemDend

instance (e : Event) (p : RetryParameters) : Decidable (NotifiesHarmless e p) :=
  inferInstanceAs (Decidable ((∀ value ∈ e.setupFailDelay, _) ∧ ∀ value ∈ e.modemDendDelay, _))

variable {p p' : RetryParameters} {e : Event}

theorem delaysNonnegative_iff :
    p.DelaysNonnegative ↔ 0 ≤ p.defaultSetupFailDelay ∧ 0 ≤ p.defaultModemDendDelay := by
  constructor
  · intro h
    have hsetup := h 0 .default_ .setupData false (by decide) (by decide)
    have hmodem := h 0 .default_ .modemDeactivate false (by decide) (by decide)
    simpa [getNextRetryDelay, delays] using And.intro hsetup hmodem
  · rintro ⟨hsetup, hmodem⟩ random apnType scene isDefaultApnRetrying hrandom -
    have hrandom : 0 ≤ random := hrandom
    unfold getNextRetryDelay delays
    split
    · dsimp only
      split_ifs <;> omega
    · dsimp only
      split_ifs <;> omega
    · dsimp only
      omega

/-- The three properties that are watched have different names. -/
theorem props_distinct : propSetupFailDelay ≠ propRetryStrategyAllow ∧
    propModemDendDelay ≠ propRetryStrategyAllow ∧ propModemDendDelay ≠ propSetupFailDelay := by
  decide +kernel

theorem defaultSetupFailDelay_handle : (p.handle e).defaultSetupFailDelay =
    e.setupFailDelay.elim p.defaultSetupFailDelay fun value =>
      (convertStrToInt value p.defaultSetupFailDelay).1 := by
  cases e with
  | construct retryStrategyAllow setupFailDelay modemDendDelay => rfl
  | propChanged key value =>
    cases key with
    | none => rfl
    | some key =>
      cases value with
      | none => rfl
      | some value =>
        obtain ⟨hsetup, -, -⟩ := props_distinct
        simp only [handle, onPropChanged, Event.setupFailDelay]
        by_cases hkey : key = propSetupFailDelay
        · subst hkey
          simp only [hsetup, if_false, if_true]
          rfl
        · simp only [hkey, if_false, Option.elim_none]
          split_ifs
          · rfl
          · rfl
          · rfl

theorem defaultModemDendDelay_handle : (p.handle e).defaultModemDendDelay =
    e.modemDendDelay.elim p.defaultModemDendDelay fun value =>
      (convertStrToInt value defaultDelayForModemDend).1 := by
  cases e with
  | construct retryStrategyAllow setupFailDelay modemDendDelay => rfl
  | propChanged key value =>
    cases key with
    | none => rfl
    | some key =>
      cases value with
      | none => rfl
      | some value =>
        obtain ⟨-, hallow, hsetup⟩ := props_distinct
        simp only [handle, onPropChanged, Event.modemDendDelay]
        by_cases hkey : key = propModemDendDelay
        · subst hkey
          simp only [hallow, hsetup, if_false, if_true]
          rfl
        · simp only [hkey, if_false, Option.elim_none]
          split_ifs
          · rfl
          · rfl
          · rfl

/-- What one notified text does to one delay. -/
theorem convertStrToInt_sound_iff {value : String} {fallback : Int} (hfallback : 0 ≤ fallback) :
    (0 ≤ (convertStrToInt value fallback).1 ∧
      (¬ IsComplete value → (convertStrToInt value fallback).1 = fallback)) ↔
    Harmless value fallback := by
  unfold convertStrToInt Harmless IsComplete
  simp only [← fromChars_complete]
  cases fromChars value.toList with
  | none => simp [hfallback]
  | some r =>
    obtain ⟨n, rest⟩ := r
    cases rest with
    | nil => simp
    | cons c rest =>
      simp only [Option.some.injEq, Prod.mk.injEq, reduceCtorEq, and_false, exists_false,
        not_false_eq_true, true_implies, Option.mem_def, forall_eq', false_implies, true_and, ne_eq]
      constructor
      · exact fun h => h.2
      · exact fun h => ⟨h ▸ hfallback, h⟩

/-- What one event does to one delay. -/
theorem elim_sound_iff {notified : Option String} {current fallback : Int} (hcurrent : 0 ≤ current)
    (hfallback : 0 ≤ fallback) :
    (0 ≤ (notified.elim current fun value => (convertStrToInt value fallback).1) ∧
      ∀ value ∈ notified, ¬ IsComplete value →
        (notified.elim current fun value => (convertStrToInt value fallback).1) = fallback) ↔
    ∀ value ∈ notified, Harmless value fallback := by
  cases notified with
  | none => simp [hcurrent]
  | some value =>
    simp only [Option.elim_some, Option.mem_def, Option.some.injEq, forall_eq']
    exact convertStrToInt_sound_iff hfallback

/-- One event keeps the delays sane exactly when what it notifies is harmless. -/
theorem handle_sound_iff (hp : p.DelaysNonnegative) :
    ((p.handle e).DelaysNonnegative ∧ ChangesSoundly e p (p.handle e)) ↔ NotifiesHarmless e p := by
  obtain ⟨hsetup, hmodem⟩ := delaysNonnegative_iff.mp hp
  have hsetupFail := @elim_sound_iff e.setupFailDelay _ _ hsetup hsetup
  have hmodemDend := @elim_sound_iff e.modemDendDelay _ defaultDelayForModemDend hmodem (by decide)
  rw [← defaultSetupFailDelay_handle] at hsetupFail
  rw [← defaultModemDendDelay_handle] at hmodemDend
  unfold NotifiesHarmless
  rw [← hsetupFail, ← hmodemDend, delaysNonnegative_iff]
  constructor
  · rintro ⟨⟨hs, hm⟩, hchange⟩
    exact ⟨⟨hs, hchange.setupFail⟩, hm, hchange.modemDend⟩
  · rintro ⟨⟨hs, hsetup'⟩, hm, hmodem'⟩
    exact ⟨⟨hs, hm⟩, hsetup', hmodem'⟩

theorem sane_of_init (hp : system.init p) : Sane [] p := by
  obtain rfl : p = {} := hp
  exact delaysNonnegative_iff.mpr (by decide)

theorem delaysNonnegative_of_sane {h : List (Event × RetryParameters)} (hp : Sane h p) :
    p.DelaysNonnegative := by
  cases h with
  | nil => exact hp
  | cons l h => exact hp.1

/-- The retry delays stay sane in exactly the runs whose notifications are all harmless. -/
theorem delays_sane_iff {h : List (Event × RetryParameters)} (hh : system.History h p) :
    Throughout Sane h p ↔ AtSteps (fun _ => NotifiesHarmless) h := by
  refine throughout_iff_atSteps ?_ ?_ hh
  · exact fun p hp => sane_of_init hp
  · intro h e p p' _ hstep hp
    obtain rfl : p.handle e = p' := Option.some.inj hstep
    exact handle_sound_iff (delaysNonnegative_of_sane hp)

/-- A delay in milliseconds, a text without a number and a number too large for the type. -/
theorem delays_sane_notified : ∃ h p, system.History h p ∧ h.length = 4 ∧ Throughout Sane h p ∧
    p.defaultSetupFailDelay = 5000 ∧ p.defaultModemDendDelay = 1000 := by
  obtain ⟨h, p, hh, hp⟩ := exists_history (M := system) rfl
    [.construct "true" "3000" "3000", .propChanged (some propSetupFailDelay) (some "5000"),
      .propChanged (some propSetupFailDelay) (some "99999999999"),
      .propChanged (some propModemDendDelay) (some "soon")]
    (p := fun h p => h.length = 4 ∧ AtSteps (fun _ => NotifiesHarmless) h ∧
      p.defaultSetupFailDelay = 5000 ∧ p.defaultModemDendDelay = 1000) (by decide +kernel)
  obtain ⟨hlength, hharmless, hvalues⟩ := of_decide_eq_true hp
  exact ⟨h, p, hh, hlength, (delays_sane_iff hh).mpr hharmless, hvalues⟩

def notified (key value : String) : RetryParameters :=
  ({} : RetryParameters).onPropChanged (some key) (some value)

/-- The number at the beginning of a text becomes either delay; a negative one is taken as it is. -/
theorem prefix_and_sign_taken :
    (notified propSetupFailDelay "12abc").defaultSetupFailDelay = 12 ∧
    (notified propModemDendDelay "12abc").defaultModemDendDelay = 12 ∧
    getNextRetryDelay ((notified propSetupFailDelay "-5000").delays 0) .default_ .setupData false =
      -5000 ∧
    ∀ key value, (key, value) ∈ [(propSetupFailDelay, "12abc"), (propModemDendDelay, "12abc"),
      (propSetupFailDelay, "-5000")] →
      ¬ Throughout Sane [(.propChanged (some key) (some value), {})] (notified key value) := by
  have hprefix : ¬ IsComplete "12abc" := by
    rintro ⟨n, hn⟩
    have hread : fromChars "12abc".toList = some (12, ['a', 'b', 'c']) := by decide +kernel
    rw [← fromChars_complete, hread] at hn
    cases hn
  refine ⟨by decide +kernel, by decide +kernel, by decide +kernel, fun key value hmem hsane => ?_⟩
  obtain ⟨hnonneg, hsound⟩ := hsane.last
  simp only [List.mem_cons, List.not_mem_nil, or_false, Prod.mk.injEq] at hmem
  rcases hmem with ⟨rfl, rfl⟩ | ⟨rfl, rfl⟩ | ⟨rfl, rfl⟩
  · exact absurd (hsound.setupFail "12abc" rfl hprefix) (by decide +kernel)
  · exact absurd (hsound.modemDend "12abc" (by decide +kernel) hprefix) (by decide +kernel)
  · exact absurd (delaysNonnegative_iff.mp hnonneg).1 (by decide +kernel)

end RetryParameters
end CellularData
