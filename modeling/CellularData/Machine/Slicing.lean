import CellularData.Apn.Reload
import CellularData.Apn.Transport
import CellularData.Lib.TransitionSystem
import CellularData.Machine.Model

/-! Connects with network slicing enabled: what the slice client's answers write into APN items that
all holders share. -/
namespace CellularData
open Lib TransitionSystem

/-- What `GetRSDByNetCap` puts under the keys that are read; a missing key is read as the empty
text. -/
structure RouteSelection where
  sscmode : List UInt8 := []
  snssai : List UInt8 := []
  dnn : List UInt8 := []
  pdusessiontype : List UInt8 := []

inductive NrState
  | saAttached | other (code : Nat)
deriving DecidableEq

structure NetworkState where
  psRadioTech : RadioTech := .other 0
  nrState : NrState := .other 0
deriving DecidableEq

/-- What a connect reads from the core service and from the slice client. -/
structure SliceWorld where
  psRadioTech : Int → RadioTech := fun _ => .other 0
  networkStatus : Int → NetworkState := fun _ => {}
  rsdByNetCap : NetCap → RouteSelection := fun _ => {}
  routeSelectionDescriptorByDnn : List UInt8 → List UInt8 × UInt8 := fun _ => ([], 0)

/-- An APN item with its network-slice fields. -/
structure SliceItem where
  attr : AttributeBuffers
  snssai : ApnText := .zero _
  sscMode : UInt8 := 0
deriving DecidableEq

structure SliceDataProfile where
  profileId : Int
  apn : List UInt8
  protocol : List UInt8
  verType : Int
  userName : List UInt8
  password : List UInt8
  roamingProtocol : List UInt8
  snssai : List UInt8
  sscMode : UInt8
  supportedApnTypesBitmap : Nat
deriving DecidableEq

structure SliceActivateParam where
  param : Int
  radioTechnology : RadioTech
  allowRoaming : Bool
  isRoaming : Bool
  dataProfile : SliceDataProfile
deriving DecidableEq

def findCapabilityByApnId : ApnType → NetCap
  | .default_ => .internet
  | .mms => .mms
  | .internalDefault => .internalDefault
  | .ia => .ia
  | .xcap => .xcap
  | .supl => .supl
  | .dun => .dun
  | .bip => .bip
  | .snssai1 => .snssai1
  | .snssai2 => .snssai2
  | .snssai3 => .snssai3
  | .snssai4 => .snssai4
  | .snssai5 => .snssai5
  | .snssai6 => .snssai6

def ApnType.isSlice (type : ApnType) : Bool := containsText type.name "snssai"

/-- The number that the text begins with; an `int` that is 0 stays so without one. -/
def leadingInt (s : List UInt8) : Int :=
  ((fromChars (s.map fun c => Char.ofNat c.toNat)).map Prod.fst).getD 0

/-- The text "0". -/
def zeroText : List UInt8 := [48]

/-- A buffer filled with NUL into which at most 255 bytes are copied. -/
def filledText (s : List UInt8) : ApnText := (CharBuffer.zero _).copy s 255

/-- What is read back of a text that has been copied. -/
def cutText (s : List UInt8) : List UInt8 := (s.take 255).takeWhile (· ≠ 0)

namespace SliceItem

def fillRSDFromNetCap (networkSliceParas : RouteSelection) (apn : SliceItem) : SliceItem where
  sscMode :=
    if networkSliceParas.sscmode ≠ zeroText then .ofInt (leadingInt networkSliceParas.sscmode)
    else apn.sscMode
  snssai :=
    if networkSliceParas.snssai ≠ [] then filledText networkSliceParas.snssai else apn.snssai
  attr :=
    { apn.attr with
      apn := if networkSliceParas.dnn ≠ [] then filledText networkSliceParas.dnn else apn.attr.apn
      protocol :=
        if networkSliceParas.pdusessiontype ≠ zeroText then
          filledText networkSliceParas.pdusessiontype
        else apn.attr.protocol }

/-- The part of `GetNetworkSlicePara` behind the test for standalone NR. -/
def applyRouteSelection (w : SliceWorld) (type : ApnType) (apn : SliceItem) : SliceItem :=
  let dnn := apn.attr.apn.cString
  if type.isSlice then apn.fillRSDFromNetCap (w.rsdByNetCap (findCapabilityByApnId type))
  else if dnn ≠ [] then
    let (snssai, sscMode) := w.routeSelectionDescriptorByDnn dnn
    { apn with
      sscMode
      snssai := if snssai ≠ [] then filledText snssai else apn.snssai }
  else apn

/-- Whether the slot is attached to standalone NR. -/
def isNrSa (networkState : NetworkState) : Bool :=
  networkState.psRadioTech = .nr && networkState.nrState = .saAttached

/-- The network status is that of slot 0, whatever the machine's slot. -/
def getNetworkSlicePara (w : SliceWorld) (type : ApnType) (apn : SliceItem) : SliceItem :=
  if isNrSa (w.networkStatus 0) then apn.applyRouteSelection w type else apn

/-- What is sent for the item as it is. -/
def activateParam (radioTechnology : RadioTech) (connectId : Int) (params : DataConnectionParams)
    (apn : SliceItem) : SliceActivateParam where
  param := connectId
  radioTechnology
  allowRoaming := params.roamingState
  isRoaming := params.userRoaming
  dataProfile :=
    { profileId := apn.attr.profileId
      apn := apn.attr.apn.cString
      protocol := apn.attr.protocol.cString
      verType := apn.attr.authType
      userName := apn.attr.user.cString
      password := apn.attr.password.cString
      roamingProtocol := apn.attr.roamingProtocol.cString
      snssai := apn.snssai.cString
      sscMode := apn.sscMode
      supportedApnTypesBitmap := params.apnHolder.bitmap }

/-- `DoConnect` of a machine of the slot whose holder has this item: the item afterwards and the
request. -/
def doConnect (w : SliceWorld) (slotId connectId : Int) (params : DataConnectionParams)
    (apn : SliceItem) : SliceItem × SliceActivateParam :=
  let apn := apn.getNetworkSlicePara w params.apnHolder
  (apn, apn.activateParam (w.psRadioTech slotId) connectId params)

/-! What the answers leave as it is -/

variable {w w' : SliceWorld} {type : ApnType} {apn : SliceItem} {slotId connectId : Int}
  {params : DataConnectionParams}

theorem cString_filledText (s : List UInt8) : (filledText s).cString = cutText s := by
  unfold filledText cutText
  rw [CharBuffer.cString_zero_copy]
  have hle : (s.take 255).length ≤ allApnItemCharLength :=
    (List.length_take_le 255 s).trans (by decide)
  rw [List.take_of_length_le hle]

theorem cString_if {s s' : List UInt8} {b : ApnText} :
    (if s ≠ s' then filledText s else b).cString = b.cString ↔ s = s' ∨ cutText s = b.cString := by
  by_cases h : s = s'
  · simp [h]
  · rw [if_pos h, cString_filledText, or_iff_right h]

/-- The answer to a slice role names the item's own DNN and session type, or none. -/
def KeepsTexts (paras : RouteSelection) (apn : SliceItem) : Prop :=
  (paras.dnn = [] ∨ cutText paras.dnn = apn.attr.apn.cString) ∧
    (paras.pdusessiontype = zeroText ∨ cutText paras.pdusessiontype = apn.attr.protocol.cString)

instance (paras : RouteSelection) (apn : SliceItem) : Decidable (KeepsTexts paras apn) :=
  inferInstanceAs (Decidable ((_ ∨ _) ∧ (_ ∨ _)))

/-- The client's answers name what the item holds already. -/
def KeepsItem (w : SliceWorld) (type : ApnType) (apn : SliceItem) : Prop :=
  if type.isSlice then
    let paras := w.rsdByNetCap (findCapabilityByApnId type)
    KeepsTexts paras apn ∧
      (paras.snssai = [] ∨ cutText paras.snssai = apn.snssai.cString) ∧
      (paras.sscmode = zeroText ∨ .ofInt (leadingInt paras.sscmode) = apn.sscMode)
  else
    let dnn := apn.attr.apn.cString
    dnn = [] ∨
      ((w.routeSelectionDescriptorByDnn dnn).1 = [] ∨
        cutText (w.routeSelectionDescriptorByDnn dnn).1 = apn.snssai.cString) ∧
      (w.routeSelectionDescriptorByDnn dnn).2 = apn.sscMode

instance (w : SliceWorld) (type : ApnType) (apn : SliceItem) : Decidable (KeepsItem w type apn) := by
  unfold KeepsItem
  infer_instance

/-- The texts by which the request names the network. -/
def SameTexts (apn apn' : SliceItem) : Prop :=
  apn.attr.apn.cString = apn'.attr.apn.cString ∧
    apn.attr.protocol.cString = apn'.attr.protocol.cString

theorem SameTexts.of_attr {apn apn' : SliceItem} (h : apn.attr = apn'.attr) : SameTexts apn apn' := by
  unfold SameTexts
  rw [h]
  exact ⟨rfl, rfl⟩

theorem fillRSDFromNetCap_sameTexts_iff {paras : RouteSelection} :
    SameTexts (apn.fillRSDFromNetCap paras) apn ↔ KeepsTexts paras apn :=
  and_congr cString_if cString_if

/-- Two items give the same request when they agree on the texts and on the slice fields, all else
being the same. -/
theorem activateParam_eq_iff {radioTech : RadioTech} (x apn : SliceItem)
    (hattr : ∃ b b', x.attr = { apn.attr with apn := b, protocol := b' }) :
    x.activateParam radioTech connectId params = apn.activateParam radioTech connectId params ↔
      SameTexts x apn ∧ x.snssai.cString = apn.snssai.cString ∧ x.sscMode = apn.sscMode := by
  obtain ⟨b, b', heq⟩ := hattr
  unfold activateParam SameTexts
  rw [heq, SliceActivateParam.mk.injEq, SliceDataProfile.mk.injEq]
  simp only [true_and, and_true]
  tauto

theorem applyRouteSelection_of_slice (h : type.isSlice = true) :
    apn.applyRouteSelection w type =
      apn.fillRSDFromNetCap (w.rsdByNetCap (findCapabilityByApnId type)) :=
  if_pos h

theorem applyRouteSelection_of_dnn (h : ¬ type.isSlice = true) (hdnn : apn.attr.apn.cString ≠ []) :
    apn.applyRouteSelection w type =
      { apn with
        sscMode := (w.routeSelectionDescriptorByDnn apn.attr.apn.cString).2
        snssai :=
          if (w.routeSelectionDescriptorByDnn apn.attr.apn.cString).1 ≠ [] then
            filledText (w.routeSelectionDescriptorByDnn apn.attr.apn.cString).1
          else apn.snssai } :=
  (if_neg h).trans (if_pos hdnn)

theorem applyRouteSelection_of_no_dnn (h : ¬ type.isSlice = true)
    (hdnn : apn.attr.apn.cString = []) : apn.applyRouteSelection w type = apn :=
  (if_neg h).trans (if_neg (not_not.mpr hdnn))

theorem applyRouteSelection_request_iff {radioTech : RadioTech} :
    (apn.applyRouteSelection w type).activateParam radioTech connectId params =
      apn.activateParam radioTech connectId params ↔ KeepsItem w type apn := by
  unfold KeepsItem
  by_cases hslice : type.isSlice = true
  · rw [applyRouteSelection_of_slice hslice, if_pos hslice,
      activateParam_eq_iff (apn.fillRSDFromNetCap _) apn ⟨_, _, rfl⟩,
      fillRSDFromNetCap_sameTexts_iff]
    apply and_congr_right
    intro _
    apply and_congr cString_if
    show (if _ ≠ zeroText then _ else apn.sscMode) = apn.sscMode ↔ _
    split_ifs with h
    · rw [or_iff_right h]
    · exact iff_of_true rfl (.inl (not_not.mp h))
  · rw [if_neg hslice]
    by_cases hdnn : apn.attr.apn.cString = []
    · rw [applyRouteSelection_of_no_dnn hslice hdnn]
      exact iff_of_true rfl (.inl hdnn)
    · rw [applyRouteSelection_of_dnn hslice hdnn,
        activateParam_eq_iff { apn with sscMode := _, snssai := _ } apn ⟨_, _, rfl⟩]
      rw [or_iff_right hdnn]
      refine Iff.trans (and_iff_right ?_) (and_congr_left fun _ => cString_if)
      exact SameTexts.of_attr rfl

/-! Independence of the other slots -/

/-- The worlds agree on what belongs to the slot, and the slice client gives the same answers. -/
structure AgreeOn (slotId : Int) (w w' : SliceWorld) : Prop where
  psRadioTech : w.psRadioTech slotId = w'.psRadioTech slotId
  networkStatus : w.networkStatus slotId = w'.networkStatus slotId
  rsdByNetCap : w.rsdByNetCap = w'.rsdByNetCap
  routeSelectionDescriptorByDnn :
    w.routeSelectionDescriptorByDnn = w'.routeSelectionDescriptorByDnn

theorem AgreeOn.applyRouteSelection (h : AgreeOn slotId w w') :
    apn.applyRouteSelection w type = apn.applyRouteSelection w' type := by
  unfold SliceItem.applyRouteSelection
  rw [h.rsdByNetCap, h.routeSelectionDescriptorByDnn]

theorem doConnect_of_nrSa (h : isNrSa (w.networkStatus 0) = true) :
    (apn.doConnect w slotId connectId params).2 =
      (apn.applyRouteSelection w params.apnHolder).activateParam (w.psRadioTech slotId) connectId
        params := by
  unfold doConnect getNetworkSlicePara
  rw [if_pos h]

theorem doConnect_of_not_nrSa (h : ¬ isNrSa (w.networkStatus 0) = true) :
    (apn.doConnect w slotId connectId params).2 =
      apn.activateParam (w.psRadioTech slotId) connectId params := by
  unfold doConnect getNetworkSlicePara
  rw [if_neg h]

/-- A request depends on its own slot alone exactly on slot 0 and where the client's answers change
nothing. -/
theorem request_slot_independent_iff (w : SliceWorld) (slotId connectId : Int)
    (params : DataConnectionParams) (apn : SliceItem) :
    (∀ w', AgreeOn slotId w w' →
      (apn.doConnect w' slotId connectId params).2 = (apn.doConnect w slotId connectId params).2) ↔
      slotId = 0 ∨ KeepsItem w params.apnHolder apn := by
  constructor
  · intro hsame
    by_cases hslot : slotId = 0
    · exact .inl hslot
    right
    -- two worlds that differ in the status of slot 0 alone
    let attached : NetworkState := { psRadioTech := .nr, nrState := .saAttached }
    let other (status : NetworkState) : SliceWorld :=
      { w with networkStatus := fun i => if i = 0 then status else w.networkStatus i }
    have hagree : ∀ status, AgreeOn slotId w (other status) :=
      fun status => ⟨rfl, (if_neg hslot).symm, rfl, rfl⟩
    have hrouted := hsame (other attached) (hagree attached)
    have hplain := hsame (other {}) (hagree {})
    have hplainStatus : ¬ isNrSa ((other {}).networkStatus 0) = true := by
      show ¬ isNrSa {} = true
      decide
    rw [doConnect_of_nrSa rfl] at hrouted
    rw [doConnect_of_not_nrSa hplainStatus] at hplain
    have heq := hrouted.trans hplain.symm
    rw [← (hagree attached).applyRouteSelection] at heq
    exact applyRouteSelection_request_iff.mp heq
  · rintro (rfl | hkeeps) w' hagree
    · unfold doConnect getNetworkSlicePara
      rw [hagree.psRadioTech, hagree.networkStatus, hagree.applyRouteSelection]
    · have hrequest : ∀ x, AgreeOn slotId w x → (apn.doConnect x slotId connectId params).2 =
          apn.activateParam (w.psRadioTech slotId) connectId params := by
        intro x hx
        by_cases hnr : isNrSa (x.networkStatus 0) = true
        · rw [doConnect_of_nrSa hnr, ← hx.applyRouteSelection, ← hx.psRadioTech]
          exact applyRouteSelection_request_iff.mpr hkeeps
        · rw [doConnect_of_not_nrSa hnr, hx.psRadioTech]
      rw [hrequest w' hagree, hrequest w ⟨rfl, rfl, rfl, rfl⟩]

/-- The default profile of slot 1 is asked for while slot 0 is on standalone NR or not. -/
theorem request_depends_on_slot_zero :
    let world (status : NetworkState) : SliceWorld :=
      { networkStatus := fun i => if i = 0 then status else {}
        routeSelectionDescriptorByDnn := fun _ => ([1], 1) }
    let apn : SliceItem := { attr := { apn := filledText [110, 101, 116] } }
    let params : DataConnectionParams := ⟨.default_, 0, .other 0, true, false, false⟩
    AgreeOn 1 (world {}) (world { psRadioTech := .nr, nrState := .saAttached }) ∧
      (apn.doConnect (world {}) 1 0 params).2 ≠
        (apn.doConnect (world { psRadioTech := .nr, nrState := .saAttached }) 1 0 params).2 := by
  refine ⟨⟨rfl, rfl, rfl, rfl⟩, ?_⟩
  decide +kernel

/-! The shared items over a run of connects -/

def bytes (s : String) : List UInt8 := s.toUTF8.data.toList

/-- The buffers that `MakeApn` fills for the item. -/
def load (item : ApnItem) : SliceItem where
  attr :=
    { types := filledText (bytes item.attr.types)
      numeric := filledText (bytes item.attr.numeric)
      profileId := item.attr.profileId
      protocol := filledText (bytes item.attr.protocol)
      roamingProtocol := filledText (bytes item.attr.roamingProtocol)
      authType := item.attr.authType
      apn := filledText (bytes item.attr.apn)
      apnName := filledText (bytes item.attr.apnName)
      user := filledText (bytes item.attr.user)
      password := filledText (bytes item.attr.password)
      isRoamingApn := item.attr.isRoamingApn
      homeUrl := filledText (bytes item.attr.homeUrl)
      proxyIpAddress := filledText (bytes item.attr.proxyIpAddress)
      mmsIpAddress := filledText (bytes item.attr.mmsIpAddress)
      isEdited := item.attr.isEdited }

theorem SameTexts.symm {x y : SliceItem} (h : SameTexts x y) : SameTexts y x :=
  ⟨h.1.symm, h.2.symm⟩

theorem SameTexts.trans {x y z : SliceItem} (h : SameTexts x y) (h' : SameTexts y z) :
    SameTexts x z :=
  ⟨h.1.trans h'.1, h.2.trans h'.2⟩

/-- The slice client's answer to the connect is written into the item and differs from it. -/
def Leaks (w : SliceWorld) (type : ApnType) (apn : SliceItem) : Prop :=
  isNrSa (w.networkStatus 0) = true ∧ type.isSlice = true ∧
    ¬ KeepsTexts (w.rsdByNetCap (findCapabilityByApnId type)) apn

instance (w : SliceWorld) (type : ApnType) (apn : SliceItem) : Decidable (Leaks w type apn) :=
  inferInstanceAs (Decidable (_ ∧ _ ∧ ¬ _))

/-- A connect leaves the item's texts as they are unless a slice answer leaks into them. -/
theorem doConnect_sameTexts_iff :
    SameTexts (apn.doConnect w slotId connectId params).1 apn ↔ ¬ Leaks w params.apnHolder apn := by
  unfold doConnect getNetworkSlicePara Leaks
  dsimp only
  split_ifs with hnr
  · rw [and_iff_right hnr]
    by_cases hslice : params.apnHolder.isSlice = true
    · rw [applyRouteSelection_of_slice hslice, fillRSDFromNetCap_sameTexts_iff, and_iff_right hslice,
        not_not]
    · apply iff_of_true
      · by_cases hdnn : apn.attr.apn.cString = []
        · rw [applyRouteSelection_of_no_dnn hslice hdnn]
          exact SameTexts.of_attr rfl
        · rw [applyRouteSelection_of_dnn hslice hdnn]
          exact SameTexts.of_attr rfl
      · exact fun h => hslice h.1
  · exact iff_of_true (SameTexts.of_attr rfl) fun h => hnr h.1

end SliceItem

/-- A request for the holder of a type, with the item that is its current APN. -/
structure SliceRequest where
  item : Nat
  apnHolder : ApnType
  request : SliceActivateParam

/-- The items of the APN list as they were loaded and as they are, and the requests sent. -/
structure SliceTable where
  loaded : List ApnItem
  items : List SliceItem
  sent : List SliceRequest := []

/-- A connect of some machine of some slot with the item of its holder. -/
structure SliceConnect where
  world : SliceWorld
  slotId : Int := 0
  connectId : Int := 0
  params : DataConnectionParams
  item : Nat

namespace SliceTable

def connect (c : SliceConnect) (s : SliceTable) : Option SliceTable :=
  (s.items[c.item]?).map fun apn =>
    let (apn, request) := apn.doConnect c.world c.slotId c.connectId c.params
    { s with
      items := s.items.set c.item apn
      sent := ⟨c.item, c.params.apnHolder, request⟩ :: s.sent }

def system : TransitionSystem SliceTable SliceConnect where
  init s := (∀ item ∈ s.loaded, ∃ p : PdpProfile, p.makeApn = some item) ∧
    s.items = s.loaded.map SliceItem.load ∧ s.sent = []
  step := connect

/-- The items still carry the texts they were loaded with, and so did the requests for other types
than slices. -/
structure TextsKept (s : SliceTable) : Prop where
  items : ∀ (i : Nat) item loaded, s.items[i]? = some item → s.loaded[i]? = some loaded →
    SliceItem.SameTexts item (.load loaded)
  sent : ∀ r ∈ s.sent, r.apnHolder.isSlice = false → ∀ loaded, s.loaded[r.item]? = some loaded →
    r.request.dataProfile.apn = (SliceItem.load loaded).attr.apn.cString ∧
      r.request.dataProfile.protocol = (SliceItem.load loaded).attr.protocol.cString

/-- The connect lets a slice answer leak into the item. -/
def LeaksInto (c : SliceConnect) (s : SliceTable) : Prop :=
  ∃ apn, s.items[c.item]? = some apn ∧ SliceItem.Leaks c.world c.params.apnHolder apn

instance (c : SliceConnect) (s : SliceTable) : Decidable (LeaksInto c s) :=
  decidable_of_iff ((s.items[c.item]?).any (fun apn =>
      decide (SliceItem.Leaks c.world c.params.apnHolder apn)) = true) (by
    rw [Option.any_eq_true]
    exact exists_congr fun _ => and_congr_right fun _ => decide_eq_true_iff)

variable {c : SliceConnect} {s s' : SliceTable}

theorem connect_eq_some (h : connect c s = some s') : ∃ apn, s.items[c.item]? = some apn ∧
    s' = { s with
      items := s.items.set c.item (apn.doConnect c.world c.slotId c.connectId c.params).1
      sent := ⟨c.item, c.params.apnHolder,
        (apn.doConnect c.world c.slotId c.connectId c.params).2⟩ :: s.sent } := by
  obtain ⟨apn, hapn, rfl⟩ := Option.map_eq_some_iff.mp h
  exact ⟨apn, hapn, rfl⟩

theorem reachable_length (h : system.Reachable s) : s.items.length = s.loaded.length := by
  refine h.invariant (P := fun s => s.items.length = s.loaded.length) ?_ ?_
  · rintro s ⟨-, hitems, -⟩
    rw [hitems, List.length_map]
  · rintro c s s' - hlength hstep
    obtain ⟨apn, -, rfl⟩ := connect_eq_some hstep
    exact List.length_set.trans hlength

theorem textsKept_init (h : system.init s) : s.TextsKept where
  items i item loaded hitem hloaded := by
    rw [h.2.1, List.getElem?_map, hloaded] at hitem
    obtain rfl := Option.some.inj hitem
    exact SliceItem.SameTexts.of_attr rfl
  sent r hr := by
    rw [h.2.2] at hr
    cases hr

/-- A connect keeps the texts exactly when no slice answer leaks into the item. -/
theorem textsKept_step_iff (hr : system.Reachable s) (hstep : system.step c s = some s')
    (hkept : s.TextsKept) : s'.TextsKept ↔ ¬ LeaksInto c s := by
  obtain ⟨apn, hapn, rfl⟩ := connect_eq_some hstep
  have hlt : c.item < s.items.length := (List.getElem?_eq_some_iff.mp hapn).1
  have hloaded : c.item < s.loaded.length := reachable_length hr ▸ hlt
  have hbefore : SliceItem.SameTexts apn (.load s.loaded[c.item]) :=
    hkept.items c.item apn _ hapn (List.getElem?_eq_getElem hloaded)
  have hleaks : ¬ LeaksInto c s ↔ SliceItem.SameTexts
      (apn.doConnect c.world c.slotId c.connectId c.params).1 apn := by
    rw [SliceItem.doConnect_sameTexts_iff]
    apply not_congr
    constructor
    · rintro ⟨x, hx, hleaks⟩
      obtain rfl := Option.some.inj (hapn.symm.trans hx)
      exact hleaks
    · exact fun hleaks => ⟨apn, hapn, hleaks⟩
  rw [hleaks]
  constructor
  · intro hafter
    have hitem := hafter.items c.item _ _ (List.getElem?_set_self hlt)
      (List.getElem?_eq_getElem hloaded)
    exact hitem.trans hbefore.symm
  · intro hsame
    constructor
    · intro i item loaded hitem hi
      dsimp only at hitem hi
      by_cases heq : c.item = i
      · subst heq
        rw [List.getElem?_set_self hlt] at hitem
        obtain rfl := Option.some.inj hitem
        obtain rfl := Option.some.inj ((List.getElem?_eq_getElem hloaded).symm.trans hi)
        exact hsame.trans hbefore
      · rw [List.getElem?_set_ne heq] at hitem
        exact hkept.items i item loaded hitem hi
    · intro r hr htype loaded hi
      rcases List.mem_cons.mp hr with rfl | hr
      · obtain rfl := Option.some.inj ((List.getElem?_eq_getElem hloaded).symm.trans hi)
        exact hsame.trans hbefore
      · exact hkept.sent r hr htype loaded hi

/-- Slice parameters stay out of the APN table in exactly the runs without a leaking connect. -/
theorem texts_kept_iff {h : List (SliceConnect × SliceTable)} (hh : system.History h s) :
    Throughout (fun _ s => s.TextsKept) h s ↔ AtSteps (fun _ c s => ¬ LeaksInto c s) h := by
  refine throughout_iff_atSteps ?_ ?_ hh
  · exact fun _ hinit => textsKept_init hinit
  · intro h c s s' hh hstep hkept
    exact textsKept_step_iff hh.reachable hstep hkept

/-- An APN for all types and a world on standalone NR whose slice client gives this answer. -/
def sharedProfile : PdpProfile := { profileId := 1, apn := "net", apnTypes := "*" }

def sharedTable : SliceTable where
  loaded := sharedProfile.makeApn.toList
  items := sharedProfile.makeApn.toList.map SliceItem.load

def sliceThenDefault (answer : RouteSelection) : List SliceConnect :=
  let world : SliceWorld :=
    { networkStatus := fun _ => { psRadioTech := .nr, nrState := .saAttached }
      rsdByNetCap := fun _ => answer }
  [{ world, params := ⟨.snssai1, 0, .other 0, true, false, false⟩, item := 0 },
    { world, params := ⟨.default_, 0, .other 0, true, false, false⟩, item := 0 }]

theorem sharedTable_init : system.init sharedTable := by
  refine ⟨fun item hitem => ⟨sharedProfile, ?_⟩, rfl, rfl⟩
  exact Option.mem_toList.mp hitem

theorem texts_kept_shared : ∃ h s, system.History h s ∧ s.sent.length = 2 ∧
    Throughout (fun _ s => s.TextsKept) h s := by
  obtain ⟨h, s, hh, hp⟩ := exists_history sharedTable_init
    (sliceThenDefault { snssai := [1], pdusessiontype := SliceItem.bytes "IP" })
    (p := fun h s => decide (s.sent.length = 2 ∧ AtSteps (fun _ c s => ¬ LeaksInto c s) h))
    (by decide +kernel)
  obtain ⟨hlength, hsteps⟩ := of_decide_eq_true hp
  exact ⟨h, s, hh, hlength, (texts_kept_iff hh).mpr hsteps⟩

/-- The DNN of a slice is what the default holder then asks for. -/
theorem slice_dnn_leaks : ∃ h s, system.History h s ∧
    s.sent.map (fun r => (r.apnHolder, r.request.dataProfile.apn)) =
      [(.default_, SliceItem.bytes "slice"), (.snssai1, SliceItem.bytes "slice")] ∧
    ¬ Throughout (fun _ s => s.TextsKept) h s := by
  obtain ⟨h, s, hh, hp⟩ := exists_history sharedTable_init
    (sliceThenDefault { dnn := SliceItem.bytes "slice", pdusessiontype := SliceItem.bytes "IP" })
    (p := fun _ s => decide (s.sent.map (fun r => (r.apnHolder, r.request.dataProfile.apn)) =
      [(.default_, SliceItem.bytes "slice"), (.snssai1, SliceItem.bytes "slice")] ∧
      ∃ r ∈ s.sent, r.apnHolder.isSlice = false ∧ ∃ loaded ∈ s.loaded[r.item]?,
        r.request.dataProfile.apn ≠ (SliceItem.load loaded).attr.apn.cString))
    (by decide +kernel)
  obtain ⟨hsent, r, hr, htype, loaded, hloaded, hne⟩ := of_decide_eq_true hp
  refine ⟨h, s, hh, hsent, fun hkept => ?_⟩
  exact hne (hkept.last.sent r hr htype loaded hloaded).1

end SliceTable
end CellularData
