import Mathlib.Tactic.SplitIfs
import Mathlib.Data.List.Basic
import CellularData.Apn.Item
import CellularData.Text.Address

/-! The reload of the APN table from the database: `CreateAllApnItemByDatabase` without a vendor hook. -/
namespace CellularData

inductive MvnoType
  | spn | imsi | gid1 | iccid
deriving DecidableEq, Repr

/-- A row of the APN table. `mvnoType` is empty for an operator of its own network. -/
structure PdpProfile where
  profileId : Int := 0
  profileName : String := ""
  mcc : String := ""
  mnc : String := ""
  apn : String := ""
  authType : Int := 0
  authUser : String := ""
  authPwd : String := ""
  apnTypes : String := ""
  isRoamingApn : Bool := false
  pdpProtocol : String := "IP"
  roamPdpProtocol : String := "IP"
  mvnoType : String := ""
  mvnoMatchData : String := ""
  edited : Int := 0
  proxyIpAddress : String := ""
  homeUrl : String := ""
  mmsIpAddress : String := ""
deriving DecidableEq, Repr

/-- Whether the text occurs in `s`. -/
def containsText (s text : String) : Bool := s.toList.tails.any fun t => text.toList.isPrefixOf t

namespace PdpProfile

/-- Defaults that `MakePdpProfile` puts for what a row leaves open. -/
def makePdpProfile (p : PdpProfile) : PdpProfile :=
  { p with
    authType := if p.authType = -1 then (if p.authUser = "" then 0 else 3) else p.authType
    pdpProtocol := if p.pdpProtocol = "" then "IP" else p.pdpProtocol
    roamPdpProtocol := if p.roamPdpProtocol = "" then "IP" else p.roamPdpProtocol }

def isSimilarProperty (new old : String) : Bool := new = old || new = "" || old = ""

def isSimilarProtocol (new old : String) : Bool :=
  new = old || (new = "IPV4V6" && old = "IP") || (new = "IPV4V6" && old = "IPV6") ||
    (new = "IP" && old = "IPV4V6") || (new = "IPV6" && old = "IPV4V6")

def isSimilarPdpProfile (new old : PdpProfile) : Bool :=
  if containsText new.apnTypes "default" && containsText old.apnTypes "default" then false
  else
    new.apn = old.apn && isSimilarProperty new.proxyIpAddress old.proxyIpAddress &&
      isSimilarProtocol new.pdpProtocol old.pdpProtocol &&
      isSimilarProtocol new.roamPdpProtocol old.roamPdpProtocol &&
      new.mvnoType = old.mvnoType && new.mvnoMatchData = old.mvnoMatchData &&
      isSimilarProperty new.homeUrl old.homeUrl &&
      isSimilarProperty new.mmsIpAddress old.mmsIpAddress

/-- The merged profile, what is left of the other one, and the preferred id. -/
def mergePdpProfile (new old : PdpProfile) (preferId : Int) : PdpProfile × PdpProfile × Int :=
  let (new, old) := if containsText old.apnTypes "default" then (old, new) else (new, old)
  let merged :=
    { new with
      apnTypes := new.apnTypes ++ "," ++ old.apnTypes
      pdpProtocol := if new.pdpProtocol = "IPV4V6" then new.pdpProtocol else old.pdpProtocol
      roamPdpProtocol :=
        if new.roamPdpProtocol = "IPV4V6" then new.roamPdpProtocol else old.roamPdpProtocol
      homeUrl := if new.homeUrl = "" then old.homeUrl else new.homeUrl
      mmsIpAddress := if new.mmsIpAddress = "" then old.mmsIpAddress else new.mmsIpAddress
      proxyIpAddress := if new.proxyIpAddress = "" then old.proxyIpAddress else new.proxyIpAddress }
  (merged, old, if preferId = old.profileId then new.profileId else preferId)

/-- The inner loop of `TryMergeSimilarPdpProfile`: the profiles behind `p` that are similar to it are
merged into it and marked. -/
def mergeBehind (p : PdpProfile) (preferId : Int) :
    List PdpProfile → PdpProfile × List PdpProfile × Int
  | [] => (p, [], preferId)
  | q :: qs =>
    if isSimilarPdpProfile p q then
      let (p, old, preferId) := mergePdpProfile p q preferId
      let (p, qs, preferId) := mergeBehind p preferId qs
      (p, { old with profileId := -1 } :: qs, preferId)
    else
      let (p, qs, preferId) := mergeBehind p preferId qs
      (p, q :: qs, preferId)

/-- The outer loop, at most `fuel` profiles long. -/
def mergeFrom : Nat → Int → List PdpProfile → List PdpProfile × Int
  | 0, preferId, ps => (ps, preferId)
  | _, preferId, [] => ([], preferId)
  | fuel + 1, preferId, p :: ps =>
    if p.profileId = -1 then mergeFrom fuel preferId ps
    else
      let (p, ps, preferId) := mergeBehind p preferId ps
      let (ps, preferId) := mergeFrom fuel preferId ps
      (p :: ps, preferId)

def tryMergeSimilarPdpProfile (preferId : Int) (ps : List PdpProfile) : List PdpProfile × Int :=
  mergeFrom ps.length preferId ps

/-- A buffer of `ApnItem::Attribute` takes the text. -/
def fits (s : String) : Bool := s.utf8ByteSize < 256

/-- `MakeApn`; `none` when a text does not fit. -/
def makeApn (p : PdpProfile) : Option ApnItem :=
  if [p.apnTypes, p.mcc ++ p.mnc, p.pdpProtocol, p.roamPdpProtocol, p.apn, p.profileName, p.authUser,
      p.authPwd, p.homeUrl, p.proxyIpAddress, p.mmsIpAddress].all fits then
    some
      { apnTypes := split p.apnTypes ','
        attr :=
          { types := p.apnTypes
            numeric := p.mcc ++ p.mnc
            profileId := p.profileId
            protocol := p.pdpProtocol
            roamingProtocol := p.roamPdpProtocol
            authType := p.authType
            apn := p.apn
            apnName := p.profileName
            user := p.authUser
            password := p.authPwd
            isRoamingApn := p.isRoamingApn
            homeUrl := p.homeUrl
            proxyIpAddress := p.proxyIpAddress
            mmsIpAddress := p.mmsIpAddress
            isEdited := p.edited ≠ 0 } }
  else none

end PdpProfile

/-- What the query of all APNs comes to. -/
inductive ApnQuery
  | noHelper | error | rows (ps : List PdpProfile)

/-- What a reload reads from the SIM and from the database. The helpers are the instances that the
three functions take; `none` is a failed query; `regexMatch` is false for an ill-formed pattern. -/
structure ReloadEnv where
  operatorNumeric : String := "46000"
  isCTSimCard : Bool := false
  iccId : String := ""
  spn : String := ""
  imsi : String := ""
  gid1 : String := ""
  simId : Int := 1
  preferHelper : Bool := true
  reloadHelper : Bool := true
  mvnoHelper : Bool := true
  queryPreferApn : Option (List PdpProfile) := some []
  queryMvnoApns : String → String → MvnoType → Option (List PdpProfile) := fun _ _ _ => some []
  queryApns : String → String → ApnQuery := fun _ _ => .rows []
  regexMatch : String → String → Bool := fun data pattern => data = pattern

namespace ReloadEnv

variable (env : ReloadEnv)

/-- `GetCTOperator`: the numeric under which a card of China Telecom looks for its APNs. -/
def getCTOperator (numeric : String) : String :=
  let numeric := if env.isCTSimCard && numeric ≠ "46011" then "46003" else numeric
  if numeric = "46003" then
    let issuer := String.ofList (env.iccId.toList.take 7)
    if issuer = "8985231" || env.spn = "CTExcel" then "45431"
    else if issuer = "8985302" || issuer = "8985307" then
      if env.operatorNumeric = "46001" then "46001" else numeric
    else numeric
  else numeric

def numeric : String := env.getCTOperator env.operatorNumeric

def mcc : String := String.ofList (env.numeric.toList.take 3)

def mnc : String := String.ofList (env.numeric.toList.drop 3)

/-- Rows of a virtual operator are read only where the user has edited them. -/
def readApnResult (rows : List PdpProfile) : List PdpProfile :=
  (rows.map PdpProfile.makePdpProfile).filter fun p => p.mvnoType = "" || p.edited ≠ 0

def isMvnoDataMatched (mvnoDataFromSim : String) (p : PdpProfile) : Bool :=
  if mvnoDataFromSim = "" then false
  else if p.mvnoType = "iccid" || p.mvnoType = "spn" || p.mvnoType = "imsi" then
    env.regexMatch mvnoDataFromSim p.mvnoMatchData
  else if p.mvnoType = "gid1" then p.mvnoMatchData.toList.isPrefixOf mvnoDataFromSim.toList
  else false

/-- Without data on the SIM there is nothing to query. -/
def queryMvnoApnsByType (mvnoType : MvnoType) (mvnoDataFromSim : String) :
    Option (List PdpProfile) :=
  if mvnoDataFromSim = "" then some []
  else
    (env.queryMvnoApns env.mcc env.mnc mvnoType).map fun rows =>
      (rows.map PdpProfile.makePdpProfile).filter (env.isMvnoDataMatched mvnoDataFromSim)

/-- The profiles of the virtual operator; `none` when a query fails. -/
def mvnoProfiles : Option (List PdpProfile) :=
  if !env.mvnoHelper then none
  else do
    let bySpn ← env.queryMvnoApnsByType .spn env.spn
    let byImsi ← env.queryMvnoApnsByType .imsi env.imsi
    let byGid1 ← env.queryMvnoApnsByType .gid1 env.gid1
    let byIccId ← env.queryMvnoApnsByType .iccid env.iccId
    return bySpn ++ byImsi ++ byGid1 ++ byIccId

end ReloadEnv

/-- What a reload changes in the APN manager. -/
structure ApnTable where
  allApnItem : List ApnItem := []
  preferId : Int := -1
deriving DecidableEq

/-- The table, the number of items returned and the error message, empty when there is none. -/
structure ReloadResult where
  table : ApnTable
  count : Nat := 0
  errMsg : String := ""
deriving DecidableEq

namespace ApnTable

variable (env : ReloadEnv) (t : ApnTable)

/-- The item of the preferred profile is moved to the front. -/
def preferredFirst (preferId : Int) (items : List ApnItem) : List ApnItem :=
  match items.find? fun item => item.attr.profileId = preferId with
  | some item => item :: items.eraseP fun item => item.attr.profileId = preferId
  | none => items

/-- The items that the profiles make; the preferred one without types gets the default type. -/
def itemsOf (preferId : Int) (ps : List PdpProfile) : List ApnItem :=
  ps.filterMap fun p =>
    (if p.profileId = preferId ∧ p.apnTypes = "" then { p with apnTypes := "default" }
    else p).makeApn

def makeSpecificApnItem (ps : List PdpProfile) : ApnTable × Nat :=
  let (ps, preferId) := PdpProfile.tryMergeSimilarPdpProfile t.preferId ps
  let items := itemsOf preferId ps
  ({ allApnItem := preferredFirst preferId items, preferId }, items.length)

/-- The message of the failure, if there is one. -/
def getPreferId : ApnTable × Option String :=
  if env.simId ≤ 0 then (t, some "GetPreferId create failed due to invalid sim id")
  else if !env.preferHelper then (t, some "GetPreferId get cellularDataRdbHelper failed")
  else
    match env.queryPreferApn with
    | none => (t, some "GetPreferId query prefer apn fail")
    | some rows =>
      match ReloadEnv.readApnResult rows with
      | p :: _ => ({ t with preferId := p.profileId }, none)
      | [] => (t, none)

def createMvnoApnItems : ApnTable × Nat :=
  match env.mvnoProfiles with
  | none => (t, 0)
  | some ps => t.makeSpecificApnItem ps

/-- An empty answer is an error and yet replaces the table. -/
def createAllApnItemByDatabase : ReloadResult :=
  if env.numeric = "" then { table := t, errMsg := "numeric is empty" }
  else
    match { t with preferId := -1 }.getPreferId env with
    | (t, some errMsg) => { table := t, errMsg }
    | (t, none) =>
      if !env.reloadHelper then
        { table := t, errMsg := "CreateAllApnItemByDatabase get cellularDataRdbHelper failed" }
      else
        let (t, mvnoCount) := t.createMvnoApnItems env
        if 0 < mvnoCount then { table := t, count := mvnoCount }
        else
          match env.queryApns env.mcc env.mnc with
          | .noHelper => { table := t, errMsg := "dataShareHelper is null" }
          | .error => { table := t, errMsg := "query apns error" }
          | .rows rows =>
            let ps := ReloadEnv.readApnResult rows
            let (table, count) := t.makeSpecificApnItem ps
            { table, count, errMsg := if ps = [] then "read apn result empty" else "" }

end ApnTable
end CellularData
