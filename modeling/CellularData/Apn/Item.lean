import CellularData.Apn.Constants

/-! APN items and the tests that compare them. -/
namespace CellularData

/-- `ApnItem::Attribute` without the network-slice fields. -/
structure Attribute where
  types : String := ""
  numeric : String := ""
  profileId : Int := 0
  protocol : String := ""
  roamingProtocol : String := ""
  authType : Int := 0
  apn : String := ""
  apnName : String := ""
  user : String := ""
  password : String := ""
  isRoamingApn : Bool := false
  homeUrl : String := ""
  proxyIpAddress : String := ""
  mmsIpAddress : String := ""
  isEdited : Bool := false
deriving DecidableEq, Repr

structure ApnItem where
  attr : Attribute := {}
  apnTypes : List String := []
  badApn : Bool := false
deriving DecidableEq, Repr

namespace ApnItem

/-- Whether one of the item's types, in lower case, serves the requested type. -/
def canDealWithType (item : ApnItem) (type : ApnType) : Bool :=
  item.apnTypes.any fun t =>
    let apnType := t.toLower
    type.name = apnType ||
      (type = .internalDefault && apnType = ApnType.default_.name) ||
      (type ≠ .ia && apnType = "*")

def protocolInForce (item : ApnItem) (roamingState : Bool) : String :=
  if roamingState then item.attr.roamingProtocol else item.attr.protocol

/-- `IsCompatibleApnItem`; a null item is compatible with nothing. -/
def isCompatibleApnItem (newApnItem oldApnItem : Option ApnItem) (roamingState : Bool) : Bool :=
  match newApnItem, oldApnItem with
  | some new, some old =>
    new.protocolInForce roamingState = old.protocolInForce roamingState &&
      new.attr.profileId = old.attr.profileId && new.attr.authType = old.attr.authType &&
      new.attr.types = old.attr.types && new.attr.numeric = old.attr.numeric &&
      new.attr.apn = old.attr.apn && new.attr.apnName = old.attr.apnName &&
      new.attr.user = old.attr.user && new.attr.password = old.attr.password &&
      new.attr.proxyIpAddress = old.attr.proxyIpAddress &&
      new.attr.mmsIpAddress = old.attr.mmsIpAddress
  | _, _ => false

/-- `IsSameApnItem` also compares the roaming and edited marks and the home URL. -/
def isSameApnItem (new old : ApnItem) (roamingState : Bool) : Bool :=
  isCompatibleApnItem (some new) (some old) roamingState &&
    new.attr.isRoamingApn = old.attr.isRoamingApn && new.attr.isEdited = old.attr.isEdited &&
    new.attr.homeUrl = old.attr.homeUrl

end ApnItem
end CellularData
