import CellularData.Lib.Channel
import CellularData.Lib.CharBuffer

/-! An APN attribute on its way through a parcel: the character buffers of `ApnItem::Attribute`
become the strings of `ApnAttribute`, are written, read and copied back. -/
namespace CellularData
open Lib

abbrev allApnItemCharLength : Nat := 256

abbrev ApnText := CharBuffer allApnItemCharLength

/-- `ApnItem::Attribute` with its buffers; the network-slice fields are not transported. -/
structure AttributeBuffers where
  types : ApnText := .zero _
  numeric : ApnText := .zero _
  profileId : Int := 0
  protocol : ApnText := .zero _
  roamingProtocol : ApnText := .zero _
  authType : Int := 0
  apn : ApnText := .zero _
  apnName : ApnText := .zero _
  user : ApnText := .zero _
  password : ApnText := .zero _
  isRoamingApn : Bool := false
  homeUrl : ApnText := .zero _
  proxyIpAddress : ApnText := .zero _
  mmsIpAddress : ApnText := .zero _
  isEdited : Bool := false
deriving DecidableEq

/-- Strings are bytes here. -/
structure ApnAttribute where
  types : List UInt8 := []
  numeric : List UInt8 := []
  profileId : Int := 0
  protocol : List UInt8 := []
  roamingProtocol : List UInt8 := []
  authType : Int := 0
  apn : List UInt8 := []
  apnName : List UInt8 := []
  user : List UInt8 := []
  password : List UInt8 := []
  isRoamingApn : Bool := false
  homeUrl : List UInt8 := []
  proxyIpAddress : List UInt8 := []
  mmsIpAddress : List UInt8 := []
  isEdited : Bool := false
deriving DecidableEq

inductive ParcelType
  | string | int32 | bool
deriving DecidableEq

abbrev ParcelType.Value : ParcelType → Type
  | .string => List UInt8
  | .int32 => Int
  | .bool => Bool

abbrev Parcel (P : Type) := Channel ParcelType ParcelType.Value P

namespace Parcel

variable {P : Type} (parcel : Parcel P)

def writeString (s : List UInt8) : StateT P Option Unit := parcel.write .string s
def writeInt32 (i : Int) : StateT P Option Unit := parcel.write .int32 i
def writeBool (b : Bool) : StateT P Option Unit := parcel.write .bool b
def readString : StateT P Option (List UInt8) := parcel.read .string
def readInt32 : StateT P Option Int := parcel.read .int32
def readBool : StateT P Option Bool := parcel.read .bool

end Parcel

namespace ApnAttribute

variable {P : Type} (parcel : Parcel P)

def marshalling (a : ApnAttribute) : StateT P Option Unit := do
  parcel.writeString a.types
  parcel.writeString a.numeric
  parcel.writeInt32 a.profileId
  parcel.writeString a.protocol
  parcel.writeString a.roamingProtocol
  parcel.writeInt32 a.authType
  parcel.writeString a.apn
  parcel.writeString a.apnName
  parcel.writeString a.user
  parcel.writeString a.password
  parcel.writeBool a.isRoamingApn
  parcel.writeString a.homeUrl
  parcel.writeString a.proxyIpAddress
  parcel.writeString a.mmsIpAddress
  parcel.writeBool a.isEdited

def unmarshallingExt (a : ApnAttribute) : StateT P Option ApnAttribute := do
  let apnName ← parcel.readString
  let user ← parcel.readString
  let password ← parcel.readString
  let isRoamingApn ← parcel.readBool
  let homeUrl ← parcel.readString
  let proxyIpAddress ← parcel.readString
  let mmsIpAddress ← parcel.readString
  let isEdited ← parcel.readBool
  return { a with
    apnName, user, password, isRoamingApn, homeUrl, proxyIpAddress, mmsIpAddress, isEdited }

/-- `none` is the null pointer. -/
def unmarshalling : StateT P Option ApnAttribute := do
  let types ← parcel.readString
  let numeric ← parcel.readString
  let profileId ← parcel.readInt32
  let protocol ← parcel.readString
  let roamingProtocol ← parcel.readString
  let authType ← parcel.readInt32
  let apn ← parcel.readString
  unmarshallingExt parcel
    { types, numeric, profileId, protocol, roamingProtocol, authType, apn }

/-- A buffer is read up to its first NUL. -/
def transferApnAttributeBeforeIpc (apnAttr : AttributeBuffers) : ApnAttribute where
  types := apnAttr.types.cString
  numeric := apnAttr.numeric.cString
  profileId := apnAttr.profileId
  protocol := apnAttr.protocol.cString
  roamingProtocol := apnAttr.roamingProtocol.cString
  authType := apnAttr.authType
  apn := apnAttr.apn.cString
  apnName := apnAttr.apnName.cString
  user := apnAttr.user.cString
  password := apnAttr.password.cString
  isRoamingApn := apnAttr.isRoamingApn
  homeUrl := apnAttr.homeUrl.cString
  proxyIpAddress := apnAttr.proxyIpAddress.cString
  mmsIpAddress := apnAttr.mmsIpAddress.cString
  isEdited := apnAttr.isEdited

/-- Each string is copied over the buffer without a terminator. -/
def transferApnAttributeAfterIpc (apnAttr : AttributeBuffers) (apnAfterTrans : ApnAttribute) :
    AttributeBuffers where
  types := apnAttr.types.copy apnAfterTrans.types (allApnItemCharLength - 1)
  numeric := apnAttr.numeric.copy apnAfterTrans.numeric (allApnItemCharLength - 1)
  profileId := apnAfterTrans.profileId
  protocol := apnAttr.protocol.copy apnAfterTrans.protocol (allApnItemCharLength - 1)
  roamingProtocol :=
    apnAttr.roamingProtocol.copy apnAfterTrans.roamingProtocol (allApnItemCharLength - 1)
  authType := apnAfterTrans.authType
  apn := apnAttr.apn.copy apnAfterTrans.apn (allApnItemCharLength - 1)
  apnName := apnAttr.apnName.copy apnAfterTrans.apnName (allApnItemCharLength - 1)
  user := apnAttr.user.copy apnAfterTrans.user (allApnItemCharLength - 1)
  password := apnAttr.password.copy apnAfterTrans.password (allApnItemCharLength - 1)
  isRoamingApn := apnAfterTrans.isRoamingApn
  homeUrl := apnAttr.homeUrl.copy apnAfterTrans.homeUrl (allApnItemCharLength - 1)
  proxyIpAddress :=
    apnAttr.proxyIpAddress.copy apnAfterTrans.proxyIpAddress (allApnItemCharLength - 1)
  mmsIpAddress := apnAttr.mmsIpAddress.copy apnAfterTrans.mmsIpAddress (allApnItemCharLength - 1)
  isEdited := apnAfterTrans.isEdited

/-- The whole way from one attribute to another. -/
def transport (parcel : Parcel P) (p : P) (source destination : AttributeBuffers) :
    Option AttributeBuffers := do
  let apnAfterTrans ← (do
    (transferApnAttributeBeforeIpc source).marshalling parcel
    unmarshalling parcel).run' p
  return transferApnAttributeAfterIpc destination apnAfterTrans

/-- The values in the order in which both sides treat them. -/
def values (a : ApnAttribute) : List (Sigma ParcelType.Value) :=
  [⟨.string, a.types⟩, ⟨.string, a.numeric⟩, ⟨.int32, a.profileId⟩, ⟨.string, a.protocol⟩,
    ⟨.string, a.roamingProtocol⟩, ⟨.int32, a.authType⟩, ⟨.string, a.apn⟩, ⟨.string, a.apnName⟩,
    ⟨.string, a.user⟩, ⟨.string, a.password⟩, ⟨.bool, a.isRoamingApn⟩, ⟨.string, a.homeUrl⟩,
    ⟨.string, a.proxyIpAddress⟩, ⟨.string, a.mmsIpAddress⟩, ⟨.bool, a.isEdited⟩]

variable {parcel} {contents : P → List (Sigma ParcelType.Value)}

theorem marshalling_writes (hp : parcel.Fifo contents) (a : ApnAttribute) :
    Channel.Writes contents (a.marshalling parcel) a.values := by
  unfold marshalling
  iterate 14 refine Channel.Writes.bind (hp.writes _ _) ?_
  exact hp.writes _ _

theorem unmarshalling_reads (hp : parcel.Fifo contents) (a : ApnAttribute) :
    Channel.Reads contents (unmarshalling parcel) a.values a := by
  unfold unmarshalling unmarshallingExt
  iterate 15 refine Channel.Reads.bind (hp.reads _ _) ?_
  exact Channel.Reads.pure _

/-! What arrives -/

/-- The fields that are character buffers on one side and strings on the other. -/
inductive TextField
  | types | numeric | protocol | roamingProtocol | apn | apnName | user | password | homeUrl
  | proxyIpAddress | mmsIpAddress
deriving DecidableEq, Repr

end ApnAttribute

def AttributeBuffers.text (a : AttributeBuffers) : ApnAttribute.TextField → ApnText
  | .types => a.types
  | .numeric => a.numeric
  | .protocol => a.protocol
  | .roamingProtocol => a.roamingProtocol
  | .apn => a.apn
  | .apnName => a.apnName
  | .user => a.user
  | .password => a.password
  | .homeUrl => a.homeUrl
  | .proxyIpAddress => a.proxyIpAddress
  | .mmsIpAddress => a.mmsIpAddress

/-- The transported fields are equal, the buffers as C strings. -/
structure AttributeBuffers.Agree (a b : AttributeBuffers) : Prop where
  text : ∀ f, (a.text f).cString = (b.text f).cString
  profileId : a.profileId = b.profileId
  authType : a.authType = b.authType
  isRoamingApn : a.isRoamingApn = b.isRoamingApn
  isEdited : a.isEdited = b.isEdited

namespace ApnAttribute

variable {source destination : AttributeBuffers}

theorem transport_eq {p : P} (hp : parcel.Fifo contents) (hempty : contents p = []) :
    transport parcel p source destination =
      some (transferApnAttributeAfterIpc destination (transferApnAttributeBeforeIpc source)) := by
  obtain ⟨q, hq, -⟩ := Channel.reads_of_writes hempty (marshalling_writes hp _)
    (unmarshalling_reads hp (transferApnAttributeBeforeIpc source))
  unfold transport
  rw [StateT.run'_eq, hq]
  rfl

theorem text_received (f : TextField) :
    (transferApnAttributeAfterIpc destination (transferApnAttributeBeforeIpc source)).text f =
      (destination.text f).copy (source.text f).cString (allApnItemCharLength - 1) := by
  cases f <;> rfl

/-- The text of a field arrives exactly when the buffer it arrives in already has a NUL where the
text ends. -/
theorem text_agrees_iff (f : TextField) (hsource : (source.text f).Terminated) :
    ((transferApnAttributeAfterIpc destination (transferApnAttributeBeforeIpc source)).text f).cString
        = (source.text f).cString ↔
      (destination.text f).get (source.text f).strlen = 0 := by
  have hlt : (source.text f).strlen < allApnItemCharLength := CharBuffer.strlen_lt hsource
  rw [text_received]
  apply CharBuffer.cString_copy_eq_iff CharBuffer.zero_notMem_cString _ hlt
  show (source.text f).strlen ≤ allApnItemCharLength - 1
  omega

/-- An attribute arrives exactly when each buffer of the destination already has a NUL where the text
of the source ends; nothing terminates the text that is copied over an older one. -/
theorem transport_agrees_iff {p : P} (hp : parcel.Fifo contents) (hempty : contents p = [])
    (hsource : ∀ f, (source.text f).Terminated) :
    ∃ received, transport parcel p source destination = some received ∧
      (received.Agree source ↔
        ∀ f, (destination.text f).get (source.text f).strlen = 0) := by
  refine ⟨_, transport_eq hp hempty, ?_⟩
  constructor
  · intro hagree f
    exact (text_agrees_iff f (hsource f)).mp (hagree.text f)
  · intro hnul
    exact ⟨fun f => (text_agrees_iff f (hsource f)).mpr (hnul f), rfl, rfl, rfl, rfl⟩

/-- Types "mms". -/
def mmsAttribute : AttributeBuffers where
  types := (CharBuffer.zero _).copy [109, 109, 115] (allApnItemCharLength - 1)

/-- Types "*". -/
def anyAttribute : AttributeBuffers where
  types := (CharBuffer.zero _).copy [42] (allApnItemCharLength - 1)

/-- A fresh destination receives the source. -/
theorem transport_agrees_iff_fresh :
    ∃ received, transport Channel.queue [] mmsAttribute {} = some received ∧
      received.Agree mmsAttribute := by
  have hsource : ∀ f, (mmsAttribute.text f).Terminated := by
    intro f
    cases f <;> decide +kernel
  have hnul : ∀ f, (({} : AttributeBuffers).text f).get (mmsAttribute.text f).strlen = 0 := by
    intro f
    cases f <;> decide +kernel
  obtain ⟨received, hreceived, hiff⟩ :
      ∃ received, transport Channel.queue [] mmsAttribute {} = some received ∧
        (received.Agree mmsAttribute ↔
          ∀ f, (({} : AttributeBuffers).text f).get (mmsAttribute.text f).strlen = 0) :=
    transport_agrees_iff Channel.queue_fifo rfl hsource
  exact ⟨received, hreceived, hiff.mpr hnul⟩

/-- Types "*" received where "mms" stood read "*ms". -/
theorem older_text_lingers :
    (∀ f, (anyAttribute.text f).Terminated) ∧
      ∃ received, transport Channel.queue [] anyAttribute mmsAttribute = some received ∧
        received.types.cString = [42, 109, 115] ∧ ¬ received.Agree anyAttribute := by
  refine ⟨?_, _, transport_eq Channel.queue_fifo rfl, by decide +kernel, fun hagree => ?_⟩
  · intro f
    cases f <;> decide +kernel
  · have h := hagree.text .types
    revert h
    decide +kernel

end ApnAttribute
end CellularData
