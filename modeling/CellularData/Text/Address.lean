import Mathlib.Algebra.Order.Ring.Int

/-! Address, MTU and proxy texts: the parsing functions of `CellularDataUtils` and of the connection
machine. -/
namespace CellularData

inductive IpType
  | ipv4 | ipv6
deriving DecidableEq, Repr

structure AddressInfo where
  ip : String := ""
  netMask : String := ""
  type : IpType := .ipv4
  prefixLen : Nat := 0
deriving DecidableEq, Repr

def splitFrom (flag : Char) (segment : List Char) : List Char → List String
  | [] => if segment = [] then [] else [String.ofList segment.reverse]
  | c :: cs =>
    if c = flag then String.ofList segment.reverse :: splitFrom flag [] cs
    else splitFrom flag (c :: segment) cs

/-- `Split`; the text after the last delimiter is a segment unless it is empty. -/
def split (input : String) (flag : Char) : List String := splitFrom flag [] input.toList

def decimalValue (s : List Char) : Nat :=
  s.foldl (fun n c => 10 * n + (c.toNat - '0'.toNat)) 0

/-- `std::from_chars` in base ten for an `int32_t`: the number a text begins with and the rest. -/
def fromChars (s : List Char) : Option (Int × List Char) :=
  let negative := s.head? = some '-'
  let digits := if negative then s.tail else s
  let text := digits.takeWhile Char.isDigit
  let value : Int := if negative then -(decimalValue text) else decimalValue text
  if text = [] ∨ value < -(2 ^ 31) ∨ 2 ^ 31 ≤ value then none
  else some (value, digits.dropWhile Char.isDigit)

/-- A non-empty text of decimal digits. `IsValidDecValue` of the core service is a parameter of the
parsers; the functions that call them take it to be this test. -/
def isDecValue (s : String) : Bool := s.toList ≠ [] && s.toList.all Char.isDigit

/-- `ConvertStrToUint` for a text of digits; a number that does not fit leaves the value alone. -/
def convertStrToUint (s : String) (value : Nat) : Nat :=
  let n := decimalValue s.toList
  if n < 256 then n else value

def parseIpItem (isValidDecValue : String → Bool) (ipItem : String) : Option AddressInfo :=
  match split ipItem '/' with
  | [] => none
  | ip :: rest =>
    let info : AddressInfo :=
      if '.' ∈ ipItem.toList then
        if 4 < (split ip '.').length then { ip, type := .ipv6, prefixLen := 128 }
        else { ip, type := .ipv4, prefixLen := 32 }
      else { ip, type := .ipv6, prefixLen := 128 }
    match rest with
    | len :: _ =>
      if isValidDecValue len then
        some { info with prefixLen := convertStrToUint len info.prefixLen }
      else some info
    | [] => some info

def parseIpAddr (isValidDecValue : String → Bool) (address : String) : List AddressInfo :=
  (split address ' ').filterMap (parseIpItem isValidDecValue)

def parseNormalIpAddr (address : String) : List AddressInfo :=
  (split address ' ').map fun ip =>
    if ':' ∈ ip.toList then { ip, type := .ipv6, prefixLen := 128 }
    else { ip, type := .ipv4, prefixLen := 32 }

/-- The loop bound is the array's size as a `uint8_t`. -/
def hasMatchedIpTypeAddrs (ipType : IpType) (ipInfoArray : List AddressInfo) : Bool :=
  (ipInfoArray.take (ipInfoArray.length % 256)).any fun a => a.type = ipType

def getIpType (ipInfoArray : List AddressInfo) : String :=
  if hasMatchedIpTypeAddrs .ipv4 ipInfoArray && hasMatchedIpTypeAddrs .ipv6 ipInfoArray then "IPV4V6"
  else if hasMatchedIpTypeAddrs .ipv4 ipInfoArray then "IPV4"
  else if hasMatchedIpTypeAddrs .ipv6 ipInfoArray then "IPV6"
  else ""

/-- The loop of `GetMtuSizeFromOpCfg` over the entries; `mtuValue` keeps the last number parsed. -/
def mtuFromEntries (strToInt : String → Option Int) (ipType : String) :
    List String → Int → Int → Int
  | [], _, mtuSize => mtuSize
  | entry :: rest, mtuValue, mtuSize =>
    match split entry ':' with
    | [type, number] =>
      if type = "" ∨ number = "" then mtuSize
      else
        let value := (strToInt number).getD mtuValue
        if value = -1 then mtuSize
        else mtuFromEntries strToInt ipType rest value (if type = ipType then value else mtuSize)
    | _ => mtuSize

def getMtuSizeFromOpCfg (strToInt : String → Option Int) (mtuString ipType : String)
    (mtuSize : Int) : Int :=
  mtuFromEntries strToInt ipType (split mtuString ';') (-1) mtuSize

/-- All pieces between colons, also empty ones. -/
def proxyPieces (segment : List Char) : List Char → List String
  | [] => [String.ofList segment.reverse]
  | c :: cs =>
    if c = ':' then String.ofList segment.reverse :: proxyPieces [] cs
    else proxyPieces (c :: segment) cs

structure HttpProxy where
  host : String := ""
  port : Nat := 0
deriving DecidableEq, Repr

/-- `none` stands for the exception that `std::stoi` throws on a number beyond an `int`. -/
def splitProxyIpAddress (isValidDecValue : String → Bool) (proxyIpAddress : String) :
    Option HttpProxy :=
  match proxyPieces [] proxyIpAddress.toList with
  | [host] => some { host }
  | [host, port] =>
    if isValidDecValue port then
      let n := decimalValue port.toList
      if n < 2 ^ 31 then some { host, port := n % 2 ^ 16 } else none
    else some { host }
  | _ => some {}

end CellularData
