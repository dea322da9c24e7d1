import NetGauge.Origin.Address
import NetGauge.Origin.Domain
import NetGauge.Text.Percent
import NetGauge.Text.Utf8

set_option autoImplicit false

/-! # Hosts

A host is a name or an address. A name is read with its percent-encoded bytes decoded, and kept in its
ASCII form; one that ends in a number there is meant as a version 4 address and must be one. -/

namespace NetGauge.Origin

/-- What is wrong with an origin. -/
inductive Fault where
  | noScheme
  | emptyHost
  | name
  | opaqueName
  | port
  | ipv4
  | ipv6
  deriving DecidableEq

/-- The wording of a fault. -/
def Fault.message : Fault → String
  | .noScheme => "relative URL without a base"
  | .emptyHost => "empty host"
  | .name => "invalid international domain name"
  | .opaqueName => "invalid domain character"
  | .port => "invalid port number"
  | .ipv4 => "invalid IPv4 address"
  | .ipv6 => "invalid IPv6 address"

/-- A host. -/
inductive Host where
  | named (name : String)
  | ipv4 (address : Ipv4)
  | ipv6 (address : Ipv6)
  deriving DecidableEq

namespace Host

/-- The text of a host. An address of version 6 stands in brackets. -/
def text : Host → String
  | .named name => name
  | .ipv4 address => address.text
  | .ipv6 address => "[" ++ address.text ++ "]"

/-- What stands between brackets, if a text begins with one. -/
def bracketed? (cs : List Char) : Option (Except Fault Host) :=
  match cs with
  | '[' :: rest => some (
      if rest.getLast? = some ']' then
        match Ipv6.parse? rest.dropLast with
        | some address => .ok (.ipv6 address)
        | none => .error .ipv6
      else .error .ipv6)
  | _ => none

/-- A name in its ASCII form, as a host. -/
def ofName (name : List Char) : Except Fault Host :=
  if name.isEmpty then .error .emptyHost
  else if Ipv4.isMeant name then
    match Ipv4.parse? name with
    | some address => .ok (.ipv4 address)
    | none => .error .ipv4
  else .ok (.named (String.ofList name))

/-- Reads a host. Bytes that are no text become a character that stands in no name. -/
def parse (cs : List Char) : Except Fault Host :=
  match bracketed? cs with
  | some host => host
  | none =>
    match Domain.ascii? (Text.decodeFrom none (Text.percentDecode cs)) with
    | some name => ofName name
    | none => .error .name

/-- Checks a host of a scheme that has rules of its own for hosts: whether there is one. -/
def checkOpaque (cs : List Char) : Except Fault Bool :=
  match bracketed? cs with
  | some host => host.map (fun _ => true)
  | none =>
    if cs.any (fun c => c.toNat = 0 || c = '\t' || c = '\n' || c = '\r' || Domain.isDelimiter c) then
      .error .opaqueName
    else .ok !cs.isEmpty

end Host

end NetGauge.Origin
