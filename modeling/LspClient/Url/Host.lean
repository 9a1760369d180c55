import LspClient.Url.Domain
import LspClient.Url.Ipv6
import LspClient.Url.Percent

/-!
# Hosts

A host is a domain or an address. Between brackets stands an address of 128 bits; any other text is
a domain, in which bytes may be percent-encoded, and a domain that ends in a number has to be an
address of 32 bits.
-/

namespace LspClient.Url

/-- Why a text is no URL. -/
inductive Fault where
  | emptyHost
  | invalidDomain
  | invalidIpv4
  | invalidIpv6
  | invalidPort
  deriving DecidableEq, Repr

/-- The wording of a fault. -/
def Fault.message : Fault → String
  | .emptyHost => "empty host"
  | .invalidDomain => "invalid international domain name"
  | .invalidIpv4 => "invalid IPv4 address"
  | .invalidIpv6 => "invalid IPv6 address"
  | .invalidPort => "invalid port number"

/-- A host. -/
inductive Host where
  /-- A domain in ASCII. -/
  | domain (name : List Char)
  | ipv4 (address : Ipv4)
  | ipv6 (address : Ipv6)
  deriving DecidableEq, Repr

namespace Host

/-- A host as it is written in a URL. -/
def shown : Host → List Char
  | domain name => name
  | ipv4 address => address.shown
  | ipv6 address => '[' :: (address.shown ++ [']'])

/-- The host that a domain in ASCII is. -/
def ofDomain (name : List Char) : Except Fault Host :=
  if name = [] then .error .emptyHost
  else if Ipv4.isMeant name then
    match Ipv4.parse name with
    | some address => .ok (.ipv4 address)
    | none => .error .invalidIpv4
  else .ok (.domain name)

/-- The host that a text stands for. -/
def parse (s : List Char) : Except Fault Host :=
  match s with
  | [] => .error .emptyHost
  | '[' :: inner =>
    if inner.getLast? = some ']' then
      match Ipv6.parse inner.dropLast with
      | some address => .ok (.ipv6 address)
      | none => .error .invalidIpv6
    else .error .invalidIpv6
  | s =>
    match (Utf8.decode (decode s)).toOption.bind domainToAscii with
    | some name => ofDomain name
    | none => .error .invalidDomain

end Host

end LspClient.Url
