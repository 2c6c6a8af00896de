/-!
# Faults of addresses
-/

namespace Restage

/-- Why a text is no address. -/
inductive UrlFault where
  | emptyHost
  | badDomain
  | badPort
  | badIpv4
  | badIpv6
  | badOpaqueHost
  | noScheme
  deriving DecidableEq, Repr

/-- The text a fault is reported with. -/
def UrlFault.message : UrlFault → String
  | emptyHost => "empty host"
  | badDomain => "invalid international domain name"
  | badPort => "invalid port number"
  | badIpv4 => "invalid IPv4 address"
  | badIpv6 => "invalid IPv6 address"
  | badOpaqueHost => "invalid domain character"
  | noScheme => "relative URL without a base"

end Restage
