namespace ScanWatch.Url

inductive Error where
  | noScheme
  | emptyHost
  | invalidPort
  | invalidIPv4
  | invalidIPv6
  | invalidDomain
  /-- A character that no host may have. -/
  | invalidHostCharacter
  /-- The scheme is followed by an opaque text, not by a path that could be extended. -/
  | opaquePath
deriving DecidableEq, Repr

def Error.message (address : String) : Error → String
  | noScheme => "relative URL without a base"
  | emptyHost => "empty host"
  | invalidPort => "invalid port number"
  | invalidIPv4 => "invalid IPv4 address"
  | invalidIPv6 => "invalid IPv6 address"
  | invalidDomain => "invalid international domain name"
  | invalidHostCharacter => "invalid domain character"
  | opaquePath => address ++ " cannot be used as a base url"

end ScanWatch.Url
