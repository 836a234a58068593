import ClosedLoop.Library.IpAddress

namespace ClosedLoop.Library

/-- The 32 bits of an IPv4 address as a number. -/
def IPv4Address.toNat (address : IPv4Address) : Nat :=
  [address.first, address.second, address.third, address.fourth].foldl (fun value octet => value * 256 + octet.val) 0

/-- The 128 bits of an IPv6 address as a number. The zone identifier is not part of it. -/
def IPv6Address.toNat (address : IPv6Address) : Nat :=
  address.hextets.foldl (fun value hextet => value * 65536 + hextet.val) 0

/-- The address with these 32 bits. -/
def IPv4Address.ofNat (value : Nat) : IPv4Address :=
  ⟨Fin.ofNat 256 (value / 2 ^ 24), Fin.ofNat 256 (value / 2 ^ 16), Fin.ofNat 256 (value / 2 ^ 8), Fin.ofNat 256 value⟩

/-- The address with these 128 bits and no zone identifier. -/
def IPv6Address.ofNat (value : Nat) : IPv6Address :=
  ⟨(List.range 8).map fun index => Fin.ofNat 65536 (value / 65536 ^ (7 - index)), by simp, none⟩

/-- A network is a network address and a prefix length. -/
structure IPNetwork where
  networkAddress : IPAddress
  prefixLength : Nat
  deriving DecidableEq, Repr

namespace IPNetwork

/-- Two numbers of `width` bits agree on their first `length` bits. -/
def sharesBits (width length first second : Nat) : Bool :=
  first / 2 ^ (width - length) = second / 2 ^ (width - length)

/-- A network never contains an address of the other version. -/
def contains (network : IPNetwork) (address : IPAddress) : Bool :=
  match network.networkAddress, address with
  | .v4 base, .v4 other => sharesBits 32 network.prefixLength base.toNat other.toNat
  | .v6 base, .v6 other => sharesBits 128 network.prefixLength base.toNat other.toNat
  | _, _ => false

def octets (first second third fourth : Nat) (length : Nat) : IPNetwork :=
  ⟨.v4 ⟨Fin.ofNat 256 first, Fin.ofNat 256 second, Fin.ofNat 256 third, Fin.ofNat 256 fourth⟩, length⟩

/-- The leading hextets of an IPv6 network; the others are zero. -/
def hextets (leading : List Nat) (length : Nat) : IPNetwork :=
  ⟨.v6 ⟨(List.range 8).map fun index => Fin.ofNat 65536 (leading.getD index 0), by simp, none⟩, length⟩

/-- A number of `width` bits without the bits after its first `length` bits. -/
def maskBits (width length value : Nat) : Nat := value / 2 ^ (width - length) * 2 ^ (width - length)

/-- With `strict=False` the host bits are dropped, and a zone identifier is dropped with them. -/
def mask (address : IPAddress) (length : Nat) : IPAddress :=
  match address with
  | .v4 plain => .v4 (IPv4Address.ofNat (maskBits 32 length plain.toNat))
  | .v6 plain =>
      if maskBits 128 length plain.toNat = plain.toNat then .v6 plain
      else .v6 (IPv6Address.ofNat (maskBits 128 length plain.toNat))

/-- A prefix length is a decimal number that is not above the width. -/
def readPrefix (width : Nat) (text : List Char) : Option Nat := do
  if text = [] ∨ 4300 < text.length then none
  let length ← IPAddress.readDigits 10 text
  if length ≤ width then some length else none

/-- The prefix length whose netmask has these bits. -/
def prefixOfMask (bits : Nat) : Option Nat :=
  (List.range 33).find? fun length => bits = 2 ^ 32 - 2 ^ (32 - length)

/-- The netmask of an IPv4 network is a prefix length, a netmask, or a hostmask. -/
def readNetmask (text : List Char) : Option Nat :=
  match readPrefix 32 text with
  | some length => some length
  | none => do
      let address ← IPAddress.parseV4 text
      match prefixOfMask address.toNat with
      | some length => some length
      | none => prefixOfMask (2 ^ 32 - 1 - address.toNat)

def parseNetworkV4 (text : List Char) : Option IPNetwork :=
  match text.splitOn '/' with
  | [address] => do return ⟨.v4 (← IPAddress.parseV4 address), 32⟩
  | [address, netmask] => do
      let base ← IPAddress.parseV4 address
      let length ← readNetmask netmask
      return ⟨mask (.v4 base) length, length⟩
  | _ => none

def parseNetworkV6 (text : List Char) : Option IPNetwork :=
  match text.splitOn '/' with
  | [address] => do return ⟨.v6 (← IPAddress.parseV6 address), 128⟩
  | [address, netmask] => do
      let base ← IPAddress.parseV6 address
      let length ← readPrefix 128 netmask
      return ⟨mask (.v6 base) length, length⟩
  | _ => none

/-- `ipaddress.ip_network(text, strict=False)` tries IPv4 before IPv6. -/
def parse (text : String) : Option IPNetwork :=
  match parseNetworkV4 text.toList with
  | some network => some network
  | none => parseNetworkV6 text.toList

/-- `str` of a network. -/
def print (network : IPNetwork) : String :=
  String.ofList (network.networkAddress.toChars ++ '/' :: Nat.toDigits 10 network.prefixLength)

end IPNetwork

namespace IPAddress

open IPNetwork

def privateNetworks : List IPNetwork :=
  [octets 0 0 0 0 8, octets 10 0 0 0 8, octets 127 0 0 0 8, octets 169 254 0 0 16, octets 172 16 0 0 12,
    octets 192 0 0 0 24, octets 192 0 0 170 31, octets 192 0 2 0 24, octets 192 168 0 0 16,
    octets 198 18 0 0 15, octets 198 51 100 0 24, octets 203 0 113 0 24, octets 240 0 0 0 4,
    octets 255 255 255 255 32,
    hextets [0, 0, 0, 0, 0, 0, 0, 1] 128, hextets [] 128, hextets [0, 0, 0, 0, 0, 0xffff] 96,
    hextets [0x64, 0xff9b, 1] 48, hextets [0x100] 64, hextets [0x2001] 23, hextets [0x2001, 0xdb8] 32,
    hextets [0x2002] 16, hextets [0xfc00] 7, hextets [0xfe80] 10]

def privateNetworksExceptions : List IPNetwork :=
  [octets 192 0 0 9 32, octets 192 0 0 10 32,
    hextets [0x2001, 1, 0, 0, 0, 0, 0, 1] 128, hextets [0x2001, 1, 0, 0, 0, 0, 0, 2] 128,
    hextets [0x2001, 3] 32, hextets [0x2001, 4, 0x112] 48, hextets [0x2001, 0x20] 28,
    hextets [0x2001, 0x30] 28]

def reservedNetworks : List IPNetwork :=
  [octets 240 0 0 0 4,
    hextets [] 8, hextets [0x100] 8, hextets [0x200] 7, hextets [0x400] 6, hextets [0x800] 5,
    hextets [0x1000] 4, hextets [0x4000] 3, hextets [0x6000] 3, hextets [0x8000] 3, hextets [0xa000] 3,
    hextets [0xc000] 3, hextets [0xe000] 4, hextets [0xf000] 5, hextets [0xf800] 6, hextets [0xfe00] 9]

def inAny (networks : List IPNetwork) (address : IPAddress) : Bool := networks.any (·.contains address)

def isUnspecified : IPAddress → Bool
  | .v4 address => address.toNat = 0
  | .v6 address => address.toNat = 0

def isLoopback : IPAddress → Bool
  | .v4 address => (octets 127 0 0 0 8).contains (.v4 address)
  | .v6 address => address.toNat = 1

def isLinkLocal : IPAddress → Bool := inAny [octets 169 254 0 0 16, hextets [0xfe80] 10]

def isMulticast : IPAddress → Bool := inAny [octets 224 0 0 0 4, hextets [0xff00] 8]

def isReserved : IPAddress → Bool := inAny reservedNetworks

/-- The last 32 bits of an IPv4-mapped IPv6 address are an IPv4 address. -/
def ipv4Mapped (address : IPv6Address) : Option IPv4Address :=
  let value := address.toNat
  if value / 2 ^ 32 = 0xffff then some (IPv4Address.ofNat value) else none

/-- An IPv4-mapped address is private when its IPv4 address is. -/
def isPrivate (address : IPAddress) : Bool :=
  let plain := match address with
    | .v4 _ => address
    | .v6 sixth => ((ipv4Mapped sixth).map IPAddress.v4).getD address
  inAny privateNetworks plain && !inAny privateNetworksExceptions plain

end IPAddress

end ClosedLoop.Library
