/-
# Vpn.IpAddr — the addresses of `std::net`

An address is its bits, most significant octet first, as `u32::from` and
`u128::from` read it. `octets` and `ofOctets` are the byte forms the packet
headers and the control messages carry; they are inverse in both directions.
-/
import FlowWeave.Theory.BigEndian

namespace FlowWeave.Vpn

open Theory.BigEndian

set_option autoImplicit false

structure Ipv4Addr where
  bits : BitVec 32
  deriving DecidableEq, Repr

structure Ipv6Addr where
  bits : BitVec 128
  deriving DecidableEq, Repr

inductive IpAddr where
  | v4 (address : Ipv4Addr)
  | v6 (address : Ipv6Addr)
  deriving DecidableEq, Repr

namespace Ipv4Addr

def unspecified : Ipv4Addr := ⟨0⟩

def broadcast : Ipv4Addr := ⟨0xffffffff⟩

def octets (address : Ipv4Addr) : List UInt8 := toBE 4 address.bits.toNat

def ofOctets (bytes : List UInt8) : Ipv4Addr := ⟨BitVec.ofNat 32 (fromBE bytes)⟩

def isUnspecified (address : Ipv4Addr) : Bool := address = unspecified

def isLoopback (address : Ipv4Addr) : Bool := address.octets.getD 0 0 = 127

def isLinkLocal (address : Ipv4Addr) : Bool :=
  address.octets.getD 0 0 = 169 && address.octets.getD 1 0 = 254

def isMulticast (address : Ipv4Addr) : Bool :=
  224 ≤ address.octets.getD 0 0 && address.octets.getD 0 0 ≤ 239

@[simp] theorem octets_length (address : Ipv4Addr) : address.octets.length = 4 := toBE_length _ _

@[simp] theorem ofOctets_octets (address : Ipv4Addr) : ofOctets address.octets = address := by
  rw [ofOctets, octets, fromBE_toBE (by simpa using address.bits.isLt), BitVec.ofNat_toNat,
    BitVec.setWidth_eq]

theorem octets_ofOctets {bytes : List UInt8} (width : bytes.length = 4) :
    (ofOctets bytes).octets = bytes := by
  have small : fromBE bytes < 2 ^ 32 := by simpa [width] using fromBE_lt bytes
  rw [octets, ofOctets, BitVec.toNat_ofNat, Nat.mod_eq_of_lt small, toBE_fromBE_of_length width]

end Ipv4Addr

namespace Ipv6Addr

def unspecified : Ipv6Addr := ⟨0⟩

def octets (address : Ipv6Addr) : List UInt8 := toBE 16 address.bits.toNat

def ofOctets (bytes : List UInt8) : Ipv6Addr := ⟨BitVec.ofNat 128 (fromBE bytes)⟩

def isUnspecified (address : Ipv6Addr) : Bool := address = unspecified

def isLoopback (address : Ipv6Addr) : Bool := address = ⟨1⟩

/-- The first segment masked with `0xffc0` is `0xfe80`. -/
def isUnicastLinkLocal (address : Ipv6Addr) : Bool :=
  (address.bits >>> 112) &&& 0xffc0 = 0xfe80

def isMulticast (address : Ipv6Addr) : Bool := address.octets.getD 0 0 = 0xff

@[simp] theorem octets_length (address : Ipv6Addr) : address.octets.length = 16 := toBE_length _ _

@[simp] theorem ofOctets_octets (address : Ipv6Addr) : ofOctets address.octets = address := by
  rw [ofOctets, octets, fromBE_toBE (by simpa using address.bits.isLt), BitVec.ofNat_toNat,
    BitVec.setWidth_eq]

theorem octets_ofOctets {bytes : List UInt8} (width : bytes.length = 16) :
    (ofOctets bytes).octets = bytes := by
  have small : fromBE bytes < 2 ^ 128 := by simpa [width] using fromBE_lt bytes
  rw [octets, ofOctets, BitVec.toNat_ofNat, Nat.mod_eq_of_lt small, toBE_fromBE_of_length width]

end Ipv6Addr

/-- A packet is of the family of its addresses. -/
inductive AddressFamily where
  | ipv4
  | ipv6
  deriving DecidableEq, Repr

def IpAddr.family : IpAddr → AddressFamily
  | .v4 _ => .ipv4
  | .v6 _ => .ipv6

end FlowWeave.Vpn
