import HushWire.Noise

namespace HushWire

/-!
# Addresses, IPv4 packets and routes

The routing metadata of an interface: IPv4 packets as far as their header is
checked, prefixes, peers and routes, and the lookup of the peer of a
destination.
-/

/-- An IPv4 address, most significant byte first. -/
abbrev Ipv4Addr := BitVec 32

namespace Ipv4Addr

/-- The address with the given bytes. -/
def ofOctets (first second third fourth : UInt8) : Ipv4Addr :=
  first.toBitVec ++ second.toBitVec ++ third.toBitVec ++ fourth.toBitVec

/-- The bytes of an address. -/
def octets (address : Ipv4Addr) : Vector UInt8 4 :=
  #v[.ofBitVec (address.extractLsb' 24 8), .ofBitVec (address.extractLsb' 16 8),
    .ofBitVec (address.extractLsb' 8 8), .ofBitVec (address.extractLsb' 0 8)]

@[simp] theorem ofOctets_octets (address : Ipv4Addr) :
    ofOctets address.octets[0] address.octets[1] address.octets[2]
      address.octets[3] = address := by
  change
    (address.extractLsb' 24 8 ++ address.extractLsb' 16 8 ++
      address.extractLsb' 8 8 ++ address.extractLsb' 0 8 :
        BitVec (8 + 8 + 8 + 8)) = address
  ext index bound
  simp only [BitVec.getElem_append, BitVec.getElem_extractLsb']
  split
  · grind
  · split
    · grind
    · split <;> grind

@[simp] theorem octets_ofOctets (first second third fourth : UInt8) :
    octets (ofOctets first second third fourth) =
      #v[first, second, third, fourth] := by
  have bytes (high mid low last : BitVec 8) :
      (high ++ mid ++ low ++ last).extractLsb' 24 8 = high ∧
        (high ++ mid ++ low ++ last).extractLsb' 16 8 = mid ∧
        (high ++ mid ++ low ++ last).extractLsb' 8 8 = low ∧
        (high ++ mid ++ low ++ last).extractLsb' 0 8 = last := by
    refine ⟨?_, ?_, ?_, ?_⟩ <;> ext index bound <;>
      simp only [BitVec.getElem_extractLsb', BitVec.getLsbD_append] <;>
      grind
  obtain ⟨isFirst, isSecond, isThird, isFourth⟩ :=
    bytes first.toBitVec second.toBitVec third.toBitVec fourth.toBitVec
  have octet {bits : BitVec 8} {byte : UInt8} (same : bits = byte.toBitVec) :
      UInt8.ofBitVec bits = byte :=
    congrArg UInt8.ofBitVec same
  have each :
      [UInt8.ofBitVec
          ((ofOctets first second third fourth).extractLsb' 24 8),
        UInt8.ofBitVec
          ((ofOctets first second third fourth).extractLsb' 16 8),
        UInt8.ofBitVec
          ((ofOctets first second third fourth).extractLsb' 8 8),
        UInt8.ofBitVec
          ((ofOctets first second third fourth).extractLsb' 0 8)] =
        [first, second, third, fourth] := by
    refine List.cons_eq_cons.mpr ⟨octet isFirst, ?_⟩
    refine List.cons_eq_cons.mpr ⟨octet isSecond, ?_⟩
    refine List.cons_eq_cons.mpr ⟨octet isThird, ?_⟩
    exact List.cons_eq_cons.mpr ⟨octet isFourth, rfl⟩
  exact Vector.toList_inj.mp each

/-- Bytes in decimal, separated by dots. -/
def dotted (bytes : List UInt8) : String :=
  ".".intercalate (bytes.map toString)

/-- The dotted form. -/
def text (address : Ipv4Addr) : String :=
  dotted address.octets.toList

end Ipv4Addr

inductive IpAddr where
  | v4 (address : Ipv4Addr)
  | v6 (address : BitVec 128)
  deriving DecidableEq

namespace IpAddr

def isUnspecified : IpAddr → Bool
  | .v4 address => address = 0
  | .v6 address => address = 0

def isIpv4 : IpAddr → Bool
  | .v4 _ => true
  | .v6 _ => false

def toIpv4? : IpAddr → Option Ipv4Addr
  | .v4 address => some address
  | .v6 _ => none

end IpAddr

structure SocketAddr where
  ip : IpAddr
  port : UInt16
  deriving DecidableEq

inductive PacketError where
  | tooShort (length : Nat)
  | notIpv4 (version : UInt8)
  | headerTooLong (headerLen packetLen : Nat)
  deriving DecidableEq

/-- The text of an error. -/
def PacketError.message : PacketError → String
  | .tooShort length =>
      s!"packet is too short for an IPv4 header: {length} bytes"
  | .notIpv4 version => s!"packet is not IPv4: version={version}"
  | .headerTooLong headerLen packetLen =>
      "IPv4 header length exceeds packet length: " ++
        s!"header={headerLen} packet={packetLen}"

/-- A packet that is long enough for the fields of an IPv4 header. -/
structure Ipv4Packet where
  bytes : Bytes
  size : 20 ≤ bytes.length

namespace Ipv4Packet

def parse (bytes : Bytes) : Except PacketError Ipv4Packet :=
  if short : bytes.length < 20 then
    .error (.tooShort bytes.length)
  else
    have size : 20 ≤ bytes.length := Nat.le_of_not_lt short
    let version := bytes[0] >>> 4
    if version ≠ 4 then
      .error (.notIpv4 version)
    else
      let headerLen := (bytes[0] &&& 0x0f).toNat * 4
      if bytes.length < headerLen then
        .error (.headerTooLong headerLen bytes.length)
      else
        .ok ⟨bytes, size⟩

def destination (packet : Ipv4Packet) : Ipv4Addr :=
  have size : 20 ≤ packet.bytes.length := packet.size
  packet.bytes[16].toBitVec ++ packet.bytes[17].toBitVec ++
    packet.bytes[18].toBitVec ++ packet.bytes[19].toBitVec

end Ipv4Packet

/-- Prefix lengths can be written as numerals. -/
instance prefixLengths_neZero : NeZero 33 :=
  ⟨by decide⟩

/-- An IPv4 prefix. -/
structure Ipv4Net where
  address : Ipv4Addr
  prefixLen : Fin 33
  deriving DecidableEq

namespace Ipv4Net

/-- The address agrees with the prefix on its leading bits. -/
def contains (net : Ipv4Net) (address : Ipv4Addr) : Bool :=
  let hostBits := 32 - net.prefixLen.val
  address >>> hostBits = net.address >>> hostBits

/-- The address without its host bits. -/
def network (net : Ipv4Net) : Ipv4Addr :=
  let hostBits := 32 - net.prefixLen.val
  (net.address >>> hostBits) <<< hostBits

/-- The prefix as it is written. -/
def text (net : Ipv4Net) : String :=
  s!"{Ipv4Addr.text net.address}/{net.prefixLen.val}"

end Ipv4Net

/-- A configured endpoint, whose host may be an IP literal or a DNS name. -/
structure PeerEndpoint where
  host : String
  port : UInt16
  literal : Option SocketAddr
  deriving DecidableEq

/-- `From<SocketAddr> for PeerEndpoint`, with the text of the address. -/
def PeerEndpoint.ofSocketAddr
    (host : String)
    (value : SocketAddr) :
    PeerEndpoint where
  host := host
  port := value.port
  literal := some value

/-- A peer: its name, its endpoint, its keys and what it must not carry. -/
structure Peer where
  name : String
  endpoint : SocketAddr
  configuredEndpoint : PeerEndpoint
  excludedIps : List Ipv4Net
  psk : Key
  publicKey : Key
  persistentKeepalive : UInt16
  udpRebindAfter : UInt16
  sessionTimeout : UInt64
  deriving DecidableEq

structure Route where
  net : Ipv4Net
  peer : Peer
  deriving DecidableEq

structure ExcludedRoute where
  net : Ipv4Net
  peer : Peer
  deriving DecidableEq

structure Router where
  routes : List Route
  excludedRoutes : List ExcludedRoute
  deriving DecidableEq

/-- The first route of a destination that no exclusion of its peer overrides. -/
def Router.lookup (router : Router) (destination : Ipv4Addr) :
    Option Route :=
  router.routes.find? fun route =>
    if route.net.contains destination then
      let mostSpecificExclusion :=
        ((route.peer.excludedIps.filter fun net =>
          net.contains destination).map fun net => net.prefixLen.val).max?
      match mostSpecificExclusion with
      | none => true
      | some excludedPrefixLength =>
          decide (excludedPrefixLength < route.net.prefixLen.val)
    else
      false

end HushWire
