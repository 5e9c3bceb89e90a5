import Heimdall.Lib.Serializer

/-!
# The telemetry packets

`src/Commands/packets`: three packet classes that differ in their members and
in the type code their default constructor declares. What a class does with
these, to build a packet, to send it and to read one, is the same text three
times over, here once for any `PacketClass`.

librnp is not in the repository. `RnpWire` has what the classes call of it: a
new packet's header, the header's bytes before the body, and the two taken
apart again. Its header types are parameters, and a header's own length field
stays closed to us: a header counts as right for a body when it was made for
one of that length.

A `float` member is its bit pattern.
-/

namespace Heimdall

/-! ## What librnp gives -/

/-- The types in librnp's header. `Rest` is what else a header carries, the
length of the body among it. -/
structure Librnp where
  Address : Type
  Service : Type
  Uid : Type
  Rest : Type

structure RnpHeader (L : Librnp) where
  type : UInt8
  source : L.Address
  sourceService : L.Service
  destination : L.Address
  destinationService : L.Service
  uid : L.Uid
  rest : L.Rest

/-- What the packet classes call of `RnpPacket` and `RnpPacketSerialized`. -/
structure RnpWire (L : Librnp) where
  /-- the header `RnpPacket(service, type, size)` makes -/
  newHeader : UInt8 → UInt8 → Nat → RnpHeader L
  /-- `RnpPacket::serialize` -/
  serializeHeader : RnpHeader L → List UInt8
  /-- `RnpPacketSerialized`: the header, and `getBody()` -/
  parse : List UInt8 → Option (RnpHeader L × List UInt8)
  /-- whether `RnpPacket(packet, size)` takes a body of the first length for
  a packet of the second -/
  accepts : Nat → Nat → Bool
  newHeader_type : ∀ s t n, (newHeader s t n).type = t
  parse_serializeHeader : ∀ h body s t, h.rest = (newHeader s t body.length).rest →
    parse (serializeHeader h ++ body) = some (h, body)
  accepts_self : ∀ n, accepts n n = true

/-! ## A plain wire -/

/-- Addresses and services of a byte, ids and lengths of two. -/
@[reducible] def plainRnp : Librnp where
  Address := UInt8
  Service := UInt8
  Uid := UInt16
  Rest := UInt16

/-- Every member of the header, the length first. -/
def plainHeader : Serializer (RnpHeader plainRnp) where
  members := [
    ⟨"packet_len", UInt16, RnpHeader.rest, fun h v => { h with rest := v }, fun _ _ => rfl⟩,
    ⟨"uid", UInt16, RnpHeader.uid, fun h v => { h with uid := v }, fun _ _ => rfl⟩,
    ⟨"type", UInt8, RnpHeader.type, fun h v => { h with type := v }, fun _ _ => rfl⟩,
    ⟨"source_service", UInt8, RnpHeader.sourceService, fun h v => { h with sourceService := v },
      fun _ _ => rfl⟩,
    ⟨"source", UInt8, RnpHeader.source, fun h v => { h with source := v }, fun _ _ => rfl⟩,
    ⟨"destination_service", UInt8, RnpHeader.destinationService,
      fun h v => { h with destinationService := v }, fun _ _ => rfl⟩,
    ⟨"destination", UInt8, RnpHeader.destination, fun h v => { h with destination := v },
      fun _ _ => rfl⟩]
  apart := by simp [Member.Apart]

/-- The header `RnpPacket(service, type, size)` makes on the plain wire. -/
def plainNew (service type : UInt8) (size : Nat) : RnpHeader plainRnp where
  type := type
  source := 0
  sourceService := service
  destination := 0
  destinationService := service
  uid := 0
  rest := UInt16.ofNat size

theorem plainHeader_deserialize (h₀ h : RnpHeader plainRnp) (body : List UInt8) :
    plainHeader.deserialize h₀ (plainHeader.serialize h ++ body) = some h := by
  obtain ⟨h', hread, hget⟩ := Serializer.deserializeInto_serialize plainHeader.apart h₀ h body
  have heq : h' = h := by
    cases h
    cases h'
    simp [plainHeader] at hget
    simp [hget]
  rw [heq] at hread
  exact hread

/-- A wire on which a header is its members' bytes and a class takes any body
long enough for it. -/
def plainWire : RnpWire plainRnp where
  newHeader := plainNew
  serializeHeader := plainHeader.serialize
  parse bs := (plainHeader.deserialize (plainNew 0 0 0) bs).map
    fun h => (h, bs.drop plainHeader.memberSize)
  accepts body size := decide (size ≤ body)
  newHeader_type _ _ _ := rfl
  parse_serializeHeader h body _ _ _ := by
    rw [plainHeader_deserialize, ← Serializer.length_serialize plainHeader h, List.drop_left]
    rfl
  accepts_self n := decide_eq_true (Nat.le_refl n)

/-! ## Packet classes -/

/-- A class derived from `RnpPacket`. -/
structure PacketClass (L : Librnp) where
  Packet : Type
  header : Packet → RnpHeader L
  setHeader : Packet → RnpHeader L → Packet
  /-- the type code its default constructor passes on -/
  typeCode : UInt8
  getSerializer : Serializer Packet

namespace PacketClass

variable {L : Librnp}

def size (c : PacketClass L) : Nat := c.getSerializer.memberSize

/-- The header of a default-constructed packet. -/
def defaultHeader (c : PacketClass L) (wire : RnpWire L) : RnpHeader L :=
  wire.newHeader 0 c.typeCode c.size

/-- The default constructor. The members hold what the memory held. -/
def new (c : PacketClass L) (wire : RnpWire L) (memory : c.Packet) : c.Packet :=
  c.setHeader memory (c.defaultHeader wire)

/-- The constructor from a received packet. -/
def ofSerialized (c : PacketClass L) (wire : RnpWire L) (memory : c.Packet)
    (packet : RnpHeader L × List UInt8) : Option c.Packet :=
  if wire.accepts packet.2.length c.size then
    c.getSerializer.deserialize (c.setHeader memory packet.1) packet.2
  else none

/-- `serialize`, on an empty buffer. -/
def serialize (c : PacketClass L) (wire : RnpWire L) (p : c.Packet) : List UInt8 :=
  wire.serializeHeader (c.header p) ++ c.getSerializer.serialize p

def fields (c : PacketClass L) (p : c.Packet) : List (String × Nat) := c.getSerializer.fields p

/-- A packet whose header was made for its size arrives as header and body. -/
theorem parse_serialize (c : PacketClass L) (wire : RnpWire L) {p : c.Packet}
    (h : (c.header p).rest = (c.defaultHeader wire).rest) :
    wire.parse (c.serialize wire p) = some (c.header p, c.getSerializer.serialize p) := by
  refine wire.parse_serializeHeader (c.header p) (c.getSerializer.serialize p) 0 c.typeCode ?_
  rw [Serializer.length_serialize]
  exact h

/-- A class reads back the body of its own packets. -/
theorem ofSerialized_own (c : PacketClass L) (wire : RnpWire L) (memory p : c.Packet)
    (h : RnpHeader L) :
    ∃ q, c.ofSerialized wire memory (h, c.getSerializer.serialize p) = some q ∧
      c.fields q = c.fields p := by
  obtain ⟨q, hread, hfields⟩ :=
    c.getSerializer.deserialize_serialize (c.setHeader memory h) p []
  refine ⟨q, ?_, hfields⟩
  rw [List.append_nil] at hread
  unfold ofSerialized
  rw [Serializer.length_serialize]
  exact (if_pos (wire.accepts_self _)).trans hread

end PacketClass

/-! ## The three classes -/

/-- The bit pattern of a `float`. -/
abbrev FloatBits := UInt32

structure GregTelemPacket (L : Librnp) where
  header : RnpHeader L
  ffAngle : FloatBits
  fuelTankP : FloatBits
  n2TankP : FloatBits
  regAngle : UInt32
  pAngle : FloatBits
  kp : FloatBits
  tc0 : FloatBits
  tc1 : FloatBits
  systemStatus : UInt32
  systemTime : UInt64

structure ProcessedSensorPacket (L : Librnp) where
  header : RnpHeader L
  ch0sens : FloatBits
  ch2sens : FloatBits
  temp0 : FloatBits
  temp1 : FloatBits
  systemStatus : UInt32
  systemTime : UInt64

structure RawADCPacket (L : Librnp) where
  header : RnpHeader L
  ch0 : Int32
  ch1 : Int32
  ch2 : Int32
  ch3 : Int32
  systemStatus : UInt32
  systemTime : UInt64

section Serializers

variable {L : Librnp}

def GregTelemPacket.getSerializer : Serializer (GregTelemPacket L) where
  members := [
    ⟨"FF_angle", FloatBits, ffAngle, fun p v => { p with ffAngle := v }, fun _ _ => rfl⟩,
    ⟨"fuel_tankP", FloatBits, fuelTankP, fun p v => { p with fuelTankP := v }, fun _ _ => rfl⟩,
    ⟨"n2_tankP", FloatBits, n2TankP, fun p v => { p with n2TankP := v }, fun _ _ => rfl⟩,
    ⟨"regAngle", UInt32, regAngle, fun p v => { p with regAngle := v }, fun _ _ => rfl⟩,
    ⟨"P_angle", FloatBits, pAngle, fun p v => { p with pAngle := v }, fun _ _ => rfl⟩,
    ⟨"Kp", FloatBits, kp, fun p v => { p with kp := v }, fun _ _ => rfl⟩,
    ⟨"tc0", FloatBits, tc0, fun p v => { p with tc0 := v }, fun _ _ => rfl⟩,
    ⟨"tc1", FloatBits, tc1, fun p v => { p with tc1 := v }, fun _ _ => rfl⟩,
    ⟨"system_status", UInt32, systemStatus, fun p v => { p with systemStatus := v },
      fun _ _ => rfl⟩,
    ⟨"system_time", UInt64, systemTime, fun p v => { p with systemTime := v }, fun _ _ => rfl⟩]
  apart := by simp [Member.Apart]

def ProcessedSensorPacket.getSerializer : Serializer (ProcessedSensorPacket L) where
  members := [
    ⟨"ch0sens", FloatBits, ch0sens, fun p v => { p with ch0sens := v }, fun _ _ => rfl⟩,
    ⟨"ch2sens", FloatBits, ch2sens, fun p v => { p with ch2sens := v }, fun _ _ => rfl⟩,
    ⟨"temp0", FloatBits, temp0, fun p v => { p with temp0 := v }, fun _ _ => rfl⟩,
    ⟨"temp1", FloatBits, temp1, fun p v => { p with temp1 := v }, fun _ _ => rfl⟩,
    ⟨"system_status", UInt32, systemStatus, fun p v => { p with systemStatus := v },
      fun _ _ => rfl⟩,
    ⟨"system_time", UInt64, systemTime, fun p v => { p with systemTime := v }, fun _ _ => rfl⟩]
  apart := by simp [Member.Apart]

def RawADCPacket.getSerializer : Serializer (RawADCPacket L) where
  members := [
    ⟨"ch0", Int32, ch0, fun p v => { p with ch0 := v }, fun _ _ => rfl⟩,
    ⟨"ch1", Int32, ch1, fun p v => { p with ch1 := v }, fun _ _ => rfl⟩,
    ⟨"ch2", Int32, ch2, fun p v => { p with ch2 := v }, fun _ _ => rfl⟩,
    ⟨"ch3", Int32, ch3, fun p v => { p with ch3 := v }, fun _ _ => rfl⟩,
    ⟨"system_status", UInt32, systemStatus, fun p v => { p with systemStatus := v },
      fun _ _ => rfl⟩,
    ⟨"system_time", UInt64, systemTime, fun p v => { p with systemTime := v }, fun _ _ => rfl⟩]
  apart := by simp [Member.Apart]

end Serializers

namespace PacketClass

variable (L : Librnp)

def gregTelem : PacketClass L where
  Packet := GregTelemPacket L
  header := GregTelemPacket.header
  setHeader p h := { p with header := h }
  typeCode := 115
  getSerializer := GregTelemPacket.getSerializer

def processedSensor : PacketClass L where
  Packet := ProcessedSensorPacket L
  header := ProcessedSensorPacket.header
  setHeader p h := { p with header := h }
  typeCode := 103
  getSerializer := ProcessedSensorPacket.getSerializer

def rawADC : PacketClass L where
  Packet := RawADCPacket L
  header := RawADCPacket.header
  setHeader p h := { p with header := h }
  typeCode := 104
  getSerializer := RawADCPacket.getSerializer

def all : List (PacketClass L) := [gregTelem L, processedSensor L, rawADC L]

/-! ## The wrong class -/

variable {L}

/-- What `ProcessedSensorPacket` makes of a `GregTelemPacket`'s body. The first
members line up by chance, status and time do not. -/
theorem processedSensor_reads_gregTelem (memory : ProcessedSensorPacket L)
    (p : GregTelemPacket L) :
    ProcessedSensorPacket.getSerializer.deserialize memory
        (GregTelemPacket.getSerializer.serialize p)
      = some { memory with
          ch0sens := p.ffAngle
          ch2sens := p.fuelTankP
          temp0 := p.n2TankP
          temp1 := p.regAngle
          systemStatus := p.pAngle
          systemTime := UInt64.ofNat (p.kp.toNat + 2 ^ 32 * p.tc0.toNat) } := by
  have hbytes : GregTelemPacket.getSerializer.serialize p
      = LittleEndian.encode 4 p.ffAngle.toNat ++ (LittleEndian.encode 4 p.fuelTankP.toNat ++
        (LittleEndian.encode 4 p.n2TankP.toNat ++ (LittleEndian.encode 4 p.regAngle.toNat ++
        (LittleEndian.encode 4 p.pAngle.toNat ++
        ((LittleEndian.encode 4 p.kp.toNat ++ LittleEndian.encode 4 p.tc0.toNat) ++
        (LittleEndian.encode 4 p.tc1.toNat ++ (LittleEndian.encode 4 p.systemStatus.toNat ++
        LittleEndian.encode 8 p.systemTime.toNat))))))) := rfl
  rw [hbytes]
  -- five members of four bytes each, read as they were written
  refine (Serializer.deserializeInto_value _ _ _ _ _).trans ?_
  refine (Serializer.deserializeInto_value _ _ _ _ _).trans ?_
  refine (Serializer.deserializeInto_value _ _ _ _ _).trans ?_
  refine (Serializer.deserializeInto_value _ _ _ _ _).trans ?_
  refine (Serializer.deserializeInto_value _ _ _ _ _).trans ?_
  -- the time takes the next two together
  have htwo : (LittleEndian.encode 4 p.kp.toNat ++ LittleEndian.encode 4 p.tc0.toNat).length = 8 :=
    rfl
  refine (Serializer.deserializeInto_cons _ _ _ _ htwo).trans ?_
  unfold Member.store
  rw [LittleEndian.decode_append, LittleEndian.length_encode,
    LittleEndian.decode_encode p.kp.toNat_lt, LittleEndian.decode_encode p.tc0.toNat_lt]
  rfl

end PacketClass

end Heimdall
