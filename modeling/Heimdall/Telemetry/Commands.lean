import Heimdall.Greg.Gains
import Heimdall.Telemetry.Packets

/-!
# The telemetry commands

`src/Commands/commands.cpp`: `TelemetryCommand` and `rawADCCommand` each build
a packet, overwrite its header and send it. The type code in the header is all
a receiver has to choose the packet class that reads the body.

`rawADCCommand` writes the code its class declares anyway. `TelemetryCommand`
writes 103, the code of `ProcessedSensorPacket`, into a `GregTelemPacket` that
declares 115, so its body is always read by the wrong class
(`recovered_iff`, `telemetryCommand_misread`).

A handler sees one clock value and one reading of every device. The third
command, for the free heap, answers with librnp's own packets and is left out.
-/

namespace Heimdall

variable {L : Librnp} {σ : Type}

/-! ## The handlers -/

/-- What the handlers read of the system. -/
structure System (L : Librnp) (σ : Type) where
  /-- `networkmanager.getAddress()` -/
  address : L.Address
  /-- `commandhandler.getServiceID()` -/
  serviceID : L.Service
  /-- `Heimdall`, its clock the system's -/
  heimdall : Greg σ
  /-- `Heimdall.getRegAngle()`: the servo's `getValue()` -/
  regAngle : UInt32
  /-- `FB_PT.getProcessed()` -/
  fbPT : FloatBits
  /-- `N2_PT.getProcessed()` -/
  n2PT : FloatBits
  /-- `TC0.getTemp()` -/
  tc0 : FloatBits
  /-- `TC1.getTemp()` -/
  tc1 : FloatBits
  /-- `ADC0.getOutput` -/
  adc0 : Fin 4 → Int32
  /-- `systemstatus.getStatus()` -/
  systemstatus : UInt32
  /-- the bits of a float the controller holds -/
  floatBits : ℚ → FloatBits

namespace System

/-- `millis()` -/
def millis (sm : System L σ) : UInt32 := sm.heimdall.millis

/-- The header both handlers write: the code, and the request's sender as the
destination. -/
def answerHeader (sm : System L σ) (h : RnpHeader L) (type : UInt8) (packet : RnpHeader L) :
    RnpHeader L :=
  { h with
    type := type
    source := sm.address
    sourceService := sm.serviceID
    destination := packet.source
    destinationService := packet.sourceService
    uid := packet.uid }

/-- `Commands::TelemetryCommand`. `memory` is what the packet object is built
on; `pAngle` is not assigned. -/
def telemetryCommand (wire : RnpWire L) (sm : System L σ) (packet : RnpHeader L)
    (memory : GregTelemPacket L) : GregTelemPacket L :=
  let gregTelem : GregTelemPacket L := (PacketClass.gregTelem L).new wire memory
  { gregTelem with
    header := sm.answerHeader gregTelem.header 103 packet
    systemTime := sm.millis.toUInt64
    ffAngle := sm.floatBits sm.heimdall.getFF
    fuelTankP := sm.fbPT
    n2TankP := sm.n2PT
    regAngle := sm.regAngle
    kp := sm.floatBits sm.heimdall.getKp
    tc0 := sm.tc0
    tc1 := sm.tc1
    systemStatus := sm.systemstatus }

/-- `Commands::rawADCCommand` -/
def rawADCCommand (wire : RnpWire L) (sm : System L σ) (packet : RnpHeader L)
    (memory : RawADCPacket L) : RawADCPacket L :=
  let rawSensors : RawADCPacket L := (PacketClass.rawADC L).new wire memory
  { rawSensors with
    header := sm.answerHeader rawSensors.header 104 packet
    systemTime := sm.millis.toUInt64
    ch0 := sm.adc0 0
    ch1 := sm.adc0 1
    ch2 := sm.adc0 2
    ch3 := sm.adc0 3
    systemStatus := sm.systemstatus }

end System

/-- The commands that answer with a packet class of the repository. -/
inductive Handler
  | telemetryCommand | rawADCCommand
  deriving DecidableEq, Repr

namespace Handler

/-- The class of the packet a handler sends. -/
def sends (L : Librnp) : Handler → PacketClass L
  | telemetryCommand => .gregTelem L
  | rawADCCommand => .rawADC L

/-- The packet it sends. -/
def answer (wire : RnpWire L) (sm : System L σ) (packet : RnpHeader L) :
    (k : Handler) → (k.sends L).Packet → (k.sends L).Packet
  | telemetryCommand => sm.telemetryCommand wire packet
  | rawADCCommand => sm.rawADCCommand wire packet

end Handler

/-! ## What a receiver recovers -/

/-- The class whose default constructor declares the type code found in the
header of `bytes` reads exactly `fields` from them. -/
def Recovers (wire : RnpWire L) (bytes : List UInt8) (fields : List (String × Nat)) : Prop :=
  ∃ packet, wire.parse bytes = some packet ∧
    ∃ c ∈ PacketClass.all L, (c.defaultHeader wire).type = packet.1.type ∧
      ∀ memory, ∃ p, c.ofSerialized wire memory packet = some p ∧ c.fields p = fields

namespace Handler

/-- The type code in the header of the packet a handler sends. -/
def typeCode : Handler → UInt8
  | telemetryCommand => 103
  | rawADCCommand => 104

theorem answer_type (wire : RnpWire L) (sm : System L σ) (packet : RnpHeader L) (k : Handler)
    (memory : (k.sends L).Packet) :
    ((k.sends L).header (k.answer wire sm packet memory)).type = k.typeCode := by
  cases k <;> rfl

/-- What is overwritten in the header leaves it a header for the body. -/
theorem answer_rest (wire : RnpWire L) (sm : System L σ) (packet : RnpHeader L) (k : Handler)
    (memory : (k.sends L).Packet) :
    ((k.sends L).header (k.answer wire sm packet memory)).rest
      = ((k.sends L).defaultHeader wire).rest := by
  cases k <;> rfl

end Handler

/-- `TelemetryCommand`'s code is `ProcessedSensorPacket`'s, which has six
members for the ten that were sent. -/
theorem not_recovers_telemetryCommand (wire : RnpWire L) (sm : System L σ) (packet : RnpHeader L)
    (memory : (Handler.telemetryCommand.sends L).Packet) :
    ¬Recovers wire ((Handler.telemetryCommand.sends L).serialize wire
        (Handler.telemetryCommand.answer wire sm packet memory))
      ((Handler.telemetryCommand.sends L).fields
        (Handler.telemetryCommand.answer wire sm packet memory)) := by
  rintro ⟨received, hparse, c, hc, htype, hread⟩
  rw [PacketClass.parse_serialize _ wire (Handler.answer_rest wire sm packet _ memory)] at hparse
  obtain rfl := Option.some.inj hparse
  have hcode : c.typeCode = 103 := (wire.newHeader_type _ _ _).symm.trans htype
  simp only [PacketClass.all, List.mem_cons, List.not_mem_nil, or_false] at hc
  rcases hc with rfl | rfl | rfl
  · exact absurd hcode (show ¬(115 : UInt8) = 103 by decide)
  · obtain ⟨q, -, hfields⟩ := hread ⟨packet, 0, 0, 0, 0, 0, 0⟩
    exact absurd (congrArg List.length hfields) (show ¬(6 = 10) by decide)
  · exact absurd hcode (show ¬(104 : UInt8) = 103 by decide)

/-- The receiver recovers what was sent exactly from the answers of
`rawADCCommand`. -/
theorem recovered_iff (wire : RnpWire L) (sm : System L σ) (packet : RnpHeader L) (k : Handler)
    (memory : (k.sends L).Packet) :
    Recovers wire ((k.sends L).serialize wire (k.answer wire sm packet memory))
        ((k.sends L).fields (k.answer wire sm packet memory))
      ↔ k = .rawADCCommand := by
  cases k with
  | telemetryCommand =>
    refine iff_of_false ?_ (by decide)
    exact not_recovers_telemetryCommand wire sm packet memory
  | rawADCCommand =>
    refine iff_of_true ?_ rfl
    refine ⟨_, PacketClass.parse_serialize _ wire
      (Handler.answer_rest wire sm packet .rawADCCommand memory), .rawADC L, ?_, ?_, ?_⟩
    · simp [PacketClass.all]
    · rw [Handler.answer_type]
      exact wire.newHeader_type _ _ _
    · intro memory'
      exact PacketClass.ofSerialized_own _ wire memory' _ _

/-- What a receiver makes of `TelemetryCommand`'s packet, where librnp lets it
read a body that is too long: the status is what was in memory under `P_angle`,
the time the gain and a thermocouple side by side. -/
theorem telemetryCommand_misread (wire : RnpWire L) (sm : System L σ) (packet : RnpHeader L)
    (memory : GregTelemPacket L) (received : ProcessedSensorPacket L)
    (haccepts : wire.accepts 44 28 = true) :
    (PacketClass.processedSensor L).ofSerialized wire received
        ((sm.telemetryCommand wire packet memory).header,
          GregTelemPacket.getSerializer.serialize (sm.telemetryCommand wire packet memory))
      = some
        { header := (sm.telemetryCommand wire packet memory).header
          ch0sens := sm.floatBits sm.heimdall.getFF
          ch2sens := sm.fbPT
          temp0 := sm.n2PT
          temp1 := sm.regAngle
          systemStatus := memory.pAngle
          systemTime :=
            UInt64.ofNat ((sm.floatBits sm.heimdall.getKp).toNat + 2 ^ 32 * sm.tc0.toNat) } := by
  have hsizes : wire.accepts (GregTelemPacket.getSerializer (L := L)).memberSize
      (PacketClass.processedSensor L).size = true := haccepts
  unfold PacketClass.ofSerialized
  rw [Serializer.length_serialize, if_pos hsizes]
  exact PacketClass.processedSensor_reads_gregTelem _ _

/-- A board at 500 ms: 42 bar at the feedback tap, 100 at the nitrogen tap,
thermocouples at 20 and 21 degrees. -/
def boardAt500 : System plainRnp StatusWord where
  address := 10
  serviceID := 2
  heimdall := Greg.constructed true 500
  regAngle := 0
  fbPT := 0x42280000
  n2PT := 0x42C80000
  tc0 := 0x41A00000
  tc1 := 0x41A80000
  adc0 _ := 0
  systemstatus := 1
  floatBits _ := 0

/-- The receiver takes the memory under `P_angle` for the status, and the bits
of a thermocouple for half of the time. -/
theorem recovered_fails :
    let sent := boardAt500.telemetryCommand plainWire (plainNew 2 8 0)
      ⟨plainNew 0 0 0, 0, 0, 0, 0, 0xDEADBEEF, 0, 0, 0, 0, 0⟩
    ((PacketClass.processedSensor plainRnp).ofSerialized plainWire
        ⟨plainNew 0 0 0, 0, 0, 0, 0, 0, 0⟩
        (sent.header, GregTelemPacket.getSerializer.serialize sent)).map
          (PacketClass.processedSensor plainRnp).fields
        = some [("ch0sens", 0), ("ch2sens", 0x42280000), ("temp0", 0x42C80000), ("temp1", 0),
            ("system_status", 0xDEADBEEF), ("system_time", 0x41A0000000000000)] ∧
      ¬Recovers plainWire ((PacketClass.gregTelem plainRnp).serialize plainWire sent)
        ((PacketClass.gregTelem plainRnp).fields sent) := by
  intro sent
  constructor
  · decide +kernel
  · exact not_recovers_telemetryCommand plainWire boardAt500 (plainNew 2 8 0) _

end Heimdall
