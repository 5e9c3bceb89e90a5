import Heimdall.Telemetry.Commands

/-!
# What the telemetry carries

`TelemetryCommand` assigns nine of the ten members it sends. The tenth,
`P_angle`, has no initialiser either, so it goes out as the memory the packet
object was built on. Everything else is overwritten
(`telemetryCommand_congr`), so two executions differ in that member only, and
the bytes they send differ exactly when it does (`bytes_eq_iff`).
-/

namespace Heimdall

variable {L : Librnp} {σ : Type}

namespace System

/-- The current value of every member of the telemetry packet. -/
def telemetryFields (sm : System L σ) : List (String × Nat) :=
  [("FF_angle", (sm.floatBits sm.heimdall.getFF).toNat),
    ("fuel_tankP", sm.fbPT.toNat),
    ("n2_tankP", sm.n2PT.toNat),
    ("regAngle", sm.regAngle.toNat),
    ("P_angle", (sm.floatBits sm.heimdall.getPAngle).toNat),
    ("Kp", (sm.floatBits sm.heimdall.getKp).toNat),
    ("tc0", sm.tc0.toNat),
    ("tc1", sm.tc1.toNat),
    ("system_status", sm.systemstatus.toNat),
    ("system_time", sm.millis.toNat)]

/-- The bytes `TelemetryCommand` sends. -/
def telemetryBytes (wire : RnpWire L) (sm : System L σ) (packet : RnpHeader L)
    (memory : GregTelemPacket L) : List UInt8 :=
  (PacketClass.gregTelem L).serialize wire (sm.telemetryCommand wire packet memory)

/-- The handler overwrites all of the object but `P_angle`. -/
theorem telemetryCommand_congr (wire : RnpWire L) (sm : System L σ) (packet : RnpHeader L)
    {memory memory' : GregTelemPacket L} (h : memory.pAngle = memory'.pAngle) :
    sm.telemetryCommand wire packet memory = sm.telemetryCommand wire packet memory' := by
  unfold telemetryCommand PacketClass.new PacketClass.gregTelem
  dsimp only
  rw [h]

/-- The members sent are the current values but for `P_angle`. -/
theorem fields_telemetryCommand (wire : RnpWire L) (sm : System L σ) (packet : RnpHeader L)
    (memory : GregTelemPacket L) :
    (PacketClass.gregTelem L).fields (sm.telemetryCommand wire packet memory) =
      sm.telemetryFields.set 4 ("P_angle", memory.pAngle.toNat) := by
  have htime : sm.millis.toUInt64.toNat = sm.millis.toNat := UInt32.toNat_toUInt64 _
  unfold telemetryFields
  rw [← htime]
  rfl

/-- They are all current exactly when the memory happened to hold the current
`P_angle`. -/
theorem fields_current_iff (wire : RnpWire L) (sm : System L σ) (packet : RnpHeader L)
    (memory : GregTelemPacket L) :
    (PacketClass.gregTelem L).fields (sm.telemetryCommand wire packet memory) =
        sm.telemetryFields ↔
      memory.pAngle = sm.floatBits sm.heimdall.getPAngle := by
  rw [fields_telemetryCommand]
  constructor
  · intro h
    have hfour := congrArg (fun fs : List (String × Nat) => fs[4]?) h
    have hbits : memory.pAngle.toNat = (sm.floatBits sm.heimdall.getPAngle).toNat :=
      congrArg Prod.snd (Option.some.inj hfour)
    exact UInt32.toNat_inj.mp hbits
  · intro h
    rw [h]
    rfl

/-- Two executions that differ in memory only send the same bytes exactly when
the two memories agree under `P_angle`. -/
theorem bytes_eq_iff (wire : RnpWire L) (sm : System L σ) (packet : RnpHeader L)
    (memory memory' : GregTelemPacket L) :
    sm.telemetryBytes wire packet memory = sm.telemetryBytes wire packet memory' ↔
      memory.pAngle = memory'.pAngle := by
  constructor
  · intro h
    have hparse := PacketClass.parse_serialize (.gregTelem L) wire
      (Handler.answer_rest wire sm packet .telemetryCommand memory)
    have hparse' := PacketClass.parse_serialize (.gregTelem L) wire
      (Handler.answer_rest wire sm packet .telemetryCommand memory')
    have hbytes : wire.parse (sm.telemetryBytes wire packet memory) =
        wire.parse (sm.telemetryBytes wire packet memory') := congrArg wire.parse h
    have hbody := congrArg Prod.snd (Option.some.inj (hparse.symm.trans (hbytes.trans hparse')))
    have hfields := Serializer.fields_eq_of_serialize_eq _ hbody
    have hfour := congrArg (fun fs : List (String × Nat) => fs[4]?) hfields
    exact UInt32.toNat_inj.mp (congrArg Prod.snd (Option.some.inj hfour))
  · intro h
    unfold telemetryBytes
    rw [sm.telemetryCommand_congr wire packet h]

end System

/-- Two executions of `TelemetryCommand` that differ only in memory send the
same bytes, and these are the system's current values. -/
structure CarriesSystemData (wire : RnpWire L) (sm : System L σ) (packet : RnpHeader L)
    (memory memory' : GregTelemPacket L) : Prop where
  same : sm.telemetryBytes wire packet memory = sm.telemetryBytes wire packet memory'
  current : (PacketClass.gregTelem L).fields (sm.telemetryCommand wire packet memory) =
    sm.telemetryFields

/-- They do exactly when both memories hold the current `P_angle` where the
packet's is built. -/
theorem carried_iff (wire : RnpWire L) (sm : System L σ) (packet : RnpHeader L)
    (memory memory' : GregTelemPacket L) :
    CarriesSystemData wire sm packet memory memory' ↔
      memory.pAngle = sm.floatBits sm.heimdall.getPAngle ∧
        memory'.pAngle = sm.floatBits sm.heimdall.getPAngle := by
  constructor
  · intro hcarries
    rcases hcarries with ⟨hsame, hcurrent⟩
    have hpAngle := (sm.fields_current_iff wire packet memory).mp hcurrent
    have hmemory := (sm.bytes_eq_iff wire packet memory memory').mp hsame
    exact ⟨hpAngle, hmemory.symm.trans hpAngle⟩
  · intro hmemories
    rcases hmemories with ⟨h, h'⟩
    exact ⟨(sm.bytes_eq_iff wire packet memory memory').mpr (h.trans h'.symm),
      (sm.fields_current_iff wire packet memory).mpr h⟩

/-- The board at 500 ms, on memory that held 0 and on memory that held
`0xDEADBEEF`. -/
theorem carried_fails :
    ¬CarriesSystemData plainWire boardAt500 (plainNew 2 8 0)
      ⟨plainNew 0 0 0, 0, 0, 0, 0, 0, 0, 0, 0, 0, 0⟩
      ⟨plainNew 0 0 0, 0, 0, 0, 0, 0xDEADBEEF, 0, 0, 0, 0, 0⟩ := by
  intro hclaim
  have hmemory := (System.bytes_eq_iff plainWire boardAt500 (plainNew 2 8 0) _ _).mp hclaim.same
  exact absurd hmemory (by decide)

end Heimdall
