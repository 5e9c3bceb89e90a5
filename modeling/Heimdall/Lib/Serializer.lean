import Mathlib.Data.List.Basic
import Mathlib.Tactic.Ring

/-!
# Serialising the members of a record

A serialiser is a list of pointers to members: each reads one member of a
record and writes it back. It lays the members out one after the other, every
one as a little-endian number of its type's own width, and reads a record by
storing into its members in the same order.

`deserialize_serialize` is the round trip, over any record the reading starts
from: no member is left as it was, since each is stored once and no later
store touches an earlier member (`Apart`, which a `Serializer` carries).

`deserializeInto_cons` reads one member. It is also what a reader with another
list of members than the writer's does, byte for byte.
-/

/-! ## Little-endian numbers -/

namespace LittleEndian

/-- The `n` low bytes of `v`, the lowest first. -/
def encode : Nat → Nat → List UInt8
  | 0, _ => []
  | n + 1, v => UInt8.ofNat v :: encode n (v / 256)

def decode : List UInt8 → Nat
  | [] => 0
  | b :: bs => b.toNat + 256 * decode bs

@[simp] theorem length_encode (n v : Nat) : (encode n v).length = n := by
  induction n generalizing v with
  | zero => rfl
  | succ n ih => simp [encode, ih]

/-- What fits comes back. -/
theorem decode_encode {n v : Nat} (h : v < 256 ^ n) : decode (encode n v) = v := by
  induction n generalizing v with
  | zero =>
    rw [pow_zero] at h
    simp only [encode, decode]
    omega
  | succ n ih =>
    have hdiv : v / 256 < 256 ^ n := by
      rw [pow_succ] at h
      omega
    simp only [encode, decode, ih hdiv, UInt8.toNat_ofNat']
    omega

/-- Of what does not fit the low bytes come back. -/
theorem decode_encode_mod (n v : Nat) : decode (encode n v) = v % 256 ^ n := by
  induction n generalizing v with
  | zero => rw [pow_zero, Nat.mod_one]; rfl
  | succ n ih =>
    have hpow : 256 ^ (n + 1) = 256 * 256 ^ n := pow_succ' 256 n
    simp only [encode, decode, ih, UInt8.toNat_ofNat']
    rw [hpow, Nat.mod_mul]

/-- Of two numbers side by side the first is the low one. -/
theorem decode_append (xs ys : List UInt8) :
    decode (xs ++ ys) = decode xs + 256 ^ xs.length * decode ys := by
  induction xs with
  | nil => simp [decode]
  | cons x xs ih =>
    rw [List.cons_append, decode, decode, ih, List.length_cons, pow_succ]
    ring

end LittleEndian

/-! ## Types of a fixed width -/

/-- A type whose values are the numbers of `width` bytes. -/
class FixedWidth (α : Type) where
  width : Nat
  toBits : α → Nat
  ofBits : Nat → α
  toBits_lt : ∀ a, toBits a < 256 ^ width
  ofBits_toBits : ∀ a, ofBits (toBits a) = a
  toBits_ofBits : ∀ {n}, n < 256 ^ width → toBits (ofBits n) = n

instance : FixedWidth UInt8 where
  width := 1
  toBits := UInt8.toNat
  ofBits := UInt8.ofNat
  toBits_lt a := a.toNat_lt
  ofBits_toBits _ := UInt8.ofNat_toNat
  toBits_ofBits h := UInt8.toNat_ofNat_of_lt h

instance : FixedWidth UInt16 where
  width := 2
  toBits := UInt16.toNat
  ofBits := UInt16.ofNat
  toBits_lt a := a.toNat_lt
  ofBits_toBits _ := UInt16.ofNat_toNat
  toBits_ofBits h := UInt16.toNat_ofNat_of_lt h

instance : FixedWidth UInt32 where
  width := 4
  toBits := UInt32.toNat
  ofBits := UInt32.ofNat
  toBits_lt a := a.toNat_lt
  ofBits_toBits _ := UInt32.ofNat_toNat
  toBits_ofBits h := UInt32.toNat_ofNat_of_lt h

instance : FixedWidth UInt64 where
  width := 8
  toBits := UInt64.toNat
  ofBits := UInt64.ofNat
  toBits_lt a := a.toNat_lt
  ofBits_toBits _ := UInt64.ofNat_toNat
  toBits_ofBits h := UInt64.toNat_ofNat_of_lt h

/-- A signed number in two's complement. -/
instance : FixedWidth Int32 where
  width := 4
  toBits i := i.toUInt32.toNat
  ofBits n := (UInt32.ofNat n).toInt32
  toBits_lt i := i.toUInt32.toNat_lt
  ofBits_toBits i := by
    rw [UInt32.ofNat_toNat]
    exact Int32.toInt32_toUInt32 i
  toBits_ofBits h := by
    rw [UInt32.toUInt32_toInt32]
    exact UInt32.toNat_ofNat_of_lt h

/-! ## Members -/

/-- A pointer to a member of the record `P`. -/
structure Member (P : Type) where
  name : String
  Value : Type
  [fixed : FixedWidth Value]
  get : P → Value
  set : P → Value → P
  get_set : ∀ p v, get (set p v) = v

namespace Member

attribute [instance] Member.fixed

variable {P : Type}

def width (m : Member P) : Nat := FixedWidth.width m.Value

/-- The member's value as the number it is on the wire. -/
def bits (m : Member P) (p : P) : Nat := FixedWidth.toBits (m.get p)

def encode (m : Member P) (p : P) : List UInt8 := LittleEndian.encode m.width (m.bits p)

/-- Store the number the bytes are. -/
def store (m : Member P) (p : P) (bs : List UInt8) : P :=
  m.set p (FixedWidth.ofBits (LittleEndian.decode bs))

/-- Storing through `m'` leaves `m` alone. -/
def Apart (m m' : Member P) : Prop := ∀ p v, m.get (m'.set p v) = m.get p

@[simp] theorem length_encode (m : Member P) (p : P) : (m.encode p).length = m.width :=
  LittleEndian.length_encode _ _

/-- Storing the bytes of a value stores the value. -/
theorem store_encode (m : Member P) (p : P) (v : m.Value) :
    m.store p (LittleEndian.encode m.width (FixedWidth.toBits v)) = m.set p v := by
  have hdecode : LittleEndian.decode (LittleEndian.encode m.width (FixedWidth.toBits v))
      = FixedWidth.toBits v := LittleEndian.decode_encode (FixedWidth.toBits_lt v)
  rw [store, hdecode, FixedWidth.ofBits_toBits]

end Member

/-! ## The serialiser -/

/-- The members of a record in the order they are written; storing one leaves
those before it alone. -/
structure Serializer (P : Type) where
  members : List (Member P)
  apart : members.Pairwise Member.Apart

namespace Serializer

variable {P : Type}

/-- The bytes of all members. -/
def memberSize (s : Serializer P) : Nat := (s.members.map Member.width).sum

def serialize (s : Serializer P) (p : P) : List UInt8 := s.members.flatMap fun m => m.encode p

/-- The members by name, each as the number it is on the wire. -/
def fields (s : Serializer P) (p : P) : List (String × Nat) :=
  s.members.map fun m => (m.name, m.bits p)

/-- Store into the members one after the other; too few bytes are refused. -/
def deserializeInto : List (Member P) → P → List UInt8 → Option P
  | [], p, _ => some p
  | m :: ms, p, bs =>
    if bs.length < m.width then none
    else deserializeInto ms (m.store p (bs.take m.width)) (bs.drop m.width)

def deserialize (s : Serializer P) (p : P) (bs : List UInt8) : Option P :=
  deserializeInto s.members p bs

theorem length_serialize (s : Serializer P) (p : P) : (s.serialize p).length = s.memberSize := by
  simp [serialize, memberSize, List.length_flatMap]

/-- One member takes its bytes and leaves the rest. -/
theorem deserializeInto_cons (m : Member P) (ms : List (Member P)) (p : P) {bs : List UInt8}
    (rest : List UInt8) (h : bs.length = m.width) :
    deserializeInto (m :: ms) p (bs ++ rest) = deserializeInto ms (m.store p bs) rest := by
  have hlen : ¬(bs ++ rest).length < m.width := by
    rw [List.length_append]
    omega
  rw [deserializeInto, if_neg hlen, ← h, List.take_left, List.drop_left]

/-- The bytes of a value store the value. -/
theorem deserializeInto_value (m : Member P) (ms : List (Member P)) (p : P) (v : m.Value)
    (rest : List UInt8) :
    deserializeInto (m :: ms) p (LittleEndian.encode m.width (FixedWidth.toBits v) ++ rest)
      = deserializeInto ms (m.set p v) rest := by
  rw [deserializeInto_cons m ms p rest (LittleEndian.length_encode _ _), m.store_encode]

/-- A member apart from all that are stored keeps its value. -/
theorem get_deserializeInto {m : Member P} {ms : List (Member P)} {p p' : P} {bs : List UInt8}
    (hapart : ∀ m' ∈ ms, m.Apart m') (h : deserializeInto ms p bs = some p') :
    m.get p' = m.get p := by
  induction ms generalizing p bs with
  | nil => rw [Option.some.inj h]
  | cons m' ms ih =>
    rw [deserializeInto] at h
    split at h
    · exact absurd h (by simp)
    · rw [ih (fun n hn => hapart n (List.mem_cons_of_mem _ hn)) h]
      exact hapart m' List.mem_cons_self _ _

/-- Reading what was written: every member of the record read is the written
record's, whatever the reading started from. -/
theorem deserializeInto_serialize {ms : List (Member P)} (hapart : ms.Pairwise Member.Apart)
    (p₀ p : P) (rest : List UInt8) :
    ∃ p', deserializeInto ms p₀ ((ms.flatMap fun m => m.encode p) ++ rest) = some p' ∧
      ∀ m ∈ ms, m.get p' = m.get p := by
  induction ms generalizing p₀ with
  | nil => exact ⟨p₀, rfl, by simp⟩
  | cons m ms ih =>
    rw [List.pairwise_cons] at hapart
    obtain ⟨p', hread, hget⟩ := ih hapart.2 (m.set p₀ (m.get p))
    refine ⟨p', ?_, ?_⟩
    · rw [List.flatMap_cons, List.append_assoc, Member.encode, Member.bits,
        deserializeInto_value, hread]
    · intro n hn
      rcases List.mem_cons.mp hn with rfl | hn
      · -- stored first, and untouched by the stores after it
        rw [get_deserializeInto hapart.1 hread, n.get_set]
      · exact hget n hn

theorem deserialize_serialize (s : Serializer P) (p₀ p : P) (rest : List UInt8) :
    ∃ p', s.deserialize p₀ (s.serialize p ++ rest) = some p' ∧ s.fields p' = s.fields p := by
  obtain ⟨p', hread, hget⟩ := deserializeInto_serialize s.apart p₀ p rest
  refine ⟨p', hread, ?_⟩
  unfold fields
  refine List.map_congr_left ?_
  intro m hm
  unfold Member.bits
  rw [hget m hm]

/-- The bytes determine the members. -/
theorem fields_eq_of_serialize_eq (s : Serializer P) {p q : P}
    (h : s.serialize p = s.serialize q) : s.fields p = s.fields q := by
  obtain ⟨p', hread, hp⟩ := s.deserialize_serialize p p []
  obtain ⟨q', hread', hq⟩ := s.deserialize_serialize p q []
  rw [h, hread'] at hread
  rw [← hp, ← Option.some.inj hread, hq]

end Serializer
