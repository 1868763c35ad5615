import ApiPack2.Datastore.Commands
import ApiPack2.Lib.Transition

/-!
# The Thrift converter

A `ThriftConverter` makes objects of the bytes of rows, through a memory buffer that all its
calls share. Thrift is a parameter: what the generated `read` of a record type makes of an
object and of the bytes left in the buffer, and which exception it throws. Objects live in a
heap of the program, named by their position; an object that has been deleted leaves its place
empty. Log lines are left out.
-/

namespace ApiPack2

/-- The subclasses of `TException` that `read` throws. -/
inductive TException where
  /-- `TTransportException`: the data is too short. -/
  | transport
  /-- `TProtocolException`: the data is malformed. -/
  | protocol
  deriving DecidableEq

/-- What `read` leaves behind, over a type of records. -/
structure ReadResult (α : Type) where
  /-- The object. -/
  object : α
  /-- The bytes left in the buffer. -/
  unread : List UInt8
  /-- The exception it throws, none when it succeeds. -/
  exception : Option TException
  deriving DecidableEq

/-- The record types of the topics. -/
structure Thrift (α : Type) where
  /-- A new object. -/
  create : Topic → α
  /-- `read`, on an object and the bytes in the buffer. -/
  read : Topic → α → List UInt8 → ReadResult α

/-- The object that `read` decodes from the bytes, none when it throws. -/
def Thrift.decode {α : Type} (thrift : Thrift α) (topic : Topic) (bytes : List UInt8) : Option α :=
  let result := thrift.read topic (thrift.create topic) bytes
  if result.exception = none then some result.object else none

/-- A pointer to an object. -/
abbrev ObjectPtr := Nat

/-- `ThriftConverter`, with the objects it has allocated. -/
structure ThriftConverter (α : Type) where
  /-- Bytes of the memory buffer that have not been read. -/
  mMemBuffer : List UInt8
  /-- Objects in the order of their allocation, none for one that has been deleted. -/
  objects : List (Option α)
  deriving DecidableEq

/-- How a call ends. -/
inductive CallEnd where
  /-- It returns an object, none for a null pointer. -/
  | returned (object : Option ObjectPtr)
  /-- An exception leaves it. -/
  | threw (exception : TException)
  deriving DecidableEq

/-- What the program does with a converter. -/
inductive ConverterAction where
  /-- `createPopulated`; its data is none for a null pointer. -/
  | createPopulated (topic : Topic) (data : Option (List UInt8))
  /-- `delete` of an object that was returned. -/
  | delete (object : ObjectPtr)
  deriving DecidableEq

namespace ThriftConverter

variable {α : Type}

/-- `ThriftConverter::ThriftConverter`. -/
def new : ThriftConverter α := { mMemBuffer := [], objects := [] }

/-- `new T`. -/
def allocate (converter : ThriftConverter α) (object : α) : ObjectPtr × ThriftConverter α :=
  (converter.objects.length, { converter with objects := converter.objects ++ [some object] })

/-- `delete object`. -/
def delete (converter : ThriftConverter α) (object : ObjectPtr) : ThriftConverter α :=
  { converter with objects := converter.objects.set object none }

/-- `mMemBuffer->resetBuffer`, whose size is a `uint32_t`. -/
def resetBuffer (converter : ThriftConverter α) (data : List UInt8) : ThriftConverter α :=
  { converter with mMemBuffer := data.take (data.length % 2 ^ 32) }

variable (thrift : Thrift α)

/-- `ThriftConverterUtils::createAndPopulate`. -/
def createAndPopulate (converter : ThriftConverter α) (topic : Topic)
    (data : Option (List UInt8)) : CallEnd × ThriftConverter α :=
  let (thriftObject, converter) := converter.allocate (thrift.create topic)
  match data with
  | none => (.returned (some thriftObject), converter)
  | some data =>
    let converter := converter.resetBuffer data
    let result := thrift.read topic (thrift.create topic) converter.mMemBuffer
    let converter := { converter with
      mMemBuffer := result.unread
      objects := converter.objects.set thriftObject (some result.object) }
    match result.exception with
    | none => (.returned (some thriftObject), converter)
    | some .transport => (.returned none, converter.delete thriftObject)
    -- no handler catches it
    | some .protocol => (.threw .protocol, converter)

/-- `ThriftConverter::createPopulated`. -/
def createPopulated (converter : ThriftConverter α) (topic : Topic) (data : Option (List UInt8)) :
    CallEnd × ThriftConverter α :=
  match topic with
  | .metamorphosisStation => createAndPopulate thrift converter .metamorphosisStation data
  | .metamorphosisScheduleDay => createAndPopulate thrift converter .metamorphosisScheduleDay data
  -- every other topic has a case that makes a new object of its type
  | topic =>
    let (object, converter) := converter.allocate (thrift.create topic)
    (.returned (some object), converter)

/-- One action. -/
def step (converter : ThriftConverter α) : ConverterAction → ThriftConverter α
  | .createPopulated topic data => (createPopulated thrift converter topic data).2
  | .delete object => converter.delete object

/-- The call makes the object that the bytes decode to; if they do not decode it returns a null
pointer, and the object of the attempt is deleted. -/
structure Contained (converter : ThriftConverter α) (topic : Topic) (bytes : List UInt8) :
    Prop where
  /-- Bytes that decode are returned as their object. -/
  decoded : ∀ object, thrift.decode topic bytes = some object →
    (createPopulated thrift converter topic (some bytes)).1 =
        .returned (some converter.objects.length) ∧
      (createPopulated thrift converter topic (some bytes)).2.objects =
        converter.objects ++ [some object]
  /-- Bytes that do not decode leave a null pointer and no object. -/
  failed : thrift.decode topic bytes = none →
    (createPopulated thrift converter topic (some bytes)).1 = .returned none ∧
      (createPopulated thrift converter topic (some bytes)).2.objects = converter.objects ++ [none]

end ThriftConverter

/-- The topics whose objects are made of the bytes. -/
def Topic.Populated (topic : Topic) : Prop :=
  topic = .metamorphosisStation ∨ topic = .metamorphosisScheduleDay

namespace ThriftConverter

variable {α : Type} (thrift : Thrift α) {topic : Topic} {bytes : List UInt8}

/-- The outcomes of a call with bytes, by the exception that `read` throws on them. -/
theorem createPopulated_eq (populated : topic.Populated) (short : bytes.length < 2 ^ 32)
    (converter : ThriftConverter α) :
    let result := thrift.read topic (thrift.create topic) bytes
    createPopulated thrift converter topic (some bytes) =
      match result.exception with
      | none => (.returned (some converter.objects.length),
          { mMemBuffer := result.unread, objects := converter.objects ++ [some result.object] })
      | some .transport => (.returned none,
          { mMemBuffer := result.unread, objects := converter.objects ++ [none] })
      | some .protocol => (.threw .protocol,
          { mMemBuffer := result.unread, objects := converter.objects ++ [some result.object] }) := by
  have whole : bytes.take (bytes.length % 2 ^ 32) = bytes := by
    rw [Nat.mod_eq_of_lt short, List.take_length]
  have called : createPopulated thrift converter topic (some bytes) =
      createAndPopulate thrift converter topic (some bytes) := by
    rcases populated with rfl | rfl <;> rfl
  rw [called]
  simp only [createAndPopulate, allocate, resetBuffer, whole, delete]
  split <;> simp

/-- A call contains a failure exactly if it is not that of malformed data. -/
theorem contained_iff (populated : topic.Populated) (short : bytes.length < 2 ^ 32)
    (converter : ThriftConverter α) :
    Contained thrift converter topic bytes ↔
      (thrift.read topic (thrift.create topic) bytes).exception ≠ some .protocol := by
  have outcome := createPopulated_eq thrift populated short converter
  constructor
  · intro contained malformed
    have undecoded : thrift.decode topic bytes = none := by simp [Thrift.decode, malformed]
    have returned := (contained.failed undecoded).1
    simp only [malformed] at outcome
    rw [outcome] at returned
    cases returned
  · intro regular
    cases thrown : (thrift.read topic (thrift.create topic) bytes).exception with
    | none =>
      have decodes : thrift.decode topic bytes =
          some (thrift.read topic (thrift.create topic) bytes).object := by
        simp [Thrift.decode, thrown]
      simp only [thrown] at outcome
      constructor
      · intro object decoded
        rw [decodes] at decoded
        cases decoded
        rw [outcome]
        exact ⟨rfl, rfl⟩
      · intro undecoded
        rw [decodes] at undecoded
        cases undecoded
    | some exception =>
      have transport : exception = .transport := by
        cases exception with
        | transport => rfl
        | protocol => exact absurd thrown regular
      subst transport
      simp only [thrown] at outcome
      constructor
      · intro object decoded
        simp [Thrift.decode, thrown] at decoded
      · intro undecoded
        rw [outcome]
        exact ⟨rfl, rfl⟩

/-- For every Thrift, after any history of a converter: a call with the bytes of a station or a
schedule day contains their failure exactly if `read` does not find them malformed. -/
theorem decoding_contained_iff (populated : topic.Populated) (short : bytes.length < 2 ^ 32)
    (history : List ConverterAction) :
    Contained thrift (Transition.run (step thrift) new history) topic bytes ↔
      (thrift.read topic (thrift.create topic) bytes).exception ≠ some .protocol :=
  contained_iff thrift populated short _

/-! ### A record of strings -/

/-- Read the fields of a record of strings in the binary protocol, with a bound on their number:
for each a byte for its type, two for its id, four for its length, and the text. The type zero
ends the record. -/
def readStrings : Nat → List (List UInt8) → List UInt8 → ReadResult (List (List UInt8))
  | 0, object, unread => ⟨object, unread, some .transport⟩
  | _ + 1, object, [] => ⟨object, [], some .transport⟩
  | _ + 1, object, 0 :: unread => ⟨object, unread, none⟩
  | fields + 1, object, 11 :: _ :: _ :: high :: third :: second :: low :: unread =>
    let size := ((high.toNat * 256 + third.toNat) * 256 + second.toNat) * 256 + low.toNat
    -- a length is signed
    if high.toNat ≥ 128 then ⟨object, unread, some .protocol⟩
    else if unread.length < size then ⟨object, unread, some .transport⟩
    else readStrings fields (object ++ [unread.take size]) (unread.drop size)
  | _ + 1, object, 11 :: unread => ⟨object, unread, some .transport⟩
  | _ + 1, object, _ :: unread => ⟨object, unread, some .protocol⟩

/-- Thrift with records of strings. -/
def strings : Thrift (List (List UInt8)) :=
  { create := fun _ => []
    read := fun _ object unread => readStrings (unread.length + 1) object unread }

/-- After a record and a record cut short, a record of one string is contained. -/
theorem decoding_contained_iff_string :
    Contained strings (Transition.run (step strings) new
      [.createPopulated .metamorphosisStation (some [0]),
        .createPopulated .metamorphosisScheduleDay (some [11, 0, 1, 0])])
      .metamorphosisStation [11, 0, 1, 0, 0, 0, 2, 65, 66, 0] :=
  (decoding_contained_iff strings (.inl rfl) (by decide) _).mpr (by decide)

/-- The exception for a string of negative length leaves the call, and its object stays. -/
theorem negative_size_escapes :
    createPopulated strings new .metamorphosisStation (some [11, 0, 1, 255, 255, 255, 255]) =
        (.threw .protocol, { mMemBuffer := [], objects := [some []] }) ∧
      ¬Contained strings new .metamorphosisStation [11, 0, 1, 255, 255, 255, 255] := by
  refine ⟨by decide, fun contained => ?_⟩
  have returned := (contained.failed (by decide)).1
  exact absurd returned (by decide)

end ThriftConverter

end ApiPack2
