/-
# Dns.Wire — a response on its way to the client

`handle_request` ends with `to_bytes`. A DNS message has at most 65535 bytes, and the
encoder keeps to that: a question section that does not fit is an error, and of the
answers the first ones are kept, as many as fit, with the TC flag set if any is left
out (`emit`).

How a message is spelled in bytes is hickory's matter. A `WireCodec` reads messages and
writes them without a limit; the limit is put on top of it. `plainCodec` is such a
codec, byte for byte DNS as long as no two names share labels.
-/
import Tailroute.Dns.Server
import Tailroute.Theory.Framing

namespace Tailroute.Dns

open Tailroute.Theory Tailroute.Common

set_option autoImplicit false

/-- `u16::MAX`, the limit of `BinEncoder`. -/
def maxSize : Nat := 65535

structure WireCodec where
  fromBytes : List UInt8 → Option Message
  /-- The message in bytes, however many they are. -/
  write : Message → List UInt8
  /-- Further answers make no message shorter. -/
  grows : ∀ m more, (write m).length ≤ (write { m with answers := m.answers ++ more }).length
  /-- The header has a fixed size. -/
  flagged : ∀ m flag, (write { m with truncated := flag }).length = (write m).length

namespace WireCodec

def Fits (codec : WireCodec) (m : Message) : Prop := (codec.write m).length ≤ maxSize

instance (codec : WireCodec) (m : Message) : Decidable (codec.Fits m) :=
  inferInstanceAs (Decidable (_ ≤ _))

/-- The answers written after those in `kept`, up to the first that does not fit. -/
def emitAnswers (codec : WireCodec) (m : Message) : List Record → List Record → List Record
  | kept, [] => kept
  | kept, r :: rest =>
      if codec.Fits { m with answers := kept ++ [r] } then emitAnswers codec m (kept ++ [r]) rest
      else kept

/-- The message that `to_bytes` puts on the wire. -/
def emit (codec : WireCodec) (m : Message) : Option Message :=
  if codec.Fits { m with answers := [] } then
    let kept := codec.emitAnswers m [] m.answers
    some { m with
      answers := kept
      truncated := m.truncated || decide (kept.length < m.answers.length) }
  else none

def toBytes (codec : WireCodec) (m : Message) : Option (List UInt8) :=
  (codec.emit m).map codec.write

section Emit

variable {codec : WireCodec} {m sent : Message} {kept rest : List Record}

theorem Fits.of_append {more : List Record}
    (fits : codec.Fits { m with answers := kept ++ more }) :
    codec.Fits { m with answers := kept } :=
  (codec.grows { m with answers := kept } more).trans fits

theorem emitAnswers_prefix (codec : WireCodec) (m : Message) (kept rest : List Record) :
    codec.emitAnswers m kept rest <+: kept ++ rest := by
  induction rest generalizing kept with
  | nil => rw [emitAnswers, List.append_nil]
  | cons r rest ih =>
      rw [emitAnswers]
      split
      · have later := ih (kept ++ [r])
        rwa [List.append_assoc] at later
      · exact List.prefix_append kept (r :: rest)

/-- What is written fits. -/
theorem fits_emitAnswers (fits : codec.Fits { m with answers := kept }) :
    codec.Fits { m with answers := codec.emitAnswers m kept rest } := by
  induction rest generalizing kept with
  | nil => exact fits
  | cons r rest ih =>
      rw [emitAnswers]
      split
      · rename_i next
        exact ih next
      · exact fits

/-- Nothing is left out of a message that fits. -/
theorem emitAnswers_of_fits (fits : codec.Fits { m with answers := kept ++ rest }) :
    codec.emitAnswers m kept rest = kept ++ rest := by
  induction rest generalizing kept with
  | nil => rw [emitAnswers, List.append_nil]
  | cons r rest ih =>
      rw [List.append_cons] at fits ⊢
      rw [emitAnswers, if_pos fits.of_append, ih fits]

theorem emit_eq (fits : codec.Fits { m with answers := [] }) :
    codec.emit m = some { m with
      answers := codec.emitAnswers m [] m.answers
      truncated := m.truncated ||
        decide ((codec.emitAnswers m [] m.answers).length < m.answers.length) } :=
  if_pos fits

/-- A message that fits goes out as it is. -/
theorem emit_of_fits (fits : codec.Fits m) : codec.emit m = some m := by
  have whole : codec.emitAnswers m [] m.answers = m.answers := emitAnswers_of_fits fits
  have base : codec.Fits { m with answers := [] } := fits.of_append
  rw [emit_eq base, whole]
  simp

/-- Whatever goes out is the message but for answers left out at the end. -/
theorem emit_eq_some (out : codec.emit m = some sent) :
    sent = { m with answers := sent.answers, truncated := sent.truncated } ∧
      sent.answers <+: m.answers ∧ codec.Fits sent := by
  have base : codec.Fits { m with answers := [] } := by
    by_contra tooLong
    rw [emit, if_neg tooLong] at out
    cases out
  rw [emit_eq base] at out
  cases out
  refine ⟨rfl, emitAnswers_prefix codec m [] m.answers, ?_⟩
  have fits : codec.Fits { m with answers := codec.emitAnswers m [] m.answers } :=
    fits_emitAnswers base
  exact (codec.flagged _ _).trans_le fits

/-- Bytes that go out are at most 65535. -/
theorem length_toBytes {bytes : List UInt8} (out : codec.toBytes m = some bytes) :
    bytes.length < 65536 := by
  obtain ⟨sent, emitted, rfl⟩ := Option.map_eq_some_iff.mp out
  have fits : (codec.write sent).length ≤ 65535 := (emit_eq_some emitted).2.2
  omega

end Emit

end WireCodec

/-! ## A request from bytes to bytes -/

/-- The response a client gets, as a message: `none` if it cannot be encoded. -/
def sentResponse (codec : WireCodec) (cfg : DnsServerConfig) (world : World)
    (cache : ResponseCache) (req : Message) (peer : Option SocketAddr) : Option Message :=
  codec.emit (handleRequest cfg world cache req peer).1

/-- What one request meets: the world, and the cache as the others left it. -/
structure Meeting where
  world : World
  cache : ResponseCache

/-- `handle_request` on bytes. -/
def handleWire (codec : WireCodec) (cfg : DnsServerConfig) (met : Meeting) (wire : List UInt8)
    (peer : Option SocketAddr) : Option (List UInt8) :=
  (codec.fromBytes wire).bind fun req =>
    codec.toBytes (handleRequest cfg met.world met.cache req peer).1

/-! ## A codec -/

section Plain

/-- A name as labels behind their lengths. -/
def wireName (name : Text) : List UInt8 :=
  ((name.splitOn '.').filter fun label => !label.isEmpty).flatMap (fun label =>
    UInt8.ofNat label.length :: label.map fun c => UInt8.ofNat c.toNat) ++ [0]

def RecordType.code : RecordType → Nat
  | .a => 1
  | .aaaa => 28
  | .other code => code.toNat

def RecordType.ofCode : Nat → RecordType
  | 1 => .a
  | 28 => .aaaa
  | code => .other (UInt16.ofNat code)

def ResponseCode.code : ResponseCode → Nat
  | .noError => 0
  | .servFail => 2
  | .nxDomain => 3
  | .refused => 5

def RData.type : RData → RecordType
  | .a _ => .a
  | .other type _ => type

def RData.bytes : RData → List UInt8
  | .a address => address.octets
  | .other _ data => data

def wireQuery (q : Query) : List UInt8 :=
  wireName q.name ++ toBeBytes q.queryType.code ++ toBeBytes 1

/-- The owner of a record: a pointer to the question of that name, if there is one. -/
def wireOwner : Nat → List Query → Text → List UInt8
  | _, [], name => wireName name
  | offset, q :: rest, name =>
      if q.name = name then toBeBytes (0xC000 + offset)
      else wireOwner (offset + (wireQuery q).length) rest name

def wireRecord (queries : List Query) (r : Record) : List UInt8 :=
  wireOwner 12 queries r.name ++ toBeBytes r.rdata.type.code ++ toBeBytes 1 ++
    toBeBytes (r.ttl / 65536) ++ toBeBytes r.ttl ++ toBeBytes r.rdata.bytes.length ++ r.rdata.bytes

def bit (set : Bool) (value : Nat) : Nat := if set then value else 0

def wireHeader (m : Message) : List UInt8 :=
  toBeBytes m.id.toNat ++
    [UInt8.ofNat (bit (decide (m.messageType = .response)) 128 + m.opCode.toNat * 8 +
        bit m.authoritative 4 + bit m.truncated 2 + bit m.recursionDesired 1),
      UInt8.ofNat (bit m.recursionAvailable 128 + m.responseCode.code)] ++
    toBeBytes m.queries.length ++ toBeBytes m.answers.length ++ [0, 0, 0, 0]

def wireMessage (m : Message) : List UInt8 :=
  wireHeader m ++ m.queries.flatMap wireQuery ++ m.answers.flatMap (wireRecord m.queries)

/-- A name without pointers, read label by label. -/
def readName : Nat → List UInt8 → Option (Text × List UInt8)
  | 0, _ => none
  | _, [] => none
  | fuel + 1, n :: rest =>
      if n = 0 then some ([], rest)
      else if n.toNat ≤ 63 ∧ n.toNat ≤ rest.length then
        (readName fuel (rest.drop n.toNat)).map fun (name, left) =>
          ((rest.take n.toNat).map (fun b => Char.ofNat b.toNat) ++ '.' :: name, left)
      else none

def readQueries : Nat → List UInt8 → Option (List Query)
  | 0, _ => some []
  | n + 1, bytes =>
      match readName 128 bytes with
      | some (name, hi :: lo :: _ :: _ :: rest) =>
          (readQueries n rest).map fun queries =>
            ⟨name, .ofCode (fromBeBytes hi lo)⟩ :: queries
      | _ => none

/-- A query: header and questions, whatever comes after them. -/
def readMessage : List UInt8 → Option Message
  | idHi :: idLo :: flags :: _ :: qdHi :: qdLo :: _ :: _ :: _ :: _ :: _ :: _ :: rest =>
      (readQueries (fromBeBytes qdHi qdLo) rest).map fun queries =>
        { Message.new with
          id := UInt16.ofNat (fromBeBytes idHi idLo)
          opCode := UInt8.ofNat (flags.toNat / 8 % 16)
          recursionDesired := flags.toNat % 2 = 1
          queries := queries }
  | _ => none

theorem length_wireMessage (m : Message) :
    (wireMessage m).length = 12 + (m.queries.flatMap wireQuery).length +
      (m.answers.flatMap (wireRecord m.queries)).length := by
  simp only [wireMessage, wireHeader, toBeBytes, List.length_append, List.length_cons,
    List.length_nil]

def plainCodec : WireCodec where
  fromBytes := readMessage
  write := wireMessage
  grows m more := by
    rw [length_wireMessage, length_wireMessage, List.flatMap_append, List.length_append]
    dsimp only
    omega
  flagged m flag := by rw [length_wireMessage, length_wireMessage]

end Plain

end Tailroute.Dns
