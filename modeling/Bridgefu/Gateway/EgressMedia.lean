/- digest: Media packets of private egress routes: the codec tables, the encoder and the decoder. -/

import Bridgefu.CallEngine.Failure
import Bridgefu.Gateway.Sessions
import Bridgefu.Lib.Codec

set_option autoImplicit false

namespace Bridgefu.Gateway

open CallEngine Lib.Encoding

abbrev Bytes := List UInt8

structure MediaFrame where
  streamId : String
  payload : Bytes
  timestampRtp : UInt32
  payloadType : Option UInt8
  deriving DecidableEq

variable (frame : MediaFrame) (codec : CodecInfo) (sequence : UInt16) (ssrc : UInt32)
  (packet : Bytes) (first : UInt8) (streamId : String)

def asciiLowercase (text : List Char) : String := .ofList (text.map Char.toLower)

structure PrivateAudioCodec where
  name : String
  payloadType : UInt8
  deriving DecidableEq

def privateAudioCodec : Option PrivateAudioCodec :=
  let name := asciiLowercase (trimMatches isWhitespace codec.name.toList)
  if codec.channels ≠ 1 then none
  else if name = "opus" ∧ codec.clockRateHz = 48000 then some ⟨"opus", 111⟩
  else if name ∈ ["pcmu", "g.711-mu", "g711-mu", "g711u"] ∧ codec.clockRateHz = 8000 then
    some ⟨"g.711-mu", 0⟩
  else if name ∈ ["pcma", "g.711-a", "g711-a", "g711a"] ∧ codec.clockRateHz = 8000 then
    some ⟨"g.711-a", 8⟩
  else none

def codecPayloadType : UInt8 :=
  let name := asciiLowercase codec.name.toList
  if name ∈ ["pcmu", "g.711-mu"] then 0 else if name ∈ ["pcma", "g.711-a"] then 8 else 111

def encodeRtp : Bytes :=
  [0x80, codecPayloadType codec &&& 0x7f] ++ bigEndian 2 sequence.toNat ++
    bigEndian 4 frame.timestampRtp.toNat ++ bigEndian 4 ssrc.toNat ++ frame.payload

def rtpPayloadType : Bytes → Option UInt8
  | first :: second :: _ => if first >>> 6 = 2 then some (second &&& 0x7f) else none
  | _ => none

def refusesPayloadType (expected : Option UInt8) (packet : Bytes) : Bool :=
  expected.any fun expected => rtpPayloadType packet != some expected

def fromBigEndian (bytes : Bytes) : Nat :=
  bytes.foldl (fun value byte => value * 256 + byte.toNat) 0

/-- A range of a packet. Like a byte of it, it is absent where the access is out of bounds. -/
def range (start stop : Nat) : Option Bytes :=
  if start ≤ stop ∧ stop ≤ packet.length then some ((packet.take stop).drop start) else none

/-- Where the payload begins. The inner option is absent where the packet is refused. -/
def payloadOffset : Option (Option Nat) := do
  let offset := 12 + (first &&& 0x0f).toNat * 4
  if packet.length < offset then return none
  if first &&& 0x10 = 0 then return some offset
  if packet.length < offset + 4 then return none
  let words ← range packet (offset + 2) (offset + 4)
  let offset := offset + 4 + fromBigEndian words * 4
  if packet.length < offset then return none
  return some offset

def declaredPadding : Nat :=
  if first &&& 0x20 = 0 then 0 else (packet.getLast?.map UInt8.toNat).getD 0

def decodeRtp : Option (Option MediaFrame) := do
  if packet.length < 12 then return none
  let first : UInt8 ← packet[0]?
  if first >>> 6 ≠ 2 then return none
  let some offset ← payloadOffset packet first | return none
  let padding := declaredPadding packet first
  if packet.length - offset < padding then return none
  let payload ← range packet offset (packet.length - padding)
  let timestamp ← range packet 4 8
  let second : UInt8 ← packet[1]?
  return some ⟨streamId, payload, .ofNat (fromBigEndian timestamp), some (second &&& 0x7f)⟩

/-- How much the fixed header, the list of sources and the extension of a packet take. -/
def headerBytes : Nat :=
  let sources := 12 + (first &&& 0x0f).toNat * 4
  if first &&& 0x10 = 0 then sources
  else sources + 4 + fromBigEndian ((packet.take (sources + 4)).drop (sources + 2)) * 4

/-- The decoder makes no access out of bounds, and leaves all but the payload away. -/
def Decodes (decoded : Option (Option MediaFrame)) : Prop :=
  ∃ result, decoded = some result ∧ ∀ frame ∈ result, ∃ first, packet[0]? = some first ∧
    frame.payload = (packet.take (packet.length - declaredPadding packet first)).drop
      (headerBytes packet first)

private theorem Decodes.refused {packet} : Decodes packet (some none) :=
  ⟨none, rfl, nofun⟩

private theorem range_eq {packet start stop} (inside : start ≤ stop ∧ stop ≤ packet.length) :
    range packet start stop = some ((packet.take stop).drop start) :=
  if_pos inside

private theorem payloadOffset_cases : payloadOffset packet first = some none ∨
      payloadOffset packet first = some (some (headerBytes packet first)) ∧
        headerBytes packet first ≤ packet.length := by
  unfold payloadOffset headerBytes
  dsimp only [bind]
  split
  · exact .inl rfl
  split
  · exact .inr ⟨rfl, by omega⟩
  split
  · exact .inl rfl
  rw [range_eq (by omega), Option.bind_some]
  split
  · exact .inl rfl
  · exact .inr ⟨rfl, by omega⟩

private theorem decodeRtp_decodes : Decodes packet (decodeRtp packet streamId) := by
  unfold decodeRtp
  dsimp only [bind]
  split
  · exact .refused
  have first := List.getElem?_eq_getElem (l := packet) (i := 0) (by omega)
  have second := List.getElem?_eq_getElem (l := packet) (i := 1) (by omega)
  rw [first, second, Option.bind_some]
  split
  · exact .refused
  obtain found | ⟨found, _⟩ := payloadOffset_cases _ packet[0] <;>
    rw [found, Option.bind_some]
  · exact .refused
  dsimp only
  split
  · exact .refused
  · rw [range_eq (by omega), range_eq (by omega)]
    refine ⟨_, rfl, fun _ decoded => ⟨_, first, ?_⟩⟩
    cases decoded
    rfl

private theorem fromBigEndian_bigEndian (width value : Nat) :
    fromBigEndian (bigEndian width value) = value % 256 ^ width := by
  induction width generalizing value with
  | zero => exact (Nat.mod_one value).symm
  | succ width ih =>
    unfold fromBigEndian at ih ⊢
    rw [bigEndian, List.foldl_append, ih, List.foldl_cons, List.foldl_nil, UInt8.toNat_ofNat',
      Nat.pow_succ 256, Nat.mul_comm (256 ^ width) 256, Nat.mod_mul]
    omega

private theorem decodeRtp_encodeRtp : decodeRtp (encodeRtp frame codec sequence ssrc) streamId =
    some (some ⟨streamId, frame.payload, frame.timestampRtp,
      some (codecPayloadType codec &&& 0x7f &&& 0x7f)⟩) := by
  have length : (encodeRtp frame codec sequence ssrc).length = 12 + frame.payload.length := by
    simp [encodeRtp, bigEndian]
    omega
  have stamp : range (encodeRtp frame codec sequence ssrc) 4 8 =
      some (bigEndian 4 frame.timestampRtp.toNat) := range_eq (by omega)
  have small : frame.timestampRtp.toNat < 256 ^ 4 := frame.timestampRtp.toNat_lt
  have value : UInt32.ofNat (fromBigEndian (bigEndian 4 frame.timestampRtp.toNat)) =
      frame.timestampRtp := by
    rw [fromBigEndian_bigEndian, Nat.mod_eq_of_lt small, UInt32.ofNat_toNat]
  have rest : range (encodeRtp frame codec sequence ssrc) 12 (12 + frame.payload.length) =
      some frame.payload := by
    rw [range_eq (by omega), ← length, List.take_length]
    rfl
  generalize packet_eq : encodeRtp frame codec sequence ssrc = packet at *
  have first : packet[0]? = some (0x80 : UInt8) := packet_eq ▸ rfl
  have second : packet[1]? = some (codecPayloadType codec &&& 0x7f) := packet_eq ▸ rfl
  have bits : (0x80 : UInt8) >>> 6 = 2 ∧ ((0x80 : UInt8) &&& 0x0f).toNat = 0 ∧
      (0x80 : UInt8) &&& 0x10 = 0 ∧ (0x80 : UInt8) &&& 0x20 = 0 := by decide
  simp only [decodeRtp, payloadOffset, declaredPadding, length, first, second, stamp]
  simp [bits, rest, value]

private theorem letter_plain {c} (letter : 65 ≤ c.toNat ∧ c.toNat ≤ 122) :
    isWhitespace c = false := by
  simp [isWhitespace]
  omega

private theorem isWhitespace_toLower (c : Char) : isWhitespace c.toLower = isWhitespace c := by
  unfold Char.toLower
  split_ifs with upper
  · obtain ⟨low, high⟩ : 65 ≤ c.val.toNat ∧ c.val.toNat ≤ 90 := upper
    have shifted : (c.val + ('a'.val - 'A'.val)).toNat = c.val.toNat + 32 := by
      rw [UInt32.toNat_add]
      exact Nat.mod_eq_of_lt (by show _ + 32 < _; omega)
    have within : 65 ≤ c.val.toNat + 32 ∧ c.val.toNat + 32 ≤ 122 := by omega
    rw [← shifted] at within
    rw [letter_plain ⟨low, Nat.le_trans high (by decide)⟩]
    exact letter_plain within
  · rfl

private theorem trimMatches_map {test f} (same : ∀ c, test (f c) = test c)
    (text : List Char) : (trimMatches test text).map f = trimMatches test (text.map f) := by
  have alike : test ∘ f = test := funext same
  unfold trimMatches
  rw [List.dropWhile_map, ← List.map_reverse, List.dropWhile_map, alike, List.map_reverse]

/-- The names that both tables know, and the one that the encoder falls back for. -/
def Spelled : Prop :=
  asciiLowercase codec.name.toList ∈ ["pcmu", "g.711-mu", "pcma", "g.711-a"] ∨
    asciiLowercase (trimMatches isWhitespace codec.name.toList) = "opus"

private theorem trimmed_known {name}
    (known : asciiLowercase name ∈ ["pcmu", "g.711-mu", "pcma", "g.711-a"]) :
    asciiLowercase (trimMatches isWhitespace name) = asciiLowercase name := by
  unfold asciiLowercase at known ⊢
  rw [trimMatches_map isWhitespace_toLower]
  generalize name.map Char.toLower = lower at known ⊢
  have spelled : lower ∈ ["pcmu", "g.711-mu", "pcma", "g.711-a"].map String.toList :=
    List.mem_map.mpr ⟨_, known, String.toList_ofList⟩
  clear known
  revert lower
  decide

private theorem codecPayloadType_iff {codec accepted}
    (accepts : privateAudioCodec codec = some accepted) :
    codecPayloadType codec = accepted.payloadType ↔ Spelled codec := by
  have trimmed := @trimmed_known codec.name.toList
  unfold privateAudioCodec at accepts
  unfold Spelled codecPayloadType
  simp only at accepts trimmed ⊢
  split_ifs at accepts <;> cases accepts <;> grind

private theorem rtpPayloadType_encodeRtp :
    rtpPayloadType (encodeRtp frame codec sequence ssrc) = some (codecPayloadType codec) := by
  have masked : codecPayloadType codec &&& 0x7f &&& 0x7f = codecPayloadType codec := by
    unfold codecPayloadType
    dsimp only
    split_ifs <;> rfl
  exact congrArg _ masked

/-- The decoder is right about every packet, and gives back what was encoded. A route lets the
packets of its own codec pass if the encoder knows the spelling of the name. -/
theorem egress_media_iff {codec accepted} (accepts : privateAudioCodec codec = some accepted) :
    ((∀ frame sequence ssrc streamId,
        refusesPayloadType (some accepted.payloadType) (encodeRtp frame codec sequence ssrc) =
          false ∧
        ∃ decoded, decodeRtp (encodeRtp frame codec sequence ssrc) streamId = some (some decoded) ∧
          decoded.payload = frame.payload ∧ decoded.timestampRtp = frame.timestampRtp) ∧
      ∀ packet streamId, Decodes packet (decodeRtp packet streamId)) ↔ Spelled codec := by
  rw [← codecPayloadType_iff accepts]
  have passes (frame sequence ssrc) : refusesPayloadType (some accepted.payloadType)
      (encodeRtp frame codec sequence ssrc) = false ↔
        codecPayloadType codec = accepted.payloadType := by
    simp [refusesPayloadType, rtpPayloadType_encodeRtp]
  constructor
  · rintro ⟨agree, -⟩
    exact (passes _ 0 0).mp (agree ⟨"", [], 0, none⟩ 0 0 "").1
  · intro same
    exact ⟨fun frame sequence ssrc _ => ⟨(passes _ _ ssrc).mpr same, _,
      decodeRtp_encodeRtp .., rfl, rfl⟩, decodeRtp_decodes⟩

theorem egress_media_pcmu : privateAudioCodec ⟨"pcmu", 8000, 1⟩ = some ⟨"g.711-mu", 0⟩ ∧
    ∀ frame sequence ssrc, refusesPayloadType (some 0)
      (encodeRtp frame ⟨"pcmu", 8000, 1⟩ sequence ssrc) = false :=
  have accepts : privateAudioCodec ⟨"pcmu", 8000, 1⟩ = some ⟨"g.711-mu", 0⟩ := by decide
  ⟨accepts, fun frame sequence ssrc =>
    (((egress_media_iff accepts).mpr (.inl (by decide))).1 frame sequence ssrc "").1⟩

/-- A route accepts the codec under a name that its encoder does not know. -/
theorem g711u_refused : privateAudioCodec ⟨"g711u", 8000, 1⟩ = some ⟨"g.711-mu", 0⟩ ∧
    refusesPayloadType (some 0) (encodeRtp ⟨"", [], 0, none⟩ ⟨"g711u", 8000, 1⟩ 0 0) = true := by
  decide

end Bridgefu.Gateway
