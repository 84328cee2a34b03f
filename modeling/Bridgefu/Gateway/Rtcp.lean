/- digest: Control packets of a route are accepted exactly when they are whole blocks in a row. -/

import Bridgefu.Gateway.EgressMedia

set_option autoImplicit false

namespace Bridgefu.Gateway

/-- The length of the block at an offset. The inner option is absent where the packet is refused,
the outer one where an access is out of bounds. -/
def blockAt (packet : Bytes) (offset : Nat) : Option (Option Nat) := do
  if packet.length - offset < 4 then return none
  let first : UInt8 ← packet[offset]?
  if first >>> 6 ≠ 2 then return none
  let kind : UInt8 ← packet[offset + 1]?
  if ¬ (192 ≤ kind ∧ kind ≤ 223) then return none
  let high : UInt8 ← packet[offset + 2]?
  let low : UInt8 ← packet[offset + 3]?
  return some ((fromBigEndian [high, low] + 1) * 4)

def validateRtcpFrom (packet : Bytes) (offset : Nat) : Option (Option Unit) :=
  if offset < packet.length then do
    let some length ← blockAt packet offset | return none
    if length < 4 ∨ ¬ offset + length ≤ packet.length then return none
    validateRtcpFrom packet (offset + length)
  else return some ()
termination_by packet.length - offset

def validateRtcp (packet : Bytes) : Option (Option Unit) :=
  if packet.length < 4 ∨ packet.length &&& 3 ≠ 0 then some none else validateRtcpFrom packet 0

/-- How long a block is by its length field, if it has the version and the type of a control
packet. -/
def blockLength : Bytes → Option Nat
  | first :: kind :: high :: low :: _ =>
    if first >>> 6 = 2 ∧ 192 ≤ kind ∧ kind ≤ 223 then some ((fromBigEndian [high, low] + 1) * 4)
    else none
  | _ => none

/-- The packet consists of these blocks, each as long as it says. -/
structure Frames (blocks : List Bytes) (packet : Bytes) : Prop where
  each : ∀ block ∈ blocks, blockLength block = some block.length
  whole : blocks.flatten = packet

variable {block packet : Bytes} {blocks others : List Bytes} {length offset : Nat}

private theorem blockLength_words (declared : blockLength packet = some length) :
    4 ≤ packet.length ∧ 4 ≤ length ∧ length % 4 = 0 := by
  unfold blockLength at declared
  split at declared
  · split_ifs at declared
    cases declared
    exact ⟨by simp, by omega, by omega⟩
  · cases declared

private theorem blockLength_take (packet : Bytes) (long : 4 ≤ length) :
    blockLength (packet.take length) = blockLength packet := by
  obtain ⟨_, rfl⟩ := Nat.exists_eq_add_of_le' long
  rcases packet with _ | ⟨_, _ | ⟨_, _ | ⟨_, _ | ⟨_, _⟩⟩⟩⟩ <;> rfl

private theorem blockLength_append (declared : blockLength block = some length) (rest : Bytes) :
    blockLength (block ++ rest) = some length := by
  rw [← blockLength_take (block ++ rest) (blockLength_words declared).1, List.take_left, declared]

private theorem blockAt_eq (packet : Bytes) (offset : Nat) :
    blockAt packet offset = some (blockLength (packet.drop offset)) := by
  have byte : ∀ place, packet[offset + place]? = (packet.drop offset)[place]? :=
    fun place => (List.getElem?_drop).symm
  have start : packet[offset]? = (packet.drop offset)[0]? := byte 0
  rw [blockAt, start, byte, byte, byte, ← List.length_drop]
  rcases packet.drop offset with _ | ⟨first, _ | ⟨kind, _ | ⟨high, _ | ⟨low, _⟩⟩⟩⟩
  case cons.cons.cons.cons =>
    change (if first >>> 6 ≠ 2 then some none else if ¬ (192 ≤ kind ∧ kind ≤ 223) then some none
      else some (some ((fromBigEndian [high, low] + 1) * 4))) = _
    unfold blockLength
    split_ifs <;> simp_all
  all_goals rfl

private theorem validateRtcpFrom_eq (inside : offset < packet.length) :
    validateRtcpFrom packet offset = match blockLength (packet.drop offset) with
      | none => some none
      | some length => if offset + length ≤ packet.length
        then validateRtcpFrom packet (offset + length) else some none := by
  rw [validateRtcpFrom, if_pos inside, blockAt_eq]
  cases declared : blockLength (packet.drop offset) with
  | none => rfl
  | some _ =>
    have long := (blockLength_words declared).2.1
    grind

/-- The loop ends within the packet, and has read blocks if it accepts. -/
theorem validateRtcpFrom_frames (packet : Bytes) (offset : Nat) (inside : offset ≤ packet.length) :
    (validateRtcpFrom packet offset).isSome ∧ (validateRtcpFrom packet offset = some (some ()) →
      ∃ blocks, Frames blocks (packet.drop offset)) := by
  -- the induction is on what the loop has still to read
  induction remaining : packet.length - offset using Nat.strongRecOn generalizing offset with
  | ind remaining ih =>
  by_cases atEnd : offset = packet.length
  · rw [validateRtcpFrom, if_neg (by omega), atEnd, List.drop_length]
    exact ⟨rfl, fun _ => ⟨[], nofun, rfl⟩⟩
  rw [validateRtcpFrom_eq (by omega)]
  cases declared : blockLength (packet.drop offset) with
  | none => exact ⟨rfl, nofun⟩
  | some length =>
    obtain ⟨-, long, -⟩ := blockLength_words declared
    dsimp only
    split_ifs with fits
    · obtain ⟨total, sound⟩ := ih _ (by omega) (offset + length) fits rfl
      refine ⟨total, fun accepted => ?_⟩
      obtain ⟨blocks, each, whole⟩ := sound accepted
      refine ⟨(packet.drop offset).take length :: blocks, List.forall_mem_cons.mpr ⟨?_, each⟩, ?_⟩
      · rw [blockLength_take _ long, declared, List.length_take_of_le]
        rw [List.length_drop]
        omega
      · rw [List.flatten_cons, whole, ← List.drop_drop, List.take_append_drop]
    · exact ⟨rfl, nofun⟩

private theorem validateRtcpFrom_accepts (frames : Frames blocks packet) (done : Bytes) :
    validateRtcpFrom (done ++ packet) done.length = some (some ()) := by
  obtain ⟨each, rfl⟩ := frames
  induction blocks generalizing done with
  | nil =>
    rw [validateRtcpFrom, if_neg (by simp)]
    rfl
  | cons block _ ih =>
    obtain ⟨declared, later⟩ := List.forall_mem_cons.mp each
    have long := (blockLength_words declared).1
    have next := ih (done ++ block) later
    rw [List.append_assoc, List.length_append] at next
    rw [List.flatten_cons, validateRtcpFrom_eq (by simp; omega), List.drop_left,
      blockLength_append declared]
    exact (if_pos (by simp)).trans next

private theorem Frames.words (frames : Frames blocks packet) : packet.length % 4 = 0 := by
  obtain ⟨each, rfl⟩ := frames
  induction blocks with
  | nil => rfl
  | cons _ _ ih =>
    obtain ⟨declared, later⟩ := List.forall_mem_cons.mp each
    have one := (blockLength_words declared).2.2
    have others := ih later
    rw [List.flatten_cons, List.length_append]
    omega

private theorem Frames.unique (frames : Frames blocks packet) (framed : Frames others packet) :
    blocks = others := by
  obtain ⟨each, rfl⟩ := frames
  obtain ⟨each', same⟩ := framed
  induction blocks generalizing others with
  | nil =>
    cases others with
    | nil => rfl
    | cons block rest =>
      have declared := blockLength_append (each' block List.mem_cons_self) rest.flatten
      rw [← List.flatten_cons, same] at declared
      cases declared
  | cons block rest ih =>
    have declared := blockLength_append (each block List.mem_cons_self) rest.flatten
    rw [← List.flatten_cons, ← same] at declared
    cases others with
    | nil => cases declared
    | cons block' _ =>
      rw [List.flatten_cons, blockLength_append (each' block' List.mem_cons_self)] at declared
      obtain ⟨rfl, tails⟩ := List.append_inj same (Option.some.inj declared)
      rw [ih (List.forall_mem_cons.mp each).2 (List.forall_mem_cons.mp each').2 tails]

private theorem validateRtcp_iff (packet : Bytes) :
    (validateRtcp packet).isSome ∧ (validateRtcp packet = some (some ()) ↔
      packet ≠ [] ∧ ∃ blocks, Frames blocks packet) := by
  obtain ⟨total, sound⟩ := validateRtcpFrom_frames packet 0 (Nat.zero_le _)
  have low : packet.length &&& 3 = packet.length % 4 := Nat.and_two_pow_sub_one_eq_mod _ 2
  unfold validateRtcp
  split_ifs with refused
  · refine ⟨rfl, nofun, fun ⟨nonempty, blocks, frames⟩ => ?_⟩
    have words := frames.words
    have positive := List.length_pos_iff.mpr nonempty
    omega
  · refine ⟨total, fun accepted => ⟨?_, sound accepted⟩,
      fun ⟨_, blocks, frames⟩ => validateRtcpFrom_accepts frames []⟩
    rintro rfl
    exact refused (.inl (by decide))

/-- The validation of a control packet ends within the bounds of the packet. It accepts exactly the
packets that are blocks in a row, which fall into blocks in one way only and may be joined. -/
theorem rtcp_framing (packet : Bytes) :
    (validateRtcp packet).isSome ∧
    (validateRtcp packet = some (some ()) ↔ packet ≠ [] ∧ ∃ blocks, Frames blocks packet) ∧
    (validateRtcp packet = some (some ()) → ∃! blocks, Frames blocks packet) ∧
    ∀ other, validateRtcp packet = some (some ()) → validateRtcp other = some (some ()) →
      validateRtcp (packet ++ other) = some (some ()) := by
  obtain ⟨total, accepts⟩ := validateRtcp_iff packet
  refine ⟨total, accepts, fun accepted => ?_, fun other accepted next => ?_⟩ <;>
    obtain ⟨nonempty, blocks, frames⟩ := accepts.mp accepted
  · exact ⟨blocks, frames, fun others framed => framed.unique frames⟩
  · obtain ⟨-, others, follows⟩ := (validateRtcp_iff other).2.mp next
    refine (validateRtcp_iff (packet ++ other)).2.mpr ⟨by simp [nonempty], blocks ++ others,
      List.forall_mem_append.mpr ⟨frames.each, follows.each⟩, ?_⟩
    rw [List.flatten_append, frames.whole, follows.whole]

end Bridgefu.Gateway
