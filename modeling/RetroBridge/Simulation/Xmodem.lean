/-
  File:      RetroBridge/Simulation/Xmodem.lean
  Subject:   THE STRICT XMODEM RECEIVER (retrobridge/simulation.py: `_strict_xmodem_receive`,
             `_read_block_bytes`) and a sender in the mode that its 'C' asks for.

  The receiver asks for CRC-16 and checks 8-bit sums: behind the first byte of a packet it reads 131
  bytes where the sender has 132. Of what one `os.read` of the loop answers it keeps the first byte.

  * `Receiver`, `Receiver.exec` -- the receiver and its clock: reads of any length at any time,
    the one deadline of the 131 bytes of a block, failures;
  * `Link`, `Link.exec` -- the receiver and a conforming sender, each waiting for the other;
  * `acked_checked` -- every acknowledged packet has its complement, its number and its 8-bit sum;
  * `behind_run` -- the bytes of a block stand in the stream one behind the other;
  * `Delivers` -- each block acknowledged once, in order, and the end of the transfer;
  * `exists_run_lost` -- a packet that one read takes whole is lost, as often as it is sent;
  * `Timely`, `Transfer`, `delivers_of` -- blocks whose sum is their CRC are delivered by a loop
    that reads single bytes, where each comes before the deadline of its block;
  * `receives_iff` -- **of two that keep their times only the empty list of blocks is delivered
    however the reads split, others where they are such blocks and reads; and what is acknowledged
    is right where no 131 bytes of the stream have the 8-bit sum of their data and another CRC.**
-/
import Mathlib.Data.List.Infix
import RetroBridge.Library.Run

namespace RetroBridge.Simulation

open Transition

/-! ## 1. The receiver -/

/-- `timeout=1.0` of `_read_block_bytes`, in microseconds. -/
def blockTimeout : Nat := 1000000

/-- The 0.1 seconds of its `select`. -/
def selectTimeout : Nat := 100000

/-- Where the receiver is: at the head of its loop, in `_read_block_bytes` with the bytes read so
    far and their deadline, or returned. -/
inductive Phase where
  | top
  | block (data : List UInt8) (deadline : Nat)
  | returned
  deriving DecidableEq

/-- The bytes of the block in reading. -/
def Phase.data : Phase → List UInt8
  | .block data _ => data
  | .top | .returned => []

/-- What the receiver writes. -/
inductive Reply where
  | c
  | ack
  | nak
  | text (t : String)
  deriving DecidableEq

/-- What an ACK was written for: a packet, with the byte that follows it unread and the number
    expected then, or the end of the transfer. -/
inductive Acked where
  | packet (blockBytes : List UInt8) (next : Option UInt8) (expectedBlock : UInt8)
  | eot
  deriving DecidableEq

/-- **The receiver**, with the time of its last act in microseconds, the bytes sent to it that it
    has not read, and what it has written that the sender has not read. -/
structure Receiver where
  expectedBlock : UInt8
  first : Bool
  clock : Nat
  phase : Phase
  pending : List UInt8
  replies : List Reply
  acked : List Acked
  deriving DecidableEq

/-- What the calls of the receiver answer: an `os.read` with `n` bytes, a clock behind the deadline
    of `_read_block_bytes`, an `OSError`, the event that stops the loop. -/
inductive ReceiverAct where
  | handshake
  | read (n : Nat)
  | deadline
  | fail
  | stop
  deriving DecidableEq

/-- `block_bytes[0]`. -/
def blockNum (blockBytes : List UInt8) : UInt8 := blockBytes.getD 0 0

/-- `block_bytes[1]`. -/
def complement (blockBytes : List UInt8) : UInt8 := blockBytes.getD 1 0

/-- `block_bytes[2:130]`. -/
def blockData (blockBytes : List UInt8) : List UInt8 := (blockBytes.drop 2).take 128

/-- `block_bytes[130]`. -/
def rxCksum (blockBytes : List UInt8) : UInt8 := blockBytes.getD 130 0

/-- `sum(data) % 256`. -/
def calcCksum (data : List UInt8) : UInt8 := data.foldl (· + ·) 0

/-- The condition of the NAK. -/
def refused (expectedBlock : UInt8) (blockBytes : List UInt8) : Bool :=
  let isRetransmission := blockNum blockBytes == expectedBlock - 1
  let isExpected := blockNum blockBytes == expectedBlock
  complement blockBytes != 255 - blockNum blockBytes ||
    calcCksum (blockData blockBytes) != rxCksum blockBytes || !(isExpected || isRetransmission)

/-- What is written behind the ACK of the EOT. -/
def farewell : List Reply :=
  [.text "\r\nPROGRAM LOADED. EXECUTING...\r\n", .text "Hello, World!\r\n",
    .text "Execution complete. Return code: 0\r\n", .text "\r\nREADY\r\n"]

namespace Receiver

variable (r : Receiver)

/-- A chunk, of which the loop looks at the first byte. -/
def onChunk (chunk rest : List UInt8) : Receiver :=
  match chunk.head? with
  | some 0x04 =>
    { r with
      phase := .returned
      pending := rest
      replies := r.replies ++ .ack :: farewell
      acked := r.acked ++ [.eot] }
  | some 0x01 => { r with phase := .block [] (r.clock + blockTimeout), pending := rest }
  | some 0x02 => { r with phase := .block [] (r.clock + blockTimeout), pending := rest }
  | _ => { r with pending := rest }

/-- The bytes of a block, when they are complete. -/
def onBlock (blockBytes rest : List UInt8) : Receiver :=
  if refused r.expectedBlock blockBytes then
    { r with phase := .top, pending := rest, replies := r.replies ++ [.nak] }
  else
    { r with
      phase := .top
      pending := rest
      replies := r.replies ++ [.ack]
      acked := r.acked ++ [.packet blockBytes rest.head? r.expectedBlock]
      expectedBlock := if blockNum blockBytes = r.expectedBlock then blockNum blockBytes + 1
        else r.expectedBlock }

/-- Some time later. -/
def later (d : Nat) : Receiver := { r with clock := r.clock + d }

/-- The loop of `_read_block_bytes` has found its clock before the deadline, and its `select`
    answers a tenth of a second later at the latest. -/
def Waits (deadline d : Nat) : Prop :=
  r.clock < deadline ∧ r.clock + d < deadline + selectTimeout

instance (deadline d : Nat) : Decidable (r.Waits deadline d) :=
  inferInstanceAs (Decidable (_ ∧ _))

/-- **One act of `_strict_xmodem_receive`**, so many microseconds after its last one. -/
def exec : Nat × ReceiverAct → Option Receiver
  | (d, .handshake) =>
    if r.phase = .top ∧ r.first = true then
      some { r.later d with first := false, replies := r.replies ++ [.c] }
    else none
  | (d, .read n) =>
    match r.phase with
    | .top =>
      if r.first = false ∧ 0 < n ∧ n ≤ 1024 ∧ n ≤ r.pending.length then
        some ((r.later d).onChunk (r.pending.take n) (r.pending.drop n))
      else none
    | .block data deadline =>
      if r.Waits deadline d ∧ 0 < n ∧ data.length + n ≤ 131 ∧ n ≤ r.pending.length then
        let data := data ++ r.pending.take n
        some (if data.length = 131 then (r.later d).onBlock data (r.pending.drop n)
          else { r.later d with phase := .block data deadline, pending := r.pending.drop n })
      else none
    | .returned => none
  | (d, .deadline) =>
    match r.phase with
    | .block _ deadline =>
      if deadline ≤ r.clock + d then some { r.later d with phase := .top } else none
    | _ => none
  | (d, .fail) =>
    match r.phase with
    | .top => if r.first = false then some { r.later d with phase := .returned } else none
    | .block _ deadline =>
      if r.Waits deadline d then some { r.later d with phase := .top } else none
    | .returned => none
  | (d, .stop) => if r.phase = .top then some { r.later d with phase := .returned } else none

end Receiver

/-- The receiver before its loop, with a stream of bytes to come. -/
def Receiver.start (stream : List UInt8) : Receiver := ⟨1, true, 0, .top, stream, [], []⟩

/-- A step of the receiver. -/
def ReceiverStep (r : Receiver) (a : Nat × ReceiverAct) (r' : Receiver) : Prop := r.exec a = some r'

/-! ## 2. The sender -/

/-- One bit of the CRC of XMODEM: the polynomial 0x1021. -/
def crcBit (crc : BitVec 16) : BitVec 16 :=
  if crc.msb then (crc <<< 1) ^^^ 0x1021 else crc <<< 1

/-- One byte: eight bits. -/
def crcByte (crc : BitVec 16) (b : UInt8) : BitVec 16 :=
  Nat.repeat crcBit 8 (crc ^^^ (b.toBitVec.setWidth 16 <<< 8))

/-- **CRC-16 of XMODEM**, the high byte first. -/
def crc16 (data : List UInt8) : UInt8 × UInt8 :=
  let crc := data.foldl crcByte 0
  (⟨(crc >>> 8).setWidth 8⟩, ⟨crc.setWidth 8⟩)

/-- A block: 128 bytes. -/
structure Block where
  data : List UInt8
  length : data.length = 128

/-- **The packet of a block in CRC mode.** -/
def packet (number : UInt8) (b : Block) : List UInt8 :=
  0x01 :: number :: (255 - number) :: b.data ++ [(crc16 b.data).1, (crc16 b.data).2]

/-- What the sender waits for. -/
inductive SenderPhase where
  | handshake
  | reply
  | done
  | gaveUp
  deriving DecidableEq

/-- It still reads replies. -/
def SenderPhase.reads : SenderPhase → Bool
  | .handshake | .reply => true
  | .done | .gaveUp => false

/-- **A conforming sender**: the blocks that are not acknowledged, the number of the first, and how
    often it may still be sent again. -/
structure Sender where
  blocks : List Block
  number : UInt8
  retries : Nat
  tries : Nat
  phase : SenderPhase

/-- What it sends: the packet of the first block, or EOT behind the last. -/
def Sender.unit (s : Sender) : List UInt8 :=
  match s.blocks with
  | [] => [0x04]
  | b :: _ => packet s.number b

/-- The receiver and the sender. -/
structure Link where
  receiver : Receiver
  sender : Sender

/-- What happens: an act of the receiver, some time after its last one, a reply read by the sender,
    the timeout of the sender. -/
inductive LinkAct where
  | receiver (d : Nat) (a : ReceiverAct)
  | reply
  | timeout

namespace Link

variable (s : Link)

/-- The sender sends. -/
def send (sender : Sender) : Link :=
  ⟨{ s.receiver with pending := s.receiver.pending ++ sender.unit },
    { sender with phase := .reply }⟩

/-- The sender sends again, or gives up. -/
def sendAgain : Link :=
  match s.sender.tries with
  | 0 => { s with sender := { s.sender with phase := .gaveUp } }
  | tries + 1 => s.send { s.sender with tries }

/-- The sender has read a reply. -/
def onReply (reply : Reply) : Link :=
  match s.sender.phase, reply with
  | .handshake, .c => s.send s.sender
  | .reply, .ack =>
    match s.sender.blocks with
    | [] => { s with sender := { s.sender with phase := .done } }
    | _ :: blocks =>
      s.send { s.sender with
        blocks
        number := s.sender.number + 1
        tries := s.sender.retries }
  | .reply, .nak => s.sendAgain
  | _, _ => s

/-- **One act of the two**, of a receiver that is not stopped over a line that does not fail. -/
def exec : LinkAct → Option Link
  | .receiver d a =>
    match a with
    | .handshake | .read _ | .deadline =>
      (s.receiver.exec (d, a)).map fun r => { s with receiver := r }
    | .fail | .stop => none
  | .reply =>
    match s.receiver.replies with
    | [] => none
    | reply :: replies =>
      if s.sender.phase.reads then
        some (Link.onReply { s with receiver := { s.receiver with replies } } reply)
      else none
  | .timeout => if s.sender.phase = .reply then some s.sendAgain else none

end Link

/-- A step of the two. -/
def LinkStep (s : Link) (a : LinkAct) (s' : Link) : Prop := s.exec a = some s'

namespace Link

variable {r : Receiver} {sender : Sender} {d n : Nat}

theorem exec_read_top (htop : r.phase = .top) : (Link.mk r sender).exec (.receiver d (.read n)) =
    if r.first = false ∧ 0 < n ∧ n ≤ 1024 ∧ n ≤ r.pending.length then
      some ⟨(r.later d).onChunk (r.pending.take n) (r.pending.drop n), sender⟩
    else none := by
  simp only [Link.exec, Receiver.exec, htop]
  split <;> rfl

theorem exec_read_block {data : List UInt8} {deadline : Nat}
    (hblock : r.phase = .block data deadline) :
    (Link.mk r sender).exec (.receiver d (.read n)) =
      if r.Waits deadline d ∧ 0 < n ∧ data.length + n ≤ 131 ∧ n ≤ r.pending.length then
        some ⟨if (data ++ r.pending.take n).length = 131 then
            (r.later d).onBlock (data ++ r.pending.take n) (r.pending.drop n)
          else
            { r.later d with
              phase := .block (data ++ r.pending.take n) deadline
              pending := r.pending.drop n },
          sender⟩
      else none := by
  simp only [Link.exec, Receiver.exec, hblock]
  split <;> rfl

theorem exec_deadline {data : List UInt8} {deadline : Nat}
    (hblock : r.phase = .block data deadline) :
    (Link.mk r sender).exec (.receiver d .deadline) =
      if deadline ≤ r.clock + d then some ⟨{ r.later d with phase := .top }, sender⟩ else none := by
  simp only [Link.exec, Receiver.exec, hblock]
  split <;> rfl

end Link

/-- At the head of the loop a read takes a byte that is there. -/
theorem not_read_nothing {s s' : Link} {d n : Nat} (htop : s.receiver.phase = .top)
    (hnothing : s.receiver.pending = []) : ¬LinkStep s (.receiver d (.read n)) s' := by
  intro hs
  rw [LinkStep, Link.exec_read_top htop, hnothing, Option.ite_none_right_eq_some] at hs
  exact absurd (Nat.lt_of_lt_of_le hs.1.2.1 hs.1.2.2.2) (Nat.lt_irrefl 0)

/-- The two before the handshake. -/
def Link.start (blocks : List Block) (retries : Nat) : Link :=
  ⟨Receiver.start [], ⟨blocks, 1, retries, retries, .handshake⟩⟩

/-! ## 3. What is acknowledged -/

/-- Both bytes of the CRC: the last of the block's bytes, and the byte behind them. -/
def CrcRight (blockBytes : List UInt8) (next : Option UInt8) : Prop :=
  (rxCksum blockBytes, next) =
    ((crc16 (blockData blockBytes)).1, some (crc16 (blockData blockBytes)).2)

instance (blockBytes : List UInt8) (next : Option UInt8) : Decidable (CrcRight blockBytes next) :=
  inferInstanceAs (Decidable (_ = _))

/-- What the receiver checks of a packet. -/
def Acked.Checked : Acked → Prop
  | .packet blockBytes _ expectedBlock =>
    complement blockBytes = 255 - blockNum blockBytes ∧
      (blockNum blockBytes = expectedBlock ∨ blockNum blockBytes = expectedBlock - 1) ∧
      calcCksum (blockData blockBytes) = rxCksum blockBytes
  | .eot => True

/-- **A packet that may be acknowledged**: complement, number and CRC. -/
def Acked.Right : Acked → Prop
  | .packet blockBytes next expectedBlock =>
    complement blockBytes = 255 - blockNum blockBytes ∧
      (blockNum blockBytes = expectedBlock ∨ blockNum blockBytes = expectedBlock - 1) ∧
      CrcRight blockBytes next
  | .eot => True

theorem refused_false {expectedBlock : UInt8} {blockBytes : List UInt8} (next : Option UInt8) :
    refused expectedBlock blockBytes = false ↔
      (Acked.packet blockBytes next expectedBlock).Checked := by
  unfold refused Acked.Checked
  simp only [Bool.or_eq_false_iff, bne_eq_false_iff_eq, Bool.not_eq_false', Bool.or_eq_true,
    beq_iff_eq]
  tauto

theorem Receiver.acked_onChunk (r : Receiver) (chunk rest : List UInt8) :
    (r.onChunk chunk rest).acked = r.acked ∨ (r.onChunk chunk rest).acked = r.acked ++ [.eot] := by
  unfold onChunk
  split
  · exact .inr rfl
  all_goals exact .inl rfl

theorem Receiver.acked_onBlock (r : Receiver) (blockBytes rest : List UInt8) :
    (r.onBlock blockBytes rest).acked = r.acked ∨
      refused r.expectedBlock blockBytes = false ∧ (r.onBlock blockBytes rest).acked =
        r.acked ++ [.packet blockBytes rest.head? r.expectedBlock] := by
  unfold onBlock
  split
  · exact .inl rfl
  · rename_i hrefused
    exact .inr ⟨Bool.eq_false_iff.mpr hrefused, rfl⟩

/-- **What a read acknowledges**: nothing, the EOT, or the packet it completes. -/
theorem Receiver.acked_read {r r' : Receiver} {d n : Nat} (h : ReceiverStep r (d, .read n) r') :
    r'.acked = r.acked ∨ r'.acked = r.acked ++ [.eot] ∨
      (r.phase.data ++ r.pending.take n).length = 131 ∧
        refused r.expectedBlock (r.phase.data ++ r.pending.take n) = false ∧
        r'.acked = r.acked ++
          [.packet (r.phase.data ++ r.pending.take n) (r.pending.drop n).head?
            r.expectedBlock] := by
  unfold ReceiverStep at h
  cases hphase : r.phase with
  | top =>
      simp only [exec, hphase] at h
      split at h
      · cases h
        rcases (r.later d).acked_onChunk (r.pending.take n) (r.pending.drop n) with hkept | heot
        · exact .inl hkept
        · exact .inr (.inl heot)
      · cases h
  | block data deadline =>
      simp only [exec, hphase] at h
      split at h
      · split at h
        · rename_i hlength
          cases h
          rcases (r.later d).acked_onBlock (data ++ r.pending.take n) (r.pending.drop n) with
            hkept | ⟨hrefused, hacked⟩
          · exact .inl hkept
          · exact .inr (.inr ⟨hlength, hrefused, hacked⟩)
        · cases h
          exact .inl rfl
      · cases h
  | returned =>
      simp only [exec, hphase] at h
      cases h

/-- **No other act acknowledges or reads anything.** -/
theorem Receiver.other_act {r r' : Receiver} {d : Nat} {a : ReceiverAct}
    (h : ReceiverStep r (d, a) r') (ha : ∀ n, a ≠ .read n) :
    r'.acked = r.acked ∧ r'.pending = r.pending ∧
      (r'.phase.data = r.phase.data ∨ r'.phase.data = []) := by
  unfold ReceiverStep at h
  cases a with
  | read n => exact absurd rfl (ha n)
  | handshake | stop =>
      rw [exec, Option.ite_none_right_eq_some] at h
      rw [← Option.some.inj h.2]
      exact ⟨rfl, rfl, by first | exact .inl rfl | exact .inr rfl⟩
  | deadline | fail =>
      cases hphase : r.phase <;> simp only [exec, hphase, reduceCtorEq] at h
      all_goals
        rw [Option.ite_none_right_eq_some] at h
        rw [← Option.some.inj h.2]
        exact ⟨rfl, rfl, .inr rfl⟩

theorem Receiver.left_onChunk {r : Receiver} (htop : r.phase = .top) (chunk rest : List UInt8) :
    (r.onChunk chunk rest).phase.data ++ (r.onChunk chunk rest).pending = rest := by
  unfold onChunk
  split
  · rfl
  · rfl
  · rfl
  · change r.phase.data ++ rest = rest
    rw [htop]
    rfl

theorem Receiver.left_onBlock (r : Receiver) (blockBytes rest : List UInt8) :
    (r.onBlock blockBytes rest).phase.data ++ (r.onBlock blockBytes rest).pending = rest := by
  unfold onBlock
  split <;> rfl

/-- **The receiver goes on in the stream**: of the bytes of its block and those to come an end is
    left. -/
theorem Receiver.behind_step {r r' : Receiver} {l : Nat × ReceiverAct} (h : ReceiverStep r l r') :
    r'.phase.data ++ r'.pending <:+ r.phase.data ++ r.pending := by
  obtain ⟨d, a⟩ := l
  by_cases ha : ∃ n, a = .read n
  · obtain ⟨n, rfl⟩ := ha
    unfold ReceiverStep at h
    have hrest : r.pending.drop n <:+ r.phase.data ++ r.pending :=
      (List.drop_suffix n r.pending).trans (List.suffix_append _ _)
    cases hphase : r.phase with
    | top =>
        simp only [exec, hphase, Option.ite_none_right_eq_some] at h
        have htop : (r.later d).phase = .top := hphase
        rw [← Option.some.inj h.2, left_onChunk htop, ← hphase]
        exact hrest
    | block data deadline =>
        simp only [exec, hphase, Option.ite_none_right_eq_some] at h
        rw [← Option.some.inj h.2]
        split
        · rw [left_onBlock, ← hphase]
          exact hrest
        · change data ++ r.pending.take n ++ r.pending.drop n <:+ data ++ r.pending
          rw [List.append_assoc, List.take_append_drop]
    | returned => simp only [exec, hphase, reduceCtorEq] at h
  · obtain ⟨-, hpending, hdata⟩ := other_act h fun n hn => ha ⟨n, hn⟩
    rw [hpending]
    rcases hdata with hdata | hdata
    · exact hdata ▸ List.suffix_rfl
    · exact hdata ▸ List.suffix_append _ _

section Stream

variable {stream : List UInt8} {as : List (Nat × ReceiverAct)} {r : Receiver}

/-- **The bytes of a block stand in the stream one behind the other**, in front of those to come. -/
theorem behind_run (h : Run ReceiverStep (Receiver.start stream) as r) :
    r.phase.data ++ r.pending <:+ stream :=
  h.invariant (I := fun r => r.phase.data ++ r.pending <:+ stream) List.suffix_rfl
    fun _ _ _ ih hs => (Receiver.behind_step hs).trans ih

/-- **What holds of the EOT and of each packet when it is completed holds of all that is
    acknowledged.** -/
theorem acked_run {P : Acked → Prop} (heot : P .eot)
    (hpacket : ∀ blockBytes rest expectedBlock, blockBytes ++ rest <:+ stream →
      blockBytes.length = 131 → refused expectedBlock blockBytes = false →
      P (.packet blockBytes rest.head? expectedBlock))
    (h : Run ReceiverStep (Receiver.start stream) as r) : ∀ packet ∈ r.acked, P packet := by
  have hone : ∀ {acked : List Acked} {answer : Acked}, (∀ packet ∈ acked, P packet) → P answer →
      ∀ packet ∈ acked ++ [answer], P packet := fun hall hanswer =>
    List.forall_mem_append.mpr ⟨hall, List.forall_mem_singleton.mpr hanswer⟩
  induction h with
  | start => exact fun _ hmem => absurd hmem List.not_mem_nil
  | @step _ r _ l hr hs ih =>
      obtain ⟨d, a⟩ := l
      cases a with
      | read n =>
          rcases Receiver.acked_read hs with hkept | hend | ⟨hlength, hrefused, hacked⟩
          · exact hkept ▸ ih
          · exact hend ▸ hone ih heot
          · have hbehind : r.phase.data ++ r.pending.take n ++ r.pending.drop n <:+ stream := by
              rw [List.append_assoc, List.take_append_drop]
              exact behind_run hr
            exact hacked ▸ hone ih (hpacket _ _ _ hbehind hlength hrefused)
      | handshake | deadline | fail | stop => exact (Receiver.other_act hs nofun).1 ▸ ih

/-- **Every acknowledged packet has its complement, its number and its 8-bit sum.** -/
theorem acked_checked (h : Run ReceiverStep (Receiver.start stream) as r) :
    ∀ packet ∈ r.acked, packet.Checked :=
  acked_run trivial (fun _ _ _ _ _ hrefused => (refused_false _).mp hrefused) h

/-- **A stream whose sums speak for the CRC**: wherever 131 bytes of it carry the complement of
    their number and the 8-bit sum of their data, they carry the CRC. -/
def SumSpeaks (stream : List UInt8) : Prop :=
  ∀ bytes ∈ stream.tails, 131 ≤ bytes.length →
    complement (bytes.take 131) = 255 - blockNum (bytes.take 131) →
    calcCksum (blockData (bytes.take 131)) = rxCksum (bytes.take 131) →
    CrcRight (bytes.take 131) (bytes.drop 131).head?

/-- **Of such a stream only right packets are acknowledged.** -/
theorem acked_right (hspeaks : SumSpeaks stream)
    (h : Run ReceiverStep (Receiver.start stream) as r) : ∀ packet ∈ r.acked, packet.Right := by
  refine acked_run trivial (fun blockBytes rest _ hbehind hlength hrefused => ?_) h
  obtain ⟨hcomplement, hnumber, hsum⟩ := (refused_false none).mp hrefused
  have htake : (blockBytes ++ rest).take 131 = blockBytes := List.take_left' hlength
  have hdrop : (blockBytes ++ rest).drop 131 = rest := List.drop_left' hlength
  have hcrc := hspeaks _ ((List.mem_tails _ _).mpr hbehind)
  rw [htake, hdrop, List.length_append, hlength] at hcrc
  exact ⟨hcomplement, hnumber, hcrc (Nat.le_add_right _ _) hcomplement hsum⟩

end Stream

/-! ## 4. The transfer -/

/-- The data an ACK was written for; none for the EOT. -/
def Acked.data : Acked → Option (List UInt8)
  | .packet blockBytes _ _ => some (blockData blockBytes)
  | .eot => none

/-- What an ACK is written for while the blocks of a list are sent. -/
def dataOf (blocks : List Block) : List (Option (List UInt8)) := blocks.map fun b => some b.data

/-- **A state of a delivery**: what is acknowledged is a first part of the blocks and the EOT, and
    all of it when no step is left. -/
def Delivered (step : Link → LinkAct → Link → Prop) (blocks : List Block) (s : Link) : Prop :=
  s.receiver.acked.map Acked.data <+: dataOf blocks ++ [none] ∧
    ((∀ a s', ¬step s a s') → s.receiver.phase = .returned ∧
      s.receiver.acked.map Acked.data = dataOf blocks ++ [none])

/-- **The blocks are delivered** in every run, and every run ends. -/
def Delivers (step : Link → LinkAct → Link → Prop) (blocks : List Block) (retries : Nat) : Prop :=
  (∀ as s, Run step (Link.start blocks retries) as s → Delivered step blocks s) ∧
    ∃ bound, ∀ as s, Run step (Link.start blocks retries) as s → as.length ≤ bound

/-- **The two keep their times**: while bytes of a block are to come, its deadline is not reached;
    and the sender, whose timeout is the longer one, sends again only where the receiver has read
    all that was sent, waits for a packet and has no reply on the way. -/
def Timely (s : Link) : LinkAct → Prop
  | .receiver d _ => ∀ data deadline, s.receiver.phase = .block data deadline →
      s.receiver.pending ≠ [] → s.receiver.clock + d < deadline
  | .reply => True
  | .timeout => s.receiver.phase = .top ∧ s.receiver.pending = [] ∧ s.receiver.replies = []

section Lost

variable (blocks : List Block) (retries : Nat)

/-- The first packet is sent, and nothing read. -/
def packetSent (b : Block) (tries clock : Nat) : Link :=
  ⟨⟨1, false, clock, .top, packet 1 b, [], []⟩, ⟨b :: blocks, 1, retries, tries, .reply⟩⟩

/-- It is lost: both wait. -/
def packetLost (b : Block) (tries clock : Nat) : Link :=
  ⟨⟨1, false, clock, .top, [], [], []⟩, ⟨b :: blocks, 1, retries, tries, .reply⟩⟩

/-- The sender has given up. -/
def givenUp (b : Block) (clock : Nat) : Link :=
  ⟨⟨1, false, clock, .top, [], [], []⟩, ⟨b :: blocks, 1, retries, 0, .gaveUp⟩⟩

theorem length_packet (number : UInt8) (b : Block) : (packet number b).length = 133 := by
  change ((b.data ++ [(crc16 b.data).1, (crc16 b.data).2]).length + 1 + 1) + 1 = 133
  rw [List.length_append, b.length]
  rfl

/-- One read takes the packet whole: its first byte is kept, and nothing is left of the rest. -/
theorem run_packetSent (b : Block) (tries clock : Nat) :
    Run (guarded LinkStep Timely) (packetSent blocks retries b tries clock)
      [.receiver 0 (.read 133), .receiver blockTimeout .deadline]
      (packetLost blocks retries b tries (clock + blockTimeout)) := by
  have hlength := length_packet 1 b
  have hread : (packetSent blocks retries b tries clock).exec (.receiver 0 (.read 133)) =
      some ⟨⟨1, false, clock, .block [] (clock + blockTimeout), [], [], []⟩,
        ⟨b :: blocks, 1, retries, tries, .reply⟩⟩ := by
    refine (Link.exec_read_top rfl).trans ?_
    change (if _ then some (Link.mk (Receiver.onChunk _ ((packet 1 b).take 133)
      ((packet 1 b).drop 133)) _) else none) = _
    rw [if_pos ⟨rfl, by decide, by decide, Nat.le_of_eq hlength.symm⟩,
      List.take_of_length_le (Nat.le_of_eq hlength), List.drop_of_length_le (Nat.le_of_eq hlength)]
    rfl
  have hdeadline := (@Link.exec_deadline ⟨1, false, clock, .block [] (clock + blockTimeout), [], [],
    []⟩ ⟨b :: blocks, 1, retries, tries, .reply⟩ blockTimeout [] _ rfl).trans
    (if_pos (Nat.le_refl _))
  have hone : Run (guarded LinkStep Timely) (packetSent blocks retries b tries clock)
      [.receiver 0 (.read 133)] _ := .step _ .start ⟨nofun, hread⟩
  exact .step (LinkAct.receiver blockTimeout .deadline) hone
    ⟨fun _ _ _ hsome => absurd rfl hsome, hdeadline⟩

/-- **The packet is lost as often as it is sent.** -/
theorem exists_run_lost (b : Block) (tries : Nat) : ∀ clock, ∃ as clock',
    Run (guarded LinkStep Timely) (packetLost blocks retries b tries clock) as
      (givenUp blocks retries b clock') := by
  induction tries with
  | zero => exact fun clock => ⟨_, clock, .step LinkAct.timeout .start ⟨⟨rfl, rfl, rfl⟩, rfl⟩⟩
  | succ tries ih =>
      intro clock
      obtain ⟨as, clock', hrun⟩ := ih (clock + blockTimeout)
      have hagain : Run (guarded LinkStep Timely) (packetLost blocks retries b (tries + 1) clock)
          [.timeout] (packetSent blocks retries b tries clock) :=
        .step LinkAct.timeout .start ⟨⟨rfl, rfl, rfl⟩, rfl⟩
      exact ⟨_, clock', (hagain.trans (run_packetSent blocks retries b tries clock)).trans hrun⟩

theorem final_givenUp (b : Block) (clock : Nat) (a : LinkAct) (s' : Link) :
    ¬LinkStep (givenUp blocks retries b clock) a s' := by
  intro hs
  cases a with
  | receiver d a =>
      cases a with
      | read n => exact absurd hs (not_read_nothing rfl rfl)
      | handshake | deadline | fail | stop => cases hs
  | reply | timeout => cases hs

/-- **A list with a block is not delivered.** -/
theorem not_delivers_cons (b : Block) :
    ¬Delivers (guarded LinkStep Timely) (b :: blocks) retries := by
  intro h
  have hasked : Run (guarded LinkStep Timely) (Link.start (b :: blocks) retries)
      [.receiver 0 .handshake] _ := .step (LinkAct.receiver 0 .handshake) .start ⟨nofun, rfl⟩
  have hsent : Run (guarded LinkStep Timely) (Link.start (b :: blocks) retries)
      [.receiver 0 .handshake, .reply] (packetSent blocks retries b retries 0) :=
    .step LinkAct.reply hasked ⟨trivial, rfl⟩
  obtain ⟨as, clock, hlost⟩ := exists_run_lost blocks retries b retries (0 + blockTimeout)
  have hrun := (hsent.trans (run_packetSent blocks retries b retries 0)).trans hlost
  have hphase := ((h.1 _ _ hrun).2 fun a s' hs => final_givenUp blocks retries b clock a s' hs.2).1
  cases hphase

end Lost

/-! ## 5. Reads of one byte, and blocks whose sum is their CRC -/

/-- A byte that the loop passes over. -/
def Ignored (c : UInt8) : Prop := c ≠ 0x04 ∧ c ≠ 0x01 ∧ c ≠ 0x02

instance (c : UInt8) : Decidable (Ignored c) := inferInstanceAs (Decidable (_ ∧ _))

/-- **The 8-bit sum is the first byte of the CRC**, and the second none that the loop looks for. -/
def SumIsCrc (b : Block) : Prop := calcCksum b.data = (crc16 b.data).1 ∧ Ignored (crc16 b.data).2

instance (b : Block) : Decidable (SumIsCrc b) := inferInstanceAs (Decidable (_ ∧ _))

/-- **Of a loop whose reads take one byte**; those of a block are free. -/
def ReadsSingly (s : Link) : LinkAct → Prop
  | .receiver _ (.read n) => s.receiver.phase = .top → n = 1
  | _ => True

/-- Both. -/
def Singly (s : Link) (a : LinkAct) : Prop := Timely s a ∧ ReadsSingly s a

/-- The last byte of a packet, unread in front of the next. -/
def Stray (sent : List Block) (stray : Option UInt8) : Prop :=
  (∀ c ∈ stray, Ignored c) ∧ (sent = [] → stray = none)

/-- **The states of such a transfer**, with a bound on the steps left: before and behind the
    handshake; a packet sent, in reading, answered; the EOT answered and its answer read. -/
inductive Transfer (blocks : List Block) (retries : Nat) : Nat → Link → Prop where
  | start : Transfer blocks retries (134 * blocks.length + 4) (Link.start blocks retries)
  | asked {clock : Nat} : Transfer blocks retries (134 * blocks.length + 3)
      ⟨⟨1, false, clock, .top, [], [.c], []⟩, ⟨blocks, 1, retries, retries, .handshake⟩⟩
  | sent {sent rest : List Block} {number : UInt8} {tries clock : Nat} {acked : List Acked}
      {stray : Option UInt8} (hblocks : blocks = sent ++ rest)
      (hacked : acked.map Acked.data = dataOf sent) (hstray : Stray sent stray) :
      Transfer blocks retries (134 * rest.length + 2 + stray.toList.length)
        ⟨⟨number, false, clock, .top,
            stray.toList ++ Sender.unit ⟨rest, number, retries, tries, .reply⟩, [], acked⟩,
          ⟨rest, number, retries, tries, .reply⟩⟩
  | reading {sent rest : List Block} {b : Block} {number : UInt8} {tries clock deadline : Nat}
      {acked : List Acked} {data left : List UInt8} (hblocks : blocks = sent ++ b :: rest)
      (hacked : acked.map Acked.data = dataOf sent)
      (hpacket : packet number b = 0x01 :: (data ++ left)) (hlength : data.length < 131)
      (hearly : clock < deadline) :
      Transfer blocks retries (134 * rest.length + (135 - data.length))
        ⟨⟨number, false, clock, .block data deadline, left, [], acked⟩,
          ⟨b :: rest, number, retries, tries, .reply⟩⟩
  | answered {sent rest : List Block} {b : Block} {number : UInt8} {tries clock : Nat}
      {acked : List Acked} {stray : Option UInt8} (hblocks : blocks = sent ++ b :: rest)
      (hacked : acked.map Acked.data = dataOf (sent ++ [b])) (hstray : Stray (sent ++ [b]) stray) :
      Transfer blocks retries (134 * rest.length + 3 + stray.toList.length)
        ⟨⟨number + 1, false, clock, .top, stray.toList, [.ack], acked⟩,
          ⟨b :: rest, number, retries, tries, .reply⟩⟩
  | ended {number : UInt8} {tries clock : Nat} {acked : List Acked}
      (hacked : acked.map Acked.data = dataOf blocks ++ [none]) :
      Transfer blocks retries 1
        ⟨⟨number, false, clock, .returned, [], .ack :: farewell, acked⟩,
          ⟨[], number, retries, tries, .reply⟩⟩
  | done {number : UInt8} {tries clock : Nat} {acked : List Acked}
      (hacked : acked.map Acked.data = dataOf blocks ++ [none]) :
      Transfer blocks retries 0
        ⟨⟨number, false, clock, .returned, [], farewell, acked⟩,
          ⟨[], number, retries, tries, .done⟩⟩

section Transfer

variable {blocks : List Block} {retries : Nat} {s s' : Link}

/-- The bytes of a block, taken whole, and what is left of its packet. -/
theorem packet_split {number : UInt8} {b : Block} {data left : List UInt8}
    (hpacket : packet number b = 0x01 :: (data ++ left)) (hlength : data.length = 131) :
    data = number :: (255 - number) :: (b.data ++ [(crc16 b.data).1]) ∧
      left = [(crc16 b.data).2] := by
  have htail : (number :: (255 - number) :: (b.data ++ [(crc16 b.data).1])) ++ [(crc16 b.data).2] =
      data ++ left := by
    refine Eq.trans ?_ (List.cons.inj hpacket).2
    simp only [List.cons_append, List.append_assoc, List.nil_append]
    rfl
  have hwhole :
      (number :: (255 - number) :: (b.data ++ [(crc16 b.data).1])).length = data.length := by
    rw [hlength, List.length_cons, List.length_cons, List.length_append, b.length]
    rfl
  obtain ⟨hdata, hleft⟩ := List.append_inj htail hwhole
  exact ⟨hdata.symm, hleft.symm⟩

/-- **A block whose sum is its CRC is acknowledged.** -/
theorem onBlock_packet {b : Block} (hsum : SumIsCrc b) {number : UInt8} {clock : Nat}
    {phase : Phase} {pending rest : List UInt8} {acked : List Acked} :
    ∃ packet : Acked, packet.data = some b.data ∧
      (Receiver.mk number false clock phase pending [] acked).onBlock
          (number :: (255 - number) :: (b.data ++ [(crc16 b.data).1])) rest =
        ⟨number + 1, false, clock, .top, rest, [.ack], acked ++ [packet]⟩ := by
  have hdata : blockData (number :: (255 - number) :: (b.data ++ [(crc16 b.data).1])) = b.data :=
    List.take_left' b.length
  have hcksum : rxCksum (number :: (255 - number) :: (b.data ++ [(crc16 b.data).1])) =
      (crc16 b.data).1 := by
    change (b.data ++ [(crc16 b.data).1]).getD 128 0 = _
    rw [List.getD_eq_getElem?_getD, List.getElem?_append_right (Nat.le_of_eq b.length), b.length]
    rfl
  have hchecked : (Acked.packet (number :: (255 - number) :: (b.data ++ [(crc16 b.data).1])) none
      number).Checked := by
    refine ⟨rfl, Or.inl rfl, ?_⟩
    rw [hdata, hcksum]
    exact hsum.1
  refine ⟨.packet _ rest.head? number, congrArg some hdata, ?_⟩
  unfold Receiver.onBlock
  refine (if_neg (Bool.not_eq_true _ ▸ (refused_false none).mpr hchecked)).trans ?_
  change Receiver.mk (if number = number then number + 1 else number) _ _ _ _ _ _ = _
  rw [if_pos rfl]
  rfl

/-- A stray byte is passed over. -/
theorem onChunk_ignored {c : UInt8} (h : Ignored c) (r : Receiver) (rest : List UInt8) :
    r.onChunk [c] rest = { r with pending := rest } := by
  unfold Receiver.onChunk
  split
  · rename_i heq
    exact absurd (Option.some.inj heq) h.1
  · rename_i heq
    exact absurd (Option.some.inj heq) h.2.1
  · rename_i heq
    exact absurd (Option.some.inj heq) h.2.2
  · rfl

theorem unit_ne_nil (sender : Sender) : sender.unit ≠ [] := by
  unfold Sender.unit
  split
  · exact List.cons_ne_nil _ _
  · exact List.cons_ne_nil _ _

theorem stray_none (sent : List Block) : Stray sent none := ⟨nofun, fun _ => rfl⟩

theorem dataOf_concat (sent : List Block) (b : Block) :
    dataOf (sent ++ [b]) = dataOf sent ++ [some b.data] := List.map_append

/-- A byte more than the 131 of a block is to come. -/
theorem left_ne_nil {number : UInt8} {b : Block} {data left : List UInt8}
    (hpacket : packet number b = 0x01 :: (data ++ left)) (hlength : data.length < 131) :
    left ≠ [] := by
  rintro rfl
  have hlen := congrArg List.length hpacket
  rw [length_packet, List.append_nil, List.length_cons] at hlen
  omega

variable {sent rest : List Block} {number : UInt8} {tries d n clock : Nat} {acked : List Acked}
  {stray : Option UInt8}

/-- A read at the head of the loop: a stray byte, the EOT, or the first byte of a packet. -/
theorem Transfer.read_sent (hblocks : blocks = sent ++ rest)
    (hacked : acked.map Acked.data = dataOf sent) (hstray : Stray sent stray)
    (hs : LinkStep
      ⟨⟨number, false, clock, .top,
          stray.toList ++ Sender.unit ⟨rest, number, retries, tries, .reply⟩, [], acked⟩,
        ⟨rest, number, retries, tries, .reply⟩⟩ (.receiver d (.read 1)) s') :
    ∃ left < 134 * rest.length + 2 + stray.toList.length, Transfer blocks retries left s' := by
  rw [LinkStep, Link.exec_read_top rfl, Option.ite_none_right_eq_some] at hs
  obtain ⟨-, hs⟩ := hs
  obtain rfl := Option.some.inj hs
  cases stray with
  | some c =>
      refine ⟨_, Nat.lt_succ_self _, ?_⟩
      change Transfer blocks retries _ ⟨Receiver.onChunk _ [c] (Sender.unit _), _⟩
      rw [onChunk_ignored (hstray.1 c rfl)]
      exact @Transfer.sent _ _ sent rest number tries _ acked none hblocks hacked (stray_none sent)
  | none =>
      cases rest with
      | nil =>
          refine ⟨1, Nat.lt_succ_self 1, .ended ?_⟩
          change (acked ++ [Acked.eot]).map Acked.data = _
          rw [List.map_append, hacked, hblocks, List.append_nil]
          rfl
      | cons b rest =>
          refine ⟨134 * rest.length + 135, ?_, ?_⟩
          · rw [List.length_cons]
            omega
          · exact @Transfer.reading _ _ sent rest b number tries _ _ acked [] _ hblocks hacked rfl
              (by decide) (Nat.lt_add_of_pos_right (by decide))

/-- A read of a block: a part of it, or the rest. -/
theorem Transfer.read_reading {b : Block} {data left : List UInt8} {deadline : Nat}
    (hsum : SumIsCrc b) (hblocks : blocks = sent ++ b :: rest)
    (hacked : acked.map Acked.data = dataOf sent)
    (hpacket : packet number b = 0x01 :: (data ++ left)) (hearly : clock + d < deadline)
    (hs : LinkStep ⟨⟨number, false, clock, .block data deadline, left, [], acked⟩,
      ⟨b :: rest, number, retries, tries, .reply⟩⟩ (.receiver d (.read n)) s') :
    ∃ bound < 134 * rest.length + (135 - data.length), Transfer blocks retries bound s' := by
  rw [LinkStep, Link.exec_read_block rfl, Option.ite_none_right_eq_some] at hs
  obtain ⟨⟨-, hsome, hroom, hleft⟩, hs⟩ := hs
  obtain rfl := Option.some.inj hs
  have hwhole : packet number b = 0x01 :: (data ++ left.take n ++ left.drop n) := by
    rw [List.append_assoc, List.take_append_drop]
    exact hpacket
  have hread : (data ++ left.take n).length = data.length + n := by
    rw [List.length_append, List.length_take_of_le hleft]
  split
  · rename_i hcomplete
    obtain ⟨hdata, hlast⟩ := packet_split hwhole hcomplete
    obtain ⟨answer, hanswer, hblock⟩ := @onBlock_packet b hsum number (clock + d)
      (.block data deadline) left [(crc16 b.data).2] acked
    refine ⟨134 * rest.length + 4, by omega, ?_⟩
    rw [hdata, hlast]
    change Transfer blocks retries _
      ⟨Receiver.onBlock ⟨number, false, clock + d, _, left, [], acked⟩ _ _, _⟩
    rw [hblock]
    refine @Transfer.answered _ _ sent rest b number tries _ _ (some (crc16 b.data).2) hblocks ?_
      ⟨fun c hc => Option.some.inj hc ▸ hsum.2, fun hnil => ?_⟩
    · rw [List.map_append, hacked, dataOf_concat, List.map_singleton, hanswer]
    · exact absurd hnil (List.append_ne_nil_of_right_ne_nil _ (List.cons_ne_nil _ _))
  · rename_i hpart
    have hne : (data ++ left.take n).length ≠ 131 := hpart
    exact ⟨134 * rest.length + (135 - (data ++ left.take n).length), by omega,
      .reading hblocks hacked hwhole (by omega) hearly⟩

/-- **What a step of the two does to such a transfer.** -/
theorem Transfer.step (hsum : ∀ b ∈ blocks, SumIsCrc b) {left : Nat}
    (h : Transfer blocks retries left s) {a : LinkAct} (hsingly : Singly s a)
    (hs : LinkStep s a s') : ∃ left' < left, Transfer blocks retries left' s' := by
  obtain ⟨htimely, hsingly⟩ := hsingly
  cases a with
  | receiver d a =>
      cases a with
      | handshake =>
          cases h with
          | start =>
              cases hs
              exact ⟨_, Nat.lt_succ_self _, .asked⟩
          | asked | sent | reading | answered | ended | done => cases hs
      | read n =>
          cases h with
          | start | ended | done => cases hs
          | asked => exact absurd hs (not_read_nothing rfl rfl)
          | sent hblocks hacked hstray =>
              obtain rfl : n = 1 := hsingly rfl
              exact Transfer.read_sent hblocks hacked hstray hs
          | @reading sent rest b _ _ _ _ _ _ _ hblocks hacked hpacket hlength =>
              have hmem : b ∈ blocks := hblocks ▸ List.mem_append_right sent List.mem_cons_self
              exact Transfer.read_reading (hsum b hmem) hblocks hacked hpacket
                (htimely _ _ rfl (left_ne_nil hpacket hlength)) hs
          | @answered sent rest b number tries clock acked stray hblocks hacked hstray =>
              obtain rfl : n = 1 := hsingly rfl
              cases stray with
              | none => exact absurd hs (not_read_nothing rfl rfl)
              | some c =>
                  rw [LinkStep, Link.exec_read_top rfl, Option.ite_none_right_eq_some] at hs
                  obtain rfl := Option.some.inj hs.2
                  refine ⟨134 * rest.length + 3, Nat.lt_succ_self _, ?_⟩
                  change Transfer blocks retries _ ⟨Receiver.onChunk _ [c] [], _⟩
                  rw [onChunk_ignored (hstray.1 c rfl)]
                  exact @Transfer.answered _ _ sent rest b number tries _ acked none hblocks hacked
                    (stray_none _)
      | deadline =>
          cases h with
          | start | asked | sent | answered | ended | done => cases hs
          | reading _ _ hpacket hlength _ =>
              -- the deadline is not reached while a byte is to come
              rw [LinkStep, Link.exec_deadline rfl, Option.ite_none_right_eq_some] at hs
              have hearly := htimely _ _ rfl (left_ne_nil hpacket hlength)
              exact absurd hs.1 (Nat.not_le_of_lt hearly)
      | fail | stop => cases hs
  | reply =>
      cases h with
      | start | sent | reading | done => cases hs
      | asked =>
          cases hs
          exact ⟨_, Nat.lt_succ_self _,
            @Transfer.sent _ _ [] blocks 1 retries _ [] none rfl rfl (stray_none [])⟩
      | @answered sent rest b number tries clock acked stray hblocks hacked hstray =>
          cases hs
          refine ⟨134 * rest.length + 2 + stray.toList.length, by omega, ?_⟩
          refine @Transfer.sent _ _ (sent ++ [b]) rest (number + 1) retries _ acked stray ?_ hacked
            hstray
          rw [hblocks, List.append_assoc]
          rfl
      | ended hacked =>
          cases hs
          exact ⟨0, Nat.one_pos, .done hacked⟩
  | timeout =>
      rw [LinkStep, Link.exec, Option.ite_none_right_eq_some] at hs
      obtain ⟨hphase, hs⟩ := hs
      obtain ⟨htop, hpending, hreplies⟩ := htimely
      cases h with
      | start | asked | done => cases hphase
      | reading => cases htop
      | answered | ended => cases hreplies
      | sent => exact absurd (List.append_eq_nil_iff.mp hpending).2 (unit_ne_nil _)

/-- The receiver that waits for a byte that is there reads it. -/
theorem exists_read_one (hfirst : s.receiver.first = false) (hpending : s.receiver.pending ≠ [])
    (hphase : s.receiver.phase = .top ∨ ∃ data deadline,
      s.receiver.phase = .block data deadline ∧ data.length < 131 ∧
        s.receiver.clock < deadline) :
    ∃ s', LinkStep s (.receiver 0 (.read 1)) s' := by
  have hlength : 1 ≤ s.receiver.pending.length := List.length_pos_of_ne_nil hpending
  rcases hphase with htop | ⟨data, deadline, hblock, hroom, hearly⟩
  · exact ⟨_, (Link.exec_read_top htop).trans (if_pos ⟨hfirst, Nat.one_pos, by decide, hlength⟩)⟩
  · have hwaits : s.receiver.Waits deadline 0 := ⟨hearly, Nat.lt_add_right _ hearly⟩
    exact ⟨_, (Link.exec_read_block hblock).trans (if_pos ⟨hwaits, Nat.one_pos, hroom, hlength⟩)⟩

/-- **What is acknowledged on the way**, where timely reads of one byte are steps. -/
theorem Transfer.delivered {left : Nat} (h : Transfer blocks retries left s)
    {step : Link → LinkAct → Link → Prop}
    (hstep : ∀ a s', Singly s a → LinkStep s a s' → step s a s') :
    Delivered step blocks s := by
  have hprefix : ∀ sent rest : List Block, blocks = sent ++ rest →
      dataOf sent <+: dataOf blocks ++ [none] := by
    rintro sent rest rfl
    refine ⟨dataOf rest ++ [none], ?_⟩
    rw [dataOf, dataOf, dataOf, List.map_append, List.append_assoc]
  have hgoes : ∀ {a s'}, Singly s a → LinkStep s a s' → ¬∀ a s', ¬step s a s' :=
    fun hsingly hs hend => hend _ _ (hstep _ _ hsingly hs)
  have hread := @exists_read_one s
  cases h with
  | start =>
      exact ⟨List.nil_prefix, (absurd · (@hgoes (.receiver 0 .handshake) _ ⟨nofun, trivial⟩ rfl))⟩
  | asked => exact ⟨List.nil_prefix, (absurd · (@hgoes .reply _ ⟨trivial, trivial⟩ rfl))⟩
  | sent hblocks hacked =>
      refine ⟨hacked ▸ hprefix _ _ hblocks, (absurd · ?_)⟩
      obtain ⟨s', hs⟩ :=
        hread rfl (List.append_ne_nil_of_right_ne_nil _ (unit_ne_nil _)) (Or.inl rfl)
      exact @hgoes (.receiver 0 (.read 1)) s' ⟨nofun, fun _ => rfl⟩ hs
  | reading hblocks hacked hpacket hlength hearly =>
      refine ⟨hacked ▸ hprefix _ _ hblocks, (absurd · ?_)⟩
      obtain ⟨s', hs⟩ :=
        hread rfl (left_ne_nil hpacket hlength) (Or.inr ⟨_, _, rfl, hlength, hearly⟩)
      refine @hgoes (.receiver 0 (.read 1)) s' ⟨fun _ _ hphase _ => ?_, (by cases ·)⟩ hs
      cases hphase
      exact hearly
  | @answered sent rest b _ _ _ _ _ hblocks hacked =>
      refine ⟨?_, (absurd · (@hgoes .reply _ ⟨trivial, trivial⟩ rfl))⟩
      exact hacked ▸ hprefix _ rest (by rw [hblocks, List.append_assoc]; rfl)
  | ended hacked => exact ⟨hacked ▸ List.prefix_rfl, fun _ => ⟨rfl, hacked⟩⟩
  | done hacked => exact ⟨hacked ▸ List.prefix_rfl, fun _ => ⟨rfl, hacked⟩⟩

/-- **Steps that keep to such transfers deliver the blocks**, in at most 134 steps a block. -/
theorem delivers_of {step : Link → LinkAct → Link → Prop} (hsum : ∀ b ∈ blocks, SumIsCrc b)
    (hkeep : ∀ {left s a s'}, Transfer blocks retries left s → step s a s' →
      Singly s a ∧ LinkStep s a s')
    (hstep : ∀ s a s', Singly s a → LinkStep s a s' → step s a s') :
    Delivers step blocks retries := by
  have hrun : ∀ as s, Run step (Link.start blocks retries) as s →
      ∃ left, Transfer blocks retries left s ∧ as.length + left ≤ 134 * blocks.length + 4 := by
    intro as s h
    induction h with
    | start => exact ⟨_, .start, Nat.le_of_eq (Nat.zero_add _)⟩
    | step a _ hs ih =>
        obtain ⟨left, htransfer, hbound⟩ := ih
        obtain ⟨hsingly, hlink⟩ := hkeep htransfer hs
        obtain ⟨left', hless, htransfer'⟩ := htransfer.step hsum hsingly hlink
        refine ⟨left', htransfer', ?_⟩
        rw [List.length_append, List.length_singleton]
        omega
  refine ⟨fun as s h => ?_, 134 * blocks.length + 4, fun as s h => ?_⟩
  · obtain ⟨left, htransfer, -⟩ := hrun as s h
    exact htransfer.delivered fun a s' => hstep s a s'
  · obtain ⟨left, -, hbound⟩ := hrun as s h
    omega

/-- Without blocks every read is of one byte. -/
theorem readsSingly_nil {left : Nat} (h : Transfer [] retries left s) {a : LinkAct}
    (hs : LinkStep s a s') : ReadsSingly s a := by
  cases a with
  | reply | timeout => trivial
  | receiver d a =>
      cases a with
      | handshake | deadline | fail | stop => trivial
      | read n =>
          intro htop
          cases h with
          | start | ended | done => cases hs
          | asked => exact absurd hs (not_read_nothing rfl rfl)
          | reading => cases htop
          | @sent sent rest number tries clock acked stray hblocks hacked hstray =>
              obtain ⟨rfl, rfl⟩ := List.append_eq_nil_iff.mp hblocks.symm
              obtain rfl := hstray.2 rfl
              rw [LinkStep, Link.exec_read_top rfl, Option.ite_none_right_eq_some] at hs
              exact Nat.le_antisymm hs.1.2.2.2 hs.1.2.1
          | @answered sent rest b number tries clock acked stray hblocks hacked hstray =>
              exact absurd hblocks.symm
                (List.append_ne_nil_of_right_ne_nil _ (List.cons_ne_nil _ _))

end Transfer

/-! ## 6. Both promises -/

/-- **Of two that keep their times only the empty list of blocks is delivered however the reads
    split; other blocks are where their sum is their CRC and the loop reads single bytes; and where
    the 8-bit sums of a stream speak for its CRCs, what is acknowledged of it is right.** -/
theorem receives_iff (blocks : List Block) (retries : Nat) (stream : List UInt8) :
    (Delivers (guarded LinkStep Timely) blocks retries ↔ blocks = []) ∧
      ((∀ b ∈ blocks, SumIsCrc b) → Delivers (guarded LinkStep Singly) blocks retries) ∧
      (SumSpeaks stream → ∀ as r, Run ReceiverStep (Receiver.start stream) as r →
        ∀ packet ∈ r.acked, packet.Right) := by
  refine ⟨?_, fun hsum => delivers_of hsum (fun _ hs => hs) fun _ _ _ h hs => ⟨h, hs⟩,
    fun hspeaks as r h => acked_right hspeaks h⟩
  cases blocks with
  | nil =>
      have hsingly : ∀ {left s a s'}, Transfer [] retries left s →
          guarded LinkStep Timely s a s' → Singly s a ∧ LinkStep s a s' :=
        fun h hs => ⟨⟨hs.1, readsSingly_nil h hs.2⟩, hs.2⟩
      exact iff_of_true (delivers_of nofun hsingly fun _ _ _ h hs => ⟨h.1, hs⟩) rfl
  | cons b blocks => exact iff_of_false (not_delivers_cons blocks retries b) nofun

/-- The bytes behind the SOH of a packet of zeros, but the last. -/
def zeros : List UInt8 := 0x01 :: 0xFE :: List.replicate 129 0

/-- The CRC of zeros is zero. -/
theorem crc16_replicate (n : Nat) : crc16 (List.replicate n 0) = (0, 0) := by
  have hfold : (List.replicate n 0).foldl crcByte 0 = 0 := by
    induction n with
    | zero => rfl
    | succ n ih =>
        have hbyte : crcByte 0 0 = 0 := by decide
        rw [List.replicate_succ, List.foldl_cons, hbyte]
        exact ih
  rw [crc16, hfold]
  rfl

theorem crcRight_zeros (next : UInt8) : CrcRight zeros (some next) ↔ next = 0 := by
  have hdata : blockData zeros = List.replicate 128 0 := by decide
  have hcksum : rxCksum zeros = 0 := by decide
  rw [CrcRight, hdata, hcksum, crc16_replicate, Prod.mk.injEq, Option.some_inj]
  exact and_iff_right rfl

/-- In a packet of zeros only the packet itself carries a complement. -/
theorem sumSpeaks_zeros : SumSpeaks (0x01 :: zeros ++ [0]) := by
  have hwindow : ∀ bytes ∈ (0x01 :: zeros ++ [0]).tails, 131 ≤ bytes.length →
      complement (bytes.take 131) = 255 - blockNum (bytes.take 131) → bytes = zeros ++ [0] := by
    decide +kernel
  intro bytes hmem hlength hcomplement _
  rw [hwindow bytes hmem hlength hcomplement]
  exact (crcRight_zeros 0).mpr rfl

/-- A block of zeros. -/
def zeroBlock : Block := ⟨List.replicate 128 0, List.length_replicate⟩

theorem sumIsCrc_zeroBlock : SumIsCrc zeroBlock := by
  rw [SumIsCrc, zeroBlock, crc16_replicate]
  exact ⟨by decide +kernel, by decide⟩

/-- A block of zeros is delivered, and its packet acknowledged. -/
theorem receives_zeros :
    Delivers (guarded LinkStep Singly) [zeroBlock] 10 ∧
      ∃ as r, Run ReceiverStep (Receiver.start (0x01 :: zeros ++ [0])) as r ∧
        r.acked.length = 1 ∧ ∀ packet ∈ r.acked, packet.Right := by
  obtain ⟨-, hdelivers, hright⟩ := receives_iff [zeroBlock] 10 (0x01 :: zeros ++ [0])
  refine ⟨hdelivers (List.forall_mem_singleton.mpr sumIsCrc_zeroBlock), ?_⟩
  obtain ⟨r, hrun, hacked⟩ := @exists_run_of_execAll _ _ Receiver.exec
    (Receiver.start (0x01 :: zeros ++ [0])) [(0, .handshake), (0, .read 1), (0, .read 131)]
    (fun r => decide (r.acked.length = 1)) (by decide +kernel)
  exact ⟨_, r, hrun, of_decide_eq_true hacked, hright sumSpeaks_zeros _ r hrun⟩

/-- **A block that is never acknowledged, and a packet with a wrong CRC that is.** -/
theorem block_lost : (¬∀ blocks retries, Delivers (guarded LinkStep Timely) blocks retries) ∧
    ¬∀ stream as r, Run ReceiverStep (Receiver.start stream) as r →
      ∀ packet ∈ r.acked, packet.Right := by
  refine ⟨fun h => not_delivers_cons [] 10 zeroBlock (h _ _), fun h => ?_⟩
  obtain ⟨r, hrun, hacked⟩ := @exists_run_of_execAll _ _ Receiver.exec
    (Receiver.start (0x01 :: zeros ++ [1])) [(0, .handshake), (0, .read 1), (0, .read 131)]
    (fun r => decide (r.acked = [.packet zeros (some 1) 1])) (by decide +kernel)
  have hright := h _ _ r hrun
  rw [of_decide_eq_true hacked] at hright
  have hcrc := (crcRight_zeros 1).mp (hright _ List.mem_cons_self).2.2
  exact absurd hcrc (by decide)

end RetroBridge.Simulation
