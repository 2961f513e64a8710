import SoftBus.Lib.Bytes

/-!
# Frames on a DFile TCP socket

`DFileSocketRecvSP` reads a frame with as many calls of `SocketRecv` as it takes: first the header, then as many bytes as
the header says. A call that would block ends it; what was read stays in `recvBuffer`.
-/

namespace SoftBus

def nstackxRecvBufferLen : Nat := 1600

/-- A frame with a length the receiver takes: type, flag and ids, then the payload. -/
structure DFileFrame where
  head : List UInt8
  payload : List UInt8
  head_length : head.length = 6
  payload_length : payload.length < nstackxRecvBufferLen

def DFileFrame.bytes (f : DFileFrame) : List UInt8 := f.head ++ (Bytes.putBig 2 f.payload.length ++ f.payload)

/-- `ntohs(frameHeader->length)` -/
def headerLength (buffer : List UInt8) : Nat := Bytes.readBig 2 (buffer.drop 6)

def decodeDFileFrame (buffer : List UInt8) : Bool := 8 ≤ buffer.length && buffer.length - 8 = headerLength buffer

structure TcpSession where
  -- its first `recvLen` bytes
  recvBuffer : List UInt8 := []
  -- what the socket has still to give
  stream : List UInt8
  -- the calls of `DFileSessionHandleReadBuffer`
  handled : List (List UInt8) := []
deriving DecidableEq, Repr

inductive TcpResult where
  | frame
  | again
  | failed
deriving DecidableEq, Repr

namespace TcpSession

/-- `none` would block, `some k` gives at most `k + 1` bytes; so does an empty socket. -/
def socketRecv (s : TcpSession) (length : Nat) : Option Nat → Option (List UInt8)
  | none => none
  | some k => if s.stream = [] then none else some (s.stream.take (min length (k + 1)))

def received (s : TcpSession) (bytes : List UInt8) : TcpSession :=
  { s with recvBuffer := s.recvBuffer ++ bytes, stream := s.stream.drop bytes.length }

/-- Whether all bytes came, and the reads that are left; `none` when a read goes past the end of the buffer. -/
def tcpSocketRecv (length : Nat) :
    (s : TcpSession) → (recvLen : Nat) → List (Option Nat) → Option (Bool × TcpSession × List (Option Nat))
  | s, recvLen, [] => some (decide (length ≤ recvLen), s, [])
  | s, recvLen, r :: reads =>
    if length ≤ recvLen then some (true, s, r :: reads)
    else
      match s.socketRecv (length - recvLen) r with
      | none => some (false, s, reads)
      | some bytes =>
        if nstackxRecvBufferLen < s.recvBuffer.length + bytes.length then none
        else tcpSocketRecv length (s.received bytes) (recvLen + bytes.length) reads

def recvPayload (s : TcpSession) (reads : List (Option Nat)) : Option (TcpResult × TcpSession × List (Option Nat)) :=
  let payloadLen := headerLength s.recvBuffer
  if nstackxRecvBufferLen ≤ payloadLen then some (.failed, s, reads)
  else if s.recvBuffer.length - 8 < payloadLen then
    match tcpSocketRecv (payloadLen - (s.recvBuffer.length - 8)) s 0 reads with
    | none => none
    | some (done, s, reads) => some (if done then .frame else .again, s, reads)
  else some (.frame, s, reads)

def socketRecvForTcp (s : TcpSession) (reads : List (Option Nat)) : Option (TcpResult × TcpSession × List (Option Nat)) :=
  if s.recvBuffer.length < 8 then
    match tcpSocketRecv (8 - s.recvBuffer.length) s 0 reads with
    | none => none
    | some (false, s, reads) => some (.again, s, reads)
    | some (true, s, reads) => s.recvPayload reads
  else s.recvPayload reads

def dFileSocketRecvSP (s : TcpSession) (reads : List (Option Nat)) : Option (TcpSession × List (Option Nat)) :=
  match s.socketRecvForTcp reads with
  | none => none
  | some (.frame, s, reads) => some ({ s with recvBuffer := [], handled := s.handled ++ [s.recvBuffer] }, reads)
  | some (_, s, reads) => some (s, reads)

def calls : Nat → TcpSession → List (Option Nat) → Option (TcpSession × List (Option Nat))
  | 0, s, reads => some (s, reads)
  | n + 1, s, reads => (s.dFileSocketRecvSP reads).bind fun (s, reads) => calls n s reads

/-! ## What the reads do -/

def positive (reads : List (Option Nat)) : Nat := reads.countP Option.isSome

/-- Reading until the buffer has `total` bytes. -/
structure Reads (total : Nat) (s : TcpSession) (reads : List (Option Nat)) (done : Bool) (s' : TcpSession)
    (reads' : List (Option Nat)) : Prop where
  bytes : s'.recvBuffer ++ s'.stream = s.recvBuffer ++ s.stream
  handled : s'.handled = s.handled
  mono : s.recvBuffer.length ≤ s'.recvBuffer.length
  le : s'.recvBuffer.length ≤ total
  done_iff : done = true ↔ s'.recvBuffer.length = total
  shorter : reads'.length ≤ reads.length
  consumes : s.recvBuffer.length < total → reads'.length ≤ reads.length - 1
  progress : s'.stream = [] ∨ positive reads + s'.stream.length ≤ positive reads' + s.stream.length

section
variable {total : Nat} {s s' s'' : TcpSession} {reads reads' reads'' : List (Option Nat)} {done done' : Bool}
  {f : DFileFrame}

theorem Reads.stream_length (h : Reads total s reads done s' reads') : s'.stream.length ≤ s.stream.length := by
  have hlen := congrArg List.length h.bytes
  rw [List.length_append, List.length_append] at hlen
  have := h.mono
  omega

theorem Reads.trans {total' : Nat} (h : Reads total s reads done s' reads') (hlt : s.recvBuffer.length < total)
    (h' : Reads total' s' reads' done' s'' reads'') : Reads total' s reads done' s'' reads'' where
  bytes := h'.bytes.trans h.bytes
  handled := h'.handled.trans h.handled
  mono := h.mono.trans h'.mono
  le := h'.le
  done_iff := h'.done_iff
  shorter := h'.shorter.trans h.shorter
  consumes _ := h'.shorter.trans (h.consumes hlt)
  progress := by
    rcases h'.progress with hnil | hle'
    · exact .inl hnil
    rcases h.progress with hnil | hle
    · have hlen := h'.stream_length
      rw [hnil] at hlen
      exact .inl (List.length_eq_zero_iff.mp (Nat.le_zero.mp hlen))
    · exact .inr (by omega)

theorem reads_self (h : s.recvBuffer.length = total) : Reads total s reads true s reads :=
  ⟨rfl, rfl, Nat.le_refl _, h.le, by simp [h], Nat.le_refl _, fun hlt => absurd h hlt.ne, .inr (Nat.le_refl _)⟩

theorem socketRecv_some {length : Nat} {r : Option Nat} {bytes : List UInt8} (hlen : 0 < length)
    (h : s.socketRecv length r = some bytes) :
    r.isSome = true ∧ 0 < bytes.length ∧ bytes.length ≤ length ∧ bytes ++ s.stream.drop bytes.length = s.stream := by
  cases r with
  | none => cases h
  | some k =>
    rw [socketRecv] at h
    split at h
    · cases h
    · rename_i hne
      cases h
      have hpos := List.length_pos_iff.mpr hne
      refine ⟨rfl, ?_, ?_, ?_⟩
      · rw [List.length_take]
        omega
      · rw [List.length_take]
        omega
      · rw [List.length_take]
        conv_rhs => rw [← List.take_append_drop (min length (k + 1)) s.stream]
        congr 1
        by_cases hle : min length (k + 1) ≤ s.stream.length
        · rw [Nat.min_eq_left hle]
        · rw [List.drop_of_length_le (by omega), List.drop_of_length_le (by omega)]

theorem tcpSocketRecv_reads (length : Nat) (hfit : total ≤ nstackxRecvBufferLen) :
    ∀ (reads : List (Option Nat)) (s : TcpSession) (recvLen : Nat), recvLen ≤ length →
      s.recvBuffer.length + (length - recvLen) = total →
      ∃ done s' reads', tcpSocketRecv length s recvLen reads = some (done, s', reads') ∧ Reads total s reads done s' reads'
  | [], s, recvLen, hle, htotal => by
    refine ⟨_, s, [], rfl, rfl, rfl, Nat.le_refl _, by omega, ?_, Nat.le_refl _, fun _ => Nat.zero_le _, .inr (Nat.le_refl _)⟩
    rw [decide_eq_true_eq]
    omega
  | r :: reads, s, recvLen, hle, htotal => by
    rw [tcpSocketRecv]
    by_cases hall : length ≤ recvLen
    · rw [if_pos hall]
      exact ⟨true, s, r :: reads, rfl, reads_self (by omega)⟩
    rw [if_neg hall]
    cases hrecv : s.socketRecv (length - recvLen) r with
    | none =>
      refine ⟨false, s, reads, rfl, rfl, rfl, Nat.le_refl _, by omega, ?_, Nat.le_succ _, fun _ => Nat.le_refl _, ?_⟩
      · constructor
        · exact fun h => absurd h Bool.false_ne_true
        · omega
      · cases r with
        | none => exact .inr (by simp [positive])
        | some k =>
          rw [socketRecv] at hrecv
          split at hrecv
          · exact .inl (by assumption)
          · cases hrecv
    | some bytes =>
      obtain ⟨hsome, hpos, hlen, hbytes⟩ := socketRecv_some (by omega) hrecv
      dsimp only
      rw [if_neg (by omega)]
      have hbuffer : (s.received bytes).recvBuffer.length = s.recvBuffer.length + bytes.length := List.length_append
      obtain ⟨done, s', reads', heq, h⟩ := tcpSocketRecv_reads length hfit reads (s.received bytes) (recvLen + bytes.length)
        (by omega) (by omega)
      refine ⟨done, s', reads', heq, ?_, h.handled, ?_, h.le, h.done_iff, ?_, fun _ => h.shorter, ?_⟩
      · rw [h.bytes, received, List.append_assoc, hbytes]
      · have := h.mono
        omega
      · exact h.shorter.trans (Nat.le_succ _)
      · refine h.progress.imp id fun hle => ?_
        have hstream : (s.received bytes).stream.length + bytes.length = s.stream.length := by
          conv_rhs => rw [← hbytes, List.length_append]
          exact Nat.add_comm _ _
        unfold positive at hle ⊢
        rw [List.countP_cons_of_pos hsome]
        omega

/-! ## Frames -/

theorem bytes_length (f : DFileFrame) : f.bytes.length = 8 + f.payload.length := by
  rw [DFileFrame.bytes, List.length_append, List.length_append, f.head_length, Bytes.length_putBig]
  omega

theorem headerLength_eq {buffer stream tail : List UInt8} (hbytes : buffer ++ stream = f.bytes ++ tail)
    (hlen : 8 ≤ buffer.length) : headerLength buffer = f.payload.length := by
  have hlt : f.payload.length < 256 ^ 2 := f.payload_length.trans (by decide)
  have hdrop : (buffer.drop 6).take 2 = Bytes.putBig 2 f.payload.length := by
    have h := congrArg (fun l => (l.drop 6).take 2) hbytes
    rw [List.drop_append_of_le_length (by omega), List.take_append_of_le_length (by rw [List.length_drop]; omega)] at h
    rw [h, DFileFrame.bytes, List.append_assoc, List.append_assoc, List.drop_left' f.head_length]
    exact List.take_left' (Bytes.length_putBig _ _)
  have hread := Bytes.readBig_putBig_append hlt []
  rw [List.append_nil] at hread
  rw [← hread, headerLength, Bytes.readBig, Bytes.readBig, hdrop, List.take_of_length_le (by rw [Bytes.length_putBig])]

theorem recvPayload_reads {tail : List UInt8} (hbytes : s.recvBuffer ++ s.stream = f.bytes ++ tail)
    (hlen : 8 ≤ s.recvBuffer.length) (hle : s.recvBuffer.length ≤ f.bytes.length)
    (hfit : f.bytes.length ≤ nstackxRecvBufferLen) (reads : List (Option Nat)) :
    ∃ done s' reads', s.recvPayload reads = some (if done then .frame else .again, s', reads') ∧
      Reads f.bytes.length s reads done s' reads' := by
  have hf := bytes_length f
  have hpayload := f.payload_length
  unfold recvPayload
  rw [headerLength_eq hbytes hlen]
  dsimp only
  rw [if_neg (by omega)]
  by_cases hmore : s.recvBuffer.length - 8 < f.payload.length
  · obtain ⟨done, s', reads', heq, h⟩ := tcpSocketRecv_reads (f.payload.length - (s.recvBuffer.length - 8)) hfit reads s 0
      (Nat.zero_le _) (by omega)
    rw [if_pos hmore, heq]
    exact ⟨done, s', reads', rfl, h⟩
  · rw [if_neg hmore]
    exact ⟨true, s, reads, rfl, reads_self (by omega)⟩

theorem socketRecvForTcp_reads {tail : List UInt8} (hbytes : s.recvBuffer ++ s.stream = f.bytes ++ tail)
    (hlt : s.recvBuffer.length < f.bytes.length) (hfit : f.bytes.length ≤ nstackxRecvBufferLen)
    (reads : List (Option Nat)) :
    ∃ done s' reads', s.socketRecvForTcp reads = some (if done then .frame else .again, s', reads') ∧
      Reads f.bytes.length s reads done s' reads' := by
  have hf := bytes_length f
  unfold socketRecvForTcp
  by_cases hhead : s.recvBuffer.length < 8
  · rw [if_pos hhead]
    obtain ⟨done, s', reads', heq, h⟩ := tcpSocketRecv_reads (8 - s.recvBuffer.length) (show 8 ≤ _ by decide) reads s 0
      (Nat.zero_le _) (by omega)
    rw [heq]
    have hdone := h.done_iff
    have hle := h.le
    cases done with
    | false =>
      have hne : s'.recvBuffer.length ≠ 8 := fun h8 => absurd (hdone.mpr h8) Bool.false_ne_true
      refine ⟨false, s', reads', rfl, h.bytes, h.handled, h.mono, by omega, ?_, h.shorter, fun _ => h.consumes hhead,
        h.progress⟩
      constructor
      · exact fun hfalse => absurd hfalse Bool.false_ne_true
      · omega
    | true =>
      have hlen := hdone.mp rfl
      obtain ⟨done, s'', reads'', heq', h'⟩ := recvPayload_reads (h.bytes.trans hbytes) hlen.ge (by omega) hfit reads'
      exact ⟨done, s'', reads'', heq', h.trans hhead h'⟩
  · rw [if_neg hhead]
    exact recvPayload_reads hbytes (by omega) hlt.le hfit reads

def Delivered (frames : List DFileFrame) (s : TcpSession) : Prop :=
  ∃ before after, frames = before ++ after ∧ s.handled = before.map DFileFrame.bytes ∧
    s.recvBuffer ++ s.stream = after.flatMap DFileFrame.bytes ∧
    ∀ f rest, after = f :: rest → s.recvBuffer.length < f.bytes.length

variable {frames : List DFileFrame} (f : DFileFrame)

theorem Delivered.of_stream (h : Delivered frames s) (hstream : s.stream = []) : s.handled = frames.map DFileFrame.bytes := by
  obtain ⟨before, after, rfl, hhandled, hbytes, hpart⟩ := h
  cases after with
  | nil => rw [hhandled, List.append_nil]
  | cons f rest =>
    have hlen := congrArg List.length hbytes
    rw [hstream, List.append_nil, List.flatMap_cons, List.length_append] at hlen
    have := hpart f rest rfl
    omega

theorem Delivered.call (h : Delivered frames s) (hfit : ∀ f ∈ frames, f.bytes.length ≤ nstackxRecvBufferLen)
    (reads : List (Option Nat)) :
    ∃ s' reads', s.dFileSocketRecvSP reads = some (s', reads') ∧ Delivered frames s' ∧ reads'.length ≤ reads.length - 1 ∧
      s'.stream.length ≤ s.stream.length ∧
      (s'.stream = [] ∨ positive reads + s'.stream.length ≤ positive reads' + s.stream.length) := by
  obtain ⟨before, after, rfl, hhandled, hbytes, hpart⟩ := h
  unfold dFileSocketRecvSP
  cases after with
  | nil =>
    -- nothing is left to read
    have hempty : s.recvBuffer = [] ∧ s.stream = [] := List.append_eq_nil_iff.mp hbytes
    obtain ⟨done, s', reads', heq, h⟩ := tcpSocketRecv_reads (8 - s.recvBuffer.length) (show 8 ≤ _ by decide) reads s 0
      (Nat.zero_le _) (by rw [hempty.1]; rfl)
    have hempty' : s'.recvBuffer = [] ∧ s'.stream = [] := List.append_eq_nil_iff.mp (h.bytes.trans hbytes)
    have hdone : done = false := by
      rw [← Bool.not_eq_true, h.done_iff, hempty'.1]
      decide
    subst hdone
    rw [socketRecvForTcp, if_pos (by rw [hempty.1]; decide), heq]
    refine ⟨s', reads', rfl, ⟨before, [], rfl, h.handled.trans hhandled, h.bytes.trans hbytes, by simp⟩, ?_, ?_, .inl hempty'.2⟩
    · exact h.consumes (by rw [hempty.1]; decide)
    · exact h.stream_length
  | cons f rest =>
    have hlt := hpart f rest rfl
    rw [List.flatMap_cons] at hbytes
    obtain ⟨done, s', reads', heq, h⟩ := socketRecvForTcp_reads hbytes hlt (hfit f (by simp)) reads
    rw [heq]
    have hbytes' := h.bytes.trans hbytes
    cases done with
    | false =>
      have hne : s'.recvBuffer.length ≠ f.bytes.length := fun heq => absurd (h.done_iff.mpr heq) Bool.false_ne_true
      have hle := h.le
      refine ⟨s', reads', rfl, ⟨before, f :: rest, rfl, h.handled.trans hhandled, hbytes', ?_⟩, h.consumes hlt,
        h.stream_length, h.progress⟩
      intro f' rest' heq
      cases heq
      omega
    | true =>
      obtain ⟨hbuffer, hstream⟩ := List.append_inj hbytes' (h.done_iff.mp rfl)
      refine ⟨_, reads', rfl, ⟨before ++ [f], rest, by simp, ?_, hstream, ?_⟩, h.consumes hlt, h.stream_length, h.progress⟩
      · dsimp only
        rw [h.handled, hhandled, hbuffer, List.map_append]
        rfl
      · intro f' rest' _
        dsimp only
        rw [bytes_length]
        exact Nat.add_pos_left (by decide) _

theorem Delivered.calls (hfit : ∀ f ∈ frames, f.bytes.length ≤ nstackxRecvBufferLen) :
    ∀ (n : Nat) {s : TcpSession} (_ : Delivered frames s) (reads : List (Option Nat)),
      ∃ s' reads', calls n s reads = some (s', reads') ∧ Delivered frames s' ∧ reads'.length ≤ reads.length - n ∧
        s'.stream.length ≤ s.stream.length ∧
        (s'.stream = [] ∨ positive reads + s'.stream.length ≤ positive reads' + s.stream.length)
  | 0, s, h, reads => ⟨s, reads, rfl, h, Nat.le_refl _, Nat.le_refl _, .inr (Nat.le_refl _)⟩
  | n + 1, s, h, reads => by
    obtain ⟨s', reads', heq, h', hshort, hstream, hprogress⟩ := h.call hfit reads
    obtain ⟨s'', reads'', heq', h'', hshort', hstream', hprogress'⟩ := Delivered.calls hfit n h' reads'
    refine ⟨s'', reads'', ?_, h'', by omega, hstream'.trans hstream, ?_⟩
    · rw [TcpSession.calls, heq]
      exact heq'
    · rcases hprogress' with hnil | hle'
      · exact .inl hnil
      rcases hprogress with hnil | hle
      · rw [hnil] at hstream'
        exact .inl (List.length_eq_zero_iff.mp (Nat.le_zero.mp hstream'))
      · exact .inr (by omega)

/-! ## A frame that is too long -/

theorem tcpSocketRecv_done {length recvLen : Nat} (h : length ≤ recvLen) (s : TcpSession) (reads : List (Option Nat)) :
    tcpSocketRecv length s recvLen reads = some (true, s, reads) := by
  cases reads with
  | nil => rw [tcpSocketRecv, decide_eq_true h]
  | cons r reads => rw [tcpSocketRecv, if_pos h]

theorem tcpSocketRecv_one {length : Nat} (hpos : 0 < length) (hlen : length ≤ s.stream.length) (reads : List (Option Nat)) :
    tcpSocketRecv length s 0 (some (length - 1) :: reads) =
      if nstackxRecvBufferLen < s.recvBuffer.length + length then none
      else some (true, s.received (s.stream.take length), reads) := by
  have hne : s.stream ≠ [] := List.length_pos_iff.mp (by omega)
  have htake : (s.stream.take length).length = length := List.length_take_of_le hlen
  rw [tcpSocketRecv, if_neg (by omega), socketRecv, if_neg hne]
  rw [Nat.sub_zero, Nat.sub_add_cancel hpos, Nat.min_self]
  dsimp only
  rw [htake, tcpSocketRecv_done (by omega)]

def readsOf (f : DFileFrame) : List (Option Nat) :=
  some 7 :: if f.payload = [] then [] else [some (f.payload.length - 1)]

theorem take_append_payload : f.bytes.take 8 ++ f.payload = f.bytes := by
  have hdrop : f.bytes.drop 8 = f.payload := by
    rw [DFileFrame.bytes, ← List.append_assoc,
      List.drop_left' (by rw [List.length_append, f.head_length, Bytes.length_putBig])]
  rw [← hdrop, List.take_append_drop]

theorem tcpSocketRecv_header (tail : List UInt8) (handled : List (List UInt8)) (reads : List (Option Nat)) :
    tcpSocketRecv 8 { stream := f.bytes ++ tail, handled } 0 (some 7 :: reads) =
      some (true, ⟨f.bytes.take 8, f.payload ++ tail, handled⟩, reads) := by
  have hf := bytes_length f
  have hbuffer : (f.bytes.take 8).length = 8 := List.length_take_of_le (by omega)
  have hsplit : f.bytes ++ tail = f.bytes.take 8 ++ (f.payload ++ tail) := by
    rw [← List.append_assoc, take_append_payload]
  have hone := tcpSocketRecv_one (s := { stream := f.bytes ++ tail, handled }) (show 0 < 8 by decide)
    (show 8 ≤ (f.bytes ++ tail).length by rw [List.length_append]; omega) reads
  dsimp only [List.length_nil] at hone
  rw [if_neg (show ¬nstackxRecvBufferLen < 0 + 8 by decide)] at hone
  refine hone.trans ?_
  unfold received
  dsimp only
  rw [hsplit, List.take_left' hbuffer, hbuffer, List.drop_left' hbuffer]
  rfl

theorem dFileSocketRecvSP_readsOf (tail : List UInt8) (handled : List (List UInt8)) (reads : List (Option Nat)) :
    dFileSocketRecvSP { stream := f.bytes ++ tail, handled } (readsOf f ++ reads) =
      if nstackxRecvBufferLen < f.bytes.length then none
      else some ({ stream := tail, handled := handled ++ [f.bytes] }, reads) := by
  have hf := bytes_length f
  have hpayload := f.payload_length
  have hwhole := take_append_payload f
  have hbuffer : (f.bytes.take 8).length = 8 := List.length_take_of_le (by omega)
  have hheader : headerLength (f.bytes.take 8) = f.payload.length :=
    headerLength_eq (show f.bytes.take 8 ++ f.payload = f.bytes ++ [] by rw [hwhole, List.append_nil]) hbuffer.ge
  unfold dFileSocketRecvSP socketRecvForTcp readsOf
  rw [if_pos (show ([] : List UInt8).length < 8 by decide), List.cons_append]
  dsimp only [List.length_nil]
  rw [Nat.sub_zero, tcpSocketRecv_header]
  dsimp only [recvPayload]
  rw [hheader, if_neg (show ¬nstackxRecvBufferLen ≤ f.payload.length by omega), hbuffer, Nat.sub_self, Nat.sub_zero]
  by_cases hnil : f.payload = []
  · rw [hnil, List.append_nil] at hwhole
    rw [hwhole] at hbuffer
    rw [if_pos hnil, hnil, if_neg (by decide), hbuffer, if_neg (by decide), hwhole]
    rfl
  · have hpos := List.length_pos_iff.mpr hnil
    rw [if_neg hnil, if_pos hpos, List.singleton_append]
    rw [tcpSocketRecv_one (s := ⟨f.bytes.take 8, f.payload ++ tail, handled⟩) hpos
      (show f.payload.length ≤ (f.payload ++ tail).length by rw [List.length_append]; omega)]
    dsimp only
    rw [hbuffer, ← hf]
    by_cases hbig : nstackxRecvBufferLen < f.bytes.length
    · rw [if_pos hbig, if_pos hbig]
    · rw [if_neg hbig, if_neg hbig]
      unfold received
      dsimp only
      rw [List.take_left, List.drop_left, hwhole]
      rfl

theorem calls_readsOf (f : DFileFrame) (hbig : nstackxRecvBufferLen < f.bytes.length) (tail : List UInt8) :
    ∀ (before : List DFileFrame) (handled : List (List UInt8)),
      calls (before.length + 1) { stream := before.flatMap DFileFrame.bytes ++ (f.bytes ++ tail), handled }
        (before.flatMap readsOf ++ readsOf f) = none
  | [], handled => by
    have h := dFileSocketRecvSP_readsOf f tail handled []
    rw [if_pos hbig, List.append_nil] at h
    rw [calls, List.flatMap_nil, List.nil_append, List.flatMap_nil, List.nil_append, h]
    rfl
  | g :: before, handled => by
    rw [List.length_cons, calls, List.flatMap_cons, List.flatMap_cons, List.append_assoc, List.append_assoc,
      dFileSocketRecvSP_readsOf]
    split
    · rfl
    · exact calls_readsOf f hbig tail before _

end

/-- However the stream is split: no read leaves the buffer, the buffers given out are the first frames, in order and each
once, and decodable; they are all frames once every byte has been read, as it is after enough reads that do not block. -/
def Deframed (frames : List DFileFrame) (reads : List (Option Nat)) (n : Nat) : Prop :=
  ∃ s reads', calls n { stream := frames.flatMap DFileFrame.bytes } reads = some (s, reads') ∧
    s.handled <+: frames.map DFileFrame.bytes ∧ (∀ buffer ∈ s.handled, decodeDFileFrame buffer = true) ∧
    (s.stream = [] → s.handled = frames.map DFileFrame.bytes) ∧
    ((frames.flatMap DFileFrame.bytes).length ≤ positive reads → reads.length ≤ n → s.handled = frames.map DFileFrame.bytes)

theorem decodeDFileFrame_bytes (f : DFileFrame) : decodeDFileFrame f.bytes = true := by
  have hf := bytes_length f
  rw [decodeDFileFrame, headerLength_eq (show f.bytes ++ [] = f.bytes ++ [] from rfl) (by omega)]
  simp [hf]

theorem delivered_init (frames : List DFileFrame) : Delivered frames { stream := frames.flatMap DFileFrame.bytes } := by
  refine ⟨[], frames, rfl, rfl, rfl, fun f rest _ => ?_⟩
  rw [bytes_length]
  exact Nat.add_pos_left (by decide) _

/-- **Deframing.** Every way to split every sequence of frames is undone exactly when all of them fit into the buffer. -/
theorem tcp_deframing_iff (frames : List DFileFrame) :
    (∀ reads n, Deframed frames reads n) ↔ ∀ f ∈ frames, f.bytes.length ≤ nstackxRecvBufferLen := by
  constructor
  · intro h f hf
    by_contra hbig
    obtain ⟨before, after, rfl⟩ := List.append_of_mem hf
    have hnone := calls_readsOf f (Nat.lt_of_not_le hbig) (after.flatMap DFileFrame.bytes) before []
    obtain ⟨s, reads', hsome, -⟩ := h (before.flatMap readsOf ++ readsOf f) (before.length + 1)
    rw [List.flatMap_append, List.flatMap_cons, hnone] at hsome
    cases hsome
  · intro hfit reads n
    obtain ⟨s, reads', heq, h, hshort, -, hprogress⟩ := Delivered.calls hfit n (delivered_init frames) reads
    refine ⟨s, reads', heq, ?_, ?_, h.of_stream, fun hpos hn => h.of_stream ?_⟩
    · obtain ⟨before, after, rfl, hhandled, -⟩ := h
      rw [hhandled, List.map_append]
      exact List.prefix_append _ _
    · obtain ⟨before, after, -, hhandled, -⟩ := h
      intro buffer hbuffer
      rw [hhandled] at hbuffer
      obtain ⟨f, -, rfl⟩ := List.mem_map.mp hbuffer
      exact decodeDFileFrame_bytes f
    · have hnil : reads' = [] := List.length_eq_zero_iff.mp (by omega)
      rcases hprogress with hstream | hle
      · exact hstream
      · rw [hnil] at hle
        dsimp only [positive, List.countP_nil] at hle hpos
        exact List.length_eq_zero_iff.mp (by omega)

def longFrame : DFileFrame where
  head := List.replicate 6 0
  payload := List.replicate 1599 0
  head_length := List.length_replicate
  payload_length := by
    rw [List.length_replicate]
    decide

/-- Its last bytes are written past the end of the buffer. -/
theorem tcp_deframing_overflow : calls 1 { stream := longFrame.bytes } [some 7, some 1598] = none := by
  have hbig : nstackxRecvBufferLen < longFrame.bytes.length := by
    rw [bytes_length, longFrame, List.length_replicate]
    decide
  have hne : longFrame.payload ≠ [] := by
    rw [longFrame]
    exact List.cons_ne_nil 0 (List.replicate 1598 0)
  have hreads : readsOf longFrame = [some 7, some 1598] := by
    rw [readsOf, if_neg hne, longFrame, List.length_replicate]
  have h := calls_readsOf longFrame hbig [] [] []
  rw [hreads, List.append_nil] at h
  exact h

end TcpSession

end SoftBus
