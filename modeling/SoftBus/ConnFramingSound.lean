import SoftBus.ConnFraming

/-!
# Framing does not depend on the reads

A reader that has part of a stream of frames in its buffer takes out the frame in front as soon as all
its bytes are there, and asks for more otherwise. There is room for more then: the buffer has less than one
frame, and a frame fits in the buffer.
-/

namespace SoftBus

open Bytes

/-! ## Frames -/

/-- A head with the right magic number, and the bytes it announces. -/
structure ConnFrame where
  head : ConnPktHead
  data : List UInt8
  magic_eq : head.magic = connMagicNumber
  len_eq : head.len.toNat = data.length

def ConnFrame.wire (host : ByteOrder) (f : ConnFrame) : List UInt8 := packConnPktHead host (f.head.store host) ++ f.data

theorem convertConnPktHead_littleEndian (memory : List UInt8) :
    convertConnPktHead .littleEndian memory = memory := by
  have hdrop : ∀ k n, (memory.drop k).take n ++ memory.drop (k + n) = memory.drop k := fun k n => by
    rw [← List.drop_drop, List.take_append_drop]
  simp only [convertConnPktHead, procByteOrder]
  rw [hdrop 20 4, hdrop 16 4, hdrop 8 8, hdrop 4 4, List.take_append_drop]

theorem length_store (head : ConnPktHead) : (head.store .littleEndian).length = connPktHeadSize := by
  simp [ConnPktHead.store, ByteOrder.store, connPktHeadSize]

theorem load_store (head : ConnPktHead) (tail : List UInt8) :
    ConnPktHead.load .littleEndian (head.store .littleEndian ++ tail) = head := by
  have hget : ∀ {k w : Nat} (x : BitVec w), w = 8 * k → get (put k x.toNat) = x.toNat := by
    rintro k w x rfl
    rw [get_put, Nat.mod_eq_of_lt]
    have := x.isLt
    rwa [pow_mul] at this
  simp only [ConnPktHead.store, ByteOrder.store, List.append_assoc, ConnPktHead.load, ByteOrder.load]
  rw [List.take_left' (length_put 4 _)]
  have hdrop : ∀ (n m k : Nat) (x : Nat) (l : List UInt8), m = k + n → (put k x ++ l).drop m = l.drop n := by
    rintro n m k x l rfl
    rw [← List.drop_drop, drop_put_append]
  rw [hdrop 0 4 4 _ _ rfl, hdrop 4 8 4 _ _ rfl, hdrop 12 16 4 _ _ rfl, hdrop 16 20 4 _ _ rfl]
  rw [List.drop_zero, hdrop 0 4 4 _ _ rfl, hdrop 8 12 4 _ _ rfl, hdrop 12 16 4 _ _ rfl]
  rw [List.drop_zero, hdrop 0 8 8 _ _ rfl, hdrop 4 12 8 _ _ rfl, List.drop_zero, hdrop 0 4 4 _ _ rfl, List.drop_zero]
  rw [List.take_left' (length_put 4 _), List.take_left' (length_put 8 _), List.take_left' (length_put 4 _),
    List.take_left' (length_put 4 _), hget _ rfl, hget _ rfl, hget _ rfl, hget _ rfl, hget _ rfl]
  simp

theorem ConnFrame.wire_eq (f : ConnFrame) : f.wire .littleEndian = f.head.store .littleEndian ++ f.data := by
  rw [ConnFrame.wire, packConnPktHead, convertConnPktHead_littleEndian]

theorem ConnFrame.length_wire (f : ConnFrame) : (f.wire .littleEndian).length = connPktHeadSize + f.data.length := by
  rw [f.wire_eq, List.length_append, length_store]

/-! ## A buffer in a stream of frames -/

structure FramesAt (frames : List ConnFrame) (rest : List UInt8) (buffer : LimitedBuffer) : Prop where
  callocable : Callocable buffer.capacity
  fits : ∀ f ∈ frames, (f.wire .littleEndian).length ≤ buffer.capacity
  bytes : buffer.data ++ rest = frames.flatMap (ConnFrame.wire .littleEndian)

def Incomplete (frames : List ConnFrame) (buffer : LimitedBuffer) : Prop :=
  ∀ f ∈ frames.head?, buffer.data.length < (f.wire .littleEndian).length

section
variable {f : ConnFrame} {frames : List ConnFrame} {rest : List UInt8} {buffer : LimitedBuffer}

theorem FramesAt.parse_head (h : FramesAt (f :: frames) rest buffer) (hlen : connPktHeadSize ≤ buffer.data.length) :
    recvDataParse .littleEndian true buffer =
      if buffer.data.length < (f.wire .littleEndian).length then (.wait, buffer)
      else (.packet (buffer.data.take (f.wire .littleEndian).length),
        { buffer with data := buffer.data.drop (f.wire .littleEndian).length }) := by
  have hbytes : buffer.data ++ rest = f.wire .littleEndian ++ frames.flatMap (ConnFrame.wire .littleEndian) := h.bytes
  rw [f.wire_eq, List.append_assoc] at hbytes
  have hstore := length_store f.head
  obtain ⟨tail, htail⟩ : f.head.store .littleEndian <+: buffer.data :=
    List.prefix_of_prefix_length_le ⟨_, hbytes.symm⟩ ⟨_, rfl⟩ (by omega)
  have hload : ConnPktHead.load .littleEndian buffer.data = f.head := by
    rw [← htail, load_store]
  have hwire := f.length_wire
  have hfit := h.fits f List.mem_cons_self
  have hcap := h.callocable.2
  have hmalloc : maxMallocSize = 536870912 := rfl
  have hsize : connPktHeadSize = 24 := rfl
  have hpack : (f.head.len.toNat + connPktHeadSize) % 2 ^ 32 = (f.wire .littleEndian).length := by
    rw [f.len_eq, hwire]
    omega
  have hroom : ¬ wrapSub 32 buffer.capacity connPktHeadSize < f.head.len.toNat := by
    rw [f.len_eq, wrapSub]
    omega
  have hcalloc : Callocable (f.wire .littleEndian).length := ⟨by omega, by omega⟩
  unfold recvDataParse
  simp only [unpackConnPktHead, convertConnPktHead_littleEndian, hload, hpack]
  rw [if_neg (by omega), if_neg (by simp [f.magic_eq]), if_neg hroom, if_neg (not_not.mpr ⟨trivial, hcalloc⟩)]

theorem FramesAt.parse_wait (h : FramesAt frames rest buffer) (hpart : Incomplete frames buffer) :
    recvDataParse .littleEndian true buffer = (.wait, buffer) := by
  by_cases hlen : buffer.data.length < connPktHeadSize
  · rw [recvDataParse, if_pos hlen]
  · cases frames with
    | nil =>
      have hnil := (List.append_eq_nil_iff.mp (show buffer.data ++ rest = [] from h.bytes)).1
      exact absurd (by rw [hnil]; decide) hlen
    | cons f frames => rw [h.parse_head (by omega), if_pos (hpart f rfl)]

theorem FramesAt.parse_packet (h : FramesAt (f :: frames) rest buffer)
    (hlen : (f.wire .littleEndian).length ≤ buffer.data.length) :
    ∃ data, recvDataParse .littleEndian true buffer = (.packet (f.wire .littleEndian), { buffer with data }) ∧
      FramesAt frames rest { buffer with data } ∧ data.length ≤ buffer.data.length := by
  have hwire := f.length_wire
  have hbytes : buffer.data ++ rest = f.wire .littleEndian ++ frames.flatMap (ConnFrame.wire .littleEndian) := h.bytes
  obtain ⟨data, hdata⟩ : f.wire .littleEndian <+: buffer.data :=
    List.prefix_of_prefix_length_le ⟨_, hbytes.symm⟩ ⟨_, rfl⟩ hlen
  refine ⟨data, ?_, ⟨h.callocable, fun g hg => h.fits g (List.mem_cons_of_mem _ hg), ?_⟩, ?_⟩
  · rw [h.parse_head (by omega), if_neg (by omega), ← hdata, List.take_left' rfl, List.drop_left' rfl]
  · rw [← hdata, List.append_assoc] at hbytes
    exact List.append_cancel_left hbytes
  · rw [← hdata, List.length_append]
    omega

theorem FramesAt.fill {chunk : List UInt8} (h : FramesAt frames (chunk ++ rest) buffer) :
    FramesAt frames rest (buffer.fill chunk) :=
  ⟨h.callocable, h.fits, by rw [← h.bytes]; exact List.append_assoc ..⟩

theorem FramesAt.readSize_pos (h : FramesAt frames rest buffer) (hpart : Incomplete frames buffer) :
    buffer.readSize = buffer.capacity - buffer.data.length ∧ buffer.data.length < buffer.capacity := by
  have hlt : buffer.data.length < buffer.capacity := by
    cases frames with
    | nil =>
      have hnil := (List.append_eq_nil_iff.mp (show buffer.data ++ rest = [] from h.bytes)).1
      rw [hnil]
      exact h.callocable.1
    | cons f frames => exact Nat.lt_of_lt_of_le (hpart f rfl) (h.fits f List.mem_cons_self)
  have hcap := h.callocable.2
  have hmalloc : maxMallocSize = 536870912 := rfl
  refine ⟨?_, hlt⟩
  have hsub : wrapSub 32 buffer.capacity buffer.data.length = buffer.capacity - buffer.data.length := by
    rw [wrapSub]
    omega
  rw [LimitedBuffer.readSize, hsub, Word.int32_of_bounds (by omega) (by omega)]
  omega

theorem FramesAt.done (h : FramesAt frames [] buffer) (hpart : Incomplete frames buffer) : frames = [] := by
  cases frames with
  | nil => rfl
  | cons f frames =>
    have hlen := congrArg List.length h.bytes
    have := hpart f rfl
    simp only [List.flatMap_cons, List.length_append, List.length_nil] at hlen
    omega

end

/-! ## The COC buffer -/

def cocFrames (host : ByteOrder) (buffer : LimitedBuffer) (chunks : List (List UInt8)) :
    Option (List (List UInt8) × LimitedBuffer) :=
  let out := cocDrain host buffer
  (cocFeed host out.2 chunks).map fun rest => (out.1 ++ rest.1, rest.2)

section
variable {host : ByteOrder} {buffer buffer' : LimitedBuffer} {data chunk : List UInt8} {chunks : List (List UInt8)}

theorem cocDrain_packet (h : recvDataParse host true buffer = (.packet data, buffer')) :
    cocDrain host buffer = (data :: (cocDrain host buffer').1, (cocDrain host buffer').2) := by
  rw [cocDrain]
  split
  · rename_i hparse
    rw [connCocTransRecv, h] at hparse
    cases hparse
    rfl
  · rename_i hne hparse
    rw [connCocTransRecv, h] at hparse
    cases hparse
    exact absurd rfl (hne data)

theorem cocDrain_wait (h : recvDataParse host true buffer = (.wait, buffer')) : cocDrain host buffer = ([], buffer') := by
  rw [cocDrain]
  split
  · rename_i hparse
    rw [connCocTransRecv, h] at hparse
    cases hparse
  · rename_i hparse
    rw [connCocTransRecv, h] at hparse
    cases hparse
    rfl

theorem cocFrames_packet (h : recvDataParse host true buffer = (.packet data, buffer')) :
    cocFrames host buffer chunks = (cocFrames host buffer' chunks).map fun out => (data :: out.1, out.2) := by
  simp [cocFrames, cocDrain_packet h, Function.comp_def]

theorem cocFrames_wait_nil (h : recvDataParse host true buffer = (.wait, buffer')) :
    cocFrames host buffer [] = some ([], buffer') := by
  simp [cocFrames, cocDrain_wait h, cocFeed]

theorem cocFrames_wait_cons (h : recvDataParse host true buffer = (.wait, buffer))
    (hroom : buffer.data.length + chunk.length ≤ buffer.capacity) :
    cocFrames host buffer (chunk :: chunks) = cocFrames host (buffer.fill chunk) chunks := by
  simp [cocFrames, cocDrain_wait h, cocFeed, Nat.not_lt.mpr hroom, Function.comp_def]

end

/-! ## One frame of a BR connection -/

/-- The driver has returned some bytes, and no more than were asked for, or has not returned. -/
def ReadNote.Answered : ReadNote → Prop
  | .request size (some (.bytes data)) => 1 ≤ data.length ∧ data.length ≤ size
  | .request _ (some .failed) => False
  | _ => True

/-- Nothing is thrown away, and something is asked for. -/
def ReadNote.Sound : ReadNote → Prop
  | .request size _ => 0 < size
  | .discard _ => False

instance : DecidablePred ReadNote.Answered := fun note =>
  match note with
  | .request size (some (.bytes data)) => inferInstanceAs (Decidable (1 ≤ data.length ∧ data.length ≤ size))
  | .request _ none => .isTrue trivial
  | .request _ (some .failed) => .isFalse id
  | .discard _ => .isTrue trivial

section
variable {frames : List ConnFrame} {rest : List UInt8} {buffer : LimitedBuffer}

def ReadsNext (frames : List ConnFrame) (rest : List UInt8) (buffer : LimitedBuffer) (chunks : List (List UInt8))
    (out : ReadOut) : Prop :=
  (∃ f todo chunks', frames = f :: todo ∧ out.status = .frame (f.wire .littleEndian) ∧
    out.reads = chunks'.map .bytes ∧ out.mem = [] ∧ FramesAt todo (chunks'.flatten ++ rest) out.buffer ∧
    cocFrames .littleEndian buffer chunks =
      (cocFrames .littleEndian out.buffer chunks').map fun coc => (f.wire .littleEndian :: coc.1, coc.2)) ∨
  (out.status = .blocked ∧ out.reads = [] ∧ FramesAt frames rest out.buffer ∧ Incomplete frames out.buffer ∧
    cocFrames .littleEndian buffer chunks = some ([], out.buffer))

theorem FramesAt.readOneFrame_packet {f : ConnFrame} {chunks : List (List UInt8)}
    (h : FramesAt (f :: frames) (chunks.flatten ++ rest) buffer)
    (hlen : (f.wire .littleEndian).length ≤ buffer.data.length) :
    let out := connBrTransReadOneFrame .littleEndian [] buffer (chunks.map .bytes)
    out.notes = [] ∧ ReadsNext (f :: frames) rest buffer chunks out := by
  obtain ⟨data, hparse, hat, -⟩ := h.parse_packet hlen
  have hout : connBrTransReadOneFrame .littleEndian [] buffer (chunks.map .bytes) =
      ⟨.frame (f.wire .littleEndian), { buffer with data }, chunks.map .bytes, [], []⟩ := by
    unfold connBrTransReadOneFrame brRecvDataParse
    rw [List.headD_nil, hparse]
    rfl
  rw [hout]
  exact ⟨rfl, .inl ⟨f, frames, chunks, rfl, rfl, rfl, rfl, hat, cocFrames_packet hparse⟩⟩

theorem complete_or_incomplete (frames : List ConnFrame) (buffer : LimitedBuffer) :
    (∃ f todo, frames = f :: todo ∧ (f.wire .littleEndian).length ≤ buffer.data.length) ∨ Incomplete frames buffer := by
  cases frames with
  | nil => exact .inr fun f hf => nomatch hf
  | cons f frames =>
    by_cases hlen : (f.wire .littleEndian).length ≤ buffer.data.length
    · exact .inl ⟨f, frames, rfl, hlen⟩
    · exact .inr fun g hg => by cases hg; omega

theorem FramesAt.readOneFrame : ∀ (chunks : List (List UInt8)) {buffer : LimitedBuffer},
    FramesAt frames (chunks.flatten ++ rest) buffer →
    (∀ note ∈ (connBrTransReadOneFrame .littleEndian [] buffer (chunks.map .bytes)).notes, note.Answered) →
    let out := connBrTransReadOneFrame .littleEndian [] buffer (chunks.map .bytes)
    (∀ note ∈ out.notes, note.Sound) ∧ ReadsNext frames rest buffer chunks out
  | chunks, buffer, h, hans => by
    obtain ⟨f, todo, rfl, hlen⟩ | hpart := complete_or_incomplete frames buffer
    · obtain ⟨hnotes, hnext⟩ := h.readOneFrame_packet hlen
      exact ⟨by simp [hnotes], hnext⟩
    have hparse := h.parse_wait hpart
    obtain ⟨hsize, hroom⟩ := h.readSize_pos hpart
    cases chunks with
    | nil =>
      have hout : connBrTransReadOneFrame .littleEndian [] buffer [] =
          ⟨.blocked, buffer, [], [], [.request buffer.readSize none]⟩ := by
        unfold connBrTransReadOneFrame brRecvDataParse
        rw [List.headD_nil, hparse]
        rfl
      rw [List.map_nil, hout]
      refine ⟨?_, .inr ⟨rfl, rfl, h, hpart, cocFrames_wait_nil hparse⟩⟩
      simp only [List.mem_singleton, forall_eq, ReadNote.Sound]
      omega
    | cons chunk chunks =>
      cases chunk with
      | nil =>
        -- a driver that returns no bytes has closed the socket
        have hout : (connBrTransReadOneFrame .littleEndian [] buffer (([] :: chunks).map .bytes)).notes =
            [.request buffer.readSize (some (.bytes []))] := by
          rw [List.map_cons, connBrTransReadOneFrame, brRecvDataParse, List.headD_nil, hparse]
          rfl
        rw [hout] at hans
        exact absurd (hans _ (List.mem_singleton.mpr rfl)).1 (by simp)
      | cons b data =>
        have hout : connBrTransReadOneFrame .littleEndian [] buffer (((b :: data) :: chunks).map .bytes) =
            (connBrTransReadOneFrame .littleEndian [] (buffer.fill (b :: data)) (chunks.map .bytes)).after
              [.request buffer.readSize (some (.bytes (b :: data)))] := by
          rw [List.map_cons, connBrTransReadOneFrame, brRecvDataParse, List.headD_nil, hparse]
          rfl
        rw [hout] at hans ⊢
        simp only [ReadOut.after, List.singleton_append, List.mem_cons, forall_eq_or_imp] at hans
        obtain ⟨⟨-, hle⟩, hans⟩ := hans
        have hfill : FramesAt frames (chunks.flatten ++ rest) (buffer.fill (b :: data)) := by
          apply FramesAt.fill
          rw [← List.append_assoc]
          exact h
        obtain ⟨hsound, hnext⟩ := FramesAt.readOneFrame chunks hfill hans
        have hcoc : cocFrames .littleEndian buffer ((b :: data) :: chunks) =
            cocFrames .littleEndian (buffer.fill (b :: data)) chunks := cocFrames_wait_cons hparse (by omega)
        refine ⟨?_, ?_⟩
        · simp only [ReadOut.after, List.singleton_append, List.mem_cons, forall_eq_or_imp]
          exact ⟨by rw [ReadNote.Sound]; omega, hsound⟩
        · rw [ReadsNext, hcoc]
          exact hnext

/-! ## All frames -/

structure ReadsUpTo (done todo : List ConnFrame) (rest : List UInt8) (out : LoopOut) : Prop where
  frames : out.frames = done.map (ConnFrame.wire .littleEndian)
  blocked : out.last.status = .blocked
  reads : out.last.reads = []
  sound : ∀ note ∈ out.last.notes, note.Sound
  left : FramesAt todo rest out.last.buffer
  incomplete : Incomplete todo out.last.buffer

theorem FramesAt.loopRead : ∀ (frames : List ConnFrame) {calls : Nat} {buffer : LimitedBuffer}
    {chunks : List (List UInt8)}, frames.length < calls → FramesAt frames (chunks.flatten ++ rest) buffer →
    (∀ note ∈ (loopRead .littleEndian calls [] buffer (chunks.map .bytes)).last.notes, note.Answered) →
    let out := SoftBus.loopRead .littleEndian calls [] buffer (chunks.map .bytes)
    (∃ done todo, frames = done ++ todo ∧ ReadsUpTo done todo rest out) ∧
      cocFrames .littleEndian buffer chunks = some (out.frames, out.last.buffer)
  | frames, calls + 1, buffer, chunks, hcalls, h, hans => by
    have hone : (∀ note ∈ (connBrTransReadOneFrame .littleEndian [] buffer (chunks.map .bytes)).notes, note.Answered) := by
      intro note hnote
      refine hans note ?_
      rw [SoftBus.loopRead]
      dsimp only
      split
      · exact List.mem_append_left _ hnote
      · exact hnote
    obtain ⟨hsound, hnext⟩ := h.readOneFrame chunks hone
    rw [SoftBus.loopRead] at hans ⊢
    dsimp only at hsound hnext hans ⊢
    generalize connBrTransReadOneFrame .littleEndian [] buffer (chunks.map .bytes) = out at *
    obtain ⟨f, todo, chunks', rfl, hstatus, hreads, hmem, hat, hcoc⟩ | ⟨hstatus, hreads, hat, hpart, hcoc⟩ := hnext
    · rw [hstatus, hreads, hmem] at hans ⊢
      obtain ⟨⟨done, todo', rfl, hup⟩, hrest⟩ := FramesAt.loopRead todo (Nat.lt_of_succ_lt_succ hcalls) hat
        fun note hnote => hans note (List.mem_append_right _ hnote)
      refine ⟨⟨f :: done, todo', rfl, ?_, hup.blocked, hup.reads, ?_, hup.left, hup.incomplete⟩, ?_⟩
      · dsimp only
        rw [hup.frames, List.map_cons]
      · intro note hnote
        exact (List.mem_append.mp hnote).elim (hsound note) (hup.sound note)
      · rw [hcoc, hrest]
        rfl
    · rw [hstatus]
      exact ⟨⟨[], frames, rfl, rfl, hstatus, hreads, hsound, hat, hpart⟩, hcoc⟩

end

/-- **Framing.** For every stream of frames that fit in the buffer and every way to read it: the calls of
`ConnBrTransReadOneFrame` return the frames that have been read completely, in order, and the next one waits. No
call asks for no bytes, or throws bytes away. `ConnCocTransRecv` makes the same of the same chunks. When the stream
has been read, all frames are there. There is memory for every copy of a frame. -/
theorem br_coc_framing {capacity : Nat} {buffer : LimitedBuffer} (hnew : connNewLimitedBuffer capacity = some buffer)
    {frames : List ConnFrame} (hfits : ∀ f ∈ frames, (f.wire .littleEndian).length ≤ capacity)
    {chunks : List (List UInt8)} {rest : List UInt8}
    (hstream : chunks.flatten ++ rest = frames.flatMap (ConnFrame.wire .littleEndian))
    (hreads : ∀ note ∈ (loopRead .littleEndian (frames.length + 1) [] buffer (chunks.map .bytes)).last.notes,
      note.Answered) :
    let out := loopRead .littleEndian (frames.length + 1) [] buffer (chunks.map .bytes)
    out.frames <+: frames.map (ConnFrame.wire .littleEndian) ∧
      out.frames.flatten ++ out.last.buffer.data = chunks.flatten ∧
      out.last.status = .blocked ∧ out.last.reads = [] ∧ (∀ note ∈ out.last.notes, note.Sound) ∧
      cocFeed .littleEndian buffer chunks = some (out.frames, out.last.buffer) ∧
      (rest = [] → out.frames = frames.map (ConnFrame.wire .littleEndian)) := by
  unfold connNewLimitedBuffer at hnew
  split at hnew
  case isFalse => cases hnew
  case isTrue hcap =>
    cases hnew
    have h₀ : FramesAt frames (chunks.flatten ++ rest) ⟨capacity, []⟩ := ⟨hcap, hfits, hstream⟩
    have hempty : recvDataParse .littleEndian true ⟨capacity, []⟩ = (.wait, ⟨capacity, []⟩) := rfl
    obtain ⟨⟨done, todo, rfl, hup⟩, hcoc⟩ := h₀.loopRead frames (Nat.lt_succ_self _) hreads
    rw [cocFrames, cocDrain_wait hempty] at hcoc
    simp only [List.nil_append, Option.map_id'] at hcoc
    refine ⟨?_, ?_, hup.blocked, hup.reads, hup.sound, hcoc, ?_⟩
    · rw [hup.frames, List.map_append]
      exact List.prefix_append _ _
    · have hbytes := hup.left.bytes
      rw [List.flatMap_append, ← hbytes, ← List.append_assoc] at hstream
      rw [hup.frames, ← List.flatMap_def]
      exact (List.append_cancel_right hstream).symm
    · rintro rfl
      rw [hup.frames, hup.left.done hup.incomplete, List.append_nil]

/-- Two frames with 2 and 0 bytes in a buffer for one of them, read in pieces that cut a head. -/
theorem br_coc_framing_cut :
    let head : BitVec 32 → ConnPktHead := fun len => ⟨connMagicNumber, 8, 3, 1, len⟩
    let frames : List ConnFrame := [⟨head 2, [5, 6], rfl, rfl⟩, ⟨head 0, [], rfl, rfl⟩]
    let stream := frames.flatMap (ConnFrame.wire .littleEndian)
    let chunks := [stream.take 7, (stream.drop 7).take 19, (stream.drop 26).take 20, stream.drop 46]
    (loopRead .littleEndian (frames.length + 1) [] ⟨26, []⟩ (chunks.map .bytes)).frames =
      frames.map (ConnFrame.wire .littleEndian) := by
  intro head frames stream chunks
  have hnew : connNewLimitedBuffer 26 = some ⟨26, []⟩ := by decide +kernel
  have hstream : chunks.flatten ++ [] = stream := by decide +kernel
  have hfits : ∀ f ∈ frames, (f.wire .littleEndian).length ≤ 26 := by decide +kernel
  have hreads : ∀ note ∈ (loopRead .littleEndian (frames.length + 1) [] ⟨26, []⟩ (chunks.map .bytes)).last.notes,
      note.Answered := by
    decide +kernel
  exact (br_coc_framing hnew hfits hstream hreads).2.2.2.2.2.2 rfl

/-- A frame fills the buffer and there is no memory for its copy. No bytes are asked for, and the answer looks like that
of a closed socket. -/
theorem full_buffer_taken_for_closed :
    let frame : ConnFrame := ⟨⟨connMagicNumber, 8, 3, 1, 2⟩, [5, 6], rfl, rfl⟩
    let out := loopRead .littleEndian 2 [true, false] ⟨26, []⟩ [.bytes (frame.wire .littleEndian), .bytes []]
    out.frames = [] ∧ out.last.status = .underlaySocketClosed ∧
      out.last.notes = [.request 26 (some (.bytes (frame.wire .littleEndian))), .request 0 (some (.bytes []))] := by
  decide +kernel

end SoftBus
