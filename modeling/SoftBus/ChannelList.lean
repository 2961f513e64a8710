import SoftBus.Common

/-!
# Lists of channels as text

`wifi_direct_network_utils.c`: a list of channels is sent as its numbers with `##` between them. A buffer is the list
of its characters, and what follows the first NUL is not part of the text.
-/

namespace SoftBus

namespace ChannelList

def channelArrayNumMax : Nat := 256

def nul : Char := Char.ofNat 0

/-- The text in a buffer. -/
def text (buffer : List Char) : List Char := buffer.takeWhile (· ≠ nul)

/-- `sprintf_s` to offset `off`, for a text that is not empty. Without room for it and a NUL the text there is emptied. -/
def sprintfS (buffer : List Char) (off : Nat) (piece : List Char) : Option Nat × List Char :=
  if off + piece.length < buffer.length then
    (some piece.length, buffer.take off ++ piece ++ nul :: buffer.drop (off + piece.length + 1))
  else (none, buffer.set off nul)

def formatInt : Int → List Char
  | .ofNat n => Nat.toDigits 10 n
  | .negSucc n => '-' :: Nat.toDigits 10 (n + 1)

def formatChannel (i : Nat) (channel : Int32) : List Char :=
  if i = 0 then formatInt channel.toInt else '#' :: '#' :: formatInt channel.toInt

def channelListLoop : Nat → Nat → List Int32 → List Char → SoftbusRet × List Char
  | _, _, [], buffer => (.ok, buffer)
  | i, outLen, channel :: channelArray, buffer =>
    match sprintfS buffer outLen (formatChannel i channel) with
    | (none, buffer) => (.err, buffer)
    | (some ret, buffer) => channelListLoop (i + 1) (outLen + ret) channelArray buffer

def channelListToString (channelArray : List Int32) (buffer : List Char) : SoftbusRet × List Char :=
  channelListLoop 0 0 channelArray buffer

/-! ## Back to numbers -/

/-- `strtok_s`: the next part and what follows it. -/
def strtokS (splitter s : List Char) : Option (List Char × List Char) :=
  match s.dropWhile (· ∈ splitter) with
  | [] => none
  | c :: s => some ((c :: s).takeWhile (· ∉ splitter), ((c :: s).dropWhile (· ∉ splitter)).drop 1)

/-- The loop of `SplitString`, with `room` places left in the array. It ends after its test, so the first part is
stored in any case. -/
def splitLoop (splitter : List Char) : Nat → List Char → List Char → List (List Char)
  | 0, subString, _ | 1, subString, _ => [subString]
  | room + 2, subString, context =>
    subString :: match strtokS splitter context with
      | none => []
      | some (subString, context) => splitLoop splitter (room + 1) subString context

def splitString (input splitter : List Char) (outputArraySize : Nat) : Option (List (List Char)) :=
  (strtokS splitter input).map fun next => splitLoop splitter outputArraySize next.1 next.2

def isBlank (c : Char) : Bool := c = ' ' || (9 ≤ c.toNat && c.toNat ≤ 13)

/-- The value of a `long`, which has 64 bits. -/
def strtol (s : List Char) : Int :=
  let s := s.dropWhile isBlank
  let value (s : List Char) : Int := Nat.ofDigitChars 10 (s.takeWhile Char.isDigit) 0
  match s with
  | '-' :: s => max (-(value s)) (-2 ^ 63)
  | '+' :: s => min (value s) (2 ^ 63 - 1)
  | s => min (value s) (2 ^ 63 - 1)

/-- The numbers that are stored in the array, up to the first that is negative. -/
def parseLoop : List (List Char) → SoftbusRet × List Int32
  | [] => (.ok, [])
  | s :: channelStrings =>
    let channel := Int32.ofInt (strtol s)
    if channel < 0 then (.err, [channel])
    else
      let rest := parseLoop channelStrings
      (rest.1, channel :: rest.2)

structure ParsedChannels where
  ret : SoftbusRet
  channelArray : List Int32
  channelArraySize : Nat
deriving DecidableEq

def stringToChannelList (channelListString : Option (List Char)) (channelArraySize : Nat) : ParsedChannels :=
  if channelArrayNumMax < channelArraySize then ⟨.invalidParam, [], channelArraySize⟩
  else
    match channelListString with
    | none | some [] => ⟨.ok, [], 0⟩
    | some (c :: s) =>
      match splitString (c :: s) ['#', '#'] channelArraySize with
      | none => ⟨.err, [], channelArraySize⟩
      | some channelStrings =>
        let stored := parseLoop channelStrings
        ⟨stored.1, stored.2, channelStrings.length⟩

/-! ## At most as many as there is room for -/

theorem splitLoop_length_le (splitter : List Char) :
    ∀ (room : Nat) (s context : List Char), (splitLoop splitter room s context).length ≤ max 1 room
  | 0, _, _ => by simp [splitLoop]
  | 1, _, _ => by simp [splitLoop]
  | room + 2, s, context => by
    rw [splitLoop, List.length_cons]
    split
    · simp
    case h_2 s' context' _ =>
      have ih := splitLoop_length_le splitter (room + 1) s' context'
      omega

theorem parseLoop_length_le : ∀ l : List (List Char), (parseLoop l).2.length ≤ l.length
  | [] => Nat.le_refl 0
  | s :: l => by
    rw [parseLoop]
    split
    · simp
    · simpa using parseLoop_length_le l

theorem stored_le (s : Option (List Char)) (size : Nat) :
    (stringToChannelList s size).channelArray.length ≤ channelArrayNumMax := by
  unfold stringToChannelList
  split
  · simp
  case isFalse hsize =>
    split
    · simp
    · simp
    case h_3 =>
      split
      · simp
      case h_2 channelStrings hsplit =>
        obtain ⟨⟨first, context⟩, -, rfl⟩ := Option.map_eq_some_iff.mp hsplit
        have hloop := splitLoop_length_le ['#', '#'] size first context
        have hparse := parseLoop_length_le (splitLoop ['#', '#'] size first context)
        have hmax : 1 ≤ channelArrayNumMax := by decide
        exact hparse.trans (hloop.trans (Nat.max_le.mpr ⟨hmax, Nat.le_of_not_lt hsize⟩))

/-! ## The text of a list -/

/-- All numbers, `##` before each but the first. -/
def formatList : List Int32 → List Char
  | [] => []
  | channel :: channelArray => formatInt channel.toInt ++ channelArray.flatMap (formatChannel 1)

theorem formatChannel_succ (i : Nat) (channel : Int32) :
    formatChannel (i + 1) channel = '#' :: '#' :: formatInt channel.toInt := by
  rw [formatChannel, if_neg (Nat.succ_ne_zero i)]

theorem sprintfS_eq (done old : List Char) {piece : List Char} (h : piece.length ≤ old.length) :
    sprintfS (done ++ nul :: old) done.length piece =
      (some piece.length, done ++ piece ++ nul :: old.drop piece.length) := by
  have hroom : done.length + piece.length < (done ++ nul :: old).length := by
    simp only [List.length_append, List.length_cons]
    omega
  rw [sprintfS, if_pos hroom, List.take_left]
  simp [List.drop_append, Nat.add_assoc]

theorem channelListLoop_eq : ∀ (l : List Int32) (i : Nat) (done old : List Char),
    (l.flatMap (formatChannel 1)).length ≤ old.length →
    ∃ old', channelListLoop (i + 1) done.length l (done ++ nul :: old) =
      (.ok, done ++ l.flatMap (formatChannel 1) ++ nul :: old')
  | [], i, done, old, _ => ⟨old, by simp [channelListLoop]⟩
  | channel :: l, i, done, old, h => by
    have hpiece : formatChannel (i + 1) channel = formatChannel 1 channel := by
      rw [formatChannel_succ, formatChannel_succ 0]
    rw [List.flatMap_cons, List.length_append] at h
    obtain ⟨old', hold⟩ := channelListLoop_eq l (i + 1) (done ++ formatChannel 1 channel)
      (old.drop (formatChannel 1 channel).length) (by rw [List.length_drop]; omega)
    refine ⟨old', ?_⟩
    rw [channelListLoop, hpiece, sprintfS_eq done old (by omega)]
    simp only [← List.length_append]
    rw [hold, List.flatMap_cons, List.append_assoc done]

theorem channelListToString_eq {l : List Int32} (hl : l ≠ []) {buffer : List Char}
    (h : (formatList l).length < buffer.length) :
    ∃ old, channelListToString l buffer = (.ok, formatList l ++ nul :: old) := by
  obtain ⟨channel, l, rfl⟩ := List.exists_cons_of_ne_nil hl
  rw [formatList, List.length_append] at h
  obtain ⟨old, hold⟩ := channelListLoop_eq l 0 (formatInt channel.toInt)
    (buffer.drop ((formatInt channel.toInt).length + 1)) (by rw [List.length_drop]; omega)
  refine ⟨old, ?_⟩
  rw [channelListToString, channelListLoop, formatChannel, if_pos rfl, sprintfS, if_pos (by omega)]
  simpa [formatList] using hold

/-! ## A number and the parts of a text -/

section
variable {channel : Int32} (hchannel : 0 ≤ channel)
include hchannel

theorem formatInt_eq : formatInt channel.toInt = Nat.toDigits 10 channel.toInt.toNat := by
  have h : 0 ≤ channel.toInt := by simpa using Int32.le_iff_toInt_le.mp hchannel
  obtain ⟨n, hn⟩ := Int.eq_ofNat_of_zero_le h
  rw [hn]
  rfl

theorem isDigit_of_mem_formatInt {c : Char} (hc : c ∈ formatInt channel.toInt) : c.isDigit = true := by
  rw [formatInt_eq hchannel] at hc
  exact Nat.isDigit_of_mem_toDigits (by decide) (by decide) hc

theorem strtol_formatInt : Int32.ofInt (strtol (formatInt channel.toInt)) = channel := by
  have hdigit : ∀ c ∈ formatInt channel.toInt, c.isDigit = true := fun c => isDigit_of_mem_formatInt hchannel
  have h : 0 ≤ channel.toInt := by simpa using Int32.le_iff_toInt_le.mp hchannel
  have hlt : channel.toInt < 2 ^ 31 := channel.toInt_lt
  have hvalue : (Nat.ofDigitChars 10 ((formatInt channel.toInt).takeWhile Char.isDigit) 0 : Int) = channel.toInt := by
    have hall : (formatInt channel.toInt).takeWhile Char.isDigit = formatInt channel.toInt := by
      simpa using @List.takeWhile_append_of_pos _ _ _ [] hdigit
    rw [hall, formatInt_eq hchannel, Nat.ofDigitChars_toDigits (by decide) (by decide)]
    exact Int.toNat_of_nonneg h
  obtain ⟨c, s, hs⟩ : ∃ c s, formatInt channel.toInt = c :: s := by
    rw [formatInt_eq hchannel]
    exact List.exists_cons_of_ne_nil Nat.toDigits_ne_nil
  have hc := hdigit c (hs ▸ List.mem_cons_self)
  have hblank : ¬ isBlank c = true := by
    simp only [Char.isDigit, isBlank, Bool.and_eq_true, Bool.or_eq_true, decide_eq_true_eq, UInt32.le_iff_toNat_le] at hc ⊢
    rintro (rfl | hle)
    · exact absurd hc (by decide)
    · have hge : 48 ≤ c.toNat := hc.1
      omega
  have hstrtol : strtol (formatInt channel.toInt) = min channel.toInt (2 ^ 63 - 1) := by
    rw [hs] at hvalue ⊢
    rw [strtol, List.dropWhile_cons_of_neg hblank, ← hvalue]
    dsimp only
    split
    case h_1 heq => exact absurd hc (by simp [(List.cons.inj heq).1])
    case h_2 heq => exact absurd hc (by simp [(List.cons.inj heq).1])
    case h_3 => rfl
  rw [hstrtol, Int.min_eq_left (by omega), Int32.ofInt_toInt]

end

theorem strtokS_skip (s : List Char) : strtokS ['#', '#'] ('#' :: s) = strtokS ['#', '#'] s := by
  rw [strtokS, List.dropWhile_cons_of_pos (by simp)]
  rfl

/-- A part that is not empty and has no separator in it ends at the next one. -/
theorem strtokS_append {part rest : List Char} (hpart : part ≠ []) (hsep : '#' ∉ part)
    (hrest : ∀ c ∈ rest.head?, c = '#') : strtokS ['#', '#'] (part ++ rest) = some (part, rest.drop 1) := by
  have hnot : ∀ c ∈ part, decide (c ∉ ['#', '#']) = true := by
    intro c hc
    have hne : c ≠ '#' := fun h => hsep (h ▸ hc)
    simp [hne]
  obtain ⟨c, part, rfl⟩ := List.exists_cons_of_ne_nil hpart
  have hc : c ≠ '#' := fun h => hsep (h ▸ List.mem_cons_self)
  have hend : rest.takeWhile (fun c => decide (c ∉ ['#', '#'])) = [] ∧
      rest.dropWhile (fun c => decide (c ∉ ['#', '#'])) = rest := by
    cases rest with
    | nil => exact ⟨rfl, rfl⟩
    | cons d rest =>
      obtain rfl := hrest d rfl
      exact ⟨List.takeWhile_cons_of_neg (by simp), List.dropWhile_cons_of_neg (by simp)⟩
  rw [strtokS, List.cons_append, List.dropWhile_cons_of_neg (by simp [hc])]
  dsimp only
  rw [← List.cons_append, List.takeWhile_append_of_pos hnot, List.dropWhile_append_of_pos hnot, hend.1, hend.2,
    List.append_nil]

/-! ## The round trip -/

theorem head?_flatMap_formatChannel (l : List Int32) : ∀ c ∈ (l.flatMap (formatChannel 1)).head?, c = '#' := by
  cases l with
  | nil => nofun
  | cons channel l =>
    rw [List.flatMap_cons, formatChannel_succ 0]
    rintro c ⟨⟩
    rfl

section
variable {channel : Int32} {l : List Int32}

theorem strtokS_formatInt (h : 0 ≤ channel) (l : List Int32) :
    strtokS ['#', '#'] (formatInt channel.toInt ++ l.flatMap (formatChannel 1)) =
      some (formatInt channel.toInt, (l.flatMap (formatChannel 1)).drop 1) := by
  refine strtokS_append ?_ ?_ (head?_flatMap_formatChannel l)
  · rw [formatInt_eq h]
    exact Nat.toDigits_ne_nil
  · intro hmem
    exact absurd (isDigit_of_mem_formatInt h hmem) (by decide)

theorem splitLoop_formatList : ∀ (l : List Int32) (s : List Char) (room : Nat), (∀ c ∈ l, 0 ≤ c) → l.length < room →
    splitLoop ['#', '#'] room s ((l.flatMap (formatChannel 1)).drop 1) = s :: l.map fun c => formatInt c.toInt
  | [], s, 1, _, _ => rfl
  | [], s, room + 2, _, _ => rfl
  | channel :: l, s, room + 2, hl, hroom => by
    have hcontext : strtokS ['#', '#'] (((channel :: l).flatMap (formatChannel 1)).drop 1) =
        some (formatInt channel.toInt, (l.flatMap (formatChannel 1)).drop 1) := by
      rw [List.flatMap_cons, formatChannel_succ 0]
      exact (strtokS_skip _).trans (strtokS_formatInt (hl channel List.mem_cons_self) l)
    rw [splitLoop, hcontext]
    dsimp only
    rw [splitLoop_formatList l _ (room + 1) (fun c hc => hl c (List.mem_cons_of_mem _ hc))
      (Nat.lt_of_succ_lt_succ hroom)]
    rfl

theorem parseLoop_formatInt : ∀ l : List Int32, (∀ c ∈ l, 0 ≤ c) →
    parseLoop (l.map fun c => formatInt c.toInt) = (.ok, l)
  | [], _ => rfl
  | channel :: l, hl => by
    have hchannel := hl channel List.mem_cons_self
    rw [List.map_cons, parseLoop, strtol_formatInt hchannel,
      parseLoop_formatInt l fun c hc => hl c (List.mem_cons_of_mem _ hc)]
    exact if_neg (Int32.not_lt.mpr hchannel)

theorem stringToChannelList_formatList {size : Nat} (hne : l ≠ []) (hl : ∀ c ∈ l, 0 ≤ c) (hroom : l.length ≤ size)
    (hsize : size ≤ channelArrayNumMax) : stringToChannelList (some (formatList l)) size = ⟨.ok, l, l.length⟩ := by
  obtain ⟨channel, l, rfl⟩ := List.exists_cons_of_ne_nil hne
  have hsplit : splitString (formatList (channel :: l)) ['#', '#'] size =
      some ((channel :: l).map fun c => formatInt c.toInt) := by
    rw [splitString, formatList, strtokS_formatInt (hl channel List.mem_cons_self), Option.map_some,
      splitLoop_formatList l _ size (fun c hc => hl c (List.mem_cons_of_mem _ hc)) hroom]
    rfl
  obtain ⟨c, s, hform⟩ : ∃ c s, formatList (channel :: l) = c :: s := by
    refine List.exists_cons_of_ne_nil ?_
    rw [formatList, formatInt_eq (hl channel List.mem_cons_self)]
    simp [Nat.toDigits_ne_nil]
  rw [hform] at hsplit ⊢
  rw [stringToChannelList, if_neg (Nat.not_lt.mpr hsize)]
  dsimp only
  rw [hsplit]
  dsimp only
  rw [parseLoop_formatInt _ hl, List.length_map]

theorem nul_not_mem_formatList (hl : ∀ c ∈ l, 0 ≤ c) : ∀ c ∈ formatList l, c ≠ nul := by
  have hint : ∀ channel ∈ l, ∀ c ∈ formatInt channel.toInt, c ≠ nul := by
    rintro channel hmem c hc rfl
    exact absurd (isDigit_of_mem_formatInt (hl channel hmem) hc) (by decide)
  cases l with
  | nil => nofun
  | cons channel l =>
    intro c hc
    rcases List.mem_append.mp hc with hc | hc
    · exact hint channel List.mem_cons_self c hc
    · obtain ⟨channel', hmem, hc⟩ := List.mem_flatMap.mp hc
      rw [formatChannel_succ 0] at hc
      rcases List.mem_cons.mp hc with rfl | hc
      · decide
      · rcases List.mem_cons.mp hc with rfl | hc
        · decide
        · exact hint channel' (List.mem_cons_of_mem _ hmem) c hc

theorem text_append {s : List Char} (hs : ∀ c ∈ s, c ≠ nul) (rest : List Char) : text (s ++ nul :: rest) = s := by
  rw [text, List.takeWhile_append_of_pos (by simpa using hs), List.takeWhile_cons_of_neg (by simp), List.append_nil]

/-- The list comes back. -/
def RoundTrip (l : List Int32) (buffer : List Char) (size : Nat) : Prop :=
  (channelListToString l buffer).1 = .ok ∧
    stringToChannelList (some (text (channelListToString l buffer).2)) size = ⟨.ok, l, l.length⟩

theorem splitLoop_ne_nil (splitter : List Char) (room : Nat) (s context : List Char) :
    splitLoop splitter room s context ≠ [] := by
  unfold splitLoop
  split <;> nofun

theorem stringToChannelList_ne_nil {s : List Char} (hs : s ≠ []) (size : Nat) :
    stringToChannelList (some s) size ≠ ⟨.ok, [], 0⟩ := by
  obtain ⟨c, s, rfl⟩ := List.exists_cons_of_ne_nil hs
  unfold stringToChannelList
  split
  · nofun
  · dsimp only
    split
    · nofun
    case h_2 channelStrings hsplit =>
      obtain ⟨next, -, rfl⟩ := Option.map_eq_some_iff.mp hsplit
      intro h
      have hlen := congrArg ParsedChannels.channelArraySize h
      exact splitLoop_ne_nil _ _ _ _ (List.length_eq_zero_iff.mp hlen)

/-- Nothing is written for an empty list: the text is then what the buffer held before. -/
theorem channel_list_round_trip_iff (hl : ∀ c ∈ l, 0 ≤ c) {size : Nat} (hroom : l.length ≤ size)
    (hsize : size ≤ channelArrayNumMax) {buffer : List Char} (hfits : (formatList l).length < buffer.length) :
    (∀ (s : Option (List Char)) (size : Nat),
        (stringToChannelList s size).channelArray.length ≤ channelArrayNumMax) ∧
      (RoundTrip l buffer size ↔ l ≠ [] ∨ text buffer = []) := by
  refine ⟨stored_le, ?_⟩
  by_cases hne : l = []
  · subst hne
    have hcopy : channelListToString [] buffer = (.ok, buffer) := rfl
    simp only [RoundTrip, hcopy, ne_eq, not_true_eq_false, false_or, true_and, List.length_nil]
    constructor
    · intro h
      by_contra hs
      exact stringToChannelList_ne_nil hs size h
    · intro h
      rw [h, stringToChannelList, if_neg (Nat.not_lt.mpr hsize)]
  · obtain ⟨old, hold⟩ := channelListToString_eq hne hfits
    simp only [RoundTrip, hold, ne_eq, hne, not_false_eq_true, true_or, iff_true, true_and]
    rw [text_append (nul_not_mem_formatList hl)]
    exact stringToChannelList_formatList hne hl hroom hsize

end

theorem two_channels_round_trip :
    (∀ (s : Option (List Char)) (size : Nat),
        (stringToChannelList s size).channelArray.length ≤ channelArrayNumMax) ∧
      (RoundTrip [36, 149] (List.replicate 16 'x') 256 ↔
        [36, 149] ≠ ([] : List Int32) ∨ text (List.replicate 16 'x') = []) :=
  channel_list_round_trip_iff (by simp) (by decide) (by decide) (by decide)

/-- The text of an earlier list is read again. -/
theorem empty_list_reads_old_text :
    channelListToString [] ['3', '6', nul, nul] = (.ok, ['3', '6', nul, nul]) ∧
      stringToChannelList (some (text ['3', '6', nul, nul])) 256 = ⟨.ok, [36], 1⟩ := by
  decide

end ChannelList

end SoftBus
