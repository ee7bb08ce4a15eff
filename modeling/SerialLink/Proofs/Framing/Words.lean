import SerialLink.Config
import SerialLink.Cycle
import SerialLink.Framing.Words
import SerialLink.Proofs.Framing.Batches
import SerialLink.Proofs.Framing.Limit

/-!
# SerialLink.Proofs.Framing.Words

Where a machine breaks off when it frames bytes.

1. Of all that a machine does to cut a frame off, only the window of the framing can be too much
   for it.  If that fits a word, it cuts off the frame that there is (`FramingConfig.decode_eq_ok`);
   if not, it breaks off at the first byte (`FramingConfig.decode_eq_error`).
2. So it is with all frames of a buffer (`Splits.decodeAll`), and with all reads, as long as the
   buffer has room for them (`Framer.feedAllInWords_eq_ok`, `Framer.feedAllInWords_eq_error`).
3. The standard cycle breaks off exactly where a machine does (`StandardCycle.fill_of_read`).
-/

namespace SerialLink

/-! ## one frame -/

namespace Words

variable {d bytes : Bytes} {maxLength n i : Nat} {keep : Bool}

theorem add_of_lt {a b : Nat} (h : a + b < UInt64.size) : add a b = .ok (a + b) := if_pos h

theorem add_of_not_lt {a b : Nat} (h : ¬ a + b < UInt64.size) : add a b = .error .sum := if_neg h

theorem slice_of_le (h : n ≤ bytes.length) : slice bytes n = .ok (bytes.take n) := if_pos h

theorem cut_of_le (h : n ≤ bytes.length) : cut bytes n = .ok (bytes.take n, bytes.drop n) :=
  if_pos h

theorem extend_of_lt {data : Bytes} (h : bytes.length + data.length < bufferLimit) :
    extend bytes data = .ok (bytes ++ data) := if_pos h

theorem find_of_ne_nil (hd : d ≠ []) : find d bytes = .ok (firstAt? d bytes) :=
  if_neg (by simpa using hd)

/-- If a delimiter stands at `i`, the sum and the cut there are possible. -/
theorem cutEnded_eq (hi : i + d.length ≤ bytes.length) (hlength : bytes.length < UInt64.size) :
    cutEnded d keep bytes i =
      .ok (some (bytes.take (if keep then i + d.length else i), bytes.drop (i + d.length))) := by
  have hframe : (bytes.take (i + d.length)).take i = bytes.take i := by
    rw [List.take_take, Nat.min_eq_left (Nat.le_add_right _ _)]
  unfold cutEnded
  rw [add_of_lt (Nat.lt_of_le_of_lt hi hlength), Breach.ok_bind, cut_of_le hi, Breach.ok_bind,
    apply_ite (List.take · bytes), ← hframe]
  rfl

/-- A frame is forced only when enough bytes are there for its cut. -/
theorem cutForced_eq (hfits : maxLength = 0 ∨ maxLength + d.length < UInt64.size) :
    cutForced d maxLength bytes =
      .ok (if 0 < maxLength ∧ maxLength + d.length ≤ bytes.length then
        some (bytes.take maxLength, bytes.drop maxLength) else none) := by
  unfold cutForced
  by_cases h0 : maxLength = 0
  · rw [if_pos h0, if_neg (by omega)]
  · rw [if_neg h0, add_of_lt (hfits.resolve_left h0), Breach.ok_bind]
    by_cases hshort : bytes.length < maxLength + d.length
    · rw [if_pos hshort, if_neg (by omega)]
    · rw [if_neg hshort, if_pos (by omega), cut_of_le (by omega)]
      rfl

/-- What a machine searches is the window, or all bytes there are. -/
theorem exists_window (hfits : maxLength = 0 ∨ maxLength + d.length < UInt64.size)
    (bytes : Bytes) :
    ∃ n ≤ bytes.length, window d maxLength bytes = .ok n ∧
      bytes.take n = if maxLength = 0 then bytes else bytes.take (maxLength + d.length) := by
  unfold window
  by_cases h0 : maxLength = 0
  · exact ⟨_, Nat.le_refl _, if_pos h0, by rw [if_pos h0, List.take_length]⟩
  · refine ⟨min bytes.length (maxLength + d.length), Nat.min_le_left _ _, ?_, ?_⟩
    · rw [if_neg h0, add_of_lt (hfits.resolve_left h0)]
      rfl
    · rw [if_neg h0, Nat.min_comm, ← List.take_eq_take_min]

/-- If the window fits a word, a machine cuts off the frame that there is. -/
theorem cutDelimited_eq_ok (hd : d ≠ [])
    (hfits : maxLength = 0 ∨ maxLength + d.length < UInt64.size)
    (hlength : bytes.length < UInt64.size) :
    cutDelimited d maxLength keep bytes = .ok (splitDelimited d maxLength keep bytes) := by
  obtain ⟨n, hn, hok, htake⟩ := exists_window hfits bytes
  unfold cutDelimited splitDelimited
  rw [hok, Breach.ok_bind, slice_of_le hn, htake, Breach.ok_bind, find_of_ne_nil hd,
    Breach.ok_bind]
  dsimp only
  cases hfirst : firstAt? d (if maxLength = 0 then bytes else bytes.take (maxLength + d.length)) with
  | none => exact cutForced_eq hfits
  | some i =>
    have hi : i + d.length ≤ bytes.length := by
      have hend := firstAt?_add_length_le hfirst
      rw [← htake, List.length_take] at hend
      omega
    exact cutEnded_eq hi hlength

/-- If not, it breaks off over the window. -/
theorem cutDelimited_eq_error (h0 : maxLength ≠ 0)
    (hfits : ¬ maxLength + d.length < UInt64.size) :
    cutDelimited d maxLength keep bytes = .error .sum := by
  unfold cutDelimited window
  rw [if_neg h0, add_of_not_lt hfits]
  rfl

end Words

namespace FramingConfig

variable {c : FramingConfig} {bytes : Bytes}

/-- If the window fits a word, a machine cuts off the frame that there is. -/
theorem decode_eq_ok (hfits : c.windowFits = true) (hlength : bytes.length < UInt64.size) :
    c.decode bytes = .ok (c.split bytes) := by
  unfold decode split
  split
  · rfl
  · match c with
    | .raw => rfl
    | .delimiter [] maxLength keep => rfl
    | .delimiter (b :: d) maxLength keep =>
      exact Words.cutDelimited_eq_ok (List.cons_ne_nil b d) (windowFits_delimiter_iff.mp hfits)
        hlength

/-- If not, it breaks off as soon as there is a byte to frame. -/
theorem decode_eq_error (hfits : c.windowFits = false) (hd : c.lacksDelimiter = false)
    (hbytes : bytes ≠ []) : c.decode bytes = .error .sum := by
  unfold decode
  rw [if_neg (by simpa using hbytes)]
  match c with
  | .raw => cases hfits
  | .delimiter [] maxLength keep => cases hd
  | .delimiter (b :: d) maxLength keep =>
    have hnot := mt windowFits_delimiter_iff.mpr (Bool.eq_false_iff.mp hfits)
    rw [not_or] at hnot
    exact Words.cutDelimited_eq_error hnot.1 hnot.2

end FramingConfig

/-! ## all frames -/

/-- A machine cuts off the frames that there are. -/
theorem Splits.decodeAll {c : FramingConfig} {bytes last : Bytes} {frames : List Bytes}
    (h : Splits c bytes frames last) (hfits : c.windowFits = true)
    (hlength : bytes.length < UInt64.size) : c.decodeAll bytes = .ok (frames, last) := by
  induction h with
  | done hnone =>
    rw [FramingConfig.decodeAll_eq, FramingConfig.decode_eq_ok hfits hlength, hnone]
  | frame hsplit _ ih =>
    have hless := FramingConfig.length_lt_of_split hsplit
    rw [FramingConfig.decodeAll_eq, FramingConfig.decode_eq_ok hfits hlength, hsplit]
    dsimp only
    rw [ih (Nat.lt_trans hless hlength)]
    rfl

namespace Framer

variable {f : Framer} {data : Bytes} {reads : List Bytes}

/-- What is carried over is no longer than what there was. -/
theorem length_buffer_feed_le (f : Framer) (data : Bytes) :
    (f.feed data).2.buffer.length ≤ f.buffer.length + data.length := by
  have hle := (splits_feed f data).suffix.length_le
  rwa [List.length_append] at hle

/-- A machine gives the frames of a read, if the window fits a word and the buffer has room. -/
theorem feedInWords_eq_ok (hfits : f.config.windowFits = true)
    (hroom : f.buffer.length + data.length < bufferLimit) :
    f.feedInWords data = .ok (f.feed data) := by
  have hlength : (f.buffer ++ data).length < UInt64.size := by
    rw [List.length_append]
    exact Nat.lt_trans hroom (by decide)
  unfold feedInWords
  rw [Words.extend_of_lt hroom, Breach.ok_bind, (splits_feed f data).decodeAll hfits hlength]
  rfl

/-- If the window does not fit a word, a machine breaks off as soon as there is a byte to
frame. -/
theorem feedInWords_eq_error (hfits : f.config.windowFits = false)
    (hd : f.config.lacksDelimiter = false)
    (hroom : f.buffer.length + data.length < bufferLimit) (hbytes : f.buffer ++ data ≠ []) :
    f.feedInWords data = .error .sum := by
  unfold feedInWords
  rw [Words.extend_of_lt hroom, Breach.ok_bind, FramingConfig.decodeAll_eq,
    FramingConfig.decode_eq_error hfits hd hbytes]
  rfl

/-- A read without a byte changes nothing, whatever the window. -/
theorem feedInWords_nil (hbuffer : f.buffer = []) : f.feedInWords [] = .ok ([], f) := by
  obtain ⟨config, buffer⟩ := f
  obtain rfl : buffer = [] := hbuffer
  have hroom : ([] : Bytes).length + ([] : Bytes).length < bufferLimit := by decide
  unfold feedInWords
  rw [Words.extend_of_lt hroom, Breach.ok_bind, FramingConfig.decodeAll_eq]
  rfl

/-- Feeds several reads on a machine, one after the other. -/
def feedAllInWords (f : Framer) : List Bytes → Except Breach (List Bytes × Framer)
  | [] => .ok ([], f)
  | data :: reads => do
    let (frames, f) ← f.feedInWords data
    let (more, f) ← f.feedAllInWords reads
    return (frames ++ more, f)

/-- Read by read, a machine gives the frames that there are. -/
theorem feedAllInWords_eq_ok (hfits : f.config.windowFits = true)
    (hroom : f.buffer.length + reads.flatten.length < bufferLimit) :
    f.feedAllInWords reads = .ok (f.feedAll reads) := by
  induction reads generalizing f with
  | nil => rfl
  | cons data reads ih =>
    rw [List.flatten_cons, List.length_append] at hroom
    have hkept := length_buffer_feed_le f data
    unfold feedAllInWords
    rw [feedInWords_eq_ok hfits (by omega), Breach.ok_bind]
    dsimp only
    rw [ih (f := (f.feed data).2) hfits (by omega)]
    rfl

/-- Nothing comes of reads without a byte, whatever the window. -/
theorem feedAllInWords_eq_nothing (hbuffer : f.buffer = []) (hreads : reads.flatten = []) :
    f.feedAllInWords reads = .ok (f.feedAll reads) := by
  induction reads with
  | nil => rfl
  | cons data reads ih =>
    obtain ⟨rfl, hlater⟩ := List.append_eq_nil_iff.mp hreads
    unfold feedAllInWords feedAll
    rw [feedInWords_nil hbuffer, feed_nil (by rw [hbuffer]; rfl), Breach.ok_bind]
    dsimp only
    rw [ih hlater]
    rfl

/-- If the window does not fit a word, a machine breaks off at the first byte that is read. -/
theorem feedAllInWords_eq_error (hfits : f.config.windowFits = false)
    (hd : f.config.lacksDelimiter = false) (hbuffer : f.buffer = [])
    (hroom : reads.flatten.length < bufferLimit) (hreads : reads.flatten ≠ []) :
    f.feedAllInWords reads = .error .sum := by
  induction reads with
  | nil => exact absurd rfl hreads
  | cons data reads ih =>
    rw [List.flatten_cons, List.length_append] at hroom
    unfold feedAllInWords
    cases data with
    | nil =>
      rw [feedInWords_nil hbuffer, Breach.ok_bind]
      dsimp only
      rw [ih (by omega) hreads]
      rfl
    | cons b data =>
      rw [feedInWords_eq_error hfits hd (by rw [hbuffer, List.length_nil]; omega) (by simp)]
      rfl

end Framer

/-! ## the cycle -/

/-- Bytes that the standard cycle reads are framed as a machine frames them, and the cycle breaks
off where that does. -/
theorem StandardCycle.fill_of_read {τ δ : Type} [Reading τ] [Transport δ] (c : StandardCycle)
    (w : Workspace τ δ) {b : UInt8} {data : Bytes} {device : δ}
    (hread : Transport.read w.device = (.ok (b :: data), device))
    (hd : c.framer.config.lacksDelimiter = false)
    (hroom : c.framer.buffer.length + (b :: data).length < bufferLimit) :
    c.fill w = match c.framer.feedInWords (b :: data) with
      | .ok (frames, framer) =>
        let (receive, clock) := w.receive.push w.clock frames
        (.ok frames.length, { c with framer := framer },
          { w with device := device, receive := receive, clock := clock })
      | .error _ => (.error .aborted, c, { w with device := device }) := by
  unfold fill
  rw [hread]
  dsimp only
  cases hfits : c.framer.config.windowFits with
  | true =>
    rw [Framer.feedInWords_eq_ok hfits hroom]
    rfl
  | false =>
    rw [Framer.feedInWords_eq_error hfits hd hroom (by simp)]
    rfl

/-! ## configurations -/

/-- Take a configuration that is not rejected, and any reads for which a buffer has room.  If the
window of the framing fits a word, or if no byte is read, a machine feeds the reads to a fresh
framer and gives the frames that there are.  If not, it breaks off over the sum that is the
window, so that no slice and no cut ever leaves its buffer.  Every frame that it cuts off takes
at least one byte with it, which brings the feeding to an end. -/
theorem ConnectionConfig.feedAllInWords_eq {config : ConnectionConfig}
    (hvalid : config.validate = .ok ()) {reads : List Bytes}
    (hroom : reads.flatten.length < bufferLimit) :
    (Framer.create config.framing).feedAllInWords reads =
        (if config.framing.windowFits ∨ reads.flatten = [] then
          .ok ((Framer.create config.framing).feedAll reads) else .error .sum) ∧
      ∀ {bytes frame rest : Bytes}, config.framing.decode bytes = .ok (some (frame, rest)) →
        rest.length < bytes.length := by
  refine ⟨?_, FramingConfig.length_lt_of_decode⟩
  cases hfits : config.framing.windowFits with
  | true =>
    rw [if_pos (.inl rfl)]
    exact Framer.feedAllInWords_eq_ok hfits (by rwa [Framer.create, List.length_nil, Nat.zero_add])
  | false =>
    by_cases hreads : reads.flatten = []
    · rw [if_pos (.inr hreads)]
      exact Framer.feedAllInWords_eq_nothing rfl hreads
    · rw [if_neg (by simp [hreads])]
      exact Framer.feedAllInWords_eq_error hfits (lacksDelimiter_of_validate hvalid) rfl hroom hreads

/-- Lines of up to so many bytes. -/
def ConnectionConfig.ofLineLength (maxLength : Nat) : ConnectionConfig :=
  { ConnectionConfig.ofPorts ["A"] with framing := .delimiter [0x0a] maxLength false }

/-- The window is the greatest number that fits a word. -/
theorem ConnectionConfig.feedAllInWords_eq_greatest :
    let config := ofLineLength (UInt64.size - 2)
    let reads : List Bytes := [[], [0x61], [0x0a, 0x62]]
    let framer := Framer.create config.framing
    config.validate = .ok () ∧ reads.flatten.length < bufferLimit ∧
      framer.feedAllInWords reads = .ok ([[0x61]], ⟨config.framing, [0x62]⟩) ∧
        ∀ {bytes frame rest : Bytes}, config.framing.decode bytes = .ok (some (frame, rest)) →
          rest.length < bytes.length := by
  intro config reads framer
  have hvalid : config.validate = .ok () := rfl
  have hroom : reads.flatten.length < bufferLimit := by decide
  obtain ⟨hfed, hless⟩ := feedAllInWords_eq hvalid hroom
  have hfits : config.framing.windowFits = true ∨ reads.flatten = [] := by decide
  have hframes : framer.feedAll reads = ([[0x61]], ⟨config.framing, [0x62]⟩) := by decide +kernel
  rw [if_pos hfits] at hfed
  exact ⟨hvalid, hroom, hfed.trans (congrArg Except.ok hframes), hless⟩

/-- With one byte more it does not fit.  The configuration is not rejected either, but a machine
breaks off at the first line, and so does the standard cycle. -/
theorem ConnectionConfig.exists_breach :
    let config := ofLineLength (UInt64.size - 1)
    let line : Bytes := [0x61, 0x0a]
    let w : Workspace Float Scripted :=
      ⟨.ofAnswers [] [.ok line], .empty, ⟨.empty, 4, 0⟩, .fixed 5.0⟩
    config.validate = .ok () ∧
      (Framer.create config.framing).feedAllInWords [line] = .error .sum ∧
      ((StandardCycle.ofFraming config.framing).fill w).1 = .error .aborted := by
  intro config line w
  refine ⟨rfl, ?_, rfl⟩
  exact Framer.feedAllInWords_eq_error (by decide) rfl rfl (by decide) (by decide)

end SerialLink
