import SerialLink.Framing

/-!
# SerialLink.Framing.Words

Framing as a machine carries it out, with sums in words of 64 bits and bytes in buffers.

1. A sum has to fit a word, a slice and a cut have to end within their buffer, a buffer has
   to have room, and what is searched for has to have a byte.  Anything else breaks off with
   a `Breach`, and gives nothing.
2. For each frame the window is summed up anew (`FramingConfig.decode`).  Frames are cut off
   until the buffer holds no complete one (`FramingConfig.decodeAll`); that comes to an end,
   since each takes a byte with it (`FramingConfig.length_lt_of_decode`).
3. Fed bytes are first added to the buffer (`Framer.feedInWords`).
-/

namespace SerialLink

/-- Why a machine breaks off. -/
inductive Breach where
  /-- A sum does not fit a word. -/
  | sum
  /-- A slice or a cut ends behind the last byte of its buffer. -/
  | bounds
  /-- What is searched for has no byte. -/
  | needle
  /-- A buffer has no room. -/
  | room
  deriving DecidableEq, Repr

/-- A buffer holds fewer bytes than this, half of what a word can count. -/
def bufferLimit : Nat := UInt64.size / 2

/-! ## what a machine does -/

namespace Words

/-- The sum of two words. -/
def add (a b : Nat) : Except Breach Nat :=
  if a + b < UInt64.size then .ok (a + b) else .error .sum

/-- The first `n` bytes of a buffer. -/
def slice (bytes : Bytes) (n : Nat) : Except Breach Bytes :=
  if n ≤ bytes.length then .ok (bytes.take n) else .error .bounds

/-- Cuts the first `n` bytes off a buffer. -/
def cut (bytes : Bytes) (n : Nat) : Except Breach (Bytes × Bytes) :=
  if n ≤ bytes.length then .ok (bytes.take n, bytes.drop n) else .error .bounds

/-- Searches bytes for the first occurrence of `d`. -/
def find (d bytes : Bytes) : Except Breach (Option Nat) :=
  if d.isEmpty then .error .needle else .ok (firstAt? d bytes)

/-- Adds bytes to a buffer. -/
def extend (bytes data : Bytes) : Except Breach Bytes :=
  if bytes.length + data.length < bufferLimit then .ok (bytes ++ data) else .error .room

end Words

/-! ## one frame -/

/-- How many bytes may be searched for a delimiter. -/
def Words.window (d : Bytes) (maxLength : Nat) (bytes : Bytes) : Except Breach Nat :=
  if maxLength = 0 then .ok bytes.length
  else do return min bytes.length (← Words.add maxLength d.length)

/-- Cuts off the frame that the delimiter at `i` ends. -/
def Words.cutEnded (d : Bytes) (keep : Bool) (bytes : Bytes) (i : Nat) :
    Except Breach (Option (Bytes × Bytes)) := do
  let (frame, rest) ← Words.cut bytes (← Words.add i d.length)
  return some (if keep then frame else frame.take i, rest)

/-- Cuts off a frame of the maximal length, if there is one and enough bytes are there. -/
def Words.cutForced (d : Bytes) (maxLength : Nat) (bytes : Bytes) :
    Except Breach (Option (Bytes × Bytes)) :=
  if maxLength = 0 then .ok none
  else do
    let least ← Words.add maxLength d.length
    if bytes.length < least then .ok none else return some (← Words.cut bytes maxLength)

/-- Cuts the first frame off bytes in which `d` ends a frame. -/
def Words.cutDelimited (d : Bytes) (maxLength : Nat) (keep : Bool) (bytes : Bytes) :
    Except Breach (Option (Bytes × Bytes)) := do
  let seen ← Words.slice bytes (← Words.window d maxLength bytes)
  match ← Words.find d seen with
  | some i => Words.cutEnded d keep bytes i
  | none => Words.cutForced d maxLength bytes

/-- Cuts the first frame off bytes, if they hold a complete one. -/
def FramingConfig.decode (c : FramingConfig) (bytes : Bytes) :
    Except Breach (Option (Bytes × Bytes)) :=
  if bytes.isEmpty then .ok none
  else match c with
    | .delimiter (b :: d) maxLength keep => Words.cutDelimited (b :: d) maxLength keep bytes
    | _ => .ok (some (bytes, []))

/-! ## every frame takes a byte with it -/

theorem Breach.ok_bind {α β : Type} (a : α) (f : α → Except Breach β) :
    Except.ok a >>= f = f a := rfl

/-- If two steps give something, then so does the first of them. -/
theorem Breach.exists_of_bind {α β : Type} {x : Except Breach α} {f : α → Except Breach β} {b : β}
    (h : x >>= f = .ok b) : ∃ a, x = .ok a ∧ f a = .ok b := by
  cases x with
  | error breach => cases h
  | ok a => exact ⟨a, rfl, h⟩

namespace Words

variable {d bytes frame rest : Bytes} {maxLength n i : Nat} {keep : Bool}

theorem length_lt_of_cut (hn : 0 < n) (h : cut bytes n = .ok (frame, rest)) :
    rest.length < bytes.length := by
  unfold cut at h
  split at h
  next hle =>
    obtain ⟨-, rfl⟩ := Prod.mk.inj (Except.ok.inj h)
    rw [List.length_drop]
    omega
  · cases h

theorem length_lt_of_cutEnded (hd : d ≠ [])
    (h : cutEnded d keep bytes i = .ok (some (frame, rest))) : rest.length < bytes.length := by
  unfold cutEnded at h
  obtain ⟨stop, hstop, h⟩ := Breach.exists_of_bind h
  obtain ⟨⟨whole, last⟩, hcut, h⟩ := Breach.exists_of_bind h
  obtain ⟨-, rfl⟩ := Prod.mk.inj (Option.some.inj (Except.ok.inj h))
  refine length_lt_of_cut ?_ hcut
  unfold add at hstop
  split at hstop
  · have hpos := List.length_pos_iff.mpr hd
    have := Except.ok.inj hstop
    omega
  · cases hstop

theorem length_lt_of_cutForced (h : cutForced d maxLength bytes = .ok (some (frame, rest))) :
    rest.length < bytes.length := by
  unfold cutForced at h
  split at h
  · cases h
  next h0 =>
    obtain ⟨least, -, h⟩ := Breach.exists_of_bind h
    split at h
    · cases h
    · obtain ⟨parts, hcut, h⟩ := Breach.exists_of_bind h
      rw [Option.some.inj (Except.ok.inj h)] at hcut
      exact length_lt_of_cut (Nat.pos_of_ne_zero h0) hcut

theorem length_lt_of_cutDelimited (hd : d ≠ [])
    (h : cutDelimited d maxLength keep bytes = .ok (some (frame, rest))) :
    rest.length < bytes.length := by
  unfold cutDelimited at h
  obtain ⟨window, -, h⟩ := Breach.exists_of_bind h
  obtain ⟨seen, -, h⟩ := Breach.exists_of_bind h
  obtain ⟨found, -, h⟩ := Breach.exists_of_bind h
  cases found with
  | some i => exact length_lt_of_cutEnded hd h
  | none => exact length_lt_of_cutForced h

end Words

/-- A frame that is cut off takes at least one byte with it. -/
theorem FramingConfig.length_lt_of_decode {c : FramingConfig} {bytes frame rest : Bytes}
    (h : c.decode bytes = .ok (some (frame, rest))) : rest.length < bytes.length := by
  unfold decode at h
  split at h
  · cases h
  next hne =>
    split at h
    · exact Words.length_lt_of_cutDelimited (List.cons_ne_nil _ _) h
    · obtain ⟨-, rfl⟩ := Prod.mk.inj (Option.some.inj (Except.ok.inj h))
      exact List.length_pos_iff.mpr (by simpa using hne)

/-! ## all frames -/

/-- Cuts frames off until no complete one is left. -/
def FramingConfig.decodeAll (c : FramingConfig) (bytes : Bytes) :
    Except Breach (List Bytes × Bytes) :=
  match _ : c.decode bytes with
  | .error breach => .error breach
  | .ok none => .ok ([], bytes)
  | .ok (some (frame, rest)) => do
    let (frames, last) ← c.decodeAll rest
    return (frame :: frames, last)
termination_by bytes.length
decreasing_by exact length_lt_of_decode ‹_›

theorem FramingConfig.decodeAll_eq (c : FramingConfig) (bytes : Bytes) :
    c.decodeAll bytes = match c.decode bytes with
      | .error breach => .error breach
      | .ok none => .ok ([], bytes)
      | .ok (some (frame, rest)) => do
        let (frames, last) ← c.decodeAll rest
        return (frame :: frames, last) := by
  rw [decodeAll]
  split
  next h => rw [h]
  next h => rw [h]
  next h => rw [h]

/-- Adds bytes to the buffer and cuts every complete frame off. -/
def Framer.feedInWords (f : Framer) (data : Bytes) : Except Breach (List Bytes × Framer) := do
  let (frames, rest) ← f.config.decodeAll (← Words.extend f.buffer data)
  return (frames, { f with buffer := rest })

end SerialLink
