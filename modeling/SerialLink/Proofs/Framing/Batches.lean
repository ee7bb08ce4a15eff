import SerialLink.Payload.Value
import SerialLink.Proofs.Framing

/-!
# SerialLink.Proofs.Framing.Batches

What is sent with an ending comes back as frames that the ending delimits.

1. A body closes with a delimiter if that occurs nowhere before, not even across the end of
   the body, and if the body is no longer than a frame may be (`Closes`).
2. Such a body with its delimiter is split off as one frame, whatever follows
   (`Closes.split`), and so a stream of them has the bodies as its frames (`Splits.bodies`).
3. How the stream is divided into reads makes no difference (`Framer.feedAll_eq_feed`), from
   the first read on or from any later one (`Framer.feed_divided`).
-/

namespace SerialLink

open Text

/-! ## bodies and their delimiters -/

/-- Behind the body, and nowhere before, stands the delimiter `d`; a frame may be as long as
the body. -/
structure Closes (d : Bytes) (maxLength : Nat) (body : Bytes) : Prop where
  first : firstAt? d (body ++ d) = some body.length
  length_le : maxLength = 0 ∨ body.length ≤ maxLength

instance (d : Bytes) (maxLength : Nat) (body : Bytes) : Decidable (Closes d maxLength body) :=
  decidable_of_iff (firstAt? d (body ++ d) = some body.length ∧
      (maxLength = 0 ∨ body.length ≤ maxLength))
    ⟨fun h => ⟨h.1, h.2⟩, fun h => ⟨h.first, h.length_le⟩⟩

namespace Closes

variable {d body : Bytes} {maxLength : Nat}

/-- The delimiter lies within the window of the framing. -/
theorem firstAt?_window (h : Closes d maxLength body) (rest : Bytes) :
    firstAt? d (if maxLength = 0 then body ++ d ++ rest
      else (body ++ d ++ rest).take (maxLength + d.length)) = some body.length := by
  by_cases h0 : maxLength = 0
  · rw [if_pos h0]
    exact firstAt?_append h.first
  · rw [if_neg h0]
    have hle : (body ++ d).length ≤ maxLength + d.length := by
      have := h.length_le
      simp only [List.length_append]
      omega
    have hwindow : (body ++ d ++ rest).take (maxLength + d.length) =
        body ++ d ++ rest.take (maxLength + d.length - (body ++ d).length) := by
      rw [List.take_append, List.take_of_length_le hle]
    rw [hwindow]
    exact firstAt?_append h.first

/-- A body is split off at its delimiter, whatever follows. -/
theorem split (h : Closes d maxLength body) (hd : d ≠ []) (keep : Bool) (rest : Bytes) :
    (FramingConfig.delimiter d maxLength keep).split (body ++ d ++ rest) =
      some (if keep then body ++ d else body, rest) := by
  obtain ⟨b, d, rfl⟩ := List.exists_cons_of_ne_nil hd
  have hne : (body ++ b :: d ++ rest).isEmpty = false := by simp
  have hbody : (body ++ b :: d ++ rest).take body.length = body := by
    rw [List.append_assoc, List.take_left]
  have hwhole : (body ++ b :: d ++ rest).take (body.length + (b :: d).length) = body ++ b :: d :=
    List.take_left' List.length_append
  have hrest : (body ++ b :: d ++ rest).drop (body.length + (b :: d).length) = rest :=
    List.drop_left' List.length_append
  simp only [FramingConfig.split, hne, Bool.false_eq_true, if_false, splitDelimited,
    h.firstAt?_window rest, hrest]
  cases keep with
  | false => exact congrArg (fun frame => some (frame, rest)) hbody
  | true => exact congrArg (fun frame => some (frame, rest)) hwhole

end Closes

namespace Splits

variable {c : FramingConfig} {bytes last : Bytes} {frames : List Bytes}

/-- What is carried over holds no complete frame. -/
theorem split_eq_none (h : Splits c bytes frames last) : c.split last = none := by
  induction h with
  | done hnone => exact hnone
  | frame _ _ ih => exact ih

/-- The frames of a stream of bodies with their delimiters are the bodies. -/
theorem bodies {d : Bytes} (hd : d ≠ []) {maxLength : Nat} {bodies : List Bytes}
    (h : ∀ body ∈ bodies, Closes d maxLength body) :
    Splits (.delimiter d maxLength false) (bodies.flatMap (· ++ d)) bodies [] := by
  induction bodies with
  | nil => exact .done (by simp [FramingConfig.split])
  | cons body bodies ih =>
    obtain ⟨hbody, hbodies⟩ := List.forall_mem_cons.mp h
    rw [List.flatMap_cons]
    exact .frame (hbody.split hd false _) (ih hbodies)

end Splits

/-! ## reads -/

namespace Framer

/-- Feeds several reads, one after the other. -/
def feedAll (f : Framer) : List Bytes → List Bytes × Framer
  | [] => ([], f)
  | data :: reads =>
    let (frames, f) := f.feed data
    let (more, f) := f.feedAll reads
    (frames ++ more, f)

/-- To feed no bytes to a framer that carries no complete frame over changes nothing. -/
theorem feed_nil {f : Framer} (hrest : f.config.split f.buffer = none) : f.feed [] = ([], f) := by
  refine feed_eq_of_splits ?_
  rw [List.append_nil]
  exact .done hrest

/-- Under a stable framing, to feed bytes in several reads is to feed them at once. -/
theorem feedAll_eq_feed {f : Framer} (hc : f.config.Stable)
    (hrest : f.config.split f.buffer = none) (reads : List Bytes) :
    f.feedAll reads = f.feed reads.flatten := by
  induction reads generalizing f with
  | nil => rw [List.flatten_nil, feed_nil hrest]; rfl
  | cons data reads ih =>
    have hfed : (f.feed data).2.config.split (f.feed data).2.buffer = none :=
      (splits_feed f data).split_eq_none
    rw [List.flatten_cons, feed_append hc, ← ih (f := (f.feed data).2) hc hfed]
    rfl

/-- A framer as reads leave it: its framing is the one it was created with, and it carries no
complete frame over. -/
structure Settled (c : FramingConfig) (f : Framer) : Prop where
  config : f.config = c
  rest : c.split f.buffer = none

namespace Settled

variable {c : FramingConfig} {f : Framer}

/-- A framer is settled before the first read. -/
theorem create (c : FramingConfig) : Settled c (Framer.create c) where
  config := rfl
  rest := by simp [Framer.create, FramingConfig.split]

/-- A read leaves a framer settled. -/
theorem feed (h : Settled c f) (data : Bytes) : Settled c (f.feed data).2 where
  config := by rw [config_feed, h.config]
  rest := by
    have hrest := (splits_feed f data).split_eq_none
    rwa [h.config] at hrest

/-- So do any number of reads. -/
theorem feedAll (h : Settled c f) (reads : List Bytes) : Settled c (f.feedAll reads).2 := by
  induction reads generalizing f with
  | nil => exact h
  | cons data reads ih => exact ih (h.feed data)

end Settled

/-- Take any framer with a delimiter that was created and has been fed.  To feed it bytes in
two parts gives the frames, and leaves the bytes, that feeding them at once does; and reads of
the same bytes, however these are divided, give the same frames and leave the same bytes. -/
theorem feed_divided {d : Bytes} (hd : d ≠ []) (maxLength : Nat) (keep : Bool)
    (earlier : List Bytes) :
    let f := ((Framer.create (.delimiter d maxLength keep)).feedAll earlier).2
    (∀ a b : Bytes,
      (f.feed a).1 ++ ((f.feed a).2.feed b).1 = (f.feed (a ++ b)).1 ∧
        ((f.feed a).2.feed b).2.buffer = (f.feed (a ++ b)).2.buffer) ∧
      ∀ reads reads' : List Bytes, reads.flatten = reads'.flatten →
        (f.feedAll reads).1 = (f.feedAll reads').1 ∧
          (f.feedAll reads).2.buffer = (f.feedAll reads').2.buffer := by
  intro f
  have hf : Settled (.delimiter d maxLength keep) f := (Settled.create _).feedAll earlier
  have hstable : f.config.Stable := by
    rw [hf.config]
    exact FramingConfig.stable_delimiter hd maxLength keep
  have hrest : f.config.split f.buffer = none := by
    rw [hf.config]
    exact hf.rest
  constructor
  · intro a b
    simp only [feed_append hstable a b, and_self]
  · intro reads reads' hsame
    simp only [feedAll_eq_feed hstable hrest, hsame, and_self]

/-- The delimiter overlaps itself and reaches over both borders, and a frame of the maximal
length is split off before the delimiter behind it is complete. -/
theorem feed_divided_overlap :
    let f := ((Framer.create (.delimiter (Utf8.bytes "aba") 3 true)).feedAll
      (["xa", "b"].map Utf8.bytes)).2
    let fed := f.feed (Utf8.bytes "abawxyza")
    let whole := f.feed (Utf8.bytes "abawxyza" ++ Utf8.bytes "baa")
    Utf8.bytes "aba" ≠ [] ∧ f.pending = 3 ∧
      (fed.1 ++ (fed.2.feed (Utf8.bytes "baa")).1 = whole.1 ∧
        (fed.2.feed (Utf8.bytes "baa")).2.buffer = whole.2.buffer) ∧
      whole = (["xaba", "baw", "xyzaba"].map Utf8.bytes,
        ⟨.delimiter (Utf8.bytes "aba") 3 true, Utf8.bytes "a"⟩) := by
  intro f fed whole
  have hd : Utf8.bytes "aba" ≠ [] := by decide +kernel
  have hdivided := (feed_divided hd 3 true (["xa", "b"].map Utf8.bytes)).1
    (Utf8.bytes "abawxyza") (Utf8.bytes "baa")
  exact ⟨hd, by decide +kernel, hdivided, by decide +kernel⟩

end Framer

/-! ## what is sent -/

/-- A text without any byte has no characters. -/
theorem utf8_bytes_ne_nil {s : String} (hs : s ≠ "") : Utf8.bytes s ≠ [] := by
  have hchars : s.toList ≠ [] := mt String.toList_eq_nil_iff.mp hs
  obtain ⟨c, cs, hcons⟩ := List.exists_cons_of_ne_nil hchars
  have hchar : String.utf8EncodeChar c ≠ [] := by
    rw [← List.length_pos_iff, String.length_utf8EncodeChar]
    exact Char.utf8Size_pos c
  simp [Utf8.bytes, Utf8.encode, hcons, hchar]

/-- The ending of a payload stands behind the payload without an ending. -/
theorem encode_eq_append (values : List SendValue) (ending joiner : String) :
    encode values ⟨ending, joiner⟩ = encode values ⟨"", joiner⟩ ++ Utf8.bytes ending := by
  simp [encode, Utf8.bytes, Utf8.encode]

/-- Let batches of values be sent with an ending that delimits each of them.  A framer that drops
the delimiter then gives back the batches, one frame for each and in order, and carries
nothing over, however the bytes are divided into reads. -/
theorem Framer.feedAll_encoded {ending joiner : String} (hending : ending ≠ "")
    {maxLength : Nat} {batches : List (List SendValue)}
    (hbodies : ∀ batch ∈ batches,
      Closes (Utf8.bytes ending) maxLength (encode batch ⟨"", joiner⟩))
    {reads : List Bytes}
    (hreads : reads.flatten = batches.flatMap fun batch => encode batch ⟨ending, joiner⟩) :
    let fed := (Framer.create (.delimiter (Utf8.bytes ending) maxLength false)).feedAll reads
    fed.1 = batches.map (fun batch => encode batch ⟨"", joiner⟩) ∧ fed.2.pending = 0 := by
  intro fed
  have hd := utf8_bytes_ne_nil hending
  have hstream : reads.flatten =
      (batches.map fun batch => encode batch ⟨"", joiner⟩).flatMap (· ++ Utf8.bytes ending) := by
    rw [hreads, List.flatMap_map]
    simp only [encode_eq_append _ ending joiner]
  have hsplits := Splits.bodies hd (List.forall_mem_map.mpr hbodies)
  rw [← hstream] at hsplits
  have hfed : fed = _ :=
    (feedAll_eq_feed (FramingConfig.stable_delimiter hd maxLength false) rfl reads).trans
      (feed_eq_of_splits (f := .create _) hsplits)
  rw [hfed]
  exact ⟨rfl, rfl⟩

/-- The ending overlaps itself, the first body is as long as a frame may be, the second is empty,
and every read ends within an ending. -/
theorem Framer.feedAll_encoded_overlap :
    let batches : List (List SendValue) := [[.text " go ", .uint 7], [], [.bool true]]
    let reads := ["go,7a", "ba", "abatruea", "b", "a"].map Utf8.bytes
    (∀ batch ∈ batches, Closes (Utf8.bytes "aba") 4 (encode batch ⟨"", ","⟩)) ∧
      (reads.flatten = batches.flatMap fun batch => encode batch ⟨"aba", ","⟩) ∧
      let fed := (Framer.create (.delimiter (Utf8.bytes "aba") 4 false)).feedAll reads
      fed.1 = ["go,7", "", "true"].map Utf8.bytes ∧ fed.2.pending = 0 := by
  intro batches reads
  have hbodies : ∀ batch ∈ batches,
      Closes (Utf8.bytes "aba") 4 (encode batch ⟨"", ","⟩) := by decide +kernel
  have hreads : reads.flatten = batches.flatMap fun batch => encode batch ⟨"aba", ","⟩ := by
    decide +kernel
  have hframes : batches.map (fun batch => encode batch ⟨"", ","⟩) =
      ["go,7", "", "true"].map Utf8.bytes := by decide +kernel
  exact ⟨hbodies, hreads,
    hframes ▸ Framer.feedAll_encoded (by decide) hbodies hreads⟩

end SerialLink
