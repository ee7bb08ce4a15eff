import SerialLink.Proofs.Interplay.Chronicle

/-!
# SerialLink.Proofs.Interplay.Reception

How many frames callers have yet to receive.

1. The frames of a history are numbered as they arrive.  A timestamp marks a number if no frame up
   to it is later (`ReceiveQueue.Marked`); what is counted as later is then a part of what has
   arrived since (`ReceiveQueue.countAfter_some`).
2. A cycle works on a copy of the live history, and that stays as it is meanwhile
   (`Interplay.Current`).  So the live history changes only when it is emptied or when frames
   arrive in it (`Interplay.Current.live_cases`).
3. A `Reception` keeps which frame a caller of the session was given last, with its number.  The
   connection remembers no more of it than the timestamp (`Reception.Remembered`).
4. So what is available are the frames that have arrived since and are later, which are all of
   them unless one has the same timestamp (`Reception.available_eq`, `Reception.exists_tie`).
-/

namespace SerialLink

/-! ## numbered frames -/

theorem rdrop_drop {α : Type} (xs : List α) (k n : Nat) :
    (xs.drop k).rdrop n = (xs.rdrop n).drop k := by
  have hlen : (xs.drop k).length - n = xs.length - n - k := by
    rw [List.length_drop]
    omega
  unfold List.rdrop
  rw [hlen, List.drop_take]

namespace ReceiveQueue

variable {τ : Type} {q : ReceiveQueue τ} {n offset : Nat} {t : τ} {f : Frame τ}

/-- The frames that arrived after the `n`-th. -/
def since (q : ReceiveQueue τ) (n : Nat) : List (Frame τ) := q.toList.rtake (q.pushed - n)

/-- The frames that arrived up to the `n`-th, as far as they are still held. -/
def upTo (q : ReceiveQueue τ) (n : Nat) : List (Frame τ) := q.toList.rdrop (q.pushed - n)

theorem upTo_append_since (q : ReceiveQueue τ) (n : Nat) : q.upTo n ++ q.since n = q.toList :=
  List.take_append_drop _ _

variable [Reading τ]

/-- The reading is that of the `n`-th frame, or at least no frame up to that one is later. -/
structure Marked (q : ReceiveQueue τ) (n : Nat) (t : τ) : Prop where
  number_le : n ≤ q.pushed
  not_later : ∀ f ∈ q.upTo n, Reading.le f.timestamp t = true

theorem Marked.clear (h : q.Marked n t) : q.clear.Marked n t where
  number_le := h.number_le
  not_later f hf := by
    have hnone : q.clear.upTo n = [] := List.rdrop_nil _
    simp [hnone] at hf

theorem Marked.pushAt (h : q.Marked n t) (now : τ) (payload : Bytes) :
    (q.pushAt now payload).Marked n t where
  number_le := Nat.le_succ_of_le h.number_le
  not_later f hf := by
    have hcount : (q.pushAt now payload).pushed - n = q.pushed - n + 1 :=
      Nat.succ_sub h.number_le
    have hfront : (q.pushAt now payload).upTo n =
        (q.upTo n).drop (q.size + 1 - q.capacity) := by
      rw [upTo, hcount, toList_pushAt, rdrop_drop, List.rdrop_concat_succ]
      rfl
    rw [hfront] at hf
    exact h.not_later f (List.mem_of_mem_drop hf)

theorem Marked.pushAll (h : q.Marked n t) (arrivals : List (τ × Bytes)) :
    (q.pushAll arrivals).Marked n t := by
  induction arrivals generalizing q with
  | nil => exact h
  | cons a arrivals ih => exact ih (h.pushAt a.1 a.2)

/-- More frames were never held than have arrived. -/
def Counted (q : ReceiveQueue τ) : Prop := q.size ≤ q.pushed

omit [Reading τ] in
theorem counted_clear (q : ReceiveQueue τ) : q.clear.Counted := Nat.zero_le _

theorem Counted.pushAt (h : q.Counted) (now : τ) (payload : Bytes) :
    (q.pushAt now payload).Counted := by
  have hpushed : (q.pushAt now payload).pushed = q.pushed + 1 := rfl
  have hlen := congrArg List.length (q.toList_pushAt now payload)
  simp only [List.length_drop, List.length_append, List.length_singleton] at hlen
  unfold Counted at h ⊢
  rw [size_eq_length] at h ⊢
  omega

theorem Counted.pushAll (h : q.Counted) (arrivals : List (τ × Bytes)) :
    (q.pushAll arrivals).Counted := by
  induction arrivals generalizing q with
  | nil => exact h
  | cons a arrivals ih => exact ih (h.pushAt a.1 a.2)

/-- In a history that is in order, the timestamp of a frame marks its number. -/
theorem Marked.of_at? {p : τ → Prop} (hp : Reading.Ordered p) (h : q.InOrder p)
    (hcounted : q.Counted) (hat : q.at? offset = some f) :
    p f.timestamp ∧ q.Marked (q.pushed - offset) f.timestamp := by
  unfold Counted at hcounted
  by_cases hoffset : offset < q.size
  · rw [at?, if_pos hoffset] at hat
    rw [size_eq_length] at hoffset hcounted hat
    obtain ⟨hbound, rfl⟩ := List.getElem?_eq_some_iff.mp hat
    have hreading := h.readings _ (List.getElem_mem hbound)
    refine ⟨hreading, Nat.sub_le _ _, fun g hg => ?_⟩
    have hback : q.pushed - (q.pushed - offset) = offset := by omega
    rw [upTo, hback, List.rdrop] at hg
    obtain ⟨k, hk, rfl⟩ := List.getElem_of_mem hg
    rw [List.length_take] at hk
    rw [List.getElem_take]
    -- the frame itself is the last of those up to its number
    by_cases hlast : k = q.toList.length - 1 - offset
    · subst hlast
      exact hp.le_refl hreading
    · exact List.pairwise_iff_getElem.mp h.sorted k _ _ hbound (by omega)
  · simp [at?, if_neg hoffset] at hat

/-- The frames that count as later than a mark are those among the frames since then that are
later. -/
theorem countAfter_some {p : τ → Prop} (hp : Reading.Ordered p) (h : q.InOrder p) (ht : p t)
    (hmarked : q.Marked n t) :
    q.countAfter (some t) = ((q.since n).filter fun f => Reading.lt t f.timestamp).length := by
  have hcount : q.countAfter (some t) = (q.framesAfter t).length := by
    rw [framesAfter, List.length_drop, ← size_eq_length]
    rfl
  have hnone : (q.upTo n).filter (fun f => Reading.lt t f.timestamp) = [] := by
    refine List.filter_eq_nil_iff.mpr fun f hf => ?_
    have hmem : f ∈ q.toList := by
      rw [← q.upTo_append_since n]
      exact List.mem_append_left _ hf
    rw [hp.lt_iff ht (h.readings f hmem), Classical.not_not]
    exact hmarked.not_later f hf
  rw [hcount, framesAfter_eq hp h ht, ← q.upTo_append_since n, List.filter_append, hnone,
    List.nil_append]

end ReceiveQueue

/-- Without a mark all frames count that are later than minus infinity. -/
theorem ReceiveQueue.countAfter_none_eq {q : ReceiveQueue Float}
    (h : q.InOrder fun t => t.isNaN = false) :
    q.countAfter none =
      (q.toList.filter fun f => Reading.lt (-1.0 / 0.0) f.timestamp).length := by
  have hp := Reading.ordered_float
  have hlow : (-1.0 / 0.0 : Float).isNaN = false := by rfl
  have hcount : q.countAfter none = (q.toList.drop (q.positionWhere Reading.isLowest)).length := by
    rw [List.length_drop, ← size_eq_length]
    rfl
  have hmono : q.toList.Pairwise fun f g =>
      Reading.isLowest g.timestamp = true → Reading.isLowest f.timestamp = true :=
    h.sorted.imp_of_mem fun {f g} hf hg hle hlowest => by
      have hnumber := h.readings f hf
      rw [Reading.isLowest_iff (h.readings g hg)] at hlowest
      rw [Reading.isLowest_iff hnumber]
      exact hp.le_trans hnumber (h.readings g hg) hlow hle hlowest
  have hlater : ∀ f ∈ q.toList, (!Reading.isLowest f.timestamp) =
      Reading.lt (-1.0 / 0.0) f.timestamp := by
    intro f hf
    have hnumber := h.readings f hf
    rw [Bool.eq_iff_iff, Bool.not_eq_true', ← Bool.not_eq_true, Reading.isLowest_iff hnumber,
      hp.lt_iff hlow hnumber]
  rw [hcount, positionWhere, drop_bisect hmono, List.filter_congr hlater]

/-! ## the live history -/

namespace Interplay

variable {τ σ : Type} {p : τ → Prop} {i j : Interplay τ σ}

/-- The copy that a cycle works on is one of the live history as it still is. -/
structure Current [Reading τ] (i : Interplay τ σ) : Prop where
  copied : ∀ copies, i.phase = .copied copies → copies.receive = i.conn.receive
  worked : ∀ report, i.phase = .worked report →
    ∃ arrivals, report.receive = i.conn.receive.pushAll arrivals

variable [Reading τ]

theorem Current.of_phase (hcopied : ∀ copies, i.phase ≠ .copied copies)
    (hworked : ∀ report, i.phase ≠ .worked report) : i.Current where
  copied copies hphase := absurd hphase (hcopied copies)
  worked report hphase := absurd hphase (hworked report)

/-- Neither the turn of the loop nor the live history is changed. -/
theorem Current.congr (h : i.Current) (hphase : j.phase = i.phase)
    (hlive : j.conn.receive = i.conn.receive) : j.Current where
  copied copies heq := by
    rw [hlive]
    exact h.copied copies (hphase.symm.trans heq)
  worked report heq := by
    rw [hlive]
    exact h.worked report (hphase.symm.trans heq)

variable [CustomCycle τ Mock.Line σ]

/-- While a cycle works, nothing but the cycle changes the history. -/
theorem Current.change (h : i.Current) (hcoherent : i.Coherent p) (hchange : Change p i j)
    (hwork : ∀ copies report, i.phase = .copied copies → j.phase = .worked report →
      ∃ arrivals, report.receive = copies.receive.pushAll arrivals) : j.Current := by
  cases hchange with
  | searched _ hsearch =>
    by_cases hup : i.conn.isConnected = true
    · rw [become_of_searched hup hsearch]
      exact h.congr rfl rfl
    · have hresting := hcoherent.resting (by simpa using hup)
      unfold become
      split
      · exact .of_phase nofun nofun
      · exact .of_phase (by simp [hresting]) (by simp [hresting])
  | stopping => exact h.congr rfl rfl
  | @stopped wasUp reason _ hphase =>
    have hresting : (i.bringDown wasUp reason).phase = .resting := hphase
    exact .of_phase (by simp [hresting]) (by simp [hresting])
  | calm hcalm =>
    refine h.congr rfl ?_
    rw [hcalm.eq]
  | throttled => exact h
  | permitted => exact h.congr rfl rfl
  | queued => exact h.congr rfl rfl
  | given => exact h.congr rfl rfl
  | copied =>
    refine ⟨fun copies heq => ?_, nofun⟩
    obtain rfl := Phase.copied.inj heq
    rfl
  | worked hphase =>
    refine ⟨nofun, fun report heq => ?_⟩
    obtain ⟨arrivals, harrivals⟩ := hwork _ report hphase heq
    exact ⟨arrivals, by rw [harrivals, h.copied _ hphase]⟩
  | settled => exact .of_phase nofun nofun
  | concluded => exact .of_phase nofun nofun
  | aborted => exact .of_phase nofun nofun

/-- The live history is emptied, or frames arrive in it, if any. -/
theorem Current.live_cases (h : i.Current) (hchange : Change p i j) :
    j.conn.receive = i.conn.receive.clear ∨
      ∃ arrivals, j.conn.receive = i.conn.receive.pushAll arrivals := by
  have hretains {c : Connection τ σ} (hc : i.conn.Retains c) :
      c.receive = i.conn.receive.clear ∨
        ∃ arrivals, c.receive = i.conn.receive.pushAll arrivals := by
    obtain hsame | hempty := hc
    · exact .inr ⟨[], hsame⟩
    · exact .inl hempty
  cases hchange with
  | searched _ hsearch =>
    rw [conn_become]
    exact hretains hsearch.retains
  | stopped => exact hretains (i.conn.bringDown_retains _ _)
  | calm hcalm =>
    rw [hcalm.eq]
    exact .inr ⟨[], rfl⟩
  | settled hphase => exact .inr (h.worked _ hphase)
  | concluded => exact hretains (i.conn.conclude_retains _)
  | aborted => exact hretains (i.conn.conclude_retains _)
  | _ => exact .inr ⟨[], rfl⟩

omit [Reading τ] in
/-- The connection remembers the same timestamp as long as no caller is given a frame and no
session starts. -/
theorem Change.lastReceived_eq (hchange : Change p i j) (hgiven : j.given = i.given)
    (hsession : i.conn.isConnected = false → j.conn.isConnected = false) :
    j.conn.lastReceived = i.conn.lastReceived := by
  cases hchange with
  | searched _ hsearch =>
    rw [conn_become] at hsession ⊢
    exact congrArg Prod.snd (hsearch.marks_eq hsession)
  | stopped => exact congrArg Prod.snd (i.conn.marks_bringDown _ _)
  | calm hcalm => rw [hcalm.eq]
  | given mark frames hmark =>
    have hnone : frames = [] := by simpa using hgiven
    exact hmark hnone
  | concluded => exact congrArg Prod.snd (i.conn.marks_conclude _)
  | aborted => exact congrArg Prod.snd (i.conn.marks_conclude _)
  | _ => rfl

end Interplay

/-! ## receptions -/

/-- A frame that a caller was given, and its number among all frames that ever arrived. -/
structure Receipt (τ : Type) where
  number : Nat
  frame : Frame τ

/-- A connection in use, and what a caller of the session was given last. -/
structure Reception (τ σ : Type) extends Chronicle τ σ where
  last : Option (Receipt τ)

namespace Reception

variable {τ σ : Type}

/-- What a caller is given who asks for the frame `offset` positions back from the newest. -/
def receipt? (r : Reception τ σ) (offset : Nat) : Option (Receipt τ) :=
  (r.place.conn.receiveAt offset).1.map fun f =>
    ⟨r.place.conn.receive.pushed - offset, f⟩

/-- The frames of the live history that arrived after the one that a caller was given last; all of
them, if no caller of the session was given one. -/
def unread (r : Reception τ σ) : List (Frame τ) :=
  match r.last with
  | none => r.place.conn.receivedFrames
  | some receipt => r.place.conn.receive.since receipt.number

variable [Reading τ] [CustomCycle τ Mock.Line σ]

/-- What can happen next. -/
inductive Step (r : Reception τ σ) : Reception τ σ → Prop
  /-- A caller asks for a frame. -/
  | receive (offset : Nat) :
    Step r { r with
      place := r.place.receive offset
      last := (r.receipt? offset).or r.last }
  /-- A session starts. -/
  | start {c : Chronicle τ σ} {arrived : List (Frame τ)} (h : r.toChronicle.Step arrived c)
      (hdown : r.place.conn.isConnected = false) (hup : c.place.conn.isConnected = true) :
    Step r ⟨c, none⟩
  /-- Anything else. -/
  | other {c : Chronicle τ σ} {arrived : List (Frame τ)} (h : r.toChronicle.Step arrived c)
      (hgiven : c.place.given = r.place.given)
      (hsession : r.place.conn.isConnected = false → c.place.conn.isConnected = false) :
    Step r ⟨c, r.last⟩

/-- What can become of a connection that was just created. -/
inductive Reachable : Reception τ σ → Prop
  | create {config : ConnectionConfig} {bench : Mock.Bench} {clock : Clock τ}
      {parked : Option (LoopCycle σ)} {c : Connection τ σ}
      (h : Connection.create config bench clock parked = .ok c) : Reachable ⟨⟨.fresh c, []⟩, none⟩
  | step {r s : Reception τ σ} (hr : Reachable r) (h : r.Step s) : Reachable s

variable {r s : Reception τ σ} {p : τ → Prop}

/-- Every step of a connection is a step of its reception, if the cycles only push. -/
theorem exists_step (hp : PushesOnly τ Mock.Line σ) (r : Reception τ σ) {place : Interplay τ σ}
    (h : Interplay.Step (fun _ => True) r.place place) : ∃ s, r.Step s ∧ s.place = place := by
  obtain ⟨arrived, readings, hstep⟩ := r.toChronicle.exists_step hp h
  by_cases hstart : r.place.conn.isConnected = false ∧ place.conn.isConnected = true
  · exact ⟨_, .start hstep hstart.1 hstart.2, rfl⟩
  · have hsession : r.place.conn.isConnected = false → place.conn.isConnected = false := by
      intro hdown
      simpa [hdown] using hstart
    have hbecome (c : Connection τ σ) (hplace : place = r.place.become c) :
        place.given = r.place.given := by
      rw [hplace, Interplay.conn_become] at hstart
      rw [hplace, Interplay.become, if_neg hstart]
    have hother (hgiven : place.given = r.place.given) : ∃ s, r.Step s ∧ s.place = place :=
      ⟨_, .other hstep hgiven hsession, rfl⟩
    cases h with
    | receive offset => exact ⟨_, .receive offset, rfl⟩
    | connect => exact hother (hbecome _ rfl)
    | reconnect => exact hother (hbecome _ rfl)
    | permit t =>
      refine hother ?_
      unfold Interplay.permit
      split <;> rfl
    | work hphase hloop =>
      refine hother ?_
      unfold Interplay.work
      split <;> rfl
    | _ => exact hother rfl

/-- A step of a reception is one of its chronicle. -/
theorem Step.chronicle (hstep : r.Step s) :
    ∃ arrived, r.toChronicle.Step arrived s.toChronicle := by
  cases hstep with
  | receive offset => exact ⟨_, .quiet (.receive _ offset) fun _ => id⟩
  | start h => exact ⟨_, h⟩
  | other h => exact ⟨_, h⟩

theorem Reachable.chronicle (hr : r.Reachable) : r.toChronicle.Reachable := by
  induction hr with
  | create hcreate => exact .create hcreate
  | step _ hstep ih =>
    obtain ⟨arrived, h⟩ := hstep.chronicle
    exact ih.step h

/-- Something happens on the side of the devices. -/
theorem Reachable.device (hr : r.Reachable) (action : Mock.DeviceAction) :
    Reachable { r with
      place := r.place.change fun c => { c with bench := (c.bench.act action).2 } } :=
  hr.step (.other (.quiet (.devices _ _) fun _ => id) rfl id)

end Reception

namespace Chronicle

variable {τ σ : Type} [Reading τ] [CustomCycle τ Mock.Line σ] {c d : Chronicle τ σ}
  {arrived : List (Frame τ)}

theorem Step.place (hstep : c.Step arrived d) : Interplay.Step (fun _ => True) c.place d.place := by
  cases hstep with
  | quiet h => exact h
  | work h => exact h

theorem Reachable.place (hc : c.Reachable) : c.place.Reachable fun _ => True := by
  induction hc with
  | create hcreate => exact .create hcreate ⟨trivial, fun _ _ => trivial⟩
  | step _ hstep ih => exact ih.step hstep.place

/-- The copy that a cycle works on stays current. -/
theorem Step.current (hstep : c.Step arrived d) (hcoherent : c.place.Coherent fun _ => True)
    (h : c.place.Current) : d.place.Current := by
  refine h.change hcoherent hstep.place.change fun copies report hcopied hworked => ?_
  cases hstep with
  | quiet _ hquiet =>
    have hbefore := hquiet report hworked
    rw [hcopied] at hbefore
    contradiction
  | work _ hcopied' hworked' arrivals harrivals =>
    obtain rfl := Phase.copied.inj (hcopied.symm.trans hcopied')
    obtain rfl := Phase.worked.inj (hworked.symm.trans hworked')
    exact ⟨arrivals, harrivals⟩

end Chronicle

namespace Reception

variable {τ σ : Type} [Reading τ] {p : τ → Prop}

/-! ## what is remembered -/

/-- What a connection remembers of the frame that a caller was given last: its timestamp, which
marks its number. -/
inductive Remembered (p : τ → Prop) (q : ReceiveQueue τ) : Option (Receipt τ) → Option τ → Prop
  | nothing : Remembered p q none none
  | frame {receipt : Receipt τ} (hreading : p receipt.frame.timestamp)
      (h : q.Marked receipt.number receipt.frame.timestamp) :
    Remembered p q (some receipt) (some receipt.frame.timestamp)

/-- What holds at any time: no more frames are held than have arrived, a cycle works on a current
copy, and the timestamp of the last receipt is remembered. -/
structure Sound (p : τ → Prop) (r : Reception τ σ) : Prop where
  counted : r.place.conn.receive.Counted
  current : r.place.Current
  remembered : Remembered p r.place.conn.receive r.last r.place.conn.lastReceived

theorem Remembered.clear {q : ReceiveQueue τ} {last : Option (Receipt τ)} {mark : Option τ}
    (h : Remembered p q last mark) : Remembered p q.clear last mark := by
  cases h with
  | nothing => exact .nothing
  | frame hreading hmarked => exact .frame hreading hmarked.clear

theorem Remembered.pushAll {q : ReceiveQueue τ} {last : Option (Receipt τ)} {mark : Option τ}
    (h : Remembered p q last mark) (arrivals : List (τ × Bytes)) :
    Remembered p (q.pushAll arrivals) last mark := by
  cases h with
  | nothing => exact .nothing
  | frame hreading hmarked => exact .frame hreading (hmarked.pushAll arrivals)

variable [CustomCycle τ Mock.Line σ] {r s : Reception τ σ}

omit [CustomCycle τ Mock.Line σ] in
/-- A caller who is given a frame leaves its timestamp remembered. -/
theorem Sound.receive (h : r.Sound p) (hp : Reading.Ordered p)
    (hsorted : r.place.conn.receive.InOrder p) (offset : Nat) :
    Remembered p r.place.conn.receive ((r.receipt? offset).or r.last)
      (r.place.conn.receiveAt offset).2.lastReceived := by
  rw [r.place.conn.receiveAt_eq offset, receipt?]
  cases hframe : (r.place.conn.receiveAt offset).1 with
  | none => exact h.remembered
  | some f =>
    have hat : r.place.conn.receive.at? offset = some f := by
      unfold Connection.receiveAt at hframe
      split at hframe
      · cases hat : r.place.conn.receive.at? offset with
        | none => simp [hat] at hframe
        | some g => simpa [hat] using hframe
      · contradiction
    obtain ⟨hreading, hmarked⟩ :=
      ReceiveQueue.Marked.of_at? hp hsorted h.counted hat
    show Remembered p _ (some ⟨r.place.conn.receive.pushed - offset, f⟩) (some f.timestamp)
    exact .frame hreading hmarked

theorem Sound.step (h : r.Sound p) (hp : Reading.Ordered p)
    (hsorted : r.place.conn.receive.InOrder p)
    (hcoherent : r.place.Coherent fun _ => True) (hstep : r.Step s) : s.Sound p := by
  obtain ⟨arrived, hchronicle⟩ := hstep.chronicle
  have hlive := h.current.live_cases hchronicle.place.change
  have hcounted : s.place.conn.receive.Counted := by
    obtain hempty | ⟨arrivals, harrivals⟩ := hlive
    · rw [hempty]
      exact ReceiveQueue.counted_clear _
    · rw [harrivals]
      exact h.counted.pushAll arrivals
  refine ⟨hcounted, hchronicle.current hcoherent h.current, ?_⟩
  cases hstep with
  | receive offset =>
    have hreceive : (r.place.receive offset).conn.receive = r.place.conn.receive := by
      show (r.place.conn.receiveAt offset).2.receive = _
      rw [Connection.receiveAt_eq]
    dsimp only
    rw [hreceive]
    exact h.receive hp hsorted offset
  | start hc hdown hup =>
    obtain hstill | ⟨d, handle, -, hfresh⟩ := hc.place.starts hdown
    · rw [hup] at hstill
      contradiction
    · dsimp only
      rw [hfresh]
      exact .nothing
  | @other c _ hc hgiven hsession =>
    have hsame := hc.place.change.lastReceived_eq hgiven hsession
    dsimp only at hlive ⊢
    rw [hsame]
    obtain hempty | ⟨arrivals, harrivals⟩ := hlive
    · rw [hempty]
      exact h.remembered.clear
    · rw [harrivals]
      exact h.remembered.pushAll arrivals

theorem Reachable.sound (hp : Reading.Ordered p) (hr : r.Reachable)
    (hreadings : ∀ t ∈ r.readings, p t) : r.Sound p := by
  induction hr with
  | create hcreate =>
    rw [Connection.create_eq hcreate]
    exact ⟨Nat.le_refl 0, .of_phase nofun nofun, .nothing⟩
  | @step r s hr hstep ih =>
    obtain ⟨arrived, hchronicle⟩ := hstep.chronicle
    have hbefore : ∀ t ∈ r.readings, p t := fun t ht =>
      hreadings t (hchronicle.readings_prefix.subset ht)
    have hsorted := (hr.chronicle.sorted hp hbefore).live.mono hbefore
    exact (ih hbefore).step hp hsorted hr.chronicle.place.coherent hstep

/-! ## what is available -/

/-- The timestamp that a frame must be after to be available: that of the frame that a caller was
given last, or else minus infinity. -/
def mark {σ : Type} (r : Reception Float σ) : Float :=
  (r.last.map (·.frame.timestamp)).getD (-1.0 / 0.0)

theorem available_of_sound {σ : Type} {r : Reception Float σ}
    (h : r.Sound fun t => t.isNaN = false)
    (hsorted : r.place.conn.receive.InOrder fun t => t.isNaN = false)
    (hup : r.place.conn.isConnected = true) :
    r.place.conn.available = .ok (r.unread.filter fun f => r.mark < f.timestamp).length := by
  obtain ⟨-, -, hremembered⟩ := h
  rw [Connection.available, if_pos hup, unread, mark]
  cases hlast : r.last with
  | none =>
    rw [hlast] at hremembered
    generalize r.place.conn.lastReceived = t at hremembered
    cases hremembered
    exact congrArg Except.ok (ReceiveQueue.countAfter_none_eq hsorted)
  | some receipt =>
    rw [hlast] at hremembered
    generalize r.place.conn.lastReceived = t at hremembered
    cases hremembered with
    | frame hreading hmarked =>
      exact congrArg Except.ok
        (ReceiveQueue.countAfter_some Reading.ordered_float hsorted hreading hmarked)

/-- As long as the clock reads numbers, the frames that have arrived since a caller was given one
are available if they are later. -/
theorem Reachable.available {σ : Type} [CustomCycle Float Mock.Line σ] {r : Reception Float σ}
    (hr : r.Reachable) (hnumbers : ∀ t ∈ r.readings, t.isNaN = false)
    (hup : r.place.conn.isConnected = true) :
    r.place.conn.available = .ok (r.unread.filter fun f => r.mark < f.timestamp).length :=
  available_of_sound (hr.sound Reading.ordered_float hnumbers)
    ((hr.chronicle.sorted Reading.ordered_float hnumbers).live.mono hnumbers) hup

/-- As long as the clock reads numbers, the frames that are available are those that have arrived
after the one that a caller was given last, skipped or not, and are later.  They are all that
have arrived since exactly if none of these has the same timestamp. -/
theorem available_eq {σ : Type} [CustomCycle Float Mock.Line σ] {r : Reception Float σ}
    (hr : r.Reachable) (hnumbers : ∀ t ∈ r.readings, t.isNaN = false)
    (hup : r.place.conn.isConnected = true) :
    r.place.conn.available = .ok (r.unread.filter fun f => r.mark < f.timestamp).length ∧
      (r.place.conn.available = .ok r.unread.length ↔ ∀ f ∈ r.unread, r.mark < f.timestamp) := by
  have havailable := hr.available hnumbers hup
  refine ⟨havailable, ?_⟩
  rw [havailable, Except.ok.injEq, List.length_filter_eq_length_iff]
  simp

/-- There is room for two frames.  A caller is given the older one, then a third frame arrives and
that one is evicted: the frame that was skipped and the new one are available. -/
theorem available_eq_after_skip :
    ∃ r : Reception Float SampleCycle, r.Reachable ∧ (∀ t ∈ r.readings, t.isNaN = false) ∧
      r.place.conn.isConnected = true ∧
      (∀ f ∈ r.unread, r.mark < f.timestamp) ∧
      r.unread.map Frame.payload = ["b", "c"].map Text.Utf8.bytes ∧
      r.place.conn.available = .ok r.unread.length := by
  have hcreate : Connection.create
      { ConnectionConfig.ofPorts ["A"] with queueSize := 2, framing := .lines }
      (.ofPorts ["A"]) (.fixed (5.0 : Float)) (none : Option (LoopCycle SampleCycle)) = .ok _ :=
    rfl
  have hclock (t : Float) (ts : List Float) : Clock.All (fun _ => True) ⟨t, ts⟩ :=
    ⟨trivial, fun _ _ => trivial⟩
  have h₀ : Reachable _ := .create hcreate
  have h₁ := h₀.step (.start (.quiet (.connect _ rfl (.begin _ []) rfl) nofun) rfl rfl)
  have h₂ := h₁.step (.other (.quiet (.clock _ (hclock 5.0 [6.0, 7.0, 8.0])) nofun) rfl nofun)
  have h₃ := h₂.device (.inject "A" (Text.Utf8.bytes "a\nb\n"))
  have h₄ := h₃.step (.other (.quiet (.copy _ rfl rfl) nofun) rfl nofun)
  have h₅ := h₄.step (.other (.work (.work _ rfl rfl [] (fun _ h => h.eq_take.symm)
    (hclock 7.0 [8.0])) rfl rfl [(6.0, Text.Utf8.bytes "a"), (7.0, Text.Utf8.bytes "b")] rfl)
    rfl nofun)
  have h₆ := h₅.step (.other (.quiet (.settle _ rfl nofun) nofun) rfl nofun)
  have h₇ := h₆.step (.other (.quiet (.conclude _ rfl) nofun) rfl nofun)
  have h₈ := (h₇.step (.receive 1)).device (.inject "A" (Text.Utf8.bytes "c\n"))
  have h₉ := h₈.step (.other (.quiet (.copy _ rfl rfl) nofun) rfl nofun)
  have h₁₀ := h₉.step (.other (.work (.work _ rfl rfl [] (fun _ h => h.eq_take.symm)
    (hclock 8.0 [])) rfl rfl [(8.0, Text.Utf8.bytes "c")] rfl) rfl nofun)
  have h₁₁ := h₁₀.step (.other (.quiet (.settle _ rfl nofun) nofun) rfl nofun)
  have hnumbers : ∀ t ∈ ([6.0, 7.0, 8.0] : List Float), t.isNaN = false := by decide +kernel
  have hlater : ∀ t ∈ ([7.0, 8.0] : List Float), 6.0 < t := by decide +kernel
  have hunread {r : Reception Float SampleCycle} (_ : r.Reachable) (hmark : r.mark = 6.0)
      (htimes : r.unread.map Frame.timestamp = [7.0, 8.0]) :
      ∀ f ∈ r.unread, r.mark < f.timestamp := by
    intro f hf
    rw [hmark]
    exact hlater f.timestamp (htimes ▸ List.mem_map_of_mem hf)
  have hall := hunread h₁₁ rfl rfl
  exact ⟨_, h₁₁, hnumbers, rfl, hall, rfl, (available_eq h₁₁ hnumbers rfl).2.mpr hall⟩

/-- Two frames arrive in one read while the clock stands still.  A caller is given the older one;
the newer one has arrived after it, and yet nothing is available. -/
theorem exists_tie :
    ∃ r : Reception Float SampleCycle, r.Reachable ∧ (∀ t ∈ r.readings, t.isNaN = false) ∧
      (r.readings.Pairwise fun s t => s ≤ t) ∧ r.place.conn.isConnected = true ∧
      r.unread.map Frame.payload = [Text.Utf8.bytes "b"] ∧
      r.place.conn.available = .ok 0 ∧ r.place.conn.available ≠ .ok r.unread.length := by
  have hcreate : Connection.create { ConnectionConfig.ofPorts ["A"] with framing := .lines }
      (.ofPorts ["A"]) (.fixed (5.0 : Float)) (none : Option (LoopCycle SampleCycle)) = .ok _ :=
    rfl
  have hclock : (Clock.fixed (5.0 : Float)).All fun _ => True := ⟨trivial, fun _ _ => trivial⟩
  have h₀ : Reachable _ := .create hcreate
  have h₁ := h₀.step (.start (.quiet (.connect _ rfl (.begin _ []) rfl) nofun) rfl rfl)
  have h₂ := h₁.device (.inject "A" (Text.Utf8.bytes "a\nb\n"))
  have h₃ := h₂.step (.other (.quiet (.copy _ rfl rfl) nofun) rfl nofun)
  have h₄ := h₃.step (.other (.work (.work _ rfl rfl [] (fun _ h => h.eq_take.symm) hclock) rfl rfl
    [(5.0, Text.Utf8.bytes "a"), (5.0, Text.Utf8.bytes "b")] rfl) rfl nofun)
  have h₅ := h₄.step (.other (.quiet (.settle _ rfl nofun) nofun) rfl nofun)
  have h₆ := h₅.step (.other (.quiet (.conclude _ rfl) nofun) rfl nofun)
  have h₇ := h₆.step (.receive 1)
  have hnumbers : ∀ t ∈ ([5.0, 5.0] : List Float), t.isNaN = false := by decide +kernel
  have hmono : ([5.0, 5.0] : List Float).Pairwise fun s t => s ≤ t := by decide +kernel
  have hlater : ¬ (5.0 : Float) < 5.0 := by decide +kernel
  have hnothing {r : Reception Float SampleCycle}
      (havailable : r.place.conn.available =
        .ok (r.unread.filter fun f => r.mark < f.timestamp).length)
      (hmark : r.mark = 5.0) (htimes : r.unread.map Frame.timestamp = [5.0]) :
      r.place.conn.available = .ok 0 ∧ r.place.conn.available ≠ .ok r.unread.length := by
    have hnone : (r.unread.filter fun f => r.mark < f.timestamp) = [] := by
      refine List.filter_eq_nil_iff.mpr fun f hf => ?_
      have htime : f.timestamp ∈ [5.0] := htimes ▸ List.mem_map_of_mem hf
      rw [hmark, List.mem_singleton.mp htime]
      simpa using hlater
    have hone : r.unread.length = 1 := by simpa using congrArg List.length htimes
    rw [havailable, hnone, hone]
    simp
  exact ⟨_, h₇, hnumbers, hmono, rfl, rfl, hnothing (h₇.available hnumbers rfl) rfl rfl⟩

end Reception

end SerialLink
