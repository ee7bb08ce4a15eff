import Mathlib.Data.List.Chain
import Mathlib.Data.List.Induction
import Mathlib.Data.List.Perm.Subperm
import SerialLink.Cycle.Samples
import SerialLink.Proofs.Interplay.Simulation
import SerialLink.Proofs.Readings.Difference

/-!
# SerialLink.Proofs.Interplay.Dispatch

Callers who send, any number of them at the same time.

1. A caller reads the send interval and the clock, is told later whether it may send, and hands
   in its payload later still (`Dispatch.Step`).  Meanwhile others do the same, and all else goes
   on.
2. What a caller is told follows from what it has read and from the reading of the one who was
   accepted last (`Just`), whoever overtook whom (`Dispatch.Reachable.sound`).
3. Who was accepted hands in its payload, and the send queue takes it unless it is full
   (`Dispatch.Sound.accounted`).
4. Without a send interval, who has read the clock earlier than the one who was accepted last is
   refused, and nobody else is (`Dispatch.accepted_iff_isChain`, `Dispatch.exists_refused`).
-/

namespace SerialLink

/-! ## verdicts -/

/-- A caller who sends: what it has read, and its payload. -/
structure Sender (τ : Type) where
  ticket : Ticket τ
  payload : Bytes

/-- A caller was told whether it may send. -/
structure Verdict (τ : Type) where
  sender : Sender τ
  accepted : Bool

section

variable {τ : Type}

/-- The callers who were told that they may send. -/
def accepted (told : List (Verdict τ)) : List (Sender τ) :=
  (told.filter Verdict.accepted).map Verdict.sender

theorem accepted_append (told more : List (Verdict τ)) :
    accepted (told ++ more) = accepted told ++ accepted more := by
  simp [accepted]

theorem accepted_of_all {told : List (Verdict τ)} (hall : ∀ v ∈ told, v.accepted = true) :
    accepted told = told.map Verdict.sender := by
  rw [accepted, List.filter_eq_self.mpr hall]

variable [Reading τ]

/-- Less than its send interval has passed for a caller since the last of those who were
accepted. -/
def tooSoon (before : List (Sender τ)) (s : Sender τ) : Bool :=
  before.getLast?.any fun last => Reading.soonAfter last.ticket.now s.ticket.now s.ticket.interval

/-- Each caller was accepted, unless that was too soon after those who were accepted before. -/
def Just (told : List (Verdict τ)) : Prop :=
  ∀ before v after, told = before ++ v :: after →
    v.accepted = !tooSoon (accepted before) v.sender

theorem just_nil : Just ([] : List (Verdict τ)) := by
  intro before v after heq
  simp at heq

theorem Just.of_append {told more : List (Verdict τ)} (h : Just (told ++ more)) : Just told := by
  intro before v after heq
  refine h before v (after ++ more) ?_
  rw [heq, List.append_assoc, List.cons_append]

theorem Just.append_singleton {told : List (Verdict τ)} (h : Just told) (s : Sender τ) :
    Just (told ++ [⟨s, !tooSoon (accepted told) s⟩]) := by
  intro before v after heq
  obtain rfl | ⟨more, w, rfl⟩ := List.eq_nil_or_concat after
  · obtain ⟨rfl, hlast⟩ := List.append_inj' heq rfl
    obtain rfl := List.singleton_inj.mp hlast
    rfl
  · rw [List.concat_eq_append, ← List.cons_append, ← List.append_assoc] at heq
    exact h before v more (List.append_inj' heq rfl).1

end

/-- Among numbers, a caller without a send interval is refused if the one who was accepted last has
read a later time. -/
theorem tooSoon_zero {before : List (Sender Float)} {s : Sender Float}
    (hbefore : ∀ b ∈ before, b.ticket.now.isNaN = false) (hs : s.ticket.now.isNaN = false)
    (hzero : s.ticket.interval = .zero) :
    tooSoon before s = false ↔ ∀ last ∈ before.getLast?, last.ticket.now ≤ s.ticket.now := by
  unfold tooSoon
  cases hlast : before.getLast? with
  | none => simp
  | some last =>
    have hnumber := hbefore last (List.mem_of_getLast? hlast)
    have hle : Reading.le last.ticket.now s.ticket.now = true ↔
        last.ticket.now ≤ s.ticket.now := decide_eq_true_iff
    rw [Option.any_some, hzero, ← Bool.not_eq_true, Reading.soonAfter_zero hnumber hs,
      Reading.ordered_float.lt_iff hs hnumber, Classical.not_not, hle]
    simp

/-- Callers without a send interval are all accepted exactly if each has read the clock no earlier
than the one before it, and the first of them no earlier than the one accepted last. -/
theorem Just.all_accepted_iff {before after : List (Verdict Float)} (h : Just (before ++ after))
    (hnumbers : ∀ v ∈ before ++ after, v.sender.ticket.now.isNaN = false)
    (hzero : ∀ v ∈ after, v.sender.ticket.interval = .zero) :
    (∀ v ∈ after, v.accepted = true) ↔
      ((accepted before).getLast?.toList ++ after.map Verdict.sender).IsChain
        fun s t => s.ticket.now ≤ t.ticket.now := by
  induction after using List.reverseRecOn with
  | nil =>
    have hfew : ((accepted before).getLast?.toList).IsChain
        fun s t : Sender Float => s.ticket.now ≤ t.ticket.now := by
      cases (accepted before).getLast? <;> simp
    simpa using hfew
  | append_singleton after v ih =>
    rw [← List.append_assoc] at h hnumbers
    have hbefore : ∀ b ∈ accepted (before ++ after), b.ticket.now.isNaN = false := by
      intro b hb
      obtain ⟨w, hw, rfl⟩ := List.mem_map.mp hb
      exact hnumbers w (List.mem_append_left _ (List.mem_of_mem_filter hw))
    have hv : v.sender.ticket.now.isNaN = false := hnumbers v (by simp)
    have hverdict : v.accepted = true ↔ tooSoon (accepted (before ++ after)) v.sender = false := by
      rw [h (before ++ after) v [] rfl, Bool.not_eq_true']
    have hfirst := ih h.of_append (fun w hw => hnumbers w (List.mem_append_left _ hw))
      fun w hw => hzero w (List.mem_append_left _ hw)
    rw [List.map_append, ← List.append_assoc, List.isChain_append, ← hfirst]
    simp only [List.forall_mem_append, List.map_cons, List.map_nil, List.forall_mem_singleton]
    refine and_congr_right fun hall => ?_
    -- they were all accepted, so the one accepted last is the last of them
    have hlast : ((accepted before).getLast?.toList ++ after.map Verdict.sender).getLast? =
        (accepted (before ++ after)).getLast? := by
      rw [accepted_append, accepted_of_all hall, List.getLast?_append, List.getLast?_append]
      cases (accepted before).getLast? <;> simp
    rw [hverdict, tooSoon_zero hbefore hv (hzero v (by simp)), hlast]
    simp

/-! ## steps -/

/-- Who reads the send interval and the clock leaves the connection with the readings to come. -/
theorem Connection.eq_of_ticket? {τ σ : Type} {c d : Connection τ σ} {t : Ticket τ}
    (h : c.ticket? = (some t, d)) :
    t = ⟨c.clock.read.1, c.sendInterval⟩ ∧ d = { c with clock := c.clock.read.2 } := by
  unfold ticket? at h
  by_cases hup : c.isConnected = true
  · rw [if_pos hup] at h
    obtain ⟨hticket, hconn⟩ := Prod.mk.inj h
    exact ⟨(Option.some.inj hticket).symm, hconn.symm⟩
  · simp [if_neg hup] at h

namespace Interplay

variable {τ σ : Type} [Reading τ] [CustomCycle τ Mock.Line σ] {p : τ → Prop}
  {i j : Interplay τ σ}

/-- As long as no session starts, only those who send change what the connection remembers of
them and which payloads its queue took. -/
theorem Step.sends_cases (hstep : Step p i j)
    (hsession : i.conn.isConnected = false → j.conn.isConnected = false) :
    (∃ t, j = i.permit t) ∨ (∃ payload send, j = i.push payload send) ∨
      (j.conn.lastSent = i.conn.lastSent ∧ j.journal.queued = i.journal.queued) := by
  have hsearched {opened : Bool} {c : Connection τ σ} (hsearch : i.conn.Searched opened c)
      (hdown : i.conn.isConnected = false → (i.become c).conn.isConnected = false) :
      (i.become c).conn.lastSent = i.conn.lastSent ∧
        (i.become c).journal.queued = i.journal.queued := by
    rw [conn_become] at hdown ⊢
    refine ⟨congrArg Prod.fst (hsearch.marks_eq hdown), ?_⟩
    unfold become
    rw [if_neg]
    simpa using hdown
  cases hstep with
  | permit t => exact .inl ⟨t, rfl⟩
  | push payload => exact .inr (.inl ⟨payload, _, rfl⟩)
  | connect _ s hs => exact .inr (.inr (hsearched (hs ▸ s.connect_searched) hsession))
  | reconnect _ s hs timeout elapsed scans =>
    exact .inr (.inr (hsearched (hs ▸ s.reconnect_searched timeout elapsed scans) hsession))
  | bringDown =>
    exact .inr (.inr ⟨congrArg Prod.fst (i.conn.marks_bringDown _ _), rfl⟩)
  | receive offset =>
    have hsame := congrArg Connection.lastSent (i.conn.receiveAt_eq offset)
    exact .inr (.inr ⟨hsame, rfl⟩)
  | wake =>
    have hsame := congrArg Connection.lastSent i.conn.applyTimeout_calm.1.eq
    exact .inr (.inr ⟨hsame, rfl⟩)
  | @work copies _ _ _ hloop elapsed =>
    have hrun := Connection.runCycle_of_loop hloop copies elapsed
    dsimp only at hrun
    unfold Interplay.work
    rw [hrun]
    exact .inr (.inr ⟨rfl, rfl⟩)
  | settle _ hresult =>
    have hsame := congrArg Connection.lastSent (i.conn.settle_of_ne hresult)
    exact .inr (.inr ⟨hsame, rfl⟩)
  | conclude => exact .inr (.inr ⟨congrArg Prod.fst (i.conn.marks_conclude _), rfl⟩)
  | abort => exact .inr (.inr ⟨congrArg Prod.fst (i.conn.marks_conclude _), rfl⟩)
  | _ => exact .inr (.inr ⟨rfl, rfl⟩)

end Interplay

/-! ## dispatches -/

/-- A connection in use, and those who send over it. -/
structure Dispatch (τ σ : Type) where
  place : Interplay τ σ
  /-- Callers who have read the clock and were not yet told whether they may send. -/
  waiting : List (Sender τ)
  /-- What callers were told since the loop started. -/
  told : List (Verdict τ)
  /-- Callers who may send and have yet to hand in their payload. -/
  ready : List (Sender τ)
  /-- Callers whose payload the send queue took since the loop started. -/
  queued : List (Sender τ)
  /-- Callers whose payload the send queue did not take since the loop started, and how many
  payloads it held. -/
  dropped : List (Sender τ × Nat)

namespace Dispatch

variable {τ σ : Type}

/-- A connection in use whose loop has just started, or was never started. -/
def idle (i : Interplay τ σ) (waiting ready : List (Sender τ)) : Dispatch τ σ :=
  ⟨i, waiting, [], ready, [], []⟩

/-- A caller hands in its payload. -/
def hand (d : Dispatch τ σ) (s : Sender τ) (others : List (Sender τ)) : Dispatch τ σ :=
  let taken := d.place.conn.send.push? s.payload
  { d with
    place := taken.elim d.place (d.place.push s.payload)
    ready := others
    queued := if taken.isSome then d.queued ++ [s] else d.queued
    dropped := if taken.isSome then d.dropped else d.dropped ++ [(s, d.place.conn.pendingSends)] }

/-- Callers who may send: they have yet to hand in their payload, or the queue took it, or it was
full. -/
def allowed (d : Dispatch τ σ) : List (Sender τ) :=
  d.ready ++ (d.queued ++ d.dropped.map Prod.fst)

variable [Reading τ]

/-- A caller is told whether it may send. -/
def tell (d : Dispatch τ σ) (s : Sender τ) (others : List (Sender τ)) : Dispatch τ σ :=
  { d with
    place := d.place.permit s.ticket
    waiting := others
    told := d.told ++ [⟨s, !d.place.conn.throttles s.ticket⟩]
    ready := if d.place.conn.throttles s.ticket then d.ready else d.ready ++ [s] }

section

variable {d : Dispatch τ σ} {s : Sender τ} {others : List (Sender τ)}

/-- Who is refused leaves the connection as it is. -/
theorem tell_of_throttles (hthrottle : d.place.conn.throttles s.ticket = true) :
    d.tell s others = { d with waiting := others, told := d.told ++ [⟨s, false⟩] } := by
  simp [tell, Interplay.permit, hthrottle]

theorem tell_of_not_throttles (hthrottle : d.place.conn.throttles s.ticket = false) :
    d.tell s others = { d with
      place := { d.place with
        conn := { d.place.conn with lastSent := some s.ticket.now }
        sent := true }
      waiting := others
      told := d.told ++ [⟨s, true⟩]
      ready := d.ready ++ [s] } := by
  simp [tell, Interplay.permit, hthrottle]

end

variable [CustomCycle τ Mock.Line σ]

/-- What can happen next. -/
inductive Step (d : Dispatch τ σ) : Dispatch τ σ → Prop
  /-- A caller who wants to send finds the connection up, and reads the send interval and the
  clock. -/
  | read (payload : Bytes) {t : Ticket τ} {c : Connection τ σ}
      (h : d.place.conn.ticket? = (some t, c)) :
    Step d { d with
      place := d.place.change fun _ => c
      waiting := d.waiting ++ [⟨t, payload⟩] }
  /-- Some caller is told whether it may send. -/
  | tell (s : Sender τ) (before after : List (Sender τ)) (h : d.waiting = before ++ s :: after) :
    Step d (d.tell s (before ++ after))
  /-- Some caller hands in its payload. -/
  | hand (s : Sender τ) (before after : List (Sender τ)) (h : d.ready = before ++ s :: after) :
    Step d (d.hand s (before ++ after))
  /-- A loop starts. -/
  | start {i : Interplay τ σ} (h : Interplay.Step (fun _ => True) d.place i)
      (hdown : d.place.conn.isConnected = false) (hup : i.conn.isConnected = true) :
    Step d (idle i d.waiting d.ready)
  /-- Anything else. -/
  | other {i : Interplay τ σ} (h : Interplay.Step (fun _ => True) d.place i)
      (hsent : i.conn.lastSent = d.place.conn.lastSent)
      (hqueued : i.journal.queued = d.place.journal.queued)
      (hsession : d.place.conn.isConnected = false → i.conn.isConnected = false) :
    Step d { d with place := i }

/-- What can become of a connection that was just created. -/
inductive Reachable : Dispatch τ σ → Prop
  | create {config : ConnectionConfig} {bench : Mock.Bench} {clock : Clock τ}
      {parked : Option (LoopCycle σ)} {c : Connection τ σ}
      (h : Connection.create config bench clock parked = .ok c) : Reachable (idle (.fresh c) [] [])
  | step {d e : Dispatch τ σ} (hd : Reachable d) (h : d.Step e) : Reachable e

variable {d e : Dispatch τ σ}

/-- What holds at any time: callers were told what is just, the last one who was accepted is
remembered, and the payload of each of them is accounted for. -/
structure Sound (d : Dispatch τ σ) : Prop where
  just : Just d.told
  remembered : d.place.conn.lastSent = (accepted d.told).getLast?.map fun s => s.ticket.now
  accounted : (accepted d.told).Subperm (d.ready ++ (d.queued ++ d.dropped.map Prod.fst))
  queued : d.place.journal.queued = d.queued.map Sender.payload
  full : ∀ drop ∈ d.dropped, 65536 ≤ drop.2

omit [CustomCycle τ Mock.Line σ] in
/-- The connection refuses a caller exactly if it is too soon after those who were accepted. -/
theorem throttles_eq (hremembered : d.place.conn.lastSent =
    (accepted d.told).getLast?.map fun s => s.ticket.now) (s : Sender τ) :
    d.place.conn.throttles s.ticket = tooSoon (accepted d.told) s := by
  rw [Connection.throttles, hremembered, Option.any_map]
  rfl

omit [CustomCycle τ Mock.Line σ] in
theorem Sound.tell (h : d.Sound) (s : Sender τ) (others : List (Sender τ)) :
    (d.tell s others).Sound := by
  have hjust := h.just.append_singleton s
  rw [← throttles_eq h.remembered s] at hjust
  cases hthrottle : d.place.conn.throttles s.ticket with
  | true =>
    have hsame : accepted (d.told ++ [⟨s, false⟩]) = accepted d.told := by simp [accepted]
    rw [hthrottle] at hjust
    rw [tell_of_throttles hthrottle]
    exact ⟨hjust, hsame ▸ h.remembered, hsame ▸ h.accounted, h.queued, h.full⟩
  | false =>
    have hmore : accepted (d.told ++ [⟨s, true⟩]) = accepted d.told ++ [s] := by simp [accepted]
    have hmove : (d.ready ++ (d.queued ++ d.dropped.map Prod.fst) ++ [s]).Perm
        (d.ready ++ [s] ++ (d.queued ++ d.dropped.map Prod.fst)) := by
      rw [List.append_assoc d.ready, List.append_assoc d.ready]
      exact List.perm_append_comm.append_left d.ready
    have haccounted := hmove.subperm_left.mp ((List.subperm_append_right [s]).mpr h.accounted)
    rw [← hmore] at haccounted
    rw [hthrottle] at hjust
    rw [tell_of_not_throttles hthrottle]
    exact ⟨hjust, by simp [hmore], haccounted, h.queued, h.full⟩

omit [Reading τ] [CustomCycle τ Mock.Line σ] in
/-- Who hands in its payload is no longer ready to. -/
theorem perm_hand {s : Sender τ} {before after handed more : List (Sender τ)}
    (h : more.Perm (s :: handed)) :
    (before ++ s :: after ++ handed).Perm (before ++ after ++ more) :=
  (List.perm_middle.append_right handed).trans
    (List.perm_middle.symm.trans (h.symm.append_left (before ++ after)))

omit [Reading τ] [CustomCycle τ Mock.Line σ] in
/-- Who hands in its payload may send before and after. -/
theorem perm_allowed_hand {s : Sender τ} {before after : List (Sender τ)}
    (hready : d.ready = before ++ s :: after) :
    d.allowed.Perm (d.hand s (before ++ after)).allowed := by
  unfold allowed hand
  rw [hready]
  cases d.place.conn.send.push? s.payload with
  | some send =>
    refine perm_hand ?_
    show (d.queued ++ [s] ++ d.dropped.map Prod.fst).Perm _
    rw [List.append_assoc]
    exact List.perm_middle
  | none =>
    refine perm_hand ?_
    show (d.queued ++ (d.dropped ++ [(s, d.place.conn.pendingSends)]).map Prod.fst).Perm _
    rw [List.map_append, ← List.append_assoc]
    exact List.perm_append_singleton s _

omit [CustomCycle τ Mock.Line σ] in
theorem Sound.hand (h : d.Sound) {s : Sender τ} {before after : List (Sender τ)}
    (hready : d.ready = before ++ s :: after) : (d.hand s (before ++ after)).Sound := by
  obtain ⟨hjust, hremembered, haccounted, hqueued, hfull⟩ := h
  have hallowed : (accepted d.told).Subperm (d.hand s (before ++ after)).allowed :=
    (perm_allowed_hand hready).subperm_left.mp haccounted
  unfold Dispatch.hand at hallowed ⊢
  cases hpush : d.place.conn.send.push? s.payload with
  | some send =>
    rw [hpush] at hallowed
    refine ⟨hjust, hremembered, hallowed, ?_, hfull⟩
    show d.place.journal.queued ++ [s.payload] = (d.queued ++ [s]).map Sender.payload
    simp [hqueued]
  | none =>
    rw [hpush] at hallowed
    have hheld : 65536 ≤ d.place.conn.pendingSends := by
      unfold SendQueue.push? at hpush
      split at hpush
      · contradiction
      next hlimit => exact Nat.le_of_not_lt hlimit
    have hfull' : ∀ drop ∈ d.dropped ++ [(s, d.place.conn.pendingSends)], 65536 ≤ drop.2 :=
      List.forall_mem_append.mpr ⟨hfull, by simpa using hheld⟩
    exact ⟨hjust, hremembered, hallowed, hqueued, hfull'⟩

theorem Sound.step (h : d.Sound) (hstep : d.Step e) : e.Sound := by
  cases hstep with
  | read payload hticket =>
    obtain ⟨-, rfl⟩ := Connection.eq_of_ticket? hticket
    exact ⟨h.just, h.remembered, h.accounted, h.queued, h.full⟩
  | tell s before after => exact h.tell s (before ++ after)
  | hand s before after hready => exact h.hand hready
  | start hplace hdown hup =>
    obtain hstill | ⟨c, handle, -, hfresh⟩ := hplace.starts hdown
    · rw [hup] at hstill
      contradiction
    · rw [hfresh]
      exact ⟨just_nil, rfl, List.nil_subperm, rfl, by simp [idle]⟩
  | other hplace hsent hqueued hsession =>
    exact ⟨h.just, hsent.trans h.remembered, h.accounted, hqueued.trans h.queued, h.full⟩

theorem Reachable.sound (hd : d.Reachable) : d.Sound := by
  induction hd with
  | create hcreate =>
    rw [Connection.create_eq hcreate]
    exact ⟨just_nil, rfl, List.nil_subperm, rfl, by simp [idle]⟩
  | step _ hstep ih => exact ih.step hstep

/-- Whatever happens to a connection is a step of those who send over it, unless it is a part of
one: a caller is told whether it may send, or the queue takes a payload. -/
theorem exists_step (d : Dispatch τ σ) {i : Interplay τ σ}
    (h : Interplay.Step (fun _ => True) d.place i) :
    (∃ t, i = d.place.permit t) ∨ (∃ payload send, i = d.place.push payload send) ∨
      ∃ e, d.Step e ∧ e.place = i := by
  by_cases hstart : d.place.conn.isConnected = false ∧ i.conn.isConnected = true
  · exact .inr (.inr ⟨_, .start h hstart.1 hstart.2, rfl⟩)
  · have hsession : d.place.conn.isConnected = false → i.conn.isConnected = false := by
      intro hdown
      simpa [hdown] using hstart
    obtain hpermit | hpush | ⟨hsent, hqueued⟩ := h.sends_cases hsession
    · exact .inl hpermit
    · exact .inr (.inl hpush)
    · exact .inr (.inr ⟨_, .other h hsent hqueued hsession, rfl⟩)

/-- A connection over which callers send can come to no other states than any connection. -/
theorem Reachable.place (hd : d.Reachable) : d.place.Reachable fun _ => True := by
  induction hd with
  | create hcreate => exact .create hcreate ⟨trivial, fun _ _ => trivial⟩
  | @step d e _ hstep ih =>
    cases hstep with
    | read payload hticket =>
      obtain ⟨-, rfl⟩ := Connection.eq_of_ticket? hticket
      exact ih.step (.clock _ ⟨trivial, fun _ _ => trivial⟩)
    | tell s => exact ih.step (.permit _ s.ticket)
    | hand s =>
      unfold Dispatch.hand
      cases hpush : d.place.conn.send.push? s.payload with
      | some send => exact ih.step (.push _ s.payload hpush)
      | none => exact ih
    | start hplace => exact ih.step hplace
    | other hplace => exact ih.step hplace

/-- The clock is set. -/
theorem Reachable.setClock (hd : d.Reachable) (t : τ) :
    Reachable { d with place := d.place.change fun c => { c with clock := .fixed t } } :=
  hd.step (.other (.clock _ ⟨trivial, fun _ _ => trivial⟩) rfl rfl id)

/-- Callers who have read that there is no send interval are all accepted exactly if each of them
has read the clock no earlier than the one who was told before it, and the first of them no earlier
than the one who was accepted last.  Who was accepted has yet to hand in its payload, or the send
queue took it, or the queue was full. -/
theorem accepted_iff_isChain {σ : Type} [CustomCycle Float Mock.Line σ] {d : Dispatch Float σ}
    (hd : d.Reachable) (hnumbers : ∀ v ∈ d.told, v.sender.ticket.now.isNaN = false)
    {before after : List (Verdict Float)} (htold : d.told = before ++ after)
    (hzero : ∀ v ∈ after, v.sender.ticket.interval = .zero) :
    ((∀ v ∈ after, v.accepted = true) ↔
      ((accepted before).getLast?.toList ++ after.map Verdict.sender).IsChain
        fun s t => s.ticket.now ≤ t.ticket.now) ∧
      (accepted d.told).Subperm (d.ready ++ (d.queued ++ d.dropped.map Prod.fst)) ∧
      d.place.journal.queued = d.queued.map Sender.payload ∧
      ∀ drop ∈ d.dropped, 65536 ≤ drop.2 := by
  obtain ⟨hjust, -, haccounted, hqueued, hfull⟩ := hd.sound
  rw [htold] at hjust hnumbers
  exact ⟨hjust.all_accepted_iff hnumbers hzero, haccounted, hqueued, hfull⟩

theorem forall_mem_pair {α : Type} {P : α → Prop} {v w : α} (hv : P v) (hw : P w) :
    ∀ x ∈ [v, w], P x := by
  simp [hv, hw]

/-- Two callers read the clock while it stands still.  The one who was the second to read it is the
first to be told, and the last to hand in its payload: both are accepted. -/
theorem accepted_iff_isChain_overtaken :
    ∃ d : Dispatch Float SampleCycle, d.Reachable ∧ d.place.conn.isConnected = true ∧
      (∀ v ∈ d.told, v.sender.ticket.now.isNaN = false) ∧
      (∀ v ∈ d.told, v.sender.ticket.interval = .zero) ∧
      d.told.map (fun v => v.sender.payload) = ["b", "a"].map Text.Utf8.bytes ∧
      d.place.journal.queued = ["a", "b"].map Text.Utf8.bytes ∧
      ∀ v ∈ d.told, v.accepted = true := by
  have hcreate : Connection.create { ConnectionConfig.ofPorts ["A"] with sendIntervalMs := 0 }
      (.ofPorts ["A"]) (.fixed (5.0 : Float)) (none : Option (LoopCycle SampleCycle)) = .ok _ :=
    rfl
  have h₀ : Reachable _ := .create hcreate
  have h₁ := h₀.step (.start (.connect _ rfl (.begin _ []) rfl) rfl rfl)
  have h₂ := h₁.step (.read (Text.Utf8.bytes "a") rfl)
  have h₃ := h₂.step (.read (Text.Utf8.bytes "b") rfl)
  have h₄ := h₃.step (.tell _ [_] [] rfl)
  have h₅ := h₄.step (.tell _ [] [] rfl)
  have h₆ := h₅.step (.hand _ [_] [] rfl)
  have h₇ := h₆.step (.hand _ [] [] rfl)
  have hnumber : (5.0 : Float).isNaN = false := by decide +kernel
  have hle : (5.0 : Float) ≤ 5.0 := by decide +kernel
  refine ⟨_, h₇, ?_, forall_mem_pair hnumber hnumber, forall_mem_pair rfl rfl, rfl, ?_, ?_⟩
  · decide +kernel
  · decide +kernel
  · exact (accepted_iff_isChain h₇ (forall_mem_pair hnumber hnumber) (List.nil_append _).symm
      (forall_mem_pair rfl rfl)).1.mpr (.cons_cons hle (.singleton _))

/-- The clock is set back after a caller was accepted.  There is no send interval and the queue is
far from full, and yet the next caller is refused. -/
theorem exists_refused :
    ∃ d : Dispatch Float SampleCycle, d.Reachable ∧ d.place.conn.isConnected = true ∧
      d.place.conn.sendInterval = .zero ∧
      (∀ v ∈ d.told, v.sender.ticket.now.isNaN = false) ∧
      (∀ v ∈ d.told, v.sender.ticket.interval = .zero) ∧
      d.told.map (fun v => v.sender.payload) = ["a", "b"].map Text.Utf8.bytes ∧
      d.told.map Verdict.accepted = [true, false] ∧
      d.ready = [] ∧ d.place.conn.send.toList = [Text.Utf8.bytes "a"] := by
  have hcreate : Connection.create { ConnectionConfig.ofPorts ["A"] with sendIntervalMs := 0 }
      (.ofPorts ["A"]) (.fixed (5.0 : Float)) (none : Option (LoopCycle SampleCycle)) = .ok _ :=
    rfl
  have h₀ : Reachable _ := .create hcreate
  have h₁ := h₀.step (.start (.connect _ rfl (.begin _ []) rfl) rfl rfl)
  have h₂ := h₁.step (.read (Text.Utf8.bytes "a") rfl)
  have h₃ := h₂.step (.tell _ [] [] rfl)
  have h₄ := h₃.step (.hand _ [] [] rfl)
  have h₅ := h₄.setClock 3.0
  have h₆ := h₅.step (.read (Text.Utf8.bytes "b") rfl)
  have h₇ := h₆.step (.tell _ [] [] rfl)
  have hfirst : (5.0 : Float).isNaN = false := by decide +kernel
  have hsecond : (3.0 : Float).isNaN = false := by decide +kernel
  refine ⟨_, h₇, ?_, ?_, forall_mem_pair hfirst hsecond, forall_mem_pair rfl rfl, rfl, ?_, ?_, ?_⟩
  · decide +kernel
  · decide +kernel
  · decide +kernel
  · rfl
  · decide +kernel

end Dispatch

end SerialLink
