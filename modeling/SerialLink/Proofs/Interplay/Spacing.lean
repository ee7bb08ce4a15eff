import Mathlib.Algebra.Order.Field.Rat
import Mathlib.Tactic.Linarith
import SerialLink.Proofs.Interplay.Dispatch

/-!
# SerialLink.Proofs.Interplay.Spacing

The time between callers who were accepted.

1. A session of callers begins when a loop starts, and lasts until the next one does
   (`Dispatch.Session`).  Each caller comes with an interval and a reading; at which moments it has
   read them, and what happened to the interval and the clock in between, does not matter.
2. In exact arithmetic, each caller who was accepted has read the clock at least its interval after
   the one who was accepted before it (`Just.spaced`), also if the clock steps back.
3. The time between two callers who were accepted is that of all the steps from the one to the other
   (`Spaced.apart`).
4. Those who hand in a payload are those who were accepted; who was refused leaves nothing behind
   (`Dispatch.Session.perm_allowed`, `Dispatch.spaced_of_session`).
-/

namespace SerialLink

/-! ## exact time -/

/-- A span as a number of seconds, exactly. -/
def Duration.exactSeconds (d : Duration) : Rat := (d.nanos : Rat) / Duration.nanosPerSec

theorem Duration.exactSeconds_nonneg (d : Duration) : 0 ≤ d.exactSeconds :=
  div_nonneg (Nat.cast_nonneg d.nanos) (Nat.cast_nonneg Duration.nanosPerSec)

theorem Reading.soonAfter_rat {earlier later : Rat} {gap : Duration} :
    Reading.soonAfter earlier later gap = false ↔ gap.exactSeconds ≤ later - earlier :=
  decide_eq_false_iff_not.trans not_lt

/-- A caller is accepted exactly if its interval has passed since the one who was accepted last,
whoever was refused meanwhile. -/
theorem tooSoon_rat {before : List (Sender Rat)} {s : Sender Rat} :
    tooSoon before s = false ↔ ∀ last ∈ before.getLast?,
      s.ticket.interval.exactSeconds ≤ s.ticket.now - last.ticket.now := by
  unfold tooSoon
  cases before.getLast? with
  | none => simp
  | some last => simpa using Reading.soonAfter_rat

/-! ## spacing -/

/-- Each caller has read the clock at least its interval after the one before it. -/
def Spaced (senders : List (Sender Rat)) : Prop :=
  senders.IsChain fun s t => t.ticket.interval.exactSeconds ≤ t.ticket.now - s.ticket.now

/-- Callers who were told what is just were accepted with the spacing that they have asked for. -/
theorem Just.spaced {told : List (Verdict Rat)} (h : Just told) : Spaced (accepted told) := by
  induction told using List.reverseRecOn with
  | nil => exact .nil
  | append_singleton told v ih =>
    have hfirst := ih h.of_append
    have hverdict := h told v [] rfl
    rw [accepted_append]
    cases haccepted : v.accepted with
    | false => simpa [accepted, haccepted] using hfirst
    | true =>
      have hlate : tooSoon (accepted told) v.sender = false := by
        simpa [haccepted] using hverdict.symm
      have hone : accepted [v] = [v.sender] := by simp [accepted, haccepted]
      rw [hone]
      refine List.isChain_append.mpr ⟨hfirst, .singleton v.sender, fun last hlast t ht => ?_⟩
      obtain rfl : v.sender = t := by simpa using ht
      exact tooSoon_rat.mp hlate last hlast

namespace Spaced

variable {senders : List (Sender Rat)}

/-- No caller has read an earlier time than those before it. -/
theorem pairwise_le (h : Spaced senders) :
    (senders.map fun s => s.ticket.now).Pairwise (· ≤ ·) := by
  rw [← List.isChain_iff_pairwise, List.isChain_map]
  refine h.imp fun s t hst => ?_
  have hpos := t.ticket.interval.exactSeconds_nonneg
  linarith

/-- Callers with the same interval are as many intervals apart as there are steps between them. -/
theorem apart (h : Spaced senders) {interval : Duration}
    (hinterval : ∀ s ∈ senders, s.ticket.interval = interval) {i j : Nat} (hij : i < j)
    (hj : j < senders.length) :
    ((j - i : Nat) : Rat) * interval.exactSeconds ≤
      senders[j].ticket.now - senders[i].ticket.now := by
  induction j, hij using Nat.le_induction with
  | base =>
    have hstep := List.isChain_iff_getElem.mp h i hj
    rw [hinterval _ (List.getElem_mem hj)] at hstep
    simpa using hstep
  | succ j hij ih =>
    have hsteps := ih (by omega)
    have hstep := List.isChain_iff_getElem.mp h j hj
    rw [hinterval _ (List.getElem_mem hj)] at hstep
    have hcount : ((j + 1 - i : Nat) : Rat) = ((j - i : Nat) : Rat) + 1 := by
      rw [Nat.sub_add_comm (by omega)]
      push_cast
      rfl
    rw [hcount]
    linarith

end Spaced

/-! ## sessions -/

namespace Dispatch

variable {τ σ : Type}

variable [Reading τ] [CustomCycle τ Mock.Line σ]

/-- What can become of callers and their connection until the next loop starts. -/
inductive Session (b : Dispatch τ σ) : Dispatch τ σ → Prop
  | start : Session b b
  /-- A caller comes who has read the send interval and the clock, each at a moment of its own. -/
  | come {d : Dispatch τ σ} (hd : Session b d) (s : Sender τ) :
    Session b { d with waiting := d.waiting ++ [s] }
  | step {d e : Dispatch τ σ} (hd : Session b d) (h : d.Step e)
      (hsession : d.place.conn.isConnected = false → e.place.conn.isConnected = false) :
    Session b e

namespace Session

variable {b d : Dispatch τ σ}

/-! What callers do brings no connection up, so that it goes on with their session. -/

theorem read (hd : Session b d) (payload : Bytes) {t : Ticket τ} {c : Connection τ σ}
    (h : d.place.conn.ticket? = (some t, c)) :
    Session b { d with
      place := d.place.change fun _ => c
      waiting := d.waiting ++ [⟨t, payload⟩] } := by
  refine hd.step (.read payload h) fun hdown => ?_
  obtain ⟨-, rfl⟩ := Connection.eq_of_ticket? h
  exact hdown

theorem accept (hd : Session b d) (s : Sender τ) (before after : List (Sender τ))
    (h : d.waiting = before ++ s :: after)
    (hthrottle : d.place.conn.throttles s.ticket = false) :
    Session b { d with
      place := { d.place with
        conn := { d.place.conn with lastSent := some s.ticket.now }
        sent := true }
      waiting := before ++ after
      told := d.told ++ [⟨s, true⟩]
      ready := d.ready ++ [s] } := by
  have htold := Step.tell s before after h
  rw [tell_of_not_throttles hthrottle] at htold
  exact hd.step htold id

theorem refuse (hd : Session b d) (s : Sender τ) (before after : List (Sender τ))
    (h : d.waiting = before ++ s :: after)
    (hthrottle : d.place.conn.throttles s.ticket = true) :
    Session b { d with waiting := before ++ after, told := d.told ++ [⟨s, false⟩] } := by
  have htold := Step.tell s before after h
  rw [tell_of_throttles hthrottle] at htold
  exact hd.step htold id

theorem hand (hd : Session b d) (s : Sender τ) (before after : List (Sender τ))
    (h : d.ready = before ++ s :: after) : Session b (d.hand s (before ++ after)) := by
  refine hd.step (.hand s before after h) fun hdown => ?_
  unfold Dispatch.hand
  cases d.place.conn.send.push? s.payload <;> exact hdown

theorem setClock (hd : Session b d) (t : τ) :
    Session b { d with place := d.place.change fun c => { c with clock := .fixed t } } :=
  hd.step (.other (.clock _ ⟨trivial, fun _ _ => trivial⟩) rfl rfl id) id

/-- What holds of callers at any time goes on to hold. -/
theorem sound (h : Session b d) (hb : b.Sound) : d.Sound := by
  induction h with
  | start => exact hb
  | come _ s ih => exact ⟨ih.just, ih.remembered, ih.accounted, ih.queued, ih.full⟩
  | step _ hstep _ ih => exact ih.step hstep

/-- Those who may send are those who might when the session began, and those who were accepted
since then. -/
theorem perm_allowed (h : Session b d) (hb : b.allowed.Perm (b.ready ++ accepted b.told)) :
    d.allowed.Perm (b.ready ++ accepted d.told) := by
  induction h with
  | start => exact hb
  | come _ s ih => exact ih
  | @step d e _ hstep hsession ih =>
    cases hstep with
    | read => exact ih
    | tell s before after =>
      cases hthrottle : d.place.conn.throttles s.ticket with
      | true =>
        rw [tell_of_throttles hthrottle]
        simpa [allowed, accepted] using ih
      | false =>
        have hmore : accepted (d.told ++ [⟨s, true⟩]) = accepted d.told ++ [s] := by
          simp [accepted]
        have hmove : (d.ready ++ [s] ++ (d.queued ++ d.dropped.map Prod.fst)).Perm
            (d.allowed ++ [s]) := by
          rw [allowed, List.append_assoc, List.append_assoc]
          exact List.perm_append_comm.append_left d.ready
        rw [tell_of_not_throttles hthrottle]
        dsimp only
        rw [hmore, ← List.append_assoc]
        exact hmove.trans (ih.append_right [s])
    | hand s before after hready =>
      have hmove := (perm_allowed_hand hready).symm.trans ih
      unfold Dispatch.hand at hmove ⊢
      exact hmove
    | start _ hdown hup =>
      have hstill := hsession hdown
      rw [show (idle _ d.waiting d.ready).place.conn.isConnected = true from hup] at hstill
      contradiction
    | other => exact ih

end Session

/-- Let a session begin, and let callers send at the same time while the send interval and the clock
change, frames are received and the loop works.  Each caller who was accepted has read the clock at
least its send interval after the one who was accepted before it, so that their readings never go
down, and with the same interval any two of them are as many intervals apart as there are steps
between them.  Whether a caller is accepted depends on the one who was accepted last alone: who is
refused leaves the connection as it was, and is not among those whose payload may be queued. -/
theorem spaced_of_session {σ : Type} [CustomCycle Rat Mock.Line σ] {i : Interplay Rat σ}
    {waiting ready : List (Sender Rat)} (hstart : (idle i waiting ready).Reachable)
    {d : Dispatch Rat σ} (hsession : Session (idle i waiting ready) d) :
    Spaced (accepted d.told) ∧
      ((accepted d.told).map fun s => s.ticket.now).Pairwise (· ≤ ·) ∧
      (∀ interval, (∀ s ∈ accepted d.told, s.ticket.interval = interval) →
        ∀ (m n : Nat) (_ : m < n) (hn : n < (accepted d.told).length),
          ((n - m : Nat) : Rat) * interval.exactSeconds ≤
            (accepted d.told)[n].ticket.now - (accepted d.told)[m].ticket.now) ∧
      (∀ before v after, d.told = before ++ v :: after →
        (v.accepted = true ↔ ∀ last ∈ (accepted before).getLast?,
          v.sender.ticket.interval.exactSeconds ≤ v.sender.ticket.now - last.ticket.now)) ∧
      (∀ s others, d.place.conn.throttles s.ticket = true →
        d.tell s others = { d with waiting := others, told := d.told ++ [⟨s, false⟩] }) ∧
      d.allowed.Perm (ready ++ accepted d.told) ∧
      d.place.journal.queued = d.queued.map Sender.payload := by
  obtain ⟨hjust, -, -, hqueued, -⟩ := hsession.sound hstart.sound
  have hspaced := hjust.spaced
  refine ⟨hspaced, hspaced.pairwise_le, fun interval hinterval m n hmn hn => ?_,
    fun before v after htold => ?_, fun s others hthrottle => tell_of_throttles hthrottle, ?_,
    hqueued⟩
  · exact hspaced.apart hinterval hmn hn
  · rw [hjust before v after htold, Bool.not_eq_true', tooSoon_rat]
  · exact hsession.perm_allowed (by simp [allowed, idle, accepted])

/-- Sends at an interval of one second: the second comes too soon, the third is in time although the
second was refused, and the fourth reads a clock that was set back. -/
theorem spaced_of_session_set_back :
    ∃ (i : Interplay Rat SampleCycle) (d : Dispatch Rat SampleCycle),
      (idle i [] []).Reachable ∧ Session (idle i [] []) d ∧
      d.told.map Verdict.accepted = [true, false, true, false] ∧
      d.place.journal.queued = ["a", "c"].map Text.Utf8.bytes ∧
      (∀ s ∈ accepted d.told, s.ticket.interval = .ofSecs 1) ∧
      ∀ (m n : Nat) (_ : m < n) (hn : n < (accepted d.told).length),
        ((n - m : Nat) : Rat) * (Duration.ofSecs 1).exactSeconds ≤
          (accepted d.told)[n].ticket.now - (accepted d.told)[m].ticket.now := by
  have hcreate : Connection.create { ConnectionConfig.ofPorts ["A"] with sendIntervalMs := 1000 }
      (.ofPorts ["A"]) (.fixed (0 : Rat)) (none : Option (LoopCycle SampleCycle)) = .ok _ := rfl
  have hstart := (Reachable.create hcreate).step
    (.start (.connect _ rfl (.begin _ []) rfl) rfl rfl)
  have hbegin {b : Dispatch Rat SampleCycle} (_ : b.Reachable) : Session b b := .start
  have h₁ := (hbegin hstart).read (Text.Utf8.bytes "a") rfl
  have h₂ := (h₁.accept _ [] [] rfl (by decide +kernel)).hand _ [] [] rfl
  have h₃ := (h₂.setClock (3 / 10)).read (Text.Utf8.bytes "b") rfl
  have h₄ := h₃.refuse _ [] [] rfl (by decide +kernel)
  have h₅ := (h₄.setClock (11 / 10)).read (Text.Utf8.bytes "c") rfl
  have h₆ := (h₅.accept _ [] [] rfl (by decide +kernel)).hand _ [] [] rfl
  have h₇ := (h₆.setClock (1 / 2)).read (Text.Utf8.bytes "d") rfl
  have h₈ := h₇.refuse _ [] [] rfl (by decide +kernel)
  obtain ⟨-, -, hapart, -⟩ := spaced_of_session hstart h₈
  refine ⟨_, _, hstart, h₈, rfl, by decide +kernel, forall_mem_pair rfl rfl,
    hapart _ (forall_mem_pair rfl rfl)⟩

end Dispatch

end SerialLink
