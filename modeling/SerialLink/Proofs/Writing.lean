import Mathlib.Data.Stream.Init
import SerialLink.Port.Serial
import SerialLink.Proofs.Draining

/-!
# SerialLink.Proofs.Writing

Payloads that are written whole or fail for good.

1. What a device took of a payload agrees with the answer of the write (`Agrees`): after a
   transient failure nothing is out, so the payload may be offered again.  Writing a payload
   piecemeal ends in that way, whatever the device does (`Writer.agrees`).
2. It ends at all, unless the device goes on being interrupted (`Writer.exists_record`).
3. On a device whose writes agree, draining puts the payloads that it pops on the wire, and
   at most a part of one more, which then failed for good (`drain_wire`).
-/

namespace SerialLink

/-! ## answers and what is out -/

/-- The answer to a write agrees with the bytes that are out. -/
structure Agrees (payload : Bytes) (result : Except IoError Unit) (out : Bytes) : Prop where
  /-- Only bytes of the payload are out, in order and from the first one on. -/
  within : out <+: payload
  /-- A payload that is written is out. -/
  whole : result = .ok () → out = payload
  /-- A failure is transient only if nothing is out. -/
  nothing : ∀ e, result = .error e → e.isTransient = true → out = []

namespace Agrees

theorem of_ok (payload : Bytes) : Agrees payload (.ok ()) payload :=
  ⟨List.prefix_refl _, fun _ => rfl, nofun⟩

/-- After a failure that is not transient any part may be out. -/
theorem of_fatal {payload out : Bytes} {e : IoError} (h : out <+: payload)
    (he : e.isTransient = false) : Agrees payload (.error e) out where
  within := h
  whole := nofun
  nothing e' he' htransient := by
    obtain rfl := Except.error.inj he'
    exact absurd htransient (Bool.eq_false_iff.mp he)

theorem of_untouched (payload : Bytes) (e : IoError) : Agrees payload (.error e) [] :=
  ⟨List.nil_prefix, nofun, fun _ _ _ => rfl⟩

end Agrees

/-! ## piece by piece -/

/-- Whatever the device does with the rest of a payload whose front it took, the answer agrees
with what it took of the whole. -/
theorem offerAll_agrees (front rest : Bytes) (outcomes : List WriteOutcome) :
    Agrees (front ++ rest) (offerAll front.length rest outcomes).1
      (front ++ (offerAll front.length rest outcomes).2.1) := by
  induction outcomes generalizing front rest with
  | nil =>
    unfold offerAll
    split
    next h =>
      rw [List.isEmpty_iff.mp h]
      exact .of_ok _
    next => exact .of_ok _
  | cons outcome outcomes ih =>
    unfold offerAll
    by_cases hrest : rest.isEmpty
    · rw [if_pos hrest, List.isEmpty_iff.mp hrest]
      exact .of_ok _
    rw [if_neg hrest]
    have hfront : front ++ [] <+: front ++ rest := by
      rw [List.append_nil]
      exact List.prefix_append _ _
    cases outcome with
    | takes n =>
      dsimp only
      by_cases hk : min n rest.length = 0
      · rw [if_pos hk]
        exact .of_fatal hfront rfl
      · rw [if_neg hk]
        have h := ih (front ++ rest.take (min n rest.length)) (rest.drop (min n rest.length))
        have hlength : (front ++ rest.take (min n rest.length)).length =
            front.length + min n rest.length := by
          rw [List.length_append, List.length_take, Nat.min_assoc, Nat.min_self]
        rw [hlength, List.append_assoc, List.take_append_drop, List.append_assoc] at h
        exact h
    | fails e =>
      dsimp only
      by_cases hinterrupted : e.kind = .interrupted
      · rw [if_pos hinterrupted]
        exact ih front rest
      · rw [if_neg hinterrupted]
        by_cases hstalled : 0 < front.length && e.isTransient
        · rw [if_pos hstalled]
          exact .of_fatal hfront rfl
        · rw [if_neg hstalled]
          cases he : e.isTransient with
          | false => exact .of_fatal hfront he
          | true =>
            -- nothing was taken before, or the device would count as stalled
            have hfirst : front = [] := by simpa [he] using hstalled
            rw [hfirst]
            exact .of_untouched _ e

/-- Whatever a device does, the answer to writing a payload agrees with what the device took. -/
theorem Writer.agrees (w : Writer) (data : Bytes) :
    Agrees data (w.writePayload data).result (w.writePayload data).taken := by
  have h := offerAll_agrees [] data w.outcomes
  unfold writePayload
  cases hall : offerAll 0 data w.outcomes with
  | mk result rest =>
    simp only [List.nil_append, List.length_nil, hall] at h
    cases result with
    | error e => exact h
    | ok u =>
      have hwhole : rest.1 = data := h.whole rfl
      dsimp only
      cases w.flush with
      | none => exact h
      | some e =>
        dsimp only
        split
        next => exact h
        next he => exact .of_fatal h.within (Bool.eq_false_iff.mpr he)

/-! ## an end to it -/

/-- The device was interrupted. -/
def WriteOutcome.isInterrupted : WriteOutcome → Bool
  | .takes _ => false
  | .fails e => e.kind = .interrupted

@[simp] theorem WriteOutcome.isInterrupted_fails (e : IoError) :
    (fails e).isInterrupted = decide (e.kind = .interrupted) := rfl

/-- Time and again the device is not interrupted. -/
def Recovers (outcomes : Stream' WriteOutcome) : Prop :=
  ∀ i, ∃ j, i ≤ j ∧ (outcomes.get j).isInterrupted = false

theorem Recovers.tail {outcomes : Stream' WriteOutcome} (h : Recovers outcomes) :
    Recovers outcomes.tail := by
  intro i
  obtain ⟨j, hij, hj⟩ := h (i + 1)
  obtain ⟨k, rfl⟩ := Nat.exists_eq_add_of_le' (Nat.le_trans (Nat.le_add_left 1 i) hij)
  exact ⟨k, Nat.le_of_succ_le_succ hij, hj⟩

/-- As many outcomes as there are offers decide what comes of the rest of a payload. -/
def Decided (outcomes : Stream' WriteOutcome) (done : Nat) (rest : Bytes) : Prop :=
  ∃ came, ∀ more, offerAll done rest (outcomes.take came.2.2.length ++ more) = came

namespace Decided

variable {outcomes : Stream' WriteOutcome} {done : Nat} {rest : Bytes}

theorem nil (outcomes : Stream' WriteOutcome) (done : Nat) : Decided outcomes done [] :=
  ⟨(.ok (), [], []), fun more => by cases more <;> rfl⟩

/-- An interrupted offer is made again. -/
theorem interrupted (hrest : rest ≠ []) (hhead : outcomes.head.isInterrupted = true)
    (h : Decided outcomes.tail done rest) : Decided outcomes done rest := by
  obtain ⟨came, hcame⟩ := h
  refine ⟨(came.1, came.2.1, rest.length :: came.2.2), fun more => ?_⟩
  cases houtcome : outcomes.head with
  | takes n => rw [houtcome] at hhead; cases hhead
  | fails e =>
    have he : e.kind = .interrupted := by simpa [houtcome] using hhead
    simp [offerAll, Stream'.take_succ, houtcome, hrest, he, hcame]

/-- Any other offer is the last one, or some of the payload is taken. -/
theorem answered (hrest : rest ≠ []) (hhead : outcomes.head.isInterrupted = false)
    (h : ∀ k, 0 < k → Decided outcomes.tail (done + k) (rest.drop k)) :
    Decided outcomes done rest := by
  cases houtcome : outcomes.head with
  | takes n =>
    by_cases hk : min n rest.length = 0
    · refine ⟨(.error nothingTaken, [], [rest.length]), fun more => ?_⟩
      simp [offerAll, Stream'.take_succ, houtcome, hrest, hk]
    · obtain ⟨came, hcame⟩ := h _ (Nat.pos_of_ne_zero hk)
      refine ⟨(came.1, rest.take (min n rest.length) ++ came.2.1, rest.length :: came.2.2),
        fun more => ?_⟩
      simp [offerAll, Stream'.take_succ, houtcome, hrest, hk, hcame]
  | fails e =>
    have he : e.kind ≠ .interrupted := by simpa [houtcome] using hhead
    by_cases hstalled : 0 < done ∧ e.isTransient = true
    · refine ⟨(.error (stalled done (done + rest.length) e), [], [rest.length]), fun more => ?_⟩
      simp [offerAll, Stream'.take_succ, houtcome, hrest, he, if_pos hstalled]
    · refine ⟨(.error e, [], [rest.length]), fun more => ?_⟩
      simp [offerAll, Stream'.take_succ, houtcome, hrest, he, if_neg hstalled]

end Decided

theorem Recovers.decided {outcomes : Stream' WriteOutcome} (h : Recovers outcomes) (done : Nat)
    (rest : Bytes) : Decided outcomes done rest := by
  induction hn : rest.length using Nat.strong_induction_on generalizing outcomes done rest with
  | h n shorter =>
    obtain rfl | hrest := eq_or_ne rest []
    · exact .nil outcomes done
    have hanswered : ∀ {outcomes : Stream' WriteOutcome}, Recovers outcomes →
        outcomes.head.isInterrupted = false → Decided outcomes done rest := by
      intro outcomes h hhead
      refine .answered hrest hhead fun k hk => ?_
      refine shorter (rest.drop k).length ?_ h.tail _ _ rfl
      rw [← hn, List.length_drop]
      exact Nat.sub_lt (List.length_pos_iff.mpr hrest) hk
    -- the device is interrupted at most `j` times before that
    obtain ⟨j, -, hj⟩ := h 0
    induction j generalizing outcomes with
    | zero => exact hanswered h hj
    | succ j ih =>
      cases hhead : outcomes.head.isInterrupted with
      | false => exact hanswered h hhead
      | true => exact .interrupted hrest hhead (ih h.tail hj)

theorem Writer.offers_writePayload (w : Writer) (data : Bytes) :
    (w.writePayload data).offers = (offerAll 0 data w.outcomes).2.2 := by
  unfold writePayload
  cases offerAll 0 data w.outcomes with
  | mk result rest => cases result <;> rfl

/-- Writing a payload to a device that recovers comes to an end, after as many outcomes as there
are offers. -/
theorem Writer.exists_record {outcomes : Stream' WriteOutcome} (h : Recovers outcomes)
    (flush : Option IoError) (data : Bytes) :
    ∃ record : WriteRecord, ∀ more,
      writePayload ⟨outcomes.take record.offers.length ++ more, flush⟩ data = record := by
  obtain ⟨came, hcame⟩ := h.decided 0 data
  refine ⟨writePayload ⟨outcomes.take came.2.2.length ++ [], flush⟩ data, fun more => ?_⟩
  rw [offers_writePayload, hcame []]
  simp only [writePayload, hcame]

/-! ## on the wire -/

section

variable {δ : Type} [Transport δ]

/-- The answers of a device agree with what it puts on its wire. -/
structure Transport.Honest (wire : δ → Bytes) : Prop where
  write : ∀ d payload, ∃ out, wire (Transport.write d payload).2 = wire d ++ out ∧
    Agrees payload (Transport.write d payload).1 out
  read : ∀ d, wire (Transport.read d).2 = wire d

variable {wire : δ → Bytes} {d e : δ}

theorem Transport.Takes.wire_eq (hwire : Transport.Honest wire) {payloads : List Bytes}
    (h : Transport.Takes d payloads e) : wire e = wire d ++ payloads.flatten := by
  induction h with
  | nothing => exact (List.append_nil _).symm
  | @take _ _ _ payload _ hwrite _ ih =>
    obtain ⟨out, hout, hagrees⟩ := hwire.write _ payload
    rw [hwrite] at hout hagrees
    rw [ih, hout, hagrees.whole rfl, List.append_assoc]
    rfl

/-- When draining ends a part of the oldest payload may be out, but only if the device failed. -/
theorem Ending.wire_eq (hwire : Transport.Honest wire) {budget : Duration}
    {elapsed : List Duration} {n : Nat} {drained : Drained δ}
    (h : Ending budget elapsed n d drained) :
    ∃ part, wire drained.device = wire d ++ part ∧ part <+: drained.send.toList.flatten ∧
      (∀ n, drained.result = .ok n → part = []) := by
  cases h with
  | emptied => exact ⟨[], (List.append_nil _).symm, List.nil_prefix, fun _ _ => rfl⟩
  | spent => exact ⟨[], (List.append_nil _).symm, List.nil_prefix, fun _ _ => rfl⟩
  | @refused send rest payload e device hpop _ hwrite =>
    obtain ⟨out, hout, hagrees⟩ := hwire.write d payload
    rw [hwrite] at hout hagrees
    refine ⟨out, hout, ?_, fun n hn => ?_⟩
    · rw [SendQueue.toList_of_pop hpop, List.flatten_cons]
      exact hagrees.within.trans (List.prefix_append _ _)
    · dsimp only at hn
      split at hn
      next he => exact hagrees.nothing e rfl he
      next => cases hn

/-- Draining puts on the wire what it pops.  If the device fails, a part of the oldest payload
that is left may follow. -/
theorem drain_wire (hwire : Transport.Honest wire) (budget : Duration)
    (elapsed : List Duration) (send : SendQueue) (d : δ) :
    ∃ payloads part, send.Pops payloads (drain budget elapsed send d).send ∧
      wire (drain budget elapsed send d).device = wire d ++ (payloads.flatten ++ part) ∧
      part <+: (drain budget elapsed send d).send.toList.flatten ∧
      (∀ n, (drain budget elapsed send d).result = .ok n → part = []) := by
  obtain ⟨payloads, e, hpops, htakes, -, hending⟩ := drain_cases budget elapsed send d
  obtain ⟨part, hpart, hrest⟩ := hending.wire_eq hwire
  rw [htakes.wire_eq hwire, List.append_assoc] at hpart
  exact ⟨payloads, part, hpops, hpart, hrest⟩

end

/-- The answers of a serial port agree with what is on its wire. -/
theorem SerialPort.honest : Transport.Honest SerialPort.wire where
  write p payload := by
    cases hopen : p.isOpen with
    | true =>
      refine ⟨(p.writer.writePayload payload).taken, ?_, ?_⟩
      · simp [Transport.write, hopen]
      · simpa [Transport.write, hopen] using p.writer.agrees payload
    | false =>
      refine ⟨[], ?_, ?_⟩
      · simp [Transport.write, hopen]
      · simpa [Transport.write, hopen] using Agrees.of_untouched payload closed
  read p := by
    simp only [Transport.read]
    split
    · rfl
    · rfl

end SerialLink
