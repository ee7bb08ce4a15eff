import SerialLink.Cycle.Drain
import SerialLink.Proofs.Outbound

/-!
# SerialLink.Proofs.Draining

What draining does to the queue, to the device and to the count.

1. The device takes payloads from the front of the queue, one after the other
   (`Transport.Takes`), and then draining ends (`Ending`).  That is
   all that draining does (`drain_cases`).
2. It does the same with two devices one of which shows the other (`drain_map`).
3. A device that is watched notes each payload that it is offered, with its answer.  The notes
   account for the queue, the count and the failure (`drain_accounts`).
-/

namespace SerialLink

/-! ## payloads taken, one after the other -/

/-- The device takes these payloads, one after the other, and becomes the second one. -/
inductive Transport.Takes {δ : Type} [Transport δ] : δ → List Bytes → δ → Prop
  | nothing (d : δ) : Takes d [] d
  | take {c d e : δ} {payload : Bytes} {payloads : List Bytes}
      (h : Transport.write c payload = (.ok (), d)) (hd : Takes d payloads e) :
      Takes c (payload :: payloads) e

open Transport (Takes)

namespace SendQueue

variable {q r : SendQueue} {payload : Bytes} {e : QueueError}

theorem toList_of_pop_error (h : q.pop = .error e) : q.toList = [] := by
  unfold pop at h
  rw [Fifo.head?_eq] at h
  cases hq : q.items.toList with
  | nil => exact hq
  | cons x xs => rw [hq] at h; cases h

theorem size_of_pop (h : q.pop = .ok (payload, r)) : q.size = r.size + 1 := by
  rw [size_eq_length, size_eq_length, toList_of_pop h, List.length_cons]

end SendQueue

/-! ## the ways to end -/

/-- When `n` payloads are written the budget is spent.  The time is not looked at before the
first payload, so the reading before one more is the one with the number `n - 1`. -/
def Spent (budget : Duration) (elapsed : List Duration) (n : Nat) : Prop :=
  0 < n ∧ budget ≤ elapsed.getD (n - 1) .zero

section

variable {δ : Type} [Transport δ]

/-- How draining ends when the device has taken `n` payloads. -/
inductive Ending (budget : Duration) (elapsed : List Duration) (n : Nat) (device : δ) :
    Drained δ → Prop
  /-- Nothing waits. -/
  | emptied {send : SendQueue} (h : send.toList = []) :
      Ending budget elapsed n device ⟨.ok n, send, device⟩
  /-- The budget is spent. -/
  | spent {send : SendQueue} (h : Spent budget elapsed n) :
      Ending budget elapsed n device ⟨.ok n, send, device⟩
  /-- The device refuses the oldest payload.  If that only means that nothing moved, it is no
  failure. -/
  | refused {send rest : SendQueue} {payload : Bytes} {e : IoError} {device' : δ}
      (hpop : send.pop = .ok (payload, rest)) (htime : ¬ Spent budget elapsed n)
      (h : Transport.write device payload = (.error e, device')) :
      Ending budget elapsed n device
        ⟨if e.isTransient then .ok n else .error e, send, device'⟩

/-- From `written` payloads on, the device takes payloads from the front of the queue, each
while the budget lasts, and then draining ends. -/
def Drains (budget : Duration) (elapsed : List Duration) (written : Nat) (send : SendQueue)
    (device : δ) (d : Drained δ) : Prop :=
  ∃ payloads device', send.Pops payloads d.send ∧ Takes device payloads device' ∧
    (∀ k, written ≤ k → k < written + payloads.length → ¬ Spent budget elapsed k) ∧
    Ending budget elapsed (written + payloads.length) device' d

namespace Drains

variable {budget : Duration} {elapsed : List Duration} {written : Nat} {send rest : SendQueue}
  {device device' : δ} {payload : Bytes} {d : Drained δ}

theorem stop {result : Except IoError Nat}
    (h : Ending budget elapsed written device ⟨result, send, device'⟩) :
    Drains budget elapsed written send device ⟨result, send, device'⟩ :=
  ⟨[], device, .done send, .nothing device, fun _ hk hlt => absurd hlt (Nat.not_lt.mpr hk), h⟩

theorem take (hpop : send.pop = .ok (payload, rest)) (htime : ¬ Spent budget elapsed written)
    (hwrite : Transport.write device payload = (.ok (), device'))
    (h : Drains budget elapsed (written + 1) rest device' d) :
    Drains budget elapsed written send device d := by
  obtain ⟨payloads, device'', hpops, htakes, hearlier, hending⟩ := h
  have hcount : written + 1 + payloads.length = written + (payload :: payloads).length := by
    rw [List.length_cons]
    omega
  rw [hcount] at hearlier hending
  refine ⟨payload :: payloads, device'', .pop hpop hpops, .take hwrite htakes, ?_, hending⟩
  intro k hk hlt
  obtain rfl | hlater := Nat.eq_or_lt_of_le hk
  · exact htime
  · exact hearlier k hlater hlt

end Drains

/-- The readings are used up in step with the payloads: none before the first payload, then one
before each. -/
theorem drop_readings (elapsed : List Duration) (written : Nat) :
    (if 0 < written then (elapsed.drop (written - 1)).tail else elapsed.drop (written - 1)) =
      elapsed.drop (written + 1 - 1) := by
  cases written with
  | zero => rfl
  | succ w => exact List.tail_drop

theorem spent_iff (budget : Duration) (elapsed : List Duration) (written : Nat) :
    (0 < written && budget ≤ (elapsed.drop (written - 1)).headD .zero) = true ↔
      Spent budget elapsed written := by
  simp [Spent, List.headD_eq_head?_getD, List.getD_eq_getElem?_getD]

theorem drainFrom_drains (budget : Duration) (elapsed : List Duration) {fuel : Nat}
    (written : Nat) {send : SendQueue} (device : δ) (hfuel : send.size ≤ fuel) :
    Drains budget elapsed written send device
      (drainFrom budget fuel written (elapsed.drop (written - 1)) send device) := by
  induction fuel generalizing written send device with
  | zero =>
    rw [SendQueue.size_eq_length] at hfuel
    exact .stop (.emptied (List.eq_nil_of_length_eq_zero (Nat.le_zero.mp hfuel)))
  | succ fuel ih =>
    unfold drainFrom
    cases hpop : send.pop with
    | error e => exact .stop (.emptied (SendQueue.toList_of_pop_error hpop))
    | ok p =>
      obtain ⟨payload, rest⟩ := p
      dsimp only
      by_cases htime : Spent budget elapsed written
      · rw [if_pos ((spent_iff ..).mpr htime)]
        exact .stop (.spent htime)
      · rw [if_neg (mt (spent_iff ..).mp htime), drop_readings]
        cases hwrite : Transport.write device payload with
        | mk answer device' =>
          cases answer with
          | ok u =>
            have hrest : rest.size ≤ fuel := by
              rw [SendQueue.size_of_pop hpop] at hfuel
              exact Nat.le_of_succ_le_succ hfuel
            exact .take hpop htime hwrite (ih (written + 1) device' hrest)
          | error e => exact .stop (.refused hpop htime hwrite)

/-- What draining does to the queue and to the device, and how it ends. -/
theorem drain_cases (budget : Duration) (elapsed : List Duration) (send : SendQueue)
    (device : δ) :
    ∃ payloads device', send.Pops payloads (drain budget elapsed send device).send ∧
      Takes device payloads device' ∧ (∀ k < payloads.length, ¬ Spent budget elapsed k) ∧
      Ending budget elapsed payloads.length device' (drain budget elapsed send device) := by
  obtain ⟨payloads, device', hpops, htakes, hearlier, hending⟩ :=
    drainFrom_drains budget elapsed 0 device (Nat.le_refl send.size)
  rw [Nat.zero_add] at hearlier hending
  exact ⟨payloads, device', hpops, htakes, fun k hk => hearlier k (Nat.zero_le k) hk, hending⟩

end

/-! ## devices that show others -/

section

variable {δ ε : Type} [Transport δ] [Transport ε]

/-- Writing to a device is writing to the one that it shows. -/
def Transport.Shows (f : ε → δ) : Prop :=
  ∀ (t : ε) (payload : Bytes), Transport.write (f t) payload =
    ((Transport.write t payload).1, f (Transport.write t payload).2)

/-- What draining came to, for the device shown. -/
def Drained.map (f : ε → δ) (d : Drained ε) : Drained δ := ⟨d.result, d.send, f d.device⟩

theorem drainFrom_map {f : ε → δ} (hf : Transport.Shows f) (budget : Duration)
    (fuel written : Nat) (elapsed : List Duration) (send : SendQueue) (t : ε) :
    drainFrom budget fuel written elapsed send (f t) =
      (drainFrom budget fuel written elapsed send t).map f := by
  induction fuel generalizing written elapsed send t with
  | zero => rfl
  | succ fuel ih =>
    unfold drainFrom
    cases hpop : send.pop with
    | error => rfl
    | ok p =>
      dsimp only
      split
      · rfl
      · rw [hf]
        cases Transport.write t p.1 with
        | mk answer device =>
          cases answer with
          | error e => rfl
          | ok => exact ih _ _ _ _

theorem drain_map {f : ε → δ} (hf : Transport.Shows f) (budget : Duration)
    (elapsed : List Duration) (send : SendQueue) (t : ε) :
    drain budget elapsed send (f t) = (drain budget elapsed send t).map f :=
  drainFrom_map hf ..

end

/-! ## accounts -/

/-- A payload that was offered, with the answer. -/
structure Offer where
  payload : Bytes
  answer : Except IoError Unit

namespace Offer

/-- The payload was taken. -/
def isTaken (o : Offer) : Bool := o.answer.isOk

/-- The payload was offered and taken. -/
def taken (payload : Bytes) : Offer := ⟨payload, .ok ()⟩

/-- The payload was offered and refused. -/
def refused (payload : Bytes) (e : IoError) : Offer := ⟨payload, .error e⟩

end Offer

/-- The payloads of those offers that were taken. -/
def takenOf (offers : List Offer) : List Bytes := (offers.filter Offer.isTaken).map Offer.payload

@[simp] theorem takenOf_append (offers more : List Offer) :
    takenOf (offers ++ more) = takenOf offers ++ takenOf more := by
  simp [takenOf]

@[simp] theorem takenOf_taken (payloads : List Bytes) :
    takenOf (payloads.map Offer.taken) = payloads := by
  induction payloads with
  | nil => rfl
  | cons payload payloads ih => exact congrArg (payload :: ·) ih

@[simp] theorem takenOf_refused (payload : Bytes) (e : IoError) :
    takenOf [.refused payload e] = [] := rfl

@[simp] theorem payloads_taken (payloads : List Bytes) :
    (payloads.map Offer.taken).map Offer.payload = payloads := by
  rw [List.map_map]
  exact List.map_id payloads

/-- How a list of offers tallies with draining the payloads `queue`, when the payloads `left`
remain and draining came to `result`. -/
structure Tallies (budget : Duration) (elapsed : List Duration) (queue left : List Bytes)
    (result : Except IoError Nat) (offers : List Offer) : Prop where
  /-- The payloads were offered in the order of the queue. -/
  order : offers.map Offer.payload <+: queue
  /-- Those that were taken have left the queue, and no others. -/
  balance : takenOf offers ++ left = queue
  /-- Nothing was offered after a refusal. -/
  refusal : ∀ o ∈ offers.dropLast, o.isTaken = true
  /-- The count is that of the payloads taken. -/
  count : ∀ n, result = .ok n → n = (takenOf offers).length
  /-- Without a failure draining stopped because the queue was empty, because the device pushed
  back, or because the budget was spent. -/
  stop : ∀ n, result = .ok n → left = [] ∨
    (∃ payload rest e, left = payload :: rest ∧ e.isTransient = true ∧
      offers.getLast? = some (.refused payload e)) ∨
    Spent budget elapsed n
  /-- A failure is that of the last offer, and the payload is still in front. -/
  failure : ∀ e, result = .error e → e.isTransient = false ∧
    ∃ payload rest, left = payload :: rest ∧ offers.getLast? = some (.refused payload e)
  /-- A payload is offered if there is one. -/
  attempt : queue ≠ [] → offers ≠ []
  /-- After the first one, payloads are offered only while the budget lasts. -/
  timely : ∀ k < offers.length, ¬ Spent budget elapsed k

namespace Tallies

variable {budget : Duration} {elapsed : List Duration} {payloads left : List Bytes}

/-- All that was offered was taken. -/
theorem of_taken (htime : ∀ k < payloads.length, ¬ Spent budget elapsed k)
    (h : left = [] ∨ Spent budget elapsed payloads.length) :
    Tallies budget elapsed (payloads ++ left) left (.ok payloads.length)
      (payloads.map .taken) where
  order := by
    rw [payloads_taken]
    exact List.prefix_append _ _
  balance := by rw [takenOf_taken]
  refusal o ho := by
    obtain ⟨payload, -, rfl⟩ := List.mem_map.mp (List.dropLast_subset _ ho)
    rfl
  count n hn := by rw [takenOf_taken, ← Except.ok.inj hn]
  stop n hn := by
    obtain rfl := Except.ok.inj hn
    exact h.imp_right .inr
  failure := nofun
  attempt hne hnone := by
    -- the budget is not spent before something was taken
    obtain rfl := List.map_eq_nil_iff.mp hnone
    obtain rfl | hspent := h
    · exact hne rfl
    · exact absurd hspent.1 (Nat.lt_irrefl 0)
  timely k hk := htime k (by rwa [List.length_map] at hk)

/-- All that was offered was taken, but for the last payload. -/
theorem of_refused {payload : Bytes} {rest : List Bytes} {e : IoError}
    (htime : ∀ k ≤ payloads.length, ¬ Spent budget elapsed k) :
    Tallies budget elapsed (payloads ++ payload :: rest) (payload :: rest)
      (if e.isTransient then .ok payloads.length else .error e)
      (payloads.map .taken ++ [.refused payload e]) where
  order := by
    rw [List.map_append, payloads_taken, List.append_cons]
    exact List.prefix_append _ _
  balance := by rw [takenOf_append, takenOf_taken, takenOf_refused, List.append_nil]
  refusal o ho := by
    rw [List.dropLast_concat] at ho
    obtain ⟨payload, -, rfl⟩ := List.mem_map.mp ho
    rfl
  count n hn := by
    split at hn
    · simp [← Except.ok.inj hn]
    · cases hn
  stop n hn := by
    split at hn
    next he => exact .inr (.inl ⟨payload, rest, e, rfl, he, List.getLast?_concat⟩)
    next => cases hn
  failure e' he' := by
    split at he'
    · cases he'
    next he =>
      obtain rfl := Except.error.inj he'
      exact ⟨Bool.eq_false_iff.mpr he, payload, rest, rfl, List.getLast?_concat⟩
  attempt _ := List.concat_ne_nil _ _
  timely k hk := htime k (by simpa [Nat.lt_succ_iff] using hk)

end Tallies

/-- A device that is watched: it notes what it is offered, in order. -/
structure Watched (δ : Type) where
  device : δ
  offers : List Offer

instance {δ : Type} [Transport δ] : Transport (Watched δ) where
  write t payload :=
    let (answer, device) := Transport.write t.device payload
    (answer, ⟨device, t.offers ++ [⟨payload, answer⟩]⟩)
  read t :=
    let (answer, device) := Transport.read t.device
    (answer, ⟨device, t.offers⟩)

/-- The device, watched from now on. -/
def watch {δ : Type} (device : δ) : Watched δ := ⟨device, []⟩

section

variable {δ : Type} [Transport δ] {t u : Watched δ}

/-- A device that is watched answers as it does otherwise. -/
theorem Watched.shows : Transport.Shows (Watched.device : Watched δ → δ) := fun _ _ => rfl

theorem Watched.offers_of_write {payload : Bytes} {answer : Except IoError Unit}
    (h : Transport.write t payload = (answer, u)) : u.offers = t.offers ++ [⟨payload, answer⟩] := by
  obtain ⟨rfl, rfl⟩ := Prod.mk.inj h
  rfl

theorem Transport.Takes.offers_eq {payloads : List Bytes} (h : Takes t payloads u) :
    u.offers = t.offers ++ payloads.map .taken := by
  induction h with
  | nothing => exact (List.append_nil _).symm
  | take hwrite _ ih =>
    rw [ih, Watched.offers_of_write hwrite, List.append_assoc]
    rfl

theorem Ending.tallies {budget : Duration} {elapsed : List Duration} {send : SendQueue}
    {payloads : List Bytes} {w : Drained (Watched δ)}
    (h : Ending budget elapsed payloads.length t w) (hpops : send.Pops payloads w.send)
    (hoffers : t.offers = payloads.map .taken)
    (htime : ∀ k < payloads.length, ¬ Spent budget elapsed k) :
    Tallies budget elapsed send.toList w.send.toList w.result w.device.offers := by
  rw [hpops.toList_eq]
  cases h with
  | emptied hempty =>
    rw [hoffers]
    exact .of_taken htime (.inl hempty)
  | spent hspent =>
    rw [hoffers]
    exact .of_taken htime (.inr hspent)
  | refused hpop hlast hwrite =>
    rw [SendQueue.toList_of_pop hpop, Watched.offers_of_write hwrite, hoffers]
    refine .of_refused fun k hk => ?_
    obtain rfl | hlt := Nat.eq_or_lt_of_le hk
    · exact hlast
    · exact htime k hlt

/-- What a device is offered accounts for draining: for the queue, the count, the failure and the
budget. -/
theorem drain_accounts (budget : Duration) (elapsed : List Duration) (send : SendQueue)
    (device : δ) :
    ∃ offers, drain budget elapsed send (watch device) =
        ⟨(drain budget elapsed send device).result, (drain budget elapsed send device).send,
          ⟨(drain budget elapsed send device).device, offers⟩⟩ ∧
      Tallies budget elapsed send.toList (drain budget elapsed send device).send.toList
        (drain budget elapsed send device).result offers := by
  have hshown : drain budget elapsed send device =
      (drain budget elapsed send (watch device)).map Watched.device :=
    drain_map Watched.shows budget elapsed send (watch device)
  obtain ⟨payloads, t, hpops, htakes, htime, hending⟩ :=
    drain_cases budget elapsed send (watch device)
  rw [hshown]
  exact ⟨_, rfl, hending.tallies hpops htakes.offers_eq htime⟩

/-- Without any time one payload is written, and the next one waits for another round. -/
example :
    let w := drain .zero [] ⟨.ofList [[1], [2]]⟩ (watch (Scripted.ofAnswers [] []))
    w.result.toOption = some 1 ∧ w.send.toList = [[2]] ∧ takenOf w.device.offers = [[1]] := by
  decide

end

end SerialLink
