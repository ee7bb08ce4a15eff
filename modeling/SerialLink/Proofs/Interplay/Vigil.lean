import SerialLink.Connection.Wait
import SerialLink.Proofs.Interplay.Chronicle

/-!
# SerialLink.Proofs.Interplay.Vigil

Callers who wait for a frame while anything else goes on.

1. A call begins when the clock is read, which may be while a cycle is at work: then some of its
   frames arrive before that and the others after it (`Vigil.Begins`).
2. From then on the caller looks at the live history now and then, and in between the
   connection takes steps in which frames arrive (`Vigil.Step`).  Who has values to send may
   also give up without a look.
3. At the beginning all timestamps are readings up to then.  So, as long as the clock does not
   step back, a frame that is later than the beginning has arrived since (`Vigil.Kept`).
4. The histories are in order, so the frame that a caller finds is the oldest that is later,
   and a caller who finds none was right (`Vigil.answer_of_run`).
-/

namespace SerialLink

/-! ## requests -/

namespace Request

variable {τ : Type}

/-- What a caller waits for who began when the clock read `now`. -/
def wanted (r : Request τ) (now : τ) : Wanted τ :=
  match r with
  | .next => .next now
  | .response expected after => .response expected (after.getD now)
  | .exchange expected _ => .response expected now
  | .firstAfter _ => .next now

/-- The values that are sent again and again. -/
def repeated : Request τ → Option (List SendValue)
  | .exchange _ values => some values
  | _ => none

/-- The clock is read when the call begins. -/
def readsClock : Request τ → Bool
  | .response _ (some _) => false
  | _ => true

/-- Values are to be sent.  If that fails, the caller gives up without a look. -/
def sends : Request τ → Bool
  | .exchange _ _ | .firstAfter _ => true
  | _ => false

/-- A call that begins when the clock reads `now`, before anything is sent. -/
def begin (r : Request τ) (now : τ) (timeout : Option Duration) : Call τ :=
  { Call.fresh (r.wanted now) timeout with repeated := r.repeated }

end Request

/-! ## looks -/

namespace Call

variable {τ σ : Type} [Reading τ] {k : Call τ} {c : Connection τ σ}

theorem look_of_some (h : k.isSettled = false) {f : Frame τ}
    (hfind : k.wanted.find? c.receive = some f) : k.look c = k.settle (some f) := by
  unfold look
  rw [if_neg (Bool.eq_false_iff.mp h), hfind]

theorem look_of_none (h : k.isSettled = false) (hfind : k.wanted.find? c.receive = none) :
    k.look c = if c.isConnected then k else k.settle none := by
  unfold look
  rw [if_neg (Bool.eq_false_iff.mp h), hfind]

theorem lookOnce_of_some (h : k.isSettled = false) {f : Frame τ}
    (hfind : k.wanted.find? c.receive = some f) : k.lookOnce c = k.settle (some f) := by
  unfold lookOnce
  rw [look_of_some h hfind]
  rfl

/-- A look that does not find the frame leaves the call open or settles it without one. -/
theorem lookOnce_of_none (h : k.isSettled = false) (hfind : k.wanted.find? c.receive = none) :
    k.lookOnce c = k ∨ k.lookOnce c = k.settle none := by
  unfold lookOnce
  rw [look_of_none h hfind]
  cases c.isConnected with
  | false => exact .inr rfl
  | true =>
    dsimp only
    rw [if_pos rfl]
    split
    · exact .inl rfl
    · exact .inr rfl

theorem lookOnce_of_not_late (h : k.isSettled = false) (hlate : k.isLate = false)
    (c : Connection τ σ) : k.lookOnce c = k.look c := by
  have hlook : (k.look c).isSettled = true ∨ k.look c = k := by
    cases hfind : k.wanted.find? c.receive with
    | some f =>
      rw [look_of_some h hfind]
      exact .inl rfl
    | none =>
      rw [look_of_none h hfind]
      cases c.isConnected with
      | false => exact .inl rfl
      | true => exact .inr rfl
  unfold lookOnce
  dsimp only
  obtain hsettled | hopen := hlook
  · rw [hsettled]
    rfl
  · rw [hopen, h, hlate]
    rfl

theorem wanted_lookOnce (h : k.isSettled = false) (c : Connection τ σ) :
    (k.lookOnce c).wanted = k.wanted := by
  cases hfind : k.wanted.find? c.receive with
  | some f =>
    rw [lookOnce_of_some h hfind]
    rfl
  | none =>
    obtain heq | heq := lookOnce_of_none h hfind
    · rw [heq]
    · rw [heq]
      rfl

/-- A look that settles a call does so with what the history holds for it. -/
theorem find?_of_lookOnce (h : k.isSettled = false) {outcome : Option (Frame τ)}
    (hsettled : (k.lookOnce c).outcome = some outcome) : k.wanted.find? c.receive = outcome := by
  have hopen : k.outcome = none := Option.not_isSome_iff_eq_none.mp (Bool.eq_false_iff.mp h)
  cases hfind : k.wanted.find? c.receive with
  | some f =>
    rw [lookOnce_of_some h hfind] at hsettled
    exact Option.some.inj hsettled
  | none =>
    obtain heq | heq := lookOnce_of_none h hfind
    · rw [heq, hopen] at hsettled
      cases hsettled
    · rw [heq] at hsettled
      exact Option.some.inj hsettled

end Call

namespace Wanted

variable {τ : Type}

/-- A frame that a caller waits for is later than this. -/
def after : Wanted τ → τ
  | .next since => since
  | .response _ after => after

theorem mem_of_find? [Reading τ] {w : Wanted τ} {q : ReceiveQueue τ} {f : Frame τ}
    (h : w.find? q = some f) : f ∈ q.framesAfter w.after := by
  cases w with
  | next since => exact List.mem_of_head? h
  | response expected after => exact List.mem_of_find?_eq_some h

end Wanted

/-! ## vigils -/

/-- A caller who waits for a frame of a connection in use. -/
structure Vigil (τ σ : Type) extends Chronicle τ σ where
  /-- What the clock read when the call began, if it was read. -/
  mark : τ
  /-- The frames that have arrived since the call began. -/
  since : List (Frame τ)
  call : Call τ
  /-- The live history when the caller looked last. -/
  seen : ReceiveQueue τ

/-- The clock is read. -/
def Chronicle.readClock {τ σ : Type} (c : Chronicle τ σ) : Chronicle τ σ :=
  ⟨c.place.change fun d => { d with clock := d.clock.read.2 },
    c.readings ++ [c.place.conn.clock.read.1]⟩

/-- The clock is read, and a call begins. -/
def Chronicle.watch {τ σ : Type} (c : Chronicle τ σ) (r : Request τ) (timeout : Option Duration) :
    Vigil τ σ :=
  ⟨c.readClock, c.place.conn.clock.read.1, [], r.begin c.place.conn.clock.read.1 timeout,
    c.place.conn.receive⟩

namespace Vigil

variable {τ σ : Type} [Reading τ] [CustomCycle τ Mock.Line σ]

/-- A call begins in the given connection. -/
inductive Begins (r : Request τ) (c : Chronicle τ σ) : Vigil τ σ → Prop
  /-- The clock is not read. -/
  | unread (timeout : Option Duration) (h : r.readsClock = false) (mark : τ) :
    Begins r c ⟨c, mark, [], r.begin mark timeout, c.place.conn.receive⟩
  /-- The clock is read, and no cycle is at work. -/
  | between (timeout : Option Duration) (h : r.readsClock = true) :
    Begins r c (c.watch r timeout)
  /-- The clock is read while a cycle is at work. -/
  | within (timeout : Option Duration) (h : r.readsClock = true) {place : Interplay τ σ}
      (hplace : Interplay.Step (fun _ => True) c.place place) {copies : Queues τ}
      (hcopied : c.place.phase = .copied copies) {report : CycleReport τ}
      (hworked : place.phase = .worked report) (early late : List (τ × Bytes))
      (harrivals : report.receive = copies.receive.pushAll (early ++ late)) (now : τ) :
    Begins r c
      ⟨⟨place, c.readings ++ early.map Prod.fst ++ now :: late.map Prod.fst⟩, now,
        (copies.receive.pushAll early).stamped late, r.begin now timeout,
        c.place.conn.receive⟩

/-- What can happen next. -/
inductive Step (r : Request τ) (v : Vigil τ σ) : Vigil τ σ → Prop
  /-- Something else happens to the connection. -/
  | meanwhile {c : Chronicle τ σ} {arrived : List (Frame τ)}
      (h : v.toChronicle.Step arrived c) :
    Step r v { v with toChronicle := c, since := v.since ++ arrived }
  /-- Time passes. -/
  | wait (waited : Duration) : Step r v { v with call := { v.call with waited := waited } }
  /-- The caller looks at the history. -/
  | look (h : v.call.isSettled = false) :
    Step r v { v with call := v.call.lookOnce v.place.conn, seen := v.place.conn.receive }
  /-- A caller who has values to send gives up without a look. -/
  | giveUp (h : v.call.isSettled = false) (hsends : r.sends = true) :
    Step r v { v with call := v.call.settle none }

variable {r : Request τ} {c : Chronicle τ σ} {v w : Vigil τ σ} {p : τ → Prop}

/-! ## what arrives later -/

/-- A history is in order, and what it holds was stamped before the call began or has arrived
since. -/
structure Held (r : Request τ) (v : Vigil τ σ) (q : ReceiveQueue τ) : Prop where
  inOrder : q.InOrder (· ∈ v.readings)
  before : r.readsClock = true →
    ∀ f ∈ q.toList, Reading.le f.timestamp v.mark = true ∨ f ∈ v.since

/-- What is known while a caller waits. -/
structure Kept (r : Request τ) (v : Vigil τ σ) : Prop where
  marked : r.readsClock = true → v.mark ∈ v.readings
  histories : v.place.Holds (Held r v)
  seen : Held r v v.seen
  wanted : v.call.wanted = r.wanted v.mark
  found : ∀ f, v.call.outcome = some (some f) → v.call.wanted.find? v.seen = some f
  missed : v.call.outcome = some none → r.sends = false → v.call.wanted.find? v.seen = none

omit [CustomCycle τ Mock.Line σ] in
/-- What was stamped before the call began is not later than that. -/
theorem Held.of_before {readings : List τ} (hreadings : ∀ t ∈ readings, t ∈ v.readings)
    (hbefore : ∀ t ∈ readings, Reading.le t v.mark = true) {q : ReceiveQueue τ}
    (h : q.InOrder (· ∈ readings)) : Held r v q :=
  ⟨h.mono hreadings, fun _ f hf => .inl (hbefore _ (h.readings f hf))⟩

omit [CustomCycle τ Mock.Line σ] in
theorem Held.empty (q : ReceiveQueue τ) : Held r v q.clear :=
  ⟨q.inOrder_clear _, fun _ _ h => absurd h List.not_mem_nil⟩

omit [CustomCycle τ Mock.Line σ] in
/-- What arrives in a history has arrived since the call began. -/
theorem Held.pushAll {q : ReceiveQueue τ} (h : Held r v q) (hp : Reading.Ordered (· ∈ v.readings))
    {arrivals : List (τ × Bytes)} (hreadings : ∀ a ∈ arrivals, a.1 ∈ v.readings)
    (hsince : ∀ f ∈ q.stamped arrivals, f ∈ v.since) : Held r v (q.pushAll arrivals) := by
  refine ⟨h.inOrder.pushAll hp hreadings, fun hreads f hf => ?_⟩
  obtain hold | hnew := ReceiveQueue.mem_pushAll hf
  · exact h.before hreads f hold
  · exact .inr (hsince f hnew)

omit [CustomCycle τ Mock.Line σ] in
/-- A call has begun, and what was held before is held. -/
theorem Kept.of_begin (hsorted : c.Sorted) {timeout : Option Duration}
    (hcall : v.call = r.begin v.mark timeout) (hseen : v.seen = c.place.conn.receive)
    (hmarked : r.readsClock = true → v.mark ∈ v.readings)
    (hheld : ∀ q : ReceiveQueue τ, q.InOrder (· ∈ c.readings) → Held r v q)
    (hplace : c.place.Holds (Held r v) → v.place.Holds (Held r v)) : v.Kept r := by
  have hbefore : c.place.Holds (Held r v) := Interplay.Holds.imp hsorted hheld
  refine ⟨hmarked, hplace hbefore, hseen ▸ hbefore.live, ?_, ?_, ?_⟩
  · rw [hcall]
    rfl
  · rw [hcall]
    exact nofun
  · rw [hcall]
    exact nofun

theorem Begins.kept (hp : Reading.Ordered (· ∈ v.readings)) (hsorted : c.Sorted)
    (hmono : v.readings.Pairwise fun s t => Reading.le s t = true) (h : Begins r c v) :
    v.Kept r := by
  cases h with
  | unread timeout hreads mark =>
    have hnot : r.readsClock ≠ true := Bool.eq_false_iff.mp hreads
    exact .of_begin hsorted rfl rfl (fun h => absurd h hnot)
      (fun q hq => ⟨hq, fun h => absurd h hnot⟩) id
  | between timeout hreads =>
    obtain ⟨-, -, hbefore⟩ := List.pairwise_append.mp hmono
    refine .of_begin hsorted rfl rfl (fun _ => List.mem_append_right _ List.mem_cons_self)
      (fun q hq => .of_before (fun t => List.mem_append_left _) (fun t ht => ?_) hq)
      (fun hheld => hheld.of_phase rfl hheld.live)
    exact hbefore t ht _ List.mem_cons_self
  | @within timeout hreads place hplace copies hcopied report hworked early late harrivals now =>
    obtain ⟨-, -, hbefore⟩ := List.pairwise_append.mp hmono
    have hmark := fun t ht => hbefore t ht now List.mem_cons_self
    refine .of_begin hsorted rfl rfl (fun _ => List.mem_append_right _ List.mem_cons_self)
      (fun q hq => .of_before (fun t ht => List.mem_append_left _ (List.mem_append_left _ ht))
        (fun t ht => hmark t (List.mem_append_left _ ht)) hq) fun hheld => ?_
    refine hheld.change (fun q _ => .empty q) hplace.change fun copies' report' hi hj => ?_
    cases hcopied.symm.trans hi
    cases hworked.symm.trans hj
    -- the frames that arrived before the clock was read are as old as those that were copied
    have hearly : (copies.receive.pushAll early).InOrder
        (· ∈ c.readings ++ early.map Prod.fst) := by
      refine ((hsorted.copied _ hcopied).mono fun t => List.mem_append_left _).pushAll
        (hp.mono fun t => List.mem_append_left _) fun a ha => ?_
      exact List.mem_append_right _ (List.mem_map_of_mem ha)
    rw [harrivals, ReceiveQueue.pushAll_append]
    refine Held.pushAll (.of_before (fun t => List.mem_append_left _) hmark hearly) hp
      (fun a ha => ?_) fun f hf => hf
    exact List.mem_append_right _ (List.mem_cons_of_mem _ (List.mem_map_of_mem ha))

/-! ## while a caller waits -/

/-- Readings are only added. -/
theorem Step.readings_prefix (h : Step r v w) : v.readings <+: w.readings := by
  cases h with
  | meanwhile h => exact h.readings_prefix
  | wait => exact List.prefix_refl _
  | look => exact List.prefix_refl _
  | giveUp => exact List.prefix_refl _

omit [CustomCycle τ Mock.Line σ] in
/-- Only the caller does something. -/
theorem Kept.caller (h : v.Kept r) {k : Call τ} {seen : ReceiveQueue τ} (hseen : Held r v seen)
    (hwanted : k.wanted = r.wanted v.mark)
    (hfound : ∀ f, k.outcome = some (some f) → k.wanted.find? seen = some f)
    (hmissed : k.outcome = some none → r.sends = false → k.wanted.find? seen = none) :
    Kept r { v with call := k, seen := seen } :=
  ⟨h.marked, h.histories.imp fun _ hq => ⟨hq.inOrder, hq.before⟩, ⟨hseen.inOrder, hseen.before⟩,
    hwanted, hfound, hmissed⟩

theorem Kept.step (hp : Reading.Ordered (· ∈ w.readings)) (h : v.Kept r) (hstep : Step r v w) :
    w.Kept r := by
  cases hstep with
  | @meanwhile c arrived hstep =>
    have hreadings := hstep.readings_prefix.subset
    have hmore : ∀ q, Held r v q →
        Held r { v with toChronicle := c, since := v.since ++ arrived } q := fun q hq =>
      ⟨hq.inOrder.mono fun t ht => hreadings ht, fun hreads f hf =>
        (hq.before hreads f hf).imp_right (List.mem_append_left _)⟩
    refine ⟨fun hreads => hreadings (h.marked hreads), ?_, hmore _ h.seen, h.wanted, h.found,
      h.missed⟩
    refine hstep.holds (h.histories.imp hmore) (fun q _ => .empty q)
      fun q arrivals hq hnew hall => ?_
    exact hq.pushAll hp hall fun f hf => List.mem_append_right _ (hnew ▸ hf)
  | wait waited => exact h.caller h.seen h.wanted h.found h.missed
  | look hopen =>
    have hwanted := Call.wanted_lookOnce hopen v.place.conn
    refine h.caller h.histories.live (hwanted.trans h.wanted) ?_ ?_
    · intro f hf
      rw [hwanted]
      exact Call.find?_of_lookOnce hopen hf
    · intro hnone _
      rw [hwanted]
      exact Call.find?_of_lookOnce hopen hnone
  | giveUp hopen hsends =>
    exact h.caller h.seen h.wanted nofun fun _ hnot =>
      absurd (hsends.symm.trans hnot) Bool.noConfusion

theorem Kept.run (hrun : Relation.ReflTransGen (Step r) v w)
    (hp : Reading.Ordered (· ∈ w.readings)) (h : v.Kept r) : w.Kept r := by
  induction hrun with
  | refl => exact h
  | tail _ hstep ih =>
    have hbefore := hp.mono fun t ht => hstep.readings_prefix.subset ht
    exact (ih hbefore).step hp hstep

/-! ## calls -/

/-- Something happens to the connection, and no cycle works meanwhile. -/
theorem aside_run {place : Interplay τ σ} (h : v.place.Aside place) :
    Relation.ReflTransGen (Step r) v { v with place := place } := by
  induction h with
  | refl => exact .refl
  | @tail place place' _ hlast ih =>
    obtain ⟨hstep, hphase, -⟩ := hlast
    have hmeanwhile := Step.meanwhile (r := r) (v := { v with place := place })
      (.quiet hstep fun report => hphase ▸ id)
    rw [List.append_nil] at hmeanwhile
    exact ih.tail hmeanwhile

/-- To send values again and to look behind that is something that a caller may do who has values
to send. -/
theorem sendAgain_run (hsends : r.sends = true) (hopen : v.call.isSettled = false)
    (values : List SendValue) :
    ∃ w, Relation.ReflTransGen (Step r) v w ∧
      (w.call, w.place.conn) = v.call.sendAgain values v.place.conn := by
  unfold Call.sendAgain
  cases hup : v.place.conn.isConnected with
  | false => exact ⟨_, .single (.giveUp hopen hsends), rfl⟩
  | true =>
    obtain ⟨place, haside, hconn⟩ := v.place.sendValues_aside values .default
    have hsent := aside_run (r := r) haside
    rw [if_pos rfl]
    cases hsend : v.place.conn.sendValues values .default with
    | mk accepted sent =>
      rw [hsend] at hconn
      obtain rfl : place.conn = sent := hconn
      cases hlate : v.call.isLate with
      | true => exact ⟨_, hsent.tail (.giveUp hopen hsends), rfl⟩
      | false =>
        refine ⟨_, hsent.tail (.look hopen), ?_⟩
        rw [Call.lookOnce_of_not_late hopen hlate]
        rfl

/-- A window that passes until the values are sent again is part of what a caller may do. -/
theorem passWindow_run (hsends : r.sends = true) (hopen : v.call.isSettled = false)
    (values : List SendValue) :
    ∃ w, Relation.ReflTransGen (Step r) v w ∧
      (w.call, w.place.conn) = v.call.passWindow values v.place.conn := by
  obtain ⟨w, hrun, hcall⟩ := sendAgain_run
    (v := { v with call := { v.call with waited := v.call.waited + v.call.window v.place.conn } })
    hsends hopen values
  exact ⟨w, .head (.wait _) hrun, hcall⟩

/-- A call of a connection is the beginning of such a wait. -/
theorem call_run (c : Chronicle τ σ) (r : Request τ) :
    ∃ v w, Begins r c v ∧ Relation.ReflTransGen (Step r) v w ∧
      (w.call, w.place.conn) = c.place.conn.call r := by
  match r with
  | .next => exact ⟨_, _, .between c.place.conn.timeout rfl, .single (.look rfl), rfl⟩
  | .response expected (some after) =>
    exact ⟨_, _, .unread c.place.conn.timeout rfl after, .single (.look rfl), rfl⟩
  | .response expected none =>
    exact ⟨_, _, .between c.place.conn.timeout rfl, .single (.look rfl), rfl⟩
  | .exchange expected values =>
    obtain ⟨w, hrun, hcall⟩ := sendAgain_run (r := .exchange expected values)
      (v := c.watch (.exchange expected values) c.place.conn.timeout) rfl rfl values
    exact ⟨_, w, .between c.place.conn.timeout rfl, hrun, hcall⟩
  | .firstAfter values =>
    obtain ⟨place, haside, hconn⟩ := c.readClock.place.sendValues_aside values .default
    have hsent := aside_run (r := .firstAfter values)
      (v := c.watch (.firstAfter values) place.conn.timeout) haside
    have hbegin : Begins (.firstAfter values) c _ := .between place.conn.timeout rfl
    unfold Connection.call
    dsimp only
    cases hsend : { c.place.conn with clock := c.place.conn.clock.read.2 }.sendValues values
        .default with
    | mk accepted sent =>
      obtain rfl : place.conn = sent := hconn.trans (congrArg Prod.snd hsend)
      cases accepted with
      | true => exact ⟨_, _, hbegin, hsent.tail (.look rfl), rfl⟩
      | false => exact ⟨_, _, hbegin, hsent.tail (.giveUp rfl rfl), rfl⟩

/-! ## answers -/

omit [CustomCycle τ Mock.Line σ] in
/-- A frame that is found has arrived since the call began. -/
theorem Kept.arrived (hp : Reading.Ordered (· ∈ v.readings)) (h : v.Kept r)
    (hreads : r.readsClock = true) {f : Frame τ} (hfound : v.call.outcome = some (some f)) :
    f ∈ v.since := by
  have hafter : (r.wanted v.mark).after = v.mark := by
    match r with
    | .next => rfl
    | .response _ none => rfl
    | .exchange _ _ => rfl
    | .firstAfter _ => rfl
  have hmem := Wanted.mem_of_find? (h.found f hfound)
  rw [h.wanted, hafter, ReceiveQueue.framesAfter_eq hp h.seen.inOrder (h.marked hreads),
    List.mem_filter] at hmem
  obtain ⟨hheld, hlater⟩ := hmem
  have hreading := h.seen.inOrder.readings f hheld
  refine (h.seen.before hreads f hheld).resolve_left ?_
  exact (hp.lt_iff (h.marked hreads) hreading).mp hlater

omit [CustomCycle τ Mock.Line σ] in
/-- A caller who waits for the next frame finds the oldest that is later than the beginning of
the call, if there is one. -/
theorem Kept.findAfter?_eq (hp : Reading.Ordered (· ∈ v.readings)) (h : v.Kept r)
    (hreads : r.readsClock = true) :
    v.seen.findAfter? v.mark = v.seen.toList.find? fun f => Reading.lt v.mark f.timestamp :=
  ReceiveQueue.findAfter?_eq hp h.seen.inOrder (h.marked hreads)

end Vigil

namespace Vigil

variable {σ : Type} [CustomCycle Float Mock.Line σ] {r : Request Float} {c : Chronicle Float σ}
  {v w : Vigil Float σ}

theorem Begins.readings_prefix (h : Begins r c v) : c.readings <+: v.readings := by
  cases h with
  | unread => exact List.prefix_refl _
  | between => exact List.prefix_append _ _
  | within => exact (List.prefix_append _ _).trans (List.prefix_append _ _)

theorem readings_prefix_of_run (hrun : Relation.ReflTransGen (Step r) v w) :
    v.readings <+: w.readings := by
  induction hrun with
  | refl => exact List.prefix_refl _
  | tail _ hstep ih => exact ih.trans hstep.readings_prefix

/-- The answer to a caller, when the readings of the clock are numbers that never decrease.  A
frame that is found has arrived since the call began; who asks for a frame is given the oldest
one later than that.  Who is given none saw none; who waits for a response and is given none
saw none that matches. -/
theorem answer_of_run (hc : c.Reachable) (hbegin : Begins r c v)
    (hrun : Relation.ReflTransGen (Step r) v w) (hnumbers : ∀ t ∈ w.readings, t.isNaN = false)
    (hmono : w.readings.Pairwise fun s t => s ≤ t) :
    (∀ f, w.call.outcome = some (some f) →
        (r.readsClock = true → f ∈ w.since) ∧
        (r.givesFrame = true → w.seen.toList.find? (fun g => w.mark < g.timestamp) = some f)) ∧
      (w.call.outcome = some none →
        (r = .next → ∀ f ∈ w.seen.toList, ¬ w.mark < f.timestamp) ∧
        ∀ expected after, r = .response expected after →
          ∀ f ∈ w.seen.toList, after.getD w.mark < f.timestamp →
            expected.accepts f.payload = false) := by
  have hp := Reading.ordered_float.mono hnumbers
  have hmore : v.readings <+: w.readings := readings_prefix_of_run hrun
  have hv := hp.mono fun t ht => hmore.subset ht
  have hsorted : c.Sorted := hc.sorted Reading.ordered_float fun t ht =>
    hnumbers t (hmore.subset (hbegin.readings_prefix.subset ht))
  have horder : v.readings.Pairwise fun s t => Reading.le s t = true :=
    (hmono.sublist hmore.sublist).imp fun hle => decide_eq_true hle
  have hkept : w.Kept r := (hbegin.kept hv hsorted horder).run hrun hp
  refine ⟨fun f hfound => ⟨fun hreads => hkept.arrived hp hreads hfound, fun hframe => ?_⟩,
    fun hnone => ⟨?_, ?_⟩⟩
  · have hfind := hkept.found f hfound
    rw [hkept.wanted] at hfind
    match r, hframe with
    | .next, _ => exact (hkept.findAfter?_eq hp rfl).symm.trans hfind
    | .firstAfter _, _ => exact (hkept.findAfter?_eq hp rfl).symm.trans hfind
  · rintro rfl f hf hlater
    have hfind := hkept.missed hnone rfl
    rw [hkept.wanted] at hfind
    have hall := (hkept.findAfter?_eq hp rfl).symm.trans hfind
    exact List.find?_eq_none.mp hall f hf (decide_eq_true hlater)
  · rintro expected after rfl f hf hlater
    have hfind := hkept.missed hnone rfl
    rw [hkept.wanted] at hfind
    have hmem : f ∈ w.seen.framesAfter (after.getD w.mark) :=
      ReceiveQueue.mem_framesAfter (hkept.seen.inOrder.mono hnumbers) hf hlater
    exact Bool.eq_false_iff.mpr (List.find?_eq_none.mp hfind f hmem)

/-- The counter receives its first number before the call begins and its second one after that. -/
theorem answer_of_run_counter :
    ∃ (c : Chronicle Float SampleCycle) (v w : Vigil Float SampleCycle),
      c.Reachable ∧ Begins .next c v ∧ Relation.ReflTransGen (Step .next) v w ∧
      (∀ t ∈ w.readings, t.isNaN = false) ∧ (w.readings.Pairwise fun s t => s ≤ t) ∧
      w.seen.payloads = ["1", "2"].map Text.Utf8.bytes ∧
      ∃ f, w.call.outcome = some (some f) ∧ f.payload = Text.Utf8.bytes "2" ∧ f ∈ w.since ∧
        w.seen.toList.find? (fun g => w.mark < g.timestamp) = some f := by
  have hcreate : Connection.create (.ofPorts ["A"]) (.ofPorts ["A"]) (.fixed (5.0 : Float))
      (some (.custom (SampleCycle.counter 1))) = .ok _ := rfl
  have hclock (t : Float) : (Clock.fixed t).All fun _ => True := ⟨trivial, fun _ _ => trivial⟩
  have hstart {c : Chronicle Float SampleCycle} (_ : c.Reachable) : Begins .next c _ :=
    .between none rfl
  have hwait {c : Chronicle Float SampleCycle} {v} (_ : Begins .next c v) :
    Relation.ReflTransGen (Step .next) v v := .refl
  have h₀ : Chronicle.Reachable _ := .create hcreate
  have h₁ := h₀.step (.quiet (.connect _ rfl (.begin _ []) rfl) nofun)
  have h₂ := h₁.step (.quiet (.copy _ rfl rfl) nofun)
  have h₃ := h₂.step (.work (.work _ rfl rfl [] (fun _ h => h.eq_take.symm) (hclock 5.0)) rfl rfl
    [(5.0, Text.Utf8.bytes "1")] rfl)
  have h₄ := (h₃.step (.quiet (.settle _ rfl nofun) nofun)).step (.quiet (.conclude _ rfl) nofun)
  have hbegin := hstart h₄
  have s₁ := (hwait hbegin).tail (.meanwhile (.quiet (.clock _ (hclock 6.0)) nofun))
  have s₂ := s₁.tail (.meanwhile (.quiet (.copy _ rfl rfl) nofun))
  have s₃ := s₂.tail (.meanwhile (.work (.work _ rfl rfl [] (fun _ h => h.eq_take.symm)
    (hclock 6.0)) rfl rfl [(6.0, Text.Utf8.bytes "2")] rfl))
  have s₄ := (s₃.tail (.meanwhile (.quiet (.settle _ rfl nofun) nofun))).tail (.look rfl)
  have hnumbers : ∀ t ∈ ([5.0, 5.0, 6.0] : List Float), t.isNaN = false := by decide +kernel
  have hmono : ([5.0, 5.0, 6.0] : List Float).Pairwise fun s t => s ≤ t := by decide +kernel
  have hframe {outcome : Option (Option (Frame Float))} {P : Frame Float → Prop}
      (hP : ∀ f, outcome = some (some f) → P f) (payload : Bytes)
      (h : outcome.map (Option.map Frame.payload) = some (some payload)) :
      ∃ f, outcome = some (some f) ∧ f.payload = payload ∧ P f := by
    obtain ⟨f', rfl, hf'⟩ := Option.map_eq_some_iff.mp h
    obtain ⟨f, rfl, hf⟩ := Option.map_eq_some_iff.mp hf'
    exact ⟨f, rfl, hf, hP f rfl⟩
  obtain ⟨f, hfound, hf, hanswer⟩ := hframe (answer_of_run h₄ hbegin s₄ hnumbers hmono).1
    (Text.Utf8.bytes "2") (by decide +kernel)
  exact ⟨_, _, _, h₄, hbegin, s₄, hnumbers, hmono, rfl, f, hfound, hf, hanswer.1 rfl,
    hanswer.2 rfl⟩

end Vigil

end SerialLink
