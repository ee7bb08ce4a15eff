import SerialLink.Proofs.Lifecycle
import SerialLink.Proofs.Samples
import SerialLink.Proofs.Search.Settings

/-!
# SerialLink.Proofs.Timeout

The timeout of a connection and that of its port.

1. A connection comes up on a port that was opened with the timeout that was set when the
   settings were read; what an earlier session left for the loop is left for it still
   (`Connection.pendingTimeout_of_perform`).
2. A timeout that is set while the connection is up is left for the loop, which passes it on
   at its next turn.  What the port will have then is due (`Connection.dueTimeout?`); only
   setting a timeout changes that.
3. What is left for the loop outlives the session.  If it was not passed on before the
   connection went down, the first turn of the next session does so, even if another timeout
   was set meanwhile.  And a timeout that is set after the settings were read, but before the
   loop starts, is not left for it.  So a port has the timeout of its connection unless its
   session began with another one left or on a port with another one
   (`Connection.portTimeout?_eq_iff`).
-/

namespace SerialLink

/-! ## devices -/

namespace Mock

namespace Provider

/-- A port that took a timeout has it. -/
theorem timeout_setTimeout {p : Provider} {h : Handle} {t : Option Duration}
    (hset : (p.setTimeout h t).1.isOk = true) : (p.setTimeout h t).2.timeout h = t := by
  unfold setTimeout through at hset ⊢
  cases hdevice : p.device? h.port with
  | none => rw [hdevice] at hset; cases hset
  | some d =>
    rw [hdevice] at hset
    refine (timeout_modify p h _).trans ?_
    rw [hdevice]
    dsimp only [Option.bind_some] at hset ⊢
    unfold Handle.setTimeout at hset ⊢
    cases hfault : h.fault? d with
    | some e => rw [hfault] at hset; cases hset
    | none => rfl

end Provider

theorem Line.timeout_write (l : Line) (payload : Bytes) :
    (Transport.write l payload).2.device.timeout = l.device.timeout := by
  show (l.handle.write l.device payload).2.timeout = _
  unfold Handle.write
  split
  · rfl
  · split
    · rfl
    · unfold Device.take
      dsimp only
      split <;> split <;> rfl

theorem Line.timeout_read (l : Line) :
    (Transport.read l).2.device.timeout = l.device.timeout := by
  show (l.handle.read l.device).2.timeout = _
  unfold Handle.read
  split <;> rfl

/-- To use a port does not change its timeout. -/
theorem Line.timeout_used {l m : Line} (h : Transport.Used l m) :
    m.device.timeout = l.device.timeout :=
  h.keeps (f := fun l : Line => l.device.timeout) timeout_write timeout_read

end Mock

/-! ## cycles -/

/-- A cycle in the place of the standard one leaves the timeout of the port alone. -/
def KeepsTimeout (τ σ : Type) [CustomCycle τ Mock.Line σ] : Prop :=
  ∀ (s : σ) (w : Workspace τ Mock.Line),
    (CustomCycle.run s w).2.2.device.device.timeout = w.device.device.timeout

theorem LoopCycle.timeout_run {τ σ : Type} [Reading τ] [CustomCycle τ Mock.Line σ]
    (hkeeps : KeepsTimeout τ σ) (cycle : LoopCycle σ) (elapsed : List Duration)
    (w : Workspace τ Mock.Line) :
    (cycle.run elapsed w).2.2.device.device.timeout = w.device.device.timeout := by
  cases cycle with
  | standard c => exact Mock.Line.timeout_used (c.used_run elapsed w)
  | custom s => exact hkeeps s w

theorem SampleCycle.keepsTimeout {τ : Type} [Reading τ] : KeepsTimeout τ SampleCycle :=
  fun s w => Mock.Line.timeout_used (s.used_run w)

/-! ## coming up -/

/-- The incidents of a deed that looks for a port. -/
def Deed.incidents {τ : Type} : Deed τ → List (Moment × Incident)
  | .connect incidents | .reconnect incidents .. | .poll incidents .. => incidents
  | _ => []

namespace Connection

variable {τ σ : Type} {c d : Connection τ σ}

/-- The timeout that the port will have after the next turn of the loop. -/
def dueTimeout? (c : Connection τ σ) : Option (Option Duration) :=
  c.pendingTimeout.or c.portTimeout?

variable [CustomCycle τ Mock.Line σ]

theorem Searched.pendingTimeout {opened : Bool} (h : c.Searched opened d) :
    d.pendingTimeout = c.pendingTimeout := by
  have hcleared : c.clearAway.pendingTimeout = c.pendingTimeout := by
    unfold clearAway
    split <;> rfl
  cases h with
  | refused => rfl
  | missed hdown hd =>
    exact (hd.pendingTimeout ((Search.isConnected_clearAway c).trans hdown)).trans hcleared
  | opened hdown hd handle =>
    exact (hd.pendingTimeout ((Search.isConnected_clearAway c).trans hdown)).trans hcleared

variable [Reading τ]

omit [CustomCycle τ Mock.Line σ] [Reading τ] in
theorem Routine.isConnected (h : c.Routine d) : d.isConnected = c.isConnected := by
  rw [h.eq]
  rfl

theorem turnDuring_of_down (hdown : c.isConnected = false) (elapsed : List Duration) :
    c.turnDuring elapsed = (.idle, c) := by
  have hrest : c.applyTimeout = c := by
    unfold isConnected at hdown
    unfold applyTimeout
    cases hloop : c.loop with
    | stopped => rfl
    | ended => rfl
    | running => rw [hloop] at hdown; cases hdown
  unfold turnDuring
  dsimp only
  rw [hrest, runCycle_of_down hdown]

/-- The connection came up, in a search like this. -/
structure CameUp (c : Connection τ σ) (incidents : List (Moment × Incident))
    (d : Connection τ σ) : Prop where
  pendingTimeout : d.pendingTimeout = c.pendingTimeout
  port : (∀ e ∈ incidents, e.2.inTime e.1 = true) → d.portTimeout? = some d.timeout
  timeout : (∀ e ∈ incidents, e.2.setsTimeout = false) → d.timeout = c.timeout

omit [Reading τ] in
theorem cameUp_of_reconnect (hdown : c.isConnected = false) {incidents : List (Moment × Incident)}
    {timeout : Option Duration} {elapsed : Nat → Duration} {scans : Nat}
    (hup : ((Search.begin c incidents).reconnect timeout elapsed scans).2.conn.isConnected =
      true) :
    c.CameUp incidents ((Search.begin c incidents).reconnect timeout elapsed scans).2.conn := by
  have hsearch := (Search.begin c incidents).reconnect_searched timeout elapsed scans
  exact ⟨hsearch.pendingTimeout,
    Search.portTimeout?_reconnect hdown (hsearch.opened_of_up hdown hup),
    ((Search.begin c incidents).reconnect_still timeout elapsed scans).timeout⟩

/-- A deed that brings the connection up is a search. -/
theorem cameUp_of_perform {deed : Deed τ} (hdown : c.isConnected = false)
    (hup : (c.perform deed).isConnected = true) : c.CameUp deed.incidents (c.perform deed) := by
  have hstays (h : (c.perform deed).isConnected = c.isConnected) :
      c.CameUp deed.incidents (c.perform deed) := by
    rw [h, hdown] at hup
    cases hup
  cases deed with
  | connect incidents =>
    have hsearch := (Search.begin c incidents).connect_searched
    exact ⟨hsearch.pendingTimeout,
      Search.portTimeout?_connect hdown (hsearch.opened_of_up hdown hup),
      (Search.begin c incidents).connect_still.timeout⟩
  | reconnect incidents timeout elapsed scans => exact cameUp_of_reconnect hdown hup
  | poll incidents v elapsed scans =>
    obtain hpoll | hpoll := poll_of_down hdown incidents v elapsed scans
    · exact hstays (congrArg isConnected hpoll)
    · rw [hpoll] at hup ⊢
      exact cameUp_of_reconnect hdown hup
  | disconnect => exact hstays ((c.isConnected_bringDown _ _).trans hdown.symm)
  | turn elapsed =>
    exact hstays (congrArg (fun r => isConnected (Prod.snd r)) (turnDuring_of_down hdown elapsed))
  | send values options => exact hstays (c.sendValues_routine values options).isConnected
  | receive offset => exact hstays (c.receiveAt_routine offset).isConnected
  | call request => exact hstays (c.call_routine request).isConnected
  | setTimeout => exact hstays rfl
  | setSendInterval => exact hstays rfl
  | collect => exact hstays rfl
  | devices => exact hstays rfl
  | clock => exact hstays rfl

end Connection

/-! ## sessions -/

/-- The deed sets the timeout. -/
def Deed.setsTimeout {τ : Type} : Deed τ → Bool
  | .setTimeout _ => true
  | _ => false

namespace Connection

variable {τ σ : Type} {b c d : Connection τ σ} [CustomCycle τ Mock.Line σ] [Reading τ]

/-- The port takes the timeout that the loop passes on, and nobody else changes it. -/
def Obeys (c : Connection τ σ) : Deed τ → Prop
  | .turn _ => ∀ h ∈ c.loop.handle?, ∀ t ∈ c.pendingTimeout,
    (c.bench.provider.setTimeout h t).1.isOk = true
  | .devices bench => ∀ h ∈ c.loop.handle?,
    bench.provider.timeout h = c.bench.provider.timeout h
  | _ => True

instance (c : Connection τ σ) (deed : Deed τ) : Decidable (c.Obeys deed) :=
  match deed with
  | .turn _ => inferInstanceAs (Decidable (∀ h ∈ c.loop.handle?, ∀ t ∈ c.pendingTimeout,
    (c.bench.provider.setTimeout h t).1.isOk = true))
  | .devices bench => inferInstanceAs (Decidable (∀ h ∈ c.loop.handle?,
    bench.provider.timeout h = c.bench.provider.timeout h))
  | .connect _ | .reconnect .. | .disconnect | .poll .. | .send .. | .receive _ | .call _
  | .setTimeout _ | .setSendInterval _ | .collect | .clock _ => .isTrue trivial

/-- The connection is up and stays so, and its port obeys. -/
def Lasts (c : Connection τ σ) : List (Deed τ) → Prop
  | [] => c.isConnected = true
  | deed :: deeds => c.isConnected = true ∧ c.Obeys deed ∧ (c.perform deed).Lasts deeds

instance decidableLasts : (c : Connection τ σ) → (deeds : List (Deed τ)) →
    Decidable (c.Lasts deeds)
  | c, [] => inferInstanceAs (Decidable (c.isConnected = true))
  | c, deed :: deeds =>
    have := decidableLasts (c.perform deed) deeds
    inferInstanceAs (Decidable (c.isConnected = true ∧ c.Obeys deed ∧
      (c.perform deed).Lasts deeds))

theorem Lasts.isConnected {deeds : List (Deed τ)} (h : c.Lasts deeds) : c.isConnected = true := by
  cases deeds with
  | nil => exact h
  | cons deed deeds => exact h.1

/-! ### turns -/

/-- The timeouts are what they were. -/
structure SameTimeouts (c d : Connection τ σ) : Prop where
  timeout : d.timeout = c.timeout
  pendingTimeout : d.pendingTimeout = c.pendingTimeout
  port : d.portTimeout? = c.portTimeout?

/-- Nothing is left for the loop: the port has the timeout that was due. -/
structure PassedOn (c d : Connection τ σ) : Prop where
  timeout : d.timeout = c.timeout
  pendingTimeout : d.pendingTimeout = none
  port : d.portTimeout? = c.dueTimeout?

/-- No timeout was set: what is due is what was due, and nothing more is left for the loop. -/
structure SameDue (c d : Connection τ σ) : Prop where
  timeout : d.timeout = c.timeout
  due : d.dueTimeout? = c.dueTimeout?
  pendingTimeout : c.pendingTimeout = none → d.pendingTimeout = none

section

omit [CustomCycle τ Mock.Line σ] [Reading τ]

theorem SameTimeouts.sameDue (h : c.SameTimeouts d) : c.SameDue d :=
  ⟨h.timeout, by rw [dueTimeout?, h.pendingTimeout, h.port, dueTimeout?], h.pendingTimeout.trans⟩

theorem PassedOn.trans (h : b.PassedOn c) (h' : c.SameTimeouts d) : b.PassedOn d :=
  ⟨h'.timeout.trans h.timeout, h'.pendingTimeout.trans h.pendingTimeout, h'.port.trans h.port⟩

theorem PassedOn.sameDue (h : c.PassedOn d) : c.SameDue d :=
  ⟨h.timeout, by rw [dueTimeout?, h.pendingTimeout, h.port, Option.none_or],
    fun _ => h.pendingTimeout⟩

theorem SameDue.refl (c : Connection τ σ) : c.SameDue c :=
  ⟨rfl, rfl, id⟩

theorem SameDue.trans (h : b.SameDue c) (h' : c.SameDue d) : b.SameDue d :=
  ⟨h'.timeout.trans h.timeout, h'.due.trans h.due, fun hnone =>
    h'.pendingTimeout (h.pendingTimeout hnone)⟩

theorem Routine.sameTimeouts (h : c.Routine d) : c.SameTimeouts d := by
  rw [h.eq]
  exact ⟨rfl, rfl, rfl⟩

theorem applyTimeout_passedOn {elapsed : List Duration} (hup : c.isConnected = true)
    (hobeys : c.Obeys (.turn elapsed)) : c.PassedOn c.applyTimeout := by
  obtain ⟨h, cycle, hloop⟩ := exists_loop_of_isConnected hup
  have hhandle : c.loop.handle? = some h := by rw [hloop]; rfl
  unfold applyTimeout
  cases hpending : c.pendingTimeout with
  | none =>
    rw [hloop]
    exact ⟨rfl, hpending, by rw [dueTimeout?, hpending, Option.none_or]⟩
  | some t =>
    have htaken := Mock.Provider.timeout_setTimeout (hobeys h hhandle t hpending)
    rw [hloop]
    refine ⟨rfl, rfl, ?_⟩
    show c.loop.handle?.map (c.bench.provider.setTimeout h t).2.timeout = c.dueTimeout?
    rw [hhandle, Option.map_some, htaken, dueTimeout?, hpending, Option.some_or]

theorem settle_sameTimeouts (c : Connection τ σ) (report : CycleReport τ) :
    c.SameTimeouts (c.settle report) := by
  unfold settle
  split
  · exact ⟨rfl, rfl, rfl⟩
  · exact ⟨rfl, rfl, rfl⟩

end

theorem runCycle_sameTimeouts (hkeeps : KeepsTimeout τ σ) (c : Connection τ σ)
    (copies : Queues τ) (elapsed : List Duration) :
    c.SameTimeouts (c.runCycle copies elapsed).2 := by
  cases hup : c.isConnected with
  | false =>
    rw [runCycle_of_down hup]
    exact ⟨rfl, rfl, rfl⟩
  | true =>
    obtain ⟨h, cycle, hloop⟩ := exists_loop_of_isConnected hup
    have hrun := runCycle_of_loop hloop copies elapsed
    have hkept := cycle.timeout_run hkeeps elapsed ⟨c.line h, copies.send, copies.receive, c.clock⟩
    dsimp only at hrun
    rw [hrun]
    refine ⟨rfl, rfl, ?_⟩
    unfold portTimeout?
    rw [hloop]
    refine congrArg some ((Mock.Provider.timeout_modify _ h _).trans ?_)
    rw [hkept]
    unfold Mock.Provider.timeout line
    cases c.bench.provider.device? h.port with
    | none => rfl
    | some device => rfl

omit [CustomCycle τ Mock.Line σ] [Reading τ] in
theorem conclude_completed_iff (c : Connection τ σ) (result : Except CycleFault Unit) :
    (c.conclude result).1 = .completed ↔ (c.conclude result).2.isConnected = true := by
  unfold conclude
  cases hloop : c.loop with
  | stopped => simp [isConnected, hloop, Loop.isRunning]
  | ended => simp [isConnected, hloop, Loop.isRunning]
  | running handle cycle =>
    cases result with
    | ok u => simp [isConnected, hloop, Loop.isRunning]
    | error fault =>
      cases fault with
      | failed e => simp [isConnected, Loop.isRunning, publish]
      | aborted => simp [isConnected, Loop.isRunning]

/-- A turn is completed exactly if the connection is up after it. -/
theorem turnDuring_completed_iff (c : Connection τ σ) (elapsed : List Duration) :
    (c.turnDuring elapsed).1 = .completed ↔ (c.turnDuring elapsed).2.isConnected = true := by
  cases hup : c.isConnected with
  | false => simp [turnDuring_of_down hup, hup]
  | true =>
    have hstill : c.applyTimeout.isConnected = true := c.applyTimeout_calm.1.isConnected.trans hup
    obtain ⟨handle, cycle, hloop⟩ := exists_loop_of_isConnected hstill
    have hrun := runCycle_of_loop hloop c.applyTimeout.toQueues elapsed
    unfold turnDuring
    dsimp only at hrun ⊢
    rw [hrun]
    exact conclude_completed_iff _ _

/-- A turn passes on what was left for the loop. -/
theorem turnDuring_passedOn (hkeeps : KeepsTimeout τ σ) {elapsed : List Duration}
    (hup : c.isConnected = true) (hobeys : c.Obeys (.turn elapsed))
    (hafter : (c.turnDuring elapsed).2.isConnected = true) :
    c.PassedOn (c.turnDuring elapsed).2 := by
  have hrun := (applyTimeout_passedOn hup hobeys).trans
    (c.applyTimeout.runCycle_sameTimeouts hkeeps c.applyTimeout.toQueues elapsed)
  unfold turnDuring at hafter ⊢
  dsimp only at hafter ⊢
  cases hresult : c.applyTimeout.runCycle c.applyTimeout.toQueues elapsed with
  | mk report d =>
    rw [hresult] at hafter hrun
    cases report with
    | none => exact hrun
    | some report =>
      dsimp only at hafter ⊢
      rw [conclude_of_isConnected hafter]
      exact hrun.trans (d.settle_sameTimeouts report)

/-! ### deeds -/

/-- As long as the connection is up and no timeout is set, what is due stays the same. -/
theorem perform_sameDue (hkeeps : KeepsTimeout τ σ) {deed : Deed τ} (hup : c.isConnected = true)
    (hobeys : c.Obeys deed) (hafter : (c.perform deed).isConnected = true)
    (hunset : deed.setsTimeout = false) : c.SameDue (c.perform deed) := by
  cases deed with
  | connect incidents =>
    have hsame : c.perform (.connect incidents) = c :=
      (Search.begin c incidents).connect_searched.eq_of_up hup
    rw [hsame]
    exact .refl c
  | reconnect incidents timeout elapsed scans =>
    have hsame : c.perform (.reconnect incidents timeout elapsed scans) = c :=
      ((Search.begin c incidents).reconnect_searched timeout elapsed scans).eq_of_up hup
    rw [hsame]
    exact .refl c
  | disconnect =>
    have hdown : (c.perform .disconnect).isConnected = false := c.isConnected_bringDown _ _
    rw [hafter] at hdown
    cases hdown
  | poll incidents v elapsed scans =>
    obtain hpoll | ⟨hpoll, -⟩ := poll_of_up hup incidents v elapsed scans
    · rw [hpoll]
      exact .refl c
    · have hdown : (c.disconnect .portRemoved).isConnected = false := c.isConnected_bringDown _ _
      rw [← hpoll, hafter] at hdown
      cases hdown
  | turn elapsed => exact (turnDuring_passedOn hkeeps hup hobeys hafter).sameDue
  | send values options => exact (c.sendValues_routine values options).sameTimeouts.sameDue
  | receive offset => exact (c.receiveAt_routine offset).sameTimeouts.sameDue
  | call request => exact (c.call_routine request).sameTimeouts.sameDue
  | setTimeout => cases hunset
  | setSendInterval => exact ⟨rfl, rfl, id⟩
  | collect => exact ⟨rfl, rfl, id⟩
  | devices bench =>
    obtain ⟨h, cycle, hloop⟩ := exists_loop_of_isConnected hup
    have hkept : bench.provider.timeout h = c.bench.provider.timeout h :=
      hobeys h (by rw [hloop]; rfl)
    refine SameTimeouts.sameDue ⟨rfl, rfl, ?_⟩
    show c.loop.handle?.map bench.provider.timeout = c.loop.handle?.map c.bench.provider.timeout
    rw [hloop]
    exact congrArg some hkept
  | clock => exact ⟨rfl, rfl, id⟩

omit [CustomCycle τ Mock.Line σ] [Reading τ] in
/-- A timeout that is set while the connection is up is due. -/
theorem dueTimeout?_setTimeout (hup : c.isConnected = true) (timeout : Option Duration) :
    (c.setTimeout timeout).dueTimeout? = some timeout := by
  simp [setTimeout, dueTimeout?, hup]

/-- As long as no timeout is set, what is due stays the same. -/
theorem Lasts.sameDue (hkeeps : KeepsTimeout τ σ) {deeds : List (Deed τ)} (h : c.Lasts deeds)
    (hunset : ∀ deed ∈ deeds, deed.setsTimeout = false) : c.SameDue (c.performAll deeds) := by
  induction deeds generalizing c with
  | nil => exact .refl c
  | cons deed deeds ih =>
    obtain ⟨hup, hobeys, hrest⟩ := h
    obtain ⟨hfirst, hlater⟩ := List.forall_mem_cons.mp hunset
    exact (perform_sameDue hkeeps hup hobeys hrest.isConnected hfirst).trans (ih hrest hlater)

/-- Once the timeout of the connection is due, it stays so: another one that is set is due
at once. -/
theorem Lasts.due (hkeeps : KeepsTimeout τ σ) {deeds : List (Deed τ)} (h : c.Lasts deeds)
    (hdue : c.dueTimeout? = some c.timeout) :
    (c.performAll deeds).dueTimeout? = some (c.performAll deeds).timeout := by
  induction deeds generalizing c with
  | nil => exact hdue
  | cons deed deeds ih =>
    obtain ⟨hup, hobeys, hrest⟩ := h
    refine ih hrest ?_
    cases hset : deed.setsTimeout with
    | false =>
      have hsame := perform_sameDue hkeeps hup hobeys hrest.isConnected hset
      rw [hsame.due, hsame.timeout, hdue]
    | true =>
      cases deed with
      | setTimeout timeout => exact dueTimeout?_setTimeout hup timeout
      | _ => cases hset

theorem Lasts.due_of_set (hkeeps : KeepsTimeout τ σ) {deeds : List (Deed τ)} (h : c.Lasts deeds)
    {deed : Deed τ} (hmem : deed ∈ deeds) (hset : deed.setsTimeout = true) :
    (c.performAll deeds).dueTimeout? = some (c.performAll deeds).timeout := by
  induction deeds generalizing c with
  | nil => cases hmem
  | cons first deeds ih =>
    obtain ⟨hup, hobeys, hrest⟩ := h
    cases hmem with
    | tail _ hlater => exact ih hrest hlater
    | head =>
      refine hrest.due hkeeps ?_
      cases deed with
      | setTimeout timeout => exact dueTimeout?_setTimeout hup timeout
      | _ => cases hset

theorem Lasts.of_append {deeds deeds' : List (Deed τ)} (h : c.Lasts (deeds ++ deeds')) :
    c.Lasts deeds ∧ (c.performAll deeds).Lasts deeds' := by
  induction deeds generalizing c with
  | nil => exact ⟨h.isConnected, h⟩
  | cons deed deeds ih =>
    obtain ⟨hup, hobeys, hrest⟩ := h
    obtain ⟨hdeeds, hlater⟩ := ih hrest
    exact ⟨⟨hup, hobeys, hdeeds⟩, hlater⟩

/-- When a turn has been completed since the timeout was last set, the port has the timeout that
was due before the turn. -/
theorem Lasts.passedOn (hkeeps : KeepsTimeout τ σ) {elapsed : List Duration}
    {later : List (Deed τ)} (h : c.Lasts (.turn elapsed :: later))
    (hunset : ∀ deed ∈ later, deed.setsTimeout = false) :
    c.PassedOn (c.performAll (.turn elapsed :: later)) := by
  obtain ⟨hup, hobeys, hrest⟩ := h
  have hturn := turnDuring_passedOn hkeeps hup hobeys hrest.isConnected
  have hlater := hrest.sameDue hkeeps hunset
  have hnone := hlater.pendingTimeout hturn.pendingTimeout
  refine ⟨hlater.timeout.trans hturn.timeout, hnone, ?_⟩
  have hdue := hlater.due.trans hturn.sameDue.due
  rw [dueTimeout?, hnone, Option.none_or] at hdue
  exact hdue

/-- Let a connection come up, stay up, and complete a turn since which no timeout was set.  Then
the port has the timeout of the connection if and only if a timeout was set in the session, or,
when the session began, the timeout of the connection was left for the loop, or nothing was left
for it and the port had that timeout already.

The port has it when the session begins if, while the connection looked for the port, no timeout
was set between the moment when the settings were read and the start of the loop.  If none was
set at all meanwhile, the timeout of the connection is what it was before. -/
theorem portTimeout?_eq_iff (hkeeps : KeepsTimeout τ σ) (hdown : c.isConnected = false)
    {search : Deed τ} {before later : List (Deed τ)} {elapsed : List Duration}
    (hlasts : (c.perform search).Lasts (before ++ .turn elapsed :: later))
    (hunset : ∀ deed ∈ later, deed.setsTimeout = false) :
    let began := c.perform search
    let d := c.performAll (search :: before ++ .turn elapsed :: later)
    (d.portTimeout? = some d.timeout ↔
      (∃ deed ∈ before, deed.setsTimeout = true) ∨ c.pendingTimeout = some began.timeout ∨
        c.pendingTimeout = none ∧ began.portTimeout? = some began.timeout) ∧
    ((∀ e ∈ search.incidents, e.2.inTime e.1 = true) →
      began.portTimeout? = some began.timeout) ∧
    ((∀ e ∈ search.incidents, e.2.setsTimeout = false) → began.timeout = c.timeout) := by
  intro began d
  have hcame := cameUp_of_perform hdown hlasts.isConnected
  refine ⟨?_, hcame.port, hcame.timeout⟩
  obtain ⟨hbefore, hturn⟩ := hlasts.of_append
  have hend : ((c.perform search).performAll before).PassedOn d := by
    have hpassed := hturn.passedOn hkeeps hunset
    rw [← performAll_append] at hpassed
    exact hpassed
  rw [hend.port, hend.timeout]
  by_cases hset : ∃ deed ∈ before, deed.setsTimeout = true
  · obtain ⟨deed, hmem, hdeed⟩ := hset
    exact iff_of_true (hbefore.due_of_set hkeeps hmem hdeed) (.inl ⟨deed, hmem, hdeed⟩)
  · have hsame := hbefore.sameDue hkeeps fun deed hmem =>
      Bool.eq_false_iff.mpr fun hdeed => hset ⟨deed, hmem, hdeed⟩
    rw [hsame.due, hsame.timeout, dueTimeout?, hcame.pendingTimeout]
    cases c.pendingTimeout with
    | none => simp [hset, began]
    | some left => simp [hset, began]

/-- A timeout is set, but the connection is taken down before its loop takes that. -/
def leftBehind : List (Deed Float) :=
  [.connect [], .setTimeout (some (.ofSecs 1)), .disconnect, .setTimeout (some (.ofSecs 2))]

/-- After that, a timeout is set while the port settles, and another one before the first turn of
the loop. -/
theorem portTimeout?_eq_of_set :
    ∃ c : Connection Float SampleCycle,
      create (.ofPorts ["A"]) (.ofPorts ["A"]) (.fixed 5.0) none = .ok c ∧
      let left := c.performAll leftBehind
      let search := .connect [(.settling 1, .setTimeout (some (.ofSecs 3)))]
      let before := [.setTimeout (some (.ofSecs 4))]
      let later := [.turn [], .send [.text "ping"] .default]
      left.isConnected = false ∧
      (left.perform search).Lasts (before ++ .turn [] :: later) ∧
      (∀ deed ∈ later, deed.setsTimeout = false) ∧
      let d := left.performAll (search :: before ++ .turn [] :: later)
      d.portTimeout? = some d.timeout := by
  refine ⟨_, rfl, ?_⟩
  intro left search before later
  have hdown : left.isConnected = false := by decide +kernel
  have hlasts : (left.perform search).Lasts (before ++ .turn [] :: later) := by
    decide +kernel
  have hunset : ∀ deed ∈ later, deed.setsTimeout = false := by decide +kernel
  exact ⟨hdown, hlasts, hunset, (portTimeout?_eq_iff SampleCycle.keepsTimeout hdown hlasts
    hunset).1.mpr (.inl ⟨_, List.mem_singleton_self _, rfl⟩)⟩

/-- Otherwise the first turn of the session gives the port the timeout that was left behind, not
the one that was set last.  And a timeout that is set while the port of the first session settles
does not reach it. -/
theorem exists_stale_timeout :
    ∃ c : Connection Float SampleCycle,
      create (.ofPorts ["A"]) (.ofPorts ["A"]) (.fixed 5.0) none = .ok c ∧
      let left := c.performAll leftBehind
      let search := .connect [(.settling 1, .setTimeout (some (.ofSecs 2)))]
      (left.perform (.connect [])).Lasts [.turn []] ∧ (c.perform search).Lasts [.turn []] ∧
      let stale := left.performAll [.connect [], .turn []]
      let missed := c.performAll [search, .turn []]
      stale.timeout = some (.ofSecs 2) ∧ stale.portTimeout? = some (some (.ofSecs 1)) ∧
      missed.timeout = some (.ofSecs 2) ∧ missed.portTimeout? = some (some (.ofSecs 1)) := by
  refine ⟨_, rfl, ?_⟩
  decide +kernel

end Connection

end SerialLink
