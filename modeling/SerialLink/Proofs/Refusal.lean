import SerialLink.Connection.Scene
import SerialLink.Cycle.Samples
import SerialLink.Proofs.Search

/-!
# SerialLink.Proofs.Refusal

Operations that are refused change nothing.

1. An operation is refused if its answer says that nothing was done (`Refusal`).
2. If reading the clock does not change it, an operation that is refused leaves the scene as it
   was (`Refusal.step_eq`): no candidate was tried, nothing was published or remembered, and the
   callers who wait have seen all there is already.
3. So everything that is done later comes to the same as if the operation had been left out
   (`Scene.run_without_refused`).
-/

namespace SerialLink

variable {τ σ : Type}

/-- An action whose answer says that it was refused. -/
inductive Refusal : Action τ → Answer τ → Prop
  | connect {incidents : List (Moment × Incident)} :
    Refusal (.connect incidents) (.refused .alreadyConnected)
  | reconnect {session : Option String} {timeout : Option Duration}
      {incidents : List (Moment × Incident)} :
    Refusal (.reconnect session timeout incidents) (.refused .alreadyConnected)
  /-- The connection is down, or the last accepted send is too recent. -/
  | send {values : List SendValue} {options : SendOptions} :
    Refusal (.send values options) (.truth false)
  /-- The connection is down, or the history is too short. -/
  | receive {offset : Nat} : Refusal (.receive offset) (.frame none)
  | receiveText {offset : Nat} {readUntil : Option String} {strip : Bool} :
    Refusal (.receiveText offset readUntil strip) (.text none)
  | available : Refusal .available (.refused .notConnected)
  | setTimeoutSecs {secs invalid : Float} {setting : Option Duration} :
    Refusal (.setTimeoutSecs secs) (.change (.error (.invalidTimeout invalid)) setting)
  | setSendIntervalSecs {secs invalid : Float} {setting : Option Duration} :
    Refusal (.setSendIntervalSecs secs) (.change (.error (.invalidTimeout invalid)) setting)

/-! ## operations -/

namespace Connection

variable {c : Connection τ σ}

theorem sendValues_refused [Reading τ] (hclock : c.clock.read.2 = c.clock) {values : List SendValue}
    {options : SendOptions} (hrefused : (c.sendValues values options).1 = false) :
    (c.sendValues values options).2 = c := by
  unfold sendValues ticket? at hrefused ⊢
  by_cases hup : c.isConnected = true
  · simp only [hup, if_true, hclock] at hrefused ⊢
    unfold accept at hrefused ⊢
    split
    next => rfl
    next hpermitted => rw [if_neg hpermitted] at hrefused; cases hrefused
  · rw [if_neg hup]

theorem receiveAt_refused {offset : Nat} (hrefused : (c.receiveAt offset).1 = none) :
    (c.receiveAt offset).2 = c := by
  unfold receiveAt at hrefused ⊢
  split
  next hup =>
    rw [if_pos hup] at hrefused
    cases hframe : c.receive.at? offset with
    | none => rfl
    | some f => rw [hframe] at hrefused; cases hrefused
  next => rfl

theorem setTimeoutSecs_refused {secs : Float} {e : ConnectionError}
    (hrefused : (c.setTimeoutSecs secs).1 = .error e) : (c.setTimeoutSecs secs).2 = c := by
  unfold setTimeoutSecs at hrefused ⊢
  cases hsecs : timeoutOfSeconds secs with
  | ok timeout => rw [hsecs] at hrefused; cases hrefused
  | error e => rfl

theorem setSendIntervalSecs_refused {secs : Float} {e : ConnectionError}
    (hrefused : (c.setSendIntervalSecs secs).1 = .error e) :
    (c.setSendIntervalSecs secs).2 = c := by
  unfold setSendIntervalSecs at hrefused ⊢
  cases hsecs : timeoutOfSeconds secs with
  | ok interval => rw [hsecs] at hrefused; cases hrefused
  | error e => rfl

end Connection

/-! ## callers who wait -/

section

variable [Reading τ]

theorem Call.look_of_isSettled {k : Call τ} (h : k.isSettled = true) (c : Connection τ σ) :
    k.look c = k := by
  unfold look
  rw [if_pos h]

theorem Call.isSettled_look (k : Call τ) (c : Connection τ σ) :
    (k.look c).isSettled = true ∨ k.look c = k := by
  unfold look
  split
  · exact .inr rfl
  · split
    · exact .inl rfl
    · split
      · exact .inr rfl
      · exact .inl rfl

/-- A caller who looks once more at the same connection sees nothing new. -/
theorem Call.look_look (k : Call τ) (c : Connection τ σ) : (k.look c).look c = k.look c := by
  obtain hsettled | hsame := k.isSettled_look c
  · exact look_of_isSettled hsettled c
  · rw [hsame, hsame]

theorem Scene.look_look (s : Scene τ σ) : s.look.look = s.look := by
  simp [look, Call.look_look, Function.comp_def]

end

namespace Scene

variable [Reading τ] [CustomCycle τ Mock.Line σ]

/-- The callers who wait have seen all there is. -/
theorem look_run (c : Connection τ σ) (actions : List (Action τ)) :
    ((ofConnection c).run actions).look = (ofConnection c).run actions := by
  refine List.foldlRecOn (motive := fun s : Scene τ σ => s.look = s) actions _ rfl
    fun s _ a _ => ?_
  exact (s.perform a).2.look_look

theorem run_append (s : Scene τ σ) (actions actions' : List (Action τ)) :
    s.run (actions ++ actions') = (s.run actions).run actions' :=
  List.foldl_append

/-- The answers to a sequence of actions. -/
def answers (s : Scene τ σ) : List (Action τ) → List (Answer τ)
  | [] => []
  | a :: actions => (s.step a).1 :: (s.step a).2.answers actions

theorem answers_append (s : Scene τ σ) (actions actions' : List (Action τ)) :
    s.answers (actions ++ actions') = s.answers actions ++ (s.run actions).answers actions' := by
  induction actions generalizing s with
  | nil => rfl
  | cons a actions ih => exact congrArg (_ :: ·) (ih (s.step a).2)

end Scene

/-! ## refusals -/

namespace Scene

variable {s : Scene τ σ}

theorem searched_refused {result : Answer τ} {search : Search τ σ} {e : ConnectionError}
    (hrefused : (s.searched result search).1 = .refused e) : result = .refused e := by
  unfold searched at hrefused
  dsimp only at hrefused
  split at hrefused
  · exact hrefused
  · cases hrefused

theorem ofResult_refused {result : Except ConnectionError Unit} {e : ConnectionError}
    (hrefused : (ofResult result : Answer τ) = .refused e) : result = .error e := by
  cases result with
  | ok u => cases hrefused
  | error e => cases hrefused; rfl

theorem ofVerdict_refused {verdict : Search.Verdict} {e : ConnectionError}
    (hrefused : (ofVerdict verdict : Answer τ) = .refused e) : verdict = .returned (.error e) := by
  cases verdict with
  | returned result => exact congrArg Search.Verdict.returned (ofResult_refused hrefused)
  | brokenOff => cases hrefused
  | unfinished => cases hrefused

/-- A refusal is that of the action itself: there is the session that it needs. -/
theorem withSession_refused {session : Option String} {act : Unit → Answer τ × Scene τ σ}
    {e : ConnectionError} (hrefused : (s.withSession session act).1 = .refused e) :
    (act ()).1 = .refused e ∧ (s.withSession session act).2 = (act ()).2 := by
  unfold withSession at hrefused ⊢
  split
  next hsession => rw [if_pos hsession] at hrefused; exact ⟨hrefused, rfl⟩
  next hnone => rw [if_neg hnone] at hrefused; cases hrefused

end Scene

variable [Reading τ] [CustomCycle τ Mock.Line σ]

/-- An action that is refused leaves the scene as it was. -/
theorem Refusal.perform_eq {s : Scene τ σ} (hclock : s.conn.clock.read.2 = s.conn.clock)
    {a : Action τ} {answer : Answer τ} (h : Refusal a answer) (hanswer : (s.perform a).1 = answer) :
    (s.perform a).2 = s := by
  cases h with
  | @connect incidents =>
    have hresult := Scene.ofResult_refused (Scene.searched_refused hanswer)
    have hsearch := Search.connect_refused hresult
    exact congrArg (fun search => { s with conn := search.conn }) hsearch
  | @reconnect session timeout incidents =>
    obtain ⟨hact, hscene⟩ := Scene.withSession_refused hanswer
    have hresult : ((Search.begin s.conn incidents).reconnect timeout
        (s.conn.config.pausesBefore timeout)
        (s.conn.config.scansWithin timeout incidents)).1 = .returned (.error .alreadyConnected) :=
      Scene.ofVerdict_refused (Scene.searched_refused hact)
    have hsearch := Search.reconnect_refused hresult
    exact hscene.trans (congrArg (fun search => { s with conn := search.conn }) hsearch)
  | send =>
    have hsame := s.conn.sendValues_refused hclock (Answer.truth.inj hanswer)
    exact congrArg (fun c => { s with conn := c }) hsame
  | receive =>
    have hsame := Connection.receiveAt_refused (Answer.frame.inj hanswer)
    exact congrArg (fun c => { s with conn := c }) hsame
  | receiveText =>
    have hnone := Option.map_eq_none_iff.mp (Answer.text.inj hanswer)
    exact congrArg (fun c => { s with conn := c }) (Connection.receiveAt_refused hnone)
  | available => rfl
  | setTimeoutSecs =>
    have hresult := (Answer.change.inj hanswer).1
    exact congrArg (fun c => { s with conn := c }) (Connection.setTimeoutSecs_refused hresult)
  | setSendIntervalSecs =>
    have hresult := (Answer.change.inj hanswer).1
    exact congrArg (fun c => { s with conn := c }) (Connection.setSendIntervalSecs_refused hresult)

namespace Scene

/-- Leaving out an action that is refused changes nothing: not the scene, whatever is done later,
and no other answer.  Nothing is assumed of the connection, so a turn of its loop may be under
way, or a loop that ended may not be cleared away yet. -/
theorem run_without_refused {c : Connection τ σ} {before : List (Action τ)} {s : Scene τ σ}
    (hs : (ofConnection c).run before = s) (hclock : s.conn.clock.read.2 = s.conn.clock)
    {a : Action τ} (hrefused : Refusal a (s.step a).1) (after : List (Action τ)) :
    (s.step a).2 = s ∧
    (ofConnection c).run (before ++ a :: after) = (ofConnection c).run (before ++ after) ∧
    (ofConnection c).answers (before ++ a :: after) =
      (ofConnection c).answers before ++ (s.step a).1 :: s.answers after ∧
    (ofConnection c).answers (before ++ after) =
      (ofConnection c).answers before ++ s.answers after := by
  have hsame : (s.step a).2 = s := by
    have hlooked : s.look = s := hs ▸ look_run c before
    exact (congrArg look (hrefused.perform_eq hclock rfl)).trans hlooked
  refine ⟨hsame, ?_, ?_, ?_⟩
  · rw [run_append, run_append, hs]
    exact congrArg (run · after) hsame
  · rw [answers_append, hs, answers, hsame]
  · rw [answers_append, hs]

/-- A caller waits, and a second send comes too soon. -/
theorem run_without_refused_throttled :
    ∃ c : Connection Rat SampleCycle,
      Connection.create (.ofPorts ["A"]) (.ofPorts ["A"]) (.fixed 5) none = .ok c ∧
      let before := [.connect [], .send [.text "ping"] .default, .call none .next]
      let a := .send [.text "pong"] .default
      let after := [.device (.inject "A" [7, 13, 10]), .tick 1, .answer, .connect []]
      let s := (ofConnection c).run before
      s.conn.clock.read.2 = s.conn.clock ∧ Refusal a (s.step a).1 ∧ (s.step a).2 = s ∧
      (ofConnection c).run (before ++ a :: after) = (ofConnection c).run (before ++ after) := by
  refine ⟨_, rfl, ?_⟩
  intro before a after s
  have hclock : s.conn.clock.read.2 = s.conn.clock := rfl
  have hfalse : (s.conn.sendValues [.text "pong"] .default).1 = false := by decide +kernel
  have hanswer : (s.step a).1 = .truth false := congrArg Answer.truth hfalse
  have hrefused : Refusal a (s.step a).1 := hanswer ▸ .send
  obtain ⟨hsame, hrun, -⟩ := run_without_refused rfl hclock hrefused after
  exact ⟨hclock, hrefused, hsame, hrun⟩

end Scene

end SerialLink
