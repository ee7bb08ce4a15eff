import SerialLink.Proofs.Supervision

/-!
# SerialLink.Proofs.Search.Passes

What a search does, one move after the other.

1. A search announces its passes over the candidates, begins them, and tries one candidate after
   the other (`Search.Move`).  Whether a candidate opens is decided when it is tried, after
   whatever has happened to the devices until then (`Search.Makes`).
2. One pass tries all candidates in order, or those up to the one that it opens
   (`Search.Pass`, `Search.scan_moves`).
3. To reconnect is to make passes until one of them opens a port, or has failed when the time is
   up (`Search.Outcome`, `Search.retry_moves`).  How many passes are allowed does not matter once
   there is an answer (`Search.reconnect_of_le`).
4. Passes are counted in 32 bits.  When no port opens and the time is not up before the numbers
   are used up, the call breaks off (`Search.reconnect_uncounted`).
5. What the moves publish and leave behind is what the search has done to its connection
   (`Connection.Passed`).  `Connection.passes_of_course` has it for any state that a connection
   can come to.
-/

namespace SerialLink

namespace Search

variable {τ σ : Type}

/-! ## moves -/

/-- What a search does. -/
inductive Move where
  /-- It is published that the candidates are tried for the given time. -/
  | announced (pass : UInt32)
  /-- A pass over the candidates begins, and the settings for it are read. -/
  | began
  /-- A candidate is tried that cannot be opened. -/
  | missed (port : String)
  /-- A candidate is tried that can be opened, and the loop is started on it. -/
  | opened (port : String)
  deriving DecidableEq, Repr

/-- What is published of a move. -/
def Move.published : Move → List Event
  | .announced pass => [.reconnecting pass]
  | .began | .missed _ => []
  | .opened port => [.connected port]

variable [CustomCycle τ Mock.Line σ] {s t u : Search τ σ} {moves moves' : List Move}

/-- A search makes a move. -/
inductive Makes (s : Search τ σ) : Move → Search τ σ → Prop
  | announced (pass : UInt32) :
    Makes s (.announced pass) (s.change (·.publish (.reconnecting pass)))
  | began : Makes s .began s.enter
  | missed {port : String} {settings : PortSettings} {e : Mock.OpenError} {p : Mock.Provider}
    (hport : (s.approach port).conn.bench.provider.isOpenable port = false)
    (hopen : (s.approach port).conn.bench.provider.openPort port settings = (.error e, p)) :
    Makes s (.missed port) ((s.approach port).change (·.withProvider p))
  | opened {port : String} {settings : PortSettings} {h : Mock.Handle} {p : Mock.Provider}
    (hport : (s.approach port).conn.bench.provider.isOpenable port = true)
    (hopen : (s.approach port).conn.bench.provider.openPort port settings = (.ok h, p)) :
    Makes s (.opened port)
      ((((s.approach port).change (·.withProvider p)).settle h).change (·.start h))

/-- A search makes some moves, one after the other. -/
inductive Moves : Search τ σ → List Move → Search τ σ → Prop
  | done (s : Search τ σ) : Moves s [] s
  | step {s t u : Search τ σ} {m : Move} {moves : List Move} (hmove : Makes s m t)
    (hrest : Moves t moves u) : Moves s (m :: moves) u

theorem Moves.append (h : Moves s moves t) (h' : Moves t moves' u) :
    Moves s (moves ++ moves') u := by
  induction h with
  | done => exact h'
  | step hmove _ ih => exact .step hmove (ih h')

theorem Moves.exists_of_append (h : Moves s (moves ++ moves') u) :
    ∃ t, Moves s moves t ∧ Moves t moves' u := by
  induction moves generalizing s with
  | nil => exact ⟨s, .done s, h⟩
  | cons m moves ih =>
    cases h with
    | step hmove hrest =>
      obtain ⟨t, hfirst, hlast⟩ := ih hrest
      exact ⟨t, .step hmove hfirst, hlast⟩

omit [CustomCycle τ Mock.Line σ] in
/-- A port is opened, and settles. -/
theorem opened_disturbed (s : Search τ σ) (port : String) (p : Mock.Provider) (h : Mock.Handle) :
    s.conn.Disturbed (((s.approach port).change (·.withProvider p)).settle h).conn :=
  (s.tried_disturbed port p).trans (settle_disturbed _ h)

theorem Makes.log {m : Move} (h : Makes s m t) :
    t.conn.events.toList = s.conn.events.toList ++ m.published := by
  have hsame {c d : Connection τ σ} (h : c.Disturbed d) :
      d.events.toList = c.events.toList ++ [] := by
    rw [h.events, List.append_nil]
  cases h with
  | announced pass => exact EventLog.toList_publish _ _
  | began => exact hsame s.enter_disturbed
  | @missed port _ _ p => exact hsame (s.tried_disturbed port p)
  | @opened port _ h p _ hopen =>
    have hlog := congrArg EventLog.toList (s.opened_disturbed port p h).events
    refine (EventLog.toList_publish _ (.connected h.port)).trans ?_
    rw [(Mock.Provider.isOpen_of_opened hopen).1]
    exact congrArg (· ++ [Event.connected port]) hlog

theorem Moves.log (h : Moves s moves t) :
    t.conn.events.toList = s.conn.events.toList ++ moves.flatMap Move.published := by
  induction h with
  | done => simp
  | step hmove _ ih => rw [ih, hmove.log, List.flatMap_cons, List.append_assoc]

/-- A move changes neither the configuration nor what is noted of the search. -/
theorem Makes.config {m : Move} (h : Makes s m t) :
    t.conn.config = s.conn.config ∧ t.conn.connecting = s.conn.connecting := by
  have hsame {c d : Connection τ σ} (h : c.Disturbed d) :
      d.config = c.config ∧ d.connecting = c.connecting := by
    rw [h.eq]
    exact ⟨rfl, rfl⟩
  cases h with
  | announced => exact ⟨rfl, rfl⟩
  | began => exact hsame s.enter_disturbed
  | @missed port _ _ p => exact hsame (s.tried_disturbed port p)
  | @opened port _ h p =>
    -- starting the loop changes neither
    have hopened := hsame (s.opened_disturbed port p h)
    exact hopened

theorem Moves.config (h : Moves s moves t) :
    t.conn.config = s.conn.config ∧ t.conn.connecting = s.conn.connecting := by
  induction h with
  | done => exact ⟨rfl, rfl⟩
  | step hmove _ ih => exact ⟨ih.1.trans hmove.config.1, ih.2.trans hmove.config.2⟩

/-- A search that has opened nothing leaves its connection down. -/
theorem Moves.isConnected (h : Moves s moves t) (hnone : ∀ port, .opened port ∉ moves) :
    t.conn.isConnected = s.conn.isConnected := by
  induction h with
  | done => rfl
  | @step s t u m moves hmove hrest ih =>
    have hrest' : u.conn.isConnected = t.conn.isConnected :=
      ih fun port hmem => hnone port (List.mem_cons_of_mem m hmem)
    rw [hrest']
    cases hmove with
    | announced => rfl
    | began => exact s.enter_disturbed.isConnected
    | @missed port _ _ p => exact (s.tried_disturbed port p).isConnected
    | opened => exact absurd List.mem_cons_self (hnone _)

/-- The port that is opened last is the one that the connection names. -/
theorem Moves.opened {port : String} (h : Moves s (moves ++ [.opened port]) t) :
    t.conn.isConnected = true ∧ t.conn.activePort = some port := by
  obtain ⟨u, -, hlast⟩ := h.exists_of_append
  cases hlast with
  | step hmove hrest =>
    cases hrest
    cases hmove with
    | opened hport hopen =>
      exact ⟨rfl, congrArg some (Mock.Provider.isOpen_of_opened hopen).1⟩

/-- Nothing is opened if no port can be opened and nothing happens meanwhile. -/
theorem Moves.not_opened (h : Moves s moves t) (hquiet : s.incidents = [])
    (hclosed : ∀ port, s.conn.bench.provider.isOpenable port = false) (port : String) :
    .opened port ∉ moves := by
  induction h with
  | done => exact List.not_mem_nil
  | @step s t u m moves hmove _ ih =>
    rw [List.mem_cons, not_or]
    refine ⟨?_, ?_⟩
    · rintro rfl
      cases hmove with
      | opened hport =>
        rw [approach_of_quiet hquiet] at hport
        exact Bool.false_ne_true ((hclosed port).symm.trans hport)
    · cases hmove with
      | announced => exact ih hquiet hclosed
      | began =>
        rw [enter_of_quiet hquiet] at ih
        exact ih hquiet hclosed
      | @missed candidate settings _ _ hport hopen =>
        obtain ⟨_, _, hopen', hsame⟩ := Mock.Provider.openPort_of_not_isOpenable hport settings
        obtain ⟨-, rfl⟩ := Prod.mk.inj (hopen.symm.trans hopen')
        rw [approach_of_quiet hquiet] at ih hsame
        exact ih hquiet fun port => (congrFun hsame port).trans (hclosed port)
      | @opened candidate _ _ _ hport =>
        rw [approach_of_quiet hquiet] at hport
        exact absurd ((hclosed candidate).symm.trans hport) Bool.false_ne_true

/-! ## a pass -/

/-- What is done in one pass over the candidates, and the port that it opens. -/
inductive Pass (ports : List String) : Option String → List Move → Prop
  /-- Each candidate is tried. -/
  | failed : Pass ports none (.began :: ports.map .missed)
  /-- The candidates are tried up to the first one that opens. -/
  | opened {before after : List String} {port : String} (hports : ports = before ++ port :: after) :
    Pass ports (some port) (.began :: (before.map .missed ++ [.opened port]))

/-- A candidate that is missed comes before those that are tried after it. -/
theorem Pass.missed {ports : List String} {opened : Option String}
    (h : Pass ports opened (.began :: moves)) (port : String) :
    Pass (port :: ports) opened (.began :: .missed port :: moves) := by
  cases h with
  | failed => exact .failed
  | @opened before after first hports =>
    have hlonger : port :: ports = (port :: before) ++ first :: after :=
      congrArg (port :: ·) hports
    exact .opened hlonger

theorem firstOpen_moves (settings : PortSettings) (ports : List String) (s : Search τ σ) :
    match firstOpen settings ports s with
    | (some h, t) => ∃ moves, Pass ports (some h.port) (.began :: moves) ∧
      Moves s moves ((t.settle h).change (·.start h))
    | (none, t) => ∃ moves, Pass ports none (.began :: moves) ∧ Moves s moves t := by
  induction ports generalizing s with
  | nil => exact ⟨[], .failed, .done s⟩
  | cons port ports ih =>
    rw [firstOpen, attempt]
    cases hport : (s.approach port).conn.bench.provider.isOpenable port with
    | true =>
      obtain ⟨h, p, hopen⟩ := Mock.Provider.openPort_of_isOpenable hport settings
      simp only [hopen]
      refine ⟨[.opened port], ?_, .step (.opened hport hopen) (.done _)⟩
      rw [(Mock.Provider.isOpen_of_opened hopen).1]
      have hfirst : port :: ports = [] ++ port :: ports := rfl
      exact .opened hfirst
    | false =>
      obtain ⟨e, p, hopen, -⟩ := Mock.Provider.openPort_of_not_isOpenable hport settings
      have hmove : Makes s (.missed port) _ := .missed hport hopen
      have hrest := ih ((s.approach port).change (·.withProvider p))
      simp only [hopen, Except.toOption]
      cases hfirst : firstOpen settings ports ((s.approach port).change (·.withProvider p)) with
      | mk opened t =>
        rw [hfirst] at hrest
        cases opened with
        | some h =>
          obtain ⟨moves, hpass, hmoves⟩ := hrest
          exact ⟨.missed port :: moves, hpass.missed port, .step hmove hmoves⟩
        | none =>
          obtain ⟨moves, hpass, hmoves⟩ := hrest
          exact ⟨.missed port :: moves, hpass.missed port, .step hmove hmoves⟩

/-- A scan is a pass over the candidates, and tells whether a port was opened. -/
theorem scan_moves (s : Search τ σ) :
    ∃ opened moves, Pass s.conn.config.ports opened moves ∧ Moves s moves s.scan.2 ∧
      s.scan.1 = opened.isSome := by
  have hbegan : Makes s .began s.enter := .began
  have hfirst := firstOpen_moves s.enter.conn.openSettings s.enter.conn.config.ports s.enter
  rw [hbegan.config.1] at hfirst
  unfold scan
  dsimp only
  rw [hbegan.config.1]
  cases hopen : firstOpen s.enter.conn.openSettings s.conn.config.ports s.enter with
  | mk opened t =>
    rw [hopen] at hfirst
    cases opened with
    | some h =>
      obtain ⟨moves, hpass, hmoves⟩ := hfirst
      exact ⟨some h.port, _, hpass, .step hbegan hmoves, rfl⟩
    | none =>
      obtain ⟨moves, hpass, hmoves⟩ := hfirst
      exact ⟨none, _, hpass, .step hbegan hmoves, rfl⟩

/-! ## passes -/

section

omit [CustomCycle τ Mock.Line σ]

/-- What is done in passes that all fail, counted from the given one. -/
def failedPasses (ports : List String) (first passes : Nat) : List Move :=
  (List.range' first passes).flatMap fun pass =>
    .announced (.ofNat pass) :: .began :: ports.map .missed

theorem failedPasses_succ (ports : List String) (first passes : Nat) :
    failedPasses ports first (passes + 1) =
      (.announced (.ofNat first) :: .began :: ports.map .missed) ++
        failedPasses ports (first + 1) passes := by
  rw [failedPasses, List.range'_succ, List.flatMap_cons]
  rfl

theorem failedPasses_one (ports : List String) (first : Nat) :
    failedPasses ports first 1 = .announced (.ofNat first) :: .began :: ports.map .missed := by
  rw [failedPasses_succ, failedPasses, List.range'_zero, List.flatMap_nil, List.append_nil]

/-- The time is up when so much of it is spent. -/
def isOver (timeout : Option Duration) (spent : Duration) : Bool :=
  (reachable timeout).any (· ≤ spent)

theorem isOver_iff {timeout : Option Duration} {spent : Duration} :
    isOver timeout spent = true ↔
      ∃ t, timeout = some t ∧ t.secs < UInt64.size / 2 ∧ t ≤ spent := by
  cases timeout with
  | none => simp [isOver, reachable]
  | some t => simp [isOver, reachable, Option.any_filter]

/-- A pass is counted as long as its number fits into 32 bits. -/
theorem nextPass_ofNat {made : Nat} (hmade : made < UInt32.size) :
    nextPass (.ofNat made) = if made + 1 < UInt32.size then some (.ofNat (made + 1)) else none := by
  rw [nextPass, UInt32.toNat_ofNat_of_lt' hmade, UInt32.ofNat_add]
  rfl

end

/-- How passes over the candidates, counted from `first`, come to an end: how many there are,
which port is opened, what is done, and what is answered.  A pass that fails is followed by
another one unless the time is up, and every pass has a number of 32 bits. -/
inductive Outcome (ports : List String) (timeout : Option Duration) (elapsed : Nat → Duration)
    (first scans : Nat) : Nat → Option String → List Move → Verdict → Prop
  /-- The last pass opens a port. -/
  | opened {failed : Nat} {port : String} {last : List Move} (hscans : failed < scans)
    (hcounted : first + failed < UInt32.size)
    (hearly : ∀ n < failed, isOver timeout (elapsed (first + n)) = false)
    (hlast : Pass ports (some port) last) :
    Outcome ports timeout elapsed first scans (failed + 1) (some port)
      (failedPasses ports first failed ++ .announced (.ofNat (first + failed)) :: last)
      (.returned (.ok ()))
  /-- The time is up after the last pass. -/
  | late {failed : Nat} (hscans : failed < scans) (hcounted : first + failed < UInt32.size)
    (hearly : ∀ n < failed, isOver timeout (elapsed (first + n)) = false)
    (hlate : isOver timeout (elapsed (first + failed)) = true) :
    Outcome ports timeout elapsed first scans (failed + 1) none
      (failedPasses ports first (failed + 1))
      (.returned (.error (.reconnectTimeout (elapsed (first + failed)))))
  /-- The next pass would have no number. -/
  | brokenOff {failed : Nat} (hscans : failed < scans) (hcounted : first + failed = UInt32.size)
    (hearly : ∀ n < failed, isOver timeout (elapsed (first + n)) = false) :
    Outcome ports timeout elapsed first scans failed none (failedPasses ports first failed)
      .brokenOff
  /-- There is no answer yet after the passes that are allowed. -/
  | unfinished (hcounted : first + scans ≤ UInt32.size)
    (hearly : ∀ n < scans, isOver timeout (elapsed (first + n)) = false) :
    Outcome ports timeout elapsed first scans scans none (failedPasses ports first scans)
      .unfinished

section

variable {ports : List String} {timeout : Option Duration} {elapsed : Nat → Duration}
  {first scans passes : Nat} {opened : Option String} {verdict : Verdict}

/-- A pass that fails in time comes before the others. -/
theorem Outcome.later
    (h : Outcome ports timeout elapsed (first + 1) scans passes opened moves verdict)
    (hearly : isOver timeout (elapsed first) = false) :
    Outcome ports timeout elapsed first (scans + 1) (passes + 1) opened
      (.announced (.ofNat first) :: .began :: ports.map .missed ++ moves) verdict := by
  have hall {failed : Nat}
      (h : ∀ n < failed, isOver timeout (elapsed (first + 1 + n)) = false) :
      ∀ n < failed + 1, isOver timeout (elapsed (first + n)) = false := by
    intro n hn
    cases n with
    | zero => exact hearly
    | succ n => simpa [Nat.add_assoc, Nat.add_comm 1 n] using h n (by omega)
  have hshift (n : Nat) : first + 1 + n = first + (n + 1) := by omega
  cases h with
  | opened hscans hcounted h hlast =>
    rw [← List.append_assoc, ← failedPasses_succ, hshift]
    exact .opened (Nat.succ_lt_succ hscans) (hshift _ ▸ hcounted) (hall h) hlast
  | late hscans hcounted h hlate =>
    rw [← failedPasses_succ, hshift]
    rw [hshift] at hlate
    exact .late (Nat.succ_lt_succ hscans) (hshift _ ▸ hcounted) (hall h) hlate
  | brokenOff hscans hcounted h =>
    rw [← failedPasses_succ]
    exact .brokenOff (Nat.succ_lt_succ hscans) (hshift _ ▸ hcounted) (hall h)
  | unfinished hcounted h =>
    rw [← failedPasses_succ]
    exact .unfinished (hshift _ ▸ hcounted) (hall h)

/-- Passes that are counted from one have their number. -/
theorem Outcome.passes_lt (h : Outcome ports timeout elapsed 1 scans passes opened moves verdict) :
    (0 < scans → 0 < passes) ∧ passes < UInt32.size := by
  have hsize : 1 < UInt32.size := by decide
  cases h with
  | opened _ hcounted => exact ⟨fun _ => Nat.succ_pos _, by omega⟩
  | late _ hcounted => exact ⟨fun _ => Nat.succ_pos _, by omega⟩
  | brokenOff _ hcounted => exact ⟨fun _ => by omega, by omega⟩
  | unfinished hcounted => exact ⟨id, by omega⟩

theorem Outcome.succeeds_iff
    (h : Outcome ports timeout elapsed first scans passes opened moves verdict) :
    verdict = .returned (.ok ()) ↔ opened.isSome = true := by
  cases h with
  | opened => exact iff_of_true rfl rfl
  | late => exact iff_of_false nofun nofun
  | brokenOff => exact iff_of_false nofun nofun
  | unfinished => exact iff_of_false nofun nofun

/-- The time is up only if there is an end to it that can be reached. -/
theorem Outcome.timeout_reached {spent : Duration}
    (h : Outcome ports timeout elapsed first scans passes opened moves
      (.returned (.error (.reconnectTimeout spent)))) :
    opened = none ∧ ∃ t, timeout = some t ∧ t.secs < UInt64.size / 2 ∧ t ≤ spent := by
  cases h with
  | late _ _ _ hlate => exact ⟨rfl, isOver_iff.mp hlate⟩

/-- If no port opens and the time is never up, all numbers of passes are used up. -/
theorem Outcome.eq_brokenOff
    (h : Outcome ports timeout elapsed 1 UInt32.size passes opened moves verdict)
    (hnone : ∀ port, .opened port ∉ moves)
    (hearly : ∀ n < UInt32.size, isOver timeout (elapsed n) = false) : verdict = .brokenOff := by
  cases h with
  | @opened _ port _ _ _ _ hlast =>
    cases hlast with
    | opened => exact absurd (by simp) (hnone port)
  | late _ hcounted _ hlate =>
    exact absurd ((hearly _ hcounted).symm.trans hlate) Bool.false_ne_true
  | brokenOff => rfl
  | unfinished hcounted => omega

/-- A call breaks off when all numbers are used up. -/
theorem Outcome.uncounted
    (h : Outcome ports timeout elapsed first scans passes opened moves .brokenOff) :
    first + passes = UInt32.size ∧ opened = none := by
  cases h with
  | brokenOff _ hcounted => exact ⟨hcounted, rfl⟩

end

/-- The passes of a search that has made some before. -/
theorem retry_moves (timeout : Option Duration) (elapsed : Nat → Duration) (scans : Nat)
    {made : Nat} (hmade : made < UInt32.size) (s : Search τ σ) :
    ∃ passes opened moves,
      Outcome s.conn.config.ports timeout elapsed (made + 1) scans passes opened moves
        (retry timeout elapsed scans (.ofNat made) s).1 ∧
      Moves s moves (retry timeout elapsed scans (.ofNat made) s).2 := by
  induction scans generalizing made s with
  | zero => exact ⟨0, none, [], .unfinished hmade nofun, .done s⟩
  | succ scans ih =>
    have hscans : 0 < scans + 1 := scans.succ_pos
    unfold retry
    rw [nextPass_ofNat hmade]
    by_cases hcounted : made + 1 < UInt32.size
    · rw [if_pos hcounted]
      dsimp only
      have hannounced : Makes s (.announced (.ofNat (made + 1))) _ := .announced _
      obtain ⟨opened, last, hpass, hlast, hanswer⟩ :=
        (s.change (·.publish (.reconnecting (.ofNat (made + 1))))).scan_moves
      have hmoves := Moves.step hannounced hlast
      rw [UInt32.toNat_ofNat_of_lt' hcounted]
      cases hscan : (s.change (·.publish (.reconnecting (.ofNat (made + 1))))).scan with
      | mk found t =>
        rw [hscan] at hmoves hanswer
        cases hpass with
        | opened hports =>
          obtain rfl : found = true := hanswer
          exact ⟨_, _, _, .opened hscans hcounted nofun (.opened hports), hmoves⟩
        | failed =>
          obtain rfl : found = false := hanswer
          dsimp only
          split
          next hlate =>
            refine ⟨_, _, _, .late hscans hcounted nofun hlate, ?_⟩
            rw [failedPasses_one]
            exact hmoves
          next hearly =>
            obtain ⟨passes, opened, moves, houtcome, hrest⟩ := ih hcounted t
            rw [hmoves.config.1] at houtcome
            exact ⟨_, _, _, houtcome.later (Bool.eq_false_iff.mpr hearly), hmoves.append hrest⟩
    · rw [if_neg hcounted]
      have hlast : made + 1 + 0 = UInt32.size := by omega
      exact ⟨_, _, _, .brokenOff hscans hlast nofun, .done s⟩

/-- Passes that are allowed but not needed change nothing. -/
theorem retry_of_le (timeout : Option Duration) (elapsed : Nat → Duration) {scans more : Nat}
    (hmore : scans ≤ more) (made : UInt32) (s : Search τ σ)
    (hfinished : (retry timeout elapsed scans made s).1 ≠ .unfinished) :
    retry timeout elapsed more made s = retry timeout elapsed scans made s := by
  induction scans generalizing more made s with
  | zero => exact absurd rfl hfinished
  | succ scans ih =>
    obtain ⟨more, rfl⟩ : ∃ n, more = n + 1 := ⟨more - 1, by omega⟩
    unfold retry at hfinished ⊢
    cases hpass : nextPass made with
    | none => rfl
    | some pass =>
      rw [hpass] at hfinished
      dsimp only at hfinished ⊢
      cases hscan : (s.change (·.publish (.reconnecting pass))).scan with
      | mk found t =>
        rw [hscan] at hfinished
        cases found with
        | true => rfl
        | false =>
          dsimp only at hfinished ⊢
          split
          next => rfl
          next hearly =>
            rw [if_neg hearly] at hfinished
            exact ih (by omega) pass t hfinished

theorem reconnect_of_le {timeout : Option Duration} {elapsed : Nat → Duration} {scans more : Nat}
    (hdown : s.conn.isConnected = false) (hmore : scans ≤ more)
    (hfinished : (s.reconnect timeout elapsed scans).1 ≠ .unfinished) :
    s.reconnect timeout elapsed more = s.reconnect timeout elapsed scans := by
  rw [reconnect_of_down hdown] at hfinished
  rw [reconnect_of_down hdown, reconnect_of_down hdown,
    retry_of_le timeout elapsed hmore 0 s.starting hfinished]

omit [CustomCycle τ Mock.Line σ] in
theorem starting_events (s : Search τ σ) : s.starting.conn.events = s.conn.events :=
  s.conn.events_clearAway

end Search

/-! ## what is left behind -/

/-- The announcements of the first passes. -/
def Event.announcements (passes : Nat) : List Event :=
  (List.range' 1 passes).map fun pass => .reconnecting (.ofNat pass)

/-- Candidates were tried in so many announced passes, and the given port was opened: that is what
was published, the connection is up if there is such a port, and it names it. -/
structure Connection.Passed {τ σ : Type} (c d : Connection τ σ) (passes : Nat)
    (opened : Option String) : Prop where
  log : d.events.toList = c.events.toList ++ Event.announcements passes ++
    (opened.map .connected).toList
  isConnected : d.isConnected = opened.isSome
  activePort : ∀ port, opened = some port → d.activePort = some port

/-- Of the ports that are accounted for, the connection holds the one that was opened. -/
theorem Connection.Passed.holds_iff {τ σ : Type} {c d : Connection τ σ} {passes : Nat}
    {opened : Option String} (h : c.Passed d passes opened) (howns : d.Owns) (name : String) :
    d.Holds name ↔ opened = some name := by
  rw [howns.holds_iff]
  cases opened with
  | none =>
    rw [handle?_of_down h.isConnected]
    exact iff_of_false nofun nofun
  | some port =>
    obtain ⟨handle, cycle, hloop⟩ := exists_loop_of_isConnected h.isConnected
    have hnamed := (howns.attached handle cycle hloop).2.symm.trans (h.activePort port rfl)
    rw [hloop, ← hnamed]
    rfl

namespace Search

variable {τ σ : Type}

theorem passed_leave {c : Connection τ σ} {t : Search τ σ} {passes : Nat} {opened : Option String}
    (h : c.Passed t.conn passes opened) (v : Verdict) :
    c.Passed (t.leave v).conn passes opened := by
  rw [conn_leave]
  exact ⟨h.log, h.isConnected, h.activePort⟩

variable [CustomCycle τ Mock.Line σ] {s t : Search τ σ} {moves : List Move}
  {ports : List String} {passes : Nat}

omit [CustomCycle τ Mock.Line σ] in
theorem published_missed (ports : List String) :
    (ports.map Move.missed).flatMap Move.published = [] := by
  simp [Move.published]

omit [CustomCycle τ Mock.Line σ] in
theorem published_failedPasses (ports : List String) (first passes : Nat) :
    (failedPasses ports first passes).flatMap Move.published =
      (List.range' first passes).map fun pass => .reconnecting (.ofNat pass) := by
  induction passes generalizing first with
  | zero => rfl
  | succ passes ih =>
    rw [failedPasses_succ, List.flatMap_append, List.flatMap_cons, List.flatMap_cons,
      published_missed, ih, List.range'_succ]
    rfl

/-- No port was opened if only passes were announced. -/
theorem Moves.passed_none (h : Moves s.starting moves t) (hdown : s.conn.isConnected = false)
    (hpublished : moves.flatMap Move.published = Event.announcements passes) :
    s.conn.Passed t.conn passes none where
  log := by
    rw [h.log, starting_events, hpublished]
    exact (List.append_nil _).symm
  isConnected := by
    rw [h.isConnected ?_, starting_isConnected, hdown]
    · rfl
    intro port hmem
    have hconnected : Event.connected port ∈ moves.flatMap Move.published :=
      List.mem_flatMap.mpr ⟨_, hmem, List.mem_singleton_self _⟩
    rw [hpublished] at hconnected
    obtain ⟨n, -, hn⟩ := List.mem_map.mp hconnected
    cases hn
  activePort := nofun

theorem Moves.passed_some {port : String} (h : Moves s.starting (moves ++ [.opened port]) t)
    (hpublished : moves.flatMap Move.published = Event.announcements passes) :
    s.conn.Passed t.conn passes (some port) where
  log := by
    rw [h.log, starting_events, List.flatMap_append, hpublished, List.append_assoc]
    rfl
  isConnected := h.opened.1
  activePort _ hport := hport ▸ h.opened.2

/-- One pass, of which nothing is announced. -/
theorem Pass.passed {opened : Option String} (h : Pass ports opened moves)
    (hmoves : Moves s.starting moves t) (hdown : s.conn.isConnected = false) :
    s.conn.Passed t.conn 0 opened := by
  cases h with
  | failed => exact hmoves.passed_none hdown (published_missed ports)
  | @opened before after port hports =>
    rw [← List.cons_append] at hmoves
    exact hmoves.passed_some (published_missed before)

theorem Outcome.passed {timeout : Option Duration} {elapsed : Nat → Duration} {scans : Nat}
    {opened : Option String} {verdict : Verdict}
    (h : Outcome ports timeout elapsed 1 scans passes opened moves verdict)
    (hmoves : Moves s.starting moves t) (hdown : s.conn.isConnected = false) :
    s.conn.Passed t.conn passes opened := by
  have hfailed (passes : Nat) := published_failedPasses ports 1 passes
  cases h with
  | @opened failed _ _ _ _ _ hlast =>
    cases hlast with
    | @opened before after port hports =>
      rw [← List.cons_append, ← List.cons_append, ← List.append_assoc] at hmoves
      refine hmoves.passed_some ?_
      rw [List.flatMap_append, hfailed, List.flatMap_cons, List.flatMap_cons, published_missed,
        Event.announcements, List.range'_1_concat, List.map_append]
      rfl
  | late => exact hmoves.passed_none hdown (hfailed _)
  | brokenOff => exact hmoves.passed_none hdown (hfailed _)
  | unfinished => exact hmoves.passed_none hdown (hfailed _)

/-- The passes of a connection that is down and reconnects. -/
theorem reconnect_outcome (hdown : s.conn.isConnected = false) (timeout : Option Duration)
    (elapsed : Nat → Duration) (scans : Nat) :
    let reconnected := s.reconnect timeout elapsed scans
    ∃ passes opened moves t,
      Outcome s.conn.config.ports timeout elapsed 1 scans passes opened moves reconnected.1 ∧
      Moves s.starting moves t ∧ reconnected.2 = t.leave reconnected.1 ∧
      s.conn.Passed reconnected.2.conn passes opened := by
  intro reconnected
  obtain ⟨passes, opened, moves, houtcome, hmoves⟩ :=
    retry_moves timeout elapsed scans (show 0 < UInt32.size by decide) s.starting
  rw [starting_config] at houtcome
  have heq := reconnect_of_down hdown timeout elapsed scans
  have hpassed := passed_leave (houtcome.passed hmoves hdown)
    (retry timeout elapsed scans 0 s.starting).1
  simp only [reconnected, heq]
  exact ⟨passes, opened, moves, _, houtcome, hmoves, rfl, hpassed⟩

/-- The one pass of a connection that is down and connects. -/
theorem connect_pass (hdown : s.conn.isConnected = false) :
    ∃ opened moves t, Pass s.conn.config.ports opened moves ∧ Moves s.starting moves t ∧
      s.connect.2 = t.finished ∧ s.conn.Passed s.connect.2.conn 0 opened ∧
      s.connect.1 = if opened.isSome then .ok ()
        else .error (.noPortAvailable s.conn.config.ports) := by
  obtain ⟨opened, moves, hpass, hmoves, hfound⟩ := s.starting.scan_moves
  have hconfig := hmoves.config.1
  rw [starting_config] at hpass hconfig
  have hpassed := passed_leave (hpass.passed hmoves hdown) .unfinished
  rw [connect_of_down hdown]
  refine ⟨opened, moves, _, hpass, hmoves, rfl, hpassed, ?_⟩
  rw [← hconfig, ← hfound]

/-- A call that breaks off leaves a connection for which candidates are still being opened. -/
theorem Moves.state_of_brokenOff {c : Connection τ σ} (h : Moves s.starting moves t)
    (hpassed : c.Passed (t.leave .brokenOff).conn passes none) :
    (t.leave .brokenOff).conn.state = .connecting := by
  have hconnecting : t.conn.connecting = true := h.config.2
  have hdown : t.conn.isConnected = false := hpassed.isConnected
  show t.conn.state = .connecting
  rw [Connection.state, hdown, hconnecting]
  rfl

omit [CustomCycle τ Mock.Line σ] in
/-- A call that returns without a port leaves a connection that is down. -/
theorem state_of_returned {c : Connection τ σ} {result : Except ConnectionError Unit}
    (hpassed : c.Passed (t.leave (.returned result)).conn passes none) :
    (t.leave (.returned result)).conn.state = .disconnected := by
  rw [Connection.state, hpassed.isConnected]
  rfl

/-- If no port can be opened and nothing happens meanwhile, a call for which the time is not up
breaks off once all numbers of passes are used up. -/
theorem reconnect_uncounted (hdown : s.conn.isConnected = false) (hquiet : s.incidents = [])
    (hclosed : ∀ port, s.conn.bench.provider.isOpenable port = false)
    {timeout : Option Duration} {elapsed : Nat → Duration}
    (hearly : ∀ n < UInt32.size, isOver timeout (elapsed n) = false) :
    let reconnected := s.reconnect timeout elapsed UInt32.size
    reconnected.1 = .brokenOff ∧ reconnected.2.conn.state = .connecting ∧
      s.conn.Passed reconnected.2.conn (UInt32.size - 1) none := by
  intro reconnected
  obtain ⟨passes, opened, moves, t, houtcome, hmoves, hleft, hpassed⟩ :=
    s.reconnect_outcome hdown timeout elapsed UInt32.size
  have hnone := hmoves.not_opened hquiet (s.starting_bench ▸ hclosed)
  have hbroken : reconnected.1 = .brokenOff := houtcome.eq_brokenOff hnone hearly
  change Outcome _ _ _ _ _ _ _ _ reconnected.1 at houtcome
  change reconnected.2 = t.leave reconnected.1 at hleft
  rw [hbroken] at houtcome hleft
  obtain ⟨hcounted, rfl⟩ := houtcome.uncounted
  obtain rfl : passes = UInt32.size - 1 := by omega
  refine ⟨hbroken, ?_, hpassed⟩
  change s.conn.Passed reconnected.2.conn _ _ at hpassed
  rw [hleft] at hpassed ⊢
  exact hmoves.state_of_brokenOff hpassed

end Search

namespace Connection

variable {τ σ : Type} [Reading τ] [CustomCycle τ Mock.Line σ] {b : Connection τ σ}

/-- Let anything have happened to a connection since it was created, let it be down, and let
anything happen to the devices while it is brought up, and the timeout be set meanwhile.

To reconnect is to make passes over the candidates, counted from one without a gap and each of them
announced.  All but the last try every candidate once, in order, and open none.  If the last one
opens a port, the answer is good; if it opens none either, the answer is that the time is up, and it
is, and no candidates are being opened any more; or the call breaks off, after as many passes as
have a number of 32 bits, and it looks as if candidates were still being opened; or there is no
answer yet, and all passes were made that are allowed.  More of them would change nothing once there
is an answer.  That the time is up is never the answer if there is no end to it, or none that can be
reached.

To connect is to make one such pass, which is not announced; the answer names all candidates if none
opens.

What is published are the announcements and the port that was opened.  If none was opened, the
connection is down and holds no port; otherwise it is up, names the port that was opened, and holds
no other. -/
theorem passes_of_course {config : ConnectionConfig} {bench : Mock.Bench} {clock : Clock τ}
    {parked : Option (LoopCycle σ)} (hcreate : create config bench clock parked = .ok b)
    {s : Search τ σ} (hcourse : b.Course s.conn) (hdown : s.conn.isConnected = false)
    (timeout : Option Duration) (elapsed : Nat → Duration) (scans : Nat) :
    let ports := s.conn.config.ports
    let reconnected := s.reconnect timeout elapsed scans
    (∃ passes opened moves t, (0 < scans → 0 < passes) ∧ passes < UInt32.size ∧
      Search.Outcome ports timeout elapsed 1 scans passes opened moves reconnected.1 ∧
      (reconnected.1 = .returned (.ok ()) ↔ opened.isSome = true) ∧
      (reconnected.1 = .brokenOff → passes + 1 = UInt32.size ∧ opened = none ∧
        reconnected.2.conn.state = .connecting) ∧
      Search.Moves s.starting moves t ∧ reconnected.2 = t.leave reconnected.1 ∧
      s.conn.Passed reconnected.2.conn passes opened ∧
      (KeepsOpen τ σ → bench.Accounts none → ∀ name,
        reconnected.2.conn.Holds name ↔ opened = some name)) ∧
    (reconnected.1 ≠ .unfinished → ∀ more, scans ≤ more →
      s.reconnect timeout elapsed more = reconnected) ∧
    (∀ spent, reconnected.1 = .returned (.error (.reconnectTimeout spent)) →
      reconnected.2.conn.state = .disconnected ∧
        ∃ t, timeout = some t ∧ t.secs < UInt64.size / 2 ∧ t ≤ spent) ∧
    ∃ opened moves t, Search.Pass ports opened moves ∧ Search.Moves s.starting moves t ∧
      s.connect.2 = t.finished ∧ s.conn.Passed s.connect.2.conn 0 opened ∧
      (KeepsOpen τ σ → bench.Accounts none → ∀ name,
        s.connect.2.conn.Holds name ↔ opened = some name) ∧
      s.connect.1 = if opened.isSome then .ok () else .error (.noPortAvailable ports) := by
  intro ports reconnected
  have howns (hkeeps : KeepsOpen τ σ) (hbench : bench.Accounts none) : s.conn.Owns :=
    (owns_create hcreate hbench).course hkeeps hcourse
  obtain ⟨passes, opened, moves, t, houtcome, hmoves, hleft, hpassed⟩ :=
    s.reconnect_outcome hdown timeout elapsed scans
  obtain ⟨opened', moves', t', hpass, hmoves', hfinished', hpassed', hanswer⟩ :=
    s.connect_pass hdown
  change Search.Outcome ports timeout elapsed 1 scans passes opened moves reconnected.1 at houtcome
  change reconnected.2 = t.leave reconnected.1 at hleft
  change s.conn.Passed reconnected.2.conn passes opened at hpassed
  refine ⟨⟨passes, opened, moves, t, houtcome.passes_lt.1, houtcome.passes_lt.2, houtcome,
    houtcome.succeeds_iff, ?_, hmoves, hleft, hpassed, ?_⟩,
    ?_, ?_, ⟨opened', moves', t', hpass, hmoves', hfinished', hpassed', ?_, hanswer⟩⟩
  · intro hbroken
    rw [hbroken] at houtcome hleft
    obtain ⟨hcounted, rfl⟩ := houtcome.uncounted
    rw [hleft] at hpassed ⊢
    exact ⟨by omega, rfl, hmoves.state_of_brokenOff hpassed⟩
  · intro hkeeps hbench
    exact hpassed.holds_iff
      ((howns hkeeps hbench).step hkeeps (.reconnect s timeout elapsed scans))
  · intro hfinished more hmore
    exact s.reconnect_of_le hdown hmore hfinished
  · intro spent hlate
    rw [hlate] at houtcome hleft
    obtain ⟨rfl, hreached⟩ := houtcome.timeout_reached
    rw [hleft] at hpassed ⊢
    exact ⟨Search.state_of_returned hpassed, hreached⟩
  · intro hkeeps hbench
    exact hpassed'.holds_iff ((howns hkeeps hbench).step hkeeps (.connect s))

/-- Another one holds one candidate and the other one is pulled out; it is back when it is tried for
the second time. -/
theorem passes_of_course_replugged :
    ∃ b : Connection Float SampleCycle,
      create (.ofPorts ["A", "B"]) (.ofPorts ["A", "B"]) (.fixed 5.0) none = .ok b ∧
      let c := ((Scene.ofConnection b).run [.device (.hold "A"), .device (.unplug "B")]).conn
      let s := Search.begin c [(.attempt 4, .device (.replug "B"))]
      let d := (s.reconnect none (fun _ => .zero) 3).2.conn
      b.Course c ∧ c.isConnected = false ∧
        (∃ moves t, Search.Outcome ["A", "B"] none (fun _ => .zero) 1 3 2 (some "B") moves
          (.returned (.ok ())) ∧ Search.Moves s.starting moves t) ∧
        c.Passed d 2 (some "B") ∧ ∀ name, d.Holds name ↔ name = "B" := by
  have hcreate : create (.ofPorts ["A", "B"]) (.ofPorts ["A", "B"]) (.fixed (5.0 : Float))
      (none : Option (LoopCycle SampleCycle)) = .ok _ := rfl
  refine ⟨_, hcreate, ?_⟩
  intro c s d
  have hcourse : Course _ c := Course.scene (.ofConnection _) _
  have hdown : c.isConnected = false := by decide +kernel
  have hports : s.conn.config.ports = ["A", "B"] := by decide +kernel
  have hup : d.isConnected = true := by decide +kernel
  have hport : d.activePort = some "B" := by decide +kernel
  have hlog : d.events.toList = [.reconnecting 1, .reconnecting 2, .connected "B"] := by
    decide +kernel
  have hbefore : c.events.toList = [] := by decide +kernel
  obtain ⟨⟨passes, opened, moves, t, -, -, houtcome, hanswer, -, hmoves, -, hpassed, hholds⟩, -⟩ :=
    passes_of_course hcreate (s := s) hcourse hdown none (fun _ => .zero) 3
  have hsome : opened.isSome = true := hpassed.isConnected.symm.trans hup
  obtain ⟨port, rfl⟩ := Option.isSome_iff_exists.mp hsome
  obtain rfl : "B" = port := Option.some.inj (hport.symm.trans (hpassed.activePort port rfl))
  obtain rfl : passes = 2 := by
    have hpublished := hpassed.log
    rw [show (s.reconnect none (fun _ => .zero) 3).2.conn.events.toList = _ from hlog,
      show s.conn.events.toList = [] from hbefore] at hpublished
    simpa [Event.announcements] using (congrArg List.length hpublished).symm
  rw [show s.conn.config.ports = ["A", "B"] from hports, hanswer.mpr rfl] at houtcome
  refine ⟨hcourse, hdown, ⟨moves, t, houtcome, hmoves⟩, hpassed, fun name => ?_⟩
  exact (hholds SampleCycle.keepsOpen (Mock.Bench.accounts_ofPorts _) name).trans
    (Option.some_inj.trans eq_comm)

/-- There is no device, a pass takes a microsecond, and the time is not up before a day has passed:
the call breaks off after a bit more than an hour. -/
theorem exists_uncounted :
    ∃ c : Connection Float SampleCycle,
      create { ConnectionConfig.ofPorts ["A"] with retryIntervalMs := 0 } (.ofPorts [])
        (.fixed 5.0) none = .ok c ∧
      let reconnected := (Search.begin c []).reconnect (some (.ofSecs 86400))
        (fun n => ⟨n * 1000⟩) UInt32.size
      reconnected.1 = .brokenOff ∧ reconnected.2.conn.state = .connecting ∧
        c.Passed reconnected.2.conn (UInt32.size - 1) none := by
  refine ⟨_, rfl, ?_⟩
  refine Search.reconnect_uncounted (s := Search.begin _ []) rfl rfl (fun _ => rfl) fun n hn => ?_
  refine Bool.eq_false_iff.mpr fun hover => ?_
  obtain ⟨t, htimeout, -, hspent⟩ := Search.isOver_iff.mp hover
  obtain rfl := Option.some.inj htimeout
  have hnanos : 86400 * 1000000000 ≤ n * 1000 := hspent
  have hfew : n < 4294967296 := hn
  omega

end Connection

end SerialLink
