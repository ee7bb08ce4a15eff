import SerialLink.Proofs.Ports.Steps

/-!
# SerialLink.Proofs.Ports.Exclusion

A port belongs to one handle at a time.

1. From a log of what has occurred one can tell which handles are held, on which ports, and which of
   them were closed (`Held`, `Unclosed`); `since?` computes it (`since?_eq_some_iff`).
2. Every open port is open by one handle (`Bench.Exclusive`), and the handles of a bench are those
   that the log tells of (`Bench.Told`).  Each step keeps up both, so they hold whatever is done
   (`Record.sound_ofOperations`).
3. A handle that was closed is dead: whatever is done with it leaves all devices as they are
   (`Bench.dead_of_closed`).
4. So a port is open exactly if one handle on it, and only one, was neither closed nor let go of
   (`Record.exclusive_of_operations`).
-/

namespace SerialLink.Mock

/-! ## logs -/

/-- A handle on the port was opened under the name, and `since` has occurred since, the latest
first: the handle was not let go of, and no other one took its name. -/
structure Held (log since : List Occurrence) (name port : String) : Prop where
  opened : ∃ before, log = since ++ .opened name port :: before
  kept : ∀ o ∈ since, o ≠ .dropped name ∧ ∀ other, o ≠ .opened name other

/-- Nor was the handle closed. -/
structure Unclosed (log since : List Occurrence) (name port : String) : Prop where
  held : Held log since name port
  unclosed : .closed name ∉ since

/-- The port of the handle that is held under a name, and what has occurred since it was opened. -/
def since? (name : String) : List Occurrence → Option (String × List Occurrence)
  | [] => none
  | o :: log =>
    let older := (since? name log).map fun (port, since) => (port, o :: since)
    match o with
    | .opened holder port => if name = holder then some (port, []) else older
    | .dropped holder => if name = holder then none else older
    | .closed _ | .other => older

section

variable {o : Occurrence} {log since : List Occurrence} {name port : String}

theorem held_cons :
    Held (o :: log) since name port ↔
      (o = .opened name port ∧ since = []) ∨
        (o ≠ .dropped name ∧ ∀ other, o ≠ .opened name other) ∧
          ∃ since', Held log since' name port ∧ since = o :: since' := by
  constructor
  · rintro ⟨⟨before, heq⟩, hkept⟩
    cases since with
    | nil => exact .inl ⟨(List.cons.inj heq).1, rfl⟩
    | cons first since' =>
      obtain ⟨rfl, hlog⟩ := List.cons.inj heq
      obtain ⟨ho, hkept'⟩ := List.forall_mem_cons.mp hkept
      exact .inr ⟨ho, since', ⟨⟨before, hlog⟩, hkept'⟩, rfl⟩
  · rintro (⟨rfl, rfl⟩ | ⟨ho, since', ⟨⟨before, rfl⟩, hkept⟩, rfl⟩)
    · exact ⟨⟨log, rfl⟩, List.forall_mem_nil _⟩
    · exact ⟨⟨before, rfl⟩, List.forall_mem_cons.mpr ⟨ho, hkept⟩⟩

/-- A log tells which handle is held under a name, and what has occurred since it was opened. -/
theorem since?_eq_some_iff : since? name log = some (port, since) ↔ Held log since name port := by
  induction log generalizing since with
  | nil =>
    refine iff_of_false nofun ?_
    rintro ⟨⟨before, heq⟩, -⟩
    simp at heq
  | cons o log ih =>
    -- what is found behind an occurrence that ends nothing
    have hkept : ((since? name log).map fun (port, since) => (port, o :: since)) =
        some (port, since) ↔ ∃ since', Held log since' name port ∧ since = o :: since' := by
      simp only [Option.map_eq_some_iff, Prod.exists, Prod.mk.injEq, ← ih]
      grind
    rw [held_cons]
    unfold since?
    cases o with
    | opened holder opened =>
      dsimp only
      split
      next h => simp [h, eq_comm]
      next h => rw [hkept]; simp [Ne.symm h]
    | dropped holder =>
      dsimp only
      split
      next h => simp [h]
      next h => rw [hkept]; simp [Ne.symm h]
    | closed holder => dsimp only; rw [hkept]; simp
    | other => dsimp only; rw [hkept]; simp

end

/-! ## whose port is open -/

namespace Bench

variable {b c : Bench} {o : Occurrence} {own : Option String} {name port : String} {h : Handle}

/-- The port is open by the handle that is held under the name. -/
def Has (b : Bench) (name port : String) : Prop :=
  ∃ h, b.handle? name = some h ∧ h.port = port ∧ h.closed = false

/-- Every port that is open is open by one handle, or is the port `own`, but not both: while a port
is being opened, no handle on it is held yet. -/
structure Exclusive (b : Bench) (own : Option String) : Prop where
  known : ∀ name h, b.handle? name = some h → h.port ∈ b.provider.ports
  isOpen_iff : ∀ port, b.provider.isOpen port = true ↔ own = some port ∨ ∃ name, b.Has name port
  single : ∀ port name name', b.Has name port → b.Has name' port → name = name'
  apart : ∀ port name, own = some port → ¬b.Has name port

theorem has_of_handle (hhandle : b.handle? name = some h) :
    b.Has name port ↔ h.port = port ∧ h.closed = false := by
  unfold Has
  rw [hhandle]
  simp

theorem has_release {other : String} :
    (b.release name).2.Has other port ↔ other ≠ name ∧ b.Has other port := by
  unfold Has
  rw [handle?_release]
  split
  next hother => simp [hother]
  next hother => simp [hother]

theorem has_hold {other : String} :
    (b.hold name h).Has other port ↔
      if other = name then h.port = port ∧ h.closed = false else b.Has other port := by
  unfold Has
  rw [handle?_hold]
  split
  next hother => simp
  next hother => rfl

/-- Whoever holds a new handle has its port, and all others have what they had. -/
theorem has_hold_of_free (hfree : b.handle? name = none) (hfresh : h.closed = false)
    {other : String} :
    (b.hold name h).Has other port ↔ (other = name ∧ port = h.port) ∨ b.Has other port := by
  have hnot : ¬b.Has name port := by
    rintro ⟨k, hk, -⟩
    rw [hfree] at hk
    cases hk
  rw [has_hold]
  split
  next hother => simp [hother, hnot, hfresh, eq_comm]
  next hother => simp [hother]

namespace Exclusive

theorem spared (hb : b.Exclusive own) (hheld : c.held = b.held)
    (hspared : b.provider.Spared c.provider) : c.Exclusive own := by
  have hhandle (name : String) : c.handle? name = b.handle? name := by
    unfold handle?
    rw [hheld]
  have hhas (name port : String) : c.Has name port ↔ b.Has name port := by
    unfold Has
    rw [hhandle]
  refine ⟨fun name h hh => ?_, fun port => ?_, ?_, ?_⟩
  · exact hspared.ports (hb.known name h (hhandle name ▸ hh))
  · rw [hspared.isOpen, hb.isOpen_iff]
    simp only [hhas]
  · simp only [hhas]
    exact hb.single
  · simp only [hhas]
    exact hb.apart

/-- To close a handle closes the port that it has, and no other. -/
theorem isOpen_close_iff (hb : b.Exclusive own) (hhandle : b.handle? name = some h) :
    (b.provider.close h).2.isOpen port = true ↔
      own = some port ∨ ∃ other, other ≠ name ∧ b.Has other port := by
  rw [Provider.isOpen_close_iff, hb.isOpen_iff]
  constructor
  · rintro ⟨hown | ⟨other, hother⟩, hport⟩
    · exact .inl hown
    · refine .inr ⟨other, fun heq => ?_, hother⟩
      obtain ⟨heq, hopen⟩ := (has_of_handle hhandle).mp (heq ▸ hother)
      exact hport hopen heq.symm
  · rintro (hown | ⟨other, hne, hother⟩)
    · refine ⟨.inl hown, fun hopen heq => ?_⟩
      exact hb.apart port name hown ((has_of_handle hhandle).mpr ⟨heq.symm, hopen⟩)
    · refine ⟨.inr ⟨other, hother⟩, fun hopen heq => hne ?_⟩
      exact hb.single port other name hother ((has_of_handle hhandle).mpr ⟨heq.symm, hopen⟩)

/-- A handle is closed, and is let go of or held on. -/
theorem close (hb : b.Exclusive own) (hhandle : b.handle? name = some h)
    (hprovider : c.provider = (b.provider.close h).2)
    (hknown : ∀ other k, c.handle? other = some k →
      ∃ k', b.handle? other = some k' ∧ k'.port = k.port)
    (hhas : ∀ other port, c.Has other port ↔ other ≠ name ∧ b.Has other port) :
    c.Exclusive own := by
  refine ⟨fun other k hk => ?_, fun port => ?_, fun port x y hx hy => ?_, fun port x hport hx => ?_⟩
  · obtain ⟨k', hk', hport⟩ := hknown other k hk
    rw [hprovider, Provider.ports_close, ← hport]
    exact hb.known other k' hk'
  · rw [hprovider, hb.isOpen_close_iff hhandle]
    simp only [hhas]
  · exact hb.single port x y ((hhas x port).mp hx).2 ((hhas y port).mp hy).2
  · exact hb.apart port x hport ((hhas x port).mp hx).2

theorem release (hb : b.Exclusive own) (name : String) : (b.release name).2.Exclusive own := by
  cases hhandle : b.handle? name with
  | none =>
    have hsame : (b.release name).2 = b := by rw [Bench.release, hhandle]
    rwa [hsame]
  | some h =>
    refine hb.close hhandle ?_ (fun other k hk => ?_) fun other port => has_release
    · rw [Bench.release, hhandle]
      rfl
    · rw [handle?_release] at hk
      split at hk
      · cases hk
      · exact ⟨k, hk, rfl⟩

theorem closed (hb : b.Exclusive own) (hhandle : b.handle? name = some h) :
    ((b.withProvider (b.provider.close h).2).hold name { h with closed := true }).Exclusive
      own := by
  refine hb.close hhandle rfl (fun other k hk => ?_) fun other port => ?_
  · rw [handle?_hold] at hk
    split at hk
    next hother =>
      cases hk
      exact ⟨h, hother ▸ hhandle, rfl⟩
    next => exact ⟨k, hk, rfl⟩
  · rw [has_hold]
    split
    next hother => simp [hother]
    next hother => simp [hother]; rfl

theorem opened (hb : b.Exclusive none) {settings : PortSettings} {p : Provider}
    (hopen : b.provider.openPort port settings = (.ok h, p)) :
    (b.withProvider p).Exclusive (some h.port) := by
  obtain ⟨rfl, hfresh, hclosed, hopened⟩ := Provider.isOpen_of_opened hopen
  obtain ⟨hports, -, -⟩ := Provider.opens_of_opened hopen
  refine ⟨fun name k hk => ?_, fun port => ?_, hb.single, fun port name hport hhas => ?_⟩
  · exact hports ▸ hb.known name k hk
  · refine (hopened port).trans (or_congr ?_ ?_)
    · exact eq_comm.trans Option.some_inj.symm
    · exact (hb.isOpen_iff port).trans (or_iff_right nofun)
  · obtain rfl := Option.some.inj hport
    exact Bool.eq_false_iff.mp hclosed ((hb.isOpen_iff h.port).mpr (.inr ⟨name, hhas⟩))

theorem hold (hb : b.Exclusive (some h.port)) (hfree : b.handle? name = none)
    (hfresh : h.closed = false) (hport : h.port ∈ b.provider.ports) :
    (b.hold name h).Exclusive none := by
  refine ⟨fun other k hk => ?_, fun port => ?_, fun port x y hx hy => ?_, nofun⟩
  · rw [handle?_hold] at hk
    split at hk
    · cases hk
      exact hport
    · exact hb.known other k hk
  · show b.provider.isOpen port = true ↔ _
    rw [hb.isOpen_iff]
    simp only [has_hold_of_free hfree hfresh]
    grind
  · rw [has_hold_of_free hfree hfresh] at hx hy
    obtain ⟨rfl, rfl⟩ | hx := hx
    · obtain ⟨rfl, -⟩ | hy := hy
      · rfl
      · exact absurd hy (hb.apart _ _ rfl)
    · obtain ⟨rfl, rfl⟩ | hy := hy
      · exact absurd hx (hb.apart _ _ rfl)
      · exact hb.single port x y hx hy

theorem step (hb : b.Exclusive none) (hstep : b.Step o c) : c.Exclusive none := by
  cases hstep with
  | @opened name port settings h p hopen =>
    -- the port is open before its handle is held: whoever had the name lets go in between
    obtain ⟨hport, hfresh, -⟩ := Provider.isOpen_of_opened hopen
    obtain ⟨hports, hmem, -⟩ := Provider.opens_of_opened hopen
    refine ((hb.opened hopen).release name).hold ?_ hfresh ?_
    · rw [handle?_release, if_pos rfl]
    · rw [ports_release, hport]
      exact hports ▸ hmem
  | closed hhandle => exact hb.closed hhandle
  | missed hhandle => exact hb
  | dropped name => exact hb.release name
  | other hheld hspared => exact hb.spared hheld hspared

end Exclusive

end Bench

/-! ## which handles are held -/

section

variable {log : List Occurrence} {name holder port : String}

/-- The port of the handle that is held under a name, and whether it was closed. -/
def told? (name : String) (log : List Occurrence) : Option (String × Bool) :=
  (since? name log).map fun (port, since) => (port, decide (.closed name ∈ since))

theorem told?_opened : told? name (.opened holder port :: log) =
    if name = holder then some (port, false) else told? name log := by
  unfold told?
  rw [since?.eq_def]
  dsimp only
  split
  · rfl
  · cases since? name log <;> simp

theorem told?_dropped : told? name (.dropped holder :: log) =
    if name = holder then none else told? name log := by
  unfold told?
  rw [since?.eq_def]
  dsimp only
  split
  · rfl
  · cases since? name log <;> simp

theorem told?_closed : told? name (.closed holder :: log) =
    if name = holder then (told? name log).map fun (port, _) => (port, true)
    else told? name log := by
  unfold told?
  rw [since?.eq_def]
  dsimp only
  split
  next h => cases since? name log <;> simp [h]
  next h => cases since? name log <;> simp [h]

theorem told?_other : told? name (.other :: log) = told? name log := by
  unfold told?
  rw [since?.eq_def]
  dsimp only
  cases since? name log <;> simp

end

namespace Bench

variable {b c : Bench} {o : Occurrence} {log : List Occurrence}

/-- The handles that are held are those that a log tells of, each closed if the log says so. -/
def Told (log : List Occurrence) (b : Bench) : Prop :=
  ∀ name, (b.handle? name).map (fun h => (h.port, h.closed)) = told? name log

theorem Told.step (h : Told log b) (hstep : b.Step o c) : Told (o :: log) c := by
  intro other
  have hother := h other
  cases hstep with
  | opened hopen =>
    obtain ⟨hport, hfresh, -⟩ := Provider.isOpen_of_opened hopen
    rw [told?_opened, handle?_hold, handle?_release]
    split
    next => rw [Option.map_some, hport, hfresh]
    next => exact hother
  | closed hhandle =>
    rw [told?_closed, handle?_hold]
    split
    next hname => rw [← hother, hname, hhandle]; rfl
    next => exact hother
  | missed hhandle =>
    rw [told?_closed]
    split
    next hname => rw [← hother, hname, hhandle]; rfl
    next => exact hother
  | dropped name =>
    rw [told?_dropped, handle?_release]
    split
    next => rfl
    next => exact hother
  | other hheld hspared =>
    rw [told?_other, ← hother, handle?, handle?, hheld]

end Bench

/-! ## records -/

/-- A bench, and what has occurred on it, the latest first. -/
structure Record where
  log : List Occurrence
  bench : Bench

namespace Record

variable {r : Record}

/-- No device is there yet. -/
def empty : Record := ⟨[], .ofPorts []⟩

/-- Something more is done. -/
def add (r : Record) (operation : Operation) : Record :=
  ⟨(r.bench.operate operation).1 :: r.log, (r.bench.operate operation).2⟩

/-- Operations are done one after the other. -/
def ofOperations (operations : List Operation) : Record := operations.foldl add empty

/-- What holds of every record: the log tells which handles are held, how often each port was
opened, and every open port is open by one handle. -/
structure Sound (r : Record) : Prop where
  distinct : r.bench.provider.ports.Nodup
  exclusive : r.bench.Exclusive none
  told : Bench.Told r.log r.bench
  opens : ∀ port, r.bench.provider.opens port = r.log.countP (·.isOpening port)

theorem sound_empty : empty.Sound where
  distinct := .nil
  exclusive := by
    refine ⟨nofun, fun port => iff_of_false Bool.false_ne_true ?_, nofun, nofun⟩
    rintro (⟨⟨⟩⟩ | ⟨_, _, ⟨⟩, -⟩)
  told _ := rfl
  opens _ := rfl

theorem Sound.add (h : r.Sound) (operation : Operation) : (r.add operation).Sound := by
  have hstep := r.bench.operate_step operation
  refine ⟨hstep.distinct h.distinct, h.exclusive.step hstep, h.told.step hstep, fun port => ?_⟩
  refine (hstep.opens port).trans ?_
  rw [h.opens, Record.add, List.countP_cons]

/-- Whatever is done, the record is sound. -/
theorem sound_ofOperations (operations : List Operation) : (ofOperations operations).Sound :=
  List.foldlRecOn operations add sound_empty fun _ h operation _ => h.add operation

namespace Sound

variable {since : List Occurrence} {name port : String}

theorem exists_handle (h : r.Sound) (hheld : Held r.log since name port) :
    ∃ k, r.bench.handle? name = some k ∧ k.port = port ∧
      (k.closed = true ↔ .closed name ∈ since) := by
  have htold := h.told name
  rw [told?, since?_eq_some_iff.mpr hheld, Option.map_some, Option.map_eq_some_iff] at htold
  obtain ⟨k, hk, heq⟩ := htold
  obtain ⟨hport, hclosed⟩ := Prod.mk.inj heq
  exact ⟨k, hk, hport, by rw [hclosed, decide_eq_true_eq]⟩

theorem exists_held (h : r.Sound) {k : Handle} (hk : r.bench.handle? name = some k) :
    ∃ since, Held r.log since name k.port := by
  have htold := h.told name
  rw [hk, Option.map_some, told?, eq_comm, Option.map_eq_some_iff] at htold
  obtain ⟨⟨port, since⟩, hsince, heq⟩ := htold
  exact ⟨since, (Prod.mk.inj heq).1 ▸ since?_eq_some_iff.mp hsince⟩

theorem has_iff (h : r.Sound) :
    r.bench.Has name port ↔ ∃ since, Unclosed r.log since name port := by
  constructor
  · rintro ⟨k, hk, rfl, hopen⟩
    obtain ⟨since, hheld⟩ := h.exists_held hk
    obtain ⟨k', hk', -, hclosed⟩ := h.exists_handle hheld
    obtain rfl := Option.some.inj (hk.symm.trans hk')
    exact ⟨since, hheld, fun hmem => Bool.eq_false_iff.mp hopen (hclosed.mpr hmem)⟩
  · rintro ⟨since, hheld, hunclosed⟩
    obtain ⟨k, hk, hport, hclosed⟩ := h.exists_handle hheld
    exact ⟨k, hk, hport, Bool.eq_false_iff.mpr (mt hclosed.mp hunclosed)⟩

/-- The handles that are not closed are on different ports. -/
theorem unclosed_unique (h : r.Sound) {since' : List Occurrence} {name' : String}
    (hone : Unclosed r.log since name port) (hother : Unclosed r.log since' name' port) :
    since = since' ∧ name = name' := by
  obtain rfl : name = name' := h.exclusive.single port name name' (h.has_iff.mpr ⟨since, hone⟩)
    (h.has_iff.mpr ⟨since', hother⟩)
  have heq := (since?_eq_some_iff.mpr hone.held).symm.trans (since?_eq_some_iff.mpr hother.held)
  exact ⟨(Prod.mk.inj (Option.some.inj heq)).2, rfl⟩

theorem isOpen_iff (h : r.Sound) :
    r.bench.provider.isOpen port = true ↔ ∃ since name, Unclosed r.log since name port := by
  rw [h.exclusive.isOpen_iff, or_iff_right nofun, exists_comm]
  exact exists_congr fun name => h.has_iff

end Sound

end Record

/-! ## what a handle still does -/

/-- Through a handle that was closed nothing can be done to its device. -/
theorem Provider.through_of_closed {α : Type} {p : Provider} {h : Handle}
    {g : Device → Except IoError α × Device} (hdistinct : p.ports.Nodup) (hport : h.port ∈ p.ports)
    (hg : ∀ d, g d = (.error handleClosed, d)) : p.through h g = (.error handleClosed, p) := by
  obtain ⟨d, hdevice⟩ := Provider.mem_ports_iff.mp hport
  unfold Provider.through
  rw [hdevice]
  dsimp only
  rw [hg, Provider.modify_self hdistinct hdevice]

namespace Bench

variable {b : Bench} {name port : String} {h : Handle}

theorem openAs_eq_ok_iff {settings : PortSettings} :
    (b.openAs name port settings).1 = .ok () ↔ b.provider.openFault? port = none := by
  unfold openAs Provider.openPort
  cases b.provider.openFault? port <;> simp

/-- A port opens exactly if its device is there, is plugged in and is not open. -/
theorem use_openPort_iff {settings : PortSettings} :
    (b.use name (.openPort port settings)).1 = .done ↔
      (∃ d, b.provider.device? port = some d ∧ d.unplugged = false) ∧
        b.provider.isOpen port = false := by
  have hdone : (b.use name (.openPort port settings)).1 = .done ↔
      (b.openAs name port settings).1 = .ok () := by
    unfold use
    dsimp only
    cases (b.openAs name port settings).1 <;> simp
  rw [hdone, openAs_eq_ok_iff, Provider.openFault?_eq_none_iff, Provider.isOpen]
  cases b.provider.device? port <;> simp

theorem through_of_handle (hhandle : b.handle? name = some h) (f : Handle → LineAnswer × Bench) :
    b.through name f = f h := by
  rw [through, hhandle]

/-- To close or drop a handle that was closed leaves the devices as they are, and whatever else is
tried through it fails and changes nothing. -/
structure Dead (b : Bench) (name : String) : Prop where
  close : (b.use name .close).2.provider = b.provider
  release : (b.use name .release).2.provider = b.provider
  write : ∀ data, b.use name (.write data) = (.failed handleClosed, b)
  read : b.use name .read = (.failed handleClosed, b)
  setTimeout : ∀ timeout, b.use name (.setTimeout timeout) = (.failed handleClosed, b)

theorem dead_of_closed (hhandle : b.handle? name = some h) (hclosed : h.closed = true)
    (hdistinct : b.provider.ports.Nodup) (hport : h.port ∈ b.provider.ports) : b.Dead name := by
  have hfault (d : Device) : h.fault? d = some handleClosed := if_pos hclosed
  have hclose : b.provider.close h = (h, b.provider) := if_pos hclosed
  have hthrough {α : Type} {g : Device → Except IoError α × Device}
      (hg : ∀ d, g d = (.error handleClosed, d)) :
      b.provider.through h g = (.error handleClosed, b.provider) :=
    Provider.through_of_closed hdistinct hport hg
  refine ⟨?_, ?_, fun data => ?_, ?_, fun timeout => ?_⟩
  · rw [use, through_of_handle hhandle, hclose]
    rfl
  · rw [use, release, hhandle]
    exact congrArg Prod.snd hclose
  · rw [use, through_of_handle hhandle, Provider.write,
      hthrough fun d => by rw [Handle.write, hfault]]
    rfl
  · rw [use, through_of_handle hhandle, Provider.read,
      hthrough fun d => by rw [Handle.read, hfault]]
    rfl
  · rw [use, through_of_handle hhandle, Provider.setTimeout,
      hthrough fun d => by rw [Handle.setTimeout, hfault]]
    rfl

end Bench

namespace Record

/-- Whatever is done: of the handles on a port that are held, no more than one is not closed; the
port is open exactly if there is one; it was opened as often as the log says; it opens exactly if
its device is there and plugged in and there is none; and a handle that was closed is dead, whoever
has the port since. -/
theorem exclusive_of_operations (operations : List Operation) (port : String) :
    let r := ofOperations operations
    (∀ since since' name name', Unclosed r.log since name port →
      Unclosed r.log since' name' port → since = since' ∧ name = name') ∧
    (r.bench.provider.isOpen port = true ↔ ∃ since name, Unclosed r.log since name port) ∧
    r.bench.provider.opens port = r.log.countP (·.isOpening port) ∧
    (∀ name settings, (r.bench.use name (.openPort port settings)).1 = .done ↔
      (∃ d, r.bench.provider.device? port = some d ∧ d.unplugged = false) ∧
        ¬∃ since holder, Unclosed r.log since holder port) ∧
    ∀ since name, Held r.log since name port → .closed name ∈ since → r.bench.Dead name := by
  intro r
  have hr : r.Sound := sound_ofOperations operations
  refine ⟨fun _ _ _ _ => hr.unclosed_unique, hr.isOpen_iff, hr.opens port, fun name settings => ?_,
    fun since name hheld hmem => ?_⟩
  · rw [Bench.use_openPort_iff, ← hr.isOpen_iff, Bool.not_eq_true]
  · obtain ⟨h, hhandle, -, hclosed⟩ := hr.exists_handle hheld
    exact Bench.dead_of_closed hhandle (hclosed.mpr hmem) hr.distinct
      (hr.exclusive.known name h hhandle)

/-- A port is opened by one, pulled out and closed, put back and opened by another: the first handle
is dead, and the port belongs to the second. -/
theorem exclusive_of_operations_late :
    let r := ofOperations [.device (.add "A"), .line "x" (.openPort "A" .default),
      .device (.unplug "A"), .line "x" .close, .device (.replug "A"),
      .line "y" (.openPort "A" .default)]
    Unclosed r.log [] "y" "A" ∧
      Held r.log [.opened "y" "A", .other, .closed "x", .other] "x" "A" ∧
      r.bench.provider.isOpen "A" = true ∧ r.bench.provider.opens "A" = 2 ∧
      (∀ name settings, (r.bench.use name (.openPort "A" settings)).1 ≠ .done) ∧
      r.bench.Dead "x" := by
  intro r
  have hsecond : Unclosed r.log [] "y" "A" :=
    ⟨⟨⟨_, rfl⟩, List.forall_mem_nil _⟩, List.not_mem_nil⟩
  have hfirst : Held r.log [.opened "y" "A", .other, .closed "x", .other] "x" "A" :=
    ⟨⟨_, rfl⟩, by simp⟩
  obtain ⟨-, hopen, hopens, hbusy, hdead⟩ := exclusive_of_operations
    [.device (.add "A"), .line "x" (.openPort "A" .default), .device (.unplug "A"),
      .line "x" .close, .device (.replug "A"), .line "y" (.openPort "A" .default)] "A"
  exact ⟨hsecond, hfirst, hopen.mpr ⟨_, _, hsecond⟩, hopens,
    fun name settings hdone => ((hbusy name settings).mp hdone).2 ⟨_, _, hsecond⟩,
    hdead _ "x" hfirst (by simp)⟩

end Record

end SerialLink.Mock
