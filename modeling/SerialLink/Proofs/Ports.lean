import SerialLink.Mock.Bench

/-!
# SerialLink.Proofs.Ports

Which ports of a bench are open, and for whom.

1. Only to open a port and to close its handle change which ports are open
   (`Mock.Provider.isOpen_of_opened`, `Mock.Provider.isOpen_close`).
2. The open ports are accounted for if each of them is held by somebody else or is the one
   port that a connection has opened, but not both (`Mock.Bench.Accounts`).  Whatever is
   done on the side of the devices keeps the account (`Mock.Bench.Accounts.act`).
-/

namespace SerialLink.Mock

theorem lookup_cons {α : Type} (other : String) (a : α) (rest : List (String × α))
    (name : String) :
    ((other, a) :: rest).lookup name = if name = other then some a else rest.lookup name := by
  by_cases hname : name = other
  · rw [if_pos hname, hname, List.lookup_cons_self]
  · rw [if_neg hname, List.lookup_cons, beq_false_of_ne hname]

/-! ## open ports -/

namespace Provider

variable {p q : Provider} {port name : String} {h : Handle}

/-- The port is open. -/
def isOpen (p : Provider) (port : String) : Bool := (p.device? port).any (·.isOpen)

theorem device?_modify (p : Provider) (port name : String) (f : Device → Device) :
    (p.modify port f).device? name =
      if name = port then (p.device? name).map f else p.device? name := by
  unfold device? modify
  dsimp only
  induction p.devices with
  | nil => exact (ite_self none).symm
  | cons entry rest ih =>
    obtain ⟨other, d⟩ := entry
    rw [List.map_cons, lookup_cons, lookup_cons, ih]
    by_cases hother : other = port
    · rw [if_pos hother, hother]
      split <;> rfl
    · rw [if_neg hother]
      by_cases hname : name = other
      · rw [if_pos hname, if_pos hname, if_neg (hname ▸ hother)]
      · rw [if_neg hname, if_neg hname]

theorem isOpen_modify (p : Provider) (port name : String) (f : Device → Device) :
    (p.modify port f).isOpen name =
      if name = port then (p.device? name).any fun d => (f d).isOpen else p.isOpen name := by
  rw [isOpen, device?_modify]
  split
  · exact Option.any_map
  · rfl

/-- What leaves a device open or closed changes no port. -/
theorem isOpen_modify_of_keeps {f : Device → Device}
    (hf : ∀ d, p.device? port = some d → (f d).isOpen = d.isOpen) :
    (p.modify port f).isOpen name = p.isOpen name := by
  rw [isOpen_modify]
  split
  next hname =>
    rw [isOpen]
    cases hdevice : p.device? name with
    | none => rfl
    | some d => exact hf d (hname ▸ hdevice)
  next => rfl

theorem device?_add (p : Provider) (port name : String) :
    (p.add port).device? name =
      (p.device? name).or (if name = port then some .fresh else none) := by
  unfold add
  cases hdevice : p.device? port with
  | some d =>
    dsimp only
    split
    next hname => rw [hname, hdevice]; rfl
    next => exact (Option.or_none).symm
  | none =>
    show (p.devices ++ [(port, Device.fresh)]).lookup name = _
    rw [List.lookup_append, lookup_cons]
    rfl

theorem isOpen_add : (p.add port).isOpen name = p.isOpen name := by
  rw [isOpen, device?_add, isOpen]
  cases p.device? name with
  | some d => rfl
  | none => split <;> rfl

/-- A port that does not open leaves the others as they are. -/
theorem isOpen_of_missed {settings : PortSettings} {e : OpenError}
    (hopen : p.openPort port settings = (.error e, q)) : q.isOpen name = p.isOpen name := by
  unfold openPort at hopen
  cases hfault : p.openFault? port with
  | none => rw [hfault] at hopen; cases hopen
  | some fault =>
    rw [hfault] at hopen
    cases hopen
    rfl

/-- A port can be opened if its device is there, is plugged in and is not open. -/
theorem openFault?_eq_none_iff :
    p.openFault? port = none ↔
      ∃ d, p.device? port = some d ∧ d.unplugged = false ∧ d.isOpen = false := by
  unfold openFault?
  cases p.device? port with
  | none => exact iff_of_false nofun nofun
  | some d => cases hunplugged : d.unplugged <;> cases hopen : d.isOpen <;> simp [hunplugged, hopen]

/-- A port that opens was not open before. -/
theorem isOpen_of_opened {settings : PortSettings}
    (hopen : p.openPort port settings = (.ok h, q)) :
    h.port = port ∧ h.closed = false ∧ p.isOpen port = false ∧
      ∀ name, q.isOpen name = true ↔ name = port ∨ p.isOpen name = true := by
  unfold openPort at hopen
  cases hfault : p.openFault? port with
  | some fault => rw [hfault] at hopen; cases hopen
  | none =>
    rw [hfault] at hopen
    cases hopen
    obtain ⟨d, hdevice, -, hclosed⟩ := openFault?_eq_none_iff.mp hfault
    refine ⟨rfl, rfl, ?_, fun name => ?_⟩
    · rw [isOpen, hdevice]
      exact hclosed
    · rw [isOpen_modify]
      split
      next hname =>
        show ((p.device? name).any fun d => (opened settings d).isOpen) = true ↔ _
        rw [hname, hdevice]
        exact iff_of_true rfl (.inl rfl)
      next hname => exact (or_iff_right hname).symm

theorem isOpen_close (hopen : h.closed = false) :
    (p.close h).2.isOpen name = true ↔ p.isOpen name = true ∧ name ≠ h.port := by
  unfold close
  rw [hopen]
  show (p.modify h.port fun d => { d with isOpen := false }).isOpen name = true ↔ _
  rw [isOpen_modify]
  split
  next hname =>
    refine iff_of_false (Bool.eq_false_iff.mp ?_) fun hne => hne.2 hname
    cases p.device? name with
    | none => rfl
    | some d => rfl
  next hname => exact (and_iff_left hname).symm

theorem isOpen_setTimeout (p : Provider) (h : Handle) (t : Option Duration) :
    (p.setTimeout h t).2.isOpen name = p.isOpen name := by
  unfold setTimeout through
  cases hdevice : p.device? h.port with
  | none => rfl
  | some d =>
    refine isOpen_modify_of_keeps fun d' hd' => ?_
    obtain rfl := Option.some.inj (hdevice.symm.trans hd')
    show (h.setTimeout d t).2.isOpen = d.isOpen
    unfold Handle.setTimeout
    split <;> rfl

end Provider

/-! ## accounts -/

namespace Bench

variable {b : Bench} {own : Option String} {port name : String} {h : Handle}

/-- Somebody else holds the port open. -/
def isHeld (b : Bench) (port : String) : Bool := (b.handle? port).isSome

theorem handle?_forget (b : Bench) (port name : String) :
    (b.forget port).handle? name = if name = port then none else b.handle? name := by
  unfold forget handle?
  dsimp only
  induction b.held with
  | nil => exact (ite_self none).symm
  | cons entry rest ih =>
    obtain ⟨other, h⟩ := entry
    rw [List.filter_cons, lookup_cons]
    by_cases hother : other = port
    · rw [if_neg (by simp [hother]), ih, hother]
      split <;> rfl
    · rw [if_pos (bne_iff_ne.mpr hother), lookup_cons, ih]
      by_cases hname : name = other
      · rw [if_pos hname, if_pos hname, if_neg (hname ▸ hother)]
      · rw [if_neg hname, if_neg hname]

theorem handle?_hold (b : Bench) (port name : String) (h : Handle) :
    (b.hold port h).handle? name = if name = port then some h else b.handle? name := by
  refine (lookup_cons port h (b.forget port).held name).trans ?_
  by_cases hname : name = port
  · rw [if_pos hname, if_pos hname]
  · rw [if_neg hname, if_neg hname]
    exact (b.handle?_forget port name).trans (if_neg hname)

theorem isHeld_forget : (b.forget port).isHeld name = true ↔ name ≠ port ∧ b.isHeld name = true := by
  rw [isHeld, handle?_forget]
  split
  next hname => exact iff_of_false Bool.false_ne_true fun h => h.1 hname
  next hname => exact (and_iff_right hname).symm

theorem isHeld_hold : (b.hold port h).isHeld name = true ↔ name = port ∨ b.isHeld name = true := by
  rw [isHeld, handle?_hold]
  split
  next hname => exact iff_of_true rfl (.inl hname)
  next hname => exact (or_iff_right hname).symm

/-- Every open port is held by somebody else under its own name, or is the port `own`, but not
both. -/
structure Accounts (b : Bench) (own : Option String) : Prop where
  held : ∀ port h, b.handle? port = some h → h.port = port ∧ h.closed = false
  isOpen_iff : ∀ port, b.provider.isOpen port = true ↔ own = some port ∨ b.isHeld port = true
  apart : ∀ port, own = some port → b.isHeld port = false

namespace Accounts

/-- What opens and closes no port keeps the account. -/
theorem withProvider (hb : b.Accounts own) {p : Provider}
    (hp : ∀ port, p.isOpen port = b.provider.isOpen port) : (b.withProvider p).Accounts own :=
  ⟨hb.held, fun port => (iff_of_eq (congrArg (· = true) (hp port))).trans (hb.isOpen_iff port),
    hb.apart⟩

theorem change (hb : b.Accounts own) (port : String) {f : Device → Device}
    (hf : ∀ d, (f d).isOpen = d.isOpen) : (b.change port f).2.Accounts own := by
  unfold Bench.change
  split
  · exact hb.withProvider fun name => Provider.isOpen_modify_of_keeps fun d _ => hf d
  · exact hb

/-- A port that is not open belongs to nobody. -/
theorem not_isHeld (hb : b.Accounts own) (hclosed : b.provider.isOpen port = false) :
    own ≠ some port ∧ b.isHeld port = false := by
  have hnot : ¬(own = some port ∨ b.isHeld port = true) :=
    mt (hb.isOpen_iff port).mpr (Bool.eq_false_iff.mp hclosed)
  exact ⟨fun hown => hnot (.inl hown), Bool.eq_false_iff.mpr fun hheld => hnot (.inr hheld)⟩

/-- Somebody else tries to open a port and holds it then. -/
theorem hold (hb : b.Accounts own) (port : String) (settings : PortSettings) :
    (b.openAs port port settings).2.Accounts own := by
  unfold openAs
  cases hopen : b.provider.openPort port settings with
  | mk result p =>
    cases result with
    | error e => exact hb.withProvider fun name => Provider.isOpen_of_missed hopen
    | ok h =>
      obtain ⟨hport, hfresh, hclosed, hopened⟩ := Provider.isOpen_of_opened hopen
      obtain ⟨hown, hfree⟩ := hb.not_isHeld hclosed
      have hnone : (b.withProvider p).handle? port = none :=
        Option.isNone_iff_eq_none.mp (Option.isSome_eq_false_iff.mp hfree)
      have hrelease : (b.withProvider p).release port = (false, b.withProvider p) := by
        rw [release, hnone]
      dsimp only
      rw [hrelease]
      refine ⟨fun name k hk => ?_, fun name => ?_, fun name hname => ?_⟩
      · rw [handle?_hold] at hk
        split at hk
        next hname =>
          obtain rfl := Option.some.inj hk
          exact ⟨hport.trans hname.symm, hfresh⟩
        next => exact hb.held name k hk
      · rw [isHeld_hold]
        exact (hopened name).trans ((or_congr_right (hb.isOpen_iff name)).trans or_left_comm)
      · have hne : name ≠ port := fun heq => hown (heq ▸ hname)
        refine Bool.eq_false_iff.mpr fun hheld => ?_
        have hbefore := (isHeld_hold.mp hheld).resolve_left hne
        exact Bool.eq_false_iff.mp (hb.apart name hname) hbefore

/-- Whoever holds a port lets go of it. -/
theorem release (hb : b.Accounts own) (port : String) : (b.release port).2.Accounts own := by
  unfold Bench.release
  cases hhandle : b.handle? port with
  | none => exact hb
  | some h =>
    obtain ⟨hport, hopen⟩ := hb.held port h hhandle
    have hheld : b.isHeld port = true := by rw [isHeld, hhandle]; rfl
    have hown : own ≠ some port := fun hown =>
      Bool.eq_false_iff.mp (hb.apart port hown) hheld
    refine ⟨fun name k hk => ?_, fun name => ?_, fun name hname => ?_⟩
    · change (b.forget port).handle? name = some k at hk
      rw [handle?_forget] at hk
      split at hk
      · cases hk
      · exact hb.held name k hk
    · show (b.provider.close h).2.isOpen name = true ↔ own = some name ∨
        (b.forget port).isHeld name = true
      rw [Provider.isOpen_close hopen, isHeld_forget, hport, hb.isOpen_iff name]
      by_cases hname : name = port
      · rw [hname]
        exact iff_of_false (fun h => h.2 rfl) fun h => h.elim hown fun h => h.1 rfl
      · rw [and_iff_left hname, and_iff_right hname]
    · refine Bool.eq_false_iff.mpr fun hstill => ?_
      exact Bool.eq_false_iff.mp (hb.apart name hname) (isHeld_forget.mp hstill).2

/-- Whatever happens on the side of the devices keeps the account. -/
theorem act (hb : b.Accounts own) (action : DeviceAction) : (b.act action).2.Accounts own := by
  cases action with
  | add port => exact hb.withProvider fun name => Provider.isOpen_add
  | inject port data => exact hb.change port fun d => rfl
  | reply port request response => exact hb.change port fun d => rfl
  | echo port on => exact hb.change port fun d => rfl
  | limit port writes => exact hb.change port fun d => rfl
  | unplug port => exact hb.change port fun d => rfl
  | replug port => exact hb.change port fun d => rfl
  | written | status | attempts | list => exact hb
  | hold port => exact hb.hold port .default
  | release port => exact hb.release port

/-- A port is opened for a connection that holds none. -/
theorem opened (hb : b.Accounts none) {settings : PortSettings} {p : Provider}
    (hopen : b.provider.openPort port settings = (.ok h, p)) :
    h.closed = false ∧ (b.withProvider p).Accounts (some h.port) := by
  obtain ⟨rfl, hfresh, hclosed, hopened⟩ := Provider.isOpen_of_opened hopen
  refine ⟨hfresh, hb.held, fun name => ?_, fun name hname => ?_⟩
  · refine (hopened name).trans (or_congr ?_ ?_)
    · exact eq_comm.trans Option.some_inj.symm
    · exact (hb.isOpen_iff name).trans (or_iff_right nofun)
  · obtain rfl := Option.some.inj hname
    exact (hb.not_isHeld hclosed).2

/-- A connection closes its port. -/
theorem closed (hb : b.Accounts (some h.port)) (hopen : h.closed = false) :
    (b.withProvider (b.provider.close h).2).Accounts none := by
  refine ⟨hb.held, fun name => ?_, nofun⟩
  refine (Provider.isOpen_close hopen).trans (Iff.trans ?_ (or_iff_right nofun).symm)
  show _ ↔ b.isHeld name = true
  rw [hb.isOpen_iff name]
  by_cases hname : name = h.port
  · refine iff_of_false (fun hopen => hopen.2 hname) (Bool.eq_false_iff.mp ?_)
    exact hb.apart name (congrArg some hname.symm)
  · rw [and_iff_left hname]
    exact or_iff_right fun hown => hname (Option.some.inj hown).symm

end Accounts

/-- On a bench that nobody has used nothing is open. -/
theorem accounts_ofPorts (ports : List String) : (ofPorts ports).Accounts none := by
  have hclosed (name : String) : (Provider.ofPorts ports).isOpen name = false := by
    refine List.foldlRecOn (motive := fun p : Provider => p.isOpen name = false) _ _ rfl
      fun p hp port _ => ?_
    rw [Provider.isOpen_add, hp]
  refine ⟨nofun, fun port => ?_, nofun⟩
  exact iff_of_false (Bool.eq_false_iff.mp (hclosed port)) fun h => nomatch h

end Bench

end SerialLink.Mock
