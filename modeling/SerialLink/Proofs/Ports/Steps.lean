import Mathlib.Data.List.Nodup
import SerialLink.Proofs.Ports

/-!
# SerialLink.Proofs.Ports.Steps

What is done on a bench, and what comes of it for the handles that are held.

1. An operation opens a port, closes a handle, lets go of one, or does none of this
   (`Occurrence`).
2. To add a device, to change one from its own side, to write, to read and to set a timeout opens
   and closes nothing (`Provider.Spared`).
3. So an operation does to handles and devices no more than its occurrence says
   (`Bench.operate_step`).  What else holds of all operations is read off these steps.
-/

namespace SerialLink.Mock

/-! ## operations -/

/-- Something is done on a bench, on the side of the devices or through a handle that is held under
a name. -/
inductive Operation where
  | device (action : DeviceAction)
  | line (name : String) (action : LineAction)
  deriving DecidableEq, Repr

/-- What came of it for the handles that are held. -/
inductive Occurrence where
  /-- The port was opened and its handle is held under the name. -/
  | opened (name port : String)
  /-- The handle that is held under the name, if there is one, was closed. -/
  | closed (name : String)
  /-- The handle that was held under the name, if there was one, was let go of. -/
  | dropped (name : String)
  | other
  deriving DecidableEq, Repr

namespace Occurrence

/-- What came of a device action, by its answer. -/
def ofDevice : DeviceAction → DeviceAnswer → Occurrence
  | .hold port, .done => .opened port port
  | .release port, _ => .dropped port
  | _, _ => .other

/-- What came of a line action under a name, by its answer. -/
def ofLine (name : String) : LineAction → LineAnswer → Occurrence
  | .openPort port _, .done => .opened name port
  | .close, _ => .closed name
  | .release, _ => .dropped name
  | _, _ => .other

/-- The port was opened. -/
def isOpening (port : String) : Occurrence → Bool
  | .opened _ name => name = port
  | _ => false

end Occurrence

/-! ## devices -/

/-- The device was opened as often as before, and is as open. -/
structure Device.Kept (d e : Device) : Prop where
  isOpen : e.isOpen = d.isOpen
  opens : e.opens = d.opens

namespace Handle

theorem kept_write (h : Handle) (d : Device) (payload : Bytes) :
    d.Kept (h.write d payload).2 := by
  unfold write
  split
  · exact ⟨rfl, rfl⟩
  · split
    · exact ⟨rfl, rfl⟩
    · unfold Device.take
      dsimp only
      split <;> split <;> exact ⟨rfl, rfl⟩

theorem kept_read (h : Handle) (d : Device) : d.Kept (h.read d).2 := by
  unfold read
  split <;> exact ⟨rfl, rfl⟩

theorem kept_setTimeout (h : Handle) (d : Device) (timeout : Option Duration) :
    d.Kept (h.setTimeout d timeout).2 := by
  unfold setTimeout
  split <;> exact ⟨rfl, rfl⟩

end Handle

namespace Provider

variable {p q : Provider} {port name : String} {h : Handle} {f : Device → Device}

/-- How often the port was opened. -/
def opens (p : Provider) (port : String) : Nat := (p.device? port).elim 0 (·.opens)

/-- The names of the ports, one for each device. -/
def ports (p : Provider) : List String := p.devices.map Prod.fst

theorem mem_ports_iff : port ∈ p.ports ↔ ∃ d, p.device? port = some d := by
  unfold ports device?
  rw [← Option.ne_none_iff_exists', Ne, List.lookup_eq_none_iff]
  simp

theorem ports_modify (p : Provider) (port : String) (f : Device → Device) :
    (p.modify port f).ports = p.ports := by
  unfold ports modify
  dsimp only
  rw [List.map_map]
  refine List.map_congr_left fun entry _ => ?_
  show (if entry.1 = port then (entry.1, f entry.2) else (entry.1, entry.2)).1 = entry.1
  split <;> rfl

theorem ports_add (p : Provider) (port : String) :
    (p.add port).ports = p.ports ∨ port ∉ p.ports ∧ (p.add port).ports = p.ports ++ [port] := by
  unfold add
  cases hdevice : p.device? port with
  | some d => exact .inl rfl
  | none =>
    refine .inr ⟨fun hmem => ?_, List.map_append⟩
    obtain ⟨d, hd⟩ := mem_ports_iff.mp hmem
    rw [hdevice] at hd
    cases hd

theorem opens_modify (p : Provider) (port name : String) (f : Device → Device) :
    (p.modify port f).opens name =
      if name = port then (p.device? name).elim 0 fun d => (f d).opens else p.opens name := by
  rw [opens, device?_modify]
  split
  · cases p.device? name <;> rfl
  · rfl

/-- To put a device in its own place changes nothing. -/
theorem modify_self {d : Device} (hdistinct : p.ports.Nodup) (hdevice : p.device? port = some d) :
    (p.modify port fun _ => d) = p := by
  obtain ⟨before, after, hsplit, -⟩ := List.lookup_eq_some_iff.mp hdevice
  have hmem : (port, d) ∈ p.devices := by
    rw [hsplit]
    exact List.mem_append_right before List.mem_cons_self
  have hdevices : (p.modify port fun _ => d).devices = p.devices := by
    refine (List.map_congr_left fun entry hentry => ?_).trans (List.map_id p.devices)
    obtain ⟨name, e⟩ := entry
    dsimp only
    split
    -- no other device has the name of the port
    next hname => exact List.inj_on_of_nodup_map hdistinct hmem hentry hname.symm ▸ hname ▸ rfl
    next => rfl
  exact congrArg (fun devices => { p with devices }) hdevices

/-! ## nothing opened, nothing closed -/

/-- There are the same ports and maybe others, and none was opened or closed. -/
structure Spared (p q : Provider) : Prop where
  isOpen : ∀ port, q.isOpen port = p.isOpen port
  opens : ∀ port, q.opens port = p.opens port
  distinct : p.ports.Nodup → q.ports.Nodup
  ports : p.ports ⊆ q.ports

theorem Spared.refl (p : Provider) : p.Spared p :=
  ⟨fun _ => rfl, fun _ => rfl, id, fun _ => id⟩

theorem spared_modify (hf : ∀ d, p.device? port = some d → d.Kept (f d)) :
    p.Spared (p.modify port f) where
  isOpen name := isOpen_modify_of_keeps fun d hd => (hf d hd).isOpen
  opens name := by
    rw [opens_modify]
    split
    next hname =>
      rw [opens]
      cases hdevice : p.device? name with
      | none => rfl
      | some d => exact (hf d (hname ▸ hdevice)).opens
    next => rfl
  distinct := by rw [ports_modify]; exact id
  ports := by rw [ports_modify]; exact List.Subset.refl _

theorem spared_add (p : Provider) (port : String) : p.Spared (p.add port) where
  isOpen _ := isOpen_add
  opens name := by
    rw [opens, device?_add, opens]
    cases p.device? name with
    | some d => rfl
    | none => split <;> rfl
  distinct hdistinct := by
    obtain hports | ⟨hnew, hports⟩ := p.ports_add port
    · rwa [hports]
    · rw [hports]
      exact List.nodup_append.mpr ⟨hdistinct, List.pairwise_singleton _ port,
        fun name hname other hother heq => hnew (List.mem_singleton.mp hother ▸ heq ▸ hname)⟩
  ports := by
    obtain hports | ⟨-, hports⟩ := p.ports_add port
    · rw [hports]; exact List.Subset.refl _
    · rw [hports]; exact List.subset_append_left _ _

/-- What is done to a device through a handle opens and closes nothing. -/
theorem spared_through {α : Type} {g : Device → Except IoError α × Device}
    (hg : ∀ d : Device, d.Kept (g d).2) (p : Provider) (h : Handle) :
    p.Spared (p.through h g).2 := by
  unfold through
  cases hdevice : p.device? h.port with
  | none => exact .refl p
  | some d =>
    dsimp only
    refine spared_modify fun e he => ?_
    obtain rfl := Option.some.inj (hdevice.symm.trans he)
    exact hg d

theorem spared_of_missed {settings : PortSettings} {e : OpenError}
    (hopen : p.openPort port settings = (.error e, q)) : p.Spared q := by
  unfold openPort at hopen
  cases hfault : p.openFault? port with
  | none => rw [hfault] at hopen; cases hopen
  | some fault =>
    rw [hfault] at hopen
    cases hopen
    exact ⟨fun _ => rfl, fun _ => rfl, id, fun _ => id⟩

/-! ## opening and closing -/

theorem opens_of_opened {settings : PortSettings}
    (hopen : p.openPort port settings = (.ok h, q)) :
    q.ports = p.ports ∧ port ∈ p.ports ∧
      ∀ name, q.opens name = p.opens name + if name = port then 1 else 0 := by
  unfold openPort at hopen
  cases hfault : p.openFault? port with
  | some fault => rw [hfault] at hopen; cases hopen
  | none =>
    rw [hfault] at hopen
    cases hopen
    obtain ⟨d, hdevice, -⟩ := openFault?_eq_none_iff.mp hfault
    refine ⟨ports_modify _ port _, mem_ports_iff.mpr ⟨d, hdevice⟩, fun name => ?_⟩
    rw [opens_modify]
    split
    next hname =>
      show (p.device? name).elim 0 (fun d => (opened settings d).opens) = p.opens name + 1
      rw [opens, hname, hdevice]
      rfl
    next => rfl

theorem opens_close (p : Provider) (h : Handle) (name : String) :
    (p.close h).2.opens name = p.opens name := by
  unfold close
  split
  · rfl
  · show (p.modify h.port fun d => { d with isOpen := false }).opens name = p.opens name
    rw [opens_modify, opens]
    split <;> cases p.device? name <;> rfl

theorem fst_close (p : Provider) (h : Handle) : (p.close h).1 = { h with closed := true } := by
  unfold close
  split
  next hclosed => rw [← hclosed]
  next => rfl

theorem isOpen_close_iff (p : Provider) (h : Handle) (name : String) :
    (p.close h).2.isOpen name = true ↔
      p.isOpen name = true ∧ (h.closed = false → name ≠ h.port) := by
  cases hclosed : h.closed with
  | false => rw [isOpen_close hclosed, forall_prop_of_true rfl]
  | true =>
    unfold close
    rw [hclosed]
    exact (and_iff_left nofun).symm

theorem ports_close (p : Provider) (h : Handle) : (p.close h).2.ports = p.ports := by
  unfold close
  split
  · rfl
  · exact ports_modify _ _ _

end Provider

/-! ## steps -/

/-- What an occurrence has left of the handles, and of the devices. -/
inductive Bench.Step (b : Bench) : Occurrence → Bench → Prop
  | opened {name port : String} {settings : PortSettings} {h : Handle} {p : Provider}
      (hopen : b.provider.openPort port settings = (.ok h, p)) :
    b.Step (.opened name port) (((b.withProvider p).release name).2.hold name h)
  | closed {name : String} {h : Handle} (hhandle : b.handle? name = some h) :
    b.Step (.closed name) ((b.withProvider (b.provider.close h).2).hold name
      { h with closed := true })
  /-- There is nothing to close. -/
  | missed {name : String} (hhandle : b.handle? name = none) : b.Step (.closed name) b
  | dropped (name : String) : b.Step (.dropped name) (b.release name).2
  | other {c : Bench} (hheld : c.held = b.held) (hspared : b.provider.Spared c.provider) :
    b.Step .other c

namespace Bench

variable {b c : Bench} {o : Occurrence} {own : Option String} {name port : String} {h : Handle}

/-- What is done on a bench, and what comes of it for the handles. -/
def operate (b : Bench) : Operation → Occurrence × Bench
  | .device action => (.ofDevice action (b.act action).1, (b.act action).2)
  | .line name action => (.ofLine name action (b.use name action).1, (b.use name action).2)

theorem change_step (b : Bench) (port : String) {f : Device → Device}
    (hf : ∀ d : Device, d.Kept (f d)) : b.Step .other (b.change port f).2 := by
  unfold change
  split
  · exact .other rfl (Provider.spared_modify fun d _ => hf d)
  · exact .other rfl (.refl _)

theorem openAs_step (b : Bench) (name port : String) (settings : PortSettings) :
    (∃ e, (b.openAs name port settings).1 = .error e ∧
      b.Step .other (b.openAs name port settings).2) ∨
    ((b.openAs name port settings).1 = .ok () ∧
      b.Step (.opened name port) (b.openAs name port settings).2) := by
  unfold openAs
  cases hopen : b.provider.openPort port settings with
  | mk result p =>
    cases result with
    | error e => exact .inl ⟨e, rfl, .other rfl (Provider.spared_of_missed hopen)⟩
    | ok h => exact .inr ⟨rfl, .opened hopen⟩

/-- To use a handle opens and closes nothing. -/
theorem through_step (b : Bench) (name : String) {f : Handle → LineAnswer × Bench}
    (hf : ∀ h, b.Step .other (f h).2) : b.Step .other (b.through name f).2 := by
  unfold through
  split
  · exact hf _
  · exact .other rfl (.refl _)

theorem act_step (b : Bench) (action : DeviceAction) :
    b.Step (.ofDevice action (b.act action).1) (b.act action).2 := by
  cases action with
  | add port => exact .other rfl (b.provider.spared_add port)
  | inject port data => exact b.change_step port fun d => ⟨rfl, rfl⟩
  | reply port request response => exact b.change_step port fun d => ⟨rfl, rfl⟩
  | echo port on => exact b.change_step port fun d => ⟨rfl, rfl⟩
  | limit port writes => exact b.change_step port fun d => ⟨rfl, rfl⟩
  | unplug port => exact b.change_step port fun d => ⟨rfl, rfl⟩
  | replug port => exact b.change_step port fun d => ⟨rfl, rfl⟩
  | written | status | attempts | list => exact .other rfl (.refl _)
  | release port => exact .dropped port
  | hold port =>
    obtain ⟨e, hresult, hstep⟩ | ⟨hresult, hstep⟩ := b.openAs_step port port .default
    · simp only [act, hresult]
      exact hstep
    · simp only [act, hresult]
      exact hstep

theorem use_step (b : Bench) (name : String) (action : LineAction) :
    b.Step (.ofLine name action (b.use name action).1) (b.use name action).2 := by
  cases action with
  | openPort port settings =>
    obtain ⟨e, hresult, hstep⟩ | ⟨hresult, hstep⟩ := b.openAs_step name port settings
    · simp only [use, hresult]
      exact hstep
    · simp only [use, hresult]
      exact hstep
  | write data =>
    exact b.through_step name fun h =>
      .other rfl (Provider.spared_through (fun d => h.kept_write d data) b.provider h)
  | read =>
    exact b.through_step name fun h =>
      .other rfl (Provider.spared_through h.kept_read b.provider h)
  | setTimeout timeout =>
    exact b.through_step name fun h =>
      .other rfl (Provider.spared_through (fun d => h.kept_setTimeout d timeout) b.provider h)
  | info => exact b.through_step name fun h => .other rfl (.refl _)
  | release => exact .dropped name
  | close =>
    show b.Step (.closed name) (b.through name _).2
    unfold through
    cases hhandle : b.handle? name with
    | none => exact .missed hhandle
    | some h =>
      dsimp only
      rw [Provider.fst_close]
      exact .closed hhandle

theorem operate_step (b : Bench) (operation : Operation) :
    b.Step (b.operate operation).1 (b.operate operation).2 := by
  cases operation with
  | device action => exact b.act_step action
  | line name action => exact b.use_step name action

theorem handle?_release (b : Bench) (name other : String) :
    (b.release name).2.handle? other = if other = name then none else b.handle? other := by
  unfold release
  cases hhandle : b.handle? name with
  | none =>
    dsimp only
    split
    next hother => rw [hother]; exact hhandle
    next => rfl
  | some h => exact b.handle?_forget name other

theorem ports_release (b : Bench) (name : String) :
    (b.release name).2.provider.ports = b.provider.ports := by
  unfold release
  split
  · exact Provider.ports_close _ _
  · rfl

theorem opens_release (b : Bench) (name port : String) :
    (b.release name).2.provider.opens port = b.provider.opens port := by
  unfold release
  split
  · exact Provider.opens_close _ _ _
  · rfl

namespace Step

/-- A port was opened once more if it was opened now. -/
theorem opens (hstep : b.Step o c) (port : String) :
    c.provider.opens port = b.provider.opens port + if o.isOpening port then 1 else 0 := by
  cases hstep with
  | opened hopen =>
    obtain ⟨-, -, hopens⟩ := Provider.opens_of_opened hopen
    refine (opens_release _ _ port).trans ((hopens port).trans ?_)
    simp [Occurrence.isOpening, eq_comm]
  | closed hhandle => exact Provider.opens_close _ _ port
  | missed hhandle => rfl
  | dropped name => exact opens_release b name port
  | other hheld hspared => exact hspared.opens port

theorem distinct (hstep : b.Step o c) (hdistinct : b.provider.ports.Nodup) :
    c.provider.ports.Nodup := by
  cases hstep with
  | opened hopen =>
    obtain ⟨hports, -, -⟩ := Provider.opens_of_opened hopen
    show (Bench.release _ _).2.provider.ports.Nodup
    rw [ports_release]
    exact hports ▸ hdistinct
  | closed hhandle => exact (Provider.ports_close _ _).symm ▸ hdistinct
  | missed hhandle => exact hdistinct
  | dropped name => exact (ports_release b name).symm ▸ hdistinct
  | other hheld hspared => exact hspared.distinct hdistinct

end Step

end Bench

end SerialLink.Mock
