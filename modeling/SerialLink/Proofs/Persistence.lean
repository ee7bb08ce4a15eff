import SerialLink.Config.Format
import SerialLink.Proofs.Json
import SerialLink.Proofs.Utf8

/-!
# SerialLink.Proofs.Persistence

A configuration that was saved is loaded again.

1. Each field is read from what is written of it (`Config.fields_read`), and a configuration is
   known by what is written of it (`Config.members_injective`).
2. The order of the members in a file does not matter, and neither do members that are no
   fields; a field that is missing has its default (`Config.exists_setMembers?`).  So members
   determine a configuration if they hold its fields, but for such as have their defaults
   (`Config.Faithful`), and they still do after they were put into another order, lost fields
   that have their defaults and got others (`Config.Rearranged.faithful`).
3. A configuration that can work is loaded from every file whose members determine it
   (`ConnectionConfig.load_of_faithful`), the one in which it was saved among them.
-/

namespace SerialLink

open Json

/-! ## what is written -/

/-- The numbers of a configuration fit into the words that hold them. -/
structure ConnectionConfig.Fits (c : ConnectionConfig) : Prop where
  baudRate : c.baudRate ≤ Config.maxWord32
  timeoutMs : ∀ n ∈ c.timeoutMs, n ≤ Config.maxWord64
  sendIntervalMs : c.sendIntervalMs ≤ Config.maxWord64
  queueSize : c.queueSize ≤ Config.maxWord64
  cycleRestMs : c.cycleRestMs ≤ Config.maxWord64
  settleMs : c.settleMs ≤ Config.maxWord64
  retryIntervalMs : c.retryIntervalMs ≤ Config.maxWord64
  drainBudgetMs : c.drainBudgetMs ≤ Config.maxWord64
  maxLength : ∀ d maxLength keep, c.framing = .delimiter d maxLength keep →
    maxLength ≤ Config.maxWord64

namespace Config

/-- The fields of a configuration as they are written. -/
def members (c : ConnectionConfig) : List (String × Json) :=
  match c.toJson with
  | .obj members => members
  | _ => []

/-- The names of the fields. -/
def fieldNames : List String := fields.map (·.name)

theorem map_fst_members (c : ConnectionConfig) : (members c).map (·.1) = fieldNames :=
  rfl

theorem fieldNames_nodup : fieldNames.Nodup := by
  decide

theorem fitsWord {n : Nat} (h : n ≤ maxWord64) : Parser.FitsWord n := by
  simp only [maxWord64] at h
  simp only [Parser.FitsWord, maxUnsigned, UInt64.size] at h ⊢
  omega

theorem exactAll_strings (ss : List String) : ExactAll (ss.map .str) := by
  induction ss with
  | nil => trivial
  | cons s ss ih => exact ⟨trivial, ih⟩

theorem exactAll_bytes (bs : Bytes) : ExactAll (bs.map fun b => .int b.toNat) := by
  induction bs with
  | nil => trivial
  | cons b bs ih =>
    have hlt := b.toNat_lt
    exact ⟨fitsWord (by simp only [maxWord64, UInt64.size]; omega), ih⟩

/-- What is written of a configuration has no numbers but integers of 64 bits. -/
theorem exact_toJson {c : ConnectionConfig} (h : c.Fits) : c.toJson.Exact := by
  have hbaud : c.baudRate ≤ maxWord64 := h.baudRate.trans (by decide)
  have htimeout : (Json.ofNat? c.timeoutMs).Exact := by
    cases htimeout : c.timeoutMs with
    | none => trivial
    | some n => exact fitsWord (h.timeoutMs n htimeout)
  have hframing : c.framing.toJson.Exact := by
    cases hframing : c.framing with
    | raw => exact ⟨trivial, trivial⟩
    | delimiter d maxLength keep =>
      exact ⟨trivial, exactAll_bytes d, fitsWord (h.maxLength d maxLength keep hframing), trivial,
        trivial⟩
  exact ⟨exactAll_strings c.ports, fitsWord hbaud, htimeout, fitsWord h.sendIntervalMs,
    fitsWord h.queueSize, trivial, fitsWord h.cycleRestMs, fitsWord h.settleMs,
    fitsWord h.retryIntervalMs, fitsWord h.drainBudgetMs, hframing, trivial, trivial, trivial,
    trivial, trivial⟩

/-! ## what is read -/

variable {t : Tree}

theorem string?_of_spells {s : String} (h : t.Spells (.str s)) : string? t = some s := by
  cases h with
  | string htext => simp [string?, htext]

theorem strings?_of_spells {ss : List String} (h : t.Spells (.arr (ss.map .str))) :
    strings? t = some ss := by
  cases h with
  | @array ts _ hall =>
    show ts.mapM string? = some ss
    induction ss generalizing ts with
    | nil => cases hall; rfl
    | cons s ss ih =>
      cases hall with
      | cons hfirst hrest => simp [string?_of_spells hfirst, ih hrest]

theorem nat?_of_spells {n most : Nat} (hle : n ≤ most) (h : t.Spells (.int n)) :
    nat? most t = some n := by
  cases h with
  | int hvalue => simp [nat?, Numeral.natural?, hvalue, hle]

theorem optionalNat?_of_spells {n : Option Nat} {most : Nat} (hle : ∀ k ∈ n, k ≤ most)
    (h : t.Spells (.ofNat? n)) : optionalNat? most t = some n := by
  cases n with
  | none => cases h; rfl
  | some n =>
    have hread := nat?_of_spells (hle n rfl) h
    cases h with
    | int hvalue => simp [optionalNat?, hread]

theorem bool?_of_spells {b : Bool} (h : t.Spells (.bool b)) : bool? t = some b := by
  cases h
  rfl

theorem choice?_of_spells {α : Type} {choices : List (String × α)} {name : String}
    (h : t.Spells (.str name)) : choice? choices t = choices.lookup name := by
  have hread := string?_of_spells h
  cases h with
  | string htext => simp [choice?, hread, named?]

/-- The member has the name of the other, and its value means the other's. -/
def Carries {α : Type} (means : α → Json → Prop) (m : String × α) (member : String × Json) :
    Prop :=
  m.1 = member.1 ∧ means m.2 member.2

/-- The names of members are read as they were written. -/
theorem memberNames?_of_spells {ms : List (List Piece × Tree)} {members : List (String × Json)}
    (hnames : ms.map (fun m => text? m.1) = members.map fun m => some m.1.toList)
    (hall : List.Forall₂ Tree.Spells (ms.map (·.2)) (members.map (·.2))) :
    ∃ named, memberNames? ms = some named ∧ List.Forall₂ (Carries Tree.Spells) named members := by
  induction ms generalizing members with
  | nil =>
    cases members with
    | nil => exact ⟨[], rfl, .nil⟩
    | cons => cases hnames
  | cons m ms ih =>
    cases members with
    | nil => cases hnames
    | cons member members =>
      obtain ⟨hname, hnames⟩ := List.cons.inj hnames
      cases hall with
      | cons hfirst hrest =>
        obtain ⟨named, hread, hcarries⟩ := ih hnames hrest
        refine ⟨(member.1, m.2) :: named, ?_, .cons ⟨rfl, hfirst⟩ hcarries⟩
        unfold memberNames? at hread ⊢
        simp [hread, hname]

theorem values?_of_bytes {bs : Bytes} {ts : List Tree} (depth : Nat)
    (h : List.Forall₂ Tree.Spells ts (bs.map fun b => .int b.toNat)) :
    Tree.values? depth ts = some (bs.map fun b => .int b.toNat) := by
  induction bs generalizing ts with
  | nil => cases h; rfl
  | cons b bs ih =>
    cases h with
    | cons hfirst hrest =>
      cases hfirst with
      | int hvalue => simp [Tree.values?, Tree.value?, hvalue, ih hrest]

theorem mapM_byte? (bs : Bytes) : (bs.map fun b => Json.int b.toNat).mapM byte? = some bs := by
  induction bs with
  | nil => rfl
  | cons b bs ih =>
    have hbyte : byte? (.int b.toNat) = some b := by
      show (if b.toNat < 256 then some (UInt8.ofNat b.toNat) else none) = some b
      rw [if_pos b.toNat_lt, UInt8.ofNat_toNat]
    simp [ih, hbyte]

/-- A framing is read from the kind and the fields of an object. -/
theorem framing?_object {ms : List (List Piece × Tree)} {named : List (String × Tree)}
    {kind : String} {fields : List (String × Json)} (hread : memberNames? ms = some named)
    (hkind : (only? "type" named).bind string? = some kind)
    (hfields : ((named.filter (·.1 != "type")).mapM fun (name, t) =>
      (t.value? framingDepth).map (name, ·)) = some fields) :
    framing? (.object ms) = framingOfFields? kind fields := by
  simp only [framing?, hread, Option.bind_eq_bind, Option.bind_some, hkind, hfields]

theorem framing?_raw (h : t.Spells FramingConfig.raw.toJson) : framing? t = some .raw := by
  cases h with
  | object hnames hall =>
    obtain ⟨named, hread, hcarries⟩ := memberNames?_of_spells hnames hall
    match named, hcarries with
    | [(_, kind)], .cons ⟨rfl, hkind⟩ .nil =>
      exact framing?_object hread (string?_of_spells hkind) rfl

theorem framing?_delimiter {d : Bytes} {maxLength : Nat} {keep : Bool}
    (h : t.Spells (FramingConfig.delimiter d maxLength keep).toJson) :
    framing? t = some (.delimiter d maxLength keep) := by
  cases h with
  | object hnames hall =>
    obtain ⟨named, hread, hcarries⟩ := memberNames?_of_spells hnames hall
    match named, hcarries with
    | [(_, kind), (_, bytes), (_, most), (_, kept)],
      .cons ⟨rfl, hkind⟩ (.cons ⟨rfl, hbytes⟩ (.cons ⟨rfl, hmost⟩ (.cons ⟨rfl, hkept⟩ .nil))) =>
      have hbytes : bytes.value? framingDepth = some (.ofBytes d) := by
        cases hbytes with
        | array hbytes => exact congrArg (Option.map Json.arr) (values?_of_bytes _ hbytes)
      have hmost : most.value? framingDepth = some (.int maxLength) := by
        cases hmost with
        | int hvalue => exact hvalue
      have hkept : kept.value? framingDepth = some (.bool keep) := by
        cases hkept
        rfl
      have hfields : [("delimiter", bytes), ("max_length", most), ("include_delimiter", kept)].mapM
          (fun (name, t) => (t.value? framingDepth).map (name, ·)) =
          some [("delimiter", .ofBytes d), ("max_length", .int maxLength),
            ("include_delimiter", .bool keep)] := by
        simp [hbytes, hmost, hkept]
      rw [framing?_object hread (string?_of_spells hkind) hfields]
      show ((d.map fun b => Json.int b.toNat).mapM byte?).map _ = _
      rw [mapM_byte? d]
      rfl

/-- A framing is read from what is written of it. -/
theorem framing?_of_spells {f : FramingConfig} (h : t.Spells f.toJson) : framing? t = some f := by
  cases f with
  | raw => exact framing?_raw h
  | delimiter d maxLength keep => exact framing?_delimiter h

/-! ## fields -/

/-- The field is read from what is written of a configuration in the given place. -/
def Field.Reads (f : Field) (i : Nat) (member : String × Json) : Prop :=
  f.name = member.1 ∧ ∀ (t : Tree) (b : ConnectionConfig), t.Spells member.2 →
    ∃ b', f.set? t b = some b' ∧ members b' = (members b).set i member

theorem Field.Reads.of {α : Type} {name : String} {read : Tree → Option α}
    {set : ConnectionConfig → α → ConnectionConfig} {i : Nat} {v : Json} {a : α}
    (hread : ∀ t : Tree, t.Spells v → read t = some a)
    (hset : ∀ b, members (set b a) = (members b).set i (name, v)) :
    (Field.of name read set).Reads i (name, v) := by
  refine ⟨rfl, fun t b ht => ⟨set b a, ?_, hset b⟩⟩
  simp [Field.of, hread t ht]

theorem lookup_dataBits (b : DataBits) :
    ([.five, .six, .seven, .eight].map fun b => (DataBits.name b, b)).lookup b.name = some b := by
  cases b <;> rfl

theorem lookup_parity (p : Parity) :
    ([.none, .odd, .even].map fun p => (Parity.name p, p)).lookup p.name = some p := by
  cases p <;> rfl

theorem lookup_stopBits (s : StopBits) :
    ([.one, .two].map fun s => (StopBits.name s, s)).lookup s.name = some s := by
  cases s <;> rfl

theorem lookup_flowControl (f : FlowControl) :
    ([.none, .software, .hardware].map fun f => (FlowControl.name f, f)).lookup f.name =
      some f := by
  cases f <;> rfl

/-- Each field is read from what is written of it. -/
theorem fields_read {c : ConnectionConfig} (h : c.Fits) :
    ∀ p ∈ (fields.zip (members c)).zipIdx, p.1.1.Reads p.2 p.1.2 := by
  simp only [fields, members, ConnectionConfig.toJson, List.zip_cons_cons, List.zip_nil_right,
    List.zipIdx_cons, List.zipIdx_nil, List.forall_mem_cons]
  refine ⟨.of (fun _ => strings?_of_spells) fun _ => rfl,
    .of (fun _ => nat?_of_spells h.baudRate) fun _ => rfl,
    .of (fun _ => optionalNat?_of_spells h.timeoutMs) fun _ => rfl,
    .of (fun _ => nat?_of_spells h.sendIntervalMs) fun _ => rfl,
    .of (fun _ => nat?_of_spells h.queueSize) fun _ => rfl,
    .of (fun _ => bool?_of_spells) fun _ => rfl,
    .of (fun _ => nat?_of_spells h.cycleRestMs) fun _ => rfl,
    .of (fun _ => nat?_of_spells h.settleMs) fun _ => rfl,
    .of (fun _ => nat?_of_spells h.retryIntervalMs) fun _ => rfl,
    .of (fun _ => nat?_of_spells h.drainBudgetMs) fun _ => rfl,
    .of (fun _ => framing?_of_spells) fun _ => rfl,
    .of (fun _ ht => (choice?_of_spells ht).trans (lookup_dataBits _)) fun _ => rfl,
    .of (fun _ ht => (choice?_of_spells ht).trans (lookup_parity _)) fun _ => rfl,
    .of (fun _ ht => (choice?_of_spells ht).trans (lookup_stopBits _)) fun _ => rfl,
    .of (fun _ ht => (choice?_of_spells ht).trans (lookup_flowControl _)) fun _ => rfl,
    nofun⟩

/-! ## a configuration and what is written of it -/

theorem strings_inj {ss ss' : List String} :
    ss.map Json.str = ss'.map Json.str ↔ ss = ss' :=
  List.map_inj_right fun _ _ h => Json.str.inj h

theorem ofNat?_inj {n n' : Option Nat} : Json.ofNat? n = Json.ofNat? n' ↔ n = n' := by
  cases n <;> cases n' <;>
    simp only [Json.ofNat?, Json.int.injEq, Int.natCast_inj, Option.some.injEq, reduceCtorEq]

theorem ofBytes_inj {bs bs' : Bytes} : Json.ofBytes bs = Json.ofBytes bs' ↔ bs = bs' := by
  have hbyte (b b' : UInt8) (h : Json.int b.toNat = Json.int b'.toNat) : b = b' :=
    UInt8.toNat_inj.mp (Int.natCast_inj.mp (Json.int.inj h))
  exact ⟨fun h => (List.map_inj_right hbyte).mp (Json.arr.inj h), congrArg Json.ofBytes⟩

theorem framing_inj {f f' : FramingConfig} : f.toJson = f'.toJson ↔ f = f' := by
  cases f <;> cases f' <;>
    simp only [FramingConfig.toJson, Json.obj.injEq, List.cons.injEq, Prod.mk.injEq, ofBytes_inj,
      Json.int.injEq, Int.natCast_inj, Json.bool.injEq, FramingConfig.delimiter.injEq, true_and,
      and_true, reduceCtorEq, and_false]

theorem dataBits_inj {b b' : DataBits} : b.name = b'.name ↔ b = b' := by
  cases b <;> cases b' <;> decide

theorem parity_inj {p p' : Parity} : p.name = p'.name ↔ p = p' := by
  cases p <;> cases p' <;> decide

theorem stopBits_inj {s s' : StopBits} : s.name = s'.name ↔ s = s' := by
  cases s <;> cases s' <;> decide

theorem flowControl_inj {f f' : FlowControl} : f.name = f'.name ↔ f = f' := by
  cases f <;> cases f' <;> decide

/-- A configuration is known by what is written of it. -/
theorem members_injective {c d : ConnectionConfig} (h : members c = members d) : c = d := by
  obtain ⟨ports, baudRate, timeoutMs, sendIntervalMs, queueSize, restCpu, cycleRestMs, settleMs,
    retryIntervalMs, drainBudgetMs, framing, dataBits, parity, stopBits, flowControl⟩ := c
  obtain ⟨ports', baudRate', timeoutMs', sendIntervalMs', queueSize', restCpu', cycleRestMs',
    settleMs', retryIntervalMs', drainBudgetMs', framing', dataBits', parity', stopBits',
    flowControl'⟩ := d
  simp only [members, ConnectionConfig.toJson, List.cons.injEq, Prod.mk.injEq, true_and, and_true,
    Json.arr.injEq, Json.int.injEq, Json.bool.injEq, Json.str.injEq, strings_inj, Int.natCast_inj,
    ofNat?_inj, framing_inj, dataBits_inj, parity_inj, stopBits_inj, flowControl_inj] at h
  simp only [h]

variable {c b : ConnectionConfig}

/-- Members of one name stand in one place. -/
theorem index_eq {c d : ConnectionConfig} {i j : Nat} {m m' : String × Json}
    (hi : (members c)[i]? = some m) (hj : (members d)[j]? = some m') (hname : m.1 = m'.1) :
    i = j := by
  have hci : fieldNames[i]? = some m.1 := by
    rw [← map_fst_members c, List.getElem?_map, hi]
    rfl
  have hdj : fieldNames[j]? = some m.1 := by
    rw [← map_fst_members d, List.getElem?_map, hj, hname]
    rfl
  exact (List.getElem?_inj (List.getElem?_eq_some_iff.mp hci).1 fieldNames_nodup).mp
    (hci.trans hdj.symm)

theorem eq_of_mem_members {m m' : String × Json} (hm : m ∈ members c) (hm' : m' ∈ members c)
    (hname : m.1 = m'.1) : m = m' := by
  obtain ⟨i, hi⟩ := List.mem_iff_getElem?.mp hm
  obtain ⟨j, hj⟩ := List.mem_iff_getElem?.mp hm'
  obtain rfl := index_eq hi hj hname
  exact Option.some.inj (hi.symm.trans hj)

theorem fst_mem_fieldNames {m : String × Json} (hm : m ∈ members c) : m.1 ∈ fieldNames := by
  rw [← map_fst_members c]
  exact List.mem_map_of_mem hm

/-! ## members in any order -/

/-- The fields of the given names are those of one configuration, the others have their
defaults. -/
def Blend (c : ConnectionConfig) (names : List String) (b : ConnectionConfig) : Prop :=
  ∀ (i : Nat) (m : String × Json), (members c)[i]? = some m →
    (members b)[i]? = if m.1 ∈ names then some m else (members .default)[i]?

variable {names names' : List String}

theorem blend_default (c : ConnectionConfig) : Blend c [] .default :=
  fun _ _ _ => (if_neg List.not_mem_nil).symm

theorem Blend.congr (h : Blend c names b)
    (hnames : ∀ name ∈ fieldNames, name ∈ names ↔ name ∈ names') : Blend c names' b := by
  intro i m hm
  have hfield := fst_mem_fieldNames (List.mem_of_getElem? hm)
  rw [h i m hm]
  simp [hnames m.1 hfield]

/-- A value is put into its field. -/
theorem Blend.set? (hfits : c.Fits) (h : Blend c names b) {field : Field}
    (hfield : field ∈ fields) {t : Tree} (ht : ∀ v, (field.name, v) ∈ members c → t.Spells v) :
    ∃ b', field.set? t b = some b' ∧ Blend c (field.name :: names) b' := by
  obtain ⟨i, hi⟩ := List.mem_iff_getElem?.mp hfield
  have hlt : i < (members c).length := (List.getElem?_eq_some_iff.mp hi).1
  obtain ⟨member, hmember⟩ : ∃ member, (members c)[i]? = some member :=
    ⟨_, List.getElem?_eq_getElem hlt⟩
  have hreads : field.Reads i member := by
    refine fields_read hfits ((field, member), i) (List.mk_mem_zipIdx_iff_getElem?.mpr ?_)
    exact List.getElem?_zip_eq_some.mpr ⟨hi, hmember⟩
  obtain ⟨hname, hset⟩ := hreads
  have hspells : t.Spells member.2 := by
    refine ht _ ?_
    rw [hname]
    exact List.mem_of_getElem? hmember
  obtain ⟨b', hread, hmembers⟩ := hset t b hspells
  refine ⟨b', hread, fun j m hm => ?_⟩
  rw [hmembers, List.getElem?_set]
  split
  · subst j
    obtain rfl := Option.some.inj (hmember.symm.trans hm)
    have hlt' : i < (members b).length := hlt
    simp only [hlt', if_true, hname, List.mem_cons_self]
  · rename_i hne
    have hother : m.1 ≠ field.name := fun heq =>
      hne (index_eq hmember hm (hname.symm.trans heq.symm))
    simp only [h j m hm, List.mem_cons, hother, false_or]

/-- The names of the members that are fields. -/
def known {α : Type} (ms : List (String × α)) : List String :=
  (ms.map (·.1)).filter (· ∈ fieldNames)

/-- Members are put into their fields, in whatever order they stand. -/
theorem exists_setMembers? (hfits : c.Fits) {ms : List (String × Tree)} {seen : List String}
    (hblend : Blend c seen b) (honce : (seen ++ known ms).Nodup)
    (hspells : ∀ m ∈ ms, ∀ v, (m.1, v) ∈ members c → m.2.Spells v) :
    ∃ d, setMembers? seen b ms = some d ∧ Blend c (ms.map (·.1) ++ seen) d := by
  induction ms generalizing seen b with
  | nil => exact ⟨b, rfl, hblend⟩
  | cons m ms ih =>
    obtain ⟨name, t⟩ := m
    rw [List.forall_mem_cons] at hspells
    cases hfind : fields.find? (·.name == name) with
    | none =>
      have hunknown : name ∉ fieldNames := by
        intro hmem
        obtain ⟨field, hfield, rfl⟩ := List.mem_map.mp hmem
        simpa using List.find?_eq_none.mp hfind field hfield
      have hknown : known ((name, t) :: ms) = known ms := by simp [known, hunknown]
      obtain ⟨d, hset, hd⟩ := ih hblend (hknown ▸ honce) hspells.2
      refine ⟨d, by simp only [setMembers?, hfind, hset], hd.congr fun other hother => ?_⟩
      have hne : other ≠ name := fun heq => hunknown (heq ▸ hother)
      simp [hne]
    | some field =>
      obtain rfl : field.name = name := by simpa using List.find?_some hfind
      have hfield := List.mem_of_find?_eq_some hfind
      have hknown : known ((field.name, t) :: ms) = field.name :: known ms := by
        have hmem : field.name ∈ fieldNames := List.mem_map_of_mem hfield
        simp [known, hmem]
      rw [hknown, List.perm_middle.nodup_iff] at honce
      have hseen : field.name ∉ seen := by
        have hnot := (List.nodup_cons.mp honce).1
        exact fun hmem => hnot (List.mem_append_left _ hmem)
      obtain ⟨b', hput, hblend'⟩ := hblend.set? hfits hfield hspells.1
      obtain ⟨d, hset, hd⟩ := ih hblend' honce hspells.2
      exact ⟨d, by simp [setMembers?, hfind, hseen, hput, hset],
        hd.congr fun _ _ => List.perm_middle.mem_iff⟩

/-! ## rearranged members -/

section Rearranged

variable {α : Type} {means : α → Json → Prop} {ms ms' : List (String × α)}

/-- The members are made from those that were saved: put into another order, without some that
have their defaults, and with others that are no fields.  What stands for a value is said by
`means`: the value itself, or a tree that spells it. -/
inductive Rearranged (means : α → Json → Prop) (c : ConnectionConfig) :
    List (String × α) → Prop
  | saved {ms : List (String × α)} (h : List.Forall₂ (Carries means) ms (members c)) :
    Rearranged means c ms
  | reorder {ms ms' : List (String × α)} (h : Rearranged means c ms) (hperm : ms.Perm ms') :
    Rearranged means c ms'
  | drop {name : String} {v : Json} {a : α} {ms : List (String × α)}
    (h : Rearranged means c ((name, a) :: ms)) (hmember : (name, v) ∈ members c)
    (hdefault : (name, v) ∈ members .default) : Rearranged means c ms
  | add {ms : List (String × α)} (h : Rearranged means c ms) {name : String}
    (hunknown : name ∉ fieldNames) (a : α) : Rearranged means c ((name, a) :: ms)

/-- The members determine the configuration. -/
structure Faithful (means : α → Json → Prop) (c : ConnectionConfig) (ms : List (String × α)) :
    Prop where
  /-- No field stands there twice. -/
  once : (known ms).Nodup
  /-- The fields that stand there have their values. -/
  said : ∀ m ∈ ms, ∀ v, (m.1, v) ∈ members c → means m.2 v
  /-- The fields that do not stand there have their defaults. -/
  dropped : ∀ m ∈ members c, m.1 ∉ ms.map (·.1) → m ∈ members .default

theorem map_fst_of_carries {members : List (String × Json)}
    (h : List.Forall₂ (Carries means) ms members) : ms.map (·.1) = members.map (·.1) := by
  induction h with
  | nil => rfl
  | cons hfirst _ ih => rw [List.map_cons, List.map_cons, hfirst.1, ih]

theorem exists_carries {members : List (String × Json)}
    (h : List.Forall₂ (Carries means) ms members) {m : String × α} (hm : m ∈ ms) :
    ∃ member ∈ members, Carries means m member := by
  induction h with
  | nil => cases hm
  | cons hfirst _ ih =>
    cases hm with
    | head => exact ⟨_, List.mem_cons_self, hfirst⟩
    | tail _ hm =>
      obtain ⟨member, hmember, hcarries⟩ := ih hm
      exact ⟨member, List.mem_cons_of_mem _ hmember, hcarries⟩

theorem faithful_self (c : ConnectionConfig) : Faithful Eq c (members c) where
  once := by
    rw [known, map_fst_members]
    exact fieldNames_nodup.filter _
  said m hm v hv := congrArg Prod.snd (eq_of_mem_members hm hv rfl)
  dropped m hm hmissing := absurd (List.mem_map_of_mem hm) hmissing

/-- Members that say the values of others determine what these do. -/
theorem Faithful.of_carries {named : List (String × Json)} (h : Faithful Eq c named)
    (hcarries : List.Forall₂ (Carries means) ms named) : Faithful means c ms where
  once := by
    rw [known, map_fst_of_carries hcarries]
    exact h.once
  said m hm v hv := by
    obtain ⟨member, hmember, hname, hsaid⟩ := exists_carries hcarries hm
    rwa [← h.said member hmember v (hname ▸ hv)]
  dropped m hm hmissing := by
    rw [map_fst_of_carries hcarries] at hmissing
    exact h.dropped m hm hmissing

theorem Faithful.perm (h : Faithful means c ms) (hperm : ms.Perm ms') : Faithful means c ms' := by
  have hnames : (ms.map (·.1)).Perm (ms'.map (·.1)) := hperm.map _
  refine ⟨((hnames.filter _).nodup_iff).mp h.once, fun m hm => h.said m (hperm.mem_iff.mpr hm),
    fun m hm hmissing => h.dropped m hm fun hmem => hmissing (hnames.mem_iff.mp hmem)⟩

theorem Faithful.tail {name : String} {v : Json} {a : α}
    (h : Faithful means c ((name, a) :: ms)) (hmember : (name, v) ∈ members c)
    (hdefault : (name, v) ∈ members .default) : Faithful means c ms where
  once := h.once.sublist (((List.sublist_cons_self _ _).map _).filter _)
  said m hm := h.said m (List.mem_cons_of_mem _ hm)
  dropped m hm hmissing := by
    by_cases hname : m.1 = name
    · obtain rfl := eq_of_mem_members hm hmember hname
      exact hdefault
    · refine h.dropped m hm ?_
      simp only [List.map_cons, List.mem_cons, hname, false_or]
      exact hmissing

theorem Faithful.cons (h : Faithful means c ms) {name : String} (hunknown : name ∉ fieldNames)
    (a : α) : Faithful means c ((name, a) :: ms) where
  once := by simpa [known, hunknown] using h.once
  said := by
    refine List.forall_mem_cons.mpr ⟨fun v hv => ?_, h.said⟩
    exact absurd (fst_mem_fieldNames hv) hunknown
  dropped m hm hmissing := h.dropped m hm fun hmem => hmissing (List.mem_cons_of_mem _ hmem)

/-- Rearranged members still determine the configuration. -/
theorem Rearranged.faithful (h : Rearranged means c ms) : Faithful means c ms := by
  induction h with
  | saved h => exact (faithful_self c).of_carries h
  | reorder _ hperm ih => exact ih.perm hperm
  | drop _ hmember hdefault ih => exact ih.tail hmember hdefault
  | add _ hunknown a ih => exact ih.cons hunknown a

/-- Several fields are dropped at once. -/
theorem Rearranged.drops {front : List (String × α)} (h : Rearranged means c (front ++ ms))
    (hdefault : ∀ m ∈ front, ∃ v, (m.1, v) ∈ members c ∧ (m.1, v) ∈ members .default) :
    Rearranged means c ms := by
  induction front with
  | nil => exact h
  | cons m front ih =>
    rw [List.forall_mem_cons] at hdefault
    obtain ⟨⟨v, hmember, hdefault⟩, hfront⟩ := hdefault
    exact ih (h.drop hmember hdefault) hfront

/-- The first fields are enough if the others have their defaults. -/
theorem Rearranged.take (n : Nat) (h : List.Forall₂ (Carries means) ms (members c))
    (hdefault : (members c).drop n = (members .default).drop n) :
    Rearranged means c (ms.take n) := by
  have hperm : ms.Perm (ms.drop n ++ ms.take n) := by
    conv_lhs => rw [← List.take_append_drop n ms]
    exact List.perm_append_comm
  refine ((Rearranged.saved h).reorder hperm).drops fun m hm => ?_
  obtain ⟨member, hmember, hname, -⟩ := exists_carries (List.forall₂_drop n h) hm
  refine ⟨member.2, hname ▸ List.mem_of_mem_drop hmember, hname ▸ ?_⟩
  exact List.mem_of_mem_drop (hdefault ▸ hmember)

end Rearranged

/-- There are trees for what is written of a configuration. -/
theorem exists_trees {written : List (String × Json)} (h : ExactMembers written) :
    ∃ named, List.Forall₂ (Carries Tree.Spells) named written := by
  obtain ⟨t, -, hspells⟩ := parse?_textAt .indented (v := .obj written) h
  cases hspells with
  | object hnames hall =>
    obtain ⟨named, -, hcarries⟩ := memberNames?_of_spells hnames hall
    exact ⟨named, hcarries⟩

/-- The configuration is read from members that determine it. -/
theorem Faithful.setMembers? (hfits : c.Fits) {ms : List (String × Tree)}
    (h : Faithful Tree.Spells c ms) : Config.setMembers? [] .default ms = some c := by
  obtain ⟨d, hset, hd⟩ :=
    exists_setMembers? hfits (blend_default c) (by simpa using h.once) h.said
  rw [hset]
  refine congrArg some (members_injective (List.ext_getElem? fun i => ?_))
  cases hm : (members c)[i]? with
  | none =>
    rw [List.getElem?_eq_none_iff] at hm ⊢
    exact hm
  | some m =>
    rw [hd i m hm]
    split
    · rfl
    · rename_i hmissing
      rw [List.append_nil] at hmissing
      obtain ⟨j, hj⟩ := List.mem_iff_getElem?.mp
        (h.dropped m (List.mem_of_getElem? hm) hmissing)
      rwa [index_eq hm hj rfl]

end Config

/-! ## files -/

namespace ConnectionConfig

variable {c : ConnectionConfig}

/-- A configuration is loaded from a file whose members determine it. -/
theorem load_of_faithful (hfits : c.Fits) (hvalid : c.validate = .ok ()) {file : Bytes}
    {cs : List Char} {ms : List (List Piece × Tree)} {named : List (String × Tree)}
    (hdecode : Text.Utf8.decode? file = some cs) (hparse : Tree.parse? cs = some (.object ms))
    (hnames : Config.memberNames? ms = some named)
    (h : Config.Faithful Tree.Spells c named) : load (some file) = .ok c := by
  have htext : ofText? cs = some c := by
    simp [ofText?, hparse, Config.ofTree?, hnames, h.setMembers? hfits]
  simp [load, hdecode, htext, fault?_of_validate hvalid]

/-- A configuration is loaded from the text of an object that determines it. -/
theorem load_textAt (hfits : c.Fits) (hvalid : c.validate = .ok ()) (b : Blanks)
    {members : List (String × Json)} (hexact : ExactMembers members)
    (h : Config.Faithful Eq c members) :
    load (some (Text.Utf8.encode (textAt b 0 (.obj members)))) = .ok c := by
  obtain ⟨t, hparse, hspells⟩ := parse?_textAt b (v := .obj members) hexact
  cases hspells with
  | object hnames hall =>
    obtain ⟨named, hread, hcarries⟩ := Config.memberNames?_of_spells hnames hall
    exact load_of_faithful hfits hvalid (Text.Utf8.decode?_encode _) hparse hread
      (h.of_carries hcarries)

/-- A configuration that can work is loaded from the file in which it was saved.  It is also
loaded from every object that is made from the saved one by putting the fields into another
order, dropping some that have their defaults and adding others: from the text of such an object
with any blanks, and from every other text that is read as such an object. -/
theorem load_saved (hfits : c.Fits) (hvalid : c.validate = .ok ()) :
    (∃ file, c.save true = .ok file ∧ load (some file) = .ok c) ∧
      (∀ (b : Blanks) (members : List (String × Json)), Config.Rearranged Eq c members →
        ExactMembers members →
        load (some (Text.Utf8.encode (textAt b 0 (.obj members)))) = .ok c) ∧
      ∀ (file : Bytes) (cs : List Char) (ms : List (List Piece × Tree))
        (named : List (String × Tree)), Text.Utf8.decode? file = some cs →
        Tree.parse? cs = some (.object ms) → Config.memberNames? ms = some named →
        Config.Rearranged Tree.Spells c named → load (some file) = .ok c := by
  refine ⟨⟨_, rfl, ?_⟩, fun b members h hexact => load_textAt hfits hvalid b hexact h.faithful,
    fun file cs ms named hdecode hparse hnames h =>
      load_of_faithful hfits hvalid hdecode hparse hnames h.faithful⟩
  have hload := load_textAt hfits hvalid .indented (Config.exact_toJson hfits)
    (Config.faithful_self c)
  rwa [fileText, pretty_eq]

/-- A connection over one port whose callers wait for as long as it takes. -/
def patient : ConnectionConfig := { ofPorts ["COM1"] with timeoutMs := none }

theorem load_saved_patient :
    (∃ file, patient.save true = .ok file ∧ load (some file) = .ok patient) ∧
      load (some (Text.Utf8.encode (textAt .none 0 (.obj [("note", .arr [.int 1]),
        ("baud_rate", .int 115200), ("timeout_ms", .null), ("ports", .arr [.str "COM1"])])))) =
        .ok patient ∧
      load (some (Text.Utf8.encode "\x7b\"note\":1e999, \"baud_rate\":115200,
        \"timeout_ms\" : null, \"\\u0070orts\":[\"COM1\"]\x7d".toList)) = .ok patient := by
  have hfits : patient.Fits :=
    ⟨by decide, nofun, by decide, by decide, by decide, by decide, by decide, by decide, nofun⟩
  obtain ⟨hsaved, htext, hread⟩ := load_saved hfits rfl
  have hnote : "note" ∉ Config.fieldNames := by decide
  have hlast {α : Type} {means : α → Json → Prop} {p b t : String × α}
      (h : Config.Rearranged means patient [p, b, t]) :
      Config.Rearranged means patient [b, t, p] :=
    h.reorder (List.perm_append_singleton p [b, t]).symm
  refine ⟨hsaved, htext .none _ (.add (hlast ?_) hnote _) ?_, ?_⟩
  · have hself : List.Forall₂ (Config.Carries Eq) (Config.members patient)
        (Config.members patient) := List.forall₂_same.mpr fun _ _ => ⟨rfl, rfl⟩
    exact Config.Rearranged.take 3 hself rfl
  · exact ⟨⟨Config.fitsWord (n := 1) (by decide), trivial⟩,
      Config.fitsWord (n := 115200) (by decide), trivial, ⟨trivial, trivial⟩, trivial⟩
  · obtain ⟨others, hothers⟩ := Config.exists_trees (Config.exact_toJson hfits).2.2.2
    let ports : Tree := .array [.string ("COM1".toList.map .char)]
    let baudRate : Tree := .number ⟨false, [1, 1, 5, 2, 0, 0], [], none⟩
    have hports : ports.Spells (.arr [.str "COM1"]) := .array (.cons (.string rfl) .nil)
    have hbaudRate : baudRate.Spells (.int 115200) := .int rfl
    have hcarries : List.Forall₂ (Config.Carries Tree.Spells)
        (("ports", ports) :: ("baud_rate", baudRate) :: ("timeout_ms", .null) :: others)
        (Config.members patient) :=
      .cons ⟨rfl, hports⟩ (.cons ⟨rfl, hbaudRate⟩ (.cons ⟨rfl, .null⟩ hothers))
    have hfields := Config.Rearranged.take 3 hcarries rfl
    refine hread _ _ [("note".toList.map .char, .number ⟨false, [1], [], some (false, [9, 9, 9])⟩),
      ("baud_rate".toList.map .char, baudRate), ("timeout_ms".toList.map .char, .null),
      (.unit 0x70 :: "orts".toList.map .char, ports)] _ (Text.Utf8.decode?_encode _) ?_ rfl
      (.add (hlast hfields) hnote _)
    simp only [String.reduceToList, ports]
    rfl

end ConnectionConfig

end SerialLink
