import SerialLink.Payload.Value
import SerialLink.Proofs.Json
import SerialLink.Proofs.Json.Characters
import SerialLink.Proofs.Utf8.Pieces

/-!
# SerialLink.Proofs.Json.Compact

JSON on one line, from the value to bytes and back.

1. The text on one line is the one without any blanks (`Json.compact_eq`), so it is read as a tree
   that spells the value.
2. Objects are kept with their members in the order of the names (`Json.Sorted`).  Every value
   that is read from a text is such, and nests no deeper than it may (`Json.sorted_of_parse?`);
   such a value is what a tree that spells it stands for (`Json.Tree.value?_of_spells`).
3. So the bytes of a JSON payload hold no control byte, and a value whose numbers are integers
   comes back from them exactly if it could be read at all (`SendValue.compact_payload`).
-/

namespace SerialLink.Json

/-! ## one line -/

mutual

theorem compact_eq (n : Nat) : ∀ v : Json, compact v = textAt .none n v
  | .null | .bool _ | .int _ | .float _ | .str _ => rfl
  | .arr [] | .obj [] => rfl
  | .arr (v :: vs) => by
    rw [compact, textAt, compactElements_eq (n + 1) (v :: vs), Blanks.none, List.append_nil]
  | .obj (m :: ms) => by
    rw [compact, textAt, compactMembers_eq (n + 1) (m :: ms), Blanks.none, List.append_nil]

theorem compactElements_eq (n : Nat) :
    ∀ vs : List Json, compactElements vs = elementsAt .none n vs
  | [] => rfl
  | [v] => by
    rw [compactElements, elementsAt, compact_eq n v]
    rfl
  | v :: w :: vs => by
    simp only [compactElements, elementsAt, compact_eq n v, compactElements_eq n (w :: vs)]
    rfl

theorem compactMembers_eq (n : Nat) :
    ∀ ms : List (String × Json), compactMembers ms = membersAt .none n ms
  | [] => rfl
  | [(name, v)] => by
    rw [compactMembers, membersAt, compact_eq n v]
    rfl
  | (name, v) :: m :: ms => by
    simp only [compactMembers, membersAt, compact_eq n v, compactMembers_eq n (m :: ms)]
    rfl

end

/-! ## values as they are kept -/

mutual

/-- Each object in the value has its members in the order of their names, every name once: so it
is with all objects that were put together member by member. -/
def Sorted : Json → Prop
  | .arr vs => SortedAll vs
  | .obj ms => (ms.map (·.1)).Pairwise (· < ·) ∧ SortedMembers ms
  | _ => True

/-- The objects in the elements are sorted. -/
def SortedAll : List Json → Prop
  | [] => True
  | v :: vs => v.Sorted ∧ SortedAll vs

/-- The objects in the members are sorted. -/
def SortedMembers : List (String × Json) → Prop
  | [] => True
  | (_, v) :: ms => v.Sorted ∧ SortedMembers ms

end

mutual

/-- How deeply arrays and objects nest in the value. -/
def depth : Json → Nat
  | .arr vs => depthAll vs + 1
  | .obj ms => depthMembers ms + 1
  | _ => 0

/-- How deeply the elements nest. -/
def depthAll : List Json → Nat
  | [] => 0
  | v :: vs => max v.depth (depthAll vs)

/-- How deeply the members nest. -/
def depthMembers : List (String × Json) → Nat
  | [] => 0
  | (_, v) :: ms => max v.depth (depthMembers ms)

end

theorem sortedMembers_iff {ms : List (String × Json)} :
    SortedMembers ms ↔ ∀ m ∈ ms, m.2.Sorted := by
  induction ms with
  | nil => simp [SortedMembers]
  | cons m ms ih => simp only [SortedMembers, ih, List.forall_mem_cons]

theorem depthMembers_le_iff {ms : List (String × Json)} {d : Nat} :
    depthMembers ms ≤ d ↔ ∀ m ∈ ms, m.2.depth ≤ d := by
  induction ms with
  | nil => simp [depthMembers]
  | cons m ms ih => simp only [depthMembers, Nat.max_le, ih, List.forall_mem_cons]

section

variable {name : String} {v : Json} {ms acc : List (String × Json)}

/-- A member whose name comes last is put at the end. -/
theorem insertMember_of_lt (h : ∀ m ∈ ms, m.1 < name) :
    insertMember name v ms = ms ++ [(name, v)] := by
  induction ms with
  | nil => rfl
  | cons m ms ih =>
    obtain ⟨hm, hms⟩ := List.forall_mem_cons.mp h
    have hne : name ≠ m.1 := fun heq => String.lt_irrefl name (heq ▸ hm)
    rw [insertMember, if_neg (String.lt_asymm hm), if_neg hne, ih hms]
    rfl

theorem mem_insertMember {m : String × Json} (h : m ∈ insertMember name v ms) :
    m = (name, v) ∨ m ∈ ms := by
  induction ms with
  | nil => exact .inl (List.mem_singleton.mp h)
  | cons first ms ih =>
    rw [insertMember] at h
    split at h
    next => exact List.mem_cons.mp h
    next =>
      split at h
      next => exact (List.mem_cons.mp h).imp_right (List.mem_cons_of_mem first)
      next =>
        obtain heq | hmem := List.mem_cons.mp h
        · exact .inr (heq ▸ List.mem_cons_self)
        · exact (ih hmem).imp_right (List.mem_cons_of_mem first)

/-- The order of the names is kept. -/
theorem pairwise_insertMember (name : String) (v : Json) (h : (ms.map (·.1)).Pairwise (· < ·)) :
    ((insertMember name v ms).map (·.1)).Pairwise (· < ·) := by
  induction ms with
  | nil => exact List.pairwise_singleton _ _
  | cons m ms ih =>
    obtain ⟨hfirst, hrest⟩ := List.pairwise_cons.mp h
    rw [insertMember]
    split
    next hlt =>
      refine List.pairwise_cons.mpr ⟨List.forall_mem_cons.mpr ⟨hlt, fun other hother => ?_⟩, h⟩
      exact String.lt_trans hlt (hfirst other hother)
    next hlt =>
      split
      next heq => exact List.pairwise_cons.mpr ⟨heq ▸ hfirst, hrest⟩
      next hne =>
        have hlater : m.1 < name := by
          refine String.not_le.mp fun hle => hne (String.le_antisymm hle ?_)
          exact String.not_lt.mp hlt
        refine List.pairwise_cons.mpr ⟨fun other hother => ?_, ih hrest⟩
        obtain ⟨m', hm', rfl⟩ := List.mem_map.mp hother
        obtain rfl | hmem := mem_insertMember hm'
        · exact hlater
        · exact hfirst _ (List.mem_map_of_mem hmem)

theorem foldl_insertMember_of_pairwise (h : ((acc ++ ms).map (·.1)).Pairwise (· < ·)) :
    ms.foldl (fun sorted m => insertMember m.1 m.2 sorted) acc = acc ++ ms := by
  induction ms generalizing acc with
  | nil => exact (List.append_nil acc).symm
  | cons m ms ih =>
    -- the names that are in come before all that are still to come
    have hlast : ∀ a ∈ acc, a.1 < m.1 := by
      rw [List.map_append, List.pairwise_append] at h
      exact fun a ha => h.2.2 a.1 (List.mem_map_of_mem ha) m.1 List.mem_cons_self
    rw [List.append_cons] at h ⊢
    rw [List.foldl_cons, insertMember_of_lt hlast, ih h]

theorem foldl_insertMember (ms : List (String × Json)) (h : (acc.map (·.1)).Pairwise (· < ·)) :
    ((ms.foldl (fun sorted m => insertMember m.1 m.2 sorted) acc).map (·.1)).Pairwise (· < ·) ∧
      ∀ m ∈ ms.foldl (fun sorted m => insertMember m.1 m.2 sorted) acc, m ∈ acc ∨ m ∈ ms := by
  induction ms generalizing acc with
  | nil => exact ⟨h, fun m hm => .inl hm⟩
  | cons first ms ih =>
    obtain ⟨hsorted, hmem⟩ := ih (pairwise_insertMember first.1 first.2 h)
    refine ⟨hsorted, fun m hm => ?_⟩
    obtain hinserted | hrest := hmem m hm
    · obtain rfl | hacc := mem_insertMember hinserted
      · exact .inr List.mem_cons_self
      · exact .inl hacc
    · exact .inr (List.mem_cons_of_mem first hrest)

/-- Members that are in order are put together as they are. -/
theorem ofMembers_of_pairwise (h : (ms.map (·.1)).Pairwise (· < ·)) : ofMembers ms = .obj ms :=
  congrArg obj (foldl_insertMember_of_pairwise h)

/-- An object that was put together is sorted and nests no deeper than its members, if these
are and do. -/
theorem sorted_ofMembers {d : Nat} (h : ∀ m ∈ ms, m.2.Sorted ∧ m.2.depth ≤ d) :
    (ofMembers ms).Sorted ∧ (ofMembers ms).depth ≤ d + 1 := by
  have hnil : (([] : List (String × Json)).map (·.1)).Pairwise (· < ·) := .nil
  obtain ⟨hsorted, hmem⟩ := foldl_insertMember ms hnil
  have hall : ∀ m ∈ ms.foldl (fun sorted m => insertMember m.1 m.2 sorted) [],
      m.2.Sorted ∧ m.2.depth ≤ d :=
    fun m hm => h m ((hmem m hm).resolve_left List.not_mem_nil)
  refine ⟨⟨hsorted, sortedMembers_iff.mpr fun m hm => (hall m hm).1⟩, ?_⟩
  exact Nat.succ_le_succ (depthMembers_le_iff.mpr fun m hm => (hall m hm).2)

end

/-! ## values of trees -/

/-- The value of a numeral has no parts. -/
theorem sorted_of_numeral {n : Numeral} {v : Json} (h : n.value? = some v) :
    v.Sorted ∧ v.depth = 0 := by
  unfold Numeral.value? at h
  dsimp only at h
  split at h
  · cases h
    exact ⟨trivial, rfl⟩
  split at h
  · cases h
    exact ⟨trivial, rfl⟩
  · obtain ⟨x, -, rfl⟩ := Option.map_eq_some_iff.mp h
    exact ⟨trivial, rfl⟩

mutual

/-- The value of a tree is sorted, and nests no deeper than it may. -/
theorem Tree.sorted_of_value? : ∀ (t : Tree) {d : Nat} {v : Json}, t.value? d = some v →
    v.Sorted ∧ v.depth ≤ d
  | .null, d, v, h => by
    obtain rfl := Option.some.inj h
    exact ⟨trivial, Nat.zero_le d⟩
  | .bool b, d, v, h => by
    obtain rfl := Option.some.inj h
    exact ⟨trivial, Nat.zero_le d⟩
  | .number n, d, v, h => by
    obtain ⟨hsorted, hdepth⟩ := sorted_of_numeral h
    exact ⟨hsorted, hdepth ▸ Nat.zero_le d⟩
  | .string ps, d, v, h => by
    obtain ⟨cs, -, rfl⟩ := Option.map_eq_some_iff.mp h
    exact ⟨trivial, Nat.zero_le d⟩
  | .array ts, 0, v, h => by cases h
  | .array ts, d + 1, v, h => by
    obtain ⟨vs, hvs, rfl⟩ := Option.map_eq_some_iff.mp h
    obtain ⟨hsorted, hdepth⟩ := Tree.sorted_of_values? ts hvs
    exact ⟨hsorted, Nat.succ_le_succ hdepth⟩
  | .object ms, 0, v, h => by cases h
  | .object ms, d + 1, v, h => by
    obtain ⟨members, hmembers, rfl⟩ := Option.map_eq_some_iff.mp h
    exact sorted_ofMembers (Tree.sorted_of_members? ms hmembers)

theorem Tree.sorted_of_values? : ∀ (ts : List Tree) {d : Nat} {vs : List Json},
    Tree.values? d ts = some vs → SortedAll vs ∧ depthAll vs ≤ d
  | [], d, vs, h => by
    obtain rfl := Option.some.inj h
    exact ⟨trivial, Nat.zero_le d⟩
  | t :: ts, d, vs, h => by
    obtain ⟨v, hv, h⟩ := Option.bind_eq_some_iff.mp h
    obtain ⟨rest, hrest, h⟩ := Option.bind_eq_some_iff.mp h
    obtain rfl := Option.some.inj h
    obtain ⟨hsorted, hdepth⟩ := Tree.sorted_of_value? t hv
    obtain ⟨hsortedRest, hdepthRest⟩ := Tree.sorted_of_values? ts hrest
    exact ⟨⟨hsorted, hsortedRest⟩, Nat.max_le.mpr ⟨hdepth, hdepthRest⟩⟩

theorem Tree.sorted_of_members? : ∀ (ms : List (List Piece × Tree)) {d : Nat}
    {members : List (String × Json)}, Tree.members? d ms = some members →
    ∀ m ∈ members, m.2.Sorted ∧ m.2.depth ≤ d
  | [], d, members, h => by
    obtain rfl := Option.some.inj h
    exact nofun
  | (ps, t) :: ms, d, members, h => by
    obtain ⟨name, -, h⟩ := Option.bind_eq_some_iff.mp h
    obtain ⟨v, hv, h⟩ := Option.bind_eq_some_iff.mp h
    obtain ⟨rest, hrest, h⟩ := Option.bind_eq_some_iff.mp h
    obtain rfl := Option.some.inj h
    exact List.forall_mem_cons.mpr ⟨Tree.sorted_of_value? t hv, Tree.sorted_of_members? ms hrest⟩

end

mutual

/-- A tree that spells a sorted value stands for it, if it may nest as deeply. -/
theorem Tree.value?_of_spells : ∀ (v : Json) {t : Tree} {d : Nat}, t.Spells v → v.Sorted →
    v.depth ≤ d → t.value? d = some v
  | .null, _, _, .null, _, _ => rfl
  | .bool _, _, _, .bool _, _, _ => rfl
  | .int _, _, _, .int hvalue, _, _ => hvalue
  | .float _, _, _, .float hvalue, _, _ => hvalue
  | .str s, _, d, .string htext, _, _ => by
    rw [Tree.value?, htext, Option.map_some, String.ofList_toList]
  | .arr vs, _, d + 1, .array h, hsorted, hdepth => by
    rw [Tree.value?, Tree.values?_of_spells vs h hsorted (Nat.le_of_succ_le_succ hdepth)]
    rfl
  | .obj members, _, d + 1, .object hnames h, hsorted, hdepth => by
    rw [Tree.value?, Tree.members?_of_spells members hnames h hsorted.2
      (Nat.le_of_succ_le_succ hdepth), Option.map_some, ofMembers_of_pairwise hsorted.1]

theorem Tree.values?_of_spells : ∀ (vs : List Json) {ts : List Tree} {d : Nat},
    List.Forall₂ Tree.Spells ts vs → SortedAll vs → depthAll vs ≤ d →
    Tree.values? d ts = some vs
  | [], _, _, .nil, _, _ => rfl
  | v :: vs, _, d, .cons hv hvs, hsorted, hdepth => by
    obtain ⟨hfirst, hrest⟩ := Nat.max_le.mp hdepth
    rw [Tree.values?, Tree.value?_of_spells v hv hsorted.1 hfirst,
      Tree.values?_of_spells vs hvs hsorted.2 hrest]
    rfl

theorem Tree.members?_of_spells : ∀ (members : List (String × Json))
    {ms : List (List Piece × Tree)} {d : Nat},
    ms.map (fun m => text? m.1) = members.map (fun m => some m.1.toList) →
    List.Forall₂ Tree.Spells (ms.map (·.2)) (members.map (·.2)) → SortedMembers members →
    depthMembers members ≤ d → Tree.members? d ms = some members
  | [], [], _, _, _, _, _ => rfl
  | (name, v) :: members, (ps, t) :: ms, d, hnames, .cons hv hms, hsorted, hdepth => by
    obtain ⟨hname, hnames⟩ := List.cons.inj hnames
    change text? ps = some name.toList at hname
    obtain ⟨hfirst, hrest⟩ := Nat.max_le.mp hdepth
    rw [Tree.members?, hname, Tree.value?_of_spells v hv hsorted.1 hfirst,
      Tree.members?_of_spells members hnames hms hsorted.2 hrest]
    simp [String.ofList_toList]

end

/-- Every value that is read from a text is sorted and nests no deeper than it may. -/
theorem sorted_of_parse? {cs : List Char} {v : Json} (h : parse? cs = some v) :
    v.Sorted ∧ v.depth ≤ maxDepth := by
  obtain ⟨t, -, hvalue⟩ := Option.bind_eq_some_iff.mp h
  exact Tree.sorted_of_value? t hvalue

/-- A value whose numbers are integers is read from its text on one line exactly if it is sorted
and nests no deeper than it may. -/
theorem parse?_compact_iff {v : Json} (hexact : v.Exact) :
    parse? (compact v) = some v ↔ v.Sorted ∧ v.depth ≤ maxDepth := by
  refine ⟨sorted_of_parse?, fun h => ?_⟩
  obtain ⟨t, hparse, hspells⟩ := parse?_textAt .none hexact
  rw [parse?, compact_eq 0 v, hparse, Option.bind_some]
  exact Tree.value?_of_spells v hspells h.1 h.2

end SerialLink.Json

namespace SerialLink.SendValue

open Text

/-- A JSON payload is one line: its bytes are no control bytes, whatever strings and numbers its
value holds.  If the numbers of the value are integers, it is what the payload is read as, provided
that it nests no deeper than 127 levels and that its objects are kept as objects are, with their
members in the order of the names and each name once.  Otherwise it is not. -/
theorem compact_payload (v : Json) :
    (∀ b ∈ (SendValue.json v).normalize, 0x20 ≤ b.toNat) ∧
      (v.Exact →
        ((Utf8.decode? (SendValue.json v).normalize).bind Json.parse? = some v ↔
          v.Sorted ∧ v.depth ≤ 127)) := by
  constructor
  · intro b hb
    obtain ⟨c, hc, hmem⟩ := List.mem_flatMap.mp hb
    have hle := Json.le_compact v c hc
    obtain heq | hhigh := Utf8.eq_or_le_of_mem_encodeChar hmem <;> omega
  · intro hexact
    rw [normalize, Utf8.decode?_encode, Option.bind_some]
    exact Json.parse?_compact_iff hexact

/-- A name with a line feed and a quotation mark, the least and the greatest integer, and a text
with a null character, a backslash and a line separator.  The payload has the byte of the
backslash in it. -/
theorem compact_payload_escaped :
    let v : Json := .obj [("a\n\"", .arr [.int (-9223372036854775808), .int 18446744073709551615]),
      ("b", .str "\x00\\\u2028")]
    (0x5c ∈ (SendValue.json v).normalize ∧ 0x20 ≤ (0x5c : UInt8).toNat) ∧
      v.Exact ∧ v.Sorted ∧ v.depth ≤ 127 ∧
      (Utf8.decode? (SendValue.json v).normalize).bind Json.parse? = some v := by
  intro v
  have hmem : 0x5c ∈ (SendValue.json v).normalize := by decide +kernel
  have hexact : v.Exact := by
    simp [v, Json.Exact, Json.ExactAll, Json.ExactMembers, Json.Parser.FitsWord, Json.maxUnsigned]
  have hnames : "a\n\"" < "b" := by decide
  have hsorted : v.Sorted :=
    ⟨List.pairwise_pair.mpr hnames, ⟨trivial, trivial, trivial⟩, trivial, trivial⟩
  have hdepth : v.depth ≤ 127 := by
    simp [v, Json.depth, Json.depthAll, Json.depthMembers]
  exact ⟨⟨hmem, (compact_payload v).1 0x5c hmem⟩, hexact, hsorted, hdepth,
    ((compact_payload v).2 hexact).mpr ⟨hsorted, hdepth⟩⟩

end SerialLink.SendValue
