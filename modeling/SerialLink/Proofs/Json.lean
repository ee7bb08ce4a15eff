import Mathlib.Data.List.DropRight
import Mathlib.Data.List.Forall2
import SerialLink.Proofs.Json.Tokens

/-!
# SerialLink.Proofs.Json

What is written as JSON is read again.

1. A tree spells a value if it says the same, with any escapes in its strings
   (`Json.Tree.Spells`).
2. A text may have blanks between its parts (`Json.Blanks`), an indented text has them at the
   beginning of each line and behind each colon (`Json.pretty_eq`).
3. From a text with any blanks the parser reads a tree that spells the value
   (`Json.Parser.value?_textAt`), as long as its numbers are integers of 64 bits
   (`Json.Exact`).
-/

namespace SerialLink.Json

open Decimal

/-! ## values and trees -/

/-- The tree says the value. -/
inductive Tree.Spells : Tree → Json → Prop
  | null : Spells .null .null
  | bool (b : Bool) : Spells (.bool b) (.bool b)
  | int {n : Numeral} {i : Int} (h : n.value? = some (.int i)) : Spells (.number n) (.int i)
  | float {n : Numeral} {x : Float} (h : n.value? = some (.float x)) :
    Spells (.number n) (.float x)
  | string {ps : List Piece} {s : String} (h : text? ps = some s.toList) :
    Spells (.string ps) (.str s)
  | array {ts : List Tree} {vs : List Json} (h : List.Forall₂ Spells ts vs) :
    Spells (.array ts) (.arr vs)
  /-- The members have the same names in the same order. -/
  | object {ms : List (List Piece × Tree)} {members : List (String × Json)}
      (hnames : ms.map (fun m => text? m.1) = members.map fun m => some m.1.toList)
      (h : List.Forall₂ Spells (ms.map (·.2)) (members.map (·.2))) :
    Spells (.object ms) (.obj members)

mutual

/-- All numbers in the value are integers that fit into 64 bits. -/
def Exact : Json → Prop
  | .float _ => False
  | .int n => Parser.FitsWord n
  | .arr vs => ExactAll vs
  | .obj ms => ExactMembers ms
  | _ => True

/-- All numbers in the elements are integers that fit into 64 bits. -/
def ExactAll : List Json → Prop
  | [] => True
  | v :: vs => v.Exact ∧ ExactAll vs

/-- All numbers in the members are integers that fit into 64 bits. -/
def ExactMembers : List (String × Json) → Prop
  | [] => True
  | (_, v) :: ms => v.Exact ∧ ExactMembers ms

end

/-! ## texts -/

/-- Where a text has blanks: before each element and each closing bracket, by level, and behind
each colon. -/
structure Blanks where
  line : Nat → List Char
  colon : List Char
  line_blank : ∀ n, ∀ c ∈ line n, Parser.isSpace c = true
  colon_blank : ∀ c ∈ colon, Parser.isSpace c = true

/-- The blanks of an indented text. -/
def Blanks.indented : Blanks where
  line := newline
  colon := [' ']
  line_blank n c hc := by
    cases hc with
    | head => rfl
    | tail _ hc => rw [List.eq_of_mem_replicate hc]; rfl
  colon_blank c hc := by
    rw [List.mem_singleton.mp hc]
    rfl

/-- No blanks at all. -/
def Blanks.none : Blanks where
  line _ := []
  colon := []
  line_blank _ := nofun
  colon_blank := nofun

mutual

/-- The text of a value at level `n`. -/
def textAt (b : Blanks) (n : Nat) : Json → List Char
  | .arr [] => ['[', ']']
  | .arr (v :: vs) => '[' :: elementsAt b (n + 1) (v :: vs) ++ b.line n ++ [']']
  | .obj [] => ['\x7b', '\x7d']
  | .obj (m :: ms) => '\x7b' :: membersAt b (n + 1) (m :: ms) ++ b.line n ++ ['\x7d']
  | leaf => leafText leaf

/-- The elements of an array at level `n`. -/
def elementsAt (b : Blanks) (n : Nat) : List Json → List Char
  | [] => []
  | [v] => b.line n ++ textAt b n v
  | v :: vs => b.line n ++ textAt b n v ++ ',' :: elementsAt b n vs

/-- The members of an object at level `n`. -/
def membersAt (b : Blanks) (n : Nat) : List (String × Json) → List Char
  | [] => []
  | [(name, v)] => b.line n ++ quoted name ++ ':' :: (b.colon ++ textAt b n v)
  | (name, v) :: ms =>
    b.line n ++ quoted name ++ ':' :: (b.colon ++ textAt b n v) ++ ',' :: membersAt b n ms

end

mutual

theorem prettyAt_eq (n : Nat) : ∀ v : Json, prettyAt n v = textAt .indented n v
  | .null | .bool _ | .int _ | .float _ | .str _ => rfl
  | .arr [] | .obj [] => rfl
  | .arr (v :: vs) => by
    rw [prettyAt, textAt, prettyElements_eq (n + 1) (v :: vs)]
    rfl
  | .obj (m :: ms) => by
    rw [prettyAt, textAt, prettyMembers_eq (n + 1) (m :: ms)]
    rfl

theorem prettyElements_eq (n : Nat) :
    ∀ vs : List Json, prettyElements n vs = elementsAt .indented n vs
  | [] => rfl
  | [v] => by
    rw [prettyElements, elementsAt, prettyAt_eq n v]
    rfl
  | v :: w :: vs => by
    simp only [prettyElements, elementsAt, prettyAt_eq n v, prettyElements_eq n (w :: vs)]
    rfl

theorem prettyMembers_eq (n : Nat) :
    ∀ ms : List (String × Json), prettyMembers n ms = membersAt .indented n ms
  | [] => rfl
  | [(name, v)] => by
    rw [prettyMembers, membersAt, prettyAt_eq n v]
    rfl
  | (name, v) :: m :: ms => by
    simp only [prettyMembers, membersAt, prettyAt_eq n v, prettyMembers_eq n (m :: ms)]
    rfl

end

theorem pretty_eq (v : Json) : pretty v = textAt .indented 0 v :=
  prettyAt_eq 0 v

namespace Parser

/-! ## blanks -/

theorem skipSpace_append {ws : List Char} (h : ∀ c ∈ ws, isSpace c = true) (cs : List Char) :
    skipSpace (ws ++ cs) = skipSpace cs :=
  List.dropWhile_append_of_pos h

theorem skipSpace_cons {c : Char} (h : isSpace c = false) (cs : List Char) :
    skipSpace (c :: cs) = c :: cs := by
  simp [skipSpace, h]

theorem skipSpace_skipSpace (cs : List Char) : skipSpace (skipSpace cs) = skipSpace cs :=
  List.dropWhile_idempotent _ _

theorem value?_skipSpace (fuel : Nat) (cs : List Char) :
    value? fuel (skipSpace cs) = value? fuel cs := by
  cases fuel with
  | zero => rfl
  | succ fuel => simp only [value?, skipSpace_skipSpace]

theorem elements?_skipSpace (fuel : Nat) (cs : List Char) :
    elements? fuel (skipSpace cs) = elements? fuel cs := by
  cases fuel with
  | zero => rfl
  | succ fuel => simp only [elements?, value?_skipSpace]

theorem members?_skipSpace (fuel : Nat) (cs : List Char) :
    members? fuel (skipSpace cs) = members? fuel cs := by
  cases fuel with
  | zero => rfl
  | succ fuel => simp only [members?, skipSpace_skipSpace]

theorem value?_append {ws : List Char} (h : ∀ c ∈ ws, isSpace c = true) (fuel : Nat)
    (cs : List Char) : value? fuel (ws ++ cs) = value? fuel cs := by
  rw [← value?_skipSpace, skipSpace_append h, value?_skipSpace]

/-- A numeral ends where blanks or a bracket follow. -/
theorem stops_append {ws : List Char} (h : ∀ c ∈ ws, isSpace c = true) {cs : List Char}
    (hcs : Stops cs) : Stops (ws ++ cs) := by
  cases ws with
  | nil => exact hcs
  | cons w ws =>
    intro c hc
    obtain rfl : w = c := Option.some.inj hc
    have hspace := h w List.mem_cons_self
    simp only [isSpace, Bool.or_eq_true, beq_iff_eq] at hspace
    obtain ((rfl | rfl) | rfl) | rfl := hspace <;> decide

theorem stops_cons {c : Char} (h : isDigit c = false ∧ c ≠ '.' ∧ c ≠ 'e' ∧ c ≠ 'E')
    (cs : List Char) : Stops (c :: cs) := by
  intro d hd
  obtain rfl : c = d := Option.some.inj hd
  exact h

/-! ## leaves -/

/-- A numeral begins with a digit or a sign, and so with none of the other characters that matter
to the grammar. -/
theorem ne_of_numeral {c d : Char} (hc : isDigit c = true ∨ c = '-')
    (hd : ¬(isDigit d = true ∨ d = '-')) : c ≠ d :=
  fun heq => hd (heq ▸ hc)

theorem isSpace_of_numeral {c : Char} (hc : isDigit c = true ∨ c = '-') : isSpace c = false := by
  have hblank := ne_of_numeral hc (d := ' ') (by decide)
  have hline := ne_of_numeral hc (d := '\n') (by decide)
  have htab := ne_of_numeral hc (d := '\t') (by decide)
  have hreturn := ne_of_numeral hc (d := '\r') (by decide)
  simp [isSpace, hblank, hline, htab, hreturn]

theorem value?_numeral {fuel : Nat} {c : Char} (hc : isDigit c = true ∨ c = '-')
    (cs : List Char) :
    value? (fuel + 1) (c :: cs) = (numeral? (c :: cs)).map fun (n, rest) => (.number n, rest) := by
  have hne (d : Char) (hd : ¬(isDigit d = true ∨ d = '-')) := ne_of_numeral hc hd
  unfold value?
  rw [skipSpace_cons (isSpace_of_numeral hc)]
  split
  next heq => exact absurd (List.cons.inj heq).1 (hne 'n' (by decide))
  next heq => exact absurd (List.cons.inj heq).1 (hne 't' (by decide))
  next heq => exact absurd (List.cons.inj heq).1 (hne 'f' (by decide))
  next heq => exact absurd (List.cons.inj heq).1 (hne '"' (by decide))
  next heq => exact absurd (List.cons.inj heq).1 (hne '[' (by decide))
  next heq => exact absurd (List.cons.inj heq).1 (hne '\x7b' (by decide))
  next => rfl

/-- A text does not begin with a blank or a closing bracket. -/
theorem exists_textAt (b : Blanks) (n : Nat) {v : Json} (hexact : v.Exact) :
    ∃ c cs, textAt b n v = c :: cs ∧ isSpace c = false ∧ c ≠ ']' := by
  cases v with
  | float x => exact absurd hexact id
  | null => exact ⟨_, _, rfl, by decide, by decide⟩
  | bool b => cases b <;> exact ⟨_, _, rfl, by decide, by decide⟩
  | str s => exact ⟨_, _, rfl, by decide, by decide⟩
  | arr vs => cases vs <;> exact ⟨_, _, rfl, by decide, by decide⟩
  | obj ms => cases ms <;> exact ⟨_, _, rfl, by decide, by decide⟩
  | int i =>
    obtain ⟨c, cs, htext, hc⟩ := exists_intText i
    exact ⟨c, cs, htext, isSpace_of_numeral hc, ne_of_numeral hc (by decide)⟩

/-! ## values -/

theorem value?_array {fuel : Nat} {cs rest : List Char} {ts : List Tree} {c : Char}
    {tail : List Char} (hhead : skipSpace cs = c :: tail) (hc : c ≠ ']')
    (h : elements? fuel cs = some (ts, rest)) :
    value? (fuel + 1) ('[' :: cs) = some (.array ts, rest) := by
  have hbracket : skipSpace ('[' :: cs) = '[' :: cs := skipSpace_cons (by decide) cs
  rw [← elements?_skipSpace, hhead] at h
  simp [value?, hbracket, hhead, hc, h]

theorem value?_object {fuel : Nat} {cs rest : List Char} {ms : List (List Piece × Tree)}
    {tail : List Char} (hhead : skipSpace cs = '"' :: tail)
    (h : members? fuel cs = some (ms, rest)) :
    value? (fuel + 1) ('\x7b' :: cs) = some (.object ms, rest) := by
  have hbrace : skipSpace ('\x7b' :: cs) = '\x7b' :: cs := skipSpace_cons (by decide) cs
  rw [← members?_skipSpace, hhead] at h
  simp [value?, hbrace, hhead, h]

theorem value?_quoted (s : String) (fuel : Nat) (rest : List Char) :
    ∃ t, value? (fuel + 1) (quoted s ++ rest) = some (t, rest) ∧ t.Spells (.str s) := by
  obtain ⟨ps, hpieces, htext⟩ := pieces?_quoted s.toList rest
  refine ⟨.string ps, ?_, .string htext⟩
  show (pieces? (s.toList.flatMap escaped ++ ['"'] ++ rest)).map _ = _
  rw [List.append_assoc, List.singleton_append, hpieces]
  rfl

theorem value?_intText {i : Int} (hexact : (Json.int i).Exact) (fuel : Nat) {rest : List Char}
    (hstops : Stops rest) :
    ∃ t, value? (fuel + 1) (intText i ++ rest) = some (t, rest) ∧ t.Spells (.int i) := by
  obtain ⟨num, hread, hvalue⟩ := numeral?_intText hexact hstops
  obtain ⟨c, cs, htext, hc⟩ := exists_intText i
  refine ⟨.number num, ?_, .int hvalue⟩
  rw [htext, List.cons_append] at hread ⊢
  rw [value?_numeral hc, hread]
  rfl

variable (b : Blanks)

/-- The elements of an array begin with the text of the first. -/
theorem exists_elementsAt (n : Nat) (v : Json) (vs : List Json) :
    ∃ more, elementsAt b n (v :: vs) = b.line n ++ (textAt b n v ++ more) := by
  cases vs with
  | nil => exact ⟨[], by simp [elementsAt]⟩
  | cons w vs => exact ⟨',' :: elementsAt b n (w :: vs), by simp [elementsAt]⟩

/-- An array is read if its elements are. -/
theorem value?_arrayAt (n : Nat) {v : Json} (vs : List Json) (hexact : v.Exact) {fuel : Nat}
    {rest : List Char} {ts : List Tree}
    (h : elements? fuel (elementsAt b (n + 1) (v :: vs) ++ (b.line n ++ ']' :: rest)) =
      some (ts, rest)) :
    value? (fuel + 1) (textAt b n (.arr (v :: vs)) ++ rest) = some (.array ts, rest) := by
  obtain ⟨more, hmore⟩ := exists_elementsAt b (n + 1) v vs
  obtain ⟨c, cs, hhead, hspace, hbracket⟩ := exists_textAt b (n + 1) hexact
  have htext : textAt b n (.arr (v :: vs)) ++ rest =
      '[' :: (elementsAt b (n + 1) (v :: vs) ++ (b.line n ++ ']' :: rest)) := by
    simp [textAt]
  have hskip : skipSpace (elementsAt b (n + 1) (v :: vs) ++ (b.line n ++ ']' :: rest)) =
      c :: (cs ++ more ++ (b.line n ++ ']' :: rest)) := by
    rw [hmore, List.append_assoc, skipSpace_append (b.line_blank _), hhead]
    exact skipSpace_cons hspace _
  rw [htext]
  exact value?_array hskip hbracket h

/-- The members of an object begin with the name of the first. -/
theorem exists_membersAt (n : Nat) (m : String × Json) (ms : List (String × Json)) :
    ∃ more, membersAt b n (m :: ms) = b.line n ++ (quoted m.1 ++ more) := by
  cases ms with
  | nil => exact ⟨':' :: (b.colon ++ textAt b n m.2), by simp [membersAt]⟩
  | cons m' ms =>
    exact ⟨':' :: (b.colon ++ textAt b n m.2) ++ ',' :: membersAt b n (m' :: ms),
      by simp [membersAt]⟩

/-- An object is read if its members are. -/
theorem value?_objectAt (n : Nat) (m : String × Json) (ms : List (String × Json)) {fuel : Nat}
    {rest : List Char} {ts : List (List Piece × Tree)}
    (h : members? fuel (membersAt b (n + 1) (m :: ms) ++ (b.line n ++ '\x7d' :: rest)) =
      some (ts, rest)) :
    value? (fuel + 1) (textAt b n (.obj (m :: ms)) ++ rest) = some (.object ts, rest) := by
  obtain ⟨more, hmore⟩ := exists_membersAt b (n + 1) m ms
  have htext : textAt b n (.obj (m :: ms)) ++ rest =
      '\x7b' :: (membersAt b (n + 1) (m :: ms) ++ (b.line n ++ '\x7d' :: rest)) := by
    simp [textAt]
  have hskip : skipSpace (membersAt b (n + 1) (m :: ms) ++ (b.line n ++ '\x7d' :: rest)) =
      '"' :: (m.1.toList.flatMap escaped ++ ['"'] ++ more ++ (b.line n ++ '\x7d' :: rest)) := by
    rw [hmore, List.append_assoc, skipSpace_append (b.line_blank _)]
    exact skipSpace_cons (by decide) _
  rw [htext]
  exact value?_object hskip h

/-- A member is read up to its value. -/
theorem members?_quoted (name : String) {ws : List Char} (hws : ∀ c ∈ ws, isSpace c = true)
    {fuel : Nat} {cs : List Char} {t : Tree} {tail : List Char}
    (hvalue : value? fuel cs = some (t, tail)) :
    ∃ ps, text? ps = some name.toList ∧
      ∀ {ts rest}, (skipSpace tail = '\x7d' :: rest ∧ ts = [] ∨
        ∃ more, skipSpace tail = ',' :: more ∧ members? fuel more = some (ts, rest)) →
      members? (fuel + 1) (ws ++ (quoted name ++ ':' :: cs)) = some ((ps, t) :: ts, rest) := by
  obtain ⟨ps, hpieces, htext⟩ := pieces?_quoted name.toList (':' :: cs)
  refine ⟨ps, htext, fun {ts rest} hend => ?_⟩
  have hname : skipSpace (ws ++ (quoted name ++ ':' :: cs)) =
      '"' :: (name.toList.flatMap escaped ++ '"' :: ':' :: cs) := by
    rw [skipSpace_append hws]
    simp [quoted, skipSpace, isSpace]
  have hcolon : skipSpace (':' :: cs) = ':' :: cs := skipSpace_cons (by decide) cs
  obtain ⟨hclose, rfl⟩ | ⟨more, hcomma, hmore⟩ := hend
  · simp [members?, hname, hpieces, hcolon, hvalue, hclose]
  · simp [members?, hname, hpieces, hcolon, hvalue, hcomma, hmore]

mutual

/-- From the text of a value the parser reads a tree that spells it. -/
theorem value?_textAt (n : Nat) : ∀ v : Json, v.Exact → ∀ (fuel : Nat) (rest : List Char),
    2 * (textAt b n v).length ≤ fuel → Stops rest →
    ∃ t, value? fuel (textAt b n v ++ rest) = some (t, rest) ∧ t.Spells v
  | .float _, hexact, _, _, _, _ => absurd hexact id
  | .null, _, fuel + 1, rest, _, _ => ⟨.null, rfl, .null⟩
  | .bool true, _, fuel + 1, rest, _, _ => ⟨.bool true, rfl, .bool true⟩
  | .bool false, _, fuel + 1, rest, _, _ => ⟨.bool false, rfl, .bool false⟩
  | .str s, _, fuel + 1, rest, _, _ => value?_quoted s fuel rest
  | .int i, hexact, fuel + 1, rest, _, hstops => value?_intText hexact fuel hstops
  | .arr [], _, fuel + 1, rest, _, _ => ⟨.array [], rfl, .array .nil⟩
  | .obj [], _, fuel + 1, rest, _, _ => ⟨.object [], rfl, .object rfl .nil⟩
  | .arr (v :: vs), hexact, fuel + 1, rest, hfuel, _ => by
    have hlength : 2 * (elementsAt b (n + 1) (v :: vs)).length + 1 ≤ fuel := by
      simp [textAt] at hfuel
      omega
    obtain ⟨ts, hread, hspells⟩ := elements?_elementsAt (n + 1) (v :: vs) hexact fuel _ rest
      (b.line_blank n) hlength (List.cons_ne_nil v vs)
    exact ⟨.array ts, value?_arrayAt b n vs hexact.1 hread, .array hspells⟩
  | .obj (m :: ms), hexact, fuel + 1, rest, hfuel, _ => by
    have hlength : 2 * (membersAt b (n + 1) (m :: ms)).length + 1 ≤ fuel := by
      simp [textAt] at hfuel
      omega
    obtain ⟨ts, hread, hnames, hspells⟩ := members?_membersAt (n + 1) (m :: ms) hexact
      fuel _ rest (b.line_blank n) hlength (List.cons_ne_nil m ms)
    exact ⟨.object ts, value?_objectAt b n m ms hread, .object hnames hspells⟩
  | .null, _, 0, _, hfuel, _ | .bool true, _, 0, _, hfuel, _ | .bool false, _, 0, _, hfuel, _ => by
    cases hfuel
  | .str _, _, 0, _, hfuel, _ => by cases hfuel
  | .int i, _, 0, _, hfuel, _ => by
    obtain ⟨c, cs, htext, -⟩ := exists_intText i
    change 2 * (intText i).length ≤ 0 at hfuel
    rw [htext] at hfuel
    cases hfuel
  | .arr [], _, 0, _, hfuel, _ | .arr (_ :: _), _, 0, _, hfuel, _ => by cases hfuel
  | .obj [], _, 0, _, hfuel, _ | .obj (_ :: _), _, 0, _, hfuel, _ => by cases hfuel

theorem elements?_elementsAt (n : Nat) : ∀ vs : List Json, ExactAll vs →
    ∀ (fuel : Nat) (ws rest : List Char), (∀ c ∈ ws, isSpace c = true) →
    2 * (elementsAt b n vs).length + 1 ≤ fuel → vs ≠ [] →
    ∃ ts, elements? fuel (elementsAt b n vs ++ (ws ++ ']' :: rest)) = some (ts, rest) ∧
      List.Forall₂ Tree.Spells ts vs
  | [], _, _, _, _, _, _, hne => absurd rfl hne
  | [v], hexact, fuel + 1, ws, rest, hws, hfuel, _ => by
    simp [elementsAt] at hfuel
    obtain ⟨t, hread, hspells⟩ := value?_textAt n v hexact.1 fuel _ (by omega)
      (stops_append hws (stops_cons (c := ']') (by decide) rest))
    refine ⟨[t], ?_, .cons hspells .nil⟩
    rw [elementsAt, List.append_assoc, elements?, value?_append (b.line_blank n), hread]
    dsimp only
    rw [skipSpace_append hws]
    rfl
  | v :: w :: vs, hexact, fuel + 1, ws, rest, hws, hfuel, _ => by
    have hsplit : elementsAt b n (v :: w :: vs) ++ (ws ++ ']' :: rest) =
        b.line n ++ (textAt b n v ++ ',' :: (elementsAt b n (w :: vs) ++ (ws ++ ']' :: rest))) := by
      simp [elementsAt]
    have hlength : (elementsAt b n (v :: w :: vs)).length = (b.line n).length +
        (textAt b n v).length + (elementsAt b n (w :: vs)).length + 1 := by
      simp [elementsAt]
      omega
    obtain ⟨t, hread, hspells⟩ := value?_textAt n v hexact.1 fuel _ (by omega)
      (stops_cons (c := ',') (by decide) (elementsAt b n (w :: vs) ++ (ws ++ ']' :: rest)))
    obtain ⟨ts, hreads, hrest⟩ := elements?_elementsAt n (w :: vs) hexact.2 fuel ws
      rest hws (by omega) (List.cons_ne_nil w vs)
    refine ⟨t :: ts, ?_, .cons hspells hrest⟩
    rw [hsplit, elements?, value?_append (b.line_blank n), hread]
    show (elements? fuel _).map _ = _
    rw [hreads]
    rfl

theorem members?_membersAt (n : Nat) : ∀ ms : List (String × Json), ExactMembers ms →
    ∀ (fuel : Nat) (ws rest : List Char), (∀ c ∈ ws, isSpace c = true) →
    2 * (membersAt b n ms).length + 1 ≤ fuel → ms ≠ [] →
    ∃ ts, members? fuel (membersAt b n ms ++ (ws ++ '\x7d' :: rest)) = some (ts, rest) ∧
      ts.map (fun t => text? t.1) = ms.map (fun m => some m.1.toList) ∧
      List.Forall₂ Tree.Spells (ts.map (·.2)) (ms.map (·.2))
  | [], _, _, _, _, _, _, hne => absurd rfl hne
  | [(name, v)], hexact, fuel + 1, ws, rest, hws, hfuel, _ => by
    have hsplit : membersAt b n [(name, v)] ++ (ws ++ '\x7d' :: rest) =
        b.line n ++ (quoted name ++
          ':' :: (b.colon ++ (textAt b n v ++ (ws ++ '\x7d' :: rest)))) := by
      simp [membersAt]
    simp [membersAt] at hfuel
    obtain ⟨t, hread, hspells⟩ := value?_textAt n v hexact.1 fuel _ (by omega)
      (stops_append hws (stops_cons (c := '\x7d') (by decide) rest))
    obtain ⟨ps, htext, hmember⟩ := members?_quoted name (b.line_blank n)
      ((value?_append b.colon_blank fuel _).trans hread)
    refine ⟨[(ps, t)], ?_, by simp [htext], .cons hspells .nil⟩
    rw [hsplit]
    exact hmember (.inl ⟨skipSpace_append hws _, rfl⟩)
  | (name, v) :: m :: ms, hexact, fuel + 1, ws, rest, hws, hfuel, _ => by
    have hsplit : membersAt b n ((name, v) :: m :: ms) ++ (ws ++ '\x7d' :: rest) =
        b.line n ++ (quoted name ++ ':' :: (b.colon ++ (textAt b n v ++
          ',' :: (membersAt b n (m :: ms) ++ (ws ++ '\x7d' :: rest))))) := by
      simp [membersAt]
    have hlength : (membersAt b n ((name, v) :: m :: ms)).length = (b.line n).length +
        (quoted name).length + b.colon.length + (textAt b n v).length +
        (membersAt b n (m :: ms)).length + 2 := by
      simp [membersAt]
      omega
    obtain ⟨t, hread, hspells⟩ := value?_textAt n v hexact.1 fuel _ (by omega)
      (stops_cons (c := ',') (by decide) (membersAt b n (m :: ms) ++ (ws ++ '\x7d' :: rest)))
    obtain ⟨ts, hreads, hnames, hrest⟩ := members?_membersAt n (m :: ms) hexact.2 fuel ws
      rest hws (by omega) (List.cons_ne_nil m ms)
    obtain ⟨ps, htext, hmember⟩ := members?_quoted name (b.line_blank n)
      ((value?_append b.colon_blank fuel _).trans hread)
    refine ⟨(ps, t) :: ts, ?_, by simp [htext, hnames], .cons hspells hrest⟩
    rw [hsplit]
    exact hmember (.inr ⟨_, skipSpace_cons (by decide) _, hreads⟩)

end

end Parser

/-- A text is read as a tree that spells the value that it was written from. -/
theorem parse?_textAt (b : Blanks) {v : Json} (hexact : v.Exact) :
    ∃ t, Tree.parse? (textAt b 0 v) = some t ∧ t.Spells v := by
  obtain ⟨t, hread, hspells⟩ := Parser.value?_textAt b 0 v hexact
    (2 * (textAt b 0 v).length + 2) [] (by omega) nofun
  refine ⟨t, ?_, hspells⟩
  rw [List.append_nil] at hread
  rw [Tree.parse?, hread]
  rfl

end SerialLink.Json
