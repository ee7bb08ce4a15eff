import Mathlib.Data.List.DropRight
import Mathlib.Data.Prod.Lex
import Mathlib.Data.String.Basic
import SerialLink.Port.Order

/-!
# SerialLink.Proofs.Listing

In which order ports are listed.

1. The last part of a path stands behind its last slash (`basename_eq_iff`), and a numeral that
   fits into 64 bits is read as the number that it denotes (`unsignedNumber?_of_denotes`).
2. Keys are ordered linearly (`PortKey.le_iff`), and ports have one key exactly if the last parts
   of their paths are the same (`portKey_eq_iff`).
3. A listing is in the order of the keys (`pairwise_sortPorts`), in which `ttyACM` goes before
   `ttyUSB`, both before all else, and numbers go up (`mayPrecede_of_le`).
4. Ports with one key stay in the order in which they were found (`filter_sortPorts`).  So it makes
   no difference how the ports were found exactly if no two of them have the same last part
   (`listed_alike_iff`); all ports of one directory are listed alike
   (`sortPorts_eq_of_directory`).
-/

namespace SerialLink

/-! ## the last part of a path -/

/-- The last part of a path has no slash in it and stands behind the last one, if there is one. -/
theorem basename_eq_iff {path base : List Char} :
    basename path = base ↔
      '/' ∉ base ∧ (path = base ∨ ∃ directory, path = directory ++ '/' :: base) := by
  constructor
  · rintro rfl
    show '/' ∉ path.rtakeWhile (· ≠ '/') ∧
      (path = path.rtakeWhile (· ≠ '/') ∨ ∃ directory, path = directory ++ '/' :: _)
    have hsplit : path.rdropWhile (· ≠ '/') ++ path.rtakeWhile (· ≠ '/') = path :=
      List.rdropWhile_append_rtakeWhile
    refine ⟨fun hmem => absurd (List.mem_rtakeWhile_imp hmem) (by decide), ?_⟩
    by_cases hnil : path.rdropWhile (· ≠ '/') = []
    · rw [hnil] at hsplit
      exact .inl hsplit.symm
    · have hlast := List.rdropWhile_last_not (· ≠ '/') path hnil
      have hslash : (path.rdropWhile (· ≠ '/')).getLast hnil = '/' := by simpa using hlast
      rw [← List.dropLast_concat_getLast hnil, hslash, List.append_assoc] at hsplit
      exact .inr ⟨_, hsplit.symm⟩
  · rintro ⟨hbase, hpath⟩
    have hall : ∀ c ∈ base.reverse, decide (c ≠ '/') = true := fun c hc =>
      decide_eq_true fun heq => hbase (heq ▸ List.mem_reverse.mp hc)
    unfold basename
    obtain rfl | ⟨directory, rfl⟩ := hpath
    · rw [List.takeWhile_eq_self_iff.mpr hall, List.reverse_reverse]
    · rw [List.reverse_append, List.reverse_cons, List.append_assoc,
        List.takeWhile_append_of_pos hall]
      simp

/-! ## numbers -/

/-- The text is a number in decimal digits; a plus sign may precede it. -/
def Denotes (cs : List Char) (n : Nat) : Prop :=
  ∃ ds, (cs = ds ∨ cs = '+' :: ds) ∧ ds ≠ [] ∧ (∀ d ∈ ds, d.isDigit = true) ∧
    Nat.ofDigitChars 10 ds 0 = n

/-- A numeral that fits into 64 bits is read as the number that it denotes. -/
theorem unsignedNumber?_of_denotes {cs : List Char} {n : Nat} (h : Denotes cs n)
    (hn : n < UInt64.size) : unsignedNumber? cs = some n := by
  obtain ⟨ds, hcs, hne, hdigits, rfl⟩ := h
  have hread : (if (ds.isEmpty || !ds.all Char.isDigit) = true then none
      else if Nat.ofDigitChars 10 ds 0 < UInt64.size then some (Nat.ofDigitChars 10 ds 0)
      else none) = some (Nat.ofDigitChars 10 ds 0) := by
    rw [List.isEmpty_eq_false_iff.mpr hne, List.all_eq_true.mpr hdigits]
    exact if_pos hn
  obtain rfl | rfl := hcs
  · unfold unsignedNumber?
    split
    next rest => exact absurd (hdigits '+' List.mem_cons_self) (by decide)
    next => exact hread
  · exact hread

/-! ## keys -/

namespace PortKey

/-- What the order of keys goes by, in the order in which it counts. -/
def ranking (k : PortKey) : ℕ ×ₗ ℕ ×ₗ String := toLex (k.rank, toLex (k.number, k.base))

theorem le_iff {a b : PortKey} : a.le b = true ↔ a.ranking ≤ b.ranking := by
  simp [PortKey.le, ranking, Prod.Lex.toLex_le_toLex]

theorem le_refl (a : PortKey) : a.le a = true := le_iff.mpr le_rfl

theorem le_trans {a b c : PortKey} (hab : a.le b = true) (hbc : b.le c = true) :
    a.le c = true :=
  le_iff.mpr ((le_iff.mp hab).trans (le_iff.mp hbc))

theorem le_total (a b : PortKey) : (a.le b || b.le a) = true :=
  Bool.or_eq_true_iff.mpr
    ((Std.le_total (a := a.ranking) (b := b.ranking)).imp le_iff.mpr le_iff.mpr)

theorem le_antisymm {a b : PortKey} (hab : a.le b = true) (hba : b.le a = true) : a = b := by
  have heq : a.ranking = b.ranking := (le_iff.mp hab).antisymm (le_iff.mp hba)
  cases a
  cases b
  simpa [ranking] using heq

/-- Whoever comes first is of no later class, and in one class of no greater number. -/
theorem le_cases {a b : PortKey} (h : a.le b = true) :
    a.rank < b.rank ∨ a.rank = b.rank ∧ a.number ≤ b.number := by
  simp only [PortKey.le, Bool.or_eq_true, Bool.and_eq_true, decide_eq_true_eq, beq_iff_eq] at h
  omega

end PortKey

theorem behind?_eq_some_iff {start cs rest : List Char} :
    behind? start cs = some rest ↔ cs = start ++ rest := by
  unfold behind?
  split
  next h =>
    obtain ⟨tail, rfl⟩ := List.isPrefixOf_iff_prefix.mp h
    simp
  next h =>
    refine iff_of_false nofun fun heq => h ?_
    rw [heq]
    exact List.isPrefixOf_iff_prefix.mpr (List.prefix_append _ _)

/-! ## classes -/

/-- The texts that the ports of the first classes start with, each with its class. -/
def stems : List (String × Nat) := [("ttyACM", 0), ("ttyUSB", 1)]

/-- The last part of the port's path starts with the text. -/
def HasStem (stem name : String) : Prop := stem.toList <+: basename name.toList

/-- The last part of the port's path is the text with a number behind it. -/
def IsNumbered (stem name : String) (n : Nat) : Prop :=
  ∃ numeral, basename name.toList = stem.toList ++ numeral ∧ Denotes numeral n

section

variable {a b name stem stem' : String} {rank : Nat}

theorem portKey_of_stem (hstem : (stem, rank) ∈ stems) {rest : List Char}
    (hname : basename name.toList = stem.toList ++ rest) :
    portKey name = ⟨rank, (unsignedNumber? rest).getD (UInt64.size - 1),
      String.ofList (basename name.toList)⟩ := by
  have hbehind : behind? stem.toList (basename name.toList) = some rest :=
    behind?_eq_some_iff.mpr hname
  unfold portKey
  simp only [stems, List.mem_cons, Prod.mk.injEq, List.not_mem_nil, or_false] at hstem
  obtain ⟨rfl, rfl⟩ | ⟨rfl, rfl⟩ := hstem
  · dsimp only
    rw [hbehind]
  · -- the texts are of one length and differ, so no name starts with both
    have hother : behind? "ttyACM".toList (basename name.toList) = none := by
      refine Option.eq_none_iff_forall_ne_some.mpr fun tail htail => ?_
      have heq := hname.symm.trans (behind?_eq_some_iff.mp htail)
      exact absurd (List.append_inj heq (by decide)).1 (by decide)
    dsimp only
    rw [hother, hbehind]

theorem portKey_cases (name : String) :
    (portKey name).rank = 2 ∨
      ∃ stem, (stem, (portKey name).rank) ∈ stems ∧ HasStem stem name := by
  unfold portKey
  dsimp only
  split
  next rest h => exact .inr ⟨"ttyACM", .head _, rest, (behind?_eq_some_iff.mp h).symm⟩
  next rest _ h => exact .inr ⟨"ttyUSB", .tail _ (.head _), rest, (behind?_eq_some_iff.mp h).symm⟩
  next => exact .inl rfl

/-- Each class has one text. -/
theorem stem_unique (hstem : (stem, rank) ∈ stems) (hstem' : (stem', rank) ∈ stems) :
    stem = stem' := by
  simp only [stems, List.mem_cons, Prod.mk.injEq, List.not_mem_nil, or_false] at hstem hstem'
  obtain ⟨rfl, rfl⟩ | ⟨rfl, rfl⟩ := hstem
  · obtain ⟨rfl, -⟩ | ⟨-, hrank⟩ := hstem'
    · rfl
    · cases hrank
  · obtain ⟨-, hrank⟩ | ⟨rfl, -⟩ := hstem'
    · cases hrank
    · rfl

theorem rank_eq_iff (hstem : (stem, rank) ∈ stems) :
    (portKey name).rank = rank ↔ HasStem stem name := by
  constructor
  · rintro rfl
    obtain hother | ⟨stem', hstem', hname⟩ := portKey_cases name
    · rw [hother] at hstem
      simp [stems] at hstem
    · exact stem_unique hstem' hstem ▸ hname
  · rintro ⟨rest, hname⟩
    rw [portKey_of_stem hstem hname.symm]

theorem number_of_isNumbered (hstem : (stem, rank) ∈ stems) {n : Nat}
    (hname : IsNumbered stem name n) (hn : n < UInt64.size) : (portKey name).number = n := by
  obtain ⟨numeral, hbase, hdenotes⟩ := hname
  rw [portKey_of_stem hstem hbase, unsignedNumber?_of_denotes hdenotes hn]
  rfl

theorem IsNumbered.hasStem {n : Nat} (h : IsNumbered stem name n) : HasStem stem name :=
  h.imp fun _ h => h.1.symm

/-- Ports have one key exactly if the last parts of their paths are the same. -/
theorem portKey_eq_iff : portKey a = portKey b ↔ basename a.toList = basename b.toList := by
  have hbase (name : String) : (portKey name).base = String.ofList (basename name.toList) := by
    unfold portKey
    dsimp only
    split <;> rfl
  constructor
  · intro h
    have heq := congrArg PortKey.base h
    rw [hbase, hbase] at heq
    exact String.ofList_injective heq
  · intro h
    unfold portKey
    rw [h]

/-- What it says of two ports that the first of them is listed ahead of the second: ports that
start with `ttyACM` go first, ports that start with `ttyUSB` go before all others, and the numbers
of 64 bits that stand behind either text go up. -/
structure MayPrecede (a b : String) : Prop where
  acm : HasStem "ttyACM" b → HasStem "ttyACM" a
  usb : HasStem "ttyUSB" b → HasStem "ttyACM" a ∨ HasStem "ttyUSB" a
  numbers : ∀ stem ∈ ["ttyACM", "ttyUSB"], ∀ m n, IsNumbered stem a m → IsNumbered stem b n →
    m < UInt64.size → n < UInt64.size → m ≤ n

theorem mayPrecede_of_le (h : (portKey a).le (portKey b) = true) : MayPrecede a b := by
  have hacm : ("ttyACM", 0) ∈ stems := .head _
  have husb : ("ttyUSB", 1) ∈ stems := .tail _ (.head _)
  have hle := PortKey.le_cases h
  refine ⟨fun hb => ?_, fun hb => ?_, fun stem hmem m n ha hb hm hn => ?_⟩
  · have hrank := (rank_eq_iff hacm).mpr hb
    exact (rank_eq_iff hacm).mp (by omega)
  · have hrank := (rank_eq_iff husb).mpr hb
    rw [← rank_eq_iff hacm, ← rank_eq_iff husb]
    omega
  · obtain ⟨⟨_, rank⟩, hstem, rfl⟩ := List.mem_map.mp (show stem ∈ stems.map Prod.fst from hmem)
    have hrank := (rank_eq_iff hstem).mpr ha.hasStem
    have hrank' := (rank_eq_iff hstem).mpr hb.hasStem
    have hnumber := number_of_isNumbered hstem ha hm
    have hnumber' := number_of_isNumbered hstem hb hn
    omega

/-! ## listings -/

variable {names one other : List String}

theorem sortPorts_perm (names : List String) : (sortPorts names).Perm names :=
  List.mergeSort_perm names _

theorem portKey_le_trans (a b c : String) (hab : (portKey a).le (portKey b) = true)
    (hbc : (portKey b).le (portKey c) = true) : (portKey a).le (portKey c) = true :=
  PortKey.le_trans hab hbc

theorem portKey_le_total (a b : String) :
    ((portKey a).le (portKey b) || (portKey b).le (portKey a)) = true :=
  PortKey.le_total (portKey a) (portKey b)

/-- A listing is in the order of the keys. -/
theorem pairwise_sortPorts (names : List String) :
    (sortPorts names).Pairwise fun a b => (portKey a).le (portKey b) = true :=
  List.pairwise_mergeSort portKey_le_trans portKey_le_total names

/-- Ports with one key stay in the order in which they were found. -/
theorem filter_sortPorts (key : PortKey) (names : List String) :
    ((sortPorts names).filter fun name => portKey name = key) =
      names.filter fun name => portKey name = key := by
  have hkeys : (names.filter fun name => portKey name = key).Pairwise
      fun a b => (portKey a).le (portKey b) = true := by
    refine List.pairwise_of_forall_mem_list fun a ha b hb => ?_
    rw [of_decide_eq_true (List.mem_filter.mp ha).2, of_decide_eq_true (List.mem_filter.mp hb).2]
    exact key.le_refl
  have hsub : (names.filter fun name => portKey name = key).Sublist (sortPorts names) :=
    List.sublist_mergeSort portKey_le_trans portKey_le_total hkeys List.filter_sublist
  have hfiltered := hsub.filter fun name => portKey name = key
  rw [List.filter_filter] at hfiltered
  simp only [Bool.and_self] at hfiltered
  exact (hfiltered.eq_of_length ((sortPorts_perm names).filter _).length_eq.symm).symm

/-- Ports of which no two have the same last part are listed alike, however they were found. -/
theorem sortPorts_eq_of_distinct (hperm : one.Perm other)
    (hdistinct : ∀ a ∈ one, ∀ b ∈ one, basename a.toList = basename b.toList → a = b) :
    sortPorts one = sortPorts other := by
  have hsorted : (sortPorts one).Perm (sortPorts other) :=
    ((sortPorts_perm one).trans hperm).trans (sortPorts_perm other).symm
  refine hsorted.eq_of_pairwise (fun a b ha hb hab hba => ?_) (pairwise_sortPorts one)
    (pairwise_sortPorts other)
  have hmem : b ∈ one := (sortPorts_perm one).mem_iff.mp (hsorted.mem_iff.mpr hb)
  exact hdistinct a ((sortPorts_perm one).mem_iff.mp ha) b hmem
    (portKey_eq_iff.mp (PortKey.le_antisymm hab hba))

/-- The ports that lie directly in one directory are listed alike, however they were found. -/
theorem sortPorts_eq_of_directory (directory : String) (hperm : one.Perm other)
    (hall : ∀ name ∈ one, ∃ base, '/' ∉ base ∧ name.toList = directory.toList ++ '/' :: base) :
    sortPorts one = sortPorts other := by
  refine sortPorts_eq_of_distinct hperm fun a ha b hb hbase => ?_
  obtain ⟨base, hslash, hname⟩ := hall a ha
  obtain ⟨base', hslash', hname'⟩ := hall b hb
  rw [basename_eq_iff.mpr ⟨hslash, .inr ⟨_, hname⟩⟩,
    basename_eq_iff.mpr ⟨hslash', .inr ⟨_, hname'⟩⟩] at hbase
  exact String.toList_inj.mp (by rw [hname, hname', hbase])

/-- If it makes no difference how the ports were found, no two of them have the same last part:
two that have it stay in the order in which they were found. -/
theorem eq_of_listed_alike
    (halike : ∀ one other, one.Perm names → other.Perm names → sortPorts one = sortPorts other)
    (ha : a ∈ names) (hb : b ∈ names) (hbase : basename a.toList = basename b.toList) : a = b := by
  by_contra hne
  -- two ways to find the ports, which differ in which of the two comes first
  let rest := (names.erase a).erase b
  have hone : names.Perm (a :: b :: rest) :=
    (List.perm_cons_erase ha).trans
      ((List.perm_cons_erase ((List.mem_erase_of_ne (Ne.symm hne)).mpr hb)).cons a)
  have hother : names.Perm (b :: a :: rest) := hone.trans (.swap _ _ _)
  have hkey : portKey b = portKey a := portKey_eq_iff.mpr hbase.symm
  have hfirst : ((a :: b :: rest).filter fun name => portKey name = portKey a) = a :: _ :=
    List.filter_cons_of_pos (decide_eq_true rfl)
  have hsecond : ((b :: a :: rest).filter fun name => portKey name = portKey a) = b :: _ :=
    List.filter_cons_of_pos (decide_eq_true hkey)
  have hfiltered := congrArg (List.filter fun name => portKey name = portKey a)
    (halike _ _ hone.symm hother.symm)
  rw [filter_sortPorts, filter_sortPorts, hfirst, hsecond] at hfiltered
  exact hne (List.cons.inj hfiltered).1

/-- It makes no difference in which order ports were found exactly if no two of them have the same
last part.  However they were found, ports that start with `ttyACM` go first, then those that start
with `ttyUSB`, then all others, and the numbers of 64 bits behind either text go up. -/
theorem listed_alike_iff (names : List String) :
    ((∀ one other, one.Perm names → other.Perm names → sortPorts one = sortPorts other) ↔
      ∀ a ∈ names, ∀ b ∈ names, basename a.toList = basename b.toList → a = b) ∧
    (sortPorts names).Perm names ∧ (sortPorts names).Pairwise MayPrecede := by
  refine ⟨⟨fun halike a ha b hb => eq_of_listed_alike halike ha hb, ?_⟩, sortPorts_perm names,
    (pairwise_sortPorts names).imp mayPrecede_of_le⟩
  intro hdistinct one other hone hother
  refine sortPorts_eq_of_distinct (hone.trans hother.symm) fun a ha b hb => ?_
  exact hdistinct a (hone.mem_iff.mp ha) b (hone.mem_iff.mp hb)

/-- Numbers go by what they denote, however they are written; what is no number of 64 bits goes
behind them. -/
theorem listed_alike_iff_numerals :
    let names := ["/dev/someport", "/dev/ttyUSB1", "/dev/ttyACM18446744073709551616",
      "/dev/ttyACM10", "/dev/ttyACM", "/dev/ttyACM+9", "/dev/ttyUSB0", "/dev/ttyACM08"]
    ∀ found, found.Perm names → sortPorts found = ["/dev/ttyACM08", "/dev/ttyACM+9",
      "/dev/ttyACM10", "/dev/ttyACM", "/dev/ttyACM18446744073709551616", "/dev/ttyUSB0",
      "/dev/ttyUSB1", "/dev/someport"] := by
  intro names found hfound
  let listing := ["/dev/ttyACM08", "/dev/ttyACM+9", "/dev/ttyACM10", "/dev/ttyACM",
    "/dev/ttyACM18446744073709551616", "/dev/ttyUSB0", "/dev/ttyUSB1", "/dev/someport"]
  have hdistinct : ∀ a ∈ names, ∀ b ∈ names, basename a.toList = basename b.toList → a = b := by
    decide +kernel
  have hsorted : listing.Pairwise fun a b => (portKey a).le (portKey b) = true := by decide +kernel
  have hperm : listing.Perm names := by decide +kernel
  have hsame : sortPorts found = sortPorts listing :=
    (listed_alike_iff names).1.mpr hdistinct found listing hfound hperm
  exact hsame.trans (List.mergeSort_of_pairwise hsorted)

/-- Two serial ports lie in different directories under the same name.  They are listed in the
order in which they were found. -/
theorem exists_listed_apart :
    let one := ["/dev/tts/0", "/dev/usb/tts/0"]
    let other := ["/dev/usb/tts/0", "/dev/tts/0"]
    one.Nodup ∧ one.Perm other ∧ sortPorts one = one ∧ sortPorts other = other ∧
      sortPorts one ≠ sortPorts other := by
  intro one other
  have hone : sortPorts one = one := List.mergeSort_of_pairwise (by decide +kernel)
  have hother : sortPorts other = other := List.mergeSort_of_pairwise (by decide +kernel)
  refine ⟨by decide +kernel, .swap _ _ _, hone, hother, ?_⟩
  rw [hone, hother]
  decide +kernel

end

end SerialLink
