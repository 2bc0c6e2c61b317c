import Mathlib
import BalancerSync.Net.IpAddr

/-!
# Address texts read back

The canonical text of an address is a text the strict reader accepts, and it reads back as the
address itself (`IpAddr.parse?_text`); whatever the reader accepts is an address of the right
size, four octets or eight 16-bit groups (`IpAddr.valid_of_parse?`). Reading after writing is
the identity on every address.

The argument follows the reader. Digits read back as their number when the text after them
does not go on with a digit (`readNumber_toDigits`). Dotted octets read back as an IPv4 address;
hexadecimal groups read back one by one, and no IPv4 address is found among them, since their
text has no dot. The run of zero groups that `::` stands for is a run of zeros
(`longestZeroRun_zeros`), so filling it back gives the groups.
-/

namespace BalancerSync.Net

/-- An address as the program's types hold one: four octets below 256, or eight groups below
65536. -/
def IpAddr.Valid : IpAddr → Prop
  | .v4 octets => octets.length = 4 ∧ ∀ o ∈ octets, o < 256
  | .v6 groups => groups.length = 8 ∧ ∀ g ∈ groups, g < 65536

instance : DecidablePred IpAddr.Valid
  | .v4 octets => inferInstanceAs (Decidable (octets.length = 4 ∧ ∀ o ∈ octets, o < 256))
  | .v6 groups => inferInstanceAs (Decidable (groups.length = 8 ∧ ∀ g ∈ groups, g < 65536))

/-! ## Numbers -/

section Numbers

variable {radix : Nat}

/-- A radix whose digit characters all read back as their values; only `0` is written `0`. -/
structure Readable (radix : Nat) : Prop where
  two_le : 1 < radix
  digit : ∀ d < radix, digitValue radix (Nat.digitChar d) = some d
  zero : ∀ d < radix, Nat.digitChar d = '0' → d = 0

theorem Readable.div_lt (readable : Readable radix) {n : Nat} (big : radix ≤ n) :
    n / radix < n :=
  Nat.div_lt_self (by have := readable.two_le; omega) readable.two_le

theorem Readable.mod_lt (readable : Readable radix) (n : Nat) : n % radix < radix :=
  Nat.mod_lt _ (by have := readable.two_le; omega)

theorem readable_ten : Readable 10 := ⟨by decide, by decide, by decide⟩

theorem readable_sixteen : Readable 16 := ⟨by decide, by decide, by decide⟩

theorem mem_toDigits (readable : Readable radix) (n : Nat) :
    ∀ c ∈ Nat.toDigits radix n, ∃ d < radix, c = Nat.digitChar d := by
  induction n using Nat.strong_induction_on with
  | _ n ih =>
    intro c member
    by_cases small : n < radix
    · rw [Nat.toDigits_of_lt_base small, List.mem_singleton] at member
      exact ⟨n, small, member⟩
    · have big := Nat.le_of_not_lt small
      rw [Nat.toDigits_of_base_le readable.two_le big, List.mem_append,
        List.mem_singleton] at member
      rcases member with earlier | last
      · exact ih (n / radix) (readable.div_lt big) c earlier
      · exact ⟨n % radix, readable.mod_lt n, last⟩

theorem foldl_toDigits (readable : Readable radix) (n : Nat) :
    (Nat.toDigits radix n).foldl (fun acc c => acc * radix + (digitValue radix c).getD 0) 0 =
      n := by
  induction n using Nat.strong_induction_on with
  | _ n ih =>
    by_cases small : n < radix
    · simp [Nat.toDigits_of_lt_base small, readable.digit n small]
    · have big := Nat.le_of_not_lt small
      rw [Nat.toDigits_of_base_le readable.two_le big, List.foldl_append,
        ih (n / radix) (readable.div_lt big)]
      simp [readable.digit (n % radix) (readable.mod_lt n), Nat.div_add_mod']

theorem eq_zero_of_head_toDigits (readable : Readable radix) {n : Nat}
    (zeroFirst : (Nat.toDigits radix n).head? = some '0') : n = 0 := by
  induction n using Nat.strong_induction_on with
  | _ n ih =>
    by_cases small : n < radix
    · rw [Nat.toDigits_of_lt_base small] at zeroFirst
      exact readable.zero n small (by simpa using zeroFirst)
    · have big := Nat.le_of_not_lt small
      rw [Nat.toDigits_of_base_le readable.two_le big, List.head?_append,
        Option.or_of_isSome (by simp [Nat.toDigits_ne_nil])] at zeroFirst
      have leading := ih (n / radix) (readable.div_lt big) zeroFirst
      have positive : 0 < n / radix := Nat.div_pos big (by have := readable.two_le; omega)
      omega

/-- The digits of a number read back as the number when the text after them does not go on with
a digit, the number is within the bound and its digits are not too many. -/
theorem readNumber_toDigits (readable : Readable radix) {maxDigits : Option Nat}
    {zeroPrefix : Bool} {bound n : Nat} {rest : List Char}
    (stops : ∀ c ∈ rest.head?, digitValue radix c = none) (inBound : n ≤ bound)
    (short : ∀ m ∈ maxDigits, (Nat.toDigits radix n).length ≤ m) :
    readNumber radix maxDigits zeroPrefix bound (Nat.toDigits radix n ++ rest) =
      some (n, rest) := by
  have digits : (Nat.toDigits radix n ++ rest).takeWhile
      (fun c => (digitValue radix c).isSome) = Nat.toDigits radix n := by
    rw [List.takeWhile_append_of_pos]
    · cases rest with
      | nil => simp
      | cons c more => simp [stops c rfl]
    · intro c member
      obtain ⟨d, small, rfl⟩ := mem_toDigits readable n c member
      simp [readable.digit d small]
  have notLong : (maxDigits.any fun m => decide ((Nat.toDigits radix n).length > m)) = false := by
    cases maxDigits with
    | none => rfl
    | some m => simpa using short m rfl
  have noLeadingZero : (!zeroPrefix && (Nat.toDigits radix n).head? == some '0' &&
      decide ((Nat.toDigits radix n).length > 1)) = false := by
    by_cases zeroFirst : (Nat.toDigits radix n).head? = some '0'
    · simp [eq_zero_of_head_toDigits readable zeroFirst, Nat.toDigits_zero]
    · simp [zeroFirst]
  unfold readNumber
  simp only [digits, foldl_toDigits readable, notLong, noLeadingZero, List.isEmpty_iff,
    Nat.toDigits_ne_nil, if_false, Bool.false_eq_true, List.drop_left]
  simp [Nat.not_lt.mpr inBound]

theorem readNumber_eq_some {maxDigits : Option Nat} {zeroPrefix : Bool} {bound n : Nat}
    {cs rest : List Char}
    (read : readNumber radix maxDigits zeroPrefix bound cs = some (n, rest)) :
    n ≤ bound ∧ rest = cs.dropWhile fun c => (digitValue radix c).isSome := by
  unfold readNumber at read
  dsimp only at read
  split_ifs at read with empty long large zero
  cases read
  refine ⟨by omega, ?_⟩
  have whole := List.takeWhile_append_dropWhile (p := fun c => (digitValue radix c).isSome)
    (l := cs)
  conv_lhs => arg 2; rw [← whole]
  rw [List.drop_left]

example : readNumber 10 (some 3) false 255 "255.0".toList = some (255, ".0".toList) := by decide

theorem readNumber_nil {maxDigits : Option Nat} {zeroPrefix : Bool} {bound : Nat} :
    readNumber radix maxDigits zeroPrefix bound [] = none := rfl

theorem readNumber_colon {maxDigits : Option Nat} {zeroPrefix : Bool}
    {bound : Nat} {rest : List Char} :
    readNumber radix maxDigits zeroPrefix bound (':' :: rest) = none := by
  have colon : digitValue radix ':' = none := rfl
  simp [readNumber, colon]

end Numbers

/-! ## Dotted octets -/

section Octets

theorem readSeparated_first {α : Type} {sep : Char} {item : List Char → Option (α × List Char)}
    {cs : List Char} : readSeparated sep true item cs = item cs := rfl

theorem readSeparated_sep {α : Type} {sep : Char} {item : List Char → Option (α × List Char)}
    {cs : List Char} : readSeparated sep false item (sep :: cs) = item cs := by
  simp [readSeparated]

theorem readSeparated_ne {α : Type} {sep c : Char} {item : List Char → Option (α × List Char)}
    {rest : List Char} (other : c ≠ sep) : readSeparated sep false item (c :: rest) = none := by
  simp [readSeparated, other]

theorem readIpv4_eq_none {cs : List Char}
    (noDot : (cs.dropWhile fun c => (digitValue 10 c).isSome).head? ≠ some '.') :
    readIpv4 cs = none := by
  cases first : readNumber 10 (some 3) false 255 cs with
  | none => simp [readIpv4, first]
  | some read =>
    obtain ⟨a, rest⟩ := read
    obtain ⟨-, after⟩ := readNumber_eq_some first
    rw [← after] at noDot
    cases rest with
    | nil => simp [readIpv4, first, readSeparated]
    | cons c more =>
      have other : c ≠ '.' := fun same => noDot (by simp [same])
      simp [readIpv4, first, readSeparated_ne other]

theorem readIpv4_of_colon {cs : List Char} (colon : ∀ c ∈ cs.head?, c = ':') :
    readIpv4 cs = none := by
  apply readIpv4_eq_none
  cases cs with
  | nil => simp
  | cons c rest =>
    obtain rfl := colon c rfl
    have notDigit : digitValue 10 ':' = none := by decide
    simp [notDigit]

theorem dotted_toList (a b c d : Nat) :
    (dotted [a, b, c, d]).toList =
      Nat.toDigits 10 a ++ '.' :: Nat.toDigits 10 b ++ '.' :: Nat.toDigits 10 c ++ '.' ::
        Nat.toDigits 10 d := by
  simp [dotted, Nat.toString_eq_repr, Nat.repr]

theorem readOctet {a : Nat} (small : a < 256) {rest : List Char}
    (stops : ∀ c ∈ rest.head?, digitValue 10 c = none) :
    readNumber 10 (some 3) false 255 (Nat.toDigits 10 a ++ rest) = some (a, rest) := by
  refine readNumber_toDigits readable_ten stops (by omega) ?_
  intro m known
  rw [Option.mem_def, Option.some.injEq] at known
  subst known
  exact (Nat.length_toDigits_le_iff (by decide) (by decide)).mpr (by omega)

theorem readIpv4_dotted {a b c d : Nat} (octets : ∀ o ∈ [a, b, c, d], o < 256)
    {rest : List Char} (stops : ∀ ch ∈ rest.head?, digitValue 10 ch = none) :
    readIpv4 ((dotted [a, b, c, d]).toList ++ rest) = some ([a, b, c, d], rest) := by
  have beforeDot : ∀ (more : List Char), ∀ ch ∈ ('.' :: more).head?,
      digitValue 10 ch = none := by
    intro more ch known
    rw [List.head?_cons, Option.mem_def, Option.some.injEq] at known
    subst known
    decide
  simp only [dotted_toList, List.append_assoc, List.cons_append]
  simp [readIpv4, readSeparated, readOctet (octets a (by simp)) (beforeDot _),
    readOctet (octets b (by simp)) (beforeDot _), readOctet (octets c (by simp)) (beforeDot _),
    readOctet (octets d (by simp)) stops]

end Octets

/-! ## Hexadecimal groups -/

section Groups

/-- What may follow the groups of an address text: nothing, or the `::` of a run of zeros. -/
def GroupsEnd (rest : List Char) : Prop := rest = [] ∨ ∃ more, rest = ':' :: ':' :: more

/-- The text of groups after the first one: each after a colon. -/
def colonGroups (groups : List Nat) : List Char :=
  groups.flatMap fun g => ':' :: Nat.toDigits 16 g

theorem groupText_toList (g : Nat) : (groupText g).toList = Nat.toDigits 16 g := by
  simp [groupText]

theorem join_toList (g : Nat) (groups : List Nat) :
    (":".intercalate ((g :: groups).map groupText)).toList =
      Nat.toDigits 16 g ++ colonGroups groups := by
  rw [String.toList_intercalate]
  induction groups generalizing g with
  | nil => simp [groupText_toList, colonGroups]
  | cons next groups ih =>
    have rest := ih next
    simp only [List.map_cons] at rest ⊢
    rw [List.intercalate_cons_cons, rest]
    simp [groupText_toList, colonGroups]

theorem head?_colonGroups (groups : List Nat) {rest : List Char}
    (colon : ∀ c ∈ rest.head?, c = ':') :
    ∀ c ∈ (colonGroups groups ++ rest).head?, c = ':' := by
  cases groups with
  | nil => simpa [colonGroups] using colon
  | cons g groups => simp [colonGroups]

theorem GroupsEnd.colon {rest : List Char} (ends : GroupsEnd rest) :
    ∀ c ∈ rest.head?, c = ':' := by
  rcases ends with rfl | ⟨more, rfl⟩ <;> simp

theorem readIpv4_group (g : Nat) {rest : List Char} (colon : ∀ c ∈ rest.head?, c = ':') :
    readIpv4 (Nat.toDigits 16 g ++ rest) = none := by
  apply readIpv4_eq_none
  rw [List.dropWhile_append]
  split
  · cases rest with
    | nil => simp
    | cons c more =>
      obtain rfl := colon c rfl
      have notDigit : digitValue 10 ':' = none := by decide
      simp [notDigit]
  · next kept =>
    obtain ⟨x, after, split⟩ :=
      List.exists_cons_of_ne_nil (by simpa only [List.isEmpty_iff] using kept)
    rw [split, List.cons_append, List.head?_cons]
    have member : x ∈ Nat.toDigits 16 g :=
      (List.dropWhile_sublist fun c => (digitValue 10 c).isSome).subset (by rw [split]; simp)
    obtain ⟨d, small, rfl⟩ := mem_toDigits readable_sixteen g x member
    have noDot : ∀ d < 16, Nat.digitChar d ≠ '.' := by decide
    simp [noDot d small]

theorem readGroup {g : Nat} (small : g < 65536) {rest : List Char}
    (colon : ∀ c ∈ rest.head?, c = ':') :
    readNumber 16 (some 4) true 0xFFFF (Nat.toDigits 16 g ++ rest) = some (g, rest) := by
  refine readNumber_toDigits readable_sixteen ?_ (by omega) ?_
  · intro c known
    rw [colon c known]
    decide
  · intro m known
    rw [Option.mem_def, Option.some.injEq] at known
    subst known
    exact (Nat.length_toDigits_le_iff (by decide) (by decide)).mpr (by omega)

theorem readGroups_succ {limit fuel : Nat} {acc : List Nat} {cs : List Char}
    (room : acc.length < limit)
    (noIpv4 : readSeparated ':' (acc.length == 0) readIpv4 cs = none) :
    readGroups limit (fuel + 1) acc cs =
      match readSeparated ':' (acc.length == 0) (readNumber 16 (some 4) true 0xFFFF) cs with
      | some (g, rest) => readGroups limit fuel (acc ++ [g]) rest
      | none => (acc, false, cs) := by
  rw [readGroups]
  rcases readSeparated ':' (acc.length == 0) (readNumber 16 (some 4) true 0xFFFF) cs
    with _ | ⟨g, rest⟩ <;>
  simp only [Nat.not_le.mpr room, if_false, noIpv4, ite_self]

theorem readGroups_ipv4 {limit fuel : Nat} {acc : List Nat} {cs rest : List Char}
    {a b c d : Nat} (room : acc.length + 1 < limit)
    (found : readSeparated ':' (acc.length == 0) readIpv4 cs = some ([a, b, c, d], rest)) :
    readGroups limit (fuel + 1) acc cs = (acc ++ [a * 256 + b, c * 256 + d], true, rest) := by
  rw [readGroups]
  simp [Nat.not_le.mpr (Nat.lt_of_succ_lt room), room, found]

theorem readGroups_stop {limit fuel : Nat} {acc : List Nat} {rest : List Char}
    (ends : GroupsEnd rest) : readGroups limit fuel acc rest = (acc, false, rest) := by
  cases fuel with
  | zero => rfl
  | succ fuel =>
    by_cases full : acc.length ≥ limit
    · rw [readGroups]
      simp [full]
    · have noIpv4 : readSeparated ':' (acc.length == 0) readIpv4 rest = none := by
        rcases ends with rfl | ⟨more, rfl⟩
        · cases acc.length == 0 <;> rfl
        · cases acc.length == 0
          · exact readIpv4_of_colon (by simp)
          · exact readIpv4_of_colon (by simp)
      rw [readGroups_succ (by omega) noIpv4]
      rcases ends with rfl | ⟨more, rfl⟩
      · cases acc.length == 0 <;> rfl
      · cases acc.length == 0 <;> simp [readSeparated, readNumber_colon]

theorem readGroups_colonGroups {limit : Nat} {rest : List Char} (ends : GroupsEnd rest)
    (groups : List Nat) (small : ∀ g ∈ groups, g < 65536) :
    ∀ (acc : List Nat) (fuel : Nat), acc ≠ [] → acc.length + groups.length ≤ limit →
      groups.length ≤ fuel →
      readGroups limit fuel acc (colonGroups groups ++ rest) = (acc ++ groups, false, rest) := by
  induction groups with
  | nil =>
    intro acc fuel _ _ _
    simpa [colonGroups] using readGroups_stop ends
  | cons g groups ih =>
    intro acc fuel started room enough
    obtain ⟨fuel, rfl⟩ : ∃ f, fuel = f + 1 := ⟨fuel - 1, by simp at enough; omega⟩
    have notFirst : (acc.length == 0) = false := by simpa using started
    have after := head?_colonGroups groups ends.colon
    have noIpv4 : readSeparated ':' (acc.length == 0) readIpv4
        (colonGroups (g :: groups) ++ rest) = none := by
      simp only [notFirst, colonGroups, List.flatMap_cons, List.cons_append, List.append_assoc]
      exact readIpv4_group g after
    simp only [List.length_cons] at room enough
    rw [readGroups_succ (by omega) noIpv4, notFirst]
    simp only [colonGroups, List.flatMap_cons, List.cons_append, List.append_assoc,
      readSeparated_sep]
    rw [← colonGroups, readGroup (small g (by simp)) after]
    simpa using ih (fun g' member => small g' (by simp [member])) (acc ++ [g]) fuel (by simp)
      (by simp; omega) (by omega)

theorem readGroups_join {limit fuel : Nat} {rest : List Char} (ends : GroupsEnd rest)
    {groups : List Nat} (small : ∀ g ∈ groups, g < 65536) (room : groups.length ≤ limit)
    (enough : groups.length ≤ fuel) :
    readGroups limit fuel [] ((":".intercalate (groups.map groupText)).toList ++ rest) =
      (groups, false, rest) := by
  cases groups with
  | nil => simpa using readGroups_stop ends
  | cons g groups =>
    obtain ⟨fuel, rfl⟩ : ∃ f, fuel = f + 1 := ⟨fuel - 1, by simp at enough; omega⟩
    have after := head?_colonGroups groups ends.colon
    simp only [List.length_cons] at room enough
    rw [join_toList, List.append_assoc, readGroups_succ (by simp; omega) (by
      simpa [readSeparated_first] using readIpv4_group g after)]
    simp only [List.length_nil, beq_self_eq_true, readSeparated_first]
    rw [readGroup (small g (by simp)) after]
    simpa using readGroups_colonGroups ends groups (fun g' member => small g' (by simp [member]))
      [g] fuel (by simp) (by simp; omega) (by omega)

end Groups

/-! ## The run of zeros -/

section ZeroRun

/-- A run of groups, as its start and length, that lies within `seen` and holds zeros only. -/
def ZeroRun (seen : List Nat) (run : Nat × Nat) : Prop :=
  run.1 + run.2 ≤ seen.length ∧ ∀ k, run.1 ≤ k → k < run.1 + run.2 → seen[k]? = some 0

theorem ZeroRun.append {seen : List Nat} {run : Nat × Nat} (g : Nat) (zeros : ZeroRun seen run) :
    ZeroRun (seen ++ [g]) run := by
  refine ⟨by simp; have := zeros.1; omega, fun k low high => ?_⟩
  rw [List.getElem?_append_left (by have := zeros.1; omega)]
  exact zeros.2 k low high

/-- What the search for the longest run of zero groups knows after the groups `seen`: the best
run and the current run are zero runs, the current one ends at the last group seen unless it is
empty, and the count is the number of groups seen. -/
structure RunSearch (seen : List Nat) (state : (Nat × Nat) × (Nat × Nat) × Nat) : Prop where
  count : state.2.2 = seen.length
  best : ZeroRun seen state.1
  current : ZeroRun seen state.2.1
  currentEnds : state.2.1.2 = 0 ∨ state.2.1.1 + state.2.1.2 = seen.length

theorem runSearch_foldl {step : (Nat × Nat) × (Nat × Nat) × Nat → Nat →
      (Nat × Nat) × (Nat × Nat) × Nat}
    (preserves : ∀ seen state g,
      RunSearch seen state → RunSearch (seen ++ [g]) (step state g)) :
    ∀ (groups seen : List Nat) state, RunSearch seen state →
      RunSearch (seen ++ groups) (groups.foldl step state) := by
  intro groups
  induction groups with
  | nil =>
    intro seen state known
    simpa using known
  | cons g groups ih =>
    intro seen state known
    simpa using ih (seen ++ [g]) (step state g) (preserves seen state g known)

theorem zeroRun_extend {seen : List Nat} {curStart curLen : Nat}
    (current : ZeroRun seen (curStart, curLen))
    (ends : curLen = 0 ∨ curStart + curLen = seen.length) :
    let run := if curLen == 0 then (seen.length, 1) else (curStart, curLen + 1)
    ZeroRun (seen ++ [0]) run ∧ run.1 + run.2 = seen.length + 1 := by
  by_cases empty : curLen = 0
  · rw [if_pos (by simp [empty])]
    refine ⟨⟨by simp, fun k low high => ?_⟩, rfl⟩
    rw [show k = seen.length by dsimp only at low high; omega]
    simp
  · simp only [beq_iff_eq, empty, if_false]
    have joined : curStart + curLen = seen.length := ends.resolve_left empty
    refine ⟨⟨by simp; omega, fun k low high => ?_⟩, by omega⟩
    by_cases last : k = seen.length
    · subst last
      simp
    · exact (current.append 0).2 k low (by omega)

theorem runSearch_nil : RunSearch [] ((0, 0), (0, 0), 0) :=
  ⟨rfl, ⟨le_refl _, fun k _ high => absurd high (by simp)⟩,
    ⟨le_refl _, fun k _ high => absurd high (by simp)⟩, .inl rfl⟩

theorem longestZeroRun_search (groups : List Nat) :
    ∃ state, RunSearch groups state ∧ longestZeroRun groups = state.1 := by
  refine ⟨_, ?_, rfl⟩
  refine (runSearch_foldl ?_ groups [] _ runSearch_nil : RunSearch ([] ++ groups) _)
  intro seen ⟨⟨bestStart, bestLen⟩, ⟨curStart, curLen⟩, i⟩ g known
  obtain ⟨count, best, current, ends⟩ := known
  dsimp only at count best current ends ⊢
  subst count
  by_cases zero : g = 0
  · subst zero
    obtain ⟨extended, joined⟩ := zeroRun_extend current ends
    simp only [beq_self_eq_true, if_true]
    generalize (if curLen == 0 then (seen.length, 1) else (curStart, curLen + 1)) = run
      at extended joined ⊢
    refine ⟨by simp, ?_, extended, .inr (by simpa using joined)⟩
    split
    · exact extended
    · exact best.append 0
  · simp only [beq_iff_eq, zero, if_false]
    exact ⟨by simp, best.append g, ⟨by simp, fun k _ high => absurd high (by simp)⟩,
      .inl rfl⟩

/-- The run that the canonical text replaces by `::` lies within the groups and holds zeros only,
so filling it back gives the groups. -/
theorem longestZeroRun_fill {groups : List Nat} {start len : Nat}
    (found : longestZeroRun groups = (start, len)) :
    start + len ≤ groups.length ∧
      groups.take start ++ List.replicate len 0 ++ groups.drop (start + len) = groups := by
  obtain ⟨state, search, same⟩ := longestZeroRun_search groups
  rw [found] at same
  obtain ⟨within, zeros⟩ : ZeroRun groups (start, len) := same ▸ search.best
  refine ⟨within, ?_⟩
  have middle : (groups.drop start).take len = List.replicate len 0 := by
    rw [List.eq_replicate_iff]
    refine ⟨by simp; omega, fun b member => ?_⟩
    obtain ⟨k, small, rfl⟩ := List.getElem_of_mem member
    have atK := zeros (start + k) (by omega) (by simp at small; omega)
    simp only [List.getElem_take, List.getElem_drop]
    rw [List.getElem?_eq_getElem (by simp at small; omega)] at atK
    exact Option.some.inj atK
  calc groups.take start ++ List.replicate len 0 ++ groups.drop (start + len)
      = groups.take start ++ ((groups.drop start).take len ++ (groups.drop start).drop len) := by
        rw [middle, List.drop_drop, List.append_assoc]
    _ = groups := by rw [List.take_append_drop, List.take_append_drop]

end ZeroRun

/-! ## Canonical text -/

section Text

theorem readIpv4_join (groups : List Nat) {rest : List Char}
    (colon : ∀ c ∈ rest.head?, c = ':') :
    readIpv4 ((":".intercalate (groups.map groupText)).toList ++ rest) = none := by
  cases groups with
  | nil => simpa using readIpv4_of_colon colon
  | cons g groups =>
    rw [join_toList, List.append_assoc]
    exact readIpv4_group g (head?_colonGroups groups colon)

theorem ipv4Mapped?_eq_some {groups octets : List Nat} (mapped : ipv4Mapped? groups = some octets) :
    ∃ hi lo, groups = [0, 0, 0, 0, 0, 0xFFFF, hi, lo] ∧
      octets = [hi / 256, hi % 256, lo / 256, lo % 256] := by
  unfold ipv4Mapped? at mapped
  split at mapped
  · cases mapped
    exact ⟨_, _, rfl, rfl⟩
  · cases mapped

theorem readGroups_mapped {hi lo : Nat} (small : hi < 65536 ∧ lo < 65536) :
    readGroups 7 8 [] (Nat.toDigits 16 0xFFFF ++
        ':' :: (dotted [hi / 256, hi % 256, lo / 256, lo % 256]).toList) =
      ([0xFFFF, hi, lo], true, []) := by
  have colon : ∀ c ∈ (':' :: (dotted [hi / 256, hi % 256, lo / 256, lo % 256]).toList).head?,
      c = ':' := by simp
  rw [readGroups_succ (by simp) (by simpa [readSeparated_first] using readIpv4_group 0xFFFF colon)]
  simp only [List.length_nil, beq_self_eq_true, readSeparated_first]
  rw [readGroup (by decide) colon]
  have octets : readIpv4 ((dotted [hi / 256, hi % 256, lo / 256, lo % 256]).toList ++ []) =
      some ([hi / 256, hi % 256, lo / 256, lo % 256], []) :=
    readIpv4_dotted (by simp; omega) (by simp)
  rw [List.append_nil] at octets
  have round : readGroups 7 (6 + 1) [0xFFFF] (':' :: (dotted [hi / 256, hi % 256, lo / 256,
      lo % 256]).toList) =
        ([0xFFFF] ++ [hi / 256 * 256 + hi % 256, lo / 256 * 256 + lo % 256], true, []) :=
    readGroups_ipv4 (by simp) (by rw [List.length_singleton]; exact octets)
  dsimp only
  rw [List.nil_append]
  refine round.trans ?_
  simp only [List.singleton_append, Prod.mk.injEq, List.cons.injEq, and_true, true_and]
  constructor <;> omega

theorem readIpv6_mapped {hi lo : Nat} (small : hi < 65536 ∧ lo < 65536) :
    readIpv6 ("::ffff:" ++ dotted [hi / 256, hi % 256, lo / 256, lo % 256]).toList =
      some ([0, 0, 0, 0, 0, 0xFFFF, hi, lo], []) := by
  have text : ("::ffff:" ++ dotted [hi / 256, hi % 256, lo / 256, lo % 256]).toList =
      ':' :: ':' :: (Nat.toDigits 16 0xFFFF ++
        ':' :: (dotted [hi / 256, hi % 256, lo / 256, lo % 256]).toList) := by
    rw [String.toList_append]
    rfl
  rw [text]
  unfold readIpv6
  rw [readGroups_stop (.inr ⟨_, rfl⟩)]
  simp only [List.length_nil, zero_add, Nat.reduceSub, Nat.reduceBEq, Bool.false_eq_true,
    if_false, readGroups_mapped small]
  rfl

theorem readIpv6_join {groups : List Nat}
    (valid : groups.length = 8 ∧ ∀ g ∈ groups, g < 65536) :
    readIpv6 (":".intercalate (groups.map groupText)).toList = some (groups, []) := by
  have read : readGroups 8 8 [] ((":".intercalate (groups.map groupText)).toList ++ []) =
      (groups, false, []) :=
    readGroups_join (.inl rfl) valid.2 (by omega) (by omega)
  rw [List.append_nil] at read
  unfold readIpv6
  rw [read]
  simp [valid.1]

theorem readIpv6_run {groups : List Nat} (valid : groups.length = 8 ∧ ∀ g ∈ groups, g < 65536)
    {start len : Nat} (within : start + len ≤ 8) (long : 1 < len) :
    readIpv6 ((":".intercalate ((groups.take start).map groupText)).toList ++
        ':' :: ':' :: (":".intercalate ((groups.drop (start + len)).map groupText)).toList) =
      some (groups.take start ++ List.replicate len 0 ++ groups.drop (start + len), []) := by
  have head : readGroups 8 8 [] ((":".intercalate ((groups.take start).map groupText)).toList ++
      ':' :: ':' :: (":".intercalate ((groups.drop (start + len)).map groupText)).toList) =
        (groups.take start, false,
          ':' :: ':' :: (":".intercalate ((groups.drop (start + len)).map groupText)).toList) :=
    readGroups_join (.inr ⟨_, rfl⟩) (fun g member => valid.2 g (List.mem_of_mem_take member))
      (by simp [valid.1]) (by simp [valid.1])
  have tail : readGroups (8 - (start + 1)) 8 []
      ((":".intercalate ((groups.drop (start + len)).map groupText)).toList ++ []) =
        (groups.drop (start + len), false, []) :=
    readGroups_join (.inl rfl) (fun g member => valid.2 g (List.mem_of_mem_drop member))
      (by simp [valid.1]; omega) (by simp [valid.1])
  rw [List.append_nil] at tail
  have short : (groups.take start).length = start := by simp [valid.1]; omega
  have notFull : (start == 8) = false := by simp; omega
  have filled : 8 - start - (groups.drop (start + len)).length = len := by
    simp [valid.1]; omega
  unfold readIpv6
  rw [head]
  simp only [short, notFull, Bool.false_eq_true, if_false, tail, filled]

theorem IpAddr.parse?_of_readIpv6 {s : String} {groups : List Nat}
    (noIpv4 : readIpv4 s.toList = none) (read : readIpv6 s.toList = some (groups, [])) :
    IpAddr.parse? s = some (.v6 groups) := by
  simp [IpAddr.parse?, IpAddr.read, noIpv4, read]

theorem IpAddr.parse?_text {ip : IpAddr} (valid : ip.Valid) : IpAddr.parse? ip.text = some ip := by
  cases ip with
  | v4 octets =>
    obtain ⟨four, small⟩ := valid
    match octets, four, small with
    | [a, b, c, d], _, small =>
      have read : readIpv4 ((dotted [a, b, c, d]).toList ++ []) = some ([a, b, c, d], []) :=
        readIpv4_dotted small (by simp)
      rw [List.append_nil] at read
      simp [IpAddr.parse?, IpAddr.read, IpAddr.text, read]
  | v6 groups =>
    cases mapped : ipv4Mapped? groups with
    | some octets =>
      obtain ⟨hi, lo, rfl, rfl⟩ := ipv4Mapped?_eq_some mapped
      have small : hi < 65536 ∧ lo < 65536 := ⟨valid.2 hi (by simp), valid.2 lo (by simp)⟩
      simp only [IpAddr.text, mapped]
      refine IpAddr.parse?_of_readIpv6 (readIpv4_of_colon ?_) (readIpv6_mapped small)
      simp [String.toList_append]
    | none =>
      rcases run : longestZeroRun groups with ⟨start, len⟩
      obtain ⟨within, fill⟩ := longestZeroRun_fill run
      have eight : groups.length = 8 := valid.1
      have colons : ("::" : String).toList = [':', ':'] := rfl
      simp only [IpAddr.text, mapped, run]
      split_ifs with long
      · have read := readIpv6_run valid (show start + len ≤ 8 by omega) long
        rw [fill] at read
        refine IpAddr.parse?_of_readIpv6 ?_ ?_
        · simp only [String.toList_append, colons, List.append_assoc, List.cons_append,
            List.nil_append]
          exact readIpv4_join _ (by simp)
        · simpa only [String.toList_append, colons, List.append_assoc, List.cons_append,
            List.nil_append] using read
      · have noIpv4 : readIpv4 ((":".intercalate (groups.map groupText)).toList ++ []) = none :=
          readIpv4_join groups (by simp)
        rw [List.append_nil] at noIpv4
        exact IpAddr.parse?_of_readIpv6 noIpv4 (readIpv6_join valid)

end Text

/-! ## What the reader accepts -/

section Accepted

theorem readSeparated_eq_some {α : Type} {sep : Char} {first : Bool}
    {item : List Char → Option (α × List Char)} {cs : List Char} {x : α × List Char}
    (read : readSeparated sep first item cs = some x) : ∃ after, item after = some x := by
  unfold readSeparated at read
  split at read
  · exact ⟨_, read⟩
  · split at read
    · split at read
      · exact ⟨_, read⟩
      · cases read
    · cases read

theorem readIpv4_eq_some {cs rest : List Char} {octets : List Nat}
    (read : readIpv4 cs = some (octets, rest)) :
    octets.length = 4 ∧ ∀ o ∈ octets, o < 256 := by
  have octet : ∀ {after : List Char} {n : Nat} {more : List Char},
      readNumber 10 (some 3) false 255 after = some (n, more) → n < 256 := fun read => by
    have := (readNumber_eq_some read).1
    omega
  have dotted : ∀ {after : List Char} {n : Nat} {more : List Char},
      readSeparated '.' false (readNumber 10 (some 3) false 255) after = some (n, more) →
        n < 256 := fun read => by
    obtain ⟨_, read⟩ := readSeparated_eq_some read
    exact octet read
  simp only [readIpv4, Option.pure_def, Option.bind_eq_bind, Option.bind_eq_some_iff,
    Option.some.injEq, Prod.mk.injEq, Prod.exists, exists_eq_right_right] at read
  obtain ⟨a, r1, first, b, r2, second, c, r3, third, d, fourth, same⟩ := read
  subst same
  refine ⟨rfl, ?_⟩
  simp only [List.mem_cons, List.not_mem_nil, or_false]
  rintro o (rfl | rfl | rfl | rfl)
  · exact octet first
  · exact dotted second
  · exact dotted third
  · exact dotted fourth

theorem readGroups_bounded {limit : Nat} :
    ∀ (fuel : Nat) (acc : List Nat) (cs : List Char), acc.length ≤ limit →
      (∀ g ∈ acc, g < 65536) →
      (readGroups limit fuel acc cs).1.length ≤ limit ∧
        ∀ g ∈ (readGroups limit fuel acc cs).1, g < 65536
  | 0, acc, cs, room, small => ⟨room, small⟩
  | fuel + 1, acc, cs, room, small => by
    rw [readGroups]
    dsimp only
    split
    · exact ⟨room, small⟩
    · split
      · next free a b c d rest found =>
        split at found
        · next pair =>
          obtain ⟨_, read⟩ := readSeparated_eq_some found
          obtain ⟨-, octets⟩ := readIpv4_eq_some read
          have := octets a (by simp)
          have := octets b (by simp)
          have := octets c (by simp)
          have := octets d (by simp)
          refine ⟨by simp; omega, fun g member => ?_⟩
          simp only [List.mem_append, List.mem_cons, List.not_mem_nil, or_false] at member
          rcases member with earlier | rfl | rfl
          · exact small g earlier
          · omega
          · omega
        · cases found
      · split
        · next g rest found =>
          obtain ⟨_, read⟩ := readSeparated_eq_some found
          have := (readNumber_eq_some read).1
          refine readGroups_bounded fuel _ rest (by simp; omega) fun g' member => ?_
          simp only [List.mem_append, List.mem_singleton] at member
          rcases member with earlier | rfl
          · exact small g' earlier
          · omega
        · exact ⟨room, small⟩

theorem readIpv6_eq_some {cs rest : List Char} {groups : List Nat}
    (read : readIpv6 cs = some (groups, rest)) :
    groups.length = 8 ∧ ∀ g ∈ groups, g < 65536 := by
  unfold readIpv6 at read
  obtain ⟨headRoom, headSmall⟩ := readGroups_bounded 8 [] cs (by simp) (by simp)
  generalize readGroups 8 8 [] cs = head at read headRoom headSmall
  obtain ⟨head, headIpv4, afterHead⟩ := head
  dsimp only at read headRoom headSmall
  split at read
  · next full =>
    cases read
    exact ⟨by simpa using full, headSmall⟩
  · next notFull =>
    split at read
    · cases read
    · split at read
      · next after =>
        have tail : (readGroups (8 - (head.length + 1)) 8 [] after).1.length ≤
            8 - (head.length + 1) ∧ ∀ g ∈ (readGroups (8 - (head.length + 1)) 8 [] after).1,
              g < 65536 := readGroups_bounded 8 [] after (by simp) (by simp)
        obtain ⟨tailRoom, tailSmall⟩ := tail
        cases read
        have shortHead : head.length < 8 := by simp at notFull; omega
        refine ⟨by simp only [List.length_append, List.length_replicate]; omega,
          fun g member => ?_⟩
        simp only [List.mem_append, List.mem_replicate] at member
        rcases member with (earlier | ⟨-, rfl⟩) | later
        · exact headSmall g earlier
        · decide
        · exact tailSmall g later
      · cases read

theorem IpAddr.valid_of_parse? {s : String} {ip : IpAddr} (parsed : IpAddr.parse? s = some ip) :
    ip.Valid := by
  unfold IpAddr.parse? at parsed
  split at parsed
  · next read =>
    cases parsed
    unfold IpAddr.read at read
    split at read
    · next octets rest four =>
      cases read
      exact readIpv4_eq_some four
    · obtain ⟨⟨groups, rest⟩, six, same⟩ := Option.map_eq_some_iff.mp read
      cases same
      exact readIpv6_eq_some six
  · cases parsed

end Accepted

end BalancerSync.Net
