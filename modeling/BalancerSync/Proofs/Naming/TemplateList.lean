import Mathlib
import BalancerSync.Naming.Templates

/-!
# Naming template lists

A list of naming templates is read by cutting the text at every comma (`commaPieces`): joined by
commas the pieces give the text back, no piece holds a comma, and there is one piece more than
there are commas. Piece `i` is compiled under the name `server_name_<i>`. Reading succeeds
exactly when every piece compiles, the compiled pieces then standing in order under their names;
otherwise the first piece that fails is reported with its index and its text. A blank list is
read as the default template, one piece (`parse_follows_comma_split`).

The names of a service are rendered by every template in turn; the first template that fails to
render stops generation with its error. Otherwise the names are the rendered ones, each kept
where it first occurs, then the service's external names as they are
(`generate_first_occurrences_then_external`).
-/

namespace BalancerSync.Naming

open Template

/-! ## Server names -/

/-- A name is a pattern exactly when it starts with `~`, and its pattern is then the name with
that one `~` removed; any other name is its own pattern. -/
theorem ServerName.isPattern_pattern_cases (n : ServerName) :
    (n.isPattern = true ∧ n.text = "~" ++ n.pattern) ∨
      (n.isPattern = false ∧ n.pattern = n.text ∧ ∀ rest, n.text ≠ "~" ++ rest) := by
  have tilde : "~".toList = ['~'] := by simp
  have marked : n.isPattern = true ↔ ∃ rest : List Char, n.text.toList = '~' :: rest := by
    rw [ServerName.isPattern, String.startsWith_string_iff, tilde]
    constructor
    · rintro ⟨rest, prefixed⟩
      exact ⟨rest, prefixed.symm⟩
    · rintro ⟨rest, chars⟩
      exact ⟨rest, chars.symm⟩
  by_cases starts : ∃ rest : List Char, n.text.toList = '~' :: rest
  · obtain ⟨rest, chars⟩ := starts
    have pattern : n.isPattern = true := marked.mpr ⟨rest, chars⟩
    refine .inl ⟨pattern, String.toList_inj.mp ?_⟩
    simp [ServerName.pattern, pattern, chars]
  · have plain : n.isPattern = false := Bool.eq_false_iff.mpr fun marks => starts (marked.mp marks)
    refine .inr ⟨plain, by simp [ServerName.pattern, plain], fun rest same => starts ?_⟩
    exact ⟨rest.toList, by simp [same]⟩

namespace NameTemplates

/-! ## Cutting at commas -/

section Pieces

theorem comma_not_mem_of_mem_splitOn :
    ∀ {cs piece : List Char}, piece ∈ cs.splitOn ',' → ',' ∉ piece
  | [], piece, member => by simp_all
  | c :: cs, piece, member => by
    have later := @comma_not_mem_of_mem_splitOn cs
    rw [List.splitOn_cons_eq_if_modifyHead] at member
    split at member
    · rcases List.mem_cons.mp member with rfl | inRest
      · simp
      · exact later inRest
    · rename_i notComma
      obtain ⟨first, others, split⟩ := List.exists_cons_of_ne_nil (List.splitOn_ne_nil ',' cs)
      rw [split, List.modifyHead_cons] at member
      rcases List.mem_cons.mp member with rfl | inOthers
      · have apart : c ≠ ',' := by simpa using notComma
        have notInFirst := later (by rw [split]; exact List.mem_cons_self ..)
        simp [apart.symm, notInFirst]
      · exact later (by rw [split]; exact List.mem_cons_of_mem _ inOthers)

theorem length_splitOn_comma : ∀ cs : List Char, (cs.splitOn ',').length = cs.count ',' + 1
  | [] => rfl
  | c :: cs => by
    rw [List.splitOn_cons_eq_if_modifyHead, List.count_cons]
    split
    · rename_i comma
      simp [length_splitOn_comma cs]
    · rename_i notComma
      simp [List.length_modifyHead, length_splitOn_comma cs]

theorem intercalate_commaPieces (text : String) :
    String.intercalate "," (commaPieces text) = text := by
  apply String.toList_inj.mp
  simp [commaPieces, String.toList_intercalate, List.map_map, Function.comp_def]

theorem comma_not_mem_of_mem_commaPieces {text piece : String}
    (member : piece ∈ commaPieces text) : ',' ∉ piece.toList := by
  obtain ⟨cs, inSplit, rfl⟩ := List.mem_map.mp member
  simpa using comma_not_mem_of_mem_splitOn inSplit

theorem length_commaPieces (text : String) :
    (commaPieces text).length = text.toList.count ',' + 1 := by
  simp [commaPieces, length_splitOn_comma]

end Pieces

/-! ## Compiling the pieces -/

section Compile

/-- Compiling pieces from `index` on succeeds exactly when each piece compiles under its name;
the entries are then the names and the compiled pieces, in order. -/
theorem compilePieces_eq_ok_iff :
    ∀ {index : Nat} {pieces : List String} {compiled : List (String × Compiled)},
      compilePieces index pieces = .ok compiled ↔
        List.Forall₂ (fun (piece : String × Nat) (entry : String × Compiled) =>
            entry.1 = pieceName piece.2 ∧
              Template.compile (some (pieceName piece.2)) piece.1 = .ok entry.2)
          (pieces.zipIdx index) compiled
  | index, [], compiled => by
    cases compiled <;> simp [compilePieces]
  | index, piece :: rest, compiled => by
    have later := @compilePieces_eq_ok_iff (index + 1) rest
    cases compiledHere : Template.compile (some (pieceName index)) piece with
    | error err =>
      simp only [compilePieces, compiledHere, reduceCtorEq, false_iff]
      intro related
      cases related with
      | cons first _ => simp [compiledHere] at first
    | ok c =>
      cases compiled with
      | nil =>
        cases restCompiled : compilePieces (index + 1) rest <;>
          simp [compilePieces, compiledHere, restCompiled, bind, Except.bind]
      | cons entry entries =>
        rw [List.zipIdx_cons, List.forall₂_cons, ← later]
        cases restCompiled : compilePieces (index + 1) rest <;>
          simp [compilePieces, compiledHere, restCompiled, bind, Except.bind, Prod.ext_iff,
            eq_comm]

/-- `e` reports the first of the numbered pieces that does not compile under its name: every
piece before it compiles. -/
def FirstFailure (numbered : List (String × Nat)) (e : NameTemplateError) : Prop :=
  ∃ i, ∃ (within : i < numbered.length),
    (∀ j (earlier : j < i), ∃ c,
      Template.compile (some (pieceName numbered[j].2)) numbered[j].1 = .ok c) ∧
    ∃ err, Template.compile (some (pieceName numbered[i].2)) numbered[i].1 = .error err ∧
      e = ⟨numbered[i].2, numbered[i].1, err⟩

section FirstFailure

variable {piece : String} {number : Nat} {rest : List (String × Nat)} {e : NameTemplateError}

theorem not_firstFailure_nil : ¬ FirstFailure [] e := by
  rintro ⟨i, within, -⟩
  exact absurd within (Nat.not_lt_zero i)

theorem firstFailure_cons_of_error {err : TemplateError}
    (failed : Template.compile (some (pieceName number)) piece = .error err) :
    FirstFailure ((piece, number) :: rest) e ↔ e = ⟨number, piece, err⟩ := by
  constructor
  · rintro ⟨i, within, before, err', failedAt, rfl⟩
    cases i with
    | zero =>
      simp only [List.getElem_cons_zero, failed, Except.error.injEq] at failedAt
      subst failedAt
      rfl
    | succ i =>
      obtain ⟨c, compiled⟩ := before 0 (Nat.succ_pos i)
      simp [failed] at compiled
  · rintro rfl
    exact ⟨0, Nat.succ_pos _, fun j earlier => absurd earlier (Nat.not_lt_zero j), err, failed, rfl⟩

theorem firstFailure_cons_of_ok {c : Compiled}
    (compiled : Template.compile (some (pieceName number)) piece = .ok c) :
    FirstFailure ((piece, number) :: rest) e ↔ FirstFailure rest e := by
  constructor
  · rintro ⟨i, within, before, err, failed, rfl⟩
    cases i with
    | zero => simp [compiled] at failed
    | succ i =>
      refine ⟨i, by simpa using within, fun j earlier => ?_, err, by simpa using failed, by simp⟩
      simpa using before (j + 1) (Nat.succ_lt_succ earlier)
  · rintro ⟨i, within, before, err, failed, rfl⟩
    refine ⟨i + 1, by simpa using within, fun j earlier => ?_, err, by simpa using failed, by simp⟩
    cases j with
    | zero => exact ⟨c, compiled⟩
    | succ j => simpa using before j (Nat.lt_of_succ_lt_succ earlier)

end FirstFailure

/-- Compiling pieces from `index` on fails exactly at the first piece that does not compile,
reported with its number and its text. -/
theorem compilePieces_eq_error_iff :
    ∀ {index : Nat} {pieces : List String} {e : NameTemplateError},
      compilePieces index pieces = .error e ↔ FirstFailure (pieces.zipIdx index) e
  | index, [], e => by simp [compilePieces, not_firstFailure_nil]
  | index, piece :: rest, e => by
    rw [List.zipIdx_cons]
    cases compiledHere : Template.compile (some (pieceName index)) piece with
    | error err =>
      rw [firstFailure_cons_of_error compiledHere]
      simp [compilePieces, compiledHere, eq_comm]
    | ok c =>
      rw [firstFailure_cons_of_ok compiledHere, ← compilePieces_eq_error_iff]
      cases restCompiled : compilePieces (index + 1) rest <;>
        simp [compilePieces, compiledHere, restCompiled, bind, Except.bind]

theorem forall₂_zipIdx_iff {pieces : List String} {compiled : List (String × Compiled)} :
    List.Forall₂ (fun (piece : String × Nat) (entry : String × Compiled) =>
        entry.1 = pieceName piece.2 ∧
          Template.compile (some (pieceName piece.2)) piece.1 = .ok entry.2)
      (pieces.zipIdx) compiled ↔
      compiled.length = pieces.length ∧ ∀ i (within : i < pieces.length), ∃ c,
        Template.compile (some (pieceName i)) pieces[i] = .ok c ∧
          compiled[i]? = some (pieceName i, c) := by
  simp only [List.forall₂_iff_get, List.length_zipIdx, List.get_eq_getElem, List.getElem_zipIdx,
    Nat.zero_add]
  constructor
  · rintro ⟨lengths, entries⟩
    refine ⟨lengths.symm, fun i within => ?_⟩
    have inCompiled : i < compiled.length := lengths ▸ within
    obtain ⟨named, ok⟩ := entries i within inCompiled
    refine ⟨_, ok, ?_⟩
    rw [List.getElem?_eq_getElem inCompiled, ← named]
  · rintro ⟨lengths, entries⟩
    refine ⟨lengths.symm, fun i within inCompiled => ?_⟩
    obtain ⟨c, ok, entry⟩ := entries i within
    rw [List.getElem?_eq_getElem inCompiled, Option.some.injEq] at entry
    rw [entry]
    exact ⟨rfl, ok⟩

theorem firstFailure_zipIdx_iff {pieces : List String} {e : NameTemplateError} :
    FirstFailure pieces.zipIdx e ↔ ∃ i, ∃ (within : i < pieces.length),
      (∀ j (earlier : j < i), ∃ c,
        Template.compile (some (pieceName j)) pieces[j] = .ok c) ∧
      ∃ err, Template.compile (some (pieceName i)) pieces[i] = .error err ∧
        e = ⟨i, pieces[i], err⟩ := by
  simp only [FirstFailure, List.length_zipIdx, List.getElem_zipIdx, Nat.zero_add]

end Compile

/-! ## Reading a list -/

section Parse

variable {x : String}

theorem parse_eq_ok_iff {t : NameTemplates} :
    parse x = .ok t ↔ compilePieces 0
      (commaPieces (if (Text.trim x).isEmpty then defaultTemplate else x)) = .ok t.pieces := by
  cases compiled : compilePieces 0
      (commaPieces (if (Text.trim x).isEmpty then defaultTemplate else x)) <;>
    simp only [parse, compiled, bind, Except.bind, reduceCtorEq, Except.ok.injEq]
  constructor
  · rintro rfl
    rfl
  · intro same
    rw [same]

theorem parse_eq_error_iff {e : NameTemplateError} :
    parse x = .error e ↔ compilePieces 0
      (commaPieces (if (Text.trim x).isEmpty then defaultTemplate else x)) = .error e := by
  cases compiled : compilePieces 0
      (commaPieces (if (Text.trim x).isEmpty then defaultTemplate else x)) <;>
    simp only [parse, compiled, bind, Except.bind, reduceCtorEq, Except.error.injEq]

theorem isEmpty_trim_defaultTemplate : (Text.trim defaultTemplate).isEmpty = false := by
  cbv

theorem commaPieces_defaultTemplate : commaPieces defaultTemplate = [defaultTemplate] := by
  cbv

theorem compile_defaultTemplate :
    ∃ c, Template.compile (some (pieceName 0)) defaultTemplate = .ok c := by
  have compiles :
      (Template.compile (some (pieceName 0)) defaultTemplate).toOption.isSome = true := by
    cbv
  cases compiled : Template.compile (some (pieceName 0)) defaultTemplate with
  | ok c => exact ⟨c, rfl⟩
  | error err => simp [compiled, Except.toOption] at compiles

theorem parse_of_blank (blank : (Text.trim x).isEmpty = true) :
    parse x = parse defaultTemplate ∧
      ∃ c, Template.compile (some (pieceName 0)) defaultTemplate = .ok c ∧
        parse defaultTemplate = .ok ⟨[(pieceName 0, c)]⟩ := by
  obtain ⟨c, compiled⟩ := compile_defaultTemplate
  have readDefault : parse defaultTemplate = .ok ⟨[(pieceName 0, c)]⟩ := by
    rw [parse_eq_ok_iff, isEmpty_trim_defaultTemplate, if_neg Bool.false_ne_true,
      commaPieces_defaultTemplate]
    simp [compilePieces, compiled, bind, Except.bind]
  refine ⟨?_, c, compiled, readDefault⟩
  rw [readDefault, parse_eq_ok_iff, blank, if_pos rfl, commaPieces_defaultTemplate]
  simp [compilePieces, compiled, bind, Except.bind]

theorem one_le_count_of_parse {t : NameTemplates} (read : parse x = .ok t) : 1 ≤ t.count := by
  rw [parse_eq_ok_iff, compilePieces_eq_ok_iff] at read
  have lengths := read.length_eq
  rw [List.length_zipIdx, length_commaPieces] at lengths
  rw [count, ← lengths]
  omega

end Parse

/-- Reading a list of naming templates follows the comma split exactly. The pieces are the
text cut at every comma: joined by commas they give the text back, none holds a comma, and there
is one piece more than there are commas. A blank list reads as the default template alone. Any
other list reads exactly when every piece compiles under its name `server_name_<i>`, and then
holds the compiled pieces in order under those names, one for each piece; otherwise reading
fails at the first piece that does not compile, with its index and its text. A list read holds
at least one template. -/
theorem parse_follows_comma_split (x : String) :
    String.intercalate "," (commaPieces x) = x ∧ (∀ piece ∈ commaPieces x, ',' ∉ piece.toList) ∧
    (commaPieces x).length = x.toList.count ',' + 1 ∧
    ((Text.trim x).isEmpty = true →
      parse x = parse defaultTemplate ∧
        ∃ c, Template.compile (some (pieceName 0)) defaultTemplate = .ok c ∧
          parse defaultTemplate = .ok ⟨[(pieceName 0, c)]⟩) ∧
    ((Text.trim x).isEmpty = false →
      ((∃ t, parse x = .ok t) ↔ ∀ i (within : i < (commaPieces x).length), ∃ c,
          Template.compile (some (pieceName i)) (commaPieces x)[i] = .ok c) ∧
      (∀ t, parse x = .ok t ↔ t.count = (commaPieces x).length ∧
        ∀ i (within : i < (commaPieces x).length), ∃ c,
          Template.compile (some (pieceName i)) (commaPieces x)[i] = .ok c ∧
            t.pieces[i]? = some (pieceName i, c)) ∧
      (∀ e, parse x = .error e ↔ ∃ i, ∃ (within : i < (commaPieces x).length),
        (∀ j (earlier : j < i), ∃ c,
          Template.compile (some (pieceName j)) (commaPieces x)[j] = .ok c) ∧
        ∃ err, Template.compile (some (pieceName i)) (commaPieces x)[i] = .error err ∧
          e = ⟨i, (commaPieces x)[i], err⟩)) ∧
    (∀ t, parse x = .ok t → 1 ≤ t.count) := by
  refine ⟨intercalate_commaPieces x, fun piece => comma_not_mem_of_mem_commaPieces,
    length_commaPieces x, parse_of_blank, fun nonBlank => ?_, fun t => one_le_count_of_parse⟩
  have read : ∀ t, parse x = .ok t ↔ t.count = (commaPieces x).length ∧
      ∀ i (within : i < (commaPieces x).length), ∃ c,
        Template.compile (some (pieceName i)) (commaPieces x)[i] = .ok c ∧
          t.pieces[i]? = some (pieceName i, c) := fun t => by
    rw [parse_eq_ok_iff, nonBlank, if_neg Bool.false_ne_true, compilePieces_eq_ok_iff,
      forall₂_zipIdx_iff, count]
  have failed : ∀ e, parse x = .error e ↔ ∃ i, ∃ (within : i < (commaPieces x).length),
      (∀ j (earlier : j < i), ∃ c,
        Template.compile (some (pieceName j)) (commaPieces x)[j] = .ok c) ∧
      ∃ err, Template.compile (some (pieceName i)) (commaPieces x)[i] = .error err ∧
        e = ⟨i, (commaPieces x)[i], err⟩ := fun e => by
    rw [parse_eq_error_iff, nonBlank, if_neg Bool.false_ne_true, compilePieces_eq_error_iff,
      firstFailure_zipIdx_iff]
  refine ⟨⟨fun ⟨t, readT⟩ i within => ?_, fun compiles => ?_⟩, read, failed⟩
  · obtain ⟨c, ok, -⟩ := ((read t).mp readT).2 i within
    exact ⟨c, ok⟩
  · cases readX : parse x with
    | ok t => exact ⟨t, rfl⟩
    | error e =>
      obtain ⟨i, within, -, err, notCompiled, -⟩ := (failed e).mp readX
      obtain ⟨c, compiled⟩ := compiles i within
      rw [compiled] at notCompiled
      cases notCompiled

/-- Of `{{Service.Name}},{{` the second piece, an unclosed tag, is the first that does not
compile, so reading fails there. -/
theorem parse_follows_comma_split_second_fails :
    (Text.trim "\x7b\x7bService.Name\x7d\x7d,\x7b\x7b").isEmpty = false ∧
    ∃ e, parse "\x7b\x7bService.Name\x7d\x7d,\x7b\x7b" = .error e ∧ e.index = 1 ∧
      e.template = "\x7b\x7b" := by
  have nonBlank :
      (Text.trim "\x7b\x7bService.Name\x7d\x7d,\x7b\x7b").isEmpty = false := by
    cbv
  have pieces : commaPieces "\x7b\x7bService.Name\x7d\x7d,\x7b\x7b" =
      ["\x7b\x7bService.Name\x7d\x7d", "\x7b\x7b"] := by
    cbv
  have firstCompiles :
      (Template.compile (some (pieceName 0)) "\x7b\x7bService.Name\x7d\x7d").toOption.isSome =
        true := by
    cbv
  have secondFails :
      (Template.compile (some (pieceName 1)) "\x7b\x7b").toOption.isSome = false := by
    cbv
  obtain ⟨-, -, -, -, nonBlankRead, -⟩ :=
    parse_follows_comma_split "\x7b\x7bService.Name\x7d\x7d,\x7b\x7b"
  obtain ⟨-, -, failed⟩ := nonBlankRead nonBlank
  refine ⟨nonBlank, ?_⟩
  cases second : Template.compile (some (pieceName 1)) "\x7b\x7b" with
  | ok c => simp [second, Except.toOption] at secondFails
  | error err =>
    cases first : Template.compile (some (pieceName 0)) "\x7b\x7bService.Name\x7d\x7d" with
    | error _ => simp [first, Except.toOption] at firstCompiles
    | ok c =>
      refine ⟨⟨1, "\x7b\x7b", err⟩, (failed _).mpr ⟨1, by simp [pieces],
        fun j earlier => ?_, err, by simp [pieces, second], by simp [pieces]⟩, rfl, rfl⟩
      obtain rfl : j = 0 := by omega
      exact ⟨c, by simpa [pieces] using first⟩



/-! ## Rendering the names -/

section MapM

variable {α β ε : Type} {f : α → Except ε β}

theorem mapM_except_eq_ok_iff :
    ∀ {xs : List α} {ys : List β}, xs.mapM f = .ok ys ↔ List.Forall₂ (fun x y => f x = .ok y) xs ys
  | [], ys => by cases ys <;> simp [pure, Except.pure]
  | x :: xs, ys => by
    have later := @mapM_except_eq_ok_iff xs
    cases here : f x with
    | error e => cases ys <;> simp [List.mapM_cons, here, bind, Except.bind]
    | ok y =>
      cases ys with
      | nil => cases rest : xs.mapM f <;> simp [List.mapM_cons, here, rest, bind, Except.bind, pure, Except.pure]
      | cons y' ys =>
        rw [List.forall₂_cons, ← later, here, Except.ok.injEq]
        cases rest : xs.mapM f <;>
          simp [List.mapM_cons, here, rest, bind, Except.bind, pure, Except.pure, eq_comm]

theorem mapM_except_eq_error_iff :
    ∀ {xs : List α} {e : ε}, xs.mapM f = .error e ↔
      ∃ i, ∃ (within : i < xs.length), f xs[i] = .error e ∧
        ∀ j (earlier : j < i), ∃ y, f xs[j] = .ok y
  | [], e => by simp [pure, Except.pure]
  | x :: xs, e => by
    have later := @mapM_except_eq_error_iff xs e
    cases here : f x with
    | error e' =>
      simp only [List.mapM_cons, here, bind, Except.bind, Except.error.injEq]
      constructor
      · rintro rfl
        exact ⟨0, Nat.succ_pos _, here, fun j earlier => absurd earlier (Nat.not_lt_zero j)⟩
      · rintro ⟨i, within, failed, before⟩
        cases i with
        | zero => simpa [here] using failed
        | succ i =>
          obtain ⟨y, ok⟩ := before 0 (Nat.succ_pos i)
          simp [here] at ok
    | ok y =>
      have shifted : (∃ i, ∃ (within : i < (x :: xs).length), f (x :: xs)[i] = .error e ∧
            ∀ j (earlier : j < i), ∃ y, f (x :: xs)[j] = .ok y) ↔
          ∃ i, ∃ (within : i < xs.length), f xs[i] = .error e ∧
            ∀ j (earlier : j < i), ∃ y, f xs[j] = .ok y := by
        constructor
        · rintro ⟨i, within, failed, before⟩
          cases i with
          | zero => simp [here] at failed
          | succ i =>
            exact ⟨i, by simpa using within, by simpa using failed,
              fun j earlier => by simpa using before (j + 1) (Nat.succ_lt_succ earlier)⟩
        · rintro ⟨i, within, failed, before⟩
          refine ⟨i + 1, by simpa using within, by simpa using failed, fun j earlier => ?_⟩
          cases j with
          | zero => exact ⟨y, here⟩
          | succ j => simpa using before j (Nat.lt_of_succ_lt_succ earlier)
      rw [shifted, ← later]
      cases rest : xs.mapM f <;> simp [List.mapM_cons, here, rest, bind, Except.bind, pure, Except.pure]

end MapM

/-- The names kept from a list, by index: a name is kept where no equal name stands before it.
`earlier` are the names met before the list, and `seen` holds the same names. -/
theorem withoutRepeats_eq_filterMap :
    ∀ (names : List String) {earlier seen : List String}, (∀ n, n ∈ seen ↔ n ∈ earlier) →
      withoutRepeats seen names = names.zipIdx.filterMap fun entry =>
        if entry.1 ∈ earlier ++ names.take entry.2 then none else some entry.1
  | [], _, _, _ => rfl
  | n :: rest, earlier, seen, same => by
    have shift : (rest.zipIdx 1).filterMap (fun entry =>
          if entry.1 ∈ earlier ++ (n :: rest).take entry.2 then none else some entry.1) =
        rest.zipIdx.filterMap (fun entry =>
          if entry.1 ∈ (earlier ++ [n]) ++ rest.take entry.2 then none else some entry.1) := by
      rw [List.zipIdx_succ, List.filterMap_map]
      congr 1
      funext entry
      simp
    rw [List.zipIdx_cons, List.filterMap_cons, shift, withoutRepeats]
    by_cases met : n ∈ earlier
    · have keep : ∀ m, m ∈ seen ↔ m ∈ earlier ++ [n] := fun m => by
        rw [same]
        simp only [List.mem_append, List.mem_singleton]
        constructor
        · exact Or.inl
        · rintro (inEarlier | rfl)
          · exact inEarlier
          · exact met
      simp [(same n).mpr met, met, withoutRepeats_eq_filterMap rest keep]
    · have grow : ∀ m, m ∈ n :: seen ↔ m ∈ earlier ++ [n] := fun m => by
        simp [same, or_comm]
      have unseen : n ∉ seen := fun inSeen => met ((same n).mp inSeen)
      simp [unseen, met, withoutRepeats_eq_filterMap rest grow]

theorem generate_eq_map (t : NameTemplates) (service : Topology.Service) (domain : String) :
    t.generate service domain = (t.renderAll (nameContext service domain)).map fun rendered =>
      (withoutRepeats [] rendered ++ service.external).map ServerName.mk := by
  cases rendered : t.renderAll (nameContext service domain) <;>
    simp only [generate, rendered, bind, Except.bind, Except.map]

section Generate

variable {t : NameTemplates} {service : Topology.Service} {domain : String}

theorem generate_eq_error_iff {e : Halt} :
    t.generate service domain = .error e ↔ ∃ i, ∃ (within : i < t.pieces.length),
      t.registry.render t.pieces[i].1 (nameContext service domain) = .error e ∧
      ∀ j (earlier : j < i), ∃ name,
        t.registry.render t.pieces[j].1 (nameContext service domain) = .ok name := by
  calc t.generate service domain = .error e
      ↔ t.renderAll (nameContext service domain) = .error e := by
        rw [generate_eq_map]
        cases t.renderAll (nameContext service domain) <;> simp [Except.map]
    _ ↔ _ := mapM_except_eq_error_iff

theorem generate_eq_ok_iff {names : List ServerName} :
    t.generate service domain = .ok names ↔ ∃ rendered,
      List.Forall₂ (fun piece name =>
          t.registry.render piece.1 (nameContext service domain) = .ok name) t.pieces rendered ∧
        names = (withoutRepeats [] rendered ++ service.external).map ServerName.mk := by
  calc t.generate service domain = .ok names
      ↔ ∃ rendered, t.renderAll (nameContext service domain) = .ok rendered ∧
          names = (withoutRepeats [] rendered ++ service.external).map ServerName.mk := by
        rw [generate_eq_map]
        cases t.renderAll (nameContext service domain) <;> simp [Except.map, eq_comm]
    _ ↔ _ := exists_congr fun rendered => and_congr_left fun _ => mapM_except_eq_ok_iff

end Generate

/-- Server names are generated exactly so. Generation fails exactly when some template fails to
render, with the error of the first that fails. Otherwise the names are the rendered ones, each
kept where it first occurs and dropped where an equal name stands before it, and then every
external name of the service as it is, in order, none of them dropped. Templates see each name
with `IsRegexp` telling whether it starts with `~`, and `Regexp` the name with that one `~`
removed. -/
theorem generate_first_occurrences_then_external (t : NameTemplates)
    (service : Topology.Service) (domain : String) :
    (∀ e, t.generate service domain = .error e ↔ ∃ i, ∃ (within : i < t.pieces.length),
      t.registry.render t.pieces[i].1 (nameContext service domain) = .error e ∧
      ∀ j (earlier : j < i), ∃ name,
        t.registry.render t.pieces[j].1 (nameContext service domain) = .ok name) ∧
    (∀ names, t.generate service domain = .ok names ↔ ∃ rendered,
      List.Forall₂ (fun piece name =>
          t.registry.render piece.1 (nameContext service domain) = .ok name) t.pieces rendered ∧
        names = ((rendered.zipIdx.filterMap fun entry =>
            if entry.1 ∈ rendered.take entry.2 then none else some entry.1) ++
          service.external).map ServerName.mk) ∧
    (∀ names, t.generate service domain = .ok names → ∀ n ∈ names,
      ∃ (regexp : Bool) (pattern : String),
        n.toJson = Json.mkObject [("Name", .string n.text), ("IsRegexp", .bool regexp),
          ("Regexp", .string pattern)] ∧
        ((regexp = true ∧ n.text = "~" ++ pattern) ∨
          (regexp = false ∧ pattern = n.text ∧ ∀ rest, n.text ≠ "~" ++ rest))) := by
  refine ⟨fun e => generate_eq_error_iff, fun names => ?_, fun names _ n _ => ?_⟩
  · rw [generate_eq_ok_iff]
    simp only [withoutRepeats_eq_filterMap _ (fun _ => Iff.rfl), List.nil_append]
  · exact ⟨n.isPattern, n.pattern, rfl, ServerName.isPattern_pattern_cases n⟩

end NameTemplates

end BalancerSync.Naming
