import Mathlib
import BalancerSync.Reload.Notifier

/-!
# Reading a pid

The text of a pidfile names a pid when, blanks around it removed, it is an optional `+` and then
one or more ASCII digits whose value lies in `[1, 2^31 - 1]` (`NamesPid`). Reading a pidfile
gives that pid exactly when its text names one, and otherwise reports the trimmed text as an
invalid pid, or the file as unreadable (`pidOfText_eq_ok_iff`, `pidOfText_eq_error`). A sign
`-` never names a pid, even on `0`.

So a notification either fails before any signal is sent, the same for every set of running
processes, or sends one signal, to the pid the pidfile names, which is at least `1`: never to a
process group or to every process (`readPid_exact_and_notify_positive`).
-/

namespace BalancerSync.Reload

/-! ## Decimal digits -/

/-- The value of a list of decimal digit characters, most significant first. -/
def decimalValue (digits : List Char) : Nat :=
  Nat.ofDigits 10 (digits.reverse.map fun c => c.toNat - '0'.toNat)

/-- A trimmed pidfile text names the pid `p`: an optional `+`, then ASCII digits whose value `p`
lies in `[1, 2^31 - 1]`. -/
def NamesPid (text : String) (p : Int) : Prop :=
  ∃ digits : List Char, (text.toList = digits ∨ text.toList = '+' :: digits) ∧ digits ≠ [] ∧
    (∀ c ∈ digits, c.isDigit = true) ∧ p = decimalValue digits ∧ 1 ≤ p ∧ p ≤ 2147483647

theorem decimalValue_append_digit (digits : List Char) (c : Char) :
    decimalValue (digits ++ [c]) = decimalValue digits * 10 + (c.toNat - 48) := by
  have zeroCode : '0'.toNat = 48 := rfl
  simp only [decimalValue, List.reverse_append, List.reverse_singleton, List.singleton_append,
    List.map_cons, Nat.ofDigits_cons, zeroCode]
  ring

theorem foldl_digits (digits : List Char) :
    digits.foldl (fun acc c => acc * 10 + (c.toNat - 48)) 0 = decimalValue digits := by
  induction digits using List.reverseRecOn with
  | nil => rfl
  | append_singleton digits c ih =>
    rw [List.foldl_append, decimalValue_append_digit, ← ih, List.foldl_cons, List.foldl_nil]

/-! ## Signed 32-bit text -/

section Parse

variable {text : String} {digits : List Char} {v : Int}

theorem parseInt32?_of_unsigned (unsigned : text.toList = digits ∨ text.toList = '+' :: digits)
    (nonempty : digits ≠ []) (allDigits : ∀ c ∈ digits, c.isDigit = true) :
    parseInt32? text =
      if (decimalValue digits : Int) ≤ 2147483647 then some (decimalValue digits : Int)
      else none := by
  have checked : (digits.isEmpty || !digits.all Char.isDigit) = false := by
    simp [nonempty, List.all_eq_true.mpr allDigits]
  have fits : (-2147483648 : Int) ≤ decimalValue digits := by omega
  rcases unsigned with plain | signed
  · unfold parseInt32?
    rw [plain]
    split
    rename_i negative read signSplit
    split at signSplit
    · exact absurd (allDigits '+' (List.mem_cons_self ..)) (by decide)
    · exact absurd (allDigits '-' (List.mem_cons_self ..)) (by decide)
    · obtain ⟨rfl, rfl⟩ := Prod.mk.inj signSplit
      simp [checked, foldl_digits, fits]
  · simp [parseInt32?, signed, checked, foldl_digits, fits]

theorem parseInt32?_eq_some (read : parseInt32? text = some v) :
    (∃ rest, text.toList = '-' :: rest ∧ v ≤ 0) ∨
      ∃ digits, (text.toList = digits ∨ text.toList = '+' :: digits) ∧ digits ≠ [] ∧
        (∀ c ∈ digits, c.isDigit = true) ∧ v = decimalValue digits ∧ v ≤ 2147483647 := by
  unfold parseInt32? at read
  split at read
  rename_i negative digits signSplit
  split at read
  · contradiction
  rename_i checked
  simp only [Bool.or_eq_true, List.isEmpty_iff, Bool.not_eq_true', List.all_eq_false, not_or,
    not_exists, not_and, not_not] at checked
  obtain ⟨nonempty, allDigits⟩ := checked
  cases negative with
  | true =>
    left
    simp only [foldl_digits, if_true] at read
    split at read
    · obtain rfl := Option.some.inj read
      split at signSplit
      · simp at signSplit
      · rename_i rest signed
        exact ⟨rest, signed, by omega⟩
      · simp at signSplit
    · contradiction
  | false =>
    right
    simp only [foldl_digits, Bool.false_eq_true, if_false] at read
    split at read
    · obtain rfl := Option.some.inj read
      rename_i inRange
      simp only [Bool.and_eq_true, decide_eq_true_eq] at inRange
      refine ⟨digits, ?_, nonempty, allDigits, rfl, inRange.2⟩
      split at signSplit
      · rename_i rest signed
        obtain ⟨-, rfl⟩ := Prod.mk.inj signSplit
        exact .inr signed
      · simp at signSplit
      · obtain ⟨-, rfl⟩ := Prod.mk.inj signSplit
        exact .inl rfl
    · contradiction

end Parse

/-! ## Pidfiles -/

section Pidfile

variable {content : String} {p : Int}

theorem pidOfText_eq_ok_iff : pidOfText content = .ok p ↔ NamesPid (Text.trim content) p := by
  constructor
  · intro read
    unfold pidOfText at read
    cases parsed : parseInt32? (Text.trim content) with
    | none => simp [parsed] at read
    | some pid =>
      simp only [parsed] at read
      split at read
      · obtain rfl := Except.ok.inj read
        rename_i positive
        rcases parseInt32?_eq_some parsed with ⟨-, -, nonpositive⟩ | named
        · omega
        · obtain ⟨digits, unsigned, nonempty, allDigits, value, high⟩ := named
          exact ⟨digits, unsigned, nonempty, allDigits, value, by omega, high⟩
      · contradiction
  · rintro ⟨digits, unsigned, nonempty, allDigits, rfl, low, high⟩
    have positive : (decimalValue digits : Int) > 0 := by omega
    simp only [pidOfText, parseInt32?_of_unsigned unsigned nonempty allDigits, if_pos high,
      if_pos positive]

theorem pidOfText_eq_error {e : ReloadError} (failed : pidOfText content = .error e) :
    e = .invalidPid (Text.trim content) := by
  simp only [pidOfText] at failed
  split at failed
  · split at failed
    · contradiction
    · exact (Except.error.inj failed).symm
  · exact (Except.error.inj failed).symm

variable {files : Files.Tree} {path : String}

theorem readPid_of_read (read : files.read path = .ok content) :
    readPid files path = pidOfText content := by
  simp [readPid, read]

theorem readPid_of_unreadable {e : Files.IoError} (failed : files.read path = .error e) :
    readPid files path = .error (.pidfile path e) := by
  simp [readPid, failed]

theorem one_le_of_readPid (read : readPid files path = .ok p) : 1 ≤ p := by
  cases fileRead : files.read path with
  | error e => simp [readPid_of_unreadable fileRead] at read
  | ok text =>
    rw [readPid_of_read fileRead, pidOfText_eq_ok_iff] at read
    obtain ⟨-, -, -, -, -, low, -⟩ := read
    exact low

theorem notify_pidfile (signal : Signal) (alive : Int → Bool) :
    (Notifier.pidfile path signal).notify files alive =
      match readPid files path with
      | .ok pid => if alive pid then .ok (some ⟨pid, signal⟩) else .error (.noSuchProcess pid)
      | .error e => .error e := by
  simp only [Notifier.notify]
  cases readPid files path <;> rfl

end Pidfile

/-- Reading a pid is exact, and a notification never signals a process group or every process.
For any pidfile: when it can be read, the pid is read exactly when the trimmed text names it, and
any other text is reported, trimmed, as an invalid pid; when it cannot be read, the read error is
reported. So a pidfile notifier either fails, whichever processes are running, before sending
anything, or sends one signal, to the pid read, which is at least `1`. -/
theorem readPid_exact_and_notify_positive (files : Files.Tree) (path : String) (signal : Signal) :
    (∀ content, files.read path = .ok content →
      (∀ p, readPid files path = .ok p ↔ NamesPid (Text.trim content) p) ∧
      ∀ e, readPid files path = .error e → e = .invalidPid (Text.trim content)) ∧
    (∀ e, files.read path = .error e → readPid files path = .error (.pidfile path e)) ∧
    ((∃ e, readPid files path = .error e ∧
        ∀ alive, (Notifier.pidfile path signal).notify files alive = .error e) ∨
      ∃ p, 1 ≤ p ∧ readPid files path = .ok p ∧
        ∀ alive, (Notifier.pidfile path signal).notify files alive =
          if alive p then .ok (some ⟨p, signal⟩) else .error (.noSuchProcess p)) := by
  refine ⟨fun content read => ⟨fun p => ?_, fun e failed => ?_⟩,
    fun e failed => readPid_of_unreadable failed, ?_⟩
  · rw [readPid_of_read read]
    exact pidOfText_eq_ok_iff
  · rw [readPid_of_read read] at failed
    exact pidOfText_eq_error failed
  · cases pid : readPid files path with
    | error e => exact .inl ⟨e, rfl, fun alive => by rw [notify_pidfile, pid]⟩
    | ok p => exact .inr ⟨p, one_le_of_readPid pid, rfl, fun alive => by rw [notify_pidfile, pid]⟩

/-- A pidfile holding ` +42` and a newline names pid `42`. -/
theorem readPid_exact_and_notify_positive_plus_sign :
    readPid ⟨"/work", [(["pid"], .file " +42\n" 0o644)]⟩ "pid" = .ok 42 := by
  obtain ⟨exact, -, -⟩ :=
    readPid_exact_and_notify_positive ⟨"/work", [(["pid"], .file " +42\n" 0o644)]⟩ "pid"
      .hup
  have read : Files.Tree.read ⟨"/work", [(["pid"], .file " +42\n" 0o644)]⟩ "pid" =
      .ok " +42\n" := by cbv
  have trimmed : (Text.trim " +42\n").toList = ['+', '4', '2'] := by cbv
  refine ((exact " +42\n" read).1 42).mpr
    ⟨['4', '2'], .inr trimmed, by simp, by simp, by decide, by decide, by decide⟩

end BalancerSync.Reload
