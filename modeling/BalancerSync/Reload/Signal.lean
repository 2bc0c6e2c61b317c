import BalancerSync.Text.Whitespace
import BalancerSync.Text.CaseMap

/-!
# Signal names

The 31 standard Linux signals by name and number, and the reading of a signal name as users
write it: blanks around it are ignored, case is folded by the full Unicode uppercase mapping,
and the `SIG` prefix may be left out. Real-time signals and the aliases `SIGPOLL`, `SIGIOT`
and `SIGCLD` are not names of this table.
-/

namespace BalancerSync.Reload

/-- A standard Linux signal. -/
inductive Signal where
  | hup | int | quit | ill | trap | abrt | bus | fpe | kill | usr1 | segv | usr2 | pipe | alrm
  | term | stkflt | chld | cont | stop | tstp | ttin | ttou | urg | xcpu | xfsz | vtalrm | prof
  | winch | io | pwr | sys
  deriving DecidableEq, Repr, Inhabited

namespace Signal

/-- Every signal, in order of number. -/
def all : List Signal :=
  [.hup, .int, .quit, .ill, .trap, .abrt, .bus, .fpe, .kill, .usr1, .segv, .usr2, .pipe, .alrm,
   .term, .stkflt, .chld, .cont, .stop, .tstp, .ttin, .ttou, .urg, .xcpu, .xfsz, .vtalrm, .prof,
   .winch, .io, .pwr, .sys]

/-- The signal's name. -/
def name : Signal → String
  | .hup => "SIGHUP" | .int => "SIGINT" | .quit => "SIGQUIT" | .ill => "SIGILL"
  | .trap => "SIGTRAP" | .abrt => "SIGABRT" | .bus => "SIGBUS" | .fpe => "SIGFPE"
  | .kill => "SIGKILL" | .usr1 => "SIGUSR1" | .segv => "SIGSEGV" | .usr2 => "SIGUSR2"
  | .pipe => "SIGPIPE" | .alrm => "SIGALRM" | .term => "SIGTERM" | .stkflt => "SIGSTKFLT"
  | .chld => "SIGCHLD" | .cont => "SIGCONT" | .stop => "SIGSTOP" | .tstp => "SIGTSTP"
  | .ttin => "SIGTTIN" | .ttou => "SIGTTOU" | .urg => "SIGURG" | .xcpu => "SIGXCPU"
  | .xfsz => "SIGXFSZ" | .vtalrm => "SIGVTALRM" | .prof => "SIGPROF" | .winch => "SIGWINCH"
  | .io => "SIGIO" | .pwr => "SIGPWR" | .sys => "SIGSYS"

/-- The signal's number on Linux: its place in `all`, counted from one. -/
def number (s : Signal) : Nat :=
  (all.idxOf s) + 1

/-- The signal of an exact name. -/
def ofName? (n : String) : Option Signal :=
  all.find? (fun s => s.name == n)

/-- Reads a signal name as users write it: trimmed, uppercased, `SIG` added when missing. -/
def parse? (raw : String) : Option Signal :=
  let upper := Text.toUpper (Text.trim raw)
  ofName? (if upper.startsWith "SIG" then upper else "SIG" ++ upper)

example : (ofName? "SIGUSR2").map number = some 12 := by decide

end Signal

end BalancerSync.Reload
