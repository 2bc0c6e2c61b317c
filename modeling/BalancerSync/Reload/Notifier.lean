import BalancerSync.Reload.Signal
import BalancerSync.Files.Tree

/-!
# Reload notification

After a successful render the load balancer is told to pick up its new configuration: its pid
is read from a pidfile, fresh on every notification, and a signal is sent to it. Without a
pidfile nothing is sent and nothing can fail, whatever signal is configured.

A pid is the pidfile's text with blanks around it removed, read as a 32-bit decimal integer (an
optional sign, ASCII digits only) that is greater than zero.
-/

namespace BalancerSync.Reload

/-- Why a notification failed. -/
inductive ReloadError where
  | pidfile (path : String) (error : Files.IoError)
  | invalidPid (text : String)
  | unknownSignal (name : String)
  /-- The signal could not be delivered: no process has the pid. -/
  | noSuchProcess (pid : Int)
  deriving Inhabited

/-- The message of a notification failure. -/
def ReloadError.message : ReloadError → String
  | .pidfile path e => "failed to read pidfile " ++ path ++ ": " ++ e.message
  | .invalidPid text => "invalid pid `" ++ text ++ "`"
  | .unknownSignal name => "unknown signal `" ++ name ++ "`"
  | .noSuchProcess pid => "failed to signal pid " ++ toString pid ++ ": ESRCH: No such process"

/-- The debug view of a notification failure. -/
def ReloadError.debug : ReloadError → String
  | .pidfile path e =>
    "Pidfile \x7b path: " ++ Text.quoted path ++ ", source: " ++ e.debug ++ " \x7d"
  | .invalidPid text => "InvalidPid(" ++ Text.quoted text ++ ")"
  | .unknownSignal name => "UnknownSignal(" ++ Text.quoted name ++ ")"
  | .noSuchProcess pid => "Signal \x7b pid: " ++ toString pid ++ ", source: ESRCH \x7d"

/-- Reads a decimal 32-bit integer: an optional `+` or `-`, then one or more ASCII digits. -/
def parseInt32? (s : String) : Option Int :=
  let (negative, digits) :=
    match s.toList with
    | '+' :: rest => (false, rest)
    | '-' :: rest => (true, rest)
    | cs => (false, cs)
  if digits.isEmpty || !digits.all Char.isDigit then none else
  let magnitude : Nat := digits.foldl (fun acc c => acc * 10 + (c.toNat - 48)) 0
  let value : Int := if negative then -(magnitude : Int) else magnitude
  if -2147483648 ≤ value && value ≤ 2147483647 then some value else none

/-- The pid a pidfile's text holds. -/
def pidOfText (content : String) : Except ReloadError Int :=
  let trimmed := Text.trim content
  match parseInt32? trimmed with
  | some pid => if pid > 0 then .ok pid else .error (.invalidPid trimmed)
  | none => .error (.invalidPid trimmed)

/-- Reads the pid in a pidfile. -/
def readPid (files : Files.Tree) (path : String) : Except ReloadError Int :=
  match files.read path with
  | .ok content => pidOfText content
  | .error e => .error (.pidfile path e)

/-- How the load balancer is notified. -/
inductive Notifier where
  /-- Nothing is sent. -/
  | silent
  /-- A signal is sent to the pid in a pidfile. -/
  | pidfile (path : String) (signal : Signal)
  deriving Inhabited

/-- The notifier a configuration asks for: without a pidfile none, else the pidfile's with the
signal, which must be a known name. -/
def Notifier.build (pidfile : Option String) (signalName : String) : Except ReloadError Notifier :=
  match pidfile with
  | none => .ok .silent
  | some path =>
    match Signal.parse? signalName with
    | some signal => .ok (.pidfile path signal)
    | none => .error (.unknownSignal signalName)

/-- A signal sent to a process. -/
structure Delivery where
  pid : Int
  signal : Signal

/-- Notifies the load balancer: the signal delivered, if one is sent. `alive` tells which pids
belong to running processes. -/
def Notifier.notify (n : Notifier) (files : Files.Tree) (alive : Int → Bool) :
    Except ReloadError (Option Delivery) :=
  match n with
  | .silent => .ok none
  | .pidfile path signal => do
    let pid ← readPid files path
    if alive pid then pure (some ⟨pid, signal⟩) else throw (.noSuchProcess pid)

end BalancerSync.Reload
