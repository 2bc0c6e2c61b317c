/-!
# Parsing expression grammars that report what they expected

A grammar names its rules by a type `R` and gives each rule a kind and a
pattern.  Running a rule either matches a prefix of the input, producing a tree
of named spans, or fails.  Either way the run keeps the furthest position at
which a named rule failed, with the rules that failed there: that is the list an
error message offers as "expected ...".

Three refinements decide which rules stay in the list:
- inside an atomic rule nothing is recorded;
- a failing rule whose own sub-rules added exactly one record at its start
  leaves that record in place of itself, so the list names the most specific
  rule; otherwise the rule replaces the records its sub-rules made there;
- under a negative look-ahead a rule is recorded when it *succeeds*, as
  something that was not expected ("unexpected ...").

Between the items of a sequence or a repetition the run skips blank characters,
unless it is inside an atomic or compound-atomic rule.  Recursion through rule
calls is bounded by an explicit depth, so every run is a total function.
-/

namespace BalancerSync.Peg

/-- How a rule treats blanks, nested rules and its own span. -/
inductive Kind where
  /-- Skips blanks between items; records itself and its nested rules. -/
  | normal
  /-- Behaves like its pattern inlined: no span, no record of its own. -/
  | silent
  /-- Matches without skipping blanks; nested rules leave no span and no record. -/
  | atomic
  /-- Matches without skipping blanks; nested rules keep their spans and records. -/
  | compound
deriving DecidableEq, Repr

/-- Patterns over rule names `R`. -/
inductive Pattern (R : Type) where
  /-- These characters, in order. -/
  | text (chars : List Char)
  /-- One character between the two bounds, both included. -/
  | range (low high : Char)
  /-- Any one character. -/
  | any
  /-- The end of the input, consuming nothing. -/
  | endOfInput
  /-- A call of a rule. -/
  | rule (name : R)
  /-- The first pattern, then the second. -/
  | seq (first second : Pattern R)
  /-- The first pattern, or the second if the first fails. -/
  | choice (first second : Pattern R)
  /-- The pattern or nothing. -/
  | optional (body : Pattern R)
  /-- The pattern as often as it matches. -/
  | many (body : Pattern R)
  /-- Succeeds where the pattern matches, consuming nothing. -/
  | ahead (body : Pattern R)
  /-- Succeeds where the pattern fails, consuming nothing. -/
  | notAhead (body : Pattern R)
deriving Inhabited

namespace Pattern

variable {R : Type}

/-- A literal string. -/
def lit (s : String) : Pattern R := .text s.toList

/-- Items in sequence; the empty sequence matches nothing at all. -/
def seqAll : List (Pattern R) → Pattern R
  | [] => .text []
  | [p] => p
  | p :: ps => .seq p (seqAll ps)

/-- The first of the alternatives that matches. -/
def anyOf : List (Pattern R) → Pattern R
  | [] => .notAhead (.text [])
  | [p] => p
  | p :: ps => .choice p (anyOf ps)

/-- One or more repetitions: a match followed by a repetition. -/
def oneOrMore (p : Pattern R) : Pattern R := .seq p (.many p)

/-- Exactly `n` repetitions. -/
def times (p : Pattern R) : Nat → Pattern R
  | 0 => .text []
  | 1 => p
  | n + 1 => .seq p (times p n)

end Pattern

/-- A grammar: kinds and patterns of the rules, blanks, and the listing order. -/
structure Grammar (R : Type) where
  /-- The kind of each rule. -/
  kind : R → Kind
  /-- The pattern of each rule. -/
  body : R → Pattern R
  /-- Characters skipped between items outside atomic rules. -/
  blank : Char → Bool
  /-- Position of each rule in the grammar's listing; reports follow it. -/
  rank : R → Nat
  /-- The name a report uses for each rule. -/
  label : R → String

/-- A matched rule: its name, where it starts and stops, and the rules inside. -/
inductive Span (R : Type) where
  | node (rule : R) (start stop : Nat) (children : List (Span R))
deriving Inhabited

namespace Span

variable {R : Type}

/-- The rule a span is for. -/
def rule : Span R → R
  | .node r _ _ _ => r

/-- Where a span starts. -/
def start : Span R → Nat
  | .node _ s _ _ => s

/-- Where a span stops. -/
def stop : Span R → Nat
  | .node _ _ s _ => s

/-- The spans nested in a span. -/
def children : Span R → List (Span R)
  | .node _ _ _ cs => cs

end Span

/-- Whether the run is inside a look-ahead, and of which sign. -/
inductive Look where
  | none
  | positive
  | negative
deriving DecidableEq, Repr

/-- How atomic the run is at this point. -/
inductive Atomicity where
  | nonAtomic
  | compound
  | atomic
deriving DecidableEq, Repr

/-- The mode a pattern runs in. -/
structure Mode where
  look : Look
  atomicity : Atomicity
deriving DecidableEq, Repr

/-- The furthest failures seen so far: where, and which rules were expected or not. -/
structure Attempts (R : Type) where
  position : Nat
  expected : Array R
  unexpected : Array R
deriving Inhabited

namespace Attempts

variable {R : Type}

/-- No failure seen yet. -/
def empty : Attempts R := ⟨0, #[], #[]⟩

/-- How many records sit at a position. -/
def countAt (a : Attempts R) (pos : Nat) : Nat :=
  if a.position = pos then a.expected.size + a.unexpected.size else 0

/-- Record the outcome of a rule started at `pos`.  `marks` are the sizes of the
two lists when the rule started (zero if the furthest position was elsewhere),
`before` the number of records at `pos` then. -/
def record (a : Attempts R) (name : R) (pos : Nat) (marks : Nat × Nat) (before : Nat)
    (mode : Mode) : Attempts R :=
  if mode.atomicity = .atomic then a
  else
    let now := a.countAt pos
    if before < now ∧ now - before = 1 then a
    else
      let a := if a.position = pos then
          { a with expected := a.expected.extract 0 marks.1,
                   unexpected := a.unexpected.extract 0 marks.2 }
        else a
      let a := if a.position < pos then ⟨pos, #[], #[]⟩ else a
      if a.position = pos then
        if mode.look = .negative then { a with unexpected := a.unexpected.push name }
        else { a with expected := a.expected.push name }
      else a

end Attempts

/-- What running a pattern gives: the position after the match and its spans, or nothing. -/
abbrev Outcome (R : Type) := Option (Nat × Array (Span R))

variable {R : Type}

/-- Whether `chars` stand in `input` from `pos` on. -/
def matchesAt (input : Array Char) (pos : Nat) : List Char → Bool
  | [] => true
  | c :: cs => input[pos]? == some c && matchesAt input (pos + 1) cs

/-- The first position at or after `pos` that does not hold a blank. -/
def skipBlanks (blank : Char → Bool) (input : Array Char) (pos : Nat) : Nat :=
  if h : pos < input.size then
    if blank input[pos] then skipBlanks blank input (pos + 1) else pos
  else pos
termination_by input.size - pos

/-- The mode inside a look-ahead of the given sign. -/
def Mode.within (mode : Mode) (positive : Bool) : Mode :=
  let look := match positive, mode.look with
    | true, .negative => .negative
    | true, _ => .positive
    | false, .negative => .positive
    | false, _ => .negative
  { mode with look := look }

mutual

/-- Run a pattern at `pos`.  `depth` bounds the nesting of rule calls; a call
beyond it fails. -/
def run (g : Grammar R) (input : Array Char) (depth : Nat) (mode : Mode) (p : Pattern R)
    (pos : Nat) (a : Attempts R) : Attempts R × Outcome R :=
  match p with
  | .text cs => (a, if matchesAt input pos cs then some (pos + cs.length, #[]) else none)
  | .range lo hi =>
    (a, match input[pos]? with
      | some c => if lo ≤ c ∧ c ≤ hi then some (pos + 1, #[]) else none
      | none => none)
  | .any => (a, if pos < input.size then some (pos + 1, #[]) else none)
  | .endOfInput => (a, if pos = input.size then some (pos, #[]) else none)
  | .seq first second =>
    match run g input depth mode first pos a with
    | (a, none) => (a, none)
    | (a, some (mid, spans)) =>
      let mid := if mode.atomicity = .nonAtomic then skipBlanks g.blank input mid else mid
      match run g input depth mode second mid a with
      | (a, none) => (a, none)
      | (a, some (stop, more)) => (a, some (stop, spans ++ more))
  | .choice first second =>
    match run g input depth mode first pos a with
    | (a, none) => run g input depth mode second pos a
    | done => done
  | .optional body =>
    match run g input depth mode body pos a with
    | (a, none) => (a, some (pos, #[]))
    | done => done
  | .many body =>
    match run g input depth mode body pos a with
    | (a, none) => (a, some (pos, #[]))
    | (a, some (next, spans)) => repeatFrom g input depth mode body next spans a
  | .ahead body =>
    let (a, result) := run g input depth (mode.within true) body pos a
    (a, result.map fun _ => (pos, #[]))
  | .notAhead body =>
    let (a, result) := run g input depth (mode.within false) body pos a
    (a, match result with
      | none => some (pos, #[])
      | some _ => none)
  | .rule name =>
    match depth with
    | 0 => (a, none)
    | depth + 1 =>
      match g.kind name with
      | .silent => run g input depth mode (g.body name) pos a
      | kind =>
        let outer : Mode := if kind = .compound then { mode with atomicity := .compound } else mode
        let inner : Mode := if kind = .atomic then { mode with atomicity := .atomic } else outer
        let marks := if a.position = pos then (a.expected.size, a.unexpected.size) else (0, 0)
        let before := a.countAt pos
        match run g input depth inner (g.body name) pos a with
        | (a, none) =>
          ((if outer.look = .negative then a else a.record name pos marks before outer), none)
        | (a, some (stop, spans)) =>
          let a := if outer.look = .negative then a.record name pos marks before outer else a
          let kept := outer.look = .none ∧ outer.atomicity ≠ .atomic
          (a, some (stop, if kept then #[.node name pos stop spans.toList] else #[]))
termination_by (depth, sizeOf p, 0)

/-- Further repetitions of `body` after one that stopped at `pos`; each starts
after blanks when the mode skips them, and the last failing one is undone. -/
def repeatFrom (g : Grammar R) (input : Array Char) (depth : Nat) (mode : Mode)
    (body : Pattern R) (pos : Nat) (spans : Array (Span R)) (a : Attempts R) :
    Attempts R × Outcome R :=
  let start := if mode.atomicity = .nonAtomic then skipBlanks g.blank input pos else pos
  match run g input depth mode body start a with
  | (a, none) => (a, some (pos, spans))
  | (a, some (next, more)) =>
    if pos < next ∧ next ≤ input.size then
      repeatFrom g input depth mode body next (spans ++ more) a
    else (a, some (pos, spans ++ more))
termination_by (depth, sizeOf body, 1 + (input.size - pos))

end

/-- Why a whole input failed to match: the furthest position and what was, or was
not, expected there, each in the grammar's order without repeats. -/
structure Failure (R : Type) where
  position : Nat
  expected : List R
  unexpected : List R

/-- Rules in listing order, each once. -/
def inListingOrder (g : Grammar R) [BEq R] (rules : Array R) : List R :=
  (rules.toList.mergeSort fun x y => g.rank x ≤ g.rank y).eraseDups

/-- "a", "a or b", "a, b, or c". -/
def enumerate : List String → String
  | [] => ""
  | [x] => x
  | [x, y] => x ++ " or " ++ y
  | xs => ", ".intercalate xs.dropLast ++ ", or " ++ xs.getLast!

/-- The sentence that reports a failure. -/
def Failure.message (g : Grammar R) (f : Failure R) : String :=
  let expected := enumerate (f.expected.map g.label)
  let unexpected := enumerate (f.unexpected.map g.label)
  match f.unexpected.isEmpty, f.expected.isEmpty with
  | false, false => "unexpected " ++ unexpected ++ "; expected " ++ expected
  | false, true => "unexpected " ++ unexpected
  | true, false => "expected " ++ expected
  | true, true => "unknown parsing error"

/-- Match the whole of `input` against the rule `start`, with a depth bound
large enough for any input of this size. -/
def parse (g : Grammar R) [BEq R] (start : R) (input : Array Char) :
    Except (Failure R) (List (Span R)) :=
  let depth := 64 * (input.size + 2)
  match run g input depth ⟨.none, .nonAtomic⟩ (.rule start) 0 Attempts.empty with
  | (_, some (_, spans)) => .ok spans.toList
  | (a, none) => .error ⟨a.position, inListingOrder g a.expected, inListingOrder g a.unexpected⟩

end BalancerSync.Peg
