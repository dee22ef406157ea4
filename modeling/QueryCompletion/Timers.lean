import QueryCompletion.Number.Binary64

/-!
Points in time and the timers set for them. Timers are kept in a binary heap: the entry at place
`n` is never due before the one at place `(n - 1) / 2`, so the entry at place zero is due first. The
heap also settles in which order timers run out that are due at the same time.
-/

namespace QueryCompletion

/-- A point in time, in ticks since the start of the loop. -/
abbrev Instant := Nat

namespace Instant

/-- The instant a delay after another, rounded as floating-point addition rounds; an endless delay
leads to the last instant. -/
def after (now : Instant) : Binary64 → Instant
  | .finite false ticks => min Binary64.limit (Binary64.roundSignificant (now + ticks) 1)
  | .finite true _ => now
  | .infinite false => Binary64.limit
  | .infinite true => now
  | .nan => now

/-- How finely the clock tells times apart: a billionth of a second. -/
def resolution : Binary64 := .ofDecimal false 1 (-9)

end Instant

/-- Tasks are numbered in the order in which they were started. -/
abbrev TaskId := Nat

/-- A task that sleeps, and when it is to wake. -/
structure Timer where
  due : Instant
  task : TaskId
deriving DecidableEq, Repr

/-- Timers in heap order. -/
abbrev Timers := List Timer

namespace Timers

/-- Puts a timer at an open place or, while the entry above is due later, moves that entry down and
goes on with its place. The fuel bounds the way to place zero. -/
def rise (timer : Timer) : Nat → Nat → Timers → Timers
  | 0, place, timers => timers.set place timer
  | fuel + 1, place, timers =>
    match place, timers[(place - 1) / 2]? with
    | 0, _ => timers.set 0 timer
    | place, some above =>
      if timer.due < above.due then rise timer fuel ((place - 1) / 2) (timers.set place above)
      else timers.set place timer
    | place, none => timers.set place timer

/-- Fills an open place with the entry below that is due first, of two due together with the second,
and goes on with the place that entry leaves open; the last open place is given back. -/
def sink : Nat → Nat → Timers → Nat × Timers
  | 0, place, timers => (place, timers)
  | fuel + 1, place, timers =>
    match timers[2 * place + 1]?, timers[2 * place + 2]? with
    | some left, some right =>
      if left.due < right.due then sink fuel (2 * place + 1) (timers.set place left)
      else sink fuel (2 * place + 2) (timers.set place right)
    | some left, none => sink fuel (2 * place + 1) (timers.set place left)
    | none, _ => (place, timers)

/-- One timer more. -/
def push (timers : Timers) (timer : Timer) : Timers :=
  rise timer timers.length timers.length (timers ++ [timer])

/-- The timer that runs out first, and the others. -/
def pop? (timers : Timers) : Option (Timer × Timers) :=
  match timers.head?, timers.dropLast, timers.getLast? with
  | some _, [], some last => some (last, [])
  | some first, others, some last =>
    let (place, moved) := sink others.length 0 others
    some (first, rise last others.length place moved)
  | _, _, _ => none

/-- Takes timers off the heap as long as the first one passes a test; at most the given number. -/
def popWhile (test : Timer → Bool) : Nat → Timers → List Timer × Timers
  | 0, timers => ([], timers)
  | fuel + 1, timers =>
    match timers.pop? with
    | some (first, others) =>
      if test first then
        let (taken, left) := popWhile test fuel others
        (first :: taken, left)
      else ([], timers)
    | none => ([], timers)

/-- The time at which the next of the timers that count runs out. -/
def next? (counts : Timer → Bool) (timers : Timers) : Option Instant :=
  (timers.filter counts).foldl
    (fun next timer => some (next.elim timer.due (min timer.due))) none

end Timers

end QueryCompletion
