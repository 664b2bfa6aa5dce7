import ExpiryAudit.Act

/-!
# Statistics

Counters of updates and clashes, and a summary of them after every so many
updates. A summary is given once for each count at which it is due.
-/
namespace ExpiryAudit

structure Summary where
  updates : Nat
  clashes : Nat
  averageLength : Binary64
  clashRatio : Binary64

structure Statistics where
  reportEvery : Int
  updates : Nat
  clashes : Nat
  /-- The sum of the history lengths that updates were judged against. -/
  historyLength : Nat
  /-- The number of updates at the last summary. -/
  reportedAt : Nat
  reportEvery_pos : 0 < reportEvery

namespace Statistics

def start (reportEvery : Int) (h : 0 < reportEvery) : Statistics := ⟨reportEvery, 0, 0, 0, 0, h⟩

def make (reportEvery : Int) : Except Fault Statistics :=
  if h : 0 < reportEvery then .ok (start reportEvery h) else .error (.interval reportEvery)

/-- Counts one update. -/
def count (s : Statistics) (clash : Bool) (length : Nat) : Statistics :=
  { s with
    updates := s.updates + 1
    clashes := if clash then s.clashes + 1 else s.clashes
    historyLength := s.historyLength + length }

/-- Counts one update, unless its history length is negative. -/
def record (s : Statistics) (clash : Bool) (length : Int) : Except Fault Statistics :=
  if 0 ≤ length then .ok (s.count clash length.toNat) else .error (.negativeLength length)

/-- The average of a total over the updates. -/
def perUpdate (s : Statistics) (total : Nat) : Except Fault Binary64 :=
  if s.updates = 0 then .ok .zero
  else match Binary64.quotient? total s.updates with
    | some x => .ok x
    | none => .error .quotientOverflow

def summary (s : Statistics) : Except Fault Summary := do
  return ⟨s.updates, s.clashes, ← s.perUpdate s.historyLength, ← s.perUpdate s.clashes⟩

/-- A summary is due and has not been given. -/
def isDue (s : Statistics) : Bool :=
  s.updates != 0 && (s.updates : Int) % s.reportEvery == 0 && s.reportedAt != s.updates

/-- The summary, if it is due. -/
def flush : Act Statistics (Option Summary) := fun s =>
  if s.isDue then
    (s.summary.map some, { s with reportedAt := s.updates })
  else (.ok none, s)

end Statistics
end ExpiryAudit
