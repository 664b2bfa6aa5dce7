import ExpiryAudit.History
import ExpiryAudit.Host
import ExpiryAudit.Log

/-!
# Sessions

Everything that changes while events are processed: the world of the host and
the clocks, the history, the statistics, the counts of events and failures, and
the log.
-/
namespace ExpiryAudit

structure Session (σ : Type) where
  world : σ
  history : History
  statistics : Statistics
  events : Nat
  failures : Nat
  log : Log

namespace Session

variable {σ α : Type}

def start (world : σ) (log : Log) (history : History) (config : Config) : Session σ where
  world := world
  history := history
  statistics := .start config.reportEvery.amount config.reportEvery.amount_pos
  events := 0
  failures := 0
  log := log

/-- An act of the host or of a clock. -/
def inWorld (a : Act σ α) : Act (Session σ) α :=
  a.within (·.world) fun w s => { s with world := w }

def inStatistics (a : Act Statistics α) : Act (Session σ) α :=
  a.within (·.statistics) fun t s => { s with statistics := t }

def report (entry : LogEntry) : Act (Session σ) Unit :=
  (Log.add entry).within (·.log) fun l s => { s with log := l }

/-- Reports a record if there is one. -/
def reportAny : Option LogEntry → Act (Session σ) Unit
  | some entry => report entry
  | none => pure ()

def loadHistory (slot : Slot) : Act (Session σ) (List Update) := fun s =>
  (.ok (s.history.load slot), s)

def appendHistory (slot : Slot) (u : Update) : Act (Session σ) Unit :=
  Act.modify fun s => { s with history := s.history.append slot u }

def clearHistory (slot : Slot) : Act (Session σ) Unit :=
  Act.modify fun s => { s with history := s.history.clear slot }

/-- Counts one update and reports the summary that may then be due. -/
def count (clash : Bool) (length : Nat) : Act (Session σ) Unit := do
  Act.modify fun s => { s with statistics := s.statistics.count clash length }
  let summary ← inStatistics Statistics.flush
  reportAny (summary.map .summary)

def countEvent : Act (Session σ) Nat := fun s =>
  (.ok (s.events + 1), { s with events := s.events + 1 })

def countFailure : Act (Session σ) Unit :=
  Act.modify fun s => { s with failures := s.failures + 1 }

end Session
end ExpiryAudit
