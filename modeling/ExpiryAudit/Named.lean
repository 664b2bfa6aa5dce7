/-!
# Named values

Lists of values under names, in the order in which the names were first set. A name
is a text, or anything else that can be told apart.
-/
namespace ExpiryAudit.Named

variable {ν : Type v} {α : Type u} [DecidableEq ν]

/-- The value under a name. -/
def find? (entries : List (ν × α)) (name : ν) : Option α :=
  (entries.find? fun e => e.1 == name).map (·.2)

/-- Sets the value under a name. A name that is present keeps its place. -/
def insert (name : ν) (value : α) : List (ν × α) → List (ν × α)
  | [] => [(name, value)]
  | (n, v) :: rest => if n = name then (n, value) :: rest else (n, v) :: insert name value rest

/-- Leaves out a name. -/
def erase (name : ν) (entries : List (ν × α)) : List (ν × α) :=
  entries.filter fun e => e.1 != name

@[simp] theorem find?_nil (name : ν) : find? ([] : List (ν × α)) name = none := rfl

theorem find?_cons (e : ν × α) (rest : List (ν × α)) (name : ν) :
    find? (e :: rest) name = if e.1 = name then some e.2 else find? rest name := by
  by_cases h : e.1 = name <;> simp [find?, h]

theorem find?_insert (name other : ν) (value : α) (entries : List (ν × α)) :
    find? (insert name value entries) other =
      if other = name then some value else find? entries other := by
  induction entries with
  | nil => simp [insert, find?_cons, eq_comm]
  | cons e rest ih =>
    obtain ⟨n, v⟩ := e
    simp only [insert]
    split
    · next h =>
      subst h
      by_cases ho : other = n <;> simp [find?_cons, ho, eq_comm]
    · next h => by_cases ho : n = other <;> grind [find?_cons]

@[simp] theorem find?_erase_self (name : ν) (entries : List (ν × α)) :
    find? (erase name entries) name = none := by
  simp [find?, erase, List.find?_filter]

end ExpiryAudit.Named
