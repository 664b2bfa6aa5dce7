import ExpiryAudit.Host
import ExpiryAudit.Text.Split

/-!
# Finding a host by name

A host is named by a library and a name in the library, with a colon between. What libraries
there are, and what they hold, is up to the system that a program runs on.
-/
namespace ExpiryAudit

/-- What a library holds under a name: a host, or something else, with the name of its kind.
What a call makes has been made. -/
inductive Found (η : Type) where
  | host (made : η)
  | other (kind : String)

namespace Found

variable {σ η θ : Type}

def map (f : η → θ) : Found η → Found θ
  | host made => host (f made)
  | other kind => other kind

/-- The library and the name in it, if none of them is missing. -/
def parts? (spec : String) : Option (String × String) :=
  let (library, name) := Text.cut ':' spec.toList
  if library.isEmpty || name.isEmpty then none
  else some (String.ofList library, String.ofList name)

/-- Finds a host. To look into a library may change the world. -/
def load (find : String → String → Act σ (Found η)) (spec : String) : Act σ η :=
  match parts? spec with
  | none => Act.fail (.hostForm spec)
  | some (library, name) => do
    match ← find library name with
    | host made => return made
    | other kind => Act.fail (.notHost spec kind)

end Found

/-- The libraries and the clock of a system. -/
structure Platform (σ : Type) where
  find : String → String → Act σ (Found (Host σ))
  now : Act σ Int

end ExpiryAudit
