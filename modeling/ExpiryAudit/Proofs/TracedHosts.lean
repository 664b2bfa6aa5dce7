import ExpiryAudit.Host.Scripted
import ExpiryAudit.Proofs.Contents

/-!
# Hosts whose calls are recorded

A host does the same when a list is kept of its calls. A host obliges if it answers every
call of a rule with a value that the rule can use.
-/
namespace ExpiryAudit

variable {η : Type}

namespace HostCall

/-- The call, but for the sum that a write of a running sum has in it. -/
def masked : HostCall → HostCall
  | write h (.replace v) => .write h (.replace (if h.name = RuleKind.reducing.id then .null else v))
  | call => call

theorem masked_write_sum {h : Handle} (hname : h.name = RuleKind.reducing.id) (v w : Json) :
    (write h (.replace v)).masked = (write h (.replace w)).masked := by
  rw [masked, masked, if_pos hname, if_pos hname]

end HostCall

/-- The act, after a call has been put at the end of a list. -/
def Act.noting {α : Type} (call : HostCall) (a : Act η α) : Act (η × List HostCall) α := fun s =>
  ((a.run s.1).1, (a.run s.1).2, s.2 ++ [call])

@[simp] theorem Act.run_noting {α : Type} (call : HostCall) (a : Act η α)
    (s : η × List HostCall) :
    (a.noting call).run s = ((a.run s.1).1, (a.run s.1).2, s.2 ++ [call]) := rfl

/-- The host with a list of the calls so far. -/
def Host.traced (host : Host η) : Host (η × List HostCall) where
  acquire h := (host.acquire h).noting (.acquire h)
  read h := (host.read h).noting (.read h)
  write h c := (host.write h c).noting (.write h c)
  clear h := (host.clear h).noting (.clear h)

/-- The lifetime of the handle is a whole number of milliseconds. -/
def Handle.IsWhole (h : Handle) : Prop := ∃ amount, h.lifetime.IsWhole amount

/-- In states with a property, which it keeps, the host answers every call, with values that
can be used. -/
structure Host.Obliges (host : Host η) (I : η → Prop) : Prop where
  acquire : ∀ h, h.IsWhole → Act.Returns I (host.acquire h) fun _ => I
  read : ∀ h, h.IsWhole → Act.Returns I (host.read h) fun v s => h.Usable v ∧ I s
  write : ∀ h c, h.IsWhole → c.IsWhole → Act.Returns I (host.write h c) fun _ => I
  clear : ∀ h, h.IsWhole → Act.Returns I (host.clear h) fun _ => I

theorem TimeSource.hostNow_returns (c : TimeSource) : ∃ now c', hostNow.run c = (.ok now, c') :=
  ⟨_, _, rfl⟩

namespace Behaviour

theorem isWhole_lifetime (b : Behaviour) {h : Handle} (hwhole : h.IsWhole) :
    ∃ amount, (b.lifetime h).IsWhole amount := by
  unfold lifetime
  split
  · exact ⟨_, ages, rfl, rfl⟩
  · exact hwhole

/-- A reference store that can be reached obliges, if its clock can be read. -/
theorem obliges {κ : Type} {b : Behaviour} (hb : b ≠ unavailable) {clock : Act κ Int}
    (hclock : ∀ c, ∃ now c', clock.run c = (.ok now, c')) :
    (b.host clock).Obliges (OfTables Tables.Typed) where
  acquire := fun h _ s hs => by
    refine ⟨(), s, ?_, hs⟩
    simp only [host, hb, false_and, if_false, Act.run_pure]
  read := fun h hwhole s hs => by
    obtain ⟨now, c, hnow⟩ := hclock s.1
    obtain ⟨amount, hamount⟩ := b.isWhole_lifetime hwhole
    have hread := run_read (b := b) (h := h) hnow
    have hshown : s.2.readAt b h now = .ok (s.2.shown amount h now, s.2.kept amount h now) :=
      Tables.readAt_eq_ok hamount
    rw [hshown] at hread
    obtain ⟨hkind, htyped⟩ := hs.readAt hshown
    exact ⟨_, _, hread, hkind.usable, htyped⟩
  write := fun h c _ hc s hs => by
    obtain ⟨now, k, hnow⟩ := hclock s.1
    cases hforgets : b.forgets c with
    | true =>
      refine ⟨(), s, ?_, hs⟩
      simp only [host, hforgets, if_true, Act.run_pure]
    | false => exact ⟨_, _, run_write hforgets hnow, hs.writeAt h now hc⟩
  clear := fun h _ s hs => ⟨(), _, rfl, hs.clear h⟩

end Behaviour
end ExpiryAudit
