import ExpiryAudit.Proofs.FalseAlarm
import ExpiryAudit.Proofs.OrderlyHistory
import ExpiryAudit.Proofs.Writes

/-!
# Replayed updates

Updates that are applied once more, one after another, to an empty store that stamps them
somewhere in their windows, and the two reads around a last one. If the windows do not
clash, these reads are exactly those that a verification accepts, wherever the stamps were.
-/
namespace ExpiryAudit

/-- One access to a slot of a store, with the window in which the store reads its clock. -/
inductive Access where
  | read (window : Window)
  | apply (update : Update)

namespace Access

def window : Access → Window
  | read w => w
  | apply u => u.window

/-- The update of an access. -/
def update? : Access → Option Update
  | read _ => none
  | apply u => some u

/-- The updates among some accesses. -/
def updates (accesses : List Access) : List Update := accesses.filterMap update?

/-- The accesses by which an update is observed. -/
def cycle (u : Update) : List Access := [read u.window, apply u, read u.window]

end Access

namespace Rule

variable {σ : Type}

/-- Makes one access. Only a read has a reading. -/
def access (r : Rule) (host : Host σ) (h : Handle) : Access → Act σ (List Reading)
  | .read _ => do return [← r.read host h]
  | .apply u => do
    r.apply host h u.payload
    return []

/-- Makes accesses one after another. -/
def replay (r : Rule) (host : Host σ) (h : Handle) : List Access → Act σ (List Reading)
  | [] => pure []
  | x :: rest => do
    let shown ← r.access host h x
    return shown ++ (← replay r host h rest)

/-- Every access reads the clock at instants of its window only. -/
def Timely (r : Rule) (b : Behaviour) (readings : Nat → Int) (h : Handle) :
    List Access → Nat × Tables → Prop
  | [], _ => True
  | x :: rest, w =>
    (∀ i, w.1 ≤ i → i < ((r.access (b.onReadings readings).host h x).run w).2.1 →
      readings i ∈ x.window) ∧
    Timely r b readings h rest ((r.access (b.onReadings readings).host h x).run w).2

instance decidableTimely (r : Rule) (b : Behaviour) (readings : Nat → Int) (h : Handle) :
    (accesses : List Access) → (w : Nat × Tables) → Decidable (r.Timely b readings h accesses w)
  | [], _ => isTrue trivial
  | x :: rest, w =>
    have := decidableTimely r b readings h rest
      ((r.access (b.onReadings readings).host h x).run w).2
    inferInstanceAs (Decidable (_ ∧ _))

section Runs

variable {r : Rule} {host : Host σ} {h : Handle} {w w' w'' : σ}

theorem run_access_read {x : Reading} (hread : (r.read host h).run w = (.ok x, w')) (c : Window) :
    (r.access host h (.read c)).run w = (.ok [x], w') := by
  rw [access, Act.run_bind_ok hread]
  rfl

theorem run_access_apply {u : Update} (happly : (r.apply host h u.payload).run w = (.ok (), w')) :
    (r.access host h (.apply u)).run w = (.ok [], w') := by
  rw [access, Act.run_bind_ok happly]
  rfl

theorem run_replay_cons {x : Access} {rest : List Access} {shown later : List Reading}
    (hfirst : (r.access host h x).run w = (.ok shown, w'))
    (hrest : (r.replay host h rest).run w' = (.ok later, w'')) :
    (r.replay host h (x :: rest)).run w = (.ok (shown ++ later), w'') := by
  rw [replay, Act.run_bind_ok hfirst, Act.run_bind_ok hrest]
  rfl

end Runs

theorem Timely.cons {r : Rule} {b : Behaviour} {readings : Nat → Int} {h : Handle} {x : Access}
    {rest : List Access} {w w' : Nat × Tables} (htimely : r.Timely b readings h (x :: rest) w)
    {shown : Except Fault (List Reading)}
    (hx : (r.access (b.onReadings readings).host h x).run w = (shown, w')) :
    (∀ i, w.1 ≤ i → i < w'.1 → readings i ∈ x.window) ∧ r.Timely b readings h rest w' := by
  rwa [Timely, hx] at htimely

end Rule

namespace Behaviour

variable {b : Behaviour} {readings : Nat → Int} {r : Rule} {lifetime : Int} {key : Text}
  {w w' : Nat × Tables} {stamps updates : List Update}

/-! ## One access -/

/-- A read shows what the store presents, which it goes on to present. -/
theorem run_read_presents (hmono : Monotone readings) (hb : b.Keeping r lifetime)
    (ht : w.2.Typed)
    (hpresents : w.2.Presents r.kind (r.handle key) lifetime stamps (readings w.1)) :
    ∃ v w', (r.read (b.onReadings readings).host (r.handle key)).run w = (.ok (.plain v), w') ∧
      w'.1 = w.1 + 1 ∧ r.kind.handleKind.Holds v ∧
      r.kind.Shows (lifetime - 1) stamps (readings w.1) v ∧ w'.2.Typed ∧
      w'.2.Presents r.kind (r.handle key) lifetime stamps (readings w'.1) := by
  obtain ⟨hkind, htyped⟩ := hb.typed key ht (readings w.1)
  refine ⟨_, (w.1 + 1, w.2.kept lifetime (r.handle key) (readings w.1)), ?_, rfl, hkind,
    hpresents _ (Int.le_refl _), htyped, ?_⟩
  · exact hb.run_rule_read ht rfl
  · exact (hpresents.kept (Int.le_refl _)).later (hmono (Nat.le_succ _))

/-- An update is applied, with at least one reading of the clock. -/
theorem run_apply_returns (readings : Nat → Int) (key : Text) (hb : b.Keeping r lifetime)
    {p : Payload} (hp : r.kind.Accepts p) (ht : w.2.Typed) : ∃ w',
      (r.apply (b.onReadings readings).host (r.handle key) p).run w = (.ok (), w') ∧
        w.1 < w'.1 := by
  have hreturns : Act.Returns (fun w' : Nat × Tables => w'.2.Typed ∧ w.1 ≤ w'.1)
      (r.apply (b.onReadings readings).host (r.handle key) p) fun _ w' => w.1 < w'.1 := by
    refine hb.returns_apply (V := fun _ => True) (fun n => ⟨_, _, rfl⟩) hp trivial
      (fun w₁ hw₁ => hw₁.1) ?_ ?_
    · rintro - w₁ now _ ⟨⟩ ⟨ht₁, hle⟩
      exact ⟨trivial, (hb.typed key ht₁ _).2, Nat.le_succ_of_le hle⟩
    · rintro v w₁ now _ - ⟨⟩ ⟨-, hle⟩
      exact Nat.lt_succ_of_le hle
  obtain ⟨⟨⟩, w', happly, hless⟩ := hreturns w ⟨ht, Nat.le_refl _⟩
  exact ⟨w', happly, hless⟩

/-- A timely update is stamped within its window. -/
theorem stamped_of_timely (hmono : Monotone readings) (hb : b.Keeping r lifetime) {u : Update}
    (hu : r.kind.Accepts u.payload) (ht : w.2.Typed)
    (hpresents : w.2.Presents r.kind (r.handle key) lifetime stamps (readings w.1))
    (happly : (r.apply (b.onReadings readings).host (r.handle key) u.payload).run w = (.ok (), w'))
    (hless : w.1 < w'.1) (htimely : ∀ i, w.1 ≤ i → i < w'.1 → readings i ∈ u.window) :
    ∃ stamp, u.Stamped stamp ∧ stamp.window.after ≤ readings w'.1 ∧ w'.2.Typed ∧
      w'.2.Presents r.kind (r.handle key) lifetime (stamps ++ [stamp]) (readings w'.1) := by
  obtain ⟨stamp, happlied⟩ := run_apply_stamped hmono hb hu ht hpresents happly
  obtain ⟨change, w₁, -, hstamp, hcount⟩ := happlied.written
  have hfirst : readings w.1 ∈ u.window := htimely w.1 (Nat.le_refl _) hless
  have hwritten : readings w₁.1 ∈ u.window := htimely w₁.1 (by omega) (by omega)
  have hlater : stamp.window.after ≤ readings w'.1 := by
    rw [← hstamp, hcount]
    exact hmono (Nat.le_succ _)
  exact ⟨stamp, ⟨happlied.payload, Int.le_trans hfirst.1 happlied.before_le, hstamp ▸ hwritten.2⟩,
    hlater, happlied.typed, happlied.presents.later hlater⟩

/-! ## A replay -/

/-- Two reads around an update, made while a store presented it and the ones before it. -/
structure ReadsAround (r : Rule) (lifetime : Int) (updates : List Update) (c : Update)
    (before after : Json) : Prop where
  before_holds : r.kind.handleKind.Holds before
  after_holds : r.kind.handleKind.Holds after
  stamped : ∃ stamps stamp first second, List.Forall₂ Update.Stamped updates stamps ∧
    c.Stamped stamp ∧ first ∈ c.window ∧ second ∈ c.window ∧ stamp.window.after ≤ second ∧
    r.kind.Shows (lifetime - 1) stamps first before ∧
    r.kind.Shows (lifetime - 1) (stamps ++ [stamp]) second after

variable {c : Update}

/-- A timely cycle reads around its update. -/
theorem run_replay_cycle (hmono : Monotone readings) (hb : b.Keeping r lifetime)
    (hc : r.kind.Accepts c.payload) (hstamped : List.Forall₂ Update.Stamped updates stamps)
    (ht : w.2.Typed)
    (hpresents : w.2.Presents r.kind (r.handle key) lifetime stamps (readings w.1))
    (htimely : r.Timely b readings (r.handle key) (Access.cycle c) w) :
    ∃ before after w', (r.replay (b.onReadings readings).host (r.handle key) (Access.cycle c)).run w =
        (.ok [.plain before, .plain after], w') ∧ ReadsAround r lifetime updates c before after := by
  obtain ⟨before, w₁, hread, hcount, hbefore, hshown, ht₁, hpresents₁⟩ :=
    run_read_presents hmono hb ht hpresents
  have hread := Rule.run_access_read hread c.window
  obtain ⟨hfirst, htimely⟩ := htimely.cons hread
  obtain ⟨w₂, happly, hless⟩ := run_apply_returns readings key hb hc ht₁
  obtain ⟨hwithin, htimely⟩ := htimely.cons (Rule.run_access_apply happly)
  obtain ⟨stamp, hstamp, hle, ht₂, hpresents₂⟩ :=
    stamped_of_timely hmono hb hc ht₁ hpresents₁ happly hless hwithin
  obtain ⟨after, w₃, hread', hcount', hafter, hshown', -, -⟩ :=
    run_read_presents hmono hb ht₂ hpresents₂
  have hread' := Rule.run_access_read hread' c.window
  obtain ⟨hsecond, -⟩ := htimely.cons hread'
  refine ⟨before, after, w₃, ?_, hbefore, hafter, stamps, stamp, _, _, hstamped, hstamp,
    hfirst w.1 (Nat.le_refl _) (by omega), hsecond w₂.1 (Nat.le_refl _) (by omega), hle, hshown,
    hshown'⟩
  exact Rule.run_replay_cons hread (Rule.run_replay_cons (Rule.run_access_apply happly)
    (Rule.run_replay_cons hread' rfl))

/-- A timely replay that ends with a cycle reads around its update. -/
theorem run_replay_around (hmono : Monotone readings) (hb : b.Keeping r lifetime)
    (hc : r.kind.Accepts c.payload) {accesses : List Access}
    (hupdates : ∀ u ∈ Access.updates accesses, r.kind.Accepts u.payload)
    (hstamped : List.Forall₂ Update.Stamped updates stamps) (ht : w.2.Typed)
    (hpresents : w.2.Presents r.kind (r.handle key) lifetime stamps (readings w.1))
    (htimely : r.Timely b readings (r.handle key) (accesses ++ Access.cycle c) w) :
    ∃ shown before after w',
      (r.replay (b.onReadings readings).host (r.handle key) (accesses ++ Access.cycle c)).run w =
        (.ok (shown ++ [.plain before, .plain after]), w') ∧
      ReadsAround r lifetime (updates ++ Access.updates accesses) c before after := by
  induction accesses generalizing w updates stamps with
  | nil =>
    obtain ⟨before, after, w', hrun, haround⟩ :=
      run_replay_cycle hmono hb hc hstamped ht hpresents htimely
    exact ⟨[], before, after, w', hrun, (List.append_nil updates).symm ▸ haround⟩
  | cons x rest ih =>
    cases x with
    | read window =>
      obtain ⟨v, w₁, hread, -, -, -, ht₁, hpresents₁⟩ := run_read_presents hmono hb ht hpresents
      have hread := Rule.run_access_read hread window
      obtain ⟨shown, before, after, w', hrun, haround⟩ :=
        ih hupdates hstamped ht₁ hpresents₁ (htimely.cons hread).2
      have hrun := Rule.run_replay_cons hread hrun
      exact ⟨.plain v :: shown, before, after, w', hrun, haround⟩
    | apply u =>
      obtain ⟨hu, hrest⟩ := List.forall_mem_cons.1 hupdates
      obtain ⟨w₁, happly, hless⟩ := run_apply_returns readings key hb hu ht
      obtain ⟨hwithin, htimely⟩ := htimely.cons (Rule.run_access_apply happly)
      obtain ⟨stamp, hstamp, -, ht₁, hpresents₁⟩ :=
        stamped_of_timely hmono hb hu ht hpresents happly hless hwithin
      obtain ⟨shown, before, after, w', hrun, haround⟩ :=
        ih hrest (List.rel_append hstamped (.cons hstamp .nil)) ht₁ hpresents₁ htimely
      rw [List.append_assoc, List.singleton_append] at haround
      have hrun := Rule.run_replay_cons (Rule.run_access_apply happly) hrun
      exact ⟨shown, before, after, w', hrun, haround⟩

end Behaviour

/-! ## The verdict -/

namespace Rule

variable {d : Detector} {r : Rule} {updates : List Update} {c : Update} {before after : Json}

/-- With windows that do not clash, what is expected agrees with reads around the update. -/
theorem expected_agrees_of_readsAround (hr : r.lifetime.IsWhole d.lifetime)
    (hupdates : ∀ u ∈ updates, r.kind.Accepts u.payload) (hc : r.kind.Accepts c.payload)
    (hpairs : updates.Pairwise fun u v => d.clashes u.window v.window = false)
    (hclean : d.isAmbiguous c.window (windows updates) = false)
    (haround : Behaviour.ReadsAround r d.lifetime updates c before after) :
    ∃ wanted wanted', r.expected updates c.window.before = .ok wanted ∧
      r.expected (updates ++ [c]) c.window.after = .ok wanted' ∧
      ∀ x y : Json, x.agrees wanted = x.agrees before ∧ y.agrees wanted' = y.agrees after := by
  obtain ⟨hbefore, hafter, stamps, stamp, first, second, hstamped, hstamp, hfirst, hsecond, hle,
    hshown, hshown'⟩ := haround
  obtain ⟨hshort, hapart⟩ := Detector.isAmbiguous_eq_false_iff.1 hclean
  replace hapart : ∀ u ∈ updates, u.window.Apart d.lifetime c.window :=
    fun u hu => hapart _ (List.mem_map_of_mem hu)
  replace hpairs := hpairs.imp fun h => Detector.clashes_eq_false_iff.1 h
  have hall : ∀ u ∈ updates ++ [c], r.kind.Accepts u.payload := by
    simpa only [List.forall_mem_append, List.forall_mem_singleton] using ⟨hupdates, hc⟩
  obtain ⟨wanted, hwanted, hkind, hiff⟩ := expected_spec hr hupdates c.window.before
  obtain ⟨wanted', hwanted', hkind', hiff'⟩ := expected_spec hr hall c.window.after
  have hagrees : before.agrees wanted := (hiff before hbefore).2 <|
    (shows_iff_of_apart hstamped hpairs hapart ⟨Int.le_refl _, c.window.before_le_after⟩ hfirst).2
      hshown
  have hagrees' : after.agrees wanted' := (hiff' after hafter).2 <|
    (shows_append_iff_of_apart hstamped hpairs hapart hshort hstamp hle hsecond.2).2 hshown'
  exact ⟨wanted, wanted', hwanted, hwanted', fun x y =>
    ⟨(hbefore.agrees_congr hkind hagrees x).symm, (hafter.agrees_congr hkind' hagrees' y).symm⟩⟩

/-- A verification is exact on updates that do not clash. The updates are replayed on an empty
store that drops entries at the end of their lifetime, each of them stamped at some instant
of its window and with reads between them or without, and then a last one with the two reads
around it. If the windows do not clash with each other and the last update is unambiguous,
a verification of this update accepts the two reads of the replay and nothing else. So it
does not matter where in the windows the store has made its stamps. -/
theorem verify_eq_agrees_replayed {readings : Nat → Int} {key : Text} {accesses : List Access}
    (hr : r.lifetime.IsWhole d.lifetime) (hmono : Monotone readings)
    (hupdates : ∀ u ∈ Access.updates accesses, r.kind.Accepts u.payload)
    (hc : r.kind.Accepts c.payload)
    (hpairs : (Access.updates accesses).Pairwise fun u v => d.clashes u.window v.window = false)
    (hclean : d.isAmbiguous c.window (windows (Access.updates accesses)) = false)
    (htimely : r.Timely .faithful readings (r.handle key) (accesses ++ Access.cycle c) (0, .empty)) :
    ∃ shown before after w,
      (r.replay (Behaviour.faithful.onReadings readings).host (r.handle key)
        (accesses ++ Access.cycle c)).run (0, .empty) =
          (.ok (shown ++ [.plain before, .plain after]), w) ∧
      ∀ valueBefore valueAfter : Reading,
        r.verify (Access.updates accesses)
            ⟨c.window.before, valueBefore, c.payload, valueAfter, c.window.after⟩ =
          .ok (valueBefore.agrees before && valueAfter.agrees after) := by
  obtain ⟨shown, before, after, w, hrun, haround⟩ :=
    Behaviour.run_replay_around hmono (Auditor.keeping_faithful hr) hc hupdates .nil
      Tables.typed_empty (Tables.presents_empty rfl) htimely
  rw [List.nil_append] at haround
  obtain ⟨wanted, wanted', hwanted, hwanted', hagrees⟩ :=
    expected_agrees_of_readsAround hr hupdates hc hpairs hclean haround
  refine ⟨shown, before, after, w, hrun, fun valueBefore valueAfter => ?_⟩
  have hupdate : (⟨c.window.before, valueBefore, c.payload, valueAfter, c.window.after⟩ :
      Observation).update = .ok c := by
    rw [Observation.update, Window.make_of_le c.window.before_le_after]
    rfl
  rw [verify_eq_ok hupdate hwanted hwanted']
  cases valueBefore with
  | dictionary entries => rfl
  | plain x =>
    cases valueAfter with
    | dictionary entries => simp only [Reading.agrees, Bool.and_false]
    | plain y => simp only [Reading.agrees_plain, hagrees x y]

/-- A sum that has restarted, with a read between its updates. -/
theorem verify_eq_agrees_replayed_of_sum :
    let d : Detector := ⟨10, by decide⟩
    let r : Rule := ⟨.reducing, .whole (.ofInt 10 (by decide))⟩
    let readings : Nat → Int := fun n => if n < 2 then 1 else if n < 5 then 22 else 26
    let accesses : List Access := [.apply ⟨.raw (.int 5), ⟨0, 3, by decide⟩⟩,
      .read ⟨20, 22, by decide⟩, .apply ⟨.raw (.int 7), ⟨20, 24, by decide⟩⟩]
    let c : Update := ⟨.raw (.int 2), ⟨25, 27, by decide⟩⟩
    Monotone readings ∧ d.isAmbiguous c.window (windows (Access.updates accesses)) = false ∧
      r.Timely .faithful readings (r.handle "k") (accesses ++ Access.cycle c) (0, .empty) ∧
      ∃ shown before after w,
        (r.replay (Behaviour.faithful.onReadings readings).host (r.handle "k")
          (accesses ++ Access.cycle c)).run (0, .empty) =
            (.ok (shown ++ [.plain before, .plain after]), w) ∧
        ∀ valueBefore valueAfter : Reading,
          r.verify (Access.updates accesses) ⟨25, valueBefore, c.payload, valueAfter, 27⟩ =
            .ok (valueBefore.agrees before && valueAfter.agrees after) := by
  intro d r readings accesses c
  have hmono : Monotone readings := by
    intro i j hle
    dsimp only [readings]
    split_ifs <;> omega
  have hupdates : ∀ u ∈ Access.updates accesses, r.kind.Accepts u.payload := by
    have hlist : Access.updates accesses =
        [⟨.raw (.int 5), ⟨0, 3, by decide⟩⟩, ⟨.raw (.int 7), ⟨20, 24, by decide⟩⟩] := rfl
    simp only [hlist, List.forall_mem_cons]
    exact ⟨rfl, rfl, List.forall_mem_nil _⟩
  have hclean : d.isAmbiguous c.window (windows (Access.updates accesses)) = false := by decide
  have htimely : r.Timely .faithful readings (r.handle "k") (accesses ++ Access.cycle c)
      (0, .empty) := by decide +kernel
  exact ⟨hmono, hclean, htimely, verify_eq_agrees_replayed ⟨_, rfl, rfl⟩ hmono hupdates rfl
    (by decide) hclean htimely⟩

end Rule
end ExpiryAudit
