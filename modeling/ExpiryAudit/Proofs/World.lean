import ExpiryAudit.Proofs.Run

/-!
# Worlds that a run comes to

Whatever comes of the events, a run changes the world only by acts of the host and the
clock and the history only by forgetting slots and recording updates that rules take.
So it keeps what these keep.
-/
namespace ExpiryAudit

variable {σ : Type}

namespace Session

variable {P : Session σ → Prop} (hreport : ∀ entry, Act.Keeps P (report entry))

include hreport

theorem reportAny_keeps (entry : Option LogEntry) : Act.Keeps P (reportAny entry) := by
  cases entry with
  | none => exact Act.Keeps.pure ()
  | some entry => exact hreport entry

theorem count_keeps (hstatistics : ∀ s t, P s → P { s with statistics := t }) (clash : Bool)
    (length : Nat) : Act.Keeps P (count clash length) := by
  refine Act.Keeps.bind (Act.Keeps.modify fun s hs => hstatistics s _ hs) fun _ _ _ _ _ => ?_
  exact Act.Keeps.bind (fun s hs => hstatistics s _ hs) fun _ _ _ _ _ => reportAny_keeps hreport _

end Session

namespace Auditor

/-- The parts of an evaluation keep a property of the session. -/
structure PartsKeep (a : Auditor σ) (P : Session σ → Prop) (r : Rule) (key : Text)
    (p : Payload) : Prop where
  acquire : Act.Keeps P (Session.inWorld (a.environment.host.acquire (r.handle key)))
  clear : Act.Keeps P (Session.inWorld (a.environment.host.clear (r.handle key)))
  observe : Act.Keeps P (Session.inWorld (r.observe a.environment (r.handle key) p))
  report : ∀ entry, Act.Keeps P (Session.report entry)
  statistics : ∀ s t, P s → P { s with statistics := t }
  forget : ∀ s, P s → P { s with history := s.history.clear ⟨key, r.id⟩ }
  record : ∀ s u, u.payload = p → P s → P { s with history := s.history.append ⟨key, r.id⟩ u }

namespace PartsKeep

variable {a : Auditor σ} {P : Session σ → Prop} {r : Rule} {key : Text} {p : Payload}

theorem reportAny (h : a.PartsKeep P r key p) (entry : Option LogEntry) :
    Act.Keeps P (Session.reportAny entry) := Session.reportAny_keeps h.report entry

theorem count (h : a.PartsKeep P r key p) (clash : Bool) (length : Nat) :
    Act.Keeps P (Session.count clash length) :=
  Session.count_keeps h.report h.statistics clash length

theorem retry (h : a.PartsKeep P r key p) : Act.Keeps P (a.retry r key p) := by
  refine Act.Keeps.bind h.clear fun _ _ _ _ _ => ?_
  refine Act.Keeps.bind (Act.Keeps.modify h.forget) fun _ _ _ _ _ => ?_
  refine Act.Keeps.bind h.observe fun _ _ _ _ _ => ?_
  exact Act.Keeps.bind (h.report _) fun _ _ _ _ _ => Act.Keeps.pure _

/-- The end of an evaluation records an update of the payload. -/
theorem recorded (h : a.PartsKeep P r key p) {clash : Bool} {previous : List Update}
    {o : Observation} (ho : o.payload = p) :
    Act.Keeps P (Auditor.record r key clash previous o) := by
  refine Act.Keeps.bind (h.count _ _) fun _ _ _ _ _ => ?_
  refine Act.Keeps.bind (Act.Keeps.lift _) fun s u t hu _ => ?_
  have hpayload : u.payload = p :=
    (Observation.update_eq_ok (Act.run_lift_eq_ok hu).1).1.trans ho
  exact Act.Keeps.bind (Act.Keeps.modify fun s hs => h.record s u hpayload hs)
    fun _ _ _ _ _ => Act.Keeps.pure _

/-- What its parts keep is kept by an evaluation, whatever comes of it. -/
theorem evaluate (h : a.PartsKeep P r key p) : Act.Keeps P (a.evaluate r key p) := by
  refine Act.Keeps.bind h.acquire fun _ _ _ _ _ => ?_
  refine Act.Keeps.bind (fun _ hs => hs) fun _ previous _ _ _ => ?_
  refine Act.Keeps.bind h.observe fun _ first _ hfirst _ => ?_
  refine Act.Keeps.bind (Act.Keeps.lift _) fun _ _ _ _ _ => ?_
  refine Act.Keeps.bind (h.reportAny _) fun _ _ _ _ _ => ?_
  dsimp only
  split
  · refine Act.Keeps.bind h.retry fun _ second _ hsecond _ => ?_
    obtain ⟨w₁, w₂, log, -, hobserve, -⟩ := run_retry_ok hsecond
    obtain ⟨-, -, -, -, -, -, -, -, -, ho⟩ := Rule.run_observe_ok hobserve
    exact h.recorded ho
  · obtain ⟨w, hobserve, -⟩ := Session.run_inWorld_ok hfirst
    obtain ⟨-, -, -, -, -, -, -, -, -, ho⟩ := Rule.run_observe_ok hobserve
    exact h.recorded ho

end PartsKeep

theorem evaluate_keeps_isStrict {a : Auditor σ} (strict : Bool) (r : Rule) (key : Text)
    (p : Payload) : Act.Keeps (fun s : Session σ => s.log.isStrict = strict) (a.evaluate r key p) :=
  PartsKeep.evaluate
    { acquire := fun _ hs => hs
      clear := fun _ hs => hs
      observe := fun _ hs => hs
      report := (Session.lasting_isStrict strict).report
      statistics := fun _ _ hs => hs
      forget := fun _ hs => hs
      record := fun _ _ _ hs => hs }

/-- Host and clock keep a property of the world, and recorded updates one of the history. -/
structure Keeps (a : Auditor σ) (I : σ → Prop) (P : History → Prop) : Prop where
  acquire : ∀ h, Act.Keeps I (a.environment.host.acquire h)
  clear : ∀ h, Act.Keeps I (a.environment.host.clear h)
  observe : ∀ r ∈ a.rules, ∀ key p, r.kind.Accepts p →
    Act.Keeps I (r.observe a.environment (r.handle key) p)
  forget : ∀ h s, P h → P (h.clear s)
  record : ∀ h, ∀ r ∈ a.rules, ∀ key u, r.kind.Accepts u.payload →
    P h → P (h.append ⟨key, r.id⟩ u)

namespace Keeps

variable {a : Auditor σ} {I : σ → Prop} {P : History → Prop}

/-- What is kept of a session. -/
def Kept (I : σ → Prop) (P : History → Prop) (s : Session σ) : Prop :=
  I s.world ∧ P s.history

theorem inWorld {α : Type} {act : Act σ α} (h : Act.Keeps I act) :
    Act.Keeps (Kept I P) (Session.inWorld act) := fun s hs => ⟨h s.world hs.1, hs.2⟩

theorem evaluate (h : a.Keeps I P) {r : Rule} {key : Text} {p : Payload} (hr : r ∈ a.rules)
    (hp : r.kind.Accepts p) : Act.Keeps (Kept I P) (a.evaluate r key p) :=
  PartsKeep.evaluate
    { acquire := inWorld (h.acquire _)
      clear := inWorld (h.clear _)
      observe := inWorld (h.observe r hr key p hp)
      report := fun _ => Act.Keeps.within fun _ _ hs => hs
      statistics := fun _ _ hs => hs
      forget := fun _ hs => ⟨hs.1, h.forget _ _ hs.2⟩
      record := fun _ u hu hs => ⟨hs.1, h.record _ r hr key u (hu ▸ hp) hs.2⟩ }

/-- Whatever comes of an evaluation, it keeps them. -/
theorem keptAnyhow (h : a.Keeps I P) : a.KeptAnyhow fun c => I c.1 ∧ P c.2.1 :=
  fun _ hr _ _ hp => h.evaluate hr hp

/-- Evaluations keep what the host, the clock and the records keep. -/
theorem keptByEvaluations (h : a.Keeps I P) :
    a.KeptByEvaluations fun w history => I w ∧ P history := by
  intro x hx hr hp hs
  have hkeeps : Act.Keeps (Kept I P) (a.evaluate x.rule x.key x.payload) := h.evaluate hr hp
  have hmiddle := hkeeps x.start hs
  rw [hx.evaluated] at hmiddle
  rw [hx.finish_world, hx.finish_history]
  exact hmiddle

/-- A run keeps them, whatever comes of its events. -/
theorem reachable (h : a.Keeps I P) {moves : σ → σ → Prop}
    (hmoves : ∀ w w', moves w w' → I w → I w') {s₀ s : Session σ}
    (hs : a.Reachable moves s₀ s) (h₀ : Kept I P s₀) : Kept I P s :=
  h.keptAnyhow.reachable (fun w w' _ hmove hw => ⟨hmoves w w' hmove hw.1, hw.2⟩) hs h₀

end Keeps
end Auditor

/-! ## Reads of the right kind -/

/-- A change to whole numbers, as rules make it. -/
def Change.IsWhole : Change → Prop
  | .replace v => v.IsWhole
  | _ => True

/-- A rule can use the value: a list for a list, an object for a map, and for the running sum
a whole number or nothing. -/
def Handle.Usable (h : Handle) (v : Json) : Prop :=
  match h.kind with
  | .value => h.name = RuleKind.reducing.id → HandleKind.value.Holds v
  | .list => ∃ items, v = .arr items
  | .map => ∃ members, v = .obj members

theorem HandleKind.Holds.usable {h : Handle} {v : Json} (hv : h.kind.Holds v) : h.Usable v := by
  unfold Handle.Usable
  cases hk : h.kind with
  | value => exact fun _ => hk ▸ hv
  | list =>
    rw [hk] at hv
    obtain ⟨items, rfl, -⟩ := hv
    exact ⟨items, rfl⟩
  | map =>
    rw [hk] at hv
    obtain ⟨members, rfl, -⟩ := hv
    exact ⟨members, rfl⟩

/-- What can be used counts as it is. -/
theorem Handle.Usable.observed_ok {r : Rule} {key : Text} {v : Json}
    (h : (r.handle key).Usable v) : r.observed v = .ok (.plain v) := by
  unfold Usable Rule.handle at h
  unfold Rule.observed
  cases hk : r.kind with
  | value => rfl
  | reducing => rfl
  | list =>
    rw [hk] at h
    obtain ⟨items, rfl⟩ := h
    rfl
  | map =>
    rw [hk] at h
    obtain ⟨members, rfl⟩ := h
    rfl

/-- The running sum is a whole number or nothing. -/
theorem Handle.Usable.sum {r : Rule} {key : Text} {v : Json} (h : (r.handle key).Usable v)
    (hk : r.kind = .reducing) : HandleKind.value.Holds v := by
  unfold Usable Rule.handle at h
  rw [hk] at h
  exact h (congrArg RuleKind.id hk)

namespace Environment

/-- The worlds that acts of host and clock and moves of the world come to. -/
inductive Comes (env : Environment σ) (moves : σ → σ → Prop) (w₀ : σ) : σ → Prop
  | start : Comes env moves w₀ w₀
  | now {w : σ} : Comes env moves w₀ w → Comes env moves w₀ (env.now.run w).2
  | acquire {w : σ} (h : Handle) :
      Comes env moves w₀ w → Comes env moves w₀ ((env.host.acquire h).run w).2
  | read {w : σ} (h : Handle) :
      Comes env moves w₀ w → Comes env moves w₀ ((env.host.read h).run w).2
  | write {w : σ} (h : Handle) {c : Change} (whole : c.IsWhole) :
      Comes env moves w₀ w → Comes env moves w₀ ((env.host.write h c).run w).2
  | clear {w : σ} (h : Handle) :
      Comes env moves w₀ w → Comes env moves w₀ ((env.host.clear h).run w).2
  | move {w w' : σ} : moves w w' → Comes env moves w₀ w → Comes env moves w₀ w'

/-- Every read that returns gives a value of the kind of its handle. -/
def Typed (env : Environment σ) (moves : σ → σ → Prop) (w₀ : σ) : Prop :=
  ∀ (h : Handle) (w w' : σ) (v : Json), env.Comes moves w₀ w →
    (env.host.read h).run w = (.ok v, w') → h.kind.Holds v

/-- Every read that returns gives a value that the rule of its handle can use. -/
def Answers (env : Environment σ) (moves : σ → σ → Prop) (w₀ : σ) : Prop :=
  ∀ (h : Handle) (w w' : σ) (v : Json), env.Comes moves w₀ w →
    (env.host.read h).run w = (.ok v, w') → h.Usable v

theorem Typed.answers {env : Environment σ} {moves : σ → σ → Prop} {w₀ : σ}
    (h : env.Typed moves w₀) : env.Answers moves w₀ :=
  fun g w w' v hw hread => (h g w w' v hw hread).usable

end Environment

namespace Rule

variable {env : Environment σ} {moves : σ → σ → Prop} {w₀ : σ} {r : Rule} {key : Text}
  {p : Payload}

theorem keeps_read (h : Handle) : Act.Keeps (env.Comes moves w₀) (r.read env.host h) :=
  read_keeps fun _ hw => .read h hw

/-- A read of a rule gives what the host returned, a value of its kind. -/
theorem run_read_plain (htyped : env.Typed moves w₀) {w w' : σ} {x : Reading}
    (hw : env.Comes moves w₀ w) (hread : (r.read env.host (r.handle key)).run w = (.ok x, w')) :
    ∃ v, (env.host.read (r.handle key)).run w = (.ok v, w') ∧ r.kind.handleKind.Holds v ∧
      x = .plain v := by
  obtain ⟨v, w₁, hv, hlifted⟩ := Act.run_bind_eq_ok hread
  have hkind : r.kind.handleKind.Holds v := htyped _ w w₁ v hw hv
  obtain ⟨hobserved, rfl⟩ := Act.run_lift_eq_ok hlifted
  rw [(HandleKind.Holds.usable (h := r.handle key) hkind).observed_ok] at hobserved
  exact ⟨v, hv, hkind, (Except.ok.inj hobserved).symm⟩

/-- Nothing counts as zero when an amount is added to it. -/
theorem addTo_eq_ok {sum : Json} (hsum : HandleKind.value.Holds sum) (n : Int) :
    addTo sum (.raw (.int n)) = .ok (.int (sum.whole?.getD 0 + n)) := by
  rcases hsum with rfl | hsum
  · exact congrArg (fun m => Except.ok (Json.int m)) (Int.zero_add n).symm
  · cases sum with
    | bool b => rfl
    | int m => rfl
    | _ => exact absurd hsum Bool.false_ne_true

theorem whole?_addTo {sum v : Json} {n : Int} (hsum : HandleKind.value.Holds sum)
    (h : addTo sum (.raw (.int n)) = .ok v) : v.whole? = some (sum.whole?.getD 0 + n) := by
  cases (addTo_eq_ok hsum n).symm.trans h
  rfl

theorem keeps_apply (hanswers : env.Answers moves w₀) :
    Act.Keeps (env.Comes moves w₀) (r.apply env.host (r.handle key) p) := by
  unfold apply
  cases hk : r.kind with
  | value =>
    exact Act.Keeps.bind (Act.Keeps.lift _) fun _ n _ _ _ w hw => .write _ (Json.isWhole_int n) hw
  | list => exact Act.Keeps.bind (Act.Keeps.lift _) fun _ _ _ _ _ w hw => .write _ trivial hw
  | map => exact Act.Keeps.bind (Act.Keeps.lift _) fun _ _ _ _ _ w hw => .write _ trivial hw
  | reducing =>
    refine Act.Keeps.bind (Act.Keeps.lift _) fun _ n _ _ _ => ?_
    refine Act.Keeps.bind (fun _ hw => .read _ hw) fun w current w' hread hw => ?_
    have hcurrent : HandleKind.value.Holds current := (hanswers _ w w' current hw hread).sum hk
    refine Act.Keeps.bind (Act.Keeps.lift _) fun _ sum _ hsum _ => fun _ hw => ?_
    have hwhole := whole?_addTo hcurrent (Act.run_lift_eq_ok hsum).1
    exact .write _ (Option.isSome_iff_exists.2 ⟨_, hwhole⟩) hw

theorem keeps_observe (hanswers : env.Answers moves w₀) :
    Act.Keeps (env.Comes moves w₀) (r.observe env (r.handle key) p) :=
  observe_keeps (fun _ hw => .now hw) (fun _ hw => .read _ hw) (keeps_apply hanswers)

end Rule
end ExpiryAudit
