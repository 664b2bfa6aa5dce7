import ExpiryAudit.Proofs.World

/-!
# What rules write

A rule applies a payload by one write. Only the running sum is read before it is written,
and where nothing is read the payload is all that is written.
-/
namespace ExpiryAudit

/-- The kind of the handles that a change is made through. -/
def Change.kind : Change → HandleKind
  | replace _ => .value
  | append _ => .list
  | put _ _ => .map

namespace RuleKind

/-- What is written for a payload where nothing was before. -/
def change (k : RuleKind) (p : Payload) : Change :=
  match k with
  | value | reducing => .replace (.int p.number)
  | list => .append p.number
  | map => .put p.named.1 p.named.2

/-- What is written for a payload where a value was read. -/
def changeFrom (k : RuleKind) (current : Json) (p : Payload) : Change :=
  match k with
  | reducing => .replace (.int (current.whole?.getD 0 + p.number))
  | k => k.change p

variable (k : RuleKind) (current : Json) (p : Payload)

@[simp] theorem changeFrom_null : k.changeFrom .null p = k.change p := by
  cases k with
  | reducing => exact congrArg (fun n => Change.replace (.int n)) (Int.zero_add p.number)
  | _ => rfl

theorem kind_changeFrom : (k.changeFrom current p).kind = k.handleKind := by
  cases k <;> rfl

theorem isWhole_changeFrom : (k.changeFrom current p).IsWhole := by
  cases k with
  | value => exact Json.isWhole_int _
  | list => trivial
  | map => trivial
  | reducing => exact Json.isWhole_int _

end RuleKind

namespace Rule

/-- A payload that a rule takes is applied by one write, after a read if it is added to a sum. -/
theorem returns_apply_of {σ : Type} {host : Host σ} {r : Rule} {h : Handle} {p : Payload}
    {P Q : σ → Prop} {V : Json → Prop} (hp : r.kind.Accepts p) (hnull : V .null)
    (hread : r.kind = .reducing → Act.Returns P (host.read h) fun v w =>
      (HandleKind.value.Holds v ∧ V v) ∧ P w)
    (hwrite : ∀ v, V v → Act.Returns P (host.write h (r.kind.changeFrom v p)) fun _ => Q) :
    Act.Returns P (r.apply host h p) fun _ => Q := by
  have hamount : r.kind ≠ .map → p.amount r.id = .ok p.number := fun hk => by
    rw [hp.eq_int hk]
    rfl
  unfold apply
  cases hk : r.kind with
  | value =>
    rw [hk] at hwrite
    refine (Act.Returns.lift (hamount (by rw [hk]; decide))).bind fun n w => ?_
    rintro ⟨rfl, hw⟩
    exact hwrite .null hnull w hw
  | list =>
    rw [hk] at hwrite
    refine (Act.Returns.lift (hamount (by rw [hk]; decide))).bind fun n w => ?_
    rintro ⟨rfl, hw⟩
    exact hwrite .null hnull w hw
  | map =>
    rw [hk] at hwrite hp
    refine (Act.Returns.lift hp.mapEntry_eq_ok).bind fun e w => ?_
    rintro ⟨rfl, hw⟩
    exact hwrite .null hnull w hw
  | reducing =>
    rw [hk] at hwrite
    refine (Act.Returns.lift (hamount (by rw [hk]; decide))).bind fun n w => ?_
    rintro ⟨rfl, hw⟩
    refine (hread hk).bind (fun current w => ?_) w hw
    rintro ⟨⟨hcurrent, hv⟩, hw⟩
    rw [Act.run_bind_ok (by rw [Act.run_lift, addTo_eq_ok hcurrent])]
    exact hwrite current hv w hw

section Usable

variable {σ : Type} {r : Rule} {key : Text} {p : Payload} {I : σ → Prop}

/-- What a host returns that can be used is read as it is. -/
theorem returns_read_of {host : Host σ}
    (hread : Act.Returns I (host.read (r.handle key)) fun v w => (r.handle key).Usable v ∧ I w) :
    Act.Returns I (r.read host (r.handle key)) fun x w => (∃ v, x = .plain v) ∧ I w :=
  hread.bind fun v => by
    rintro w ⟨hv, hw⟩
    exact ⟨_, w, by rw [Act.run_lift, hv.observed_ok], ⟨v, rfl⟩, hw⟩

/-- A payload that a rule takes is applied, if the host answers. -/
theorem returns_apply_of_usable {host : Host σ} (hp : r.kind.Accepts p)
    (hread : Act.Returns I (host.read (r.handle key)) fun v w => (r.handle key).Usable v ∧ I w)
    (hwrite : ∀ c, c.IsWhole → Act.Returns I (host.write (r.handle key) c) fun _ => I) :
    Act.Returns I (r.apply host (r.handle key) p) fun _ => I := by
  refine returns_apply_of (V := fun _ => True) hp trivial (fun hk => hread.mono ?_)
    fun v _ => hwrite _ (r.kind.isWhole_changeFrom v p)
  rintro v w ⟨hv, hw⟩
  exact ⟨⟨hv.sum hk, trivial⟩, hw⟩

/-- A payload that a rule takes is observed between two reads of values, if the host answers
and the clock can be read. -/
theorem returns_observe_of {env : Environment σ} (hp : r.kind.Accepts p)
    (hnow : Act.Returns I env.now fun _ => I)
    (hread : Act.Returns I (env.host.read (r.handle key)) fun v w =>
      (r.handle key).Usable v ∧ I w)
    (hwrite : ∀ c, c.IsWhole → Act.Returns I (env.host.write (r.handle key) c) fun _ => I) :
    Act.Returns I (r.observe env (r.handle key) p) fun o w =>
      (o.payload = p ∧ (∃ v, o.valueBefore = .plain v) ∧ ∃ v, o.valueAfter = .plain v) ∧ I w := by
  refine hnow.bind fun before => (returns_read_of hread).bind fun valueBefore w => ?_
  rintro ⟨hbefore, hw⟩
  refine ((returns_apply_of_usable hp hread hwrite).bind fun _ =>
    (returns_read_of hread).bind fun valueAfter w => ?_) w hw
  rintro ⟨hafter, hw⟩
  exact (hnow.bind fun after => .pure fun w hw => ⟨⟨rfl, hbefore, hafter⟩, hw⟩) w hw

end Usable

end Rule
end ExpiryAudit
