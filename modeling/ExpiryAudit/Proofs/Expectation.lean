import ExpiryAudit.Proofs.Act
import ExpiryAudit.Proofs.Agreement

/-!
# What rules expect

With a lifetime in whole milliseconds and payloads that the rule takes, an expectation
never fails and has a closed form: the last amount, the amounts that last, the last
amount of every name, or the sum since the last expiry. A verification compares both
reads with closed forms.
-/
namespace ExpiryAudit

/-- The rule takes the payload. -/
def RuleKind.Accepts (k : RuleKind) (p : Payload) : Prop := k.validate p = .ok ()

namespace Payload

/-- The amount of a payload that is a whole number. -/
def number : Payload → Int
  | raw (.int n) => n
  | _ => 0

/-- The map key and the amount of a payload that has both. -/
def named (p : Payload) : Text × Int :=
  match p.mapEntry with
  | .ok e => e
  | .error _ => ("", 0)

end Payload

namespace RuleKind.Accepts

variable {k : RuleKind} {p : Payload}

/-- Rules other than that for maps take whole numbers. -/
theorem eq_int (h : k.Accepts p) (hk : k ≠ .map) : p = .raw (.int p.number) := by
  have hamount : (p.amount k.id >>= fun _ => Except.ok ()) = .ok () := by
    cases k <;> first | exact absurd rfl hk | exact h
  obtain ⟨n, hn, -⟩ := eq_ok_of_bind_eq_ok hamount
  unfold Payload.amount at hn
  split at hn
  · rfl
  · cases hn

/-- The rule for maps takes pairs of a name and a whole number. -/
theorem mapEntry_eq_ok (h : map.Accepts p) : p.mapEntry = .ok p.named := by
  obtain ⟨e, he, -⟩ := eq_ok_of_bind_eq_ok h
  rw [Payload.named, he]

end RuleKind.Accepts

/-! ## Lifetimes -/

/-- The lifetime is a whole number of milliseconds. -/
def Lifetime.IsWhole (l : Lifetime) (amount : Int) : Prop := ∃ s, l = .whole s ∧ s.amount = amount

theorem Lifetime.IsWhole.pos {l : Lifetime} {t : Int} (h : l.IsWhole t) : 0 < t := by
  obtain ⟨s, -, rfl⟩ := h
  exact s.amount_pos

/-- A window has not expired at an instant. -/
def Window.lasts (w : Window) (lifetime now : Int) : Bool := decide (now ≤ w.after + lifetime)

/-- An update has not expired when its window ends. -/
theorem Window.lasts_after {lifetime : Int} (w : Window) (hpos : 0 < lifetime) :
    w.lasts lifetime w.after = true :=
  decide_eq_true (by omega)

theorem Rule.expired_eq_ok {r : Rule} {t : Int} (h : r.lifetime.IsWhole t) (w : Window)
    (now : Int) : r.expired w now = .ok (!w.lasts t now) := by
  obtain ⟨s, hs, rfl⟩ := h
  rw [expired, hs, Lifetime.endsBefore_whole, Window.lasts, ← decide_not]
  simp

theorem Rule.lasts_eq_ok {r : Rule} {t : Int} (h : r.lifetime.IsWhole t) (w : Window)
    (now : Int) : r.lasts w now = .ok (w.lasts t now) := by
  simp [lasts, expired_eq_ok h, Except.map]

/-! ## Closed forms -/

namespace Expected

variable (lifetime : Int) (updates : List Update) (u : Update) (now : Int)

/-- The last amount, until it expires. -/
def value : Option Int :=
  (updates.getLast?.filter fun u => u.window.lasts lifetime now).map (·.payload.number)

/-- The amounts that have not expired. -/
def list : List Int :=
  (updates.filter fun u => u.window.lasts lifetime now).map (·.payload.number)

/-- An update as a setting of its map key. -/
def setting (u : Update) : Text × (Int × Window) := (u.payload.named.1, u.payload.named.2, u.window)

/-- The last amount of a map key, until it expires. -/
def entry (name : Text) : Option Int :=
  ((Named.last? (updates.map setting) name).filter fun e => e.2.lasts lifetime now).map (·.1)

/-- The last amounts that have not expired under their map keys. -/
def members : List (Text × Json) :=
  ((Named.ofSettings (updates.map setting)).filter fun e => e.2.2.lasts lifetime now).map
    fun e => (e.1, .int e.2.1)

/-- What of a sum is left at an instant. -/
def left (total : Option (Int × Window)) : Option Int :=
  (total.filter fun t => t.2.lasts lifetime now).map (·.1)

/-- Adds an update to what is left of the sum. -/
def add (total : Option (Int × Window)) (u : Update) : Option (Int × Window) :=
  some ((left lifetime u.window.before total).getD 0 + u.payload.number, u.window)

/-- The sum since the last expiry. -/
def sum : Option Int := left lifetime now (updates.foldl (add lifetime) none)

theorem value_append : value lifetime (updates ++ [u]) now =
    if u.window.lasts lifetime now then some u.payload.number else none := by
  cases h : u.window.lasts lifetime now <;> simp [value, h]

theorem list_append : list lifetime (updates ++ [u]) now =
    list lifetime updates now ++ if u.window.lasts lifetime now then [u.payload.number] else [] := by
  cases h : u.window.lasts lifetime now <;> simp [list, h]

theorem entry_append (name : Text) : entry lifetime (updates ++ [u]) now name =
    if u.payload.named.1 = name then
      if u.window.lasts lifetime now then some u.payload.named.2 else none
    else entry lifetime updates now name := by
  have hname : (setting u).1 = u.payload.named.1 := rfl
  unfold entry
  rw [List.map_append, List.map_singleton, Named.last?_append_singleton, hname]
  split
  · cases h : u.window.lasts lifetime now <;> simp [setting, h, Option.filter_some]
  · rfl

/-- What an expectation sees of an update: the payload, and whether it still lasts. -/
def seen (u : Update) : Payload × Bool := (u.payload, u.window.lasts lifetime now)

theorem value_eq_of_seen : value lifetime updates now =
    ((updates.map (seen lifetime now)).getLast?.filter (·.2)).map (·.1.number) := by
  unfold value
  rw [List.getLast?_map]
  cases updates.getLast? with
  | none => rfl
  | some u => cases h : u.window.lasts lifetime now <;> simp [seen, h, Option.filter_some]

theorem list_eq_of_seen : list lifetime updates now =
    ((updates.map (seen lifetime now)).filter (·.2)).map (·.1.number) := by
  rw [list, List.filter_map, List.map_map]
  rfl

theorem entry_eq_of_seen (name : Text) : entry lifetime updates now name =
    ((Named.last? ((updates.map (seen lifetime now)).map fun x =>
      (x.1.named.1, (x.1.named.2, x.2))) name).filter (·.2)).map (·.1) := by
  have hsettings : ((updates.map (seen lifetime now)).map fun x =>
      (x.1.named.1, (x.1.named.2, x.2))) =
      (updates.map setting).map fun e => (e.1, (e.2.1, e.2.2.lasts lifetime now)) := by
    rw [List.map_map, List.map_map]
    rfl
  rw [hsettings, Named.last?_map (fun e : Int × Window => (e.1, e.2.lasts lifetime now)), entry]
  cases Named.last? (updates.map setting) name with
  | none => rfl
  | some e => cases h : e.2.lasts lifetime now <;> simp [h, Option.filter_some]

theorem distinct_members : Named.Distinct (members lifetime updates now) := by
  have hkept := (Named.distinct_ofSettings (updates.map setting)).filter
    fun e => e.2.2.lasts lifetime now
  exact hkept.map fun e : Int × Window => Json.int e.1

theorem isWhole_of_mem_members {m : Text × Json} (h : m ∈ members lifetime updates now) :
    m.2.IsWhole := by
  obtain ⟨e, -, rfl⟩ := List.mem_map.1 h
  exact Json.isWhole_int e.2.1

theorem wholeAt_members (name : Text) :
    Json.wholeAt (members lifetime updates now) name = entry lifetime updates now name := by
  have hd := Named.distinct_ofSettings (updates.map setting)
  rw [Json.wholeAt, members, Named.find?_map (fun e : Int × Window => Json.int e.1),
    hd.find?_filter fun e => e.2.lasts lifetime now, Named.find?_ofSettings, entry]
  cases (Named.last? (updates.map setting) name).filter fun e => e.2.lasts lifetime now <;> rfl

theorem sum_append : sum lifetime (updates ++ [u]) now =
    if u.window.lasts lifetime now then
      some ((sum lifetime updates u.window.before).getD 0 + u.payload.number)
    else none := by
  cases h : u.window.lasts lifetime now <;> simp [sum, left, add, h, Option.filter_some]

end Expected

/-! ## Expectations in closed form -/

/-- A value is a state that a correct store may show after some updates. -/
def RuleKind.Shows (k : RuleKind) (lifetime : Int) (updates : List Update) (now : Int)
    (v : Json) : Prop :=
  match k with
  | value => v.whole? = Expected.value lifetime updates now
  | list => ∀ items, v = .arr items →
      items.map Json.whole? = (Expected.list lifetime updates now).map some
  | map => ∀ members, v = .obj members →
      ∀ name, Json.wholeAt members name = Expected.entry lifetime updates now name
  | reducing => v.whole? = Expected.sum lifetime updates now

/-- What is shown depends on what is seen of the updates and, for a running sum, on the sum. -/
theorem RuleKind.shows_congr {k : RuleKind} {lifetime lifetime' now now' : Int}
    {updates updates' : List Update} {v : Json}
    (hseen : updates.map (Expected.seen lifetime now) = updates'.map (Expected.seen lifetime' now'))
    (hsum : k = .reducing →
      Expected.sum lifetime updates now = Expected.sum lifetime' updates' now') :
    k.Shows lifetime updates now v ↔ k.Shows lifetime' updates' now' v := by
  cases k with
  | value => simp only [Shows, Expected.value_eq_of_seen, hseen]
  | list => simp only [Shows, Expected.list_eq_of_seen, hseen]
  | map => simp only [Shows, Expected.entry_eq_of_seen, hseen]
  | reducing => simp only [Shows, hsum rfl]

namespace Rule

variable {r : Rule} {lifetime : Int} {updates : List Update}

/-- A number that may be missing, as a value. -/
def ofNumber? : Option Int → Json
  | none => .null
  | some n => .int n

@[simp] theorem whole?_ofNumber? (n : Option Int) : (ofNumber? n).whole? = n := by
  cases n <;> rfl

theorem holds_ofNumber? (n : Option Int) : HandleKind.value.Holds (ofNumber? n) := by
  cases n with
  | none => exact .inl rfl
  | some n => exact .inr (Json.isWhole_int n)

theorem expectedValue_eq_ok (hr : r.lifetime.IsWhole lifetime)
    (hu : ∀ u ∈ updates, u.payload = .raw (.int u.payload.number)) (now : Int) :
    r.expectedValue updates now = .ok (ofNumber? (Expected.value lifetime updates now)) := by
  unfold expectedValue Expected.value
  cases hlast : updates.getLast? with
  | none => rfl
  | some u =>
    have hint := hu u (List.mem_of_getLast? hlast)
    simp only [expired_eq_ok hr]
    rw [Option.filter_some]
    cases u.window.lasts lifetime now with
    | false => rfl
    | true => exact congrArg (fun p => Except.ok p.json) hint

theorem expectedList_eq_ok (hr : r.lifetime.IsWhole lifetime)
    (hu : ∀ u ∈ updates, u.payload = .raw (.int u.payload.number)) (now : Int) :
    r.expectedList updates now =
      .ok (.arr ((Expected.list lifetime updates now).map .int)) := by
  have hkeep : Lifetime.keep (fun u => r.lasts u.window now) updates =
      .ok (updates.filter fun u => u.window.lasts lifetime now) := by
    rw [← Lifetime.keep_ok]
    exact congrArg (Lifetime.keep · updates) (funext fun u => lasts_eq_ok hr u.window now)
  rw [expectedList, hkeep, Expected.list, List.map_map]
  refine congrArg (Except.ok ∘ Json.arr) (List.map_congr_left fun u hmem => ?_)
  exact congrArg Payload.json (hu u (List.mem_filter.1 hmem).1)

theorem latestEntries_eq_ok (hu : ∀ u ∈ updates, u.payload.mapEntry = .ok u.payload.named) :
    latestEntries updates = .ok (Named.ofSettings (updates.map Expected.setting)) := by
  rw [latestEntries, mapM_eq_ok_map (g := Expected.setting) fun u hmem => ?_]
  · rfl
  · rw [hu u hmem]
    rfl

theorem expectedMap_eq_ok (hr : r.lifetime.IsWhole lifetime)
    (hu : ∀ u ∈ updates, u.payload.mapEntry = .ok u.payload.named) (now : Int) :
    r.expectedMap updates now =
      .ok (.obj (Expected.members lifetime updates now)) := by
  rw [expectedMap, latestEntries_eq_ok hu]
  simp only [lasts_eq_ok hr]
  show Lifetime.keep (fun e => .ok _) _ >>= _ = _
  rw [Lifetime.keep_ok]
  rfl

/-- A sum and the window of the last update, as they are carried on. -/
def ofTotal : Option (Int × Window) → Json × Option Window
  | none => (.null, none)
  | some (sum, w) => (.int sum, some w)

theorem runningSum_eq_ok (hr : r.lifetime.IsWhole lifetime)
    (hu : ∀ u ∈ updates, u.payload = .raw (.int u.payload.number))
    (total : Option (Int × Window)) :
    r.runningSum (ofTotal total).1 (ofTotal total).2 updates =
      .ok (ofTotal (updates.foldl (Expected.add lifetime) total)) := by
  induction updates generalizing total with
  | nil => rfl
  | cons u rest ih =>
    obtain ⟨hint, hrest⟩ := List.forall_mem_cons.1 hu
    have hcarried : r.carriedSum (ofTotal total).1 (ofTotal total).2 u.window.before =
        .ok (ofNumber? (Expected.left lifetime u.window.before total)) := by
      cases total with
      | none => rfl
      | some t =>
        simp only [ofTotal, carriedSum, expired_eq_ok hr, Expected.left, Option.filter_some]
        cases t.2.lasts lifetime u.window.before <;> rfl
    have hsum : ∀ n : Option Int, addTo (ofNumber? n) u.payload =
        .ok (.int (n.getD 0 + u.payload.number)) := fun n => by
      rw [hint]
      cases n with
      | none => exact congrArg (fun m => Except.ok (Json.int m)) (Int.zero_add _).symm
      | some n => rfl
    rw [runningSum, hcarried, List.foldl_cons, ← ih hrest]
    show addTo _ u.payload >>= _ = _
    rw [hsum]
    rfl

theorem expectedSum_eq_ok (hr : r.lifetime.IsWhole lifetime)
    (hu : ∀ u ∈ updates, u.payload = .raw (.int u.payload.number)) (now : Int) :
    r.expectedSum updates now = .ok (ofNumber? (Expected.sum lifetime updates now)) := by
  have hsum : r.runningSum .null none updates =
      .ok (ofTotal (updates.foldl (Expected.add lifetime) none)) := runningSum_eq_ok hr hu none
  rw [expectedSum, hsum, Expected.sum]
  cases updates.foldl (Expected.add lifetime) none with
  | none => rfl
  | some t =>
    obtain ⟨sum, w⟩ := t
    simp only [ofTotal, bind, Except.bind, pure, Except.pure, expired_eq_ok hr, Expected.left,
      Option.filter_some]
    cases w.lasts lifetime now <;> rfl

/-- With payloads that a rule takes, its expectation is a state of its kind, and the
states that agree with it are those that a correct store may show. -/
theorem expected_spec (hr : r.lifetime.IsWhole lifetime)
    (hu : ∀ u ∈ updates, r.kind.Accepts u.payload) (now : Int) :
    ∃ wanted, r.expected updates now = .ok wanted ∧ r.kind.handleKind.Holds wanted ∧
      ∀ v, r.kind.handleKind.Holds v → (v.agrees wanted ↔ r.kind.Shows lifetime updates now v) := by
  unfold expected
  cases hk : r.kind with
  | value =>
    refine ⟨_, expectedValue_eq_ok hr (fun u hmem => (hu u hmem).eq_int (by simp [hk])) now,
      holds_ofNumber? _, ?_⟩
    intro v hv
    rw [Json.agrees_iff_whole? hv (holds_ofNumber? _), whole?_ofNumber?]
    rfl
  | list =>
    refine ⟨_, expectedList_eq_ok hr (fun u hmem => (hu u hmem).eq_int (by simp [hk])) now,
      ⟨_, rfl, by simp⟩, ?_⟩
    rintro v ⟨items, rfl, hitems⟩
    rw [Json.agrees_arr_iff hitems (by simp), List.map_map]
    exact ⟨fun h items' he => Json.arr.inj he ▸ h, fun h => h items rfl⟩
  | map =>
    rw [hk] at hu
    have hdistinct := Expected.distinct_members lifetime updates now
    have hwhole := fun m hm => Expected.isWhole_of_mem_members lifetime updates now (m := m) hm
    refine ⟨_, expectedMap_eq_ok hr (fun u hmem => (hu u hmem).mapEntry_eq_ok) now,
      ⟨_, rfl, hdistinct, hwhole⟩, ?_⟩
    rintro v ⟨members, rfl, hd, hmembers⟩
    rw [Json.agrees_obj_iff hd hdistinct hmembers hwhole]
    simp only [Expected.wholeAt_members]
    exact ⟨fun h members' he => Json.obj.inj he ▸ h, fun h => h members rfl⟩
  | reducing =>
    refine ⟨_, expectedSum_eq_ok hr (fun u hmem => (hu u hmem).eq_int (by simp [hk])) now,
      holds_ofNumber? _, ?_⟩
    intro v hv
    rw [Json.agrees_iff_whole? hv (holds_ofNumber? _), whole?_ofNumber?]
    rfl

/-- What a rule expects is itself what a correct store may show. -/
theorem expected_shows (hr : r.lifetime.IsWhole lifetime)
    (hu : ∀ u ∈ updates, r.kind.Accepts u.payload) (now : Int) :
    ∃ wanted, r.expected updates now = .ok wanted ∧ r.kind.handleKind.Holds wanted ∧
      r.kind.Shows lifetime updates now wanted := by
  obtain ⟨wanted, hwanted, hkind, hiff⟩ := expected_spec hr hu now
  exact ⟨wanted, hwanted, hkind, (hiff wanted hkind).1 hkind.agrees_self⟩

/-- A verification compares both reads with what is expected. -/
theorem verify_eq_ok {o : Observation} {u : Update} {before after : Json} (hu : o.update = .ok u)
    (hbefore : r.expected updates o.before = .ok before)
    (hafter : r.expected (updates ++ [u]) o.after = .ok after) :
    r.verify updates o = .ok (o.valueBefore.agrees before && o.valueAfter.agrees after) := by
  rw [verify, hbefore, hu]
  cases h : o.valueBefore.agrees before with
  | false => simp [bind, Except.bind, h, pure, Except.pure]
  | true => simp [bind, Except.bind, h, hafter, pure, Except.pure]

/-- A verification of reads of the right kind does not fail, and holds exactly if both
reads are what a correct store may show. -/
theorem verify_spec (hr : r.lifetime.IsWhole lifetime)
    (hprevious : ∀ u ∈ updates, r.kind.Accepts u.payload) {o : Observation} {u : Update}
    (hu : o.update = .ok u) (haccepts : r.kind.Accepts u.payload) {v w : Json}
    (hv : o.valueBefore = .plain v) (hw : o.valueAfter = .plain w)
    (hvkind : r.kind.handleKind.Holds v) (hwkind : r.kind.handleKind.Holds w) :
    ∃ holds, r.verify updates o = .ok holds ∧ (holds = true ↔
      r.kind.Shows lifetime updates o.before v ∧
      r.kind.Shows lifetime (updates ++ [u]) o.after w) := by
  have hall : ∀ x ∈ updates ++ [u], r.kind.Accepts x.payload := by
    intro x hx
    rcases List.mem_append.1 hx with hx | hx
    · exact hprevious x hx
    · exact List.mem_singleton.1 hx ▸ haccepts
  obtain ⟨before, hbefore, -, hbeforeIff⟩ := expected_spec hr hprevious o.before
  obtain ⟨after, hafter, -, hafterIff⟩ := expected_spec hr hall o.after
  refine ⟨_, verify_eq_ok hu hbefore hafter, ?_⟩
  rw [hv, hw, Reading.agrees_plain, Reading.agrees_plain, Bool.and_eq_true,
    hbeforeIff v hvkind, hafterIff w hwkind]

end Rule
end ExpiryAudit
