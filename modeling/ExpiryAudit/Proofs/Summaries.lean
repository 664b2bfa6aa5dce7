import ExpiryAudit.Proofs.Averages
import ExpiryAudit.Proofs.Oversize

/-!
# Summaries that are due

Records and flushes of statistics may come in any order, and records may be refused. The
statistics remember the count of the last flush that was due. From this alone no count is
skipped or answered twice: every flush that was due came at another count, and what came of it is
the summary of the records that were accepted until then.
-/
namespace ExpiryAudit.Statistics

/-- What is done with statistics. -/
inductive Step where
  | record (clash : Bool) (length : Int)
  | flush

/-- A flush, with the number of updates that it came at. -/
structure Flush where
  updates : Nat
  result : Except Fault (Option Summary)

namespace Flush

/-- No summary was due. -/
def isSilent (x : Flush) : Bool :=
  match x.result with
  | .ok none => true
  | _ => false

def summary? (x : Flush) : Option Summary :=
  match x.result with
  | .ok y => y
  | .error _ => none

theorem isSilent_iff {x : Flush} : x.isSilent = true ↔ x.result = .ok none := by
  unfold isSilent
  split
  · next h => exact ⟨fun _ => h, fun _ => rfl⟩
  · next h => exact ⟨fun hfalse => absurd hfalse (by decide), fun hsilent => absurd hsilent h⟩

end Flush

/-- The update of a record that is not refused. -/
def Step.accepted : Step → Option (Bool × Nat)
  | record clash length => if 0 ≤ length then some (clash, length.toNat) else none
  | flush => none

/-- The updates of records that are not refused. -/
def accepted (steps : List Step) : List (Bool × Nat) := steps.filterMap Step.accepted

/-- A flush of the statistics. -/
def flushed (s : Statistics) : Flush := ⟨s.updates, (flush.run s).1⟩

/-- A refused record changes nothing. -/
def step (s : Statistics) : Step → Statistics
  | .record clash length =>
    match s.record clash length with
    | .ok t => t
    | .error _ => s
  | .flush => (flush.run s).2

def after (s : Statistics) (steps : List Step) : Statistics := steps.foldl step s

/-- The flushes among the steps. -/
def flushes : Statistics → List Step → List Flush
  | _, [] => []
  | s, .record clash length :: rest => flushes (s.step (.record clash length)) rest
  | s, .flush :: rest => s.flushed :: flushes (s.step .flush) rest

/-- The statistics of some updates, without flushes. -/
def totals (s : Statistics) (updates : List (Bool × Nat)) : Statistics :=
  updates.foldl (fun s u => s.count u.1 u.2) s

/-- The statistics before the first flush that was due. -/
def unreported (s : Statistics) : Statistics := { s with reportedAt := 0 }

variable {s : Statistics}

theorem after_append (s : Statistics) (before later : List Step) :
    s.after (before ++ later) = (s.after before).after later := List.foldl_append

theorem flushes_append (s : Statistics) (before later : List Step) :
    s.flushes (before ++ later) = s.flushes before ++ (s.after before).flushes later := by
  induction before generalizing s with
  | nil => rfl
  | cons x rest ih =>
    cases x with
    | record clash length => exact ih _
    | flush => exact congrArg (_ :: ·) (ih _)

theorem totals_append (s : Statistics) (updates : List (Bool × Nat)) (u : Bool × Nat) :
    s.totals (updates ++ [u]) = (s.totals updates).count u.1 u.2 := List.foldl_append

/-- A summary does not depend on when the last one was. -/
theorem summary_congr {t : Statistics} (hupdates : s.updates = t.updates)
    (hclashes : s.clashes = t.clashes) (hlength : s.historyLength = t.historyLength) :
    s.summary = t.summary := by
  have hper : ∀ total, s.perUpdate total = t.perUpdate total := fun total => by
    rw [perUpdate, perUpdate, hupdates]
  rw [summary, summary, hper, hper, hupdates, hclashes, hlength]

theorem summary_unreported (s : Statistics) : s.unreported.summary = s.summary :=
  summary_congr rfl rfl rfl

theorem record_of_neg {clash : Bool} {length : Int} (h : length < 0) :
    s.record clash length = .error (.negativeLength length) := if_neg (Int.not_le.2 h)

theorem record_of_nonneg {clash : Bool} {length : Int} (h : 0 ≤ length) :
    s.record clash length = .ok (s.count clash length.toNat) := if_pos h

/-! ## Totals -/

section Totals

variable (s) (updates : List (Bool × Nat))

theorem totals_updates : (s.totals updates).updates = s.updates + updates.length := by
  induction updates generalizing s with
  | nil => rfl
  | cons u rest ih =>
    refine (ih (s.count u.1 u.2)).trans ?_
    simp only [count, List.length_cons]
    omega

theorem totals_clashes : (s.totals updates).clashes = s.clashes + updates.countP (·.1) := by
  induction updates generalizing s with
  | nil => rfl
  | cons u rest ih =>
    obtain ⟨clash, length⟩ := u
    refine (ih (s.count clash length)).trans ?_
    cases clash <;> simp [count]
    omega

theorem totals_historyLength :
    (s.totals updates).historyLength = s.historyLength + (updates.map (·.2)).sum := by
  induction updates generalizing s with
  | nil => rfl
  | cons u rest ih =>
    refine (ih (s.count u.1 u.2)).trans ?_
    simp only [count, List.map_cons, List.sum_cons]
    omega

theorem totals_reportEvery : (s.totals updates).reportEvery = s.reportEvery := by
  induction updates generalizing s with
  | nil => rfl
  | cons u rest ih => exact ih (s.count u.1 u.2)

end Totals

/-! ## Flushes that were due -/

theorem run_flush_of_isDue (h : s.isDue = true) :
    flush.run s = (s.summary.map some, { s with reportedAt := s.updates }) := if_pos h

theorem run_flush_of_not_isDue (h : s.isDue = false) : flush.run s = (.ok none, s) :=
  if_neg (Bool.not_eq_true _ ▸ h)

theorem isSilent_flushed_of_isDue (h : s.isDue = true) : s.flushed.isSilent = false := by
  have hresult : s.flushed.result = s.summary.map some :=
    congrArg Prod.fst (run_flush_of_isDue h)
  rw [Flush.isSilent, hresult]
  cases s.summary <;> rfl

/-- The statistics have come from others by some updates and with some flushes. The count that
they remember is that of the last flush that was due. -/
structure Follows (s₀ : Statistics) (updates : List (Bool × Nat)) (fs : List Flush)
    (s : Statistics) : Prop where
  unreported : s.unreported = s₀.totals updates
  reportedAt_le : s.reportedAt ≤ s.updates
  exists_of_pos : 0 < s.reportedAt → ∃ x ∈ fs, x.updates = s.reportedAt ∧ x.isSilent = false
  le_reportedAt : ∀ x ∈ fs, x.isSilent = false → x.updates ≤ s.reportedAt
  ordered : (fs.filter (!·.isSilent)).Pairwise (·.updates < ·.updates)
  result : ∀ x ∈ fs, x.isSilent = false → x.updates ≤ updates.length ∧
    x.result = (s₀.totals (updates.take x.updates)).summary.map some

namespace Follows

variable {s₀ : Statistics} {updates : List (Bool × Nat)} {fs : List Flush}

theorem refl (h : s₀.reportedAt = 0) : Follows s₀ [] [] s₀ where
  unreported := by rw [Statistics.unreported, ← h]; rfl
  reportedAt_le := h ▸ Nat.zero_le _
  exists_of_pos := fun hpos => absurd h (Nat.ne_of_gt hpos)
  le_reportedAt := by simp
  ordered := List.Pairwise.nil
  result := by simp

theorem count (h : Follows s₀ updates fs s) (clash : Bool) (length : Nat) :
    Follows s₀ (updates ++ [(clash, length)]) fs (s.count clash length) where
  unreported := by
    rw [totals_append, ← h.unreported]
    rfl
  reportedAt_le := Nat.le_succ_of_le h.reportedAt_le
  exists_of_pos := h.exists_of_pos
  le_reportedAt := h.le_reportedAt
  ordered := h.ordered
  result := fun x hx hdue => by
    obtain ⟨hle, hresult⟩ := h.result x hx hdue
    rw [List.length_append, List.take_append_of_le_length hle]
    exact ⟨Nat.le_add_right_of_le hle, hresult⟩

theorem updates_eq (h : Follows s₀ updates fs s) : s.updates = s₀.updates + updates.length :=
  (congrArg (·.updates) h.unreported).trans (totals_updates s₀ updates)

theorem flush (h : Follows s₀ updates fs s) (h₀ : s₀.updates = 0) :
    Follows s₀ updates (fs ++ [s.flushed]) (Statistics.flush.run s).2 := by
  cases hdue : s.isDue with
  | false =>
    have hrun := run_flush_of_not_isDue hdue
    have hsilent : s.flushed.isSilent = true := by rw [flushed, hrun]; rfl
    have hmem : ∀ x ∈ fs ++ [s.flushed], x.isSilent = false → x ∈ fs := by
      intro x hx hloud
      rcases List.mem_append.1 hx with hx | hx
      · exact hx
      · rw [List.mem_singleton.1 hx, hsilent] at hloud
        cases hloud
    rw [hrun]
    refine ⟨h.unreported, h.reportedAt_le, fun hpos => ?_,
      fun x hx hloud => h.le_reportedAt x (hmem x hx hloud) hloud, ?_,
      fun x hx hloud => h.result x (hmem x hx hloud) hloud⟩
    · obtain ⟨x, hx, hat⟩ := h.exists_of_pos hpos
      exact ⟨x, List.mem_append_left _ hx, hat⟩
    · rw [List.filter_append, List.filter_cons_of_neg (by rw [hsilent]; decide)]
      exact (List.append_nil _).symm ▸ h.ordered
  | true =>
    have hrun := run_flush_of_isDue hdue
    have hloud := isSilent_flushed_of_isDue hdue
    have hlater : s.reportedAt < s.updates := by
      have hne : s.reportedAt ≠ s.updates := by
        simp only [isDue, Bool.and_eq_true, bne_iff_ne] at hdue
        exact hdue.2
      exact Nat.lt_of_le_of_ne h.reportedAt_le hne
    rw [hrun]
    refine ⟨h.unreported, Nat.le_refl _, fun _ => ?_, fun x hx hx' => ?_, ?_, fun x hx hx' => ?_⟩
    · exact ⟨s.flushed, List.mem_append_right _ List.mem_cons_self, rfl, hloud⟩
    · rcases List.mem_append.1 hx with hx | hx
      · exact Nat.le_of_lt (Nat.lt_of_le_of_lt (h.le_reportedAt x hx hx') hlater)
      · exact List.mem_singleton.1 hx ▸ Nat.le_refl _
    · rw [List.filter_append, List.pairwise_append]
      refine ⟨h.ordered, List.Pairwise.filter _ (List.pairwise_singleton _ _), ?_⟩
      intro x hx y hy
      obtain ⟨hx, hx'⟩ := List.mem_filter.1 hx
      obtain rfl := List.mem_singleton.1 (List.mem_filter.1 hy).1
      exact Nat.lt_of_le_of_lt (h.le_reportedAt x hx (by simpa using hx')) hlater
    · rcases List.mem_append.1 hx with hx | hx
      · exact h.result x hx hx'
      · obtain rfl := List.mem_singleton.1 hx
        have hlength : s.flushed.updates = updates.length := by
          rw [← Nat.zero_add updates.length, ← h₀]
          exact h.updates_eq
        refine ⟨Nat.le_of_eq hlength, ?_⟩
        rw [hlength, List.take_length, ← h.unreported, summary_unreported]
        exact congrArg Prod.fst hrun

/-- The steps of statistics add the updates that are accepted and the flushes. -/
theorem steps (h : Follows s₀ updates fs s) (h₀ : s₀.updates = 0) (steps : List Step) :
    Follows s₀ (updates ++ accepted steps) (fs ++ s.flushes steps) (s.after steps) := by
  induction steps generalizing updates fs s with
  | nil =>
    rw [accepted, List.filterMap_nil, flushes, List.append_nil, List.append_nil]
    exact h
  | cons x rest ih =>
    cases x with
    | flush =>
      have hrest := ih (h.flush h₀)
      rw [List.append_assoc] at hrest
      exact hrest
    | record clash length =>
      by_cases hlength : 0 ≤ length
      · have hrest := ih (h.count clash length.toNat)
        have hstep : s.step (.record clash length) = s.count clash length.toNat := by
          rw [step, record_of_nonneg hlength]
        have haccepted : accepted (.record clash length :: rest) =
            (clash, length.toNat) :: accepted rest :=
          List.filterMap_cons_some (if_pos hlength)
        rw [List.append_assoc, List.singleton_append] at hrest
        rw [haccepted, flushes, after, List.foldl_cons, hstep]
        exact hrest
      · have hstep : s.step (.record clash length) = s := by
          rw [step, record_of_neg (Int.not_le.1 hlength)]
        have haccepted : accepted (.record clash length :: rest) = accepted rest :=
          List.filterMap_cons_none (if_neg hlength)
        rw [haccepted, flushes, after, List.foldl_cons, hstep]
        exact ih h

/-- A summary is due at a positive multiple of the interval, unless a flush was due at the same
count before. -/
theorem isDue_iff (h : Follows s₀ updates fs s) : s.isDue = true ↔
    (0 < s.updates ∧ s.reportEvery ∣ (s.updates : Int)) ∧
      ∀ x ∈ fs, x.updates = s.updates → x.isSilent = true := by
  have hsplit : s.isDue = true ↔ (0 < s.updates ∧ s.reportEvery ∣ (s.updates : Int)) ∧
      s.reportedAt ≠ s.updates := by
    simp only [isDue, Bool.and_eq_true, bne_iff_ne, beq_iff_eq, Nat.pos_iff_ne_zero,
      Int.dvd_iff_emod_eq_zero, ne_eq]
  rw [hsplit]
  refine and_congr_right fun hmultiple => ⟨fun hne x hx hat => ?_, fun hall hat => ?_⟩
  · by_contra hloud
    have hle := h.le_reportedAt x hx (Bool.eq_false_iff.2 hloud)
    have hreported := h.reportedAt_le
    omega
  · obtain ⟨x, hx, hx', hloud⟩ := h.exists_of_pos (hat ▸ hmultiple.1)
    rw [hall x hx (hx'.trans hat)] at hloud
    cases hloud

end Follows

/-! ## What comes of a flush -/

/-- The average length of the histories is a finite number. -/
def hasAverage (s : Statistics) : Bool := (Binary64.quotient? s.historyLength s.updates).isSome

theorem hasAverage_of_lt (hpos : 0 < s.updates) (h : s.historyLength < capacity) :
    s.hasAverage = true :=
  Binary64.quotient?_isSome (Nat.lt_of_lt_of_le h (Nat.le_mul_of_pos_right capacity hpos))

/-- With no more clashes than updates, only the average can be too large for a summary. -/
theorem exists_summary_iff (hpos : 0 < s.updates) (hclashes : s.clashes ≤ s.updates) :
    (∃ x, s.summary = .ok x) ↔ s.hasAverage = true := by
  have hone : 1 < capacity := lt_capacity (k := 1) (by decide) (by decide)
  obtain ⟨ratio, hratio⟩ : ∃ x, s.perUpdate s.clashes = .ok x :=
    perUpdate_ok (.inl (Nat.lt_of_le_of_lt hclashes (lt_mul_of_one_lt_left hpos hone)))
  have haverage : (∃ x, s.perUpdate s.historyLength = .ok x) ↔ s.hasAverage = true := by
    rw [perUpdate, if_neg (Nat.ne_of_gt hpos), hasAverage]
    cases Binary64.quotient? s.historyLength s.updates <;> simp
  rw [← haverage]
  constructor
  · rintro ⟨x, hx⟩
    obtain ⟨average, h, -⟩ := eq_ok_of_bind_eq_ok hx
    exact ⟨average, h⟩
  · rintro ⟨average, h⟩
    exact ⟨_, bind_eq_ok h (bind_eq_ok hratio rfl)⟩

theorem summary_eq_ok {x : Summary} (h : s.summary = .ok x) :
    x.updates = s.updates ∧ x.clashes = s.clashes := by
  obtain ⟨average, -, h⟩ := eq_ok_of_bind_eq_ok h
  obtain ⟨ratio, -, h⟩ := eq_ok_of_bind_eq_ok h
  cases h
  exact ⟨rfl, rfl⟩

/-- A flush fails with one fault only. -/
theorem eq_of_flush_error {f : Fault} (hf : (flush.run s).1 = .error f) :
    f = .quotientOverflow := by
  cases hdue : s.isDue with
  | false =>
    rw [run_flush_of_not_isDue hdue] at hf
    cases hf
  | true =>
    rw [run_flush_of_isDue hdue] at hf
    cases hsummary : s.summary with
    | ok x => rw [hsummary] at hf; cases hf
    | error g =>
      rw [hsummary] at hf
      cases hf
      exact eq_of_summary_error hsummary

namespace Follows

variable {s₀ : Statistics} {updates : List (Bool × Nat)} {fs : List Flush}

/-- What came of an earlier flush that was due at the count of now would come of one now. -/
theorem result_eq (h : Follows s₀ updates fs s) (h₀ : s₀.updates = 0) {x : Flush} (hx : x ∈ fs)
    (hat : x.updates = s.updates) (hloud : x.isSilent = false) :
    x.result = s.summary.map some := by
  have hlength : x.updates = updates.length := by
    rw [hat, h.updates_eq, h₀, Nat.zero_add]
  rw [(h.result x hx hloud).2, hlength, List.take_length, ← h.unreported, summary_unreported]

/-- Something comes of a flush at a positive multiple of the interval, if the statistics have it
and it has not come of a flush at the same count before. -/
theorem flush_iff (h : Follows s₀ updates fs s) (h₀ : s₀.updates = 0)
    {P : Except Fault (Option Summary) → Prop} (hP : ¬P (.ok none)) :
    P (Statistics.flush.run s).1 ↔ (0 < s.updates ∧ s.reportEvery ∣ (s.updates : Int)) ∧
      P (s.summary.map some) ∧ ∀ x ∈ fs, x.updates = s.updates → ¬P x.result := by
  constructor
  · intro hflush
    cases hdue : s.isDue with
    | false =>
      rw [run_flush_of_not_isDue hdue] at hflush
      exact absurd hflush hP
    | true =>
      rw [run_flush_of_isDue hdue] at hflush
      obtain ⟨hmultiple, hsilent⟩ := h.isDue_iff.1 hdue
      refine ⟨hmultiple, hflush, fun x hx hat => ?_⟩
      rw [Flush.isSilent_iff.1 (hsilent x hx hat)]
      exact hP
  · rintro ⟨hmultiple, hsummary, hfresh⟩
    have hdue : s.isDue = true := by
      refine h.isDue_iff.2 ⟨hmultiple, fun x hx hat => ?_⟩
      by_contra hloud
      refine hfresh x hx hat ?_
      rw [h.result_eq h₀ hx hat (Bool.eq_false_iff.2 hloud)]
      exact hsummary
    rw [run_flush_of_isDue hdue]
    exact hsummary

variable (h : Follows s₀ updates fs s) (h₀ : s₀.updates = 0) (hclashes : s.clashes ≤ s.updates)

include h h₀ hclashes

/-- A flush gives a summary at a positive multiple of the interval, if the average is finite and
no flush has given one at the same count before. -/
theorem flush_gives_iff : (∃ x, (Statistics.flush.run s).1 = .ok (some x)) ↔
    (0 < s.updates ∧ s.reportEvery ∣ (s.updates : Int)) ∧ s.hasAverage = true ∧
      ∀ x ∈ fs, x.updates = s.updates → ¬∃ y, x.result = .ok (some y) := by
  rw [h.flush_iff h₀ (P := fun r => ∃ x, r = .ok (some x)) (by simp)]
  refine and_congr_right fun hmultiple => and_congr_left fun _ => ?_
  rw [← exists_summary_iff hmultiple.1 hclashes]
  cases s.summary <;> simp [Except.map]

/-- A flush fails at a positive multiple of the interval, if the average is infinite and no flush
has failed at the same count before. -/
theorem flush_fails_iff : (∃ f, (Statistics.flush.run s).1 = .error f) ↔
    (0 < s.updates ∧ s.reportEvery ∣ (s.updates : Int)) ∧ s.hasAverage = false ∧
      ∀ x ∈ fs, x.updates = s.updates → ¬∃ f, x.result = .error f := by
  rw [h.flush_iff h₀ (P := fun r => ∃ f, r = .error f) (by simp)]
  refine and_congr_right fun hmultiple => and_congr_left fun _ => ?_
  rw [Bool.eq_false_iff, ne_eq, ← exists_summary_iff hmultiple.1 hclashes]
  cases s.summary <;> simp [Except.map]

end Follows

/-! ## What summaries say -/

namespace Follows

variable {s₀ : Statistics} {updates : List (Bool × Nat)} {fs : List Flush}

/-- A summary is that of the updates that were accepted until its flush. -/
theorem summary_eq (h : Follows s₀ updates fs s) (h₀ : s₀.updates = 0) {x : Flush} {y : Summary}
    (hx : x ∈ fs) (hy : x.summary? = some y) :
    y.updates = x.updates ∧ y.updates ≤ updates.length ∧
      (s₀.totals (updates.take y.updates)).summary = .ok y := by
  have hresult : x.result = .ok (some y) := by
    unfold Flush.summary? at hy
    split at hy
    · next r hr => rw [hr, hy]
    · cases hy
  have hloud : x.isSilent = false := by rw [Flush.isSilent, hresult]
  obtain ⟨hle, hsummary⟩ := h.result x hx hloud
  have hok : (s₀.totals (updates.take x.updates)).summary = .ok y := by
    cases hs : (s₀.totals (updates.take x.updates)).summary with
    | error f =>
      rw [hs, hresult] at hsummary
      cases hsummary
    | ok z =>
      rw [hs, hresult] at hsummary
      exact congrArg Except.ok (Option.some.inj (Except.ok.inj hsummary)).symm
  have hupdates : y.updates = x.updates := by
    rw [(summary_eq_ok hok).1, totals_updates, h₀, Nat.zero_add, List.length_take,
      Nat.min_eq_left hle]
  exact ⟨hupdates, hupdates ▸ hle, hupdates ▸ hok⟩

/-- Every summary comes at more updates than those before it. -/
theorem summaries_ordered (h : Follows s₀ updates fs s) (h₀ : s₀.updates = 0) :
    (fs.filterMap Flush.summary?).Pairwise (·.updates < ·.updates) := by
  rw [List.pairwise_filterMap]
  refine (List.pairwise_filter.1 h.ordered).imp_of_mem fun {x y} hx hy hlt u hu v hv => ?_
  have hloud : ∀ {z : Flush} {w : Summary}, z.summary? = some w → (!z.isSilent) = true := by
    intro z w hz
    rw [Bool.not_eq_true', Bool.eq_false_iff]
    intro hsilent
    rw [Flush.summary?, Flush.isSilent_iff.1 hsilent] at hz
    cases hz
  rw [(h.summary_eq h₀ hx hu).1, (h.summary_eq h₀ hy hv).1]
  exact hlt (hloud hu) (hloud hv)

end Follows

/-! ## A flush after every record -/

/-- Every record is followed by a flush. -/
def paced (updates : List (Bool × Nat)) : List Step :=
  updates.flatMap fun u => [.record u.1 u.2, .flush]

theorem accepted_paced (updates : List (Bool × Nat)) : accepted (paced updates) = updates := by
  induction updates with
  | nil => rfl
  | cons u rest ih => exact congrArg₂ List.cons rfl ih

theorem paced_append (updates : List (Bool × Nat)) (u : Bool × Nat) :
    paced (updates ++ [u]) = paced updates ++ [.record u.1 u.2, .flush] := by
  rw [paced, List.flatMap_append, List.flatMap_singleton, paced]

/-- One more update, after which there is a flush. -/
theorem after_paced (s : Statistics) (updates : List (Bool × Nat)) (u : Bool × Nat) :
    s.after (paced (updates ++ [u])) =
      (Statistics.flush.run ((s.after (paced updates)).count u.1 u.2)).2 := by
  rw [paced_append, after_append]
  rfl

theorem flushes_paced (s : Statistics) (updates : List (Bool × Nat)) (u : Bool × Nat) :
    s.flushes (paced (updates ++ [u])) =
      s.flushes (paced updates) ++ [((s.after (paced updates)).count u.1 u.2).flushed] := by
  rw [paced_append, flushes_append]
  rfl

theorem Follows.paced {s₀ : Statistics} (h₀ : s₀.updates = 0) (hreported : s₀.reportedAt = 0)
    (updates : List (Bool × Nat)) :
    Follows s₀ updates (s₀.flushes (paced updates)) (s₀.after (paced updates)) := by
  have hsteps := (Follows.refl hreported).steps h₀ (Statistics.paced updates)
  rwa [accepted_paced] at hsteps

section Paced

variable {s₀ : Statistics} {updates : List (Bool × Nat)} {fs : List Flush}

/-- The interval, as a natural number. -/
def interval (s : Statistics) : Nat := s.reportEvery.toNat

theorem natCast_interval (s : Statistics) : (s.interval : Int) = s.reportEvery :=
  Int.toNat_of_nonneg (Int.le_of_lt s.reportEvery_pos)

theorem interval_pos (s : Statistics) : 0 < s.interval := by
  have hpos := s.reportEvery_pos
  rw [← s.natCast_interval] at hpos
  exact Int.natCast_pos.1 hpos

/-- What a flush gives after one more update. -/
theorem Follows.summary?_count (h : Follows s₀ updates fs s) (h₀ : s₀.updates = 0)
    (u : Bool × Nat) : (s.count u.1 u.2).flushed.summary? =
      if s₀.interval ∣ updates.length + 1 then (s₀.totals (updates ++ [u])).summary.toOption
      else none := by
  have hnext := h.count u.1 u.2
  have hlength : s.updates = updates.length := by rw [h.updates_eq, h₀, Nat.zero_add]
  have hevery : s.reportEvery = s₀.interval := by
    rw [natCast_interval, ← totals_reportEvery s₀ updates, ← h.unreported]
    rfl
  -- No flush has come at this count, so that the interval alone decides.
  have hdue : (s.count u.1 u.2).isDue = true ↔ s₀.interval ∣ updates.length + 1 := by
    rw [hnext.isDue_iff, ← Int.natCast_dvd_natCast, ← hevery, ← hlength]
    refine ⟨fun hdue => hdue.1.2, fun hdvd => ⟨⟨Nat.succ_pos _, hdvd⟩, fun x hx hat => ?_⟩⟩
    by_contra hloud
    have hle := h.le_reportedAt x hx (Bool.eq_false_iff.2 hloud)
    have hreported := h.reportedAt_le
    have hcount : x.updates = s.updates + 1 := hat
    omega
  have hsummary : (s.count u.1 u.2).summary = (s₀.totals (updates ++ [u])).summary := by
    rw [← hnext.unreported, summary_unreported]
  by_cases hdvd : s₀.interval ∣ updates.length + 1
  · rw [if_pos hdvd, Flush.summary?, flushed, run_flush_of_isDue (hdue.2 hdvd), hsummary]
    cases (s₀.totals (updates ++ [u])).summary <;> rfl
  · rw [if_neg hdvd, Flush.summary?, flushed,
      run_flush_of_not_isDue (Bool.eq_false_iff.2 fun hyes => hdvd (hdue.1 hyes))]

/-- One step further, what is found at the multiples of a number is found at one more of them, or
at the same ones. -/
theorem filterMap_multiples {α : Type} (f : Nat → Option α) (n count : Nat) :
    (List.range ((count + 1) / n)).filterMap f = (List.range (count / n)).filterMap f ++
      (if n ∣ count + 1 then f (count / n) else none).toList := by
  by_cases hdvd : n ∣ count + 1
  · rw [Nat.succ_div_of_dvd hdvd, List.range_succ, List.filterMap_append, if_pos hdvd]
    cases hf : f (count / n) <;> simp [hf]
  · rw [Nat.succ_div_of_not_dvd hdvd, if_neg hdvd, Option.toList_none, List.append_nil]

theorem multiple_le {n count k : Nat} (hk : k ∈ List.range (count / n)) : (k + 1) * n ≤ count :=
  calc (k + 1) * n ≤ count / n * n := Nat.mul_le_mul_right n (List.mem_range.1 hk)
    _ ≤ count := Nat.div_mul_le_self count n

/-- With a flush after every record, there is one summary for each multiple of the interval, but
for those that fail. -/
theorem summaries_paced (h₀ : s₀.updates = 0) (hreported : s₀.reportedAt = 0)
    (updates : List (Bool × Nat)) :
    (s₀.flushes (paced updates)).filterMap Flush.summary? =
      (List.range (updates.length / s₀.interval)).filterMap fun k =>
        (s₀.totals (updates.take ((k + 1) * s₀.interval))).summary.toOption := by
  induction updates using List.reverseRecOn with
  | nil => simp [paced, flushes]
  | append_singleton updates u ih =>
    have hgiven := (Follows.paced h₀ hreported updates).summary?_count h₀ u
    -- The summaries before do not see the update.
    have hearlier : (s₀.flushes (paced updates)).filterMap Flush.summary? =
        (List.range (updates.length / s₀.interval)).filterMap fun k =>
          (s₀.totals ((updates ++ [u]).take ((k + 1) * s₀.interval))).summary.toOption := by
      rw [ih]
      refine List.filterMap_congr fun k hk => ?_
      rw [List.take_append_of_le_length (multiple_le hk)]
    have hlast : (if s₀.interval ∣ updates.length + 1 then
        (s₀.totals (updates ++ [u])).summary.toOption else none) =
        if s₀.interval ∣ updates.length + 1 then (s₀.totals ((updates ++ [u]).take
          ((updates.length / s₀.interval + 1) * s₀.interval))).summary.toOption else none := by
      refine if_ctx_congr Iff.rfl (fun hdvd => ?_) fun _ => rfl
      rw [← Nat.succ_div_of_dvd hdvd, Nat.div_mul_cancel hdvd, List.take_of_length_le (by simp)]
    rw [flushes_paced, List.filterMap_append, hearlier, List.length_append, List.length_singleton,
      filterMap_multiples, ← hlast, ← hgiven]
    cases h : ((s₀.after (paced updates)).count u.1 u.2).flushed.summary? <;> simp [h]

/-- If the lengths stay below capacity, the summaries come at all multiples of the interval. -/
theorem updates_of_summaries_paced (hsize : (s₀.totals updates).historyLength < capacity)
    (h₀ : s₀.updates = 0) (hclashes : s₀.clashes = 0) (hreported : s₀.reportedAt = 0) :
    ((s₀.flushes (paced updates)).filterMap Flush.summary?).map (·.updates) =
      (List.range (updates.length / s₀.interval)).map fun k => (k + 1) * s₀.interval := by
  rw [summaries_paced h₀ hreported, List.map_filterMap, ← List.filterMap_eq_map]
  refine List.filterMap_congr fun k hk => ?_
  set t := s₀.totals (updates.take ((k + 1) * s₀.interval))
  have hupdates : t.updates = (k + 1) * s₀.interval := by
    rw [totals_updates, h₀, Nat.zero_add, List.length_take, Nat.min_eq_left (multiple_le hk)]
  have hpos : 0 < t.updates := hupdates ▸ Nat.mul_pos (Nat.succ_pos k) s₀.interval_pos
  have hfewer : t.clashes ≤ t.updates := by
    rw [totals_clashes, hclashes, totals_updates, h₀, Nat.zero_add, Nat.zero_add]
    exact List.countP_le_length
  have hlength : t.historyLength < capacity := by
    refine Nat.lt_of_le_of_lt ?_ hsize
    have hsum := congrArg (fun us => (us.map (·.2)).sum)
      (List.take_append_drop ((k + 1) * s₀.interval) updates)
    simp only [List.map_append, List.sum_append] at hsum
    rw [totals_historyLength, totals_historyLength]
    omega
  obtain ⟨y, hy⟩ := (exists_summary_iff hpos hfewer).2 (hasAverage_of_lt hpos hlength)
  rw [hy]
  exact congrArg some ((summary_eq_ok hy).1.trans hupdates)

end Paced

end ExpiryAudit.Statistics
