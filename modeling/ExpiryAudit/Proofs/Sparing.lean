import ExpiryAudit.Checkpoint
import ExpiryAudit.Proofs.FaultSorts
import ExpiryAudit.Verification

/-!
# Faults that blame no line

Values, texts, payloads, rules, files and checkpoints have faults of many kinds. None of
them says that a numbered line of a file is no event.
-/
namespace ExpiryAudit

/-- The fault says that a numbered line is no event. -/
def Fault.blamesLine : Fault → Bool
  | event _ _ => true
  | _ => false

/-- The fault, if there is one, blames no line. -/
abbrev Spares {α : Type} (x : Except Fault α) : Prop := FailsAs (fun f => f.blamesLine = false) x

/-- From every state, the fault of the act, if there is one, blames no line. -/
def Act.Spares {σ α : Type} (a : Act σ α) : Prop := ∀ s, ExpiryAudit.Spares (a.run s).1

namespace Act.Spares

variable {σ τ α β : Type}

theorem pure (x : α) : Act.Spares (Pure.pure x : Act σ α) := fun _ => .ok x

theorem lift {x : Except Fault α} (h : ExpiryAudit.Spares x) :
    Act.Spares (Act.lift x : Act σ α) := fun _ => h

theorem modify (f : σ → σ) : Act.Spares (Act.modify f) := fun _ => .ok ()

theorem bind {a : Act σ α} {f : α → Act σ β} (ha : Act.Spares a) (hf : ∀ x, Act.Spares (f x)) :
    Act.Spares (a >>= f) := by
  intro s
  have hs := ha s
  rw [run_bind]
  cases h : run a s with
  | mk result t =>
    rw [h] at hs
    cases result with
    | error e => exact .error (hs e rfl)
    | ok x => exact hf x t

theorem ite {c : Prop} [Decidable c] {a b : Act σ α} (ha : Act.Spares a) (hb : Act.Spares b) :
    Act.Spares (if c then a else b) := by
  split
  · exact ha
  · exact hb

theorem within {part : τ → σ} {replace : σ → τ → τ} {a : Act σ α} (ha : Act.Spares a) :
    Act.Spares (Act.within part replace a) := fun t => ha (part t)

theorem not_blames {a : Act σ α} (ha : Act.Spares a) {s t : σ} {f : Fault}
    (h : a.run s = (.error f, t)) : f.blamesLine ≠ true := by
  simp [ha s f (congrArg Prod.fst h)]

end Act.Spares

/-! ## Values, texts and records -/

namespace Json

theorem spares_field (v : Json) (name : Text) : Spares (v.field name) := by
  unfold field
  repeat' split
  all_goals first | exact .ok _ | exact .error rfl

theorem spares_elements (v : Json) : Spares v.elements := by
  unfold elements
  split
  · exact .ok _
  · exact .error rfl

theorem spares_members (v : Json) : Spares v.members := by
  unfold members
  split
  · exact .ok _
  · exact .error rfl

theorem spares_toInt (v : Json) : Spares v.toInt := by
  unfold toInt
  repeat' split
  all_goals first | exact .ok _ | exact .error rfl

theorem spares_of_toFloat? {v : Json} {x : Except Fault Binary64} (h : v.toFloat? = some x) :
    Spares x := by
  unfold toFloat? at h
  split at h
  · cases h
    exact .ok _
  · obtain ⟨n, -, rfl⟩ := Option.map_eq_some_iff.1 h
    split
    · exact .ok _
    · exact .error rfl

theorem spares_plus (v w : Json) : Spares (v.plus w) := by
  unfold plus
  split
  · exact .ok _
  · split
    · exact .ok _
    · exact .ok _
    · exact .error rfl
    · exact .error rfl
    · split
      · next hx hy =>
        exact (spares_of_toFloat? hx).bind fun _ => (spares_of_toFloat? hy).bind fun _ => .ok _
      · exact .error rfl

theorem spares_writableIf (isWritable : Bool) (v : Json) : Spares (v.writableIf isWritable) :=
  .ite (.ok v) (.error rfl)

theorem spares_writable (v : Json) : Spares v.writable := v.spares_writableIf _

namespace Key

theorem spares_ofJson (v : Json) : Spares (Key.ofJson v) := by
  unfold Key.ofJson
  split <;> first | exact .ok _ | exact .error rfl

theorem spares_before (a b : Key) : Spares (a.before b) := by
  unfold Key.before
  repeat' split
  all_goals first | exact .ok _ | exact .error rfl

end Key

namespace Dictionary

theorem spares_entry (index : Nat) (item : Json) : Spares (entry index item) := by
  unfold entry
  split
  · exact (Key.spares_ofJson _).bind fun _ => .ok _
  · exact .error rfl
  · exact .error rfl

theorem spares_ofJson (v : Json) : Spares (Dictionary.ofJson v) := by
  unfold Dictionary.ofJson
  split
  · exact .ok _
  · exact v.spares_elements.bind fun _ => .foldlM fun _ _ => (spares_entry _ _).bind fun _ => .ok _

theorem spares_sortedObject (d : Dictionary) : Spares d.sortedObject := by
  unfold sortedObject
  split
  · exact .ok _
  · exact (Sorting.failsAs_sort (fun _ _ => Key.spares_before _ _) d).bind fun _ => .ok _

end Dictionary
end Json

theorem Reading.spares_written (x : Reading) : Spares x.written := by
  cases x with
  | plain v => exact v.spares_writable.bind fun _ => .ok _
  | dictionary d => exact d.spares_sortedObject.bind fun _ => Json.spares_writableIf _ _

theorem Log.spares_add (entry : LogEntry) : Act.Spares (add entry) := by
  intro l
  simp only [add, Act.run]
  repeat' split
  all_goals first | exact .ok _ | exact .error rfl

theorem Statistics.spares_perUpdate (s : Statistics) (total : Nat) : Spares (s.perUpdate total) := by
  unfold perUpdate
  repeat' split
  all_goals first | exact .ok _ | exact .error rfl

theorem Statistics.spares_summary (s : Statistics) : Spares s.summary :=
  (s.spares_perUpdate _).bind fun _ => (s.spares_perUpdate _).bind fun _ => .ok _

/-! ## Payloads, updates and rules -/

theorem Window.spares_make (before after : Int) : Spares (make before after) := by
  unfold make
  split
  · exact .ok _
  · exact .error rfl

theorem Window.spares_ofFields (d : Json) (before after : Text) :
    Spares (ofFields d before after) :=
  (d.spares_field before).bind fun x => x.spares_toInt.bind fun _ =>
    (d.spares_field after).bind fun y => y.spares_toInt.bind fun _ => spares_make _ _

theorem Payload.spares_amount (p : Payload) (rule : Text) : Spares (p.amount rule) := by
  unfold amount
  split
  · exact .ok _
  · exact .error rfl

theorem Payload.spares_mapEntry (p : Payload) : Spares p.mapEntry := by
  unfold mapEntry
  split
  · exact (spares_amount _ _).bind fun _ => .ok _
  · exact .error rfl
  · exact .error rfl

namespace RuleKind

theorem spares_encode (k : RuleKind) (p : Payload) : Spares (k.encode p) := by
  cases k with
  | map => exact p.spares_mapEntry.bind fun _ => .ok _
  | _ => exact .ok _

theorem spares_decode (k : RuleKind) (v : Json) : Spares (k.decode v) := by
  cases k with
  | map => exact (Payload.spares_mapEntry _).bind fun _ => .ok _
  | _ => exact .ok _

end RuleKind

theorem spares_encoderOf (rules : List RuleKind) (name : Text) (p : Payload) :
    Spares (encoderOf rules name p) := by
  unfold encoderOf
  cases rules.find? fun k => k.id == name with
  | some k => exact k.spares_encode p
  | none => exact .ok _

theorem spares_decoderOf (rules : List RuleKind) (name : Text) (v : Json) :
    Spares (decoderOf rules name v) := by
  unfold decoderOf
  cases rules.find? fun k => k.id == name with
  | some k => exact k.spares_decode v
  | none => exact .ok _

theorem Update.spares_toJson {encode : Encoder} (h : ∀ p, Spares (encode p)) (u : Update) :
    Spares (u.toJson encode) := (h u.payload).bind fun _ => .ok _

theorem Update.spares_ofJson {decode : Decoder} (h : ∀ v, Spares (decode v)) (d : Json) :
    Spares (ofJson decode d) :=
  (d.spares_field _).bind fun v => (h v).bind fun _ =>
    (Window.spares_ofFields d _ _).bind fun _ => .ok _

theorem Observation.spares_update (o : Observation) : Spares o.update :=
  (Window.spares_make _ _).bind fun _ => .ok _

theorem Observation.spares_written (payload : Json) (o : Observation) :
    Spares (o.written payload) :=
  (Json.spares_writable _).bind fun _ => (Json.spares_writable _).bind fun _ =>
    payload.spares_writable.bind fun _ => o.valueAfter.spares_written.bind fun _ =>
      o.valueBefore.spares_written.bind fun _ => .ok _

namespace Lifetime

/-- The function is opened as a whole: applied to an instant, it would have the kernel round
that instant. -/
theorem binaryEnd_eq : binaryEnd = fun start x => match Binary64.ofInt? start with
    | some y => .ok (y.add x)
    | none => .error .sumOverflow := by
  delta binaryEnd
  funext start x
  generalize Binary64.ofInt? start = rounded
  cases rounded <;> rfl

theorem spares_binaryEnd (start : Int) (x : Binary64) : Spares (binaryEnd start x) := by
  rw [binaryEnd_eq]
  dsimp only
  generalize Binary64.ofInt? start = rounded
  cases rounded with
  | some y => exact .ok _
  | none => exact .error rfl

theorem spares_endsBefore (start now : Int) (l : Lifetime) : Spares (l.endsBefore start now) := by
  cases l with
  | whole s => exact .ok _
  | binary x => exact (spares_binaryEnd _ _).bind fun _ => .ok _

theorem spares_endsBy (start now : Int) (l : Lifetime) : Spares (l.endsBy start now) := by
  cases l with
  | whole s => exact .ok _
  | binary x => exact (spares_binaryEnd _ _).bind fun _ => .ok _

theorem spares_endsAfter (start now : Int) (l : Lifetime) : Spares (l.endsAfter start now) := by
  cases l with
  | whole s => exact .ok _
  | binary x => exact (spares_binaryEnd _ _).bind fun _ => .ok _

theorem spares_keep {α : Type} {test : α → Except Fault Bool} (h : ∀ x, Spares (test x))
    (items : List α) : Spares (keep test items) := by
  induction items with
  | nil => exact .ok []
  | cons x rest ih => exact (h x).bind fun _ => ih.bind fun _ => .ok _

end Lifetime

namespace Rule

variable (r : Rule)

theorem spares_expired (w : Window) (now : Int) : Spares (r.expired w now) :=
  Lifetime.spares_endsBefore _ _ _

theorem spares_lasts (w : Window) (now : Int) : Spares (r.lasts w now) :=
  (r.spares_expired w now).map _

theorem spares_addTo (sum : Json) (p : Payload) : Spares (addTo sum p) := by
  unfold addTo
  split
  · exact .ok _
  · exact Json.spares_plus _ _

theorem spares_carriedSum (sum : Json) (last : Option Window) (now : Int) :
    Spares (r.carriedSum sum last now) := by
  unfold carriedSum
  split
  · exact (r.spares_expired _ _).bind fun _ => .ok _
  · exact .ok _

theorem spares_runningSum (updates : List Update) (sum : Json) (last : Option Window) :
    Spares (r.runningSum sum last updates) := by
  induction updates generalizing sum last with
  | nil => exact .ok _
  | cons u rest ih =>
    exact (r.spares_carriedSum _ _ _).bind fun _ => (spares_addTo _ _).bind fun _ => ih _ _

theorem spares_latestEntries (updates : List Update) : Spares (latestEntries updates) :=
  .bind (.mapM fun u => u.payload.spares_mapEntry.bind fun _ => .ok _) fun _ => .ok _

theorem spares_expected (updates : List Update) (now : Int) :
    Spares (r.expected updates now) := by
  unfold expected
  split
  · unfold expectedValue
    split
    · exact .ok _
    · exact (r.spares_expired _ _).bind fun _ => .ok _
  · exact (Lifetime.spares_keep (fun _ => r.spares_lasts _ _) _).bind fun _ => .ok _
  · exact (spares_latestEntries _).bind fun _ =>
      (Lifetime.spares_keep (fun _ => r.spares_lasts _ _) _).bind fun _ => .ok _
  · refine (r.spares_runningSum _ _ _).bind fun found => ?_
    dsimp only
    split
    · exact .ok _
    · exact (r.spares_expired _ _).bind fun _ => .ok _

theorem spares_verify (previous : List Update) (o : Observation) :
    Spares (r.verify previous o) := by
  refine (r.spares_expected _ _).bind fun v => ?_
  split
  · exact .ok _
  · exact o.spares_update.bind fun _ => (r.spares_expected _ _).bind fun _ => .ok _

theorem spares_observed (v : Json) : Spares (r.observed v) := by
  unfold observed
  split
  · exact .ok _
  · exact .ok _
  · exact v.spares_elements.bind fun _ => .ok _
  · split
    · exact .ok _
    · exact (Json.Dictionary.spares_ofJson _).bind fun _ => .ok _

end Rule

theorem Verification.spares_line (v : Verification) : Spares v.line := by
  refine .bind ?_ fun _ => .ok _
  exact .bind (.mapM fun _ => Update.spares_toJson v.rule.kind.spares_encode _) fun _ =>
    (v.rule.kind.spares_encode _).bind fun _ => (Json.spares_writable _).bind fun _ =>
      (v.observation.spares_written _).bind fun _ => .ok _

/-! ## Files and checkpoints -/

namespace Files

theorem spares_locate (f : Files) (p : Path) : Spares (f.locate p) := by
  unfold locate
  repeat' apply FailsAs.ite
  · exact .error rfl
  · exact .error rfl
  · exact .error rfl
  · exact .mapError fun _ => rfl

theorem spares_read (f : Files) (p : Path) : Spares (f.read p) := by
  refine (f.spares_locate p).bind fun place => ?_
  split
  · exact .error rfl
  · exact .error rfl
  · exact .ok _

theorem spares_find? (f : Files) (p : Path) : Spares (f.find? p) := by
  have hread := f.spares_read p
  unfold find?
  split
  · exact .ok _
  · exact .ok _
  · exact .ok _
  · exact .ok _
  · next e _ _ _ heq => exact .error (hread e heq)

theorem spares_createDirectory (p : Path) : Act.Spares (createDirectory p) := by
  intro f
  have hlocate := f.spares_locate p
  simp only [createDirectory, Act.run]
  split
  · next e heq => exact .error (hlocate e heq)
  · split
    · exact .error rfl
    · exact .ok _

theorem spares_ensureDirectory (p : Path) : Act.Spares (ensureDirectory p) := by
  intro f
  simp only [ensureDirectory, Act.run]
  split
  · exact .ok _
  · exact spares_createDirectory p f

theorem spares_ensureDirectories (root : String) (names : List String) :
    Act.Spares (ensureDirectories root names) := by
  induction names with
  | nil => exact spares_ensureDirectory _
  | cons name above ih =>
    intro f
    have hfirst := spares_ensureDirectory ⟨root, (name :: above).reverse⟩ f
    simp only [ensureDirectories, Act.run] at hfirst ⊢
    split
    · exact (ih.bind fun _ => spares_ensureDirectory _) _
    · exact hfirst

theorem spares_write (p : Path) (text : String) : Act.Spares (write p text) := by
  refine (spares_ensureDirectories _ _).bind fun _ f => ?_
  have hlocate := f.spares_locate p
  simp only [replace, Act.run]
  split
  · next e heq => exact .error (hlocate e heq)
  · split
    · exact .error rfl
    · exact .ok _

end Files

theorem FileContent.spares_read (content : FileContent) : Spares content.read := by
  unfold read
  split
  · exact .ok _
  · split
    · exact .ok _
    · exact .error rfl

theorem FileContent.spares_lines {content : FileContent} {f : Fault}
    (h : content.lines.2 = some f) : f.blamesLine = false := by
  unfold lines at h
  split at h
  · cases h
  · split at h <;> cases h
    rfl

theorem spares_parse (s : List Char) : Spares ((Json.parse s).mapError .malformed) :=
  .mapError fun _ => rfl

namespace History

theorem spares_toJson {encoders : Text → Encoder} (h : ∀ name p, Spares (encoders name p))
    (history : History) : Spares (history.toJson encoders) :=
  .bind (.mapM fun _ => .bind (.mapM fun u => u.spares_toJson (h _)) fun _ => .ok _) fun _ => .ok _

theorem spares_ofJson {decoders : Text → Decoder} (h : ∀ name v, Spares (decoders name v))
    (d : Json) : Spares (ofJson decoders d) :=
  d.spares_members.bind fun _ => .foldlM fun _ _ => (Json.spares_members _).bind fun _ =>
    .foldlM fun _ _ => (Json.spares_elements _).bind fun _ =>
      .foldlM fun _ _ => (Update.spares_ofJson (h _) _).bind fun _ => .ok _

end History

namespace Checkpoint

theorem spares_save (rules : List RuleKind) (history : History) : Spares (save rules history) :=
  .bind ((History.spares_toJson (spares_encoderOf rules) _).bind fun _ => .ok _) fun _ =>
    (Json.spares_writable _).bind fun _ => .ok _

theorem spares_restore (rules : List RuleKind) (path : String) (data : Json) :
    Spares (restore rules path data) := by
  unfold restore
  split
  · refine (Json.spares_toInt _).bind fun found => ?_
    dsimp only
    split
    · exact .error rfl
    · split
      · exact .error rfl
      · exact History.spares_ofJson (spares_decoderOf rules) _
  · exact .error rfl

theorem spares_load (rules : List RuleKind) (path : String) (files : Files) :
    Spares (load rules path files) := by
  refine (files.spares_find? _).bind fun found => ?_
  split
  · exact .ok _
  · exact (FileContent.spares_read _).bind fun _ => (spares_parse _).bind fun _ =>
      spares_restore _ _ _

end Checkpoint
end ExpiryAudit
