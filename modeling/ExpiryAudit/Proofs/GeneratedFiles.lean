import ExpiryAudit.Proofs.BlamedLines
import ExpiryAudit.Proofs.GeneratedEvents
import ExpiryAudit.Proofs.RefusedLine
import ExpiryAudit.Proofs.RunReport
import ExpiryAudit.Proofs.TidyPaths

/-!
# Files of random events

A file of random events has as many lines as were ordered, and every auditor with rules for
which there are payloads accepts all of them, so a run over the file blames no line. An order
for less than no events or for no keys is refused before anything is written.
-/
namespace ExpiryAudit

/-! ## Texts -/

namespace Json

theorem exists_writeMembers_eq (sep : Separators) (members : List (Text × Json)) :
    ∃ s, writeMembers sep members = s ++ ['}'] := by
  induction members with
  | nil => exact ⟨[], rfl⟩
  | cons m rest ih =>
    obtain ⟨name, v⟩ := m
    cases rest with
    | nil => exact ⟨_, rfl⟩
    | cons next rest =>
      obtain ⟨s, hs⟩ := ih
      rw [writeMembers, hs, ← List.append_assoc]
      exact ⟨_, rfl⟩

/-- The line of an object goes from brace to brace. -/
theorem exists_line_obj_eq (members : List (Text × Json)) :
    ∃ s, (obj members).line.toList = '{' :: s ++ ['}'] := by
  rw [line, String.toList_ofList, sorted_obj, write]
  obtain ⟨s, hs⟩ := exists_writeMembers_eq .spaced
    ((members.map fun m => (m.1, m.2.sorted)).mergeSort byName)
  exact ⟨s, by rw [hs, List.cons_append]⟩

end Json

theorem Text.strip_eq {class? : Char → Bool} {c d : Char} (hc : class? c = false)
    (hd : class? d = false) (s : List Char) : strip class? (c :: s ++ [d]) = c :: s ++ [d] := by
  simp [strip, hc, hd]

/-- Everything in the first of two related lists is related to something. -/
theorem exists_of_mem_forall₂ {α β : Type} {R : α → β → Prop} {xs : List α} {ys : List β}
    (h : List.Forall₂ R xs ys) {x : α} (hx : x ∈ xs) : ∃ y, R x y := by
  induction h with
  | nil => cases hx
  | cons hfirst _ ih =>
    rcases List.mem_cons.1 hx with rfl | hx
    · exact ⟨_, hfirst⟩
    · exact ih hx

namespace Generated

variable {keys : Nat} {rules : List RuleKind} {line : String} {e : Event} {lines : List String}
  {events : List Event}

theorem not_mem (h : Generated keys rules line e) {c : Char} (hc : ¬Json.IsPlain c) :
    c ∉ line.toList := by
  rw [h.written, Json.line, String.toList_ofList]
  exact fun hmem => hc (Json.isPlain_write _ c hmem)

theorem ne_nil (h : Generated keys rules line e) : line.toList ≠ [] := by
  obtain ⟨s, hs⟩ := Json.exists_line_obj_eq [("key", .str e.key), ("updates", e.updates)]
  rw [h.written, Event.toJson, hs]
  exact List.cons_ne_nil _ _

theorem strip_eq (h : Generated keys rules line e) :
    Text.strip Text.isBlank line.toList = line.toList := by
  obtain ⟨s, hs⟩ := Json.exists_line_obj_eq [("key", .str e.key), ("updates", e.updates)]
  rw [h.written, Event.toJson, hs]
  exact Text.strip_eq (by decide) (by decide) s

/-- The lines of a file are those that were written. -/
theorem lines_linesText (h : List.Forall₂ (Generated keys rules) lines events) :
    Text.lines (Batch.linesText lines).toList = lines.map String.toList := by
  have hfree : '\r' ∉ (Batch.linesText lines).toList := by
    rw [Batch.linesText, String.toList_ofList, List.mem_flatMap]
    rintro ⟨line, hline, hmem⟩
    obtain ⟨e, he⟩ := exists_of_mem_forall₂ h hline
    rcases List.mem_append.1 hmem with hmem | hmem
    · exact he.not_mem (by decide) hmem
    · cases List.mem_singleton.1 hmem
  rw [Text.lines, Text.unifyLineEnds_of_not_mem hfree, Batch.splitLines_linesText fun line hline =>
    (exists_of_mem_forall₂ h hline).elim fun e he => he.not_mem (by decide), List.map_map]
  refine List.map_congr_left fun line hline => ?_
  obtain ⟨e, he⟩ := exists_of_mem_forall₂ h hline
  exact he.strip_eq

variable {σ : Type} {a : Auditor σ}

theorem isEventFor (h : Generated keys rules line e) {others : List Rule}
    (hothers : ∀ r ∈ others, r.kind ∈ rules) : IsEventFor others line.toList := by
  obtain ⟨d, hparsed, hevent⟩ := h.parsed
  obtain ⟨members, updates, rfl, hkey, hupdates, he⟩ := Event.ofJson_eq_ok_iff.1 hevent
  obtain ⟨supplied, he', hsupplies⟩ := h.supplies
  cases he.symm.trans he'
  exact ⟨members, e.key, updates, hparsed, hkey, e.key_ne_empty, hupdates,
    fun r hr => hsupplies.exists_find? (hothers r hr)⟩

/-- An auditor with rules for which there are payloads accepts the event. -/
theorem exists_prepare (h : Generated keys rules line e) (ha : ∀ r ∈ a.rules, r.kind ∈ rules) :
    ∃ raws, a.prepare e = .ok raws := by
  obtain ⟨members, he, hsupplies⟩ := h.supplies
  exact (Auditor.exists_prepare_iff he).2 fun r hr => hsupplies.exists_find? (ha r hr)

theorem readEvent_eq (h : Generated keys rules line e) (ha : ∀ r ∈ a.rules, r.kind ∈ rules) :
    a.readEvent line.toList = .ok e := by
  obtain ⟨d, hparsed, hevent⟩ := h.parsed
  obtain ⟨raws, hraws⟩ := h.exists_prepare ha
  simp only [Auditor.readEvent, hparsed, Except.mapError, hevent, hraws, bind, Except.bind, pure,
    Except.pure]

/-- A file of random events is processed as the events that it was written from. -/
theorem processFile_eq (h : List.Forall₂ (Generated keys rules) lines events)
    (ha : ∀ r ∈ a.rules, r.kind ∈ rules) :
    a.processFile (.text (Batch.linesText lines)) = a.processAll events := by
  rw [Batch.processFile_text, lines_linesText h]
  refine Auditor.processLines_eq_processAll (mapM_eq_ok_iff.2 ?_) 1
  have hkept : ((lines.map String.toList).filter fun l => !l.isEmpty) = lines.map String.toList := by
    refine List.filter_eq_self.2 fun l hl => ?_
    obtain ⟨line, hline, rfl⟩ := List.mem_map.1 hl
    obtain ⟨e, he⟩ := exists_of_mem_forall₂ h hline
    simpa using he.ne_nil
  rw [hkept, List.forall₂_map_left_iff]
  exact h.imp fun line e he => he.readEvent_eq ha

/-- A run that reads a file of random events blames none of its lines. -/
theorem unblamed {b : Batch} {env : Environment σ}
    (h : List.Forall₂ (Generated keys rules) lines events)
    (hb : ∀ r ∈ b.rules, r.kind ∈ rules) (henv : env.Spares) {w w' : Workspace σ}
    (hread : ∀ path content, b.events = some path → w.files.read (.written path) = .ok content →
      content = .text (Batch.linesText lines))
    {f : Fault} (hrun : (b.run env).run w = (.error f, w')) : f.blamesLine = false := by
  by_contra hblames
  obtain ⟨path, content, i, line, message, hpath, hcontent, hline, -, hrefused, -⟩ :=
    Batch.refused_of_run_error henv hrun (by simpa using hblames)
  obtain rfl := hread path content hpath hcontent
  rw [FileContent.lines, lines_linesText h] at hline
  obtain ⟨l, hl, rfl⟩ := List.mem_map.1 (List.mem_of_getElem? hline)
  obtain ⟨e, he⟩ := exists_of_mem_forall₂ h hl
  exact hrefused (he.isEventFor hb)

end Generated

/-! ## Orders -/

/-- The least number and the first text, always. -/
def Randomness.least : Randomness Unit where
  between low _ g := (low, g)
  choose options g := (options[0]?.getD "", g)

theorem Randomness.fair_least : least.Fair where
  between low high g h := ⟨le_rfl, h⟩
  choose options g h := by
    change options[0]?.getD "" ∈ options
    rw [Array.getElem?_eq_getElem h]
    exact Array.getElem_mem h

namespace Generator

variable {γ σ : Type}

/-- Writes a file of random events from any source. Nothing is written when anything is
refused. -/
def write (source : Randomness γ) (g : γ) (path : String) (count keys : Int)
    (rules : List RuleKind) : Act (Workspace σ) Unit := do
  let lines ← Act.lift (generate source g count keys rules)
  Workspace.writeFile path (Batch.linesText lines)

/-- An order in which nothing was left blank is carried out with the twister of its seed. -/
theorem carryOut_eq_write (path : String) (count seed keys : Int) (rules : List RuleKind) :
    (Order.carryOut ⟨some path, some count, some seed, some keys⟩ rules : Act (Workspace σ) Unit) =
      write .twister (Twister.ofSeed seed) path count keys rules := rfl

section Write

variable {source : Randomness γ} {g : γ} {path : String} {count keys : Int}
  {rules : List RuleKind} {w w' : Workspace σ}

/-- An order for less than no events or for no keys is refused. -/
theorem run_write_refused (h : count < 0 ∨ keys ≤ 0) :
    ∃ f, (write source g path count keys rules).run w = (.error f, w) ∧ f.kind = .value := by
  obtain ⟨f, hf, hkind⟩ : ∃ f, generate source g count keys rules = .error f ∧ f.kind = .value := by
    by_cases hcount : count < 0
    · exact ⟨.eventCount count, by rw [generate, eventCount, if_pos hcount]; rfl, rfl⟩
    · have hkeys : keys ≤ 0 := h.resolve_left hcount
      refine ⟨.keyCount keys, ?_, rfl⟩
      rw [generate, eventCount, if_neg hcount, keyCount, if_pos hkeys]
      rfl
  refine ⟨f, ?_, hkind⟩
  rw [write, Act.run_bind_error (by rw [hf, Act.run_lift])]

/-- What comes of an order that is not refused: a file with one line for every event, each of
which everyone takes who has no other rules. -/
structure Delivers (source : Randomness γ) (g : γ) (path : String) (count keys : Int)
    (rules : List RuleKind) (w : Workspace σ) (lines : List String) (events : List Event) :
    Prop where
  length : (lines.length : Int) = count
  generated : List.Forall₂ (Generated keys.toNat rules) lines events
  lines_eq : Text.lines (Batch.linesText lines).toList = lines.map String.toList
  /-- Nothing but the file itself can be in the way. -/
  run : (write source g path count keys rules).run w =
    (Workspace.writeFile path (Batch.linesText lines)).run w
  stored : ∀ w', (write source g path count keys rules).run w = (.ok (), w') →
    w'.files.read (.tidy path) = .ok (.text (Batch.linesText lines))
  prepared : ∀ {τ : Type} (a : Auditor τ), (∀ r ∈ a.rules, r.kind ∈ rules) →
    ∀ e ∈ events, ∃ raws, a.prepare e = .ok raws
  processed : ∀ {τ : Type} (a : Auditor τ), (∀ r ∈ a.rules, r.kind ∈ rules) →
    a.processFile (.text (Batch.linesText lines)) = a.processAll events
  /-- A run over the file blames no line of it. -/
  unblamed : ∀ w', (write source g path count keys rules).run w = (.ok (), w') →
    ∀ {τ : Type} (b : Batch) (env : Environment τ) (v : Workspace τ), b.events = some path →
      v.files = w'.files → (∀ r ∈ b.rules, r.kind ∈ rules) → env.Spares →
      ∀ number message v', (b.run env).run v ≠ (.error (.event number message), v')

theorem exists_delivers (hsource : source.Fair) (hrules : rules.Nodup) (hcount : 0 ≤ count)
    (hkeys : 0 < keys) (g : γ) (path : String) (w : Workspace σ) :
    ∃ lines events, Delivers source g path count keys rules w lines events := by
  obtain ⟨lines, events, hlines, hlength, hevents⟩ := exists_eventLines hsource hrules
    (show 0 < keys.toNat by omega) count.toNat [] g
  have hgenerate : generate source g count keys rules = .ok lines := by
    rw [generate, eventCount, if_neg (by omega), keyCount, if_neg (by omega)]
    exact hlines
  have hrun : (write source g path count keys rules).run w =
      (Workspace.writeFile path (Batch.linesText lines)).run w := by
    rw [write, hgenerate]
    rfl
  have hstored : ∀ w', (write source g path count keys rules).run w = (.ok (), w') →
      w'.files.read (.tidy path) = .ok (.text (Batch.linesText lines)) := by
    intro w' hw'
    rw [hrun] at hw'
    obtain ⟨files, hwrite, rfl⟩ := Workspace.run_writeFile_ok hw'
    exact Files.read_of_store hwrite
  refine ⟨lines, events, by omega, hevents, Generated.lines_linesText hevents, hrun, hstored,
    fun a ha e he => ?_, fun a ha => Generated.processFile_eq hevents ha,
    fun w' hw' τ b env v hpath hfiles hb henv number message v' hv' => ?_⟩
  · obtain ⟨line, hline⟩ := exists_of_mem_forall₂ hevents.flip he
    exact hline.exists_prepare ha
  · have hread : ∀ path content, b.events = some path → v.files.read (.written path) = .ok content →
        content = .text (Batch.linesText lines) := by
      intro place content hplace hcontent
      cases hpath.symm.trans hplace
      rw [hfiles] at hcontent
      exact Files.eq_of_read_written (hstored w' hw') hcontent
    cases Generated.unblamed hevents hb henv hread hv'

end Write

/-- An order for less than no events or for no keys is refused and nothing is touched. Any other
one comes to a file of as many events, one on each line, each for a key of the pool and with a
payload for exactly the rules; every auditor with these rules accepts them all, and no run over
the file fails because a line is no event. All this holds whatever a fair source chooses, and the
twister, with which orders are carried out, is fair. -/
theorem generated_files_accepted {source : Randomness γ} (hsource : source.Fair)
    {rules : List RuleKind} (hrules : rules.Nodup) (g : γ) (path : String) (count keys : Int)
    (w : Workspace σ) :
    (count < 0 ∨ keys ≤ 0 →
      ∃ f, (write source g path count keys rules).run w = (.error f, w) ∧ f.kind = .value) ∧
    (0 ≤ count → 0 < keys →
      ∃ lines events, Delivers source g path count keys rules w lines events) ∧
    Randomness.twister.Fair ∧ ∀ seed,
      (Order.carryOut ⟨some path, some count, some seed, some keys⟩ rules :
        Act (Workspace σ) Unit) = write .twister (Twister.ofSeed seed) path count keys rules :=
  ⟨run_write_refused, fun hcount hkeys => exists_delivers hsource hrules hcount hkeys g path w,
    Randomness.fair_twister, fun seed => carryOut_eq_write path count seed keys rules⟩

/-- Two events of the least choices are delivered, and a faithful store is audited over them to
the end. -/
theorem generated_files_accepted_of_two_events :
    Randomness.least.Fair ∧ [RuleKind.map, .value].Nodup ∧
      let line := "\x7b\"key\": \"key-0\", \"updates\": " ++
        "\x7b\"map\": [\"a\", 0], \"value\": 0\x7d\x7d"
      let config : Config := ⟨.ofInt 1000 (by decide), .ofInt 1000 (by decide)⟩
      let rules : List Rule :=
        [⟨.value, .whole (.ofInt 1000 (by decide))⟩, ⟨.map, .whole (.ofInt 1000 (by decide))⟩]
      let b : Batch := ⟨some "a", some "lines", none, rules, config⟩
      let env := Behaviour.faithful.environment
      let w : Workspace (TimeSource × Tables) := ⟨(.stepping 0 1, .empty), .empty, .lenient⟩
      let w' := ((Workspace.writeFile "a" (Batch.linesText [line, line])).run w).2
      (write Randomness.least () "a" 2 3 [.map, .value]).run w = (.ok (), w') ∧
      (∃ lines events, Delivers Randomness.least () "a" 2 3 [.map, .value] w lines events) ∧
      (∀ number message v', (b.run env).run w' ≠ (.error (.event number message), v')) ∧
      ((b.run env).run w').1 = .ok 0 ∧
      ∃ f, (write Randomness.least () "a" 2 0 [.map, .value]).run w = (.error f, w) ∧
        f.kind = .value := by
  have hrules : [RuleKind.map, .value].Nodup := by decide
  refine ⟨Randomness.fair_least, hrules, ?_⟩
  intro line config rules b env w w'
  let members : List (Text × Json) := [("map", .arr [.str "a", .int 0]), ("value", .int 0)]
  let v : Json := .obj [("key", .str "key-0"), ("updates", .obj members)]
  have hmembers : (Json.obj members).sorted = .obj members :=
    Json.InOrder.sorted_obj (List.pairwise_pair.2 (by decide))
  have hline : v.line = line := by
    rw [line_eq_of_sorted_eq hmembers]
    decide +kernel
  have hkey : Randomness.least.choose (keyPool 3) () = ("key-0", ()) :=
    Prod.ext (by decide +kernel) rfl
  have hevent : event Randomness.least (keyPool 3) [.map, .value] () =
      .ok (v, ()) := by
    rw [event, hkey]
    rfl
  have hgenerate : generate Randomness.least () 2 3 [.map, .value] = .ok [line, line] := by
    rw [← hline]
    exact bind_eq_ok rfl (bind_eq_ok rfl (bind_eq_ok hevent (bind_eq_ok hevent rfl)))
  have hwritten : (write Randomness.least () "a" 2 3 [.map, .value]).run w = (.ok (), w') := by
    rw [write, hgenerate]
    rfl
  have hrefused := (generated_files_accepted Randomness.fair_least hrules () "a" 2 0 w).1
    (.inr le_rfl)
  obtain ⟨lines, events, hdelivers⟩ :=
    (generated_files_accepted Randomness.fair_least hrules () "a" 2 3 w).2.1 (by decide) (by decide)
  have hkinds : ∀ r ∈ b.rules, r.kind ∈ [RuleKind.map, .value] := by decide
  have hspares : env.Spares := Behaviour.spares_environment _
  exact ⟨hwritten, ⟨lines, events, hdelivers⟩,
    hdelivers.unblamed w' hwritten b env w' rfl rfl hkinds hspares,
    eq_ok_of_toOption_eq_some (by decide +kernel), hrefused⟩

end Generator
end ExpiryAudit
