import ExpiryAudit.Proofs.ClosedReplay
import ExpiryAudit.Proofs.EventLines
import ExpiryAudit.Proofs.JsonLines
import ExpiryAudit.Proofs.WholeReading
import ExpiryAudit.Service

/-!
# Answers of the service

Which bodies make up a question about a clash, which are refused, and which are not
answered at all. A question is refused whenever its detector, its candidate or its history
cannot be built, unless it fails at an infinite number: that one is not recognized as wrong
input. A scenario is run or refused whatever the body holds. Neither is reached if no value
can be found in the body.
-/
namespace ExpiryAudit

/-! ## Parts of values -/

theorem Json.members_eq_ok_iff {v : Json} {members : List (Text × Json)} :
    v.members = .ok members ↔ v = .obj members := by
  cases v <;> simp [Json.members]

theorem Json.isRejection_of_elements {v : Json} {f : Fault} (h : v.elements = .error f) :
    f.isRejection = true := by
  unfold elements at h
  split at h <;> cases h
  rfl

theorem Json.isWritable_of_elements {v : Json} {items : List Json} (h : v.elements = .ok items)
    (hv : v.isWritable = true) : ∀ item ∈ items, item.isWritable = true := by
  cases v with
  | arr written =>
    cases h
    exact Json.isWritable_arr_iff.1 hv
  | str s =>
    cases h
    intro item hitem
    obtain ⟨c, -, rfl⟩ := List.mem_map.1 hitem
    rfl
  | obj members =>
    cases h
    intro item hitem
    obtain ⟨m, -, rfl⟩ := List.mem_map.1 hitem
    rfl
  | _ => cases h

theorem Json.isWritable_of_field {v x : Json} {name : Text} (h : v.field name = .ok x)
    (hv : v.isWritable = true) : x.isWritable = true := by
  obtain ⟨members, rfl, hfind⟩ := Json.field_eq_ok h
  exact Json.isWritable_obj_iff.1 hv _ (Named.mem_of_find? hfind)

theorem Detector.isRejection_of_make {lifetime : Int} {f : Fault} (h : make lifetime = .error f) :
    f.isRejection = true := by
  unfold make at h
  split at h <;> cases h
  rfl

/-! ## Windows in values -/

/-- The instants of a window are the whole numbers of two fields. -/
structure Json.GivesWindow (v : Json) (w : Window) : Prop where
  before : ∃ b, v.field "before_ts" = .ok b ∧ b.toInt = .ok w.before
  after : ∃ a, v.field "after_ts" = .ok a ∧ a.toInt = .ok w.after

theorem Json.GivesWindow.isWritable {v : Json} {w : Window} (h : v.GivesWindow w)
    (hv : v.isWritable = true) : (Service.windowJson w).isWritable = true := by
  obtain ⟨⟨b, hb, hbefore⟩, a, ha, hafter⟩ := h
  have hb := Json.isWritable_of_toInt hbefore (Json.isWritable_of_field hb hv)
  have ha := Json.isWritable_of_toInt hafter (Json.isWritable_of_field ha hv)
  simp [Service.windowJson, Json.isWritable, Json.areWritableMembers, hb, ha]

/-- A number that is read where a window is needed. -/
inductive Json.InstantOf (v : Json) : Json → Prop
  | before {b : Json} (h : v.field "before_ts" = .ok b) : InstantOf v b
  | after {a : Json} (h : v.field "after_ts" = .ok a) : InstantOf v a

namespace Window

theorem ofFields_eq_ok_iff {v : Json} {w : Window} :
    ofFields v "before_ts" "after_ts" = .ok w ↔ v.GivesWindow w := by
  constructor
  · intro h
    obtain ⟨b, hb, h⟩ := eq_ok_of_bind_eq_ok h
    obtain ⟨before, hbefore, h⟩ := eq_ok_of_bind_eq_ok h
    obtain ⟨a, ha, h⟩ := eq_ok_of_bind_eq_ok h
    obtain ⟨after, hafter, h⟩ := eq_ok_of_bind_eq_ok h
    obtain ⟨rfl, rfl⟩ := make_eq_ok_iff.1 h
    exact ⟨⟨b, hb, hbefore⟩, a, ha, hafter⟩
  · rintro ⟨⟨b, hb, hbefore⟩, a, ha, hafter⟩
    refine bind_eq_ok hb (bind_eq_ok hbefore (bind_eq_ok ha (bind_eq_ok hafter ?_)))
    exact make_eq_ok_iff.2 ⟨rfl, rfl⟩

theorem isRejection_of_make {before after : Int} {f : Fault} (h : make before after = .error f) :
    f.isRejection = true := by
  unfold make at h
  split at h <;> cases h
  rfl

/-- What is no window is wrong input, unless one of its instants is infinite. -/
theorem isRejection_of_ofFields {v : Json} {f : Fault}
    (h : ofFields v "before_ts" "after_ts" = .error f) :
    f.isRejection = true ∨ f = .infiniteNumber ∧ ∃ x, v.InstantOf x ∧ x.IsInfinite := by
  rcases eq_error_of_bind_eq_error h with h | ⟨b, hb, h⟩
  · exact .inl (Json.isRejection_of_field h)
  rcases eq_error_of_bind_eq_error h with h | ⟨before, -, h⟩
  · exact (Json.isRejection_of_toInt h).imp_right fun h => ⟨h.1, b, .before hb, h.2⟩
  rcases eq_error_of_bind_eq_error h with h | ⟨a, ha, h⟩
  · exact .inl (Json.isRejection_of_field h)
  rcases eq_error_of_bind_eq_error h with h | ⟨after, -, h⟩
  · exact (Json.isRejection_of_toInt h).imp_right fun h => ⟨h.1, a, .after ha, h.2⟩
  · exact .inl (isRejection_of_make h)

end Window

/-! ## Questions about a clash -/

namespace Service

/-- The windows that a history is read from; none if there is no history. -/
def writtenHistory (members : List (Text × Json)) : Json :=
  (Named.find? members "history").getD (.arr [])

/-- A value makes up a question: all its parts can be built. -/
structure ClashQuery.BuiltFrom (q : ClashQuery) (data : Json) : Prop where
  detector : ∃ v, data.field "ttl_ms" = .ok v ∧ v.toInt = .ok q.detector.lifetime
  candidate : ∃ v, data.field "candidate" = .ok v ∧ v.GivesWindow q.candidate
  history : ∃ members written, data = .obj members ∧
    (writtenHistory members).elements = .ok written ∧
    List.Forall₂ Json.GivesWindow written q.history

/-- A number that is read where a question is needed. -/
inductive NumberOf (data : Json) : Json → Prop
  | lifetime {v : Json} (h : data.field "ttl_ms" = .ok v) : NumberOf data v
  | candidate {c v : Json} (h : data.field "candidate" = .ok c) (hv : c.InstantOf v) :
      NumberOf data v
  | history {members : List (Text × Json)} {written : List Json} {w v : Json}
      (h : data = .obj members) (hwritten : (writtenHistory members).elements = .ok written)
      (hw : w ∈ written) (hv : w.InstantOf v) : NumberOf data v

namespace ClashQuery

theorem ofJson_eq_ok_iff {data : Json} {q : ClashQuery} :
    ofJson data = .ok q ↔ q.BuiltFrom data := by
  constructor
  · intro h
    obtain ⟨ttl, httl, h⟩ := eq_ok_of_bind_eq_ok h
    obtain ⟨lifetime, hlifetime, h⟩ := eq_ok_of_bind_eq_ok h
    obtain ⟨d, hd, h⟩ := eq_ok_of_bind_eq_ok h
    obtain ⟨c, hc, h⟩ := eq_ok_of_bind_eq_ok h
    obtain ⟨candidate, hcandidate, h⟩ := eq_ok_of_bind_eq_ok h
    obtain ⟨members, hmembers, h⟩ := eq_ok_of_bind_eq_ok h
    obtain ⟨written, hwritten, h⟩ := eq_ok_of_bind_eq_ok h
    obtain ⟨history, hhistory, h⟩ := eq_ok_of_bind_eq_ok h
    obtain rfl := Except.ok.inj h
    exact ⟨⟨ttl, httl, Detector.make_eq_ok_iff.1 hd ▸ hlifetime⟩,
      ⟨c, hc, Window.ofFields_eq_ok_iff.1 hcandidate⟩,
      members, written, Json.members_eq_ok_iff.1 hmembers, hwritten,
      (mapM_eq_ok_iff.1 hhistory).imp fun _ _ => Window.ofFields_eq_ok_iff.1⟩
  · rintro ⟨⟨ttl, httl, hlifetime⟩, ⟨c, hc, hcandidate⟩, members, written, hmembers, hwritten,
      hhistory⟩
    have hall : written.mapM (fun w => Window.ofFields w "before_ts" "after_ts") =
        .ok q.history :=
      mapM_eq_ok_iff.2 (hhistory.imp fun _ _ => Window.ofFields_eq_ok_iff.2)
    refine bind_eq_ok httl (bind_eq_ok hlifetime (bind_eq_ok (Detector.make_eq_ok_iff.2 rfl) ?_))
    refine bind_eq_ok hc (bind_eq_ok (Window.ofFields_eq_ok_iff.2 hcandidate) ?_)
    exact bind_eq_ok (Json.members_eq_ok_iff.2 hmembers) (bind_eq_ok hwritten (bind_eq_ok hall rfl))

/-- A question that cannot be built is wrong input, unless one of its numbers is infinite. -/
theorem isRejection_of_ofJson {data : Json} {f : Fault} (h : ofJson data = .error f) :
    f.isRejection = true ∨ f = .infiniteNumber ∧ ∃ v, NumberOf data v ∧ v.IsInfinite := by
  rcases eq_error_of_bind_eq_error h with h | ⟨ttl, httl, h⟩
  · exact .inl (Json.isRejection_of_field h)
  rcases eq_error_of_bind_eq_error h with h | ⟨lifetime, -, h⟩
  · exact (Json.isRejection_of_toInt h).imp_right fun h => ⟨h.1, ttl, .lifetime httl, h.2⟩
  rcases eq_error_of_bind_eq_error h with h | ⟨d, -, h⟩
  · exact .inl (Detector.isRejection_of_make h)
  rcases eq_error_of_bind_eq_error h with h | ⟨c, hc, h⟩
  · exact .inl (Json.isRejection_of_field h)
  rcases eq_error_of_bind_eq_error h with h | ⟨candidate, -, h⟩
  · refine (Window.isRejection_of_ofFields h).imp_right fun h => ⟨h.1, ?_⟩
    obtain ⟨v, hv, hinfinite⟩ := h.2
    exact ⟨v, .candidate hc hv, hinfinite⟩
  obtain ⟨members, rfl, -⟩ := Json.field_eq_ok hc
  rcases eq_error_of_bind_eq_error h with h | ⟨others, hothers, h⟩
  · cases h
  obtain rfl := Except.ok.inj hothers
  rcases eq_error_of_bind_eq_error h with h | ⟨written, hwritten, h⟩
  · exact .inl (Json.isRejection_of_elements h)
  rcases eq_error_of_bind_eq_error h with h | ⟨history, -, h⟩
  · obtain ⟨w, hw, h⟩ := exists_of_mapM_eq_error h
    refine (Window.isRejection_of_ofFields h).imp_right fun h => ⟨h.1, ?_⟩
    obtain ⟨v, hv, hinfinite⟩ := h.2
    exact ⟨v, .history rfl hwritten hw hv, hinfinite⟩
  · cases h

/-- An earlier window of a question is given by an item of the history in the body. -/
theorem BuiltFrom.exists_of_mem {data : Json} {q : ClashQuery} (h : q.BuiltFrom data) {w : Window}
    (hw : w ∈ q.history) : ∃ members written v, data = .obj members ∧
      (writtenHistory members).elements = .ok written ∧ v ∈ written ∧ v.GivesWindow w := by
  obtain ⟨members, written, hmembers, hwritten, hall⟩ := h.history
  have hread : written.mapM (fun w => Window.ofFields w "before_ts" "after_ts") = .ok q.history :=
    mapM_eq_ok_iff.2 (hall.imp fun _ _ => Window.ofFields_eq_ok_iff.2)
  obtain ⟨v, hv, hgives⟩ := exists_of_mem_mapM hread hw
  exact ⟨members, written, v, hmembers, hwritten, hv, Window.ofFields_eq_ok_iff.1 hgives⟩

/-- A clash is told with instants that the body has given, so it can be written. -/
theorem isWritable_answer {data : Json} {q : ClashQuery} (h : q.BuiltFrom data)
    (hdata : data.isWritable = true) : q.answer.isWritable = true := by
  have hwindow : ∀ w ∈ q.history, (windowJson w).isWritable = true := by
    intro w hw
    obtain ⟨members, written, v, rfl, hwritten, hv, hgives⟩ := h.exists_of_mem hw
    have hhistory : (writtenHistory members).isWritable = true := by
      unfold writtenHistory
      cases hfind : Named.find? members "history" with
      | none => rfl
      | some v => exact Json.isWritable_obj_iff.1 hdata _ (Named.mem_of_find? hfind)
    exact hgives.isWritable (Json.isWritable_of_elements hwritten hhistory v hv)
  have hjudged : ∀ w, q.detector.judge q.candidate q.history = .clash w → w ∈ q.history := by
    intro w hw
    unfold Detector.judge at hw
    split at hw
    · cases hw
    · split at hw
      · next found hfound =>
        cases hw
        exact List.mem_of_find?_eq_some hfound
      · cases hw
  unfold answer
  cases hverdict : q.detector.judge q.candidate q.history with
  | clash w =>
    have hw := hwindow w (hjudged w hverdict)
    simp [Json.isWritable, Json.areWritableMembers, hw]
  | clean => rfl
  | tooSlow => rfl

end ClashQuery

/-! ## Bodies -/

theorem isWritable_dataOf {found : Json} (h : found.isWritable = true) :
    (dataOf found).isWritable = true := by
  unfold dataOf
  split
  · exact h
  · rfl

/-! ## Scenarios -/

theorem exists_of_runTooSlow {params : Scenario.Params} {v : Json}
    (h : Scenario.runTooSlow params = .ok v) : ∃ members, v = .obj members := by
  obtain ⟨d, -, h⟩ := eq_ok_of_bind_eq_ok h
  obtain ⟨w, -, h⟩ := eq_ok_of_bind_eq_ok h
  obtain ⟨text, -, h⟩ := eq_ok_of_bind_eq_ok h
  exact ⟨_, (Except.ok.inj h).symm⟩

theorem exists_of_runOverlap {params : Scenario.Params} {v : Json}
    (h : Scenario.runOverlap params = .ok v) : ∃ members, v = .obj members := by
  obtain ⟨d, -, h⟩ := eq_ok_of_bind_eq_ok h
  obtain ⟨earlier, -, h⟩ := eq_ok_of_bind_eq_ok h
  obtain ⟨w, -, h⟩ := eq_ok_of_bind_eq_ok h
  obtain ⟨text, -, h⟩ := eq_ok_of_bind_eq_ok h
  exact ⟨_, (Except.ok.inj h).symm⟩

/-- A scenario that runs reports an object. -/
theorem exists_of_run {s : Scenario} {params : Scenario.Params} {v : Json}
    (h : s.run params = .ok v) : ∃ members, v = .obj members := by
  cases s with
  | tooSlow => exact exists_of_runTooSlow h
  | overlap => exact exists_of_runOverlap h
  | sequence =>
    obtain ⟨_, _, _, _, -, -, -, rfl⟩ := Scenario.runSequence_eq_ok_iff.1 h
    exact ⟨_, rfl⟩

/-- A request to run a scenario is answered with an object, whatever the body holds. -/
theorem runTest_answers (data : Json) :
    ((runTest data).status = 200 ∨ (runTest data).status = 400) ∧
      ∃ members, (runTest data).json = .obj members := by
  unfold runTest
  split
  · dsimp only
    split
    · split
      · next s _ =>
        unfold runScenario
        split
        · next v hrun => exact ⟨.inl rfl, exists_of_run hrun⟩
        · exact ⟨.inl rfl, _, rfl⟩
      · exact ⟨.inr rfl, _, rfl⟩
    · exact ⟨.inr rfl, _, rfl⟩
  · exact ⟨.inr rfl, _, rfl⟩

/-! ## Answers -/

/-- How a question about a clash is answered: 200 if it can be built; 400 if it cannot, for
any reason but an infinite number; not at all otherwise. -/
structure ClashAnswered (data : Json) (answer : Response) : Prop where
  status : answer.status = 200 ∨ answer.status = 400 ∨ answer.status = 500
  built : answer.status = 200 ↔ ∃ q : ClashQuery, q.BuiltFrom data
  failed : answer.status = 500 ↔ ClashQuery.ofJson data = .error .infiniteNumber
  infinite : answer.status = 500 → answer.json = .null ∧ ∃ v, NumberOf data v ∧ v.IsInfinite
  json : answer.status ≠ 500 → ∃ members, answer.json = .obj members
  /-- Numbers that can be read from a body are not too long to be told. -/
  writable : data.isWritable = true → answer.json.isWritable = true

theorem checkClash_answers (data : Json) : ClashAnswered data (checkClash data) := by
  unfold checkClash
  cases h : ClashQuery.ofJson data with
  | ok q =>
    have hbuilt := ClashQuery.ofJson_eq_ok_iff.1 h
    exact {
      status := .inl rfl
      built := iff_of_true rfl ⟨q, hbuilt⟩
      failed := iff_of_false (by simp) (by simp [h])
      infinite := fun h => absurd h (by simp)
      json := fun _ => ⟨_, rfl⟩
      writable := ClashQuery.isWritable_answer hbuilt }
  | error f =>
    have hnone : ¬∃ q : ClashQuery, q.BuiltFrom data := by
      rintro ⟨q, hq⟩
      rw [ClashQuery.ofJson_eq_ok_iff.2 hq] at h
      cases h
    dsimp only
    rcases ClashQuery.isRejection_of_ofJson h with hrejection | ⟨rfl, hinfinite⟩
    · have hne : f ≠ .infiniteNumber := by
        rintro rfl
        cases hrejection
      rw [if_pos hrejection]
      exact {
        status := .inr (.inl rfl)
        built := iff_of_false (by simp [failure]) hnone
        failed := iff_of_false (by simp [failure]) (by simpa [h] using hne)
        infinite := fun h => absurd h (by simp [failure])
        json := fun _ => ⟨_, rfl⟩
        writable := fun _ => rfl }
    · exact {
        status := .inr (.inr rfl)
        built := iff_of_false (by decide) hnone
        failed := iff_of_true rfl h
        infinite := fun _ => ⟨rfl, hinfinite⟩
        json := fun hne => absurd rfl hne
        writable := fun _ => rfl }

/-- Whatever value is found in a body, it is answered: a request to run a scenario with 200 or
400 and an object, a question about a clash with 200 if it can be built and with 400 if it
cannot, unless it fails at an infinite number. That number is left without an answer, and so is
a body in which finding a value fails. -/
theorem posted_bodies_answered (found : Except Fault Json) :
    (∀ v, found = .ok v →
      (((answerBody found runTest).status = 200 ∨ (answerBody found runTest).status = 400) ∧
        ∃ members, (answerBody found runTest).json = .obj members) ∧
      ClashAnswered (dataOf v) (answerBody found checkClash)) ∧
    ∀ f, found = .error f →
      answerBody found runTest = empty 500 ∧ answerBody found checkClash = empty 500 := by
  refine ⟨?_, ?_⟩
  · rintro v rfl
    exact ⟨runTest_answers (dataOf v), checkClash_answers (dataOf v)⟩
  · rintro f rfl
    exact ⟨rfl, rfl⟩

/-- A question about a clash whose lifetime is infinite. -/
def infiniteLifetime : Json :=
  .obj [("ttl_ms", .float (.infinity false)),
    ("candidate", .obj [("before_ts", .int 0), ("after_ts", .int 1)])]

theorem posted_bodies_answered_of_infinite_lifetime :
    let answer := answerBody (.ok infiniteLifetime) checkClash
    Json.parse (infiniteLifetime.write .spaced) = .ok infiniteLifetime ∧
      ClashAnswered infiniteLifetime answer ∧ answer.status = 500 ∧
      ∃ v, NumberOf infiniteLifetime v ∧ v.IsInfinite := by
  intro answer
  have hrestored : Json.Restored Json.depthLimit infiniteLifetime := by
    have hzero : Text.isWritable 0 = true := by decide +kernel
    have hone : Text.isWritable 1 = true := by decide +kernel
    refine .obj (by simp [Named.Distinct]) (List.forall_mem_cons.2
      ⟨.float, List.forall_mem_singleton.2 (.obj (by simp [Named.Distinct]) ?_)⟩)
    exact List.forall_mem_cons.2 ⟨.int hzero, List.forall_mem_singleton.2 (.int hone)⟩
  have hanswered : ClashAnswered infiniteLifetime answer :=
    ((posted_bodies_answered (.ok infiniteLifetime)).1 _ rfl).2
  exact ⟨hrestored.parse_write, hanswered, rfl, (hanswered.infinite rfl).2⟩

/-- A value that has been found need not be answered with 200 or 400. -/
theorem infinite_lifetime_not_answered :
    ¬∀ v, (answerBody (.ok v) checkClash).status = 200 ∨
      (answerBody (.ok v) checkClash).status = 400 := by
  intro hall
  have hstatus : (answerBody (.ok infiniteLifetime) checkClash).status = 500 := rfl
  have hanswered := hall infiniteLifetime
  omega

end Service
end ExpiryAudit
