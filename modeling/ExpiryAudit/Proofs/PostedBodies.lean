import ExpiryAudit.Proofs.JsonShape
import ExpiryAudit.Service.Request

/-!
# Posted bodies

A request that posts a body to a route of the service gets the answer to what is found in the
body. That is a value without numbers that have too many digits, unless the containers of the
body are too deep.
-/
namespace ExpiryAudit.Service

/-! ## What is found -/

theorem kind_of_malformed {problem : Json.Malformed}
    (h : (Fault.malformed problem).isRejection = false) :
    (Fault.malformed problem).kind = .nesting := by
  obtain ⟨problem, line, column, position⟩ := problem
  cases problem with
  | nesting container => rfl
  | _ => cases h

/-- A body is taken for no JSON, unless its containers are too deep. -/
theorem readBody_cases (body : List UInt8) :
    (∃ v, readBody body = .ok v ∧ v.isWritable = true) ∨
      ∃ f, readBody body = .error f ∧ f.kind = .nesting := by
  unfold readBody
  split
  · exact .inl ⟨.null, rfl, rfl⟩
  split
  · next v hparse => exact .inl ⟨v, rfl, (Json.restored_of_parse hparse).isWritable⟩
  split
  · exact .inl ⟨.null, rfl, rfl⟩
  · next hrejection => exact .inr ⟨_, rfl, kind_of_malformed (Bool.eq_false_iff.2 hrejection)⟩

theorem foundIn_cases (r : Request) :
    (∃ v, foundIn r = .ok v ∧ v.isWritable = true) ∨
      ∃ f, foundIn r = .error f ∧ f.kind = .nesting := by
  unfold foundIn
  split
  · next body _ =>
    split
    · exact readBody_cases body
    · exact .inl ⟨.null, rfl, rfl⟩
  · exact .inl ⟨.null, rfl, rfl⟩

/-! ## Routes -/

/-- A request that posts a body to a route. -/
structure Posts (r : Request) (route : Route) : Prop where
  method : r.method = "POST"
  contentType : (r.contentType.toList.any fun c => c == '\n' || c == '\r') = false
  target : ∃ t, Target.ofText r.path = .ok t ∧ t.checkShown = .ok () ∧ t.hasUsableHost = true ∧
    t.isSocket = false ∧ Route.ofPath? t.path = some route

theorem Posts.respond_eq {r : Request} {route : Route} (h : Posts r route)
    (hpost : route.methods.contains "POST" = true) : respond r = .ok (route.answer "POST" r) := by
  obtain ⟨t, htext, hshown, hhost, hsocket, hroute⟩ := h.target
  have hat : respondAt t r = route.answer "POST" r := by
    have hmethod : String.ofList (Text.capitals "POST".toList) = "POST" := by decide
    unfold respondAt
    rw [hhost, h.method, hmethod, hroute]
    simp only [hpost, hsocket]
    rfl
  unfold respond
  rw [htext, h.contentType]
  simp only [Except.mapError, bind, Except.bind, hshown, hat]
  rfl

/-- A posted body is answered as what is found in it. -/
theorem respond_of_posts (r : Request) :
    (Posts r .runTest → respond r = .ok (answerBody (foundIn r) runTest)) ∧
    (Posts r .checkClash → respond r = .ok (answerBody (foundIn r) checkClash)) ∧
    ((∃ v, foundIn r = .ok v ∧ v.isWritable = true) ∨
      ∃ f, foundIn r = .error f ∧ f.kind = .nesting) :=
  ⟨fun h => h.respond_eq (by decide), fun h => h.respond_eq (by decide), foundIn_cases r⟩

example : Posts ⟨"POST", "/api/check-clash", "application/json", none⟩ .checkClash where
  method := rfl
  contentType := by decide
  target := ⟨⟨"http".toList, Host.read Target.usualHost, "/api/check-clash".toList⟩,
    by decide +kernel, by decide +kernel, by decide +kernel, by decide +kernel, by decide +kernel⟩

end ExpiryAudit.Service
