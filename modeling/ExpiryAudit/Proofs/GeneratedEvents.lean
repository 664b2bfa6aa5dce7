import ExpiryAudit.Generator
import ExpiryAudit.Proofs.EventLines
import ExpiryAudit.Proofs.JsonLines

/-!
# Random events

Whatever a fair source chooses, every rule is given a payload that it takes, and every line
that is written is read as an event for one of the keys with one payload for every rule.
-/
namespace ExpiryAudit

/-- Numbers are chosen between their bounds and texts among their options, in whatever way. -/
structure Randomness.Fair {γ : Type} (source : Randomness γ) : Prop where
  between : ∀ low high g, low ≤ high →
    low ≤ (source.between low high g).1 ∧ (source.between low high g).1 ≤ high
  choose : ∀ options g, 0 < options.size → (source.choose options g).1 ∈ options

theorem Randomness.fair_twister : twister.Fair where
  between low high t h := by
    have hbelow : (t.below (high - low + 1).toNat).1 < (high - low + 1).toNat :=
      Twister.drawBelow_lt (by omega) _ _ _
    change low ≤ low + ((t.below (high - low + 1).toNat).1 : Int) ∧
      low + ((t.below (high - low + 1).toNat).1 : Int) ≤ high
    omega
  choose options t h := by
    have hbelow : (t.below options.size).1 < options.size := Twister.drawBelow_lt h _ _ _
    change options[(t.below options.size).1]?.getD "" ∈ options
    rw [Array.getElem?_eq_getElem hbelow]
    exact Array.getElem_mem hbelow

/-! ## Payloads -/

namespace RuleKind

variable {k : RuleKind} {raw : Json}

theorem Fits.encode_eq (h : k.Fits raw) : k.encode (.raw raw) = .ok raw := by
  cases k with
  | map =>
    obtain ⟨name, n, rfl⟩ := h
    rfl
  | _ => rfl

theorem Fits.sorted_eq (h : k.Fits raw) : raw.sorted = raw := by
  cases k with
  | map =>
    obtain ⟨name, n, rfl⟩ := h
    rfl
  | _ =>
    obtain ⟨n, rfl⟩ := h
    rfl

theorem Fits.restored (h : k.Fits raw) (hwritable : raw.isWritable = true) (room : Nat) :
    Json.Restored (room + 1) raw := by
  cases k with
  | map =>
    obtain ⟨name, n, rfl⟩ := h
    refine .arr (List.forall_mem_cons.2 ⟨.str, List.forall_mem_singleton.2 (.int ?_)⟩)
    exact Json.isWritable_arr_iff.1 hwritable (.int n) (by simp)
  | _ =>
    obtain ⟨n, rfl⟩ := h
    exact .int hwritable

/-- What is written under the name of a rule: a payload that the rule takes. -/
structure Writes (k : RuleKind) (m : Text × Json) : Prop where
  name : m.1 = k.id
  fits : k.Fits m.2
  writable : m.2.isWritable = true

variable {γ : Type} {source : Randomness γ}

theorem isWritable_between (hsource : source.Fair) {low high : Int} (h : low ≤ high)
    (hlow : 0 ≤ low) (hhigh : high ≤ 1000) (g : γ) :
    Text.isWritable (source.between low high g).1 = true := by
  obtain ⟨hleast, hmost⟩ := hsource.between low high g h
  exact @Text.isWritable_of_natAbs_lt _ 4 (by omega) (by decide)

theorem writes_random (hsource : source.Fair) (k : RuleKind) (g : γ) :
    k.Writes (k.id, (k.random source g).1) := by
  cases k with
  | map =>
    refine ⟨rfl, ⟨_, _, rfl⟩, Json.isWritable_arr_iff.2 ?_⟩
    exact List.forall_mem_cons.2 ⟨rfl, List.forall_mem_singleton.2
      (isWritable_between hsource (by decide) (by decide) (by decide) _)⟩
  | _ =>
    exact ⟨rfl, ⟨_, rfl⟩, isWritable_between hsource (by decide) (by decide) (by decide) g⟩

end RuleKind

/-- One payload for every rule, under the name of the rule. -/
structure Supplies (rules : List RuleKind) (members : List (Text × Json)) : Prop where
  names : (members.map (·.1)).Perm (rules.map (·.id))
  each : ∀ m ∈ members, ∃ k : RuleKind, k.Writes m

namespace Supplies

variable {rules : List RuleKind} {members others : List (Text × Json)}

theorem nil : Supplies [] [] := ⟨.refl _, fun _ h => nomatch h⟩

theorem cons {k : RuleKind} {m : Text × Json} (hm : k.Writes m) (h : Supplies rules members) :
    Supplies (k :: rules) (m :: members) where
  names := by
    rw [List.map_cons, List.map_cons, hm.name]
    exact h.names.cons _
  each := List.forall_mem_cons.2 ⟨⟨k, hm⟩, h.each⟩

theorem perm (h : Supplies rules members) (hperm : others.Perm members) :
    Supplies rules others :=
  ⟨(hperm.map _).trans h.names, fun m hm => h.each m (hperm.mem_iff.1 hm)⟩

theorem distinct (h : Supplies rules members) (hrules : rules.Nodup) : Named.Distinct members :=
  h.names.nodup_iff.2 (hrules.map fun _ _ => RuleKind.id_injective)

/-- Every rule finds a payload that it takes. -/
theorem exists_find? (h : Supplies rules members) {k : RuleKind} (hk : k ∈ rules) :
    ∃ raw, Named.find? members k.id = some raw ∧ k.Fits raw := by
  have hname : k.id ∈ members.map (·.1) := h.names.mem_iff.2 (List.mem_map_of_mem hk)
  obtain ⟨raw, hraw⟩ := Option.isSome_iff_exists.1 (Named.isSome_find?_iff.2 hname)
  obtain ⟨l, hl⟩ := h.each _ (Named.mem_of_find? hraw)
  obtain rfl : k = l := RuleKind.id_injective hl.name
  exact ⟨raw, hraw, hl.fits⟩

theorem restored (h : Supplies rules members) (hrules : rules.Nodup) (room : Nat) :
    Json.Restored (room + 2) (.obj members) := by
  refine .obj (h.distinct hrules) fun m hm => ?_
  obtain ⟨k, hk⟩ := h.each m hm
  exact hk.fits.restored hk.writable room

/-- Sorting changes the order of the payloads only. -/
theorem exists_sorted_eq (h : Supplies rules members) :
    ∃ others, (Json.obj members).sorted = .obj others ∧ Supplies rules others := by
  have hmap : (members.map fun m => (m.1, m.2.sorted)) = members := by
    refine List.map_congr_left (fun m hm => ?_) |>.trans (List.map_id _)
    obtain ⟨k, hk⟩ := h.each m hm
    exact Prod.ext rfl hk.fits.sorted_eq
  rw [Json.sorted_obj, hmap]
  exact ⟨_, rfl, h.perm (List.mergeSort_perm _ _)⟩

end Supplies

/-! ## Lines -/

/-- What is read from a line of random choices: an event for one of a number of keys, with the
payloads of the rules and no others. The line is what the event is written as. -/
structure Generated (keys : Nat) (rules : List RuleKind) (line : String) (e : Event) : Prop where
  parsed : ∃ d, Json.parse line.toList = .ok d ∧ Event.ofJson d = .ok e
  key : ∃ i < keys, e.key = .ofString ("key-" ++ toString i)
  supplies : ∃ members, e.updates = .obj members ∧ Supplies rules members
  written : line = e.toJson.line

namespace Generator

variable {γ : Type} {source : Randomness γ} {rules : List RuleKind}

/-- The payloads come after those that are done. -/
theorem exists_updates (hsource : source.Fair) (hrules : rules.Nodup) (g : γ)
    (done : List (Text × Json)) (hdone : ∀ k ∈ rules, k.id ∉ done.map (·.1)) :
    ∃ members g', updates source g done rules = .ok (done ++ members, g') ∧
      Supplies rules members := by
  induction rules generalizing g done with
  | nil => exact ⟨[], g, by rw [List.append_nil]; rfl, .nil⟩
  | cons k rest ih =>
    obtain ⟨hk, hrest⟩ := List.nodup_cons.1 hrules
    obtain ⟨hfree, hdone⟩ := List.forall_mem_cons.1 hdone
    have hwrites := RuleKind.writes_random hsource k g
    obtain ⟨members, g', hupdates, hmembers⟩ := ih hrest (k.random source g).2
      (done ++ [(k.id, (k.random source g).1)]) fun l hl => by
        rw [List.map_append, List.mem_append, not_or]
        refine ⟨hdone l hl, fun hname => hk ?_⟩
        rwa [← RuleKind.id_injective (List.mem_singleton.1 hname)]
    refine ⟨(k.id, (k.random source g).1) :: members, g', ?_, .cons hwrites hmembers⟩
    rw [List.append_assoc] at hupdates
    rw [updates]
    simp only [hwrites.fits.encode_eq, Named.insert_of_not_mem _ hfree]
    exact hupdates

theorem exists_of_mem_keyPool {keys : Nat} {key : String} (h : key ∈ keyPool keys) :
    ∃ i < keys, key = "key-" ++ toString i := by
  obtain ⟨i, hi, rfl⟩ := Array.mem_map.1 h
  exact ⟨i, Array.mem_range.1 hi, rfl⟩

theorem inOrder_event (key updates : Json) :
    Json.InOrder [("key", key), ("updates", updates)] :=
  List.pairwise_pair.2 (by decide : (Text.ofString "key") < .ofString "updates")

/-- The line of an event is what it is written as once its payloads are sorted. -/
theorem line_eq_of_sorted_eq {key : Text} {updates others : Json}
    (h : updates.sorted = others) :
    (Json.obj [("key", .str key), ("updates", updates)]).line =
      String.ofList (Json.write .spaced (.obj [("key", .str key), ("updates", others)])) := by
  rw [Json.line, (inOrder_event _ _).sorted_obj, List.map_cons, List.map_singleton, h]
  rfl

/-- The line of an event is read as one for the same key and rules. -/
theorem exists_generated {keys : Nat} {key : String} (hkey : key ∈ keyPool keys)
    (hrules : rules.Nodup) {members : List (Text × Json)} (h : Supplies rules members) :
    ∃ e, Generated keys rules (Json.obj [("key", .str key), ("updates", .obj members)]).line e := by
  obtain ⟨i, hi, rfl⟩ := exists_of_mem_keyPool hkey
  obtain ⟨others, hsorted, hothers⟩ := h.exists_sorted_eq
  have hrestored : Json.Restored Json.depthLimit
      (.obj [("key", .str (.ofString ("key-" ++ toString i))), ("updates", .obj others)]) :=
    .obj (inOrder_event _ _).distinct (List.forall_mem_cons.2
      ⟨.str, List.forall_mem_singleton.2 (hothers.restored hrules _)⟩)
  have hne : Text.ofString ("key-" ++ toString i) ≠ "" := fun h => by
    simpa using congrArg String.toList (Text.ofString_injective h)
  have hevent : Event.ofJson (.obj [("key", .str (.ofString ("key-" ++ toString i))),
      ("updates", .obj others)]) = .ok ⟨_, .obj others, hne⟩ :=
    Event.ofJson_eq_ok_iff.2 ⟨_, others, rfl, rfl, rfl, rfl⟩
  refine ⟨_, ⟨_, ?_, hevent⟩, ⟨i, hi, rfl⟩, ⟨others, rfl, hothers⟩, ?_⟩
  · rw [line_eq_of_sorted_eq hsorted, String.toList_ofList]
    exact hrestored.parse_write
  · rw [line_eq_of_sorted_eq hsorted, Event.toJson, line_eq_of_sorted_eq]
    rw [← hsorted, Json.sorted_sorted]

/-- One event and its line. -/
theorem exists_event (hsource : source.Fair) (hrules : rules.Nodup) {keys : Nat} (hkeys : 0 < keys)
    (g : γ) : ∃ v g' e, event source (keyPool keys) rules g = .ok (v, g') ∧
      Generated keys rules v.line e := by
  have hsize : 0 < (keyPool keys).size := by simpa [keyPool] using hkeys
  have hkey := hsource.choose (keyPool keys) g hsize
  obtain ⟨members, g', hupdates, hmembers⟩ := exists_updates hsource hrules
    (source.choose (keyPool keys) g).2 [] fun _ _ => List.not_mem_nil
  obtain ⟨e, he⟩ := exists_generated hkey hrules hmembers
  refine ⟨_, g', e, ?_, he⟩
  rw [event]
  exact bind_eq_ok hupdates rfl

/-- The lines come after those that are done, as many as are asked for. -/
theorem exists_eventLines (hsource : source.Fair) (hrules : rules.Nodup) {keys : Nat}
    (hkeys : 0 < keys) (count : Nat) (done : List String) (g : γ) :
    ∃ lines events, eventLines source (keyPool keys) rules done g count =
      .ok (done.reverse ++ lines) ∧ lines.length = count ∧
        List.Forall₂ (Generated keys rules) lines events := by
  induction count generalizing done g with
  | zero => exact ⟨[], [], by rw [List.append_nil]; rfl, rfl, .nil⟩
  | succ count ih =>
    obtain ⟨v, g', e, hevent, he⟩ := exists_event hsource hrules hkeys g
    obtain ⟨lines, events, hlines, hlength, hevents⟩ := ih (v.line :: done) g'
    refine ⟨v.line :: lines, e :: events, bind_eq_ok hevent ?_, congrArg (· + 1) hlength,
      .cons he hevents⟩
    rw [List.reverse_cons, List.append_assoc] at hlines
    exact hlines

end Generator

end ExpiryAudit
