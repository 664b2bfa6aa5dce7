import ExpiryAudit.Files
import ExpiryAudit.Proofs.Act

/-!
# Files that stay

Storing a file creates the directories above it and touches nothing that was there but the
file itself, so every other file is read as before.
-/
namespace ExpiryAudit.Files

/-- What was somewhere is still there. -/
structure Extends (f g : Files) : Prop where
  here : g.here = f.here
  node? : ∀ place node, f.node? place = some node → g.node? place = some node

namespace Extends

variable {f g k : Files}

theorem refl (f : Files) : Extends f f := ⟨rfl, fun _ _ h => h⟩

theorem trans (h : Extends f g) (h' : Extends g k) : Extends f k :=
  ⟨h'.here.trans h.here, fun place node hn => h'.node? place node (h.node? place node hn)⟩

theorem step_eq_ok (h : Extends f g) {start next : Location} {name : String}
    (hs : f.step start name = .ok next) : g.step start name = .ok next := by
  unfold step at hs ⊢
  cases hn : f.node? start with
  | none => rw [hn] at hs; cases hs
  | some node =>
    rw [h.node? start node hn]
    rwa [hn] at hs

theorem walk_eq_ok (h : Extends f g) {names : List String} :
    ∀ {start last : Location}, f.walk start names = .ok last → g.walk start names = .ok last := by
  induction names with
  | nil => exact fun hw => hw
  | cons name rest ih =>
    intro start last hw
    unfold walk at hw ⊢
    cases hs : f.step start name with
    | error e => rw [hs] at hw; cases hw
    | ok next =>
      rw [hs] at hw
      rw [h.step_eq_ok hs]
      exact ih hw

theorem locate_eq_ok (h : Extends f g) {p : Path} {place : Location}
    (hl : f.locate p = .ok place) : g.locate p = .ok place := by
  unfold locate at hl ⊢
  split at hl
  · cases hl
  next h1 =>
  split at hl
  · cases hl
  next h2 =>
  split at hl
  · cases hl
  next h3 =>
  rw [if_neg h1, if_neg h2, if_neg h3, h.here]
  cases hw : f.walk (if p.isAbsolute then [] else f.here) p.names with
  | error e => rw [hw] at hl; cases hl
  | ok last =>
    rw [h.walk_eq_ok hw]
    rwa [hw] at hl

end Extends

theorem read_eq_ok_iff {f : Files} {p : Path} {content : FileContent} :
    f.read p = .ok content ↔
      ∃ place, f.locate p = .ok place ∧ f.node? place = some (.file content) := by
  constructor
  · intro h
    obtain ⟨place, hl, h⟩ := eq_ok_of_bind_eq_ok h
    refine ⟨place, hl, ?_⟩
    cases hn : f.node? place with
    | none => rw [hn] at h; cases h
    | some node =>
      rw [hn] at h
      cases node with
      | directory => cases h
      | file found => rw [Except.ok.inj h]
  · rintro ⟨place, hl, hn⟩
    simp only [read, hl, bind, Except.bind, hn]

theorem Extends.read_eq_ok {f g : Files} (h : Extends f g) {p : Path} {content : FileContent}
    (hr : f.read p = .ok content) : g.read p = .ok content := by
  obtain ⟨place, hl, hn⟩ := read_eq_ok_iff.1 hr
  exact read_eq_ok_iff.2 ⟨place, h.locate_eq_ok hl, h.node? place _ hn⟩

/-! ## Directories -/

theorem extends_createDirectory (p : Path) (f : Files) :
    Extends f ((createDirectory p).run f).2 := by
  simp only [createDirectory, Act.run]
  split
  · exact .refl f
  next place _ =>
  split
  · exact .refl f
  next hfree =>
  refine ⟨rfl, fun other node hn => ?_⟩
  have hne : other ≠ place := by
    rintro rfl
    rw [hn] at hfree
    exact hfree rfl
  rw [node?_set_of_ne _ hne, hn]

theorem extends_ensureDirectory (p : Path) (f : Files) :
    Extends f ((ensureDirectory p).run f).2 := by
  simp only [ensureDirectory, Act.run]
  split
  · exact .refl f
  · exact extends_createDirectory p f

theorem extends_ensureDirectories (root : String) (names : List String) (f : Files) :
    Extends f ((ensureDirectories root names).run f).2 := by
  induction names generalizing f with
  | nil => exact extends_ensureDirectory _ f
  | cons name above ih =>
    have hfirst := extends_ensureDirectory ⟨root, (name :: above).reverse⟩ f
    simp only [ensureDirectories, Act.run] at hfirst ⊢
    split
    · next g hmissing =>
      rw [hmissing] at hfirst
      refine hfirst.trans ((ih g).trans ?_)
      show Extends _ (Act.run (ensureDirectories root above >>= fun _ => _) g).2
      rw [Act.run_bind]
      split
      · next hrest =>
        rw [hrest]
        exact extends_ensureDirectory _ _
      · next hrest =>
        rw [hrest]
        exact .refl _
    · exact hfirst

/-! ## Files -/

/-- A file stays as it is while another one is stored. -/
theorem read_of_store_elsewhere {f g : Files} {p q : Path} {content other : FileContent}
    (h : (store p content).run f = (.ok (), g)) (hq : f.read q = .ok other)
    (hne : g.locate q ≠ g.locate p) : g.read q = .ok other := by
  obtain ⟨⟨⟩, between, hdirectories, hreplace⟩ := Act.run_bind_eq_ok h
  have hextends := extends_ensureDirectories p.parent.root p.parent.names.reverse f
  rw [hdirectories] at hextends
  obtain ⟨place, hplace, hnode⟩ := read_eq_ok_iff.1 (hextends.read_eq_ok hq)
  simp only [replace, Act.run] at hreplace
  split at hreplace
  · cases hreplace
  next target htarget =>
  split at hreplace
  · cases hreplace
  next hfree =>
  obtain ⟨-, rfl⟩ := Prod.mk.inj hreplace
  have hdirectory : between.isDirectory target = false := Bool.eq_false_iff.2 hfree
  have hplace' := locate_set (.file content) hdirectory hplace
  rw [hplace', locate_set (.file content) hdirectory htarget] at hne
  have hother : place ≠ target := fun he => hne (congrArg Except.ok he)
  exact read_eq_ok_iff.2 ⟨place, hplace', (node?_set_of_ne _ hother).trans hnode⟩

end ExpiryAudit.Files
