import ExpiryAudit.Proofs.JsonText
import ExpiryAudit.Proofs.Rounding

/-!
# Texts of double precision numbers are read back

The text of a decimal is read as a decimal of the same value, with zeros added or left out
at its end, and both have one rank. So every double precision number is read as it was
written.
-/
namespace ExpiryAudit

/-! ## Digits -/

namespace Json

theorem digitsValue_append (ds es : List Char) :
    digitsValue (ds ++ es) = digitsValue ds * 10 ^ es.length + digitsValue es := by
  have honto : ∀ n, es.foldl (fun n d => 10 * n + (d.toNat - '0'.toNat)) n =
      n * 10 ^ es.length + digitsValue es := by
    induction es with
    | nil => simp [digitsValue]
    | cons c es ih =>
      intro n
      have hfirst : digitsValue (c :: es) =
          (10 * 0 + (c.toNat - '0'.toNat)) * 10 ^ es.length + digitsValue es := by
        rw [digitsValue, List.foldl_cons, ih]
      rw [List.foldl_cons, ih, hfirst, List.length_cons]
      ring
  rw [digitsValue, List.foldl_append, honto]
  rfl

theorem digitsValue_zeros (n : Nat) : digitsValue (List.replicate n '0') = 0 := by
  induction n with
  | zero => rfl
  | succ n ih =>
    rw [List.replicate_succ', digitsValue_append, ih]
    rfl

theorem digitsValue_append_zeros (ds : List Char) (n : Nat) :
    digitsValue (ds ++ List.replicate n '0') = digitsValue ds * 10 ^ n := by
  rw [digitsValue_append, digitsValue_zeros, List.length_replicate, Nat.add_zero]

/-- Leading zeros do not count. -/
theorem digitsValue_zeros_append (n : Nat) (ds : List Char) :
    digitsValue (List.replicate n '0' ++ ds) = digitsValue ds := by
  rw [digitsValue_append, digitsValue_zeros, Nat.zero_mul, Nat.zero_add]

end Json

namespace Decimal

theorem trimZeros_append (digits : List Char) :
    (trimZeros digits).1 ++ List.replicate (trimZeros digits).2 '0' = digits := by
  have hsplit : digits.reverse.takeWhile (· == '0') ++ digits.reverse.dropWhile (· == '0') =
      digits.reverse := List.takeWhile_append_dropWhile
  have hzeros : digits.reverse.takeWhile (· == '0') = List.replicate (trimZeros digits).2 '0' := by
    refine List.eq_replicate_iff.2 ⟨?_, fun c hc =>
      beq_iff_eq.1 (List.all_eq_true.1 List.all_takeWhile c hc)⟩
    have hlength := congrArg List.length hsplit
    rw [List.length_append, List.length_reverse] at hlength
    rw [trimZeros, List.length_reverse]
    omega
  have hback := congrArg List.reverse hsplit
  rwa [List.reverse_append, List.reverse_reverse, hzeros, List.reverse_replicate] at hback

/-- The digits of a number but the zeros at its end. -/
structure Significant (digits : Nat) (ds : List Char) (dropped : Nat) : Prop where
  each : ∀ c ∈ ds, c.isDigit = true
  leads : ∃ c s, ds = c :: s ∧ c ≠ '0'
  value : Json.digitsValue ds * 10 ^ dropped = digits

theorem significant_trimZeros {digits : Nat} (h : digits ≠ 0) :
    Significant digits (trimZeros (Nat.toDigits 10 digits)).1
      (trimZeros (Nat.toDigits 10 digits)).2 := by
  have happend := trimZeros_append (Nat.toDigits 10 digits)
  have hvalue := Json.digitsValue_toDigits digits
  rw [← happend, Json.digitsValue_append_zeros] at hvalue
  refine ⟨fun c hc => Json.isDigit_toDigits digits c ?_, ?_, hvalue⟩
  · rw [← happend]
    exact List.mem_append_left _ hc
  · obtain ⟨c, s, hs, -, hzero⟩ := Json.toDigits_eq_cons digits
    cases hkept : (trimZeros (Nat.toDigits 10 digits)).1 with
    | nil =>
      rw [hkept, Json.digitsValue, List.foldl_nil, Nat.zero_mul] at hvalue
      exact absurd hvalue.symm h
    | cons c' s' =>
      rw [hkept, hs, List.cons_append] at happend
      refine ⟨c', s', rfl, fun hc => h (hzero ?_)⟩
      rw [← (List.cons.inj happend).1, hc]

/-! ## The two forms of a text -/

/-- Digits with a point after some of them, or among zeros before or after them. -/
def positional (ds : List Char) (point : Int) : List Char :=
  if point ≤ 0 then '0' :: '.' :: List.replicate point.natAbs '0' ++ ds
  else if ds.length ≤ point.natAbs then
    ds ++ List.replicate (point.natAbs - ds.length) '0' ++ ['.', '0']
  else ds.take point.natAbs ++ '.' :: ds.drop point.natAbs

/-- The digits of an exponent, at least two of them. -/
def powerDigits (power : Int) : List Char :=
  if (Nat.toDigits 10 power.natAbs).length < 2 then '0' :: Nat.toDigits 10 power.natAbs
  else Nat.toDigits 10 power.natAbs

/-- Digits with a point after the first one, and an exponent. -/
def exponential (ds : List Char) (power : Int) : List Char :=
  (match ds with
    | c :: d :: rest => c :: '.' :: d :: rest
    | _ => ds) ++ 'e' :: (if power < 0 then '-' else '+') :: powerDigits power

theorem exists_text_eq {d : Decimal} (h : d.digits ≠ 0) :
    ∃ ds dropped, Significant d.digits ds dropped ∧
      (d.text = positional ds (d.exponent + dropped + ds.length) ∨
        d.text = exponential ds (d.exponent + dropped + ds.length - 1)) := by
  refine ⟨_, _, significant_trimZeros h, ?_⟩
  unfold text
  rw [if_neg h]
  dsimp only
  split
  · exact .inr rfl
  · exact .inl rfl

end Decimal

/-! ## Numbers with a point or an exponent -/

namespace Json

variable {rest : List Char}

/-- A point ends the digits before it. -/
theorem endsDigits_point (s : List Char) : ∀ c ∈ ('.' :: s).head?, c.isDigit = false := by
  simp

theorem endsDigits_exponent (s : List Char) : ∀ c ∈ ('e' :: s).head?, c.isDigit = false := by
  simp

theorem EndsNumber.endsDigits (h : EndsNumber rest) : ∀ c ∈ rest.head?, c.isDigit = false :=
  fun c hc => (h c hc).1

theorem fraction?_point {c : Char} {ds : List Char} (hds : ∀ d ∈ c :: ds, d.isDigit = true)
    (hrest : ∀ c ∈ rest.head?, c.isDigit = false) :
    fraction? ('.' :: (c :: ds ++ rest)) = some (c :: ds, rest) := by
  rw [fraction?, span_digits hds hrest]
  rfl

theorem isDigit_zeros (n : Nat) : ∀ c ∈ List.replicate n '0', c.isDigit = true := fun c hc => by
  rw [List.eq_of_mem_replicate hc]
  rfl

theorem digitsValue_powerDigits (power : Int) :
    digitsValue (Decimal.powerDigits power) = power.natAbs := by
  unfold Decimal.powerDigits
  split
  · exact (digitsValue_zeros_append 1 _).trans (digitsValue_toDigits _)
  · exact digitsValue_toDigits _

theorem isDigit_powerDigits (power : Int) : ∀ c ∈ Decimal.powerDigits power, c.isDigit = true := by
  unfold Decimal.powerDigits
  split
  · exact List.forall_mem_cons.2 ⟨rfl, isDigit_toDigits _⟩
  · exact isDigit_toDigits _

/-- The exponent of a number is read as it was written. -/
theorem exponent?_written (power : Int) (hrest : EndsNumber rest) :
    exponent? ('e' :: (if power < 0 then '-' else '+') :: (Decimal.powerDigits power ++ rest)) =
      some (power, rest) := by
  have hspan := span_digits (isDigit_powerDigits power) hrest.endsDigits
  have hempty : (Decimal.powerDigits power).isEmpty = false := by
    unfold Decimal.powerDigits
    split
    · rfl
    · simp
  by_cases hpower : power < 0
  · have habs : -(power.natAbs : Int) = power := by omega
    rw [if_pos hpower, exponent?]
    simp only [decide_true, Bool.true_or, if_true, hspan, hempty, Bool.false_eq_true, if_false,
      digitsValue_powerDigits, habs]
  · have habs : (power.natAbs : Int) = power := by omega
    rw [if_neg hpower, exponent?]
    simp only [decide_true, Bool.true_or, if_true, hspan, hempty, Bool.false_eq_true, if_false,
      digitsValue_powerDigits, habs]

/-- Digits, a point and more digits. -/
theorem unsigned?_point (negative : Bool) {c : Char} {ds places : List Char}
    (hds : ∀ d ∈ c :: ds, d.isDigit = true) (hc : c = '0' → ds = [])
    (hplaces : ∀ d ∈ places, d.isDigit = true) (hne : places ≠ []) (hrest : EndsNumber rest) :
    unsigned? negative (c :: ds ++ '.' :: (places ++ rest)) =
      some (.ok (.float (Decimal.toBinary64 ⟨digitsValue (c :: ds ++ places), -places.length⟩
        negative)), rest) := by
  obtain ⟨p, ps, rfl⟩ := List.exists_cons_of_ne_nil hne
  simp only [unsigned?, wholePart_append hds hc (endsDigits_point _), List.isEmpty_cons,
    Bool.false_eq_true, if_false, fraction?_point hplaces hrest.endsDigits,
    exponent?_eq_none hrest, Bool.true_or, if_true, Int.zero_sub]

/-- One digit and an exponent. -/
theorem unsigned?_exponent (negative : Bool) {c : Char} (hc : c.isDigit = true) {tail : List Char}
    {power : Int} (htail : exponent? ('e' :: tail) = some (power, rest)) :
    unsigned? negative (c :: 'e' :: tail) =
      some (.ok (.float (Decimal.toBinary64 ⟨digitsValue [c], power⟩ negative)), rest) := by
  have hfirst : ∀ d ∈ [c], d.isDigit = true := by simpa using hc
  have hwhole : wholePart (c :: 'e' :: tail) = ([c], 'e' :: tail) :=
    wholePart_append hfirst (fun _ => rfl) (endsDigits_exponent _)
  have hfraction : fraction? ('e' :: tail) = none := rfl
  simp only [unsigned?, hwhole, List.isEmpty_cons, Bool.false_eq_true, if_false, hfraction, htail,
    Bool.or_true, if_true, List.append_nil, List.length_nil, Int.natCast_zero, Int.sub_zero]

/-- One digit, a point, more digits and an exponent. -/
theorem unsigned?_point_exponent (negative : Bool) {c : Char} {places : List Char}
    (hc : c.isDigit = true) (hplaces : ∀ d ∈ places, d.isDigit = true) (hne : places ≠ [])
    {tail : List Char} {power : Int} (htail : exponent? ('e' :: tail) = some (power, rest)) :
    unsigned? negative (c :: '.' :: (places ++ 'e' :: tail)) =
      some (.ok (.float (Decimal.toBinary64 ⟨digitsValue (c :: places), power - places.length⟩
        negative)), rest) := by
  have hfirst : ∀ d ∈ [c], d.isDigit = true := by simpa using hc
  have hwhole : wholePart (c :: '.' :: (places ++ 'e' :: tail)) =
      ([c], '.' :: (places ++ 'e' :: tail)) :=
    wholePart_append hfirst (fun _ => rfl) (endsDigits_point _)
  obtain ⟨p, ps, rfl⟩ := List.exists_cons_of_ne_nil hne
  simp only [unsigned?, hwhole, List.isEmpty_cons, Bool.false_eq_true, if_false,
    fraction?_point hplaces (endsDigits_exponent tail), htail, Bool.or_true, if_true,
    List.singleton_append]

section Layouts

variable {c : Char} {ds : List Char} (negative : Bool)

/-- The exponential form is read as its digits, with one of them before the point. -/
theorem unsigned?_exponential (hds : ∀ d ∈ c :: ds, d.isDigit = true) (power : Int)
    (hrest : EndsNumber rest) :
    unsigned? negative (Decimal.exponential (c :: ds) power ++ rest) =
      some (.ok (.float (Decimal.toBinary64 ⟨digitsValue (c :: ds), power - ds.length⟩ negative)),
        rest) := by
  have htail := exponent?_written power hrest
  obtain ⟨hc, hds⟩ := List.forall_mem_cons.1 hds
  cases ds with
  | nil => simpa [Decimal.exponential] using unsigned?_exponent negative hc htail
  | cons d ds =>
    simpa [Decimal.exponential] using
      unsigned?_point_exponent negative hc hds (List.cons_ne_nil _ _) htail

/-- The positional form is read as its digits with the point where it was. -/
theorem unsigned?_positional (hds : ∀ d ∈ c :: ds, d.isDigit = true) (hc : c ≠ '0') (point : Int)
    (hrest : EndsNumber rest) :
    unsigned? negative (Decimal.positional (c :: ds) point ++ rest) =
      some (.ok (.float (Decimal.toBinary64 ⟨digitsValue (c :: ds), point - (c :: ds).length⟩
        negative)), rest) := by
  have hzero : ∀ d ∈ ['0'], d.isDigit = true := List.forall_mem_singleton.2 (by decide)
  have hne : c = '0' → ∀ s : List Char, s = [] := fun h => absurd h hc
  unfold Decimal.positional
  split
  · next hpoint =>
    -- Nothing but zeros before the digits.
    have hread := unsigned?_point negative hzero (fun _ => rfl)
      (List.forall_mem_append.2 ⟨isDigit_zeros point.natAbs, hds⟩) (by simp) hrest
    have hvalue : digitsValue (['0'] ++ (List.replicate point.natAbs '0' ++ c :: ds)) =
        digitsValue (c :: ds) := by
      rw [← List.append_assoc]
      exact digitsValue_zeros_append (point.natAbs + 1) _
    have hexponent : -((List.replicate point.natAbs '0' ++ c :: ds).length : Int) =
        point - (c :: ds).length := by
      rw [List.length_append, List.length_replicate]
      omega
    rw [hvalue, hexponent] at hread
    simpa using hread
  split
  · next hpoint hlong =>
    -- Zeros between the digits and the point.
    have hmore : ∀ d ∈ c :: (ds ++ List.replicate (point.natAbs - (c :: ds).length) '0'),
        d.isDigit = true := List.forall_mem_append.2 ⟨hds, isDigit_zeros _⟩
    have hread := unsigned?_point negative hmore (fun h => hne h _) hzero (by decide) hrest
    have hvalue : digitsValue (c :: (ds ++ List.replicate (point.natAbs - (c :: ds).length) '0') ++
        ['0']) = digitsValue (c :: ds) * 10 ^ (point.natAbs - (c :: ds).length + 1) := by
      rw [← List.cons_append, List.append_assoc, ← List.replicate_succ', digitsValue_append_zeros]
    have hexponent : (-1 : Int) + (point.natAbs - (c :: ds).length + 1 : Nat) =
        point - (c :: ds).length := by omega
    have hsame : Decimal.toBinary64 ⟨digitsValue (c :: ds) *
        10 ^ (point.natAbs - (c :: ds).length + 1), -1⟩ negative =
        Decimal.toBinary64 ⟨digitsValue (c :: ds), point - (c :: ds).length⟩ negative := by
      refine Decimal.toBinary64_eq ?_ negative
      rw [Decimal.rank_mul_pow, hexponent]
    rw [hvalue, List.length_singleton, Nat.cast_one, hsame] at hread
    simpa using hread
  · next hpoint hlong =>
    -- The point among the digits.
    obtain ⟨m, hm⟩ : ∃ m, point.natAbs = m + 1 := ⟨point.natAbs - 1, by omega⟩
    rw [List.length_cons] at hlong
    have hbefore : ∀ d ∈ c :: ds.take m, d.isDigit = true := fun d hd =>
      hds d (List.mem_of_mem_take (i := m + 1) hd)
    have hafter : ∀ d ∈ ds.drop m, d.isDigit = true := fun d hd =>
      hds d (List.mem_cons_of_mem _ (List.mem_of_mem_drop hd))
    have hread := unsigned?_point negative hbefore (fun h => hne h _) hafter (by simp; omega) hrest
    have hexponent : -((ds.drop m).length : Int) = point - (c :: ds).length := by
      rw [List.length_drop, List.length_cons]
      omega
    have hjoined : c :: ds.take m ++ ds.drop m = c :: ds :=
      congrArg (c :: ·) (List.take_append_drop m ds)
    rw [hjoined, hexponent] at hread
    rw [hm, List.take_succ_cons, List.drop_succ_cons]
    simpa using hread

/-- The text of a decimal is read as a number of its rank. -/
theorem unsigned?_text (d : Decimal) (hrest : EndsNumber rest) :
    unsigned? negative (d.text ++ rest) = some (.ok (.float (d.toBinary64 negative)), rest) := by
  by_cases hzero : d.digits = 0
  · have htext : d.text = '0' :: '.' :: ['0'] := by rw [Decimal.text, if_pos hzero]
    have hrank : Decimal.rank ⟨0, -1⟩ = d.rank :=
      (Decimal.rank_of_digits_eq_zero rfl).trans (Decimal.rank_of_digits_eq_zero hzero).symm
    have hdigit : ∀ d ∈ ['0'], d.isDigit = true := List.forall_mem_singleton.2 (by decide)
    have hread := unsigned?_point negative hdigit (fun _ => rfl) hdigit (by decide) hrest
    rw [htext, ← Decimal.toBinary64_eq hrank]
    exact hread
  obtain ⟨ds, dropped, ⟨hdigits, ⟨c, s, rfl, hc⟩, hvalue⟩, htext⟩ := Decimal.exists_text_eq hzero
  have hrank : Decimal.rank ⟨digitsValue (c :: s), d.exponent + dropped⟩ = d.rank := by
    rw [← Decimal.rank_mul_pow, hvalue]
  rw [← Decimal.toBinary64_eq hrank]
  rcases htext with htext | htext
  · have hexponent : d.exponent + dropped + (c :: s).length - (c :: s).length =
        d.exponent + dropped := by omega
    rw [htext, unsigned?_positional negative hdigits hc _ hrest, hexponent]
  · have hexponent : d.exponent + dropped + (c :: s).length - 1 - s.length =
        d.exponent + dropped := by
      rw [List.length_cons]
      omega
    rw [htext, unsigned?_exponential negative hdigits _ hrest, hexponent]

end Layouts

/-! ## Characters of texts -/

theorem isPlain_positional {ds : List Char} (hds : ∀ c ∈ ds, c.isDigit = true) (point : Int) :
    ∀ c ∈ Decimal.positional ds point, IsPlain c := by
  have hplain : ∀ es : List Char, (∀ c ∈ es, c.isDigit = true) → ∀ c ∈ es, IsPlain c :=
    fun es h c hc => isPlain_of_isDigit (h c hc)
  have hpoint : IsPlain '.' := by decide
  have hzero : IsPlain '0' := by decide
  have hzeros := fun n => hplain _ (isDigit_zeros n)
  unfold Decimal.positional
  split
  · exact List.forall_mem_cons.2 ⟨hzero, List.forall_mem_cons.2
      ⟨hpoint, List.forall_mem_append.2 ⟨hzeros _, hplain ds hds⟩⟩⟩
  split
  · refine List.forall_mem_append.2 ⟨List.forall_mem_append.2 ⟨hplain ds hds, hzeros _⟩, ?_⟩
    exact isPlain_of_all (by decide)
  · refine List.forall_mem_append.2 ⟨fun c hc => hplain ds hds c (List.mem_of_mem_take hc), ?_⟩
    exact List.forall_mem_cons.2 ⟨hpoint, fun c hc => hplain ds hds c (List.mem_of_mem_drop hc)⟩

theorem isPlain_exponential {ds : List Char} (hds : ∀ c ∈ ds, c.isDigit = true) (power : Int) :
    ∀ c ∈ Decimal.exponential ds power, IsPlain c := by
  have hplain : ∀ c ∈ ds, IsPlain c := fun c hc => isPlain_of_isDigit (hds c hc)
  have hpoint : IsPlain '.' := by decide
  unfold Decimal.exponential
  refine List.forall_mem_append.2 ⟨?_, List.forall_mem_cons.2 ⟨by decide,
    List.forall_mem_cons.2 ⟨by split <;> decide, fun c hc =>
      isPlain_of_isDigit (isDigit_powerDigits power c hc)⟩⟩⟩
  split
  · obtain ⟨hc, hrest⟩ := List.forall_mem_cons.1 hplain
    exact List.forall_mem_cons.2 ⟨hc, List.forall_mem_cons.2 ⟨hpoint, hrest⟩⟩
  · exact hplain

theorem isPlain_text (d : Decimal) : ∀ c ∈ d.text, IsPlain c := by
  by_cases hzero : d.digits = 0
  · rw [Decimal.text, if_pos hzero]
    exact isPlain_of_all (by decide)
  · obtain ⟨ds, dropped, hds, htext | htext⟩ := Decimal.exists_text_eq hzero
    · rw [htext]
      exact isPlain_positional hds.each _
    · rw [htext]
      exact isPlain_exponential hds.each _

/-- What is read as a number starts with a digit, apart from its sign. -/
theorem exists_eq_cons_of_unsigned? {negative : Bool} {s : List Char}
    {r : Except Stop Json × List Char} (h : unsigned? negative s = some r) :
    ∃ c t, s = c :: t ∧ c.isDigit = true := by
  cases s with
  | nil => cases h
  | cons c t =>
    refine ⟨c, t, rfl, ?_⟩
    by_contra hc
    have hzero : c ≠ '0' := by
      rintro rfl
      exact hc rfl
    have hwhole : (wholePart (c :: t)).1 = [] := by
      rw [wholePart]
      · simp [List.span_eq_takeWhile_dropWhile, hc]
      · intro s hs
        exact hzero (List.cons.inj hs).1
    simp [unsigned?, hwhole] at h

theorem text_eq_cons (d : Decimal) : ∃ c s, d.text = c :: s ∧ c.isDigit = true := by
  have hread := unsigned?_text false d (fun c (hc : c ∈ [].head?) => nomatch hc)
  rw [List.append_nil] at hread
  exact exists_eq_cons_of_unsigned? hread

/-! ## Double precision numbers -/

/-- The text of a number that is finite. -/
theorem text_signed {rank : Nat} (hrank : rank ≤ Rank.infinity) (hfinite : rank ≠ Rank.infinity)
    (negative : Bool) : (Binary64.signed negative rank hrank).text spelling =
      (if negative then ['-'] else []) ++ (Decimal.shortest rank).text := by
  rw [Binary64.text, if_neg hfinite]

/-- A finite number starts with a digit or a minus. -/
theorem text_signed_eq_cons {rank : Nat} (hrank : rank ≤ Rank.infinity)
    (hfinite : rank ≠ Rank.infinity) (negative : Bool) :
    ∃ c s, (Binary64.signed negative rank hrank).text spelling = c :: s ∧
      ∀ d, d.isDigit = false → d ≠ '-' → c ≠ d := by
  obtain ⟨c, s, hs, hc⟩ := text_eq_cons (Decimal.shortest rank)
  rw [text_signed hrank hfinite, hs]
  cases negative with
  | true => exact ⟨'-', c :: s, rfl, fun d _ hminus => hminus.symm⟩
  | false =>
    refine ⟨c, s, rfl, ?_⟩
    rintro d hd - rfl
    rw [hc] at hd
    cases hd

theorem toBinary64_shortest {rank : Nat} (hrank : rank ≤ Rank.infinity) (negative : Bool) :
    (Decimal.shortest rank).toBinary64 negative = .signed negative rank hrank := by
  simp only [Decimal.toBinary64, Decimal.rank_shortest hrank]

/-- A finite number is read as it was written, and as no name. -/
theorem number?_text {rank : Nat} (hrank : rank ≤ Rank.infinity) (hfinite : rank ≠ Rank.infinity)
    (negative : Bool) (hrest : EndsNumber rest) :
    let text := (Binary64.signed negative rank hrank).text spelling
    name? (text ++ rest) = none ∧
      number? (text ++ rest) = some (.ok (.float (.signed negative rank hrank)), rest) := by
  obtain ⟨c, s, hs, hc⟩ := text_eq_cons (Decimal.shortest rank)
  have hread := unsigned?_text negative (Decimal.shortest rank) hrest
  rw [toBinary64_shortest hrank, hs] at hread
  rw [text_signed hrank hfinite, hs]
  cases negative with
  | true => exact ⟨(name?_of_isDigit hc _).2, hread⟩
  | false =>
    refine ⟨(name?_of_isDigit hc _).1, ?_⟩
    have hminus : c ≠ '-' := by
      rintro rfl
      exact absurd hc (by decide)
    rw [if_neg Bool.false_ne_true, List.nil_append, List.cons_append, number?]
    · exact hread
    · intro t ht
      exact hminus (List.cons.inj ht).1

theorem isPlain_float (x : Binary64) : ∀ c ∈ x.text spelling, IsPlain c := by
  cases x with
  | nan => exact isPlain_of_all (by decide)
  | signed negative rank hrank =>
    rw [Binary64.text]
    refine List.forall_mem_append.2 ⟨isPlain_of_all (by cases negative <;> decide), ?_⟩
    split
    · exact isPlain_of_all (by decide)
    · exact isPlain_text _

end Json
end ExpiryAudit
