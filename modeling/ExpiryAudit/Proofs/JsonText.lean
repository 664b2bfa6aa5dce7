import ExpiryAudit.Json.Reader
import ExpiryAudit.Json.Writer
import Mathlib.Algebra.Group.Nat.Defs
import Mathlib.Data.Bool.AllAny
import Mathlib.Data.List.TakeDrop

/-!
# Strings and numbers in JSON

What is written for a string or a whole number is read as that string or number, and
what follows it is left.
-/
namespace ExpiryAudit

namespace Text

theorem hexadecimalValue?_digitChar {d : Nat} (h : d < 16) :
    hexadecimalValue? (Nat.digitChar d) = some d := by
  have hall : ∀ d < 16, hexadecimalValue? (Nat.digitChar d) = some d := by decide
  exact hall d h

/-- The four digits of a unit. -/
theorem hexadecimal_four (n : Nat) : hexadecimal 4 n =
    [Nat.digitChar (n / 4096 % 16), Nat.digitChar (n / 256 % 16), Nat.digitChar (n / 16 % 16),
      Nat.digitChar (n % 16)] := by
  simp [hexadecimal, List.range, List.range.loop]

/-- A number with few digits can be written. -/
theorem isWritable_of_natAbs_lt {n : Int} {digits : Nat} (h : n.natAbs < 10 ^ digits)
    (hdigits : digits ≤ digitLimit) : isWritable n = true :=
  decide_eq_true (Nat.lt_of_lt_of_le h (Nat.pow_le_pow_right (by decide) hdigits))

end Text

namespace Json

/-! ## Strings -/

theorem unit?_hexadecimal {n : Nat} (h : n < 0x10000) :
    unit? (Nat.digitChar (n / 4096 % 16)) (Nat.digitChar (n / 256 % 16))
      (Nat.digitChar (n / 16 % 16)) (Nat.digitChar (n % 16)) = some n := by
  have hmod : ∀ m : Nat, m % 16 < 16 := fun m => Nat.mod_lt m (by decide)
  simp only [unit?, Text.hexadecimalValue?_digitChar (hmod _)]
  show some (256 * (16 * (n / 4096 % 16) + n / 256 % 16) + (16 * (n / 16 % 16) + n % 16)) = some n
  congr 1
  omega

theorem readCodes_unitEscape {opened n : Nat} {done : List Nat} {rest : List Char}
    (h : n < 0x10000) (hrest : rest ≠ []) :
    readCodes opened done (unitEscape n ++ rest) = readCodes opened (n :: done) rest := by
  rw [unitEscape, Text.hexadecimal_four]
  simp only [List.cons_append, List.nil_append]
  rw [readCodes, unit?_hexadecimal h]
  cases rest with
  | nil => exact absurd rfl hrest
  | cons c rest => rfl

/-- The units of a code point. -/
def codes : Text.Point → List Nat
  | .char c =>
    if c.toNat < 0x10000 then [c.toNat]
    else [0xd800 + (c.toNat - 0x10000) / 0x400, 0xdc00 + (c.toNat - 0x10000) % 0x400]
  | half => [half.code]

theorem codes_of_lt {c : Char} (h : c.toNat < 0x10000) : codes (.char c) = [c.toNat] := if_pos h

theorem codes_of_not_lt {c : Char} (h : ¬c.toNat < 0x10000) : codes (.char c) =
    [0xd800 + (c.toNat - 0x10000) / 0x400, 0xdc00 + (c.toNat - 0x10000) % 0x400] := if_neg h

theorem exists_codes (p : Text.Point) : ∃ n rest, codes p = n :: rest := by
  cases p with
  | half place => exact ⟨_, _, rfl⟩
  | char c =>
    by_cases h : c.toNat < 0x10000
    · exact ⟨_, _, codes_of_lt h⟩
    · exact ⟨_, _, codes_of_not_lt h⟩

theorem readCodes_plain {opened : Nat} {done : List Nat} {rest : List Char} {c : Char}
    (hquote : c ≠ '"') (hslash : c ≠ '\\') (hcontrol : 0x20 ≤ c.toNat) :
    readCodes opened done (c :: rest) = readCodes opened (c.toNat :: done) rest := by
  rw [readCodes]
  · exact if_neg (by omega)
  all_goals simp_all

/-- What is written for a character is read as its units. -/
theorem readCodes_writeChar {opened : Nat} {done : List Nat} {rest : List Char} (c : Char)
    (hrest : rest ≠ []) :
    readCodes opened done (writeChar c ++ rest) =
      readCodes opened ((codes (.char c)).reverse ++ done) rest := by
  have hsimple : ∀ {d e : Char}, e.toNat < 0x10000 → d ≠ 'u' → simpleEscape? d = some e →
      readCodes opened done ('\\' :: d :: rest) =
        readCodes opened ((codes (.char e)).reverse ++ done) rest := by
    intro d e he hd hde
    rw [codes_of_lt he, readCodes]
    · rw [if_neg hd, hde]
      rfl
    all_goals simp_all
  have hcode := Text.toNat_lt_or_lt c
  unfold writeChar
  split
  · next h => subst h; exact hsimple (by decide) (by decide) rfl
  split
  · next h => subst h; exact hsimple (by decide) (by decide) rfl
  split
  · next h => subst h; exact hsimple (by decide) (by decide) rfl
  split
  · next h => subst h; exact hsimple (by decide) (by decide) rfl
  split
  · next h => subst h; exact hsimple (by decide) (by decide) rfl
  split
  · next h => subst h; exact hsimple (by decide) (by decide) rfl
  split
  · next h => subst h; exact hsimple (by decide) (by decide) rfl
  split
  · next hquote hslash _ _ _ _ _ h =>
    rw [codes_of_lt (by omega)]
    exact readCodes_plain hquote hslash h.1
  split
  · next h =>
    rw [codes_of_lt h, readCodes_unitEscape h hrest]
    rfl
  · next h =>
    rw [codes_of_not_lt h, List.append_assoc,
      readCodes_unitEscape (by omega) (by simp [unitEscape]), readCodes_unitEscape (by omega) hrest]
    rfl

/-- What is written for a code point is read as its units. -/
theorem readCodes_writePoint {opened : Nat} {done : List Nat} {rest : List Char}
    (p : Text.Point) (hrest : rest ≠ []) :
    readCodes opened done (writePoint p ++ rest) =
      readCodes opened ((codes p).reverse ++ done) rest := by
  cases p with
  | char c => exact readCodes_writeChar c hrest
  | half place =>
    have hcode : (Text.Point.half place).code < 0x10000 := by
      simp only [Text.Point.code, Text.Point.firstHalf]
      omega
    exact readCodes_unitEscape hcode hrest

theorem readCodes_flatMap {opened : Nat} {points : List Text.Point} {rest : List Char} :
    ∀ done, readCodes opened done (points.flatMap writePoint ++ '"' :: rest) =
      .ok (done.reverse ++ points.flatMap codes, rest) := by
  induction points with
  | nil =>
    intro done
    rw [List.flatMap_nil, List.flatMap_nil, List.nil_append, List.append_nil, readCodes]
  | cons p points ih =>
    intro done
    rw [List.flatMap_cons, List.append_assoc, readCodes_writePoint p (by simp), ih,
      List.flatMap_cons]
    simp

/-- Everything is written in such characters, but for the ends of lines. -/
def IsPlain (c : Char) : Prop := 0x20 ≤ c.toNat ∧ c.toNat < 0x7f

instance (c : Char) : Decidable (IsPlain c) := inferInstanceAs (Decidable (_ ∧ _))

/-- A closed text is looked at character by character. -/
theorem isPlain_of_all {s : List Char} (h : (s.all fun c => decide (IsPlain c)) = true) :
    ∀ c ∈ s, IsPlain c := List.all_iff_forall_prop.1 h

theorem isPlain_unitEscape (n : Nat) : ∀ c ∈ unitEscape n, IsPlain c := by
  have hall : ∀ d < 16, IsPlain (Nat.digitChar d) := by decide
  have hmod : ∀ m, IsPlain (Nat.digitChar (m % 16)) := fun m => hall _ (Nat.mod_lt m (by decide))
  have hslash : IsPlain '\\' := by decide
  have hletter : IsPlain 'u' := by decide
  rw [unitEscape, Text.hexadecimal_four]
  simp [hmod, hslash, hletter]

theorem isPlain_writeChar (c : Char) : ∀ d ∈ writeChar c, IsPlain d := by
  unfold writeChar
  iterate 7
    split
    · exact isPlain_of_all (by decide)
  split
  · next hplain => exact fun d hd => List.mem_singleton.1 hd ▸ hplain
  split
  · exact isPlain_unitEscape _
  · exact List.forall_mem_append.2 ⟨isPlain_unitEscape _, isPlain_unitEscape _⟩

theorem isPlain_writePoint (p : Text.Point) : ∀ c ∈ writePoint p, IsPlain c := by
  cases p with
  | char c => exact isPlain_writeChar c
  | half place => exact isPlain_unitEscape _

theorem isPlain_writeString (s : Text) : ∀ c ∈ writeString s, IsPlain c := by
  have hquote : IsPlain '"' := by decide
  have hbody : ∀ c ∈ s.points.flatMap writePoint, IsPlain c := by
    intro c hc
    obtain ⟨p, -, hp⟩ := List.mem_flatMap.1 hc
    exact isPlain_writePoint p c hp
  rw [writeString, List.cons_append]
  exact List.forall_mem_cons.2 ⟨hquote, List.forall_mem_append.2 ⟨hbody, by simpa using hquote⟩⟩

end Json

namespace Text

theorem Point.ofCode_toNat (c : Char) : ofCode c.toNat = .char c := (Point.char c).ofCode_code

/-- A point that does not go with the one behind it stays as it is. -/
theorem joinPairs_cons {p : Point} {points : List Point}
    (h : ∀ q ∈ points.head?, p.paired? q = none) :
    joinPairs (p :: points) = p :: joinPairs points := by
  cases points with
  | nil => rfl
  | cons q rest => rw [joinPairs, h q rfl]

/-- The units of a character past the first plane. -/
theorem exists_halves {c : Char} (h : ¬c.toNat < 0x10000) : ∃ high low : Fin 0x800,
    (Json.codes (.char c)).map Point.ofCode = [.half high, .half low] ∧ high.val < 0x400 ∧
      (Point.half high).paired? (.half low) = some c := by
  have hcode := toNat_lt_or_lt c
  have hfew : (c.toNat - 0x10000) / 0x400 < 0x400 := by omega
  have hhigh : (c.toNat - 0x10000) / 0x400 < 0x800 := by omega
  have hlow : 0x400 + (c.toNat - 0x10000) % 0x400 < 0x800 := by omega
  refine ⟨⟨_, hhigh⟩, ⟨_, hlow⟩, ?_, hfew, ?_⟩
  · have hfirst := Point.ofCode_code (.half ⟨_, hhigh⟩)
    have hsecond := Point.ofCode_code (.half ⟨_, hlow⟩)
    rw [Point.code, Point.firstHalf] at hfirst hsecond
    rw [Json.codes_of_not_lt h, List.map_cons, List.map_singleton, hfirst, ← hsecond,
      ← Nat.add_assoc]
  · have hback : 0x10000 + (c.toNat - 0x10000) / 0x400 * 0x400 +
        (0x400 + (c.toNat - 0x10000) % 0x400 - 0x400) = c.toNat := by omega
    rw [Point.paired?, if_pos ⟨hfew, Nat.le_add_right _ _⟩, hback, Char.ofNat_toNat]

/-- The units of a character are read as that character. -/
theorem joinPairs_codes_char (c : Char) (points : List Point) :
    joinPairs ((Json.codes (.char c)).map Point.ofCode ++ points) =
      .char c :: joinPairs points := by
  by_cases h : c.toNat < 0x10000
  · rw [Json.codes_of_lt h, List.map_singleton, Point.ofCode_toNat, List.singleton_append,
      joinPairs_cons fun q _ => rfl]
  · obtain ⟨high, low, hcodes, -, hpaired⟩ := exists_halves h
    rw [hcodes, List.cons_append, List.singleton_append, joinPairs, hpaired]

/-- Half of a pair goes with the first unit of a point only if it goes with the point. -/
theorem paired?_head?_codes {place : Fin 0x800} {p q : Point}
    (hp : (Point.half place).paired? p = none)
    (hq : q ∈ ((Json.codes p).map Point.ofCode).head?) : (Point.half place).paired? q = none := by
  cases p with
  | half other =>
    obtain rfl : Point.ofCode (Point.half other).code = q := Option.some.inj hq
    rwa [Point.ofCode_code]
  | char c =>
    by_cases h : c.toNat < 0x10000
    · rw [Json.codes_of_lt h, List.map_singleton, Point.ofCode_toNat] at hq
      obtain rfl := Option.some.inj hq
      rfl
    · obtain ⟨high, low, hcodes, hhigh, -⟩ := exists_halves h
      rw [hcodes] at hq
      obtain rfl := Option.some.inj hq
      exact if_neg fun hboth => absurd hboth.2 (by omega)

theorem joinPairs_flatMap_codes {points : List Point} (h : isJoined points = true) :
    joinPairs ((points.flatMap Json.codes).map Point.ofCode) = points := by
  induction points with
  | nil => rfl
  | cons p points ih =>
    rw [List.flatMap_cons, List.map_append]
    cases p with
    | char c => rw [joinPairs_codes_char, ih (isJoined_tail h)]
    | half place =>
      have hhalf : (Json.codes (.half place)).map Point.ofCode = [.half place] :=
        congrArg (fun p => [p]) (Point.half place).ofCode_code
      rw [hhalf, List.singleton_append, joinPairs_cons, ih (isJoined_tail h)]
      intro q hq
      cases points with
      | nil => cases hq
      | cons r rest =>
        obtain ⟨hr, -⟩ := (Bool.and_eq_true _ _).mp h
        obtain ⟨n, others, hcodes⟩ := Json.exists_codes r
        refine paired?_head?_codes (Option.isNone_iff_eq_none.1 hr) ?_
        rw [List.flatMap_cons, hcodes] at hq
        rwa [hcodes]

/-- A text is what its units make. -/
theorem ofCodes_codes (s : Text) : ofCodes (s.points.flatMap Json.codes) = s := by
  obtain ⟨points, hjoined⟩ := s
  have h := joinPairs_flatMap_codes hjoined
  simp only [ofCodes, ofPoints]
  congr 1

end Text

namespace Json

/-- A string is read as it was written. -/
theorem readString_writeString (opened : Nat) (s : Text) (rest : List Char) :
    readString opened (s.points.flatMap writePoint ++ '"' :: rest) = .ok (s, rest) := by
  rw [readString, readCodes_flatMap]
  simp [Except.map, Text.ofCodes_codes]

/-- A half on its own is not taken for the replacement character. -/
example : readString 0 "\\ud800\"".toList = .ok (.ofCodes [0xd800], []) ∧
    Text.ofCodes [0xd800] ≠ Text.ofCodes [0xfffd] := ⟨rfl, by decide⟩

/-! ## Numbers -/

/-- A number ends before the text. -/
def EndsNumber (rest : List Char) : Prop :=
  ∀ c ∈ rest.head?, c.isDigit = false ∧ c ≠ '.' ∧ c ≠ 'e' ∧ c ≠ 'E'

theorem isDigit_toDigits (n : Nat) : ∀ c ∈ Nat.toDigits 10 n, c.isDigit = true := fun _ hc =>
  Nat.isDigit_of_mem_toDigits (by decide) (by decide) hc

theorem toDigits_eq_cons (n : Nat) :
    ∃ c s, Nat.toDigits 10 n = c :: s ∧ c.isDigit = true ∧ (c = '0' → n = 0) := by
  induction n using Nat.strongRecOn with
  | ind n ih =>
    by_cases h : n < 10
    · have hall : ∀ m < 10, (Nat.digitChar m).isDigit = true ∧ (Nat.digitChar m = '0' → m = 0) := by
        decide
      exact ⟨_, [], Nat.toDigits_of_lt_base h, hall n h⟩
    · obtain ⟨c, s, hs, hdigit, hzero⟩ := ih (n / 10) (by omega)
      rw [Nat.toDigits_of_base_le (by decide) (by omega), hs]
      exact ⟨c, s ++ [Nat.digitChar (n % 10)], rfl, hdigit, fun hc => absurd (hzero hc) (by omega)⟩

theorem digitsValue_toDigits (n : Nat) : digitsValue (Nat.toDigits 10 n) = n := by
  rw [digitsValue, ← Nat.ofDigitChars_eq_foldl, Nat.ofDigitChars_ten_toDigits]

variable {rest : List Char}

theorem span_digits {ds : List Char} (hds : ∀ c ∈ ds, c.isDigit = true)
    (hrest : ∀ c ∈ rest.head?, c.isDigit = false) :
    (ds ++ rest).span Char.isDigit = (ds, rest) := by
  rw [List.span_eq_takeWhile_dropWhile, List.takeWhile_append_of_pos hds,
    List.dropWhile_append_of_pos hds]
  cases rest with
  | nil => simp
  | cons c rest => simp [hrest c rfl]

/-- A whole part is a zero or all the digits that there are. -/
theorem wholePart_append {c : Char} {ds : List Char} (hds : ∀ d ∈ c :: ds, d.isDigit = true)
    (hc : c = '0' → ds = []) (hrest : ∀ d ∈ rest.head?, d.isDigit = false) :
    wholePart (c :: ds ++ rest) = (c :: ds, rest) := by
  by_cases hzero : c = '0'
  · rw [hc hzero, hzero]
    rfl
  · rw [← span_digits hds hrest, List.cons_append, wholePart]
    intro t ht
    exact hzero (List.cons.inj ht).1

/-- The whole part of a number is all of its digits. -/
theorem wholePart_toDigits (n : Nat) (hrest : EndsNumber rest) :
    wholePart (Nat.toDigits 10 n ++ rest) = (Nat.toDigits 10 n, rest) := by
  have hdigits := isDigit_toDigits n
  obtain ⟨c, s, hs, -, hzero⟩ := toDigits_eq_cons n
  rw [hs] at hdigits ⊢
  refine wholePart_append hdigits (fun hc => ?_) fun d hd => (hrest d hd).1
  rw [hzero hc, Nat.toDigits_zero] at hs
  exact (List.cons.inj hs).2.symm

theorem fraction?_eq_none (hrest : EndsNumber rest) : fraction? rest = none := by
  unfold fraction?
  split
  · exact absurd rfl (hrest '.' rfl).2.1
  · rfl

theorem exponent?_eq_none (hrest : EndsNumber rest) : exponent? rest = none := by
  unfold exponent?
  split
  · next c rest =>
    obtain ⟨-, -, he, hE⟩ := hrest c rfl
    simp [he, hE]
  · rfl

theorem unsigned?_toDigits {n : Nat} (negative : Bool) (hn : n < 10 ^ Text.digitLimit)
    (hrest : EndsNumber rest) :
    unsigned? negative (Nat.toDigits 10 n ++ rest) =
      some (.ok (.int (if negative then -n else n)), rest) := by
  have hlength : ¬Text.digitLimit < (Nat.toDigits 10 n).length :=
    Nat.not_lt.2 ((Nat.length_toDigits_le_iff (by decide) (by decide)).2 hn)
  have hne : (Nat.toDigits 10 n).isEmpty = false := by simp
  simp only [unsigned?, wholePart_toDigits n hrest, hne, fraction?_eq_none hrest,
    exponent?_eq_none hrest, digitsValue_toDigits]
  simp [hlength]

/-- A number is read as it was written. -/
theorem number?_decimal {n : Int} (hn : Text.isWritable n = true) (hrest : EndsNumber rest) :
    number? (Text.decimal n ++ rest) = some (.ok (.int n), rest) := by
  have hlt : n.natAbs < 10 ^ Text.digitLimit := of_decide_eq_true hn
  cases n with
  | ofNat n =>
    obtain ⟨c, s, hs, hdigit, -⟩ := toDigits_eq_cons n
    have hminus : c ≠ '-' := by
      rintro rfl
      exact absurd hdigit (by decide)
    have hread := unsigned?_toDigits (n := n) false hlt hrest
    rw [hs] at hread
    rw [Text.decimal, hs, List.cons_append, number?]
    · exact hread
    · intro t ht
      exact hminus (List.cons.inj ht).1
  | negSucc n =>
    have hread := unsigned?_toDigits (n := n + 1) true hlt hrest
    exact hread

theorem decimal_eq_cons (n : Int) : ∃ c s, Text.decimal n = c :: s ∧
    (c.isDigit = true ∨ c = '-' ∧ ∃ d t, s = d :: t ∧ d.isDigit = true) := by
  cases n with
  | ofNat n =>
    obtain ⟨c, s, hs, hdigit, -⟩ := toDigits_eq_cons n
    exact ⟨c, s, hs, .inl hdigit⟩
  | negSucc n =>
    obtain ⟨c, s, hs, hdigit, -⟩ := toDigits_eq_cons (n + 1)
    exact ⟨'-', _, rfl, .inr ⟨rfl, c, s, hs, hdigit⟩⟩

/-- A number starts with a digit or a minus. -/
theorem decimal_eq_cons_ne (n : Int) : ∃ c s, Text.decimal n = c :: s ∧
    ∀ d, d.isDigit = false → d ≠ '-' → c ≠ d := by
  obtain ⟨c, s, hs, hc⟩ := decimal_eq_cons n
  refine ⟨c, s, hs, ?_⟩
  rintro d hd hminus rfl
  rcases hc with hc | ⟨hc, -⟩
  · simp [hd] at hc
  · exact hminus hc

theorem isPlain_of_isDigit {c : Char} (h : c.isDigit = true) : IsPlain c := by
  rw [Char.isDigit, Bool.and_eq_true, decide_eq_true_eq, decide_eq_true_eq] at h
  have hlow : '0'.toNat ≤ c.toNat := h.1
  have hhigh : c.toNat ≤ '9'.toNat := h.2
  exact ⟨Nat.le_trans (by decide) hlow, Nat.lt_of_le_of_lt hhigh (by decide)⟩

theorem isPlain_decimal (n : Int) : ∀ c ∈ Text.decimal n, IsPlain c := by
  cases n with
  | ofNat n => exact fun c hc => isPlain_of_isDigit (isDigit_toDigits _ c hc)
  | negSucc n =>
    exact List.forall_mem_cons.2 ⟨by decide, fun c hc => isPlain_of_isDigit (isDigit_toDigits _ c hc)⟩

/-- No name starts with a digit, with or without a minus. -/
theorem name?_of_isDigit {c : Char} (hc : c.isDigit = true) (s : List Char) :
    name? (c :: s) = none ∧ name? ('-' :: c :: s) = none := by
  have hne : ∀ d, d.isDigit = false → ¬d = c := by
    rintro d hd rfl
    exact absurd hc (by simp [hd])
  constructor <;> simp [name?, names, afterWord?, hne]

/-- No name starts as a number does. -/
theorem name?_decimal (n : Int) (rest : List Char) : name? (Text.decimal n ++ rest) = none := by
  obtain ⟨c, s, hs, hdigit | ⟨rfl, d, t, rfl, hdigit⟩⟩ := decimal_eq_cons n
  · rw [hs]
    exact (name?_of_isDigit hdigit _).1
  · rw [hs]
    exact (name?_of_isDigit hdigit _).2

end Json
end ExpiryAudit
