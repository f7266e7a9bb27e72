import Mathlib.Data.Bool.AllAny
import Mathlib.Data.Int.Notation
import Mathlib.Data.List.TakeWhile
import Rulebook.Numeral
import Rulebook.Proofs.Success

/-!
# Reading Numerals

What a decimal literal is and which decimal it writes is said here as it is written: digits, of
which some may follow a point, and an exponent. Such a literal is read as that decimal, with a sign
in front as its negative, and blanks around it do not matter. In the other direction nothing else is
read as a decimal, except that digits of every script are. A text with a comma in it is a NaN.

## Main definitions

* `Sign`, `ExponentPart`, `DecimalLiteral`: the literals and what they write.

## Main results

* `readDecimal?_of_literal`: a decimal literal is read as the decimal that it writes.
* `exists_parts_of_readDecimal?`: what is read as a decimal is written like one.
* `trim_append`: blanks around a text do not matter.
* `read_of_literal`: a signed literal is read as the number nearest to its decimal.
* `read_of_comma`: a text with a comma in it is read as a NaN.
-/

namespace Rulebook.Numeral

open Text

/-! ### Digits -/

/-- What holds of the first characters, one by one, holds of all of them. -/
theorem forall_ascii {P : Char → Prop} (h : ∀ n < 128, P (Char.ofNat n)) {c : Char}
    (hc : c.toNat < 128) : P c := by
  have hP := h c.toNat hc
  rwa [Char.ofNat_toNat] at hP

theorem decimalDigit?_ascii {c : Char} (hc : c.toNat < 128) :
    decimalDigit? c = if c.isDigit then some (c.toNat - '0'.toNat) else none :=
  forall_ascii (P := fun c => decimalDigit? c =
    if c.isDigit then some (c.toNat - '0'.toNat) else none) (by decide +kernel) hc

section Digits

variable {c : Char} {cs : List Char}

theorem toNat_lt_of_isDigit (h : c.isDigit = true) : c.toNat < 128 := by
  obtain ⟨-, hle⟩ := Char.isDigit_iff_toNat.mp h
  exact Nat.lt_of_le_of_lt hle (by decide)

theorem decimalDigit?_of_isDigit (h : c.isDigit = true) :
    decimalDigit? c = some (c.toNat - '0'.toNat) := by
  rw [decimalDigit?_ascii (toNat_lt_of_isDigit h), if_pos h]

theorem isDecimal_of_isDigit (h : c.isDigit = true) : isDecimal c = true := by
  rw [isDecimal, decimalDigit?_of_isDigit h, Option.isSome_some]

theorem isDigit_of_isDecimal (hc : c.toNat < 128) (h : isDecimal c = true) : c.isDigit = true := by
  by_contra hdigit
  rw [isDecimal, decimalDigit?_ascii hc, if_neg hdigit] at h
  cases h

/-- A digit is no other character. -/
theorem ne_of_isDigit {b : Char} (h : c.isDigit = true) (hb : b.isDigit = false) : c ≠ b := by
  rintro rfl
  rw [h] at hb
  cases hb

/-- A decimal digit of any script is no blank. -/
theorem isBlank_of_isDecimal (h : isDecimal c = true) : isBlank c = false := by
  have hapart : ∀ z ∈ decimalZeros, ∀ r ∈ blanks, z + 9 < r.1 ∨ r.2 < z := by decide
  rw [isDecimal, decimalDigit?, Option.isSome_map, List.find?_isSome] at h
  obtain ⟨z, hz, hdigit⟩ := h
  rw [isBlank, Ranges.holds, List.any_eq_false]
  intro r hr hblank
  rw [Bool.and_eq_true, decide_eq_true_iff, decide_eq_true_iff] at hdigit hblank
  have := hapart z hz r hr
  omega

/-- **Digits are read as the number that they write.** -/
theorem valueOf_decimals (h : ∀ c ∈ cs, c.isDigit = true) :
    valueOf 10 (decimals cs) = Nat.ofDigitChars 10 cs 0 := by
  rw [valueOf]
  generalize 0 = value
  induction cs generalizing value with
  | nil => rfl
  | cons c cs ih =>
      obtain ⟨hc, hcs⟩ := List.forall_mem_cons.mp h
      rw [decimals, List.filterMap_cons_some (decimalDigit?_of_isDigit hc), List.foldl_cons,
        Nat.ofDigitChars_cons]
      exact ih hcs _

end Digits

/-! ### Decimal literals -/

/-- **A sign**, or none: does it make negative? -/
inductive Sign : List Char → Bool → Prop
  | unsigned : Sign [] false
  | plus : Sign ['+'] false
  | minus : Sign ['-'] true

/-- **The exponent of a literal**, or none: a mark and a signed run of digits. -/
inductive ExponentPart : List Char → ℤ → Prop
  | absent : ExponentPart [] 0
  | given {mark : Char} {sign digits : List Char} {negative : Bool} :
      mark = 'e' ∨ mark = 'E' → Sign sign negative → digits ≠ [] →
      (∀ c ∈ digits, c.isDigit = true) →
      ExponentPart (mark :: (sign ++ digits))
        (if negative then -Nat.ofDigitChars 10 digits 0 else Nat.ofDigitChars 10 digits 0)

/-- **The decimal literals** without sign: digits, of which some may follow a point, and an
exponent. -/
inductive DecimalLiteral : List Char → Decimal → Prop
  | whole {digits mark : List Char} {e : ℤ} :
      digits ≠ [] → (∀ c ∈ digits, c.isDigit = true) → ExponentPart mark e →
      DecimalLiteral (digits ++ mark) ⟨Nat.ofDigitChars 10 digits 0, e⟩
  | point {whole fraction mark : List Char} {e : ℤ} :
      whole ++ fraction ≠ [] → (∀ c ∈ whole ++ fraction, c.isDigit = true) → ExponentPart mark e →
      DecimalLiteral (whole ++ '.' :: (fraction ++ mark))
        ⟨Nat.ofDigitChars 10 (whole ++ fraction) 0, e - fraction.length⟩

section Reading

variable {cs sign : List Char} {negative : Bool} {e : ℤ} {d : Decimal}

theorem Sign.takeSign (h : Sign sign negative) (hcs : ∀ c ∈ cs.head?, isSign c = false) :
    takeSign (sign ++ cs) = (negative, cs) := by
  cases h with
  | unsigned =>
      rw [List.nil_append, Numeral.takeSign]
      · rintro rest rfl
        cases hcs '-' rfl
      · rintro rest rfl
        cases hcs '+' rfl
  | plus => rfl
  | minus => rfl

/-- What starts with a digit starts with no sign. -/
theorem isSign_of_mem_head? {digits : List Char} (hne : digits ≠ [])
    (h : ∀ c ∈ digits, c.isDigit = true) (rest : List Char) :
    ∀ c ∈ (digits ++ rest).head?, isSign c = false := by
  intro c hc
  cases digits with
  | nil => exact absurd rfl hne
  | cons b digits =>
      obtain rfl : b = c := Option.some.inj hc
      have hb := h b List.mem_cons_self
      rw [isSign, beq_false_of_ne (ne_of_isDigit hb (by decide)),
        beq_false_of_ne (ne_of_isDigit hb (by decide)), Bool.or_false]

theorem ExponentPart.read (h : ExponentPart cs e) : readExponent? cs = some e := by
  cases h with
  | absent => rfl
  | @given mark sign digits negative hmark hsign hne hdigits =>
      have htake : Numeral.takeSign (sign ++ digits) = (negative, digits) := by
        refine hsign.takeSign ?_
        have hhead := isSign_of_mem_head? hne hdigits []
        rwa [List.append_nil] at hhead
      have hall : digits.all isDecimal = true :=
        List.all_eq_true.mpr fun c hc => isDecimal_of_isDigit (hdigits c hc)
      have hempty : digits.isEmpty = false := List.isEmpty_eq_false_iff.mpr hne
      simp [readExponent?, hmark, htake, hall, hempty, valueOf_decimals hdigits]

/-- An exponent does not go on with digits, nor with a point. -/
theorem ExponentPart.head (h : ExponentPart cs e) :
    ∀ c ∈ cs.head?, isDecimal c = false ∧ c ≠ '.' := by
  cases h with
  | absent => simp
  | given hmark =>
      rintro c ⟨⟩
      obtain rfl | rfl := hmark <;> decide

theorem takeWhile_of_head {p : Char → Bool} {digits rest : List Char}
    (h : ∀ c ∈ digits, p c = true) (hrest : ∀ c ∈ rest.head?, p c = false) :
    (digits ++ rest).takeWhile p = digits ∧ (digits ++ rest).dropWhile p = rest := by
  rw [List.takeWhile_append_of_pos h, List.dropWhile_append_of_pos h]
  cases rest with
  | nil => simp
  | cons b rest => simp [hrest b rfl]

/-- **A decimal literal is read as the decimal that it writes.** -/
theorem readDecimal?_of_literal (h : DecimalLiteral cs d) : readDecimal? cs = some d := by
  cases h with
  | @whole digits mark e hne hdigits hmark =>
      have hdecimal : ∀ c ∈ digits, isDecimal c = true :=
        fun c hc => isDecimal_of_isDigit (hdigits c hc)
      obtain ⟨htake, hdrop⟩ := takeWhile_of_head hdecimal fun c hc => (hmark.head c hc).1
      have hfraction : takeFraction mark = ([], mark) := by
        rw [takeFraction]
        rintro rest rfl
        exact (hmark.head '.' rfl).2 rfl
      simp [readDecimal?, htake, hdrop, hfraction, hne, hmark.read, valueOf_decimals hdigits]
  | @point whole fraction mark e hne hdigits hmark =>
      have hwhole : ∀ c ∈ whole, isDecimal c = true :=
        fun c hc => isDecimal_of_isDigit (hdigits c (List.mem_append_left _ hc))
      have hfraction : ∀ c ∈ fraction, isDecimal c = true :=
        fun c hc => isDecimal_of_isDigit (hdigits c (List.mem_append_right _ hc))
      have hpoint : ∀ c ∈ ('.' :: (fraction ++ mark)).head?, isDecimal c = false := by
        rintro c ⟨⟩
        decide
      obtain ⟨htake, hdrop⟩ := takeWhile_of_head hwhole hpoint
      obtain ⟨htake', hdrop'⟩ := takeWhile_of_head hfraction fun c hc => (hmark.head c hc).1
      have hempty : (whole.isEmpty && fraction.isEmpty) = false := by
        rw [Bool.and_eq_false_iff, List.isEmpty_eq_false_iff, List.isEmpty_eq_false_iff]
        simpa [or_iff_not_imp_left] using hne
      simp [readDecimal?, htake, hdrop, takeFraction, htake', hdrop', hempty, hmark.read,
        valueOf_decimals hdigits]

/-! ### The parts of what is read -/

theorem exists_sign (cs : List Char) :
    ∃ sign, Sign sign (takeSign cs).1 ∧ cs = sign ++ (takeSign cs).2 := by
  fun_cases takeSign cs with
  | case1 rest => exact ⟨['-'], .minus, rfl⟩
  | case2 rest => exact ⟨['+'], .plus, rfl⟩
  | case3 => exact ⟨[], .unsigned, rfl⟩

theorem exists_parts_of_readExponent? (h : readExponent? cs = some e) (hne : cs ≠ []) :
    ∃ mark sign negative digits, (mark = 'e' ∨ mark = 'E') ∧ Sign sign negative ∧ digits ≠ [] ∧
      (∀ c ∈ digits, isDecimal c = true) ∧ cs = mark :: (sign ++ digits) := by
  cases cs with
  | nil => exact absurd rfl hne
  | cons mark rest =>
      rw [readExponent?] at h
      split at h
      · next hmark =>
          obtain ⟨sign, hsign, hrest⟩ := exists_sign rest
          rw [Option.ite_none_left_eq_some, Bool.or_eq_true, not_or, Bool.not_eq_true',
            Bool.not_eq_false, List.isEmpty_iff, List.all_eq_true] at h
          obtain ⟨⟨hdigits, hall⟩, -⟩ := h
          exact ⟨mark, sign, _, _, hmark, hsign, hdigits, hall, congrArg _ hrest⟩
      · cases h

theorem exists_fraction (cs : List Char) :
    (∀ c ∈ (takeFraction cs).1, isDecimal c = true) ∧
      (cs = '.' :: ((takeFraction cs).1 ++ (takeFraction cs).2) ∨
        (takeFraction cs).1 = [] ∧ cs = (takeFraction cs).2) := by
  fun_cases takeFraction cs with
  | case1 rest =>
      refine ⟨fun c hc => List.mem_takeWhile_imp hc, .inl ?_⟩
      rw [List.takeWhile_append_dropWhile]
  | case2 => exact ⟨List.forall_mem_nil _, .inr ⟨rfl, rfl⟩⟩

/-- **What is read as a decimal is written like one**, but with digits of every script. -/
theorem exists_parts_of_readDecimal? (h : readDecimal? cs = some d) :
    ∃ whole fraction rest e, whole ++ fraction ≠ [] ∧
      (∀ c ∈ whole ++ fraction, isDecimal c = true) ∧ readExponent? rest = some e ∧
      (cs = whole ++ '.' :: (fraction ++ rest) ∨ fraction = [] ∧ cs = whole ++ rest) := by
  obtain ⟨hfraction, hrest⟩ := exists_fraction (cs.dropWhile isDecimal)
  have hsplit := List.takeWhile_append_dropWhile (p := isDecimal) (l := cs)
  simp only [readDecimal?] at h
  split at h
  · cases h
  · next hne =>
      obtain ⟨e, he, -⟩ := Option.bind_eq_some_iff.mp h
      refine ⟨cs.takeWhile isDecimal, (takeFraction (cs.dropWhile isDecimal)).1, _, e, ?_, ?_, he,
        ?_⟩
      · simpa using hne
      · exact List.forall_mem_append.mpr ⟨fun c hc => List.mem_takeWhile_imp hc, hfraction⟩
      · rcases hrest with hpoint | ⟨hnone, hwhole⟩
        · exact .inl (by rw [← hpoint, hsplit])
        · exact .inr ⟨hnone, by rw [← hwhole, hsplit]⟩

/-- Where only plain digits occur, what is read as an exponent is one. -/
theorem exponentPart_of_read (hplain : ∀ c ∈ cs, isDecimal c = true → c.isDigit = true)
    (h : readExponent? cs = some e) : ExponentPart cs e := by
  have hpart : ∃ e', ExponentPart cs e' := by
    by_cases hne : cs = []
    · exact ⟨0, hne ▸ .absent⟩
    · obtain ⟨mark, sign, negative, digits, hmark, hsign, hdigits, hall, rfl⟩ :=
        exists_parts_of_readExponent? h hne
      refine ⟨_, .given hmark hsign hdigits fun c hc => hplain c ?_ (hall c hc)⟩
      exact List.mem_cons_of_mem _ (List.mem_append_right _ hc)
  obtain ⟨e', he'⟩ := hpart
  rw [he'.read] at h
  obtain rfl := Option.some.inj h
  exact he'

/-- **Where only plain digits occur, what is read as a decimal is a literal that writes it.** -/
theorem decimalLiteral_of_read (hplain : ∀ c ∈ cs, isDecimal c = true → c.isDigit = true)
    (h : readDecimal? cs = some d) : DecimalLiteral cs d := by
  have hliteral : ∃ d', DecimalLiteral cs d' := by
    obtain ⟨whole, fraction, rest, e, hne, hall, he, rfl | ⟨rfl, rfl⟩⟩ :=
      exists_parts_of_readDecimal? h
    · have hmark := exponentPart_of_read (fun c hc => hplain c (by simp [hc])) he
      refine ⟨_, .point hne (fun c hc => hplain c ?_ (hall c hc)) hmark⟩
      rcases List.mem_append.mp hc with hc | hc <;> simp [hc]
    · rw [List.append_nil] at hne hall
      have hmark := exponentPart_of_read (fun c hc => hplain c (List.mem_append_right _ hc)) he
      exact ⟨_, .whole hne (fun c hc => hplain c (List.mem_append_left _ hc) (hall c hc)) hmark⟩
  obtain ⟨d', hd'⟩ := hliteral
  rw [readDecimal?_of_literal hd'] at h
  obtain rfl := Option.some.inj h
  exact hd'

/-- The characters beside the digits of a decimal literal. -/
def marks : List Char := ['.', 'e', 'E', '+', '-']

theorem mem_of_readExponent? (h : readExponent? cs = some e) :
    ∀ c ∈ cs, isDecimal c = true ∨ c ∈ marks := by
  by_cases hne : cs = []
  · exact hne ▸ List.forall_mem_nil _
  · obtain ⟨mark, sign, negative, digits, hmark, hsign, -, hall, rfl⟩ :=
      exists_parts_of_readExponent? h hne
    refine List.forall_mem_cons.mpr ⟨.inr ?_, List.forall_mem_append.mpr
      ⟨fun c hc => .inr ?_, fun c hc => .inl (hall c hc)⟩⟩
    · obtain rfl | rfl := hmark <;> decide
    · cases hsign with
      | unsigned => cases hc
      | plus => exact List.eq_of_mem_singleton hc ▸ by decide
      | minus => exact List.eq_of_mem_singleton hc ▸ by decide

/-- Nothing but digits and marks is read as a decimal. -/
theorem mem_of_readDecimal? (h : readDecimal? cs = some d) :
    ∀ c ∈ cs, isDecimal c = true ∨ c ∈ marks := by
  obtain ⟨whole, fraction, rest, e, -, hall, he, hcs⟩ := exists_parts_of_readDecimal? h
  obtain ⟨hwhole, hfraction⟩ := List.forall_mem_append.mp hall
  have hrest := mem_of_readExponent? he
  rcases hcs with rfl | ⟨rfl, rfl⟩
  · exact List.forall_mem_append.mpr ⟨fun c hc => .inl (hwhole c hc),
      List.forall_mem_cons.mpr ⟨.inr (by decide),
        List.forall_mem_append.mpr ⟨fun c hc => .inl (hfraction c hc), hrest⟩⟩⟩
  · exact List.forall_mem_append.mpr ⟨fun c hc => .inl (hwhole c hc), hrest⟩

theorem DecimalLiteral.ne_nil (h : DecimalLiteral cs d) : cs ≠ [] := by
  cases h with
  | whole hne => exact List.append_ne_nil_of_left_ne_nil hne _
  | point => simp

theorem DecimalLiteral.mem (h : DecimalLiteral cs d) :
    ∀ c ∈ cs, isDecimal c = true ∨ c ∈ marks :=
  mem_of_readDecimal? (readDecimal?_of_literal h)

/-- A decimal literal starts with a digit or a point. -/
theorem DecimalLiteral.head (h : DecimalLiteral cs d) : ∀ c ∈ cs.head?, isSign c = false := by
  cases h with
  | whole hne hdigits => exact isSign_of_mem_head? hne hdigits _
  | @point whole fraction mark e hne hdigits hmark =>
      by_cases hwhole : whole = []
      · subst hwhole
        rintro c ⟨⟩
        decide
      · exact isSign_of_mem_head? hwhole (fun c hc => hdigits c (List.mem_append_left _ hc)) _

end Reading

/-! ### Blanks -/

section Blanks

variable {before core after : List Char}

/-- **Blanks around a text do not matter.** -/
theorem trim_append (hbefore : ∀ c ∈ before, isBlank c = true)
    (hcore : ∀ c ∈ core, isBlank c = false) (hafter : ∀ c ∈ after, isBlank c = true) :
    trim (before ++ core ++ after) = core := by
  have hreverse : ∀ c ∈ after.reverse, isBlank c = true :=
    fun c hc => hafter c (List.mem_reverse.mp hc)
  rw [trim, List.append_assoc, List.dropWhile_append_of_pos hbefore]
  cases core with
  | nil =>
      rw [List.nil_append, List.dropWhile_eq_nil_iff.mpr hafter]
      rfl
  | cons b core =>
      have hb := hcore b List.mem_cons_self
      have hlast : ((b :: core).reverse).dropWhile isBlank = (b :: core).reverse := by
        rw [List.dropWhile_eq_self_iff]
        intro hlength hblank
        rw [hcore _ (List.mem_reverse.mp (List.getElem_mem hlength))] at hblank
        cases hblank
      rw [List.cons_append, List.dropWhile_cons_of_neg (by rw [hb]; decide), ← List.cons_append,
        List.reverse_append, List.dropWhile_append_of_pos hreverse, hlast, List.reverse_reverse]

theorem trim_eq_self (hcore : ∀ c ∈ core, isBlank c = false) : trim core = core := by
  have htrim := trim_append (List.forall_mem_nil _) hcore (List.forall_mem_nil _)
  rwa [List.nil_append, List.append_nil] at htrim

/-- A text is what remains of it, with blanks around. -/
theorem exists_blanks (cs : List Char) :
    ∃ before after, (∀ c ∈ before, isBlank c = true) ∧ (∀ c ∈ after, isBlank c = true) ∧
      cs = before ++ trim cs ++ after := by
  have hbefore := List.takeWhile_append_dropWhile (p := isBlank) (l := cs)
  have hafter := List.takeWhile_append_dropWhile (p := isBlank)
    (l := (cs.dropWhile isBlank).reverse)
  refine ⟨cs.takeWhile isBlank, ((cs.dropWhile isBlank).reverse.takeWhile isBlank).reverse,
    fun c hc => List.mem_takeWhile_imp hc,
    fun c hc => List.mem_takeWhile_imp (List.mem_reverse.mp hc), ?_⟩
  rw [trim, List.append_assoc, ← List.reverse_append, hafter, List.reverse_reverse, hbefore]

end Blanks

/-! ### Texts -/

section Texts

variable {cs sign : List Char} {negative : Bool} {d : Decimal}

theorem base?_of_mem {c : Char} (h : isDecimal c = true ∨ c ∈ marks) : base? c = none := by
  have hother : ∀ b ∈ ['x', 'X', 'o', 'O', 'b', 'B'], ¬(isDecimal b = true ∨ b ∈ marks) :=
    List.all_iff_forall_prop.mp (by decide)
  have hne : ∀ b ∈ ['x', 'X', 'o', 'O', 'b', 'B'], c ≠ b := fun b hb hcb => hother b hb (hcb ▸ h)
  simp only [List.forall_mem_cons] at hne
  simp [base?, hne]

/-- A decimal literal announces no other base. -/
theorem DecimalLiteral.announced? (h : DecimalLiteral cs d) : announced? cs = none := by
  fun_cases Numeral.announced? cs with
  | case1 c rest =>
      rw [base?_of_mem (h.mem c (List.mem_cons_of_mem _ List.mem_cons_self))]
      rfl
  | case2 => rfl

theorem DecimalLiteral.ne_infinity (h : DecimalLiteral cs d) : cs ≠ infinity := by
  rintro rfl
  exact absurd (h.mem 'I' (by decide)) (by decide)

theorem Sign.dropWhile (hsign : Sign sign negative) (hcs : ∀ c ∈ cs.head?, isSign c = false) :
    (sign ++ cs).dropWhile isSign = cs := by
  have hdrop : cs.dropWhile isSign = cs := by
    cases cs with
    | nil => rfl
    | cons b cs => exact List.dropWhile_cons_of_neg (by rw [hcs b rfl]; decide)
  cases hsign <;> exact hdrop

/-- The number that a text without blanks writes. -/
theorem read_of_blankless (hne : cs ≠ []) (hcs : ∀ c ∈ cs, isBlank c = false)
    (hannounced : Numeral.announced? (cs.dropWhile isSign) = none) :
    read cs = .ok (readSigned cs) := by
  simp [read, trim_eq_self hcs, hne, hannounced]

theorem isBlank_of_mem {c : Char} (h : isDecimal c = true ∨ c ∈ marks) : isBlank c = false := by
  have hmarks : ∀ b ∈ marks, isBlank b = false := List.all_iff_forall_prop.mp (by decide)
  rcases h with hdecimal | hmark
  · exact isBlank_of_isDecimal hdecimal
  · exact hmarks c hmark

theorem Sign.isBlank (hsign : Sign sign negative) : ∀ c ∈ sign, isBlank c = false := by
  cases hsign with
  | unsigned => exact List.forall_mem_nil _
  | plus => exact List.forall_mem_singleton.mpr (by decide)
  | minus => exact List.forall_mem_singleton.mpr (by decide)

/-- **A signed literal is read as the number nearest to its decimal.** -/
theorem read_of_literal (hsign : Sign sign negative) (h : DecimalLiteral cs d) :
    read (sign ++ cs) = .ok (d.toBinary64 negative) := by
  have hblank : ∀ c ∈ sign ++ cs, Text.isBlank c = false :=
    List.forall_mem_append.mpr ⟨hsign.isBlank, fun c hc => isBlank_of_mem (h.mem c hc)⟩
  have hdrop := hsign.dropWhile h.head
  rw [read_of_blankless (List.append_ne_nil_of_right_ne_nil _ h.ne_nil) hblank
    (by rw [hdrop, h.announced?])]
  simp [readSigned, hsign.takeSign h.head, h.ne_infinity, readDecimal?_of_literal h]

theorem announced?_eq_some_iff {base : Nat} {digits : List Char} :
    announced? cs = some (base, digits) ↔
      ∃ mark, base? mark = some base ∧ cs = '0' :: mark :: digits := by
  constructor
  · fun_cases Numeral.announced? cs with
    | case1 mark rest =>
        intro h
        obtain ⟨base', hbase, heq⟩ := Option.map_eq_some_iff.mp h
        cases heq
        exact ⟨mark, hbase, rfl⟩
    | case2 => nofun
  · rintro ⟨mark, hbase, rfl⟩
    rw [Numeral.announced?, hbase, Option.map_some]

theorem readBased?_eq_some_iff {base n : Nat} :
    readBased? base cs = some n ↔
      cs ≠ [] ∧ ∃ ds, List.Forall₂ (fun c d => digit? base c = some d) cs ds ∧
        valueOf base ds = n := by
  rw [readBased?, Option.ite_none_left_eq_some, List.isEmpty_iff, Option.map_eq_some_iff]
  simp only [mapM_eq_some_iff, ne_eq]

/-! ### Separators -/

theorem comma_mem_trim (h : ',' ∈ cs) : ',' ∈ trim cs := by
  obtain ⟨before, after, hbefore, hafter, hcs⟩ := exists_blanks cs
  rw [hcs] at h
  rcases List.mem_append.mp h with h | h
  · rcases List.mem_append.mp h with h | h
    · exact absurd (hbefore _ h) (by decide)
    · exact h
  · exact absurd (hafter _ h) (by decide)

theorem readBased?_of_comma {base : Nat} (h : ',' ∈ cs) : readBased? base cs = none := by
  rw [Option.eq_none_iff_forall_ne_some]
  intro n hn
  obtain ⟨-, ds, hds, -⟩ := readBased?_eq_some_iff.mp hn
  obtain ⟨d, -, hd⟩ := exists_mem_zip_of_forall₂ hds h
  cases hd

theorem readSigned_of_comma (h : ',' ∈ cs) : readSigned cs = .nan := by
  obtain ⟨sign, hsign, hcs⟩ := exists_sign cs
  have hrest : ',' ∈ (takeSign cs).2 := by
    rw [hcs, List.mem_append] at h
    refine h.resolve_left fun hmem => ?_
    generalize (takeSign cs).1 = negative at hsign
    revert hmem
    cases hsign <;> decide
  have hinfinity : (takeSign cs).2 ≠ infinity := by
    intro heq
    rw [heq] at hrest
    revert hrest
    decide
  have hread : readDecimal? (takeSign cs).2 = none := by
    rw [Option.eq_none_iff_forall_ne_some]
    intro d hd
    exact absurd (mem_of_readDecimal? hd ',' hrest) (by decide)
  simp only [readSigned, hinfinity, if_false, hread, Option.elim_none]

/-- **A text with a comma in it is read as a NaN.** -/
theorem read_of_comma (h : ',' ∈ cs) : read cs = .ok .nan := by
  have hmem := comma_mem_trim h
  have hne : (trim cs).isEmpty = false :=
    List.isEmpty_eq_false_iff.mpr (List.ne_nil_of_mem hmem)
  have hdrop : ',' ∈ (trim cs).dropWhile isSign := by
    rw [← List.takeWhile_append_dropWhile (p := isSign) (l := trim cs), List.mem_append] at hmem
    exact hmem.resolve_left fun hsign => by cases List.mem_takeWhile_imp hsign
  simp only [read, hne, Bool.false_eq_true, if_false, readSigned_of_comma hmem]
  cases hannounced : announced? ((trim cs).dropWhile isSign) with
  | none => rfl
  | some found =>
      obtain ⟨base, digits⟩ := found
      obtain ⟨mark, hbase, hcs⟩ := announced?_eq_some_iff.mp hannounced
      have hdigits : ',' ∈ digits := by
        rw [hcs, List.mem_cons, List.mem_cons] at hdrop
        obtain hzero | hmark | hdigits := hdrop
        · cases hzero
        · rw [← hmark] at hbase
          cases hbase
        · exact hdigits
      simp [readBased?_of_comma hdigits]

end Texts

end Rulebook.Numeral
