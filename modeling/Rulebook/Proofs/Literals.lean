import Mathlib.Data.Nat.Digits.Defs
import Rulebook.Proofs.Numerals
import Rulebook.Proofs.Rounding
import Rulebook.Value.Number

/-!
# Texts That Write Numbers

Which texts write a number is the grammar of numeric literals: a decimal literal or an infinity with
a sign or without, or a whole number in another base, with blanks around it, or blanks alone. Here
this grammar is told as literals are written, for texts of plain characters, and compared with the
numbers that texts count as.

A literal never writes a NaN, and nothing else writes anything but a NaN. A whole number in another
base may be too large, which no decimal literal is.

## Main definitions

* `Numeral.BasedLiteral`: a whole number in another base, and what it writes.
* `Numeral.Literal`, `Numeral.TooLarge`: the numeric literals, and those that are too large.
* `Numeral.Surrounded`: a text with blanks around it.

## Main results

* `Numeral.basedLiteral_iff`: what is read in another base is what is written in it.
* `Numeral.read_of_not_literal`: what is no literal is read as a NaN.
* `Value.toNumber_text_literal`: a text counts as a number exactly when it writes a literal.
-/

namespace Rulebook

namespace Numeral

open Text

/-! ### Other bases -/

/-- A digit is written by a figure or, from ten on, by a letter of either case. -/
def WritesDigit (base : ℕ) (c : Char) (d : ℕ) : Prop :=
  d < base ∧ (c = Nat.digitChar d ∨ c = (Nat.digitChar d).toUpper)

/-- The letters that announce a base after a zero. -/
def announcements : List (Char × ℕ) :=
  [('x', 16), ('X', 16), ('o', 8), ('O', 8), ('b', 2), ('B', 2)]

/-- **The literals of other bases**, and the whole numbers that they write: an announcement and at
least one digit of the base. -/
inductive BasedLiteral : List Char → ℕ → Prop
  | announced {mark : Char} {base : ℕ} {digits : List Char} {ds : List ℕ} :
      (mark, base) ∈ announcements → digits ≠ [] → List.Forall₂ (WritesDigit base) digits ds →
      BasedLiteral ('0' :: mark :: digits) (Nat.ofDigits base ds.reverse)

section Bases

variable {base n d : ℕ} {c : Char} {cs : List Char}

theorem base?_eq_some_iff : base? c = some base ↔ (c, base) ∈ announcements := by
  simp only [base?, announcements, List.mem_cons, List.not_mem_nil, Prod.mk.injEq]
  grind

theorem le_of_announced (h : (c, base) ∈ announcements) : base ≤ 16 := by
  have hle : ∀ a ∈ announcements, a.2 ≤ 16 := by decide
  exact hle _ h

/-- The first digits are those of a greater base. -/
theorem digit?_eq_some_iff (hbase : base ≤ 16) :
    digit? base c = some d ↔ d < base ∧ digit? 16 c = some d := by
  simp only [digit?, Option.filter_eq_some_iff, decide_eq_true_iff]
  constructor
  · rintro ⟨hvalue, hd⟩
    exact ⟨hd, hvalue, hd.trans_le hbase⟩
  · rintro ⟨hd, hvalue, -⟩
    exact ⟨hvalue, hd⟩

theorem hexDigit?_iff (hc : c.toNat < 128) (hd : d < 16) :
    digit? 16 c = some d ↔ c = Nat.digitChar d ∨ c = (Nat.digitChar d).toUpper := by
  constructor
  · exact forall_ascii (P := fun c => ∀ d ∈ digit? 16 c,
      c = Nat.digitChar d ∨ c = (Nat.digitChar d).toUpper) (by decide +kernel) hc d
  · have hdigits : ∀ d < 16, digit? 16 (Nat.digitChar d) = some d ∧
        digit? 16 (Nat.digitChar d).toUpper = some d := by decide +kernel
    rintro (rfl | rfl)
    · exact (hdigits d hd).1
    · exact (hdigits d hd).2

/-- **A digit is read as it is written.** -/
theorem digit?_iff (hbase : base ≤ 16) (hc : c.toNat < 128) :
    digit? base c = some d ↔ WritesDigit base c d := by
  rw [digit?_eq_some_iff hbase, WritesDigit]
  exact and_congr_right fun hd => hexDigit?_iff hc (hd.trans_le hbase)

theorem WritesDigit.plain (hbase : base ≤ 16) (h : WritesDigit base c d) :
    c.toNat < 128 ∧ isBlank c = false := by
  obtain ⟨hd, hc⟩ := h
  have hdigits : ∀ d < 16,
      ((Nat.digitChar d).toNat < 128 ∧ isBlank (Nat.digitChar d) = false) ∧
        (Nat.digitChar d).toUpper.toNat < 128 ∧ isBlank (Nat.digitChar d).toUpper = false := by
    decide
  obtain ⟨hlower, hupper⟩ := hdigits d (hd.trans_le hbase)
  rcases hc with rfl | rfl
  · exact hlower
  · exact hupper

theorem valueOf_eq_ofDigits (base : ℕ) (ds : List ℕ) :
    valueOf base ds = Nat.ofDigits base ds.reverse := by
  rw [valueOf, Nat.ofDigits_eq_foldr, List.foldr_reverse]
  simp only [Nat.cast_id, Nat.add_comm]

theorem readDigits_iff {ds : List ℕ} (hbase : base ≤ 16) (hcs : ∀ c ∈ cs, c.toNat < 128) :
    List.Forall₂ (fun c d => digit? base c = some d) cs ds ↔
      List.Forall₂ (WritesDigit base) cs ds := by
  induction cs generalizing ds with
  | nil => rw [List.forall₂_nil_left_iff, List.forall₂_nil_left_iff]
  | cons c cs ih =>
      obtain ⟨hc, hcs⟩ := List.forall_mem_cons.mp hcs
      simp only [List.forall₂_cons_left_iff, digit?_iff hbase hc, ih hcs]

/-- **What is read in another base is what is written in it.** -/
theorem basedLiteral_iff (hcs : ∀ c ∈ cs, c.toNat < 128) :
    BasedLiteral cs n ↔
      ∃ base digits, announced? cs = some (base, digits) ∧ readBased? base digits = some n := by
  simp only [announced?_eq_some_iff, readBased?_eq_some_iff, base?_eq_some_iff]
  constructor
  · rintro ⟨hmark, hdigits, hds⟩
    refine ⟨_, _, ⟨_, hmark, rfl⟩, hdigits, _, ?_, valueOf_eq_ofDigits _ _⟩
    exact (readDigits_iff (le_of_announced hmark)
      fun c hc => hcs c (List.mem_cons_of_mem _ (List.mem_cons_of_mem _ hc))).mpr hds
  · rintro ⟨base, digits, ⟨mark, hmark, rfl⟩, hdigits, ds, hds, rfl⟩
    rw [valueOf_eq_ofDigits]
    refine .announced hmark hdigits ((readDigits_iff (le_of_announced hmark) ?_).mp hds)
    exact fun c hc => hcs c (List.mem_cons_of_mem _ (List.mem_cons_of_mem _ hc))

/-- A literal of another base is made of plain characters and has no blanks. -/
theorem BasedLiteral.plain (h : BasedLiteral cs n) :
    ∀ c ∈ cs, c.toNat < 128 ∧ isBlank c = false := by
  obtain ⟨hmark, -, hds⟩ := h
  have hplain : ∀ a ∈ announcements, a.1.toNat < 128 ∧ isBlank a.1 = false := by decide
  refine List.forall_mem_cons.mpr ⟨by decide, List.forall_mem_cons.mpr ⟨hplain _ hmark, ?_⟩⟩
  intro c hc
  obtain ⟨d, -, hd⟩ := exists_mem_zip_of_forall₂ hds hc
  exact hd.plain (le_of_announced hmark)

/-- A literal of another base is read as the whole number that it writes. -/
theorem BasedLiteral.read (h : BasedLiteral cs n) : read cs = ofInt n := by
  obtain ⟨base, digits, hannounced, hread⟩ := (basedLiteral_iff fun c hc => (h.plain c hc).1).mp h
  have htrim : trim cs = cs := trim_eq_self fun c hc => (h.plain c hc).2
  obtain ⟨mark, -, rfl⟩ := announced?_eq_some_iff.mp hannounced
  have hzero : isSign '0' = false := by decide
  have hdrop : ('0' :: mark :: digits).dropWhile isSign = '0' :: mark :: digits :=
    List.dropWhile_cons_of_neg (by decide)
  simp [Numeral.read, htrim, hdrop, hannounced, hread, hzero]

end Bases

/-! ### Literals -/

/-- **The numeric literals**, without blanks around: nothing at all, a decimal literal or an
infinity with a sign or without, or a whole number in another base, which has no sign. -/
inductive Literal : List Char → Prop
  | empty : Literal []
  | decimal {sign cs : List Char} {negative : Bool} {d : Decimal} :
      Sign sign negative → DecimalLiteral cs d → Literal (sign ++ cs)
  | infinity {sign : List Char} {negative : Bool} :
      Sign sign negative → Literal (sign ++ "Infinity".toList)
  | based {cs : List Char} {n : ℕ} : BasedLiteral cs n → Literal cs

/-- **A literal that is too large**: a whole number in another base that is rounded to no finite
number. -/
def TooLarge (cs : List Char) : Prop := ∃ n, BasedLiteral cs n ∧ Binary64.firstTooLarge ≤ n

section Literals

variable {cs sign : List Char} {negative : Bool}

theorem isBlank_infinity (hsign : Sign sign negative) :
    ∀ c ∈ sign ++ "Infinity".toList, isBlank c = false :=
  List.forall_mem_append.mpr ⟨hsign.isBlank, List.all_iff_forall_prop.mp (by decide)⟩

theorem Literal.isBlank (h : Literal cs) : ∀ c ∈ cs, isBlank c = false := by
  cases h with
  | empty => exact List.forall_mem_nil _
  | decimal hsign h =>
      exact List.forall_mem_append.mpr ⟨hsign.isBlank, fun c hc => isBlank_of_mem (h.mem c hc)⟩
  | infinity hsign => exact isBlank_infinity hsign
  | based h => exact fun c hc => (h.plain c hc).2

theorem TooLarge.literal (h : TooLarge cs) : Literal cs := by
  obtain ⟨n, hn, -⟩ := h
  exact .based hn

theorem TooLarge.isBlank (h : TooLarge cs) : ∀ c ∈ cs, Text.isBlank c = false := h.literal.isBlank

theorem read_infinity (hsign : Sign sign negative) :
    read (sign ++ "Infinity".toList) = .ok (.infinite negative) := by
  cases hsign <;> decide +kernel

theorem isNaN_toBinary64 (negative : Bool) (d : Decimal) :
    (d.toBinary64 negative).isNaN = false := by
  rw [Decimal.toBinary64]
  repeat' split
  · rfl
  · rfl
  · rfl
  · rw [Binary64.round]
    split <;> rfl

/-- What is too large is refused. -/
theorem TooLarge.read (h : TooLarge cs) : read cs = .error .integerTooLarge := by
  obtain ⟨n, hn, hlarge⟩ := h
  rw [hn.read, ofInt, Binary64.ofInt?_eq_none_iff.mpr (by rwa [Int.natAbs_natCast])]
  rfl

/-- **Every other literal is read as a number.** -/
theorem Literal.exists_read (h : Literal cs) (hrange : ¬TooLarge cs) :
    ∃ x, read cs = .ok x ∧ x.isNaN = false := by
  cases h with
  | empty => exact ⟨.zero, by decide, rfl⟩
  | decimal hsign h => exact ⟨_, read_of_literal hsign h, isNaN_toBinary64 _ _⟩
  | infinity hsign => exact ⟨_, read_infinity hsign, rfl⟩
  | @based _ n h =>
      have hsome : Binary64.ofInt? n ≠ none := by
        rw [ne_eq, Binary64.ofInt?_eq_none_iff, Int.natAbs_natCast]
        exact fun hlarge => hrange ⟨n, h, hlarge⟩
      obtain ⟨x, hx⟩ := Option.ne_none_iff_exists'.mp hsome
      obtain ⟨m, -, rfl⟩ := Binary64.exists_magnitude_of_ofInt? hx
      exact ⟨_, h.read.trans (Fault.ifNone_eq_ok_iff.mpr hx), rfl⟩

theorem literal_of_readSigned (hcs : ∀ c ∈ cs, c.toNat < 128) (h : readSigned cs ≠ .nan) :
    Literal cs := by
  obtain ⟨sign, hsign, hsplit⟩ := exists_sign cs
  have hplain : ∀ c ∈ (takeSign cs).2, isDecimal c = true → c.isDigit = true := by
    intro c hc
    exact isDigit_of_isDecimal (hcs c (hsplit ▸ List.mem_append_right _ hc))
  simp only [readSigned] at h
  rw [hsplit]
  split at h
  · next hinfinity =>
      rw [hinfinity]
      exact .infinity hsign
  · cases hread : readDecimal? (takeSign cs).2 with
    | none =>
        rw [hread] at h
        exact absurd rfl h
    | some d => exact .decimal hsign (decimalLiteral_of_read hplain hread)

/-- **What is no literal is read as a NaN.** -/
theorem read_of_not_literal (hcs : ∀ c ∈ cs, c.toNat < 128) (h : ¬Literal (trim cs)) :
    read cs = .ok .nan := by
  have hmem : ∀ c ∈ trim cs, c.toNat < 128 := by
    obtain ⟨before, after, -, -, hsplit⟩ := exists_blanks cs
    intro c hc
    refine hcs c ?_
    rw [hsplit]
    exact List.mem_append_left _ (List.mem_append_right _ hc)
  simp only [read]
  generalize trim cs = core at h hmem
  have hne : core.isEmpty = false := by
    rw [List.isEmpty_eq_false_iff]
    rintro rfl
    exact h .empty
  have hsigned : readSigned core = .nan := by
    by_contra hsigned
    exact h (literal_of_readSigned hmem hsigned)
  simp only [hne, Bool.false_eq_true, if_false, hsigned]
  cases hannounced : announced? (core.dropWhile isSign) with
  | none => rfl
  | some found =>
      obtain ⟨base, digits⟩ := found
      cases core with
      | nil => cases hne
      | cons b core =>
          by_cases hb : isSign b = true
          · simp [hb]
          · rw [List.dropWhile_cons_of_neg hb] at hannounced
            have hread : readBased? base digits = none := by
              rw [Option.eq_none_iff_forall_ne_some]
              intro n hn
              exact h (.based ((basedLiteral_iff hmem).mpr ⟨_, _, hannounced, hn⟩))
            simp [hb, hread]

end Literals

/-! ### Blanks around literals -/

/-- The ordinary blanks. -/
def ordinaryBlanks : List Char := [' ', '\t', '\n', '\r', '\x0b', '\x0c']

/-- A plain character is a printable one of ASCII or an ordinary blank. -/
def IsPlain (c : Char) : Prop := 0x20 ≤ c.toNat ∧ c.toNat ≤ 0x7e ∨ c ∈ ordinaryBlanks

instance : DecidablePred IsPlain := fun _ => inferInstanceAs (Decidable (_ ∨ _))

/-- A text with ordinary blanks around something. -/
def Surrounded (P : List Char → Prop) (cs : List Char) : Prop :=
  ∃ before core after, P core ∧ (∀ c ∈ before, c ∈ ordinaryBlanks) ∧
    (∀ c ∈ after, c ∈ ordinaryBlanks) ∧ cs = before ++ core ++ after

section Blanks

variable {c : Char} {cs : List Char}

theorem IsPlain.toNat_lt (h : IsPlain c) : c.toNat < 128 := by
  have hblanks : ∀ b ∈ ordinaryBlanks, b.toNat < 128 := List.all_iff_forall_prop.mp (by decide)
  rcases h with ⟨-, hle⟩ | hmem
  · omega
  · exact hblanks c hmem

theorem isBlank_of_ordinary (h : c ∈ ordinaryBlanks) : isBlank c = true := by
  have hblanks : ordinaryBlanks.all isBlank = true := by decide
  exact List.all_eq_true.mp hblanks c h

/-- Of the plain characters only the ordinary blanks are blank. -/
theorem IsPlain.mem_of_isBlank (h : IsPlain c) (hblank : isBlank c = true) :
    c ∈ ordinaryBlanks :=
  forall_ascii (P := fun c => IsPlain c → isBlank c = true → c ∈ ordinaryBlanks)
    (by decide +kernel) h.toNat_lt h hblank

/-- What stands between the blanks is what remains without them. -/
theorem surrounded_iff {P : List Char → Prop} (hP : ∀ core, P core → ∀ c ∈ core, isBlank c = false)
    (hcs : ∀ c ∈ cs, IsPlain c) : Surrounded P cs ↔ P (trim cs) := by
  constructor
  · rintro ⟨before, core, after, hcore, hbefore, hafter, rfl⟩
    rwa [trim_append (fun c hc => isBlank_of_ordinary (hbefore c hc)) (hP core hcore)
      fun c hc => isBlank_of_ordinary (hafter c hc)]
  · intro htrim
    obtain ⟨before, after, hbefore, hafter, hsplit⟩ := exists_blanks cs
    rw [hsplit, List.append_assoc] at hcs
    obtain ⟨hplain, hcs⟩ := List.forall_mem_append.mp hcs
    obtain ⟨-, hplain'⟩ := List.forall_mem_append.mp hcs
    exact ⟨before, _, after, htrim, fun c hc => (hplain c hc).mem_of_isBlank (hbefore c hc),
      fun c hc => (hplain' c hc).mem_of_isBlank (hafter c hc), hsplit⟩

/-- A text is read without the blanks around it. -/
theorem read_trim (h : ∀ c ∈ trim cs, isBlank c = false) : read cs = read (trim cs) := by
  simp only [read, trim_eq_self h]

/-- **What a text of plain characters is read as**: a number if it is a literal, or a refusal if
that is too large, and a NaN otherwise. -/
theorem read_plain (hcs : ∀ c ∈ cs, IsPlain c) :
    (Surrounded TooLarge cs ∧ read cs = .error .integerTooLarge) ∨
    (Surrounded Literal cs ∧ ¬Surrounded TooLarge cs ∧ ∃ x, read cs = .ok x ∧ x.isNaN = false) ∨
    (¬Surrounded Literal cs ∧ ¬Surrounded TooLarge cs ∧ read cs = .ok .nan) := by
  rw [surrounded_iff (fun _ => TooLarge.isBlank) hcs, surrounded_iff (fun _ => Literal.isBlank) hcs]
  by_cases hliteral : Literal (trim cs)
  · rw [read_trim hliteral.isBlank]
    by_cases hlarge : TooLarge (trim cs)
    · exact .inl ⟨hlarge, hlarge.read⟩
    · exact .inr (.inl ⟨hliteral, hlarge, hliteral.exists_read hlarge⟩)
  · exact .inr (.inr ⟨hliteral, fun hlarge => hliteral hlarge.literal,
      read_of_not_literal (fun c hc => (hcs c hc).toNat_lt) hliteral⟩)

end Blanks

end Numeral

namespace Value

open Numeral (IsPlain Literal TooLarge Surrounded)

/-- **A text counts as a number exactly when it writes a literal**, with blanks around it or without
and not too large. A literal that is too large is refused, and nothing else is. -/
theorem toNumber_text_literal (s : String) (hs : ∀ c ∈ s.toList, IsPlain c) :
    ((∃ x, (text s).toNumber = .ok x ∧ x.isNaN = false) ↔
      Surrounded Literal s.toList ∧ ¬Surrounded TooLarge s.toList) ∧
    ∀ f, (text s).toNumber = .error f ↔ f = .integerTooLarge ∧ Surrounded TooLarge s.toList := by
  have hread : (text s).toNumber = Numeral.read s.toList := by rw [toNumber]
  rw [hread]
  rcases Numeral.read_plain hs with
    ⟨hlarge, h⟩ | ⟨hliteral, hlarge, x, h, hx⟩ | ⟨hliteral, hlarge, h⟩
  · refine ⟨iff_of_false (by simp [h]) fun hliteral => hliteral.2 hlarge, fun f => ?_⟩
    rw [h, Except.error.injEq]
    exact ⟨fun hf => ⟨hf.symm, hlarge⟩, fun hf => hf.1.symm⟩
  · simp [h, hx, hliteral, hlarge]
  · simp [h, hliteral, hlarge, Binary64.isNaN]

/-- The characters of a literal that is too large. -/
def hugeLiteral : List Char := "0x1".toList ++ List.replicate 256 '0'

/-- One sign is part of a literal, but not of one in another base. -/
theorem toNumber_text_literal_signs :
    (Surrounded Literal " -.5e1\n".toList ∧ ¬Surrounded Literal "+0x1".toList) ∧
    Surrounded TooLarge hugeLiteral := by
  have hsmall := toNumber_text_literal " -.5e1\n" (List.all_iff_forall_prop.mp (by decide))
  have hsigned := toNumber_text_literal "+0x1" (List.all_iff_forall_prop.mp (by decide))
  have hhuge := toNumber_text_literal (String.ofList hugeLiteral)
    (by rw [String.toList_ofList]; exact List.all_iff_forall_prop.mp (by decide +kernel))
  rw [toNumber, String.toList_ofList] at hhuge
  have hnan : (text "+0x1").toNumber = .ok .nan := by
    rw [toNumber]
    decide +kernel
  refine ⟨⟨?_, fun hliteral => ?_⟩, ?_⟩
  · refine (hsmall.1.mp ⟨Decimal.toBinary64 true ⟨5, 0⟩, ?_, Numeral.isNaN_toBinary64 _ _⟩).1
    rw [toNumber]
    decide +kernel
  · rw [hnan] at hsigned
    have hlarge : ¬Surrounded TooLarge "+0x1".toList := fun hlarge => by
      cases (hsigned.2 _).mpr ⟨rfl, hlarge⟩
    obtain ⟨x, hx, hnumber⟩ := hsigned.1.mpr ⟨hliteral, hlarge⟩
    cases hx
    cases hnumber
  · exact ((hhuge.2 .integerTooLarge).mp (by decide +kernel)).2

end Value

end Rulebook
