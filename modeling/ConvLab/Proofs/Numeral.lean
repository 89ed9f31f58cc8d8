import ConvLab.Json.Number
import ConvLab.Json.Skip
import ConvLab.Proofs.Checked

/-!
# Numerals

A number is read up to the first character that cannot belong to it.  What separates or closes
values is such a character, so a number that is read as a whole is read in the same way inside a
document.

* `Stops` — a text that goes on with nothing but the end of a value;
* `Solid`, `NumberStyle.solid_single` — the text of a float has no blanks;
* `readDigits_eq_ok_iff` — the digits that are read, without reference to how they are read;
* `readNumber_append` — a number is read alike whatever stops it;
* `readNumber_suffix` — nothing but the end of the text is left behind a number;
* `absorb_eq`, `readNumber_toDigits` — the digits of a word are read as that word.
-/

namespace ConvLab

/-- A text before which a value has ended: nothing more, a comma or a closing bracket. -/
def Stops (rest : List Char) : Prop := ∀ c ∈ rest.head?, c = ',' ∨ c = ']' ∨ c = '}'

theorem stops_nil : Stops [] := by simp [Stops]

theorem stops_cons {c : Char} {cs : List Char} (h : c = ',' ∨ c = ']' ∨ c = '}') :
    Stops (c :: cs) := by
  simpa [Stops] using h

theorem Stops.head_cases {c : Char} {cs : List Char} (h : Stops (c :: cs)) :
    c = ',' ∨ c = ']' ∨ c = '}' := by
  simpa [Stops] using h

/-! ### Written numerals -/

theorem toList_toString_of_neg {value : Int} (h : value < 0) :
    (toString value).toList = '-' :: Nat.toDigits 10 value.natAbs := by
  have hnat : (-value).toNat = value.natAbs := by omega
  show value.repr.toList = _
  rw [Int.repr_eq_if, if_neg (by omega), hnat, String.toList_append, Nat.toList_repr]
  rfl

theorem toList_toString_of_nonneg {value : Int} (h : 0 ≤ value) :
    (toString value).toList = Nat.toDigits 10 value.natAbs := by
  have hnat : value.toNat = value.natAbs := by omega
  show value.repr.toList = _
  rw [Int.repr_eq_if, if_pos h, hnat, Nat.toList_repr]

/-! ### The characters of a number -/

/-- No character of the text is a blank or closes a sequence. -/
def Solid (text : List Char) : Prop := ∀ c ∈ text, isBlank c = false ∧ c ≠ ']'

instance : DecidablePred Solid := List.decidableBAll fun c => isBlank c = false ∧ c ≠ ']'

theorem Solid.append {text tail : List Char} (h : Solid text) (htail : Solid tail) :
    Solid (text ++ tail) := by
  intro c hc
  rcases List.mem_append.mp hc with hc | hc
  · exact h c hc
  · exact htail c hc

theorem Solid.subset {text part : List Char} (h : Solid text) (hpart : part ⊆ text) : Solid part :=
  fun c hc => h c (hpart hc)

theorem Solid.eq_nil {text : List Char} (h : Solid text) (hblank : text.all isBlank) :
    text = [] := by
  cases text with
  | nil => rfl
  | cons c text =>
    have hc := (h c List.mem_cons_self).1
    rw [List.all_cons, hc] at hblank
    cases hblank

/-- The text begins with a character that ends no sequence. -/
def Opens (text : List Char) : Prop :=
  ∃ c cs, text = c :: cs ∧ isBlank c = false ∧ c ≠ ']'

theorem Solid.opens {text : List Char} (h : Solid text) (hne : text ≠ []) : Opens text := by
  obtain ⟨c, cs, rfl⟩ := List.exists_cons_of_ne_nil hne
  exact ⟨c, cs, rfl, h c List.mem_cons_self⟩

theorem solid_of_isDigit {text : List Char} (h : ∀ c ∈ text, c.isDigit) : Solid text := by
  intro c hc
  have hdigit := h c hc
  constructor
  · simp only [isBlank, decide_eq_false_iff_not]
    rintro (rfl | rfl | rfl | rfl) <;> exact absurd hdigit (by decide)
  · rintro rfl
    exact absurd hdigit (by decide)

theorem solid_toDigits (n : Nat) : Solid (Nat.toDigits 10 n) :=
  solid_of_isDigit fun _ hc => Nat.isDigit_of_mem_toDigits (by decide) (by decide) hc

theorem solid_toString (n : Nat) : Solid (toString n).toList := by
  show Solid n.repr.toList
  rw [Nat.toList_repr]
  exact solid_toDigits n

theorem solid_toString_int (value : Int) : Solid (toString value).toList := by
  by_cases hneg : value < 0
  · rw [toList_toString_of_neg hneg]
    have hminus : Solid ['-'] := by decide
    exact hminus.append (solid_toDigits _)
  · rw [toList_toString_of_nonneg (by omega)]
    exact solid_toDigits _

theorem solid_zeros (count : Nat) : Solid (zeros count).toList := by
  rw [zeros, String.toList_ofList]
  exact solid_of_isDigit fun c hc => by rw [List.eq_of_mem_replicate hc]; decide

namespace NumberStyle

theorem solid_positionalText (style : NumberStyle) (d : Decimal) :
    Solid (style.positionalText d).toList := by
  have hdigits := solid_toString d.digits
  have hpoint : Solid (if style.keepsPoint then ".0" else "").toList := by
    cases style.keepsPoint <;> decide
  simp only [positionalText]
  split
  · simp only [String.toList_append]
    exact (hdigits.append (solid_zeros _)).append hpoint
  split
  · simp only [String.toList_append, String.toList_ofList]
    have hwhole := hdigits.subset (List.take_subset
      ((toString d.digits).length - (-d.exponent).toNat) _)
    exact (hwhole.append (by decide)).append (hdigits.subset (List.drop_subset ..))
  · simp only [String.toList_append]
    have hzero : Solid "0.".toList := by decide
    exact (hzero.append (solid_zeros _)).append hdigits

theorem solid_exponentText (style : NumberStyle) (d : Decimal) :
    Solid (style.exponentText d).toList := by
  have hdigits := solid_toString d.digits
  have hfraction : Solid (if ((toString d.digits).toList.drop 1).isEmpty then ""
      else "." ++ String.ofList ((toString d.digits).toList.drop 1)).toList := by
    split
    · decide
    · have hpoint : Solid ".".toList := by decide
      simp only [String.toList_append, String.toList_ofList]
      exact hpoint.append (hdigits.subset (List.drop_subset 1 _))
  have hsign : ∀ exponent : Int,
      Solid (if style.signsExponent ∧ 0 ≤ exponent then "+" else "").toList := by
    intro exponent
    split <;> decide
  simp only [exponentText, String.toList_append, String.toList_ofList]
  have hfirst := hdigits.subset (List.take_subset 1 _)
  have hmark : Solid "e".toList := by decide
  exact (((hfirst.append hfraction).append hmark).append (hsign _)).append (solid_toString_int _)

theorem solid_decimalText (style : NumberStyle) (d : Decimal) :
    Solid (style.decimalText d).toList := by
  rw [decimalText]
  split
  · exact style.solid_positionalText d
  · exact style.solid_exponentText d

/-- The text of a float has no blanks, and nothing that closes a sequence. -/
theorem solid_single (style : NumberStyle) (x : Float32) : Solid (style.single x).toList := by
  have hsign : ∀ s, Solid (signText s).toList := by
    intro s
    cases s <;> decide
  rw [single]
  cases x.toModel.unpack with
  | notANumber =>
    show Solid "NaN".toList
    decide
  | infinity s =>
    show Solid (signText s ++ "inf").toList
    rw [String.toList_append]
    exact (hsign s).append (by decide)
  | zero s =>
    show Solid (signText s ++ style.decimalText _).toList
    rw [String.toList_append]
    exact (hsign s).append (style.solid_decimalText _)
  | finite s m e h =>
    show Solid (signText s ++ style.decimalText _).toList
    rw [String.toList_append]
    exact (hsign s).append (style.solid_decimalText _)

end NumberStyle

/-! ### Digits -/

/-- The digits that are read are the longest run of digits at the front, which is not empty. -/
theorem readDigits_eq_ok_iff {cs digits rest : List Char} :
    readDigits cs = .ok (digits, rest) ↔
      cs = digits ++ rest ∧ digits ≠ [] ∧ (∀ c ∈ digits, c.isDigit) ∧
        ∀ c ∈ rest.head?, ¬ c.isDigit := by
  constructor
  · intro h
    cases cs with
    | nil => cases h
    | cons c cs =>
      by_cases hc : c.isDigit
      · rw [readDigits, if_pos hc] at h
        cases h
        refine ⟨List.takeWhile_append_dropWhile.symm, ?_, ?_, ?_⟩
        · simp [hc]
        · intro d hd
          exact List.all_eq_true.mp List.all_takeWhile d hd
        · intro d hd
          have hnot := List.head?_dropWhile_not Char.isDigit (c :: cs)
          rw [Option.mem_def.mp hd] at hnot
          simp [hnot]
      · rw [readDigits, if_neg hc] at h
        cases h
  · rintro ⟨rfl, hne, hdigits, hrest⟩
    have hstop : rest.takeWhile Char.isDigit = [] ∧ rest.dropWhile Char.isDigit = rest := by
      cases rest with
      | nil => simp
      | cons c rest =>
        have hc : ¬ c.isDigit := hrest c rfl
        simp [hc]
    have htake : (digits ++ rest).takeWhile Char.isDigit = digits := by
      rw [List.takeWhile_append_of_pos hdigits, hstop.1, List.append_nil]
    have hdrop : (digits ++ rest).dropWhile Char.isDigit = rest := by
      rw [List.dropWhile_append_of_pos hdigits, hstop.2]
    cases digits with
    | nil => exact absurd rfl hne
    | cons c digits =>
      have hc : c.isDigit := hdigits c (by simp)
      rw [List.cons_append] at htake hdrop ⊢
      rw [readDigits, if_pos hc, htake, hdrop]

theorem Stops.not_isDigit {rest : List Char} (h : Stops rest) : ∀ c ∈ rest.head?, ¬ c.isDigit := by
  intro c hc
  rcases h c hc with rfl | rfl | rfl <;> decide

theorem readDigits_append {cs digits rest tail : List Char}
    (h : readDigits cs = .ok (digits, rest)) (htail : Stops tail) :
    readDigits (cs ++ tail) = .ok (digits, rest ++ tail) := by
  obtain ⟨rfl, hne, hdigits, hrest⟩ := readDigits_eq_ok_iff.mp h
  refine readDigits_eq_ok_iff.mpr ⟨List.append_assoc .., hne, hdigits, ?_⟩
  cases rest with
  | nil => exact htail.not_isDigit
  | cons c rest => exact hrest

/-! ### Numbers before other text -/

/-- The exponent that a sign and digits stand for. -/
def signedExponent (sign : Int) (p : List Char × List Char) : Int × List Char :=
  (sign * (p.1.foldl (fun n c => n * 10 + digitValue c) 0 : Nat), p.2)

/-- The sign of an exponent is settled by its first character. -/
theorem readExponent_eq {cs : List Char} (hne : cs ≠ []) :
    ∃ (sign : Int) (body : List Char), body <:+ cs ∧
      ∀ tail, readExponent (cs ++ tail) = signedExponent sign <$> readDigits (body ++ tail) := by
  obtain ⟨c, cs, rfl⟩ := List.exists_cons_of_ne_nil hne
  by_cases hplus : c = '+'
  · subst hplus
    exact ⟨1, cs, List.suffix_cons '+' cs, fun tail => rfl⟩
  by_cases hminus : c = '-'
  · subst hminus
    exact ⟨-1, cs, List.suffix_cons '-' cs, fun tail => rfl⟩
  · refine ⟨1, c :: cs, List.suffix_rfl, fun tail => ?_⟩
    rw [List.cons_append, readExponent]
    · rfl
    · simpa using hplus
    · simpa using hminus

/-- An exponent that is read is a sign before digits. -/
theorem readExponent_cases {cs rest : List Char} {exponent : Int}
    (h : readExponent cs = .ok (exponent, rest)) :
    ∃ (sign : Int) (body digits : List Char), body <:+ cs ∧
      readDigits body = .ok (digits, rest) ∧ signedExponent sign (digits, rest) = (exponent, rest) ∧
      ∀ tail, readExponent (cs ++ tail) = signedExponent sign <$> readDigits (body ++ tail) := by
  have hne : cs ≠ [] := by
    rintro rfl
    cases h
  obtain ⟨sign, body, hbody, heq⟩ := readExponent_eq hne
  have hwhole := heq []
  rw [List.append_nil, List.append_nil, h, eq_comm] at hwhole
  obtain ⟨⟨digits, left⟩, hdigits, hvalue⟩ := map_eq_ok_iff.mp hwhole
  cases hvalue
  exact ⟨sign, body, digits, hbody, hdigits, rfl, heq⟩

theorem readExponent_append {cs rest tail : List Char} {exponent : Int}
    (h : readExponent cs = .ok (exponent, rest)) (htail : Stops tail) :
    readExponent (cs ++ tail) = .ok (exponent, rest ++ tail) := by
  obtain ⟨sign, body, digits, _, hdigits, hvalue, heq⟩ := readExponent_cases h
  cases hvalue
  rw [heq tail, readDigits_append hdigits htail, map_ok]
  rfl

/-- A mark that stops no value is at the front after stopping text is appended just if it was
there before. -/
theorem Stops.append_ne {c : Char} {cs tail : List Char} (htail : Stops tail)
    (hc : c ∉ [',', ']', '}']) (hcs : ∀ rest, cs ≠ c :: rest) (rest : List Char) :
    cs ++ tail ≠ c :: rest := by
  intro h
  cases cs with
  | nil =>
    subst h
    exact hc (by simpa using htail.head_cases)
  | cons d cs =>
    cases h
    exact hcs cs rfl

/-- The exponent that a text goes on with, which is zero if it has none. -/
def readShift (cs : List Char) : Except JsonError (Int × List Char) :=
  match cs with
  | 'e' :: rest => readExponent rest
  | 'E' :: rest => readExponent rest
  | _ => .ok (0, cs)

theorem readShift_append {cs rest tail : List Char} {shift : Int}
    (h : readShift cs = .ok (shift, rest)) (htail : Stops tail) :
    readShift (cs ++ tail) = .ok (shift, rest ++ tail) := by
  fun_cases readShift cs with
  | case1 cs => exact readExponent_append h htail
  | case2 cs => exact readExponent_append h htail
  | case3 _ he hE =>
    rw [readShift] at h
    · cases h
      rw [readShift]
      · exact htail.append_ne (by decide) he
      · exact htail.append_ne (by decide) hE
    · exact he
    · exact hE

theorem finishNumber_eq (negative : Bool) (significand : Nat) (exponent : Int) (cs : List Char) :
    finishNumber negative significand exponent cs =
      readShift cs >>= fun p =>
        (·, p.2) <$> numberOfParts negative significand (exponent + p.1) := by
  fun_cases readShift cs with
  | case1 cs => rfl
  | case2 cs => rfl
  | case3 _ he hE =>
    rw [finishNumber]
    · rfl
    · exact he
    · exact hE

theorem finishNumber_append {negative : Bool} {significand : Nat} {exponent : Int}
    {cs rest tail : List Char} {n : Number}
    (h : finishNumber negative significand exponent cs = .ok (n, rest)) (htail : Stops tail) :
    finishNumber negative significand exponent (cs ++ tail) = .ok (n, rest ++ tail) := by
  rw [finishNumber_eq] at h ⊢
  obtain ⟨⟨shift, left⟩, hshift, hparts⟩ := bind_eq_ok_iff.mp h
  obtain ⟨value, hvalue, hn⟩ := map_eq_ok_iff.mp hparts
  cases hn
  rw [readShift_append hshift htail, ok_bind, hvalue, map_ok]

/-- What follows the whole part of a number, whose significand so far and digits left over are
given. -/
def readRemainder (negative : Bool) (significand : Nat) (dropped cs : List Char) :
    Except JsonError (Number × List Char) :=
  match cs with
  | '.' :: rest => do
      let (fraction, rest) ← readDigits rest
      let (significand, unused) := absorb significand fraction
      let exponent : Int := dropped.length - (fraction.length - unused.length : Nat)
      finishNumber negative significand exponent rest
  | 'e' :: _ => finishNumber negative significand dropped.length cs
  | 'E' :: _ => finishNumber negative significand dropped.length cs
  | _ =>
      if dropped.isEmpty then .ok (wholeNumber negative significand, cs)
      else finishNumber negative significand dropped.length cs

theorem readNumber_eq (negative : Bool) (cs : List Char) :
    readNumber negative cs = readDigits cs >>= fun p =>
      if p.1.head? = some '0' ∧ 1 < p.1.length then .error .malformed
      else readRemainder negative (absorb 0 p.1).1 (absorb 0 p.1).2 p.2 := rfl

theorem readRemainder_append {negative : Bool} {significand : Nat} {dropped : List Char}
    {cs rest tail : List Char} {n : Number}
    (h : readRemainder negative significand dropped cs = .ok (n, rest)) (htail : Stops tail) :
    readRemainder negative significand dropped (cs ++ tail) = .ok (n, rest ++ tail) := by
  fun_cases readRemainder negative significand dropped cs with
  | case1 cs =>
    obtain ⟨⟨fraction, left⟩, hdigits, hfinish⟩ := bind_eq_ok_iff.mp h
    rw [List.cons_append, readRemainder, readDigits_append hdigits htail, ok_bind]
    exact finishNumber_append hfinish htail
  | case2 cs =>
    rw [readRemainder] at h
    exact finishNumber_append h htail
  | case3 cs =>
    rw [readRemainder] at h
    exact finishNumber_append h htail
  | case4 _ hdropped hpoint he hE =>
    rw [readRemainder.eq_4 _ _ _ _ hpoint he hE, if_pos hdropped] at h
    cases h
    rw [readRemainder.eq_4, if_pos hdropped]
    · exact htail.append_ne (by decide) hpoint
    · exact htail.append_ne (by decide) he
    · exact htail.append_ne (by decide) hE
  | case5 _ hdropped hpoint he hE =>
    rw [readRemainder.eq_4 _ _ _ _ hpoint he hE, if_neg hdropped] at h
    rw [readRemainder.eq_4, if_neg hdropped]
    · exact finishNumber_append h htail
    · exact htail.append_ne (by decide) hpoint
    · exact htail.append_ne (by decide) he
    · exact htail.append_ne (by decide) hE

/-- A number is read alike whatever stops it. -/
theorem readNumber_append {negative : Bool} {cs rest tail : List Char} {n : Number}
    (h : readNumber negative cs = .ok (n, rest)) (htail : Stops tail) :
    readNumber negative (cs ++ tail) = .ok (n, rest ++ tail) := by
  rw [readNumber_eq] at h ⊢
  obtain ⟨⟨whole, left⟩, hdigits, hrest⟩ := bind_eq_ok_iff.mp h
  rw [readDigits_append hdigits htail, ok_bind]
  by_cases hzero : whole.head? = some '0' ∧ 1 < whole.length
  · rw [if_pos hzero] at hrest
    cases hrest
  · rw [if_neg hzero] at hrest ⊢
    exact readRemainder_append hrest htail

/-! ### What is left behind a number -/

theorem readDigits_suffix {cs digits rest : List Char} (h : readDigits cs = .ok (digits, rest)) :
    rest <:+ cs := by
  obtain ⟨rfl, _⟩ := readDigits_eq_ok_iff.mp h
  exact List.suffix_append digits rest

theorem readShift_suffix {cs rest : List Char} {shift : Int}
    (h : readShift cs = .ok (shift, rest)) : rest <:+ cs := by
  have hexponent : ∀ {c : Char} {cs : List Char}, readExponent cs = .ok (shift, rest) →
      rest <:+ c :: cs := by
    intro c cs hread
    obtain ⟨_, _, _, hbody, hdigits, _⟩ := readExponent_cases hread
    exact ((readDigits_suffix hdigits).trans hbody).trans (List.suffix_cons c cs)
  fun_cases readShift cs with
  | case1 cs => exact hexponent h
  | case2 cs => exact hexponent h
  | case3 _ he hE =>
    rw [readShift] at h
    · cases h
      exact List.suffix_rfl
    · exact he
    · exact hE

theorem finishNumber_suffix {negative : Bool} {significand : Nat} {exponent : Int}
    {cs rest : List Char} {n : Number}
    (h : finishNumber negative significand exponent cs = .ok (n, rest)) : rest <:+ cs := by
  rw [finishNumber_eq] at h
  obtain ⟨⟨shift, left⟩, hshift, hparts⟩ := bind_eq_ok_iff.mp h
  obtain ⟨value, _, hn⟩ := map_eq_ok_iff.mp hparts
  cases hn
  exact readShift_suffix hshift

theorem readRemainder_suffix {negative : Bool} {significand : Nat} {dropped : List Char}
    {cs rest : List Char} {n : Number}
    (h : readRemainder negative significand dropped cs = .ok (n, rest)) : rest <:+ cs := by
  fun_cases readRemainder negative significand dropped cs with
  | case1 cs =>
    obtain ⟨⟨fraction, left⟩, hdigits, hfinish⟩ := bind_eq_ok_iff.mp h
    have hleft := (finishNumber_suffix hfinish).trans (readDigits_suffix hdigits)
    exact hleft.trans (List.suffix_cons '.' cs)
  | case2 cs =>
    rw [readRemainder] at h
    exact finishNumber_suffix h
  | case3 cs =>
    rw [readRemainder] at h
    exact finishNumber_suffix h
  | case4 _ hdropped hpoint he hE =>
    rw [readRemainder.eq_4 _ _ _ _ hpoint he hE, if_pos hdropped] at h
    cases h
    exact List.suffix_rfl
  | case5 _ hdropped hpoint he hE =>
    rw [readRemainder.eq_4 _ _ _ _ hpoint he hE, if_neg hdropped] at h
    exact finishNumber_suffix h

/-- Nothing but the end of the text is left behind a number. -/
theorem readNumber_suffix {negative : Bool} {cs rest : List Char} {n : Number}
    (h : readNumber negative cs = .ok (n, rest)) : rest <:+ cs := by
  rw [readNumber_eq] at h
  obtain ⟨⟨whole, left⟩, hdigits, hrest⟩ := bind_eq_ok_iff.mp h
  by_cases hzero : whole.head? = some '0' ∧ 1 < whole.length
  · rw [if_pos hzero] at hrest
    cases hrest
  · rw [if_neg hzero] at hrest
    exact (readRemainder_suffix hrest).trans (readDigits_suffix hdigits)

/-! ### The digits of a word -/

theorem le_ofDigitChars (digits : List Char) (acc : Nat) :
    acc ≤ Nat.ofDigitChars 10 digits acc := by
  induction digits generalizing acc with
  | nil => exact Nat.le_refl acc
  | cons c digits ih =>
    rw [Nat.ofDigitChars_cons]
    have hrest := ih (10 * acc + (c.toNat - '0'.toNat))
    omega

-- Stated by hand: the equation that unfolding would generate evaluates the limit of words.
theorem absorb_cons (acc : Nat) (c : Char) (rest : List Char) :
    absorb acc (c :: rest) =
      match Word.add? (acc * 10) (digitValue c) with
      | some next => absorb next rest
      | none => (acc, c :: rest) := by
  rfl

/-- Digits are absorbed to the last if the number they write is a word. -/
theorem absorb_eq {digits : List Char} {acc : Nat}
    (h : Nat.ofDigitChars 10 digits acc < Word.limit) :
    absorb acc digits = (Nat.ofDigitChars 10 digits acc, []) := by
  induction digits generalizing acc with
  | nil => rfl
  | cons c digits ih =>
    rw [Nat.ofDigitChars_cons] at h ⊢
    have hnext : acc * 10 + digitValue c = 10 * acc + (c.toNat - '0'.toNat) := by
      rw [Nat.mul_comm, digitValue]
      rfl
    have hword := Nat.lt_of_le_of_lt (le_ofDigitChars digits _) h
    rw [← hnext] at h hword ⊢
    have hadd : Word.add? (acc * 10) (digitValue c) = some (acc * 10 + digitValue c) := by
      rw [Word.add?, if_pos hword]
    rw [absorb_cons, hadd]
    exact ih h

/-- The digits of a positive number do not begin with zero. -/
theorem head?_toDigits_ne (n : Nat) (hn : 0 < n) : (Nat.toDigits 10 n).head? ≠ some '0' := by
  induction n using Nat.strongRecOn with
  | ind n ih =>
    by_cases hsmall : n < 10
    · rw [Nat.toDigits_of_lt_base hsmall]
      have hdigit : ∀ d < 10, 0 < d → [Nat.digitChar d].head? ≠ some '0' := by decide
      exact hdigit n hsmall hn
    · have hlead := ih (n / 10) (by omega) (by omega)
      rw [Nat.toDigits_of_base_le (by decide) (by omega), List.head?_append]
      cases hhead : (Nat.toDigits 10 (n / 10)).head? with
      | none => exact absurd (List.head?_eq_none_iff.mp hhead) Nat.toDigits_ne_nil
      | some c => rwa [hhead] at hlead

/-- The digits of a word are read as that word. -/
theorem readNumber_toDigits (negative : Bool) {n : Nat} (hn : n < Word.limit) :
    readNumber negative (Nat.toDigits 10 n) = .ok (wholeNumber negative n, []) := by
  have hdigits : readDigits (Nat.toDigits 10 n) = .ok (Nat.toDigits 10 n, []) := by
    refine readDigits_eq_ok_iff.mpr ⟨by simp, Nat.toDigits_ne_nil, ?_, by simp⟩
    intro c hc
    exact Nat.isDigit_of_mem_toDigits (by decide) (by decide) hc
  have hlead : ¬ ((Nat.toDigits 10 n).head? = some '0' ∧ 1 < (Nat.toDigits 10 n).length) := by
    rintro ⟨hzero, hlong⟩
    by_cases h : 0 < n
    · exact head?_toDigits_ne n h hzero
    · have hn : n = 0 := by omega
      subst hn
      exact absurd hlong (by decide)
  have habsorb : absorb 0 (Nat.toDigits 10 n) = (n, []) := by
    rw [absorb_eq (by rwa [Nat.ofDigitChars_ten_toDigits]), Nat.ofDigitChars_ten_toDigits]
  rw [readNumber_eq, hdigits, ok_bind, if_neg hlead, habsorb]
  rfl

end ConvLab
