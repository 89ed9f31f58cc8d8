import ConvLab.Json.Text
import ConvLab.Proofs.Checked

/-!
# Quotations

A text is read back from between its quotes, whatever its characters are.

* `jsonEscape_cases` — a character is written as itself or as an escape that stands for it;
* `textLoop_jsonEscape` — one character is read back;
* `readText_quoted` — a whole text is read back, and what follows it is left.
-/

namespace ConvLab

/-! ### One character -/

theorem toList_hexText (width n : Nat) :
    (hexText width n).toList =
      List.replicate (width - (Nat.toDigits 16 n).length) '0' ++ Nat.toDigits 16 n := by
  simp [hexText]

/-- The four digits of a control character are read back as its code point. -/
theorem readHex_hexText {n : Nat} (hn : n < 32) (rest : List Char) :
    readHex ((hexText 4 n).toList ++ rest) = .ok (n, rest) := by
  have hwritten : ∀ k < 32,
      List.replicate (4 - (Nat.toDigits 16 k).length) '0' ++ Nat.toDigits 16 k =
        ['0', '0', Nat.digitChar (k / 16), Nat.digitChar (k % 16)] := by decide
  have hvalues : ∀ k < 32,
      ['0', '0', Nat.digitChar (k / 16), Nat.digitChar (k % 16)].mapM hexValue? =
        some [0, 0, k / 16, k % 16] := by decide
  rw [toList_hexText, hwritten n hn]
  simp only [List.cons_append, List.nil_append, readHex, hvalues n hn]
  simp only [List.foldl_cons, List.foldl_nil, Except.ok.injEq, Prod.mk.injEq, and_true]
  omega

/-- The numeric escape of a control character stands for it. -/
theorem readCodePoint_hexText {c : Char} (hc : c.toNat < 32) (rest : List Char) :
    readCodePoint ((hexText 4 c.toNat).toList ++ rest) = .ok (c, rest) := by
  have hlow : isLowSurrogate c.toNat = false := by
    simp only [isLowSurrogate, decide_eq_false_iff_not]
    omega
  have hhigh : isHighSurrogate c.toNat = false := by
    simp only [isHighSurrogate, decide_eq_false_iff_not]
    omega
  rw [readCodePoint, readHex_hexText hc, ok_bind]
  simp only [hlow, hhigh, Bool.false_eq_true, if_false, Char.ofNat_toNat]
  rfl

theorem readEscape_letter {letter c : Char} (h : letterEscape? letter = some c)
    (rest : List Char) : readEscape (letter :: rest) = .ok (c, rest) := by
  have hu : letter ≠ 'u' := by
    rintro rfl
    cases h
  rw [readEscape, if_neg hu, h]

/-- A character is written as itself, being neither quote nor backslash nor control character, or
as an escape that stands for it. -/
theorem jsonEscape_cases (c : Char) :
    (jsonEscape c = [c] ∧ c ≠ '"' ∧ c ≠ '\\' ∧ ¬ c.toNat < 32) ∨
      ∃ body, jsonEscape c = '\\' :: body ∧ ∀ rest, readEscape (body ++ rest) = .ok (c, rest) := by
  fun_cases jsonEscape c with
  | case1 h => exact .inr ⟨['"'], rfl, readEscape_letter (congrArg some h.symm)⟩
  | case2 _ h => exact .inr ⟨['\\'], rfl, readEscape_letter (congrArg some h.symm)⟩
  | case3 _ _ h => exact .inr ⟨['b'], rfl, readEscape_letter (congrArg some h.symm)⟩
  | case4 _ _ _ h => exact .inr ⟨['t'], rfl, readEscape_letter (congrArg some h.symm)⟩
  | case5 _ _ _ _ h => exact .inr ⟨['n'], rfl, readEscape_letter (congrArg some h.symm)⟩
  | case6 _ _ _ _ _ h => exact .inr ⟨['f'], rfl, readEscape_letter (congrArg some h.symm)⟩
  | case7 _ _ _ _ _ _ h => exact .inr ⟨['r'], rfl, readEscape_letter (congrArg some h.symm)⟩
  | case8 _ _ _ _ _ _ _ hcontrol =>
    exact .inr ⟨'u' :: (hexText 4 c.toNat).toList, rfl, readCodePoint_hexText hcontrol⟩
  | case9 hquote hbackslash _ _ _ _ _ hcontrol => exact .inl ⟨rfl, hquote, hbackslash, hcontrol⟩

/-- Reading takes a written character off the front in one step. -/
theorem textLoop_jsonEscape (fuel : Nat) (c : Char) (cs : List Char) :
    textLoop (fuel + 1) (jsonEscape c ++ cs) =
      (fun p => (c :: p.1, p.2)) <$> textLoop fuel cs := by
  rcases jsonEscape_cases c with ⟨hself, hquote, hbackslash, hcontrol⟩ | ⟨body, hescape, hread⟩
  · rw [hself, List.singleton_append, textLoop, if_neg hquote, if_neg hbackslash, if_neg hcontrol]
    rfl
  · rw [hescape, List.cons_append, textLoop, if_neg (by decide), if_pos rfl, hread cs, ok_bind]
    rfl

/-! ### A whole text -/

theorem length_le_length_flatMap_jsonEscape (cs : List Char) :
    cs.length ≤ (cs.flatMap jsonEscape).length := by
  induction cs with
  | nil => exact Nat.le_refl 0
  | cons c cs ih =>
    have hone : 1 ≤ (jsonEscape c).length := by
      rcases jsonEscape_cases c with ⟨hself, _⟩ | ⟨body, hescape, _⟩
      · simp [hself]
      · simp [hescape]
    rw [List.flatMap_cons, List.length_append, List.length_cons]
    omega

/-- Written characters are read back up to the closing quote, one step for each of them. -/
theorem textLoop_flatMap_jsonEscape (cs rest : List Char) {fuel : Nat} (hfuel : cs.length < fuel) :
    textLoop fuel (cs.flatMap jsonEscape ++ '"' :: rest) = .ok (cs, rest) := by
  induction cs generalizing fuel with
  | nil =>
    obtain ⟨k, rfl⟩ := Nat.exists_eq_add_one_of_ne_zero (Nat.ne_zero_of_lt hfuel)
    rfl
  | cons c cs ih =>
    obtain ⟨k, rfl⟩ := Nat.exists_eq_add_one_of_ne_zero (Nat.ne_zero_of_lt hfuel)
    have hk : cs.length < k := Nat.lt_of_succ_lt_succ hfuel
    rw [List.flatMap_cons, List.append_assoc, textLoop_jsonEscape, ih hk, map_ok]

/-- The text of a string, which stands between quotes. -/
theorem toList_quoteForJson (s : String) :
    (quoteForJson s).toList = '"' :: s.toList.flatMap jsonEscape ++ ['"'] := by
  simp [quoteForJson]

/-- A text is read back from between its quotes. -/
theorem readText_quoted (s : String) (rest : List Char) :
    readText (s.toList.flatMap jsonEscape ++ '"' :: rest) = .ok (s, rest) := by
  have hlength := length_le_length_flatMap_jsonEscape s.toList
  have hfuel : s.toList.length < (s.toList.flatMap jsonEscape ++ '"' :: rest).length := by
    rw [List.length_append, List.length_cons]
    omega
  rw [readText, textLoop_flatMap_jsonEscape _ _ hfuel, ok_bind]
  exact congrArg (fun t => Except.ok (t, rest)) String.ofList_toList

end ConvLab
