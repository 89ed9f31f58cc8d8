import ConvLab.Bench.Trial
import ConvLab.Proofs.Numeral
import ConvLab.Shape.Entry

/-!
# Labels

A label writes the parameters of a shape one after the other, each of them behind its letter, with
an underscore in between.  A numeral has no underscore, so it can be seen where one parameter ends
and the next begins, however many digits they have and whatever their signs.

* `cut_unique` — a text is cut in one way only at the first separator;
* `numeral_inj` — a numeral belongs to one integer;
* `fieldsText`, `fieldsText_inj` — lettered parameters, and that they can be read off their text;
* `Entry.label_inj`, `Shape.label_inj`, `Trial.labelOf_inj` — what a label says can be read off it;
* `labels_identify` — labels as identifiers.
-/

namespace ConvLab

/-! ### Texts with separators -/

/-- A text that is empty or starts with the separator. -/
def Separated (separator : Char) (text : List Char) : Prop := ∀ c ∈ text.head?, c = separator

theorem separated_cons (separator : Char) (text : List Char) :
    Separated separator (separator :: text) := by
  simp [Separated]

/-- What stands before the first separator is the longest stretch without one. -/
theorem takeWhile_separated {separator : Char} {front rest : List Char}
    (hfront : separator ∉ front) (hrest : Separated separator rest) :
    (front ++ rest).takeWhile (· ≠ separator) = front := by
  have hpass : ∀ c ∈ front, decide (c ≠ separator) = true := by
    intro c hc
    refine decide_eq_true ?_
    rintro rfl
    exact hfront hc
  rw [List.takeWhile_append_of_pos hpass]
  cases rest with
  | nil => simp
  | cons c rest =>
      have hc : c = separator := hrest c (by simp)
      simp [hc]

/-- A text is cut in one way only at the first separator. -/
theorem cut_unique {separator : Char} {front front' rest rest' : List Char}
    (hfront : separator ∉ front) (hfront' : separator ∉ front') (hrest : Separated separator rest)
    (hrest' : Separated separator rest') (h : front ++ rest = front' ++ rest') :
    front = front' ∧ rest = rest' := by
  have heq : front = front' := by
    rw [← takeWhile_separated hfront hrest, h, takeWhile_separated hfront' hrest']
  subst heq
  exact ⟨rfl, List.append_cancel_left h⟩

/-! ### Numerals -/

theorem toDigits_inj {m n : Nat} (h : Nat.toDigits 10 m = Nat.toDigits 10 n) : m = n := by
  rw [← Nat.ofDigitChars_ten_toDigits (n := m), h, Nat.ofDigitChars_ten_toDigits]

theorem minus_mem_numeral_iff (a : Int) : '-' ∈ (toString a).toList ↔ a < 0 := by
  rcases Int.lt_or_le a 0 with ha | ha
  · rw [toList_toString_of_neg ha]
    exact iff_of_true List.mem_cons_self ha
  · rw [toList_toString_of_nonneg ha]
    constructor
    · intro h
      exact absurd (Nat.isDigit_of_mem_toDigits (by decide) (by decide) h) (by decide)
    · intro hneg
      omega

/-- A numeral belongs to one integer, the sign included. -/
theorem numeral_inj {a b : Int} (h : (toString a).toList = (toString b).toList) : a = b := by
  have hsign : a < 0 ↔ b < 0 := by
    rw [← minus_mem_numeral_iff, ← minus_mem_numeral_iff, h]
  rcases Int.lt_or_le a 0 with ha | ha
  · rw [toList_toString_of_neg ha, toList_toString_of_neg (hsign.mp ha)] at h
    have habs := toDigits_inj (List.cons.inj h).2
    omega
  · have hb : 0 ≤ b := by omega
    rw [toList_toString_of_nonneg ha, toList_toString_of_nonneg hb] at h
    have habs := toDigits_inj h
    omega

theorem underscore_notMem_numeral (a : Int) : '_' ∉ (toString a).toList := by
  rcases Int.lt_or_le a 0 with ha | ha
  · rw [toList_toString_of_neg ha]
    simp [Nat.underscore_not_in_toDigits]
  · rw [toList_toString_of_nonneg ha]
    exact Nat.underscore_not_in_toDigits

/-! ### Lettered parameters -/

/-- The text of parameters: each behind an underscore and its letter. -/
def fieldsText (fields : List (Char × Int)) : List Char :=
  fields.flatMap fun f => '_' :: f.1 :: (toString f.2).toList

theorem fieldsText_cons (f : Char × Int) (fields : List (Char × Int)) :
    fieldsText (f :: fields) = '_' :: f.1 :: ((toString f.2).toList ++ fieldsText fields) := by
  simp [fieldsText]

theorem separated_fieldsText (fields : List (Char × Int)) :
    Separated '_' (fieldsText fields) := by
  cases fields with
  | nil => simp [Separated, fieldsText]
  | cons f fields =>
      rw [fieldsText_cons]
      exact separated_cons _ _

/-- The parameters and their letters can be read off the text. -/
theorem fieldsText_inj {fields fields' : List (Char × Int)}
    (h : fieldsText fields = fieldsText fields') : fields = fields' := by
  induction fields generalizing fields' with
  | nil =>
      cases fields' with
      | nil => rfl
      | cons f' fields' =>
          rw [fieldsText_cons] at h
          cases h
  | cons f fields ih =>
      cases fields' with
      | nil =>
          rw [fieldsText_cons] at h
          cases h
      | cons f' fields' =>
          rw [fieldsText_cons, fieldsText_cons] at h
          obtain ⟨hletter, htail⟩ := List.cons.inj (List.cons.inj h).2
          -- the numeral ends at the underscore of the next parameter, or with the text
          obtain ⟨hnumeral, hrest⟩ := cut_unique (underscore_notMem_numeral f.2)
            (underscore_notMem_numeral f'.2) (separated_fieldsText fields)
            (separated_fieldsText fields') htail
          rw [ih hrest, Prod.ext hletter (numeral_inj hnumeral)]

/-- A label lacks the first underscore of the text, and the parameters can be read off it as well. -/
theorem fields_eq_of_label_eq {label label' : String} {fields fields' : List (Char × Int)}
    (htext : '_' :: label.toList = fieldsText fields)
    (htext' : '_' :: label'.toList = fieldsText fields') (h : label = label') :
    fields = fields' := by
  apply fieldsText_inj
  rw [← htext, ← htext', h]

namespace Entry

def fields (e : Entry) : List (Char × Int) :=
  [('n', e.batch.toInt), ('i', e.inDim.toInt), ('c', e.inChannels.toInt),
    ('o', e.outChannels.toInt), ('k', e.kernelSize.toInt), ('p', e.padding.toInt),
    ('s', e.stride.toInt)]

theorem toList_label (e : Entry) : '_' :: e.label.toList = fieldsText e.fields := by
  delta label
  simp only [fieldsText, fields, String.toList_append, List.flatMap_cons, List.flatMap_nil,
    List.append_assoc, List.append_nil, List.cons_append]
  rfl

theorem fields_inj {e e' : Entry} (h : e.fields = e'.fields) : e = e' := by
  cases e
  cases e'
  simpa [fields, Int64.toInt_inj] using h

/-- An entry can be read off its label. -/
theorem label_inj {e e' : Entry} : e.label = e'.label ↔ e = e' := by
  constructor
  · intro h
    exact fields_inj (fields_eq_of_label_eq e.toList_label e'.toList_label h)
  · intro h
    rw [h]

end Entry

namespace Shape

def fields (s : Shape) : List (Char × Int) :=
  [('n', s.batch), ('i', s.inDim), ('c', s.inChannels), ('o', s.outChannels),
    ('k', s.kernelSize), ('p', s.padding), ('s', s.stride)]

theorem toList_label (s : Shape) : '_' :: s.label.toList = fieldsText s.fields := by
  delta label
  simp only [fieldsText, fields, String.toList_append, List.flatMap_cons, List.flatMap_nil,
    List.append_assoc, List.append_nil, List.cons_append]
  rfl

theorem fields_inj {s s' : Shape} (h : s.fields = s'.fields) : s = s' := by
  cases s
  cases s'
  simpa [fields, Int.ofNat_inj] using h

/-- A shape can be read off its label. -/
theorem label_inj {s s' : Shape} : s.label = s'.label ↔ s = s' := by
  constructor
  · intro h
    exact fields_inj (fields_eq_of_label_eq s.toList_label s'.toList_label h)
  · intro h
    rw [h]

end Shape

/-! ### Labels of trials -/

theorem Kind.name_inj {kind kind' : Kind} (h : kind.name = kind'.name) : kind = kind' := by
  cases kind <;> cases kind'
  · rfl
  · exact absurd h (by decide)
  · exact absurd h (by decide)
  · rfl

theorem Kind.slash_notMem_name (kind : Kind) : '/' ∉ kind.name.toList := by
  cases kind <;> decide

namespace Trial

theorem toList_labelOf (kind : Kind) (s : Shape) :
    (labelOf kind s).toList = kind.name.toList ++ '/' :: s.label.toList := by
  simp only [labelOf, String.toList_append, List.append_assoc]
  rfl

/-- The kernel and the shape can be read off the label of a trial. -/
theorem labelOf_inj {kind kind' : Kind} {s s' : Shape} :
    labelOf kind s = labelOf kind' s' ↔ kind = kind' ∧ s = s' := by
  constructor
  · intro h
    have htext := congrArg String.toList h
    rw [toList_labelOf, toList_labelOf] at htext
    -- the slash is the first one, whatever the shapes are
    obtain ⟨hname, hlabel⟩ := cut_unique kind.slash_notMem_name kind'.slash_notMem_name
      (separated_cons _ _) (separated_cons _ _) htext
    exact ⟨Kind.name_inj (String.toList_inj.mp hname),
      Shape.label_inj.mp (String.toList_inj.mp (List.cons.inj hlabel).2)⟩
  · rintro ⟨rfl, rfl⟩
    rfl

end Trial

/-- Labels as identifiers.  Entries, shapes and trials are told apart by their labels: equal labels
stand for equal entries, whatever the signs of their parameters, and for equal shapes.  Two trials
of one kernel have the same label just if they have the same shape, and two trials of different
kernels never do. -/
theorem labels_identify (e e' : Entry) (s s' : Shape) (t t' : Trial) :
    (e.label = e'.label ↔ e = e') ∧ (s.label = s'.label ↔ s = s') ∧
      (t.kind = t'.kind → (t.label = t'.label ↔ t.shape = t'.shape)) ∧
      (t.kind ≠ t'.kind → t.label ≠ t'.label) := by
  refine ⟨Entry.label_inj, Shape.label_inj, ?_, ?_⟩
  · intro hkind
    rw [Trial.label, Trial.label, Trial.labelOf_inj]
    exact and_iff_right hkind
  · intro hkind hlabel
    exact hkind (Trial.labelOf_inj.mp hlabel).1

section

attribute [local instance] Processor.plain

/-- The same digits in the same order, cut differently: one image of eleven pixels across is not
eleven images of one pixel. -/
theorem labels_identify_shifted :
    ∃ t t' t'' : Trial, Trial.prepare .reference ⟨1, 11, 1, 1, 1, 0, 1⟩ {} = .ok t ∧
      Trial.prepare .reference ⟨11, 1, 1, 1, 1, 0, 1⟩ {} = .ok t' ∧
      Trial.prepare .candidate ⟨1, 11, 1, 1, 1, 0, 1⟩ {} = .ok t'' ∧
      t.kind = t'.kind ∧ t.label ≠ t'.label ∧ t.kind ≠ t''.kind ∧ t.label ≠ t''.label ∧
      Entry.label ⟨1, -1, 1, 1, 1, 0, 1⟩ ≠ Entry.label ⟨1, 1, 1, 1, 1, 0, 1⟩ := by
  obtain ⟨t, ht, hkind, hshape⟩ : ∃ t : Trial,
      Trial.prepare .reference ⟨1, 11, 1, 1, 1, 0, 1⟩ {} = .ok t ∧ t.kind = .reference ∧
        t.shape = ⟨1, 11, 1, 1, 1, 0, 1⟩ := ⟨_, rfl, rfl, rfl⟩
  obtain ⟨t', ht', hkind', hshape'⟩ : ∃ t : Trial,
      Trial.prepare .reference ⟨11, 1, 1, 1, 1, 0, 1⟩ {} = .ok t ∧ t.kind = .reference ∧
        t.shape = ⟨11, 1, 1, 1, 1, 0, 1⟩ := ⟨_, rfl, rfl, rfl⟩
  obtain ⟨t'', ht'', hkind''⟩ : ∃ t : Trial,
      Trial.prepare .candidate ⟨1, 11, 1, 1, 1, 0, 1⟩ {} = .ok t ∧ t.kind = .candidate :=
    ⟨_, rfl, rfl⟩
  have hsame : t.kind = t'.kind := hkind.trans hkind'.symm
  have hother : t.kind ≠ t''.kind := by
    rw [hkind, hkind'']
    decide
  have hlabels := labels_identify ⟨1, -1, 1, 1, 1, 0, 1⟩ ⟨1, 1, 1, 1, 1, 0, 1⟩ t.shape t'.shape t
  obtain ⟨hentry, -, hshapes, -⟩ := hlabels t'
  refine ⟨t, t', t'', ht, ht', ht'', hsame, ?_, hother, (hlabels t'').2.2.2 hother, ?_⟩
  · rw [ne_eq, hshapes hsame, hshape, hshape']
    decide
  · rw [ne_eq, hentry]
    decide

end

end ConvLab
