import ConvLab.Json.Reader
import ConvLab.Proofs.Layer
import ConvLab.Proofs.Numeral
import ConvLab.Proofs.Quotation

/-!
# Reading what is written

A reader takes back a written value if it takes it off the front of every text that begins with
it, up to where the value stops.

* `JsonReader.Reads` — the reader takes the value back from its text;
* `JsonReader.numeric_eq_ok_iff` — the numbers that a numeric reader accepts;
* `JsonReader.reads_string`, `JsonReader.reads_integer`, `JsonReader.reads_choice`, … — scalars;
* `JsonReader.reads_sequence` — sequences, if their elements are taken back;
* `Record.reads_object` — records, if their members are taken back one after another;
* `TextLayer.json_faithful` — the laws of the text layer.
-/

namespace ConvLab

namespace JsonValue

-- Stated by hand, since the equations that unfolding would generate are slow for nested documents.
theorem compact_integer (value : Int) : (integer value).compact = (toString value).toList := rfl

theorem compact_single (value : Float32) : (single value).compact = (singleText value).toList := rfl

theorem compact_string (value : String) :
    (string value).compact = (quoteForJson value).toList := rfl

theorem compact_array (elements : List JsonValue) :
    (array elements).compact = '[' :: compactElements elements ++ [']'] := rfl

theorem compact_object (members : List (String × JsonValue)) :
    (object members).compact = '{' :: compactMembers members ++ ['}'] := rfl

end JsonValue

namespace JsonReader

variable {α β : Type} {cs rest : List Char}

theorem bind_apply (x : JsonReader α) (f : α → JsonReader β) (cs : List Char) :
    (x >>= f) cs = x cs >>= fun p => f p.1 p.2 := rfl

theorem peek_cons {c : Char} (h : isBlank c = false) (cs : List Char) :
    peek (c :: cs) = .ok (c, c :: cs) := by
  simp [peek, visible, h]

theorem advance_cons (c : Char) (cs : List Char) : advance (c :: cs) = .ok ((), cs) := rfl

theorem pure_apply (a : α) (cs : List Char) : (pure a : JsonReader α) cs = .ok (a, cs) := rfl

theorem refuse_apply (cause : Mismatch) (cs : List Char) :
    (refuse cause : JsonReader α) cs = .error (.mismatch cause) := rfl

/-- The reader takes the value off the front of every text that begins with the given one and then
stops. -/
def Reads (read : JsonReader α) (text : List Char) (a : α) : Prop :=
  ∀ rest, Stops rest → read (text ++ rest) = .ok (a, rest)

/-- The reader takes the value back from the text of a document, also in a sequence. -/
def TakesBack ⦃α : Type⦄ (read : JsonReader α) (document : JsonValue) (a : α) : Prop :=
  Opens document.compact ∧ Reads read document.compact a

theorem parse_eq_ok_iff {read : JsonReader α} {text : List Char} {a : α} :
    parse read (String.ofList text) = .ok a ↔
      ∃ rest, read text = .ok (a, rest) ∧ rest.all isBlank := by
  rw [parse, String.toList_ofList, bind_eq_ok_iff]
  constructor
  · rintro ⟨⟨b, rest⟩, hread, hrest⟩
    by_cases hblank : rest.all isBlank
    · simp only [hblank, if_true] at hrest
      cases hrest
      exact ⟨rest, hread, hblank⟩
    · simp only [hblank] at hrest
      cases hrest
  · rintro ⟨rest, hread, hblank⟩
    refine ⟨(a, rest), hread, ?_⟩
    simp only [hblank, if_true]
    rfl

/-- A value that is taken back is the value of its text as a whole. -/
theorem Reads.parse_eq {read : JsonReader α} {text : List Char} {a : α} (h : Reads read text a) :
    parse read (String.ofList text) = .ok a := by
  have hwhole := h [] stops_nil
  rw [List.append_nil] at hwhole
  exact parse_eq_ok_iff.mpr ⟨[], hwhole, rfl⟩

/-! ### Texts and truth values -/

theorem reads_string (s : String) : Reads string (JsonValue.string s).compact s := by
  intro rest _
  rw [JsonValue.compact_string, toList_quoteForJson, string, bind_apply]
  simp only [List.cons_append, List.append_assoc, List.nil_append]
  rw [peek_cons (by decide), ok_bind]
  show (advance >>= fun _ => text) _ = _
  rw [bind_apply, advance_cons, ok_bind, text, readText_quoted]

theorem reads_boolean (b : Bool) : Reads boolean (JsonValue.boolean b).compact b := by
  intro rest _
  cases b with
  | false => rfl
  | true => rfl

/-! ### Numbers -/

theorem mistyped_ne_ok (expected : String) (cs : List Char) (p : α × List Char) :
    (mistyped expected : JsonReader α) cs ≠ .ok p := by
  intro h
  rw [mistyped, bind_apply] at h
  obtain ⟨q, _, hq⟩ := bind_eq_ok_iff.mp h
  cases hq

/-- What a numeric reader makes of a number. -/
def judge (accept : Number → Except Mismatch α) (n : Number) : JsonReader α :=
  match accept n with
  | .ok a => return a
  | .error cause => refuse cause

theorem judge_eq_ok_iff {accept : Number → Except Mismatch α} {n : Number} {a : α} :
    judge accept n cs = .ok (a, rest) ↔ accept n = .ok a ∧ cs = rest := by
  rw [judge]
  cases accept n with
  | ok b => simp [pure_apply]
  | error cause => simp [refuse_apply]

theorem numeric_eq {expected : String} {accept : Number → Except Mismatch α} {c : Char}
    {body : List Char} (h : visible cs = .ok (c, body)) :
    numeric expected accept cs =
      (if c = '-' then readNumber true body
        else if c.isDigit then readNumber false (c :: body)
        else mistyped expected (c :: body)) >>= fun p => judge accept p.1 p.2 := by
  rw [numeric, bind_apply, peek, h]
  by_cases hminus : c = '-'
  · subst hminus
    rfl
  by_cases hdigit : c.isDigit
  · simp [hminus, hdigit]
    rfl
  · simp [hminus, hdigit]
    rfl

/-- The text goes on with a number, after blanks. -/
def Shows (cs : List Char) (n : Number) (rest : List Char) : Prop :=
  ∃ c body, visible cs = .ok (c, body) ∧
    ((c = '-' ∧ readNumber true body = .ok (n, rest)) ∨
      (c.isDigit ∧ readNumber false (c :: body) = .ok (n, rest)))

/-- A numeric reader takes the numbers that it is to accept. -/
theorem numeric_eq_ok_iff {expected : String} {accept : Number → Except Mismatch α} {a : α} :
    numeric expected accept cs = .ok (a, rest) ↔ ∃ n, Shows cs n rest ∧ accept n = .ok a := by
  constructor
  · intro h
    cases hvisible : visible cs with
    | error e =>
      rw [numeric, bind_apply, peek, hvisible] at h
      cases h
    | ok p =>
      rw [numeric_eq hvisible] at h
      obtain ⟨⟨n, left⟩, hnumber, hjudge⟩ := bind_eq_ok_iff.mp h
      obtain ⟨haccept, rfl⟩ := judge_eq_ok_iff.mp hjudge
      refine ⟨n, ⟨p.1, p.2, hvisible, ?_⟩, haccept⟩
      by_cases hminus : p.1 = '-'
      · rw [if_pos hminus] at hnumber
        exact .inl ⟨hminus, hnumber⟩
      by_cases hdigit : p.1.isDigit
      · rw [if_neg hminus, if_pos hdigit] at hnumber
        exact .inr ⟨hdigit, hnumber⟩
      · rw [if_neg hminus, if_neg hdigit] at hnumber
        exact absurd hnumber (mistyped_ne_ok expected _ _)
  · rintro ⟨n, ⟨c, body, hvisible, hnumber⟩, haccept⟩
    rw [numeric_eq hvisible]
    rcases hnumber with ⟨rfl, hnumber⟩ | ⟨hdigit, hnumber⟩
    · rw [if_pos rfl, hnumber, ok_bind]
      exact judge_eq_ok_iff.mpr ⟨haccept, rfl⟩
    · have hminus : c ≠ '-' := by
        rintro rfl
        exact absurd hdigit (by decide)
      rw [if_neg hminus, if_pos hdigit, hnumber, ok_bind]
      exact judge_eq_ok_iff.mpr ⟨haccept, rfl⟩

theorem visible_cons {c : Char} (h : isBlank c = false) (cs : List Char) :
    visible (c :: cs) = .ok (c, cs) := by
  simp [visible, h]

theorem visible_append {c : Char} {body : List Char} (h : visible cs = .ok (c, body))
    (tail : List Char) : visible (cs ++ tail) = .ok (c, body ++ tail) := by
  rw [visible] at h ⊢
  rw [List.dropWhile_append]
  cases hdrop : cs.dropWhile isBlank with
  | nil =>
    rw [hdrop] at h
    cases h
  | cons d ds =>
    rw [hdrop] at h
    cases h
    rfl

/-- A number goes on being shown if stopping text is appended. -/
theorem Shows.append {n : Number} {tail : List Char} (h : Shows cs n rest) (htail : Stops tail) :
    Shows (cs ++ tail) n (rest ++ tail) := by
  obtain ⟨c, body, hvisible, hnumber⟩ := h
  refine ⟨c, body ++ tail, visible_append hvisible tail, ?_⟩
  rcases hnumber with ⟨hminus, hnumber⟩ | ⟨hdigit, hnumber⟩
  · exact .inl ⟨hminus, readNumber_append hnumber htail⟩
  · exact .inr ⟨hdigit, readNumber_append hnumber htail⟩

theorem visible_suffix {c : Char} {body : List Char} (h : visible cs = .ok (c, body)) :
    c :: body <:+ cs := by
  rw [visible] at h
  cases hdrop : cs.dropWhile isBlank with
  | nil =>
    rw [hdrop] at h
    cases h
  | cons d ds =>
    rw [hdrop] at h
    cases h
    rw [← hdrop]
    exact List.dropWhile_suffix isBlank

/-- Nothing but the end of the text is left behind a number that is shown. -/
theorem Shows.suffix {n : Number} (h : Shows cs n rest) : rest <:+ cs := by
  obtain ⟨c, body, hvisible, hnumber⟩ := h
  have hbody := visible_suffix hvisible
  rcases hnumber with ⟨_, hnumber⟩ | ⟨_, hnumber⟩
  · exact ((readNumber_suffix hnumber).trans (List.suffix_cons c body)).trans hbody
  · exact (readNumber_suffix hnumber).trans hbody

theorem Shows.ne_nil {n : Number} (h : Shows cs n rest) : cs ≠ [] := by
  rintro rfl
  obtain ⟨c, body, hvisible, _⟩ := h
  cases hvisible

/-- A numeric reader takes a number off any text if it takes it as a whole. -/
theorem reads_numeric {expected : String} {accept : Number → Except Mismatch α} {a : α}
    (h : numeric expected accept cs = .ok (a, [])) : Reads (numeric expected accept) cs a := by
  intro rest hrest
  obtain ⟨n, hshows, haccept⟩ := numeric_eq_ok_iff.mp h
  exact numeric_eq_ok_iff.mpr ⟨n, hshows.append hrest, haccept⟩

/-! ### Integers -/

/-- The digits of a number begin with a digit, which is no blank. -/
theorem exists_toDigits_eq_cons (n : Nat) :
    ∃ c cs, Nat.toDigits 10 n = c :: cs ∧ c.isDigit ∧ isBlank c = false := by
  obtain ⟨c, cs, hcons⟩ := List.exists_cons_of_ne_nil (Nat.toDigits_ne_nil (n := n) (b := 10))
  have hmem : c ∈ Nat.toDigits 10 n := by simp [hcons]
  have hdigit := Nat.isDigit_of_mem_toDigits (by decide) (by decide) hmem
  exact ⟨c, cs, hcons, hdigit, (solid_toDigits n c hmem).1⟩

/-- An integer of a signed or unsigned word is shown by its numeral. -/
theorem shows_integer {value : Int} (hlow : -0x8000000000000000 ≤ value)
    (hhigh : value < Word.limit) :
    Shows (toString value).toList
      (if value < 0 then .negative value else .natural value.natAbs) [] := by
  by_cases hneg : value < 0
  · rw [toList_toString_of_neg hneg, if_pos hneg]
    have hword : value.natAbs < Word.limit := by rw [Word.limit]; omega
    have hwhole : wholeNumber true value.natAbs = .negative value := by
      rw [wholeNumber, if_pos rfl, if_pos ⟨by omega, by omega⟩]
      congr 1
      omega
    refine ⟨'-', _, visible_cons (by decide) _, .inl ⟨rfl, ?_⟩⟩
    rw [readNumber_toDigits true hword, hwhole]
  · have hword : value.natAbs < Word.limit := by omega
    have hread := readNumber_toDigits false hword
    rw [toList_toString_of_nonneg (by omega), if_neg hneg]
    obtain ⟨c, cs, hcons, hdigit, hblank⟩ := exists_toDigits_eq_cons value.natAbs
    rw [hcons] at hread ⊢
    exact ⟨c, cs, visible_cons hblank _, .inr ⟨hdigit, hread⟩⟩

/-- An integer that a reader accepts is taken back from its numeral. -/
theorem reads_integer {expected : String} {accept : Int → Option α} {value : Int} {a : α}
    (hlow : -0x8000000000000000 ≤ value) (hhigh : value < Word.limit)
    (haccept : accept value = some a) :
    Reads (integer expected accept) (JsonValue.integer value).compact a := by
  refine reads_numeric (numeric_eq_ok_iff.mpr ⟨_, shows_integer hlow hhigh, ?_⟩)
  by_cases hneg : value < 0
  · simp only [if_pos hneg, haccept]
  · have hnat : (value.natAbs : Int) = value := by omega
    simp only [if_neg hneg, hnat, haccept]

theorem reads_unsigned32 (n : UInt32) :
    Reads unsigned32 (JsonValue.integer n.toNat).compact n := by
  have hlt := n.toNat_lt
  refine reads_integer (by omega) (by rw [Word.limit]; omega) ?_
  rw [if_pos ⟨by omega, by omega⟩, Int.toNat_natCast, UInt32.ofNat_toNat]

theorem reads_signed64 (n : Int64) : Reads signed64 (JsonValue.integer n.toInt).compact n := by
  have hlow := n.le_toInt
  have hhigh := n.toInt_lt
  refine reads_integer (by omega) (by rw [Word.limit]; omega) ?_
  rw [if_pos ⟨by omega, by omega⟩, Int64.ofInt_toInt]

theorem opens_integer (value : Int) : Opens (JsonValue.integer value).compact := by
  rw [JsonValue.compact_integer]
  refine (solid_toString_int value).opens ?_
  by_cases hneg : value < 0
  · rw [toList_toString_of_neg hneg]
    exact List.cons_ne_nil _ _
  · rw [toList_toString_of_nonneg (by omega)]
    exact Nat.toDigits_ne_nil

/-! ### Single-precision floats -/

theorem solid_singleText (x : Float32) : Solid (JsonValue.singleText x).toList := by
  rw [JsonValue.singleText]
  split
  · exact NumberStyle.document.solid_single x
  · decide

/-- A float that is the value of its text as a whole is taken back from it wherever it stands,
since no blanks follow it in the text. -/
theorem takesBack_single {x : Float32}
    (h : parse single (JsonValue.single x).compactText = .ok x) :
    TakesBack single (.single x) x := by
  have hsolid := solid_singleText x
  obtain ⟨rest, hread, hblank⟩ := parse_eq_ok_iff.mp h
  rw [JsonValue.compact_single] at hread
  obtain ⟨n, hshows, _⟩ := numeric_eq_ok_iff.mp hread
  have hrest : rest = [] := (hsolid.subset hshows.suffix.subset).eq_nil hblank
  subst hrest
  rw [TakesBack, JsonValue.compact_single]
  exact ⟨hsolid.opens hshows.ne_nil, reads_numeric hread⟩

/-! ### Choices -/

theorem find?_name {name : α → String} {values : List α} {a : α} (hmem : a ∈ values)
    (hname : ∀ b ∈ values, name b = name a → b = a) :
    values.find? (name · = name a) = some a := by
  cases hfind : values.find? (name · = name a) with
  | none =>
    have hnone := List.find?_eq_none.mp hfind a hmem
    simp at hnone
  | some b =>
    have hb : name b = name a := by simpa using List.find?_some hfind
    rw [hname b (List.mem_of_find?_eq_some hfind) hb]

/-- A value that is told apart by its name is taken back from it. -/
theorem reads_choice {name : α → String} {values : List α} {a : α} (hmem : a ∈ values)
    (hname : ∀ b ∈ values, name b = name a → b = a) :
    Reads (choice name values) (JsonValue.string (name a)).compact a := by
  intro rest _
  rw [JsonValue.compact_string, toList_quoteForJson, choice, bind_apply]
  simp only [List.cons_append, List.append_assoc, List.nil_append]
  rw [peek_cons (by decide), ok_bind]
  show variant name values _ = _
  rw [variant, bind_apply, peek_cons (by decide), ok_bind]
  show (advance >>= fun _ => text >>= _) _ = _
  rw [bind_apply, advance_cons, ok_bind, bind_apply, text, readText_quoted, ok_bind]
  simp only [find?_name hmem hname]
  rfl

/-! ### Separated texts -/

def commaSeparated : List (List Char) → List Char
  | [] => []
  | text :: texts => text ++ texts.flatMap (',' :: ·)

theorem length_le_length_separated (texts : List (List Char)) :
    texts.length ≤ (texts.flatMap (',' :: ·)).length := by
  induction texts with
  | nil => exact Nat.le_refl 0
  | cons text texts ih =>
    rw [List.flatMap_cons, List.length_append, List.length_cons, List.length_cons]
    omega

/-- There are fewer texts than characters, once a closing bracket is counted. -/
theorem length_le_length_commaSeparated (texts : List (List Char)) :
    texts.length ≤ (commaSeparated texts).length + 1 := by
  cases texts with
  | nil => exact Nat.zero_le _
  | cons text texts =>
    have hseparated := length_le_length_separated texts
    rw [commaSeparated, List.length_append, List.length_cons]
    omega

theorem stops_separated (texts : List (List Char)) {c : Char} (hc : c = ',' ∨ c = ']' ∨ c = '}')
    (rest : List Char) : Stops (texts.flatMap (',' :: ·) ++ c :: rest) := by
  cases texts with
  | nil => exact stops_cons hc
  | cons text texts => exact stops_cons (.inl rfl)

/-! ### Sequences -/

theorem compactElements_eq (es : List JsonValue) :
    JsonValue.compactElements es = commaSeparated (es.map JsonValue.compact) := by
  induction es with
  | nil => rfl
  | cons e es ih =>
    cases es with
    | nil =>
      show e.compact = e.compact ++ []
      rw [List.append_nil]
    | cons e' es =>
      show e.compact ++ ',' :: JsonValue.compactElements (e' :: es) = _
      rw [ih]
      rfl

theorem hasElement_first {text : List Char} (h : Opens text) (cs : List Char) :
    hasElement true (text ++ cs) = .ok (true, text ++ cs) := by
  obtain ⟨c, text, rfl, hblank, hclose⟩ := h
  rw [List.cons_append, hasElement, bind_apply, peek_cons hblank, ok_bind]
  -- The first branch is out by `hclose`.
  simp only [if_true]
  rfl

theorem hasElement_next {text : List Char} (h : Opens text) (cs : List Char) :
    hasElement false (',' :: (text ++ cs)) = .ok (true, text ++ cs) := by
  obtain ⟨c, text, rfl, hblank, hclose⟩ := h
  rw [hasElement, bind_apply, peek_cons (by decide), ok_bind]
  show (advance >>= fun _ => peek >>= _) _ = _
  rw [bind_apply, advance_cons, ok_bind, bind_apply, List.cons_append, peek_cons hblank, ok_bind]
  simp only [hclose, if_false]
  rfl

section Sequence

variable {read : JsonReader α} {write : α → List Char} {as : List α}

/-- One more element is taken off the front. -/
theorem elements_cons {fuel : Nat} {first : Bool} {a : α} {cs₁ cs₂ : List Char}
    (hmore : hasElement first cs = .ok (true, cs₁)) (hread : read cs₁ = .ok (a, cs₂))
    (hrest : elements read fuel false cs₂ = .ok (as, rest)) :
    elements read (fuel + 1) first cs = .ok (a :: as, rest) := by
  rw [elements, bind_apply, hmore, ok_bind, if_pos rfl, bind_apply, hread, ok_bind, bind_apply,
    hrest]
  rfl

/-- The elements after the first are taken back one after another. -/
theorem elements_separated (hopens : ∀ a ∈ as, Opens (write a))
    (hreads : ∀ a ∈ as, Reads read (write a) a) {fuel : Nat} (hfuel : as.length < fuel)
    (rest : List Char) :
    elements read fuel false ((as.map write).flatMap (',' :: ·) ++ ']' :: rest) =
      .ok (as, ']' :: rest) := by
  induction as generalizing fuel with
  | nil =>
    obtain ⟨k, rfl⟩ := Nat.exists_eq_add_one_of_ne_zero (Nat.ne_zero_of_lt hfuel)
    rfl
  | cons a as ih =>
    obtain ⟨k, rfl⟩ := Nat.exists_eq_add_one_of_ne_zero (Nat.ne_zero_of_lt hfuel)
    have hrest := ih (fun b hb => hopens b (List.mem_cons_of_mem a hb))
      (fun b hb => hreads b (List.mem_cons_of_mem a hb)) (Nat.lt_of_succ_lt_succ hfuel)
    have hread := hreads a List.mem_cons_self _
      (stops_separated (as.map write) (.inr (.inl rfl)) rest)
    rw [List.map_cons, List.flatMap_cons, List.append_assoc, List.cons_append]
    exact elements_cons (hasElement_next (hopens a List.mem_cons_self) _) hread hrest

theorem elements_commaSeparated (hopens : ∀ a ∈ as, Opens (write a))
    (hreads : ∀ a ∈ as, Reads read (write a) a) {fuel : Nat} (hfuel : as.length < fuel)
    (rest : List Char) :
    elements read fuel true (commaSeparated (as.map write) ++ ']' :: rest) =
      .ok (as, ']' :: rest) := by
  obtain ⟨k, rfl⟩ := Nat.exists_eq_add_one_of_ne_zero (Nat.ne_zero_of_lt hfuel)
  cases as with
  | nil => rfl
  | cons a as =>
    have hrest := elements_separated (fun b hb => hopens b (List.mem_cons_of_mem a hb))
      (fun b hb => hreads b (List.mem_cons_of_mem a hb)) (Nat.lt_of_succ_lt_succ hfuel) rest
    have hread := hreads a List.mem_cons_self _
      (stops_separated (as.map write) (.inr (.inl rfl)) rest)
    rw [List.map_cons, commaSeparated, List.append_assoc]
    exact elements_cons (hasElement_first (hopens a List.mem_cons_self) _) hread hrest

end Sequence

theorem sequence_open (read : JsonReader α) (cs : List Char) :
    sequence read ('[' :: cs) =
      elements read (cs.length + 1) true cs >>= fun p => (p.1, ·.2) <$> endSequence p.2 := rfl

/-- A sequence is taken back if its elements are. -/
theorem reads_sequence {read : JsonReader α} {write : α → JsonValue} {as : List α}
    (hopens : ∀ a ∈ as, Opens (write a).compact)
    (hreads : ∀ a ∈ as, Reads read (write a).compact a) :
    Reads (sequence read) (JsonValue.array (as.map write)).compact as := by
  intro rest _
  let texts := as.map (JsonValue.compact ∘ write)
  have hlength : as.length ≤ (commaSeparated texts).length + 1 := by
    have htexts := length_le_length_commaSeparated texts
    rwa [List.length_map] at htexts
  have helements : elements read ((commaSeparated texts ++ ']' :: rest).length + 1) true
      (commaSeparated texts ++ ']' :: rest) = .ok (as, ']' :: rest) := by
    apply elements_commaSeparated hopens hreads
    rw [List.length_append, List.length_cons]
    omega
  rw [JsonValue.compact_array, compactElements_eq, List.map_map]
  simp only [List.cons_append, List.append_assoc, List.nil_append]
  rw [sequence_open, helements]
  rfl

end JsonReader

namespace Record

open JsonReader

variable {σ α : Type} {r : Record JsonReader σ α} {rest : List Char}

/-! ### Records -/

def memberText (member : String × JsonValue) : List Char :=
  (quoteForJson member.1).toList ++ ':' :: member.2.compact

theorem compactMembers_eq (members : List (String × JsonValue)) :
    JsonValue.compactMembers members = commaSeparated (members.map memberText) := by
  induction members with
  | nil => rfl
  | cons member members ih =>
    cases members with
    | nil =>
      show memberText member = memberText member ++ []
      rw [List.append_nil]
    | cons member' members =>
      show memberText member ++ ',' :: JsonValue.compactMembers (member' :: members) = _
      rw [ih]
      rfl

theorem hasMember_first (key : String) (document : JsonValue) (cs : List Char) :
    hasMember true (memberText (key, document) ++ cs) =
      .ok (true, memberText (key, document) ++ cs) := by
  rw [memberText, toList_quoteForJson]
  rfl

theorem hasMember_next (key : String) (document : JsonValue) (cs : List Char) :
    hasMember false (',' :: (memberText (key, document) ++ cs)) =
      .ok (true, memberText (key, document) ++ cs) := by
  rw [memberText, toList_quoteForJson]
  rfl

/-- A member is read into its field. -/
theorem readMember_eq {draft : σ} {key : String} {document : JsonValue}
    {field : Field JsonReader σ} {value : field.Value}
    (hfield : r.fields.find? (·.name = key) = some field) (hunset : field.get draft = none)
    (hread : Reads field.read document.compact value) (hrest : Stops rest) :
    r.readMember draft (memberText (key, document) ++ rest) =
      .ok (field.set draft value, rest) := by
  rw [memberText, toList_quoteForJson, readMember, bind_apply]
  simp only [List.cons_append, List.append_assoc, List.nil_append]
  rw [advance_cons, ok_bind, bind_apply, text, readText_quoted, ok_bind]
  simp only [hfield, hunset]
  show (field.read (document.compact ++ rest) >>= fun p => pure (field.set draft p.1, p.2)) = _
  rw [hread rest hrest]
  rfl

/-- One more member is read. -/
theorem readMembers_cons {fuel : Nat} {first : Bool} {draft draft₁ draft₂ : σ}
    {cs cs₁ cs₂ : List Char} (hmore : hasMember first cs = .ok (true, cs₁))
    (hread : r.readMember draft cs₁ = .ok (draft₁, cs₂))
    (hrest : r.readMembers fuel false draft₁ cs₂ = .ok (draft₂, rest)) :
    r.readMembers (fuel + 1) first draft cs = .ok (draft₂, rest) := by
  rw [readMembers, bind_apply, hmore, ok_bind, if_pos rfl, bind_apply, hread, ok_bind, hrest]

/-- The members after the first are read one after another. -/
theorem Fills.readMembers_separated {draft draft' : σ} {members : List (String × JsonValue)}
    (h : r.Fills TakesBack draft members draft') {fuel : Nat} (hfuel : members.length < fuel)
    (rest : List Char) :
    r.readMembers fuel false draft
      ((members.map memberText).flatMap (',' :: ·) ++ '}' :: rest) = .ok (draft', rest) := by
  induction h generalizing fuel with
  | nil draft =>
    obtain ⟨k, rfl⟩ := Nat.exists_eq_add_one_of_ne_zero (Nat.ne_zero_of_lt hfuel)
    rfl
  | cons hfield hunset htakes _ ih =>
    obtain ⟨k, rfl⟩ := Nat.exists_eq_add_one_of_ne_zero (Nat.ne_zero_of_lt hfuel)
    rw [List.map_cons, List.flatMap_cons, List.append_assoc, List.cons_append]
    exact readMembers_cons (hasMember_next ..)
      (readMember_eq hfield hunset htakes.2 (stops_separated _ (.inr (.inr rfl)) rest))
      (ih (Nat.lt_of_succ_lt_succ hfuel))

theorem Fills.readMembers_commaSeparated {draft draft' : σ} {members : List (String × JsonValue)}
    (h : r.Fills TakesBack draft members draft') {fuel : Nat} (hfuel : members.length < fuel)
    (rest : List Char) :
    r.readMembers fuel true draft (commaSeparated (members.map memberText) ++ '}' :: rest) =
      .ok (draft', rest) := by
  obtain ⟨k, rfl⟩ := Nat.exists_eq_add_one_of_ne_zero (Nat.ne_zero_of_lt hfuel)
  cases h with
  | nil draft => rfl
  | cons hfield hunset htakes hrest =>
    rw [List.map_cons, commaSeparated, List.append_assoc]
    exact readMembers_cons (hasMember_first ..)
      (readMember_eq hfield hunset htakes.2 (stops_separated _ (.inr (.inr rfl)) rest))
      (hrest.readMembers_separated (Nat.lt_of_succ_lt_succ hfuel) rest)

theorem read_open (r : Record JsonReader σ α) (cs : List Char) :
    r.read ('{' :: cs) =
      r.readMembers (cs.length + 1) true r.empty cs >>= fun p => r.complete p.1 p.2 := rfl

/-- A record is taken back if its members fill a draft of it. -/
theorem reads_object {members : List (String × JsonValue)} {draft : σ} {a : α}
    (hfills : r.Fills TakesBack r.empty members draft) (hfinish : r.finish draft = .ok a) :
    Reads r.read (JsonValue.object members).compact a := by
  intro rest _
  have hlength := length_le_length_commaSeparated (members.map memberText)
  rw [List.length_map] at hlength
  have hfuel : members.length <
      (commaSeparated (members.map memberText) ++ '}' :: rest).length + 1 := by
    rw [List.length_append, List.length_cons]
    omega
  rw [JsonValue.compact_object, compactMembers_eq]
  simp only [List.cons_append, List.append_assoc, List.nil_append]
  rw [read_open, hfills.readMembers_commaSeparated hfuel, ok_bind, complete, hfinish]
  rfl

end Record

/-! ### The text layer -/

section Layer

open JsonReader

attribute [local instance] TextLayer.json

theorem opens_string (s : String) : Opens (JsonValue.string s).compact := by
  rw [JsonValue.compact_string, toList_quoteForJson]
  exact ⟨'"', _, rfl, by decide, by decide⟩

/-- JSON texts are read as they are written. -/
theorem TextLayer.json_faithful : TextLayer.Faithful TakesBack where
  parse_write h := h.2.parse_eq
  string s := ⟨opens_string s, reads_string s⟩
  boolean b := ⟨by cases b <;> exact ⟨_, _, rfl, by decide, by decide⟩, reads_boolean b⟩
  unsigned32 n := ⟨opens_integer _, reads_unsigned32 n⟩
  signed64 n := ⟨opens_integer _, reads_signed64 n⟩
  single h := takesBack_single h
  choice hmem hname := ⟨opens_string _, reads_choice hmem hname⟩
  sequence h := ⟨⟨'[', _, rfl, by decide, by decide⟩,
    reads_sequence (fun a ha => (h a ha).1) (fun a ha => (h a ha).2)⟩
  record hfills hfinish := ⟨⟨'{', _, rfl, by decide, by decide⟩,
    Record.reads_object hfills hfinish⟩

end Layer

end ConvLab
