import CompileCommands.Proofs.Json.Grammar
import CompileCommands.Text.Opening
import Mathlib.Data.List.TakeWhile

/-!
# A reader of JSON

The reader takes what it reads from the front of a text and answers the rest. It reads exactly the
documents of the grammar, and answers what they mean.

* `readChar?_eq_some_iff`: one character of a quoted text.
* `readQuoted?_eq_some_iff`: a quoted text.
* `Reads.value`: a value, up to a depth of nesting.
* `parse?_eq_some_iff`: a whole document.
-/

namespace CompileCommands.Json

/-! ## The reader -/

/-- What follows the space at the front. -/
def skipSpace (cs : List Char) : List Char :=
  cs.dropWhile isSpace

/-- The number that four hexadecimal digits at the front make. -/
def readUnit? (cs : List Char) : Option (Nat × List Char) :=
  if cs.length < 4 then none else (hexNumber? (cs.take 4)).map (·, cs.drop 4)

/-- The character whose one or two units follow a backslash and a `u`. -/
def readUnits? (cs : List Char) : Option (Char × List Char) := do
  let (n, cs) ← readUnit? cs
  if IsHigh n then do
    let cs ← Text.afterChars? ['\\', 'u'] cs
    let (low, cs) ← readUnit? cs
    if IsLow low then some (ofUnits n low, cs) else none
  else if IsLow n then none
  else some (Char.ofNat n, cs)

/-- The character that is written after a backslash. -/
def readEscape? : List Char → Option (Char × List Char)
  | [] => none
  | letter :: cs =>
    if letter = 'u' then readUnits? cs else (shortEscapes.lookup letter).map (·, cs)

/-- The character that the front stands for between quotes. -/
def readChar? : List Char → Option (Char × List Char)
  | [] => none
  | c :: cs =>
    if c = '\\' then readEscape? cs
    else if 0x20 ≤ c.toNat ∧ c ≠ '"' then some (c, cs)
    else none

/-- The characters before the closing quote, as long as the fuel lasts. -/
def readChars? : (fuel : Nat) → List Char → Option (List Char × List Char)
  | 0, _ => none
  | fuel + 1, cs =>
    if cs.head? = some '"' then some ([], cs.tail)
    else do
      let (c, cs) ← readChar? cs
      let (text, cs) ← readChars? fuel cs
      some (c :: text, cs)

/-- The quoted text at the front. -/
def readQuoted? : List Char → Option (String × List Char)
  | '"' :: cs => (readChars? (cs.length + 1) cs).map fun (text, cs) => (String.ofList text, cs)
  | _ => none

/-- What a literal or a number means. -/
def ofWord? (word : List Char) : Option Datum :=
  if word = ['n', 'u', 'l', 'l'] then some .null
  else if word = ['t', 'r', 'u', 'e'] then some (.boolean true)
  else if word = ['f', 'a', 'l', 's', 'e'] then some (.boolean false)
  else if isNumber word then some (.number (String.ofList word))
  else none

/-- The literal or number at the front. -/
def readWord? (cs : List Char) : Option (Datum × List Char) :=
  (ofWord? (cs.takeWhile isWordChar)).map (·, cs.dropWhile isWordChar)

section Items

variable {α : Type} (read : List Char → Option (α × List Char)) (closing : Char)

/-- The items before a closing bracket, at least one, as long as the fuel lasts. -/
def readItems? : (fuel : Nat) → List Char → Option (List α × List Char)
  | 0, _ => none
  | fuel + 1, cs => do
    let (item, cs) ← read (skipSpace cs)
    match skipSpace cs with
    | [] => none
    | c :: cs =>
      if c = ',' then do
        let (items, cs) ← readItems? fuel cs
        some (item :: items, cs)
      else if c = closing then some ([item], cs)
      else none

/-- The items before a closing bracket. -/
def readBlock? (cs : List Char) : Option (List α × List Char) :=
  if (skipSpace cs).head? = some closing then some ([], (skipSpace cs).tail)
  else readItems? read closing cs.length cs

end Items

/-- The member at the front. -/
def readMember? (read : List Char → Option (Datum × List Char)) (cs : List Char) :
    Option ((String × Datum) × List Char) := do
  let (name, cs) ← readQuoted? cs
  let cs ← Text.afterChars? [':'] (skipSpace cs)
  let (value, cs) ← read (skipSpace cs)
  some ((name, value), cs)

/-- The value at the front, if it is nested less than `depth` levels deep. -/
def readValue? : (depth : Nat) → List Char → Option (Datum × List Char)
  | 0, _ => none
  | depth + 1, cs =>
    if cs.head? = some '"' then (readQuoted? cs).map fun (s, cs) => (.text s, cs)
    else if cs.head? = some '[' then
      (readBlock? (readValue? depth) ']' cs.tail).map fun (items, cs) => (.array items, cs)
    else if cs.head? = some '\x7b' then
      (readBlock? (readMember? (readValue? depth)) '\x7d' cs.tail).map
        fun (members, cs) => (.object members, cs)
    else readWord? cs

/-- The value at the front of a text, however deep it is nested. -/
def read? (cs : List Char) : Option (Datum × List Char) :=
  readValue? (cs.length + 1) (skipSpace cs)

/-- What a whole text means. -/
def parse? (cs : List Char) : Option Datum := do
  let (datum, cs) ← read? cs
  if skipSpace cs = [] then some datum else none

/-! ## Space -/

variable {cs rest : List Char}

theorem skipSpace_append {space : List Char} (hspace : IsSpace space) :
    skipSpace (space ++ cs) = skipSpace cs :=
  List.dropWhile_append_of_pos hspace

theorem skipSpace_cons {c : Char} (hc : isSpace c = false) : skipSpace (c :: cs) = c :: cs :=
  List.dropWhile_cons_of_neg (by rw [hc]; decide)

/-- What is skipped is space. -/
theorem exists_append_skipSpace (cs : List Char) :
    ∃ space, IsSpace space ∧ cs = space ++ skipSpace cs :=
  ⟨cs.takeWhile isSpace, fun _ h => List.mem_takeWhile_imp h, List.takeWhile_append_dropWhile.symm⟩

/-- Nothing is left exactly when all is space. -/
theorem skipSpace_eq_nil_iff : skipSpace cs = [] ↔ IsSpace cs :=
  List.dropWhile_eq_nil_iff

/-! ## Characters -/

theorem readUnit?_eq_some_iff {n : Nat} :
    readUnit? cs = some (n, rest) ↔ ∃ digits, IsUnit digits n ∧ cs = digits ++ rest := by
  simp only [readUnit?, Option.ite_none_left_eq_some, Option.map_eq_some_iff, Prod.mk.injEq,
    IsUnit]
  constructor
  · rintro ⟨hlength, number, hnumber, rfl, rfl⟩
    exact ⟨cs.take 4, ⟨by rw [List.length_take]; omega, hnumber⟩, (List.take_append_drop 4 cs).symm⟩
  · rintro ⟨digits, ⟨hlength, hnumber⟩, rfl⟩
    refine ⟨by rw [List.length_append]; omega, n, ?_, rfl, ?_⟩
    · rw [List.take_left' hlength, hnumber]
    · rw [List.drop_left' hlength]

/-- After a backslash and a `u`, one unit or two stand for a character. -/
theorem readUnits?_eq_some_iff {c : Char} :
    readUnits? cs = some (c, rest) ↔
      ∃ form, IsCharForm ('\\' :: 'u' :: form) c ∧ cs = form ++ rest := by
  simp only [readUnits?, Option.bind_eq_bind, Option.bind_eq_some_iff, Prod.exists,
    readUnit?_eq_some_iff]
  constructor
  · rintro ⟨n, after, ⟨digits, hdigits, rfl⟩, hbranch⟩
    -- Only the first half of a surrogate pair asks for a second unit.
    split at hbranch
    · next hhigh =>
      simp only [Option.bind_eq_some_iff, Prod.exists, readUnit?_eq_some_iff,
        Text.afterChars?_eq_some_iff, Option.ite_none_right_eq_some] at hbranch
      obtain ⟨-, rfl, low, after, ⟨digits', hdigits', rfl⟩, hlow, heq⟩ := hbranch
      obtain ⟨rfl, rfl⟩ := Prod.mk.inj (Option.some.inj heq)
      exact ⟨_, .units hdigits hhigh hdigits' hlow, by simp⟩
    · next hhigh =>
      obtain ⟨hlow, heq⟩ := Option.ite_none_left_eq_some.1 hbranch
      obtain ⟨rfl, rfl⟩ := Prod.mk.inj (Option.some.inj heq)
      exact ⟨_, .unit hdigits hhigh hlow, rfl⟩
  · rintro ⟨form, hform, rfl⟩
    cases hform with
    | short hletter => exact absurd hletter (by simp [shortEscapes])
    | unit hdigits hhigh hlow =>
      refine ⟨_, rest, ⟨form, hdigits, rfl⟩, ?_⟩
      rw [if_neg hhigh, if_neg hlow]
    | @units digits digits' high low hdigits hhigh hdigits' hlow =>
      refine ⟨high, _, ⟨digits, hdigits, List.append_assoc ..⟩, ?_⟩
      simp only [if_pos hhigh, Option.bind_eq_some_iff, Prod.exists, readUnit?_eq_some_iff,
        Text.afterChars?_eq_some_iff, Option.ite_none_right_eq_some]
      exact ⟨_, rfl, low, rest, ⟨digits', hdigits', rfl⟩, hlow, rfl⟩

/-- The letters of the short escapes. -/
theorem lookup_shortEscapes_eq_some_iff {letter c : Char} :
    shortEscapes.lookup letter = some c ↔ (letter, c) ∈ shortEscapes := by
  -- The letters of the table differ, so that each one finds its own escape.
  have hlookup : ∀ escape ∈ shortEscapes, shortEscapes.lookup escape.1 = some escape.2 := by
    decide
  refine ⟨fun h => ?_, hlookup (letter, c)⟩
  obtain ⟨before, after, hescapes, -⟩ := List.lookup_eq_some_iff.1 h
  exact hescapes ▸ List.mem_append_right before List.mem_cons_self

/-- After a backslash, a letter or units stand for a character. -/
theorem readEscape?_eq_some_iff {c : Char} :
    readEscape? cs = some (c, rest) ↔ ∃ form, IsCharForm ('\\' :: form) c ∧ cs = form ++ rest := by
  constructor
  · intro h
    cases cs with
    | nil => exact absurd h (by simp [readEscape?])
    | cons letter cs =>
      rw [readEscape?] at h
      split at h
      · next hletter =>
        obtain ⟨form, hform, rfl⟩ := readUnits?_eq_some_iff.1 h
        exact ⟨'u' :: form, hform, hletter ▸ rfl⟩
      · obtain ⟨found, hfound, heq⟩ := Option.map_eq_some_iff.1 h
        cases heq
        exact ⟨[letter], .short (lookup_shortEscapes_eq_some_iff.1 hfound), rfl⟩
  · rintro ⟨form, hform, rfl⟩
    cases hform with
    | raw _ _ hslash => exact absurd rfl hslash
    | short hletter =>
      rw [List.singleton_append, readEscape?, if_neg, lookup_shortEscapes_eq_some_iff.2 hletter]
      · rfl
      · rintro rfl
        exact absurd hletter (by simp [shortEscapes])
    | unit hdigits hhigh hlow =>
      exact readUnits?_eq_some_iff.2 ⟨_, .unit hdigits hhigh hlow, rfl⟩
    | units hdigits hhigh hdigits' hlow =>
      exact readUnits?_eq_some_iff.2 ⟨_, .units hdigits hhigh hdigits' hlow, rfl⟩

/-- The ways to read a character are the ways to write it. -/
theorem readChar?_eq_some_iff {c : Char} :
    readChar? cs = some (c, rest) ↔ ∃ form, IsCharForm form c ∧ cs = form ++ rest := by
  constructor
  · intro h
    cases cs with
    | nil => exact absurd h (by simp [readChar?])
    | cons first cs =>
      rw [readChar?] at h
      split at h
      · next hslash =>
        obtain ⟨form, hform, rfl⟩ := readEscape?_eq_some_iff.1 h
        exact ⟨'\\' :: form, hform, hslash ▸ rfl⟩
      · next hslash =>
        obtain ⟨⟨hcontrol, hquote⟩, heq⟩ := Option.ite_none_right_eq_some.1 h
        cases heq
        exact ⟨[c], .raw hcontrol hquote hslash, rfl⟩
  · rintro ⟨form, hform, rfl⟩
    cases hform with
    | raw hcontrol hquote hslash =>
      rw [List.singleton_append, readChar?, if_neg hslash, if_pos ⟨hcontrol, hquote⟩]
    | short hletter => exact readEscape?_eq_some_iff.2 ⟨_, .short hletter, rfl⟩
    | unit hdigits hhigh hlow =>
      exact readEscape?_eq_some_iff.2 ⟨_, .unit hdigits hhigh hlow, rfl⟩
    | units hdigits hhigh hdigits' hlow =>
      exact readEscape?_eq_some_iff.2 ⟨_, .units hdigits hhigh hdigits' hlow, rfl⟩

/-- No way to write a character starts with a quote. -/
theorem IsCharForm.head?_ne {form : List Char} {c : Char} (h : IsCharForm form c) :
    (form ++ rest).head? ≠ some '"' := by
  cases h with
  | raw _ hquote _ => simpa using hquote
  | short | unit | units => simp

theorem IsCharForm.length_pos {form : List Char} {c : Char} (h : IsCharForm form c) :
    0 < form.length := by
  cases h <;> simp

/-! ## Texts -/

theorem readChars?_eq_some_iff {fuel : Nat} {text : List Char} (hfuel : cs.length < fuel) :
    readChars? fuel cs = some (text, rest) ↔
      ∃ body, IsChars body text ∧ cs = body ++ '"' :: rest := by
  -- One character is read at a time; none is empty, so the fuel lasts as long as the text.
  induction fuel generalizing cs text with
  | zero => omega
  | succ fuel ih =>
    rw [readChars?]
    split
    · next hquote =>
      -- A quote ends the text, as no character starts with one.
      obtain ⟨after, rfl⟩ := List.head?_eq_some_iff.1 hquote
      simp only [List.tail_cons, Option.some.injEq, Prod.mk.injEq]
      constructor
      · rintro ⟨rfl, rfl⟩
        exact ⟨[], .nil, rfl⟩
      · rintro ⟨body, hbody, hcs⟩
        cases hbody with
        | nil => exact ⟨rfl, (List.cons.inj hcs).2⟩
        | cons hform _ =>
          rw [List.append_assoc] at hcs
          exact absurd (congrArg List.head? hcs).symm hform.head?_ne
    · next hquote =>
      simp only [Option.bind_eq_bind, Option.bind_eq_some_iff, Prod.exists, readChar?_eq_some_iff,
        Option.some.injEq, Prod.mk.injEq]
      constructor
      · rintro ⟨c, after, ⟨form, hform, rfl⟩, text, rest, hchars, rfl, rfl⟩
        have hlength := hform.length_pos
        rw [List.length_append] at hfuel
        obtain ⟨body, hbody, rfl⟩ := (ih (by omega)).1 hchars
        exact ⟨form ++ body, .cons hform hbody, (List.append_assoc ..).symm⟩
      · rintro ⟨body, hbody, rfl⟩
        cases hbody with
        | nil => exact absurd rfl hquote
        | @cons form written c text hform hbody =>
          have hlength := hform.length_pos
          simp only [List.append_assoc, List.length_append] at hfuel ⊢
          exact ⟨c, _, ⟨form, hform, rfl⟩, text, rest,
            (ih (by simp only [List.length_append]; omega)).2 ⟨written, hbody, rfl⟩, rfl, rfl⟩

/-- The quoted texts are read, whatever follows them. -/
theorem readQuoted?_eq_some_iff {s : String} :
    readQuoted? cs = some (s, rest) ↔ ∃ written, IsQuoted written s ∧ cs = written ++ rest := by
  unfold readQuoted?
  split
  · next cs =>
    simp only [Option.map_eq_some_iff, Prod.exists, Prod.mk.injEq,
      readChars?_eq_some_iff (Nat.lt_succ_self _)]
    constructor
    · rintro ⟨text, after, ⟨body, hbody, rfl⟩, rfl, rfl⟩
      exact ⟨_, ⟨body, by simpa using hbody, rfl⟩, by simp⟩
    · rintro ⟨written, ⟨body, hbody, rfl⟩, hcs⟩
      refine ⟨s.toList, rest, ⟨body, hbody, ?_⟩, String.ofList_toList, rfl⟩
      simpa using hcs
  · next hquote =>
    simp only [reduceCtorEq, false_iff, not_exists, not_and]
    rintro written ⟨body, hbody, rfl⟩ rfl
    exact hquote _ rfl

/-! ## Words -/

/-- What follows does not go on with a word. -/
def Ends (rest : List Char) : Prop :=
  ∀ c, rest.head? = some c → isWordChar c = false

theorem isWordChar_of_isDigit {c : Char} (hc : c.isDigit = true) : isWordChar c = true := by
  simp only [isWordChar, Char.isAlphanum, hc, Bool.or_true, Bool.true_or]

theorem all_isWordChar_of_isDigits (h : isDigits cs = true) : cs.all isWordChar = true := by
  rw [isDigits, Bool.and_eq_true, List.all_eq_true] at h
  exact List.all_eq_true.2 fun c hc => isWordChar_of_isDigit (h.2 c hc)

theorem all_isWordChar_of_isExponent (h : isExponent cs = true) : cs.all isWordChar = true := by
  have hletter {e : Char} (he : (e = 'e' || e = 'E') = true) : isWordChar e = true := by
    rw [Bool.or_eq_true, decide_eq_true_eq, decide_eq_true_eq] at he
    rcases he with rfl | rfl <;> decide
  unfold isExponent at h
  split at h
  · rfl
  -- With or without a sign, digits follow the letter.
  all_goals
    rw [Bool.and_eq_true] at h
    simp only [List.all_cons, hletter h.1, all_isWordChar_of_isDigits h.2, Bool.true_and]
    try decide

/-- After some digits the rest of a word decides. -/
theorem all_isWordChar_of_dropWhile (h : (cs.dropWhile Char.isDigit).all isWordChar = true) :
    cs.all isWordChar = true := by
  rw [← List.takeWhile_append_dropWhile (p := Char.isDigit) (l := cs), List.all_append, h,
    Bool.and_true, List.all_eq_true]
  exact fun c hc => isWordChar_of_isDigit (List.mem_takeWhile_imp hc)

theorem all_isWordChar_of_isFraction (h : isFraction cs = true) : cs.all isWordChar = true := by
  unfold isFraction at h
  split at h
  · rw [Bool.and_eq_true] at h
    rw [List.all_cons, all_isWordChar_of_dropWhile (all_isWordChar_of_isExponent h.2)]
    decide
  · exact all_isWordChar_of_isExponent h

theorem all_isWordChar_of_isUnsigned (h : isUnsigned cs = true) : cs.all isWordChar = true := by
  unfold isUnsigned at h
  split at h
  · cases h
  · rw [List.all_cons, all_isWordChar_of_isFraction h]
    decide
  · rw [Bool.and_eq_true] at h
    rw [List.all_cons, all_isWordChar_of_dropWhile (all_isWordChar_of_isFraction h.2),
      isWordChar_of_isDigit h.1]
    rfl

theorem all_isWordChar_of_isNumber (h : isNumber cs = true) : cs.all isWordChar = true := by
  unfold isNumber at h
  split at h
  · rw [List.all_cons, all_isWordChar_of_isUnsigned h]
    decide
  · exact all_isWordChar_of_isUnsigned h

/-- A word is made of word characters. -/
theorem IsWord.all_isWordChar {word : List Char} {datum : Datum} (h : IsWord word datum) :
    word.all isWordChar = true := by
  cases h with
  | nullLiteral | trueLiteral | falseLiteral => decide
  | number hnumber => exact all_isWordChar_of_isNumber hnumber

theorem IsWord.ne_nil {word : List Char} {datum : Datum} (h : IsWord word datum) : word ≠ [] := by
  rintro rfl
  cases h with
  | number hnumber => exact absurd hnumber (by decide)

theorem ofWord?_eq_some_iff {word : List Char} {datum : Datum} :
    ofWord? word = some datum ↔ IsWord word datum := by
  constructor
  · intro h
    unfold ofWord? at h
    split at h
    · next hword => cases h; exact hword ▸ .nullLiteral
    split at h
    · next hword => cases h; exact hword ▸ .trueLiteral
    split at h
    · next hword => cases h; exact hword ▸ .falseLiteral
    · obtain ⟨hnumber, heq⟩ := Option.ite_none_right_eq_some.1 h
      cases heq
      exact .number hnumber
  · intro h
    cases h with
    | nullLiteral | trueLiteral | falseLiteral => rfl
    | number hnumber =>
      -- No literal is a number.
      have hne : ∀ literal, isNumber literal = false → word ≠ literal := by
        rintro literal hliteral rfl
        exact absurd hnumber (by rw [hliteral]; decide)
      rw [ofWord?, if_neg (hne _ (by decide)), if_neg (hne _ (by decide)),
        if_neg (hne _ (by decide)), if_pos hnumber]

theorem dropWhile_of_ends (hrest : Ends rest) : rest.dropWhile isWordChar = rest := by
  cases rest with
  | nil => rfl
  | cons c rest => exact List.dropWhile_cons_of_neg (by rw [hrest c rfl]; decide)

/-- A word is read where nothing goes on with it. -/
theorem readWord?_of_isWord {word : List Char} {datum : Datum} (h : IsWord word datum)
    (hrest : Ends rest) : readWord? (word ++ rest) = some (datum, rest) := by
  -- The word is all word characters, and what follows starts with none.
  have hdrop : (word ++ rest).dropWhile isWordChar = rest := by
    rw [List.dropWhile_append_of_pos (List.all_eq_true.1 h.all_isWordChar),
      dropWhile_of_ends hrest]
  have htake : (word ++ rest).takeWhile isWordChar = word := by
    have hsplit := List.takeWhile_append_dropWhile (p := isWordChar) (l := word ++ rest)
    rw [hdrop] at hsplit
    exact List.append_cancel_right hsplit
  rw [readWord?, htake, hdrop, ofWord?_eq_some_iff.2 h]
  rfl

theorem exists_isWord_of_readWord? {datum : Datum} (h : readWord? cs = some (datum, rest)) :
    ∃ word, IsWord word datum ∧ cs = word ++ rest := by
  obtain ⟨found, hfound, heq⟩ := Option.map_eq_some_iff.1 h
  cases heq
  exact ⟨_, ofWord?_eq_some_iff.1 hfound, List.takeWhile_append_dropWhile.symm⟩

/-! ## Items -/

/-- A reader reads what has one of the written forms, where no word goes on, and nothing else. None
of the forms starts with space or with a closing bracket. -/
structure Reads {α : Type} (read : List Char → Option (α × List Char))
    (form : List Char → α → Prop) : Prop where
  /-- What is read has a written form. -/
  sound : ∀ {cs rest x}, read cs = some (x, rest) → ∃ written, form written x ∧ cs = written ++ rest
  /-- What has a written form is read. -/
  complete : ∀ {written rest x}, form written x → Ends rest →
    read (written ++ rest) = some (x, rest)
  /-- The first character of a written form. -/
  starts : ∀ {written x}, form written x →
    ∃ c cs, written = c :: cs ∧ isSpace c = false ∧ c ≠ ']' ∧ c ≠ '\x7d'

theorem isWordChar_of_isSpace {c : Char} (hc : isSpace c = true) : isWordChar c = false := by
  simp only [isSpace, Bool.or_eq_true, decide_eq_true_eq] at hc
  rcases hc with ((rfl | rfl) | rfl) | rfl <;> decide

/-- Space ends a word. -/
theorem Ends.space_append {space : List Char} (hspace : IsSpace space) (hrest : Ends rest) :
    Ends (space ++ rest) := by
  cases space with
  | nil => exact hrest
  | cons c space =>
    intro d hd
    obtain rfl : c = d := Option.some.inj hd
    exact isWordChar_of_isSpace (hspace _ List.mem_cons_self)

theorem ends_cons {c : Char} (hc : isWordChar c = false) : Ends (c :: rest) := by
  intro d hd
  obtain rfl : c = d := Option.some.inj hd
  exact hc

section Items

variable {α : Type} {read : List Char → Option (α × List Char)} {form : List Char → α → Prop}
  {closing : Char} (hread : Reads read form)
include hread

/-- Something written is read together with the space around it. -/
theorem Reads.padded {written : List Char} {x : α} {c : Char} (hpadded : Padded form written x)
    (hc : isWordChar c = false) (hspace : isSpace c = false) :
    ∃ after, read (skipSpace (written ++ c :: rest)) = some (x, after) ∧
      skipSpace after = c :: rest := by
  obtain ⟨before, inner, after, hbefore, hinner, hafter, rfl⟩ := hpadded
  obtain ⟨first, tail, rfl, hfirst, -⟩ := hread.starts hinner
  refine ⟨after ++ c :: rest, ?_, ?_⟩
  · rw [List.append_assoc, List.append_assoc, skipSpace_append hbefore, List.cons_append,
      skipSpace_cons hfirst]
    exact hread.complete hinner ((ends_cons hc).space_append hafter)
  · rw [skipSpace_append hafter, skipSpace_cons hspace]

/-- What is read after space, with the space that follows, is something written with space around
it. -/
theorem Reads.exists_padded {x : α} {after : List Char}
    (h : read (skipSpace cs) = some (x, after)) :
    ∃ written, Padded form written x ∧ cs = written ++ skipSpace after := by
  obtain ⟨before, hbefore, hcs⟩ := exists_append_skipSpace cs
  obtain ⟨space, hspace, hafter⟩ := exists_append_skipSpace after
  obtain ⟨inner, hinner, hskip⟩ := hread.sound h
  refine ⟨before ++ (inner ++ space), ⟨before, inner, space, hbefore, hinner, hspace, rfl⟩, ?_⟩
  rw [List.append_assoc, List.append_assoc, ← hafter, ← hskip, ← hcs]

/-- Items before a closing bracket are read. -/
theorem Reads.readItems? {fuel : Nat} {written : List Char} {xs : List α}
    (hitems : IsItems form written xs) (hclosing : closing = ']' ∨ closing = '\x7d')
    (hfuel : written.length < fuel) :
    readItems? read closing fuel (written ++ closing :: rest) = some (xs, rest) := by
  -- Each of the items takes one step of the reader.
  induction hitems generalizing fuel with
  | last hitem =>
    cases fuel with
    | zero => omega
    | succ fuel =>
      have hend : isWordChar closing = false ∧ isSpace closing = false ∧ closing ≠ ',' := by
        rcases hclosing with rfl | rfl <;> decide
      obtain ⟨after, hitem, hafter⟩ := hread.padded hitem hend.1 hend.2.1
      rw [Json.readItems?, hitem]
      simp only [Option.bind_eq_bind, Option.bind_some, hafter, if_neg hend.2.2, if_true]
  | cons hitem _ ih =>
    cases fuel with
    | zero => omega
    | succ fuel =>
      simp only [List.length_append, List.length_cons] at hfuel
      obtain ⟨after, hitem, hafter⟩ := hread.padded hitem (c := ',') (by decide) (by decide)
      rw [Json.readItems?, List.append_assoc, List.cons_append, hitem]
      simp only [Option.bind_eq_bind, hafter, if_true, ih (show _ < fuel by omega),
        Option.bind_some]

/-- What is read before a closing bracket is made of items. -/
theorem Reads.exists_isItems {fuel : Nat} {xs : List α}
    (h : Json.readItems? read closing fuel cs = some (xs, rest)) :
    ∃ written, IsItems form written xs ∧ cs = written ++ closing :: rest := by
  -- The induction is on the fuel, since what is read is not known to be items yet.
  induction fuel generalizing cs xs with
  | zero => cases h
  | succ fuel ih =>
    rw [Json.readItems?] at h
    simp only [Option.bind_eq_bind, Option.bind_eq_some_iff, Prod.exists] at h
    obtain ⟨x, after, hitem, h⟩ := h
    obtain ⟨written, hpadded, hcs⟩ := hread.exists_padded hitem
    rw [hcs]
    split at h
    · cases h
    · next c after hafter =>
      rw [hafter]
      split at h
      · next hcomma =>
        obtain ⟨⟨xs, after⟩, hitems, heq⟩ := Option.bind_eq_some_iff.1 h
        cases heq
        obtain ⟨others, hothers, rfl⟩ := ih hitems
        exact ⟨_, .cons hpadded hothers, by rw [hcomma]; simp⟩
      · obtain ⟨rfl, heq⟩ := Option.ite_none_right_eq_some.1 h
        cases heq
        exact ⟨written, .last hpadded, rfl⟩

/-- Items do not start with a closing bracket. -/
theorem Reads.head?_skipSpace_ne {written : List Char} {xs : List α}
    (hitems : IsItems form written xs) (hclosing : closing = ']' ∨ closing = '\x7d') :
    (skipSpace (written ++ rest)).head? ≠ some closing := by
  -- The first item decides, and it starts like no closing bracket.
  have hpadded {written rest : List Char} {x : α} (hitem : Padded form written x) :
      (skipSpace (written ++ rest)).head? ≠ some closing := by
    obtain ⟨before, inner, after, hbefore, hinner, -, rfl⟩ := hitem
    obtain ⟨first, tail, rfl, hfirst, hsquare, hcurly⟩ := hread.starts hinner
    rw [List.append_assoc, skipSpace_append hbefore, List.append_assoc, List.cons_append,
      skipSpace_cons hfirst]
    rintro heq
    obtain rfl : first = closing := Option.some.inj heq
    exact hclosing.elim hsquare hcurly
  cases hitems with
  | last hitem => exact hpadded hitem
  | cons hitem _ =>
    rw [List.append_assoc]
    exact hpadded hitem

/-- The items between brackets are read once the opening bracket is. -/
theorem Reads.readBlock?_eq_some_iff {opening : Char} {xs : List α}
    (hclosing : closing = ']' ∨ closing = '\x7d') :
    readBlock? read closing cs = some (xs, rest) ↔
      ∃ written, IsBlock opening closing form written xs ∧ opening :: cs = written ++ rest := by
  have hspace : isSpace closing = false := by
    rcases hclosing with rfl | rfl <;> decide
  unfold readBlock?
  constructor
  · intro h
    split at h
    · next hempty =>
      -- Without items there is only space between the brackets.
      obtain ⟨tail, htail⟩ := List.head?_eq_some_iff.1 hempty
      obtain ⟨space, hspace, hcs⟩ := exists_append_skipSpace cs
      rw [htail] at h hcs
      cases h
      exact ⟨_, ⟨space, rfl, .inl ⟨rfl, hspace⟩⟩, by rw [hcs]; simp⟩
    · obtain ⟨body, hitems, rfl⟩ := hread.exists_isItems h
      exact ⟨_, ⟨body, rfl, .inr hitems⟩, by simp⟩
  · rintro ⟨written, ⟨body, rfl, hbody⟩, hcs⟩
    obtain rfl : cs = body ++ closing :: rest := by simpa using hcs
    rcases hbody with ⟨rfl, hbody⟩ | hitems
    · rw [skipSpace_append hbody, skipSpace_cons hspace]
      exact if_pos rfl
    · rw [if_neg (hread.head?_skipSpace_ne hitems hclosing)]
      exact hread.readItems? hitems hclosing (by simp)

end Items

/-! ## Values -/

/-- Members are read if values are. -/
theorem Reads.member {read : List Char → Option (Datum × List Char)}
    {form : List Char → Datum → Prop} (hread : Reads read form) :
    Reads (readMember? read) (IsMember form) where
  sound := by
    intro cs rest member h
    simp only [readMember?, Option.bind_eq_bind, Option.bind_eq_some_iff, Prod.exists,
      readQuoted?_eq_some_iff, Text.afterChars?_eq_some_iff] at h
    obtain ⟨name, after, ⟨quoted, hquoted, rfl⟩, second, hcolon, value, after', hvalue, heq⟩ := h
    cases heq
    -- The space on both sides of the colon belongs to the member.
    obtain ⟨before, hbefore, hafter⟩ := exists_append_skipSpace after
    obtain ⟨space, hspace, hsecond⟩ := exists_append_skipSpace second
    obtain ⟨inner, hinner, hskip⟩ := hread.sound hvalue
    refine ⟨_, ⟨quoted, before, space, inner, hquoted, hbefore, hspace, hinner, rfl⟩, ?_⟩
    rw [hafter, hcolon, hsecond, hskip]
    simp
  complete := by
    rintro written rest ⟨name, datum⟩
      ⟨quoted, before, after, value, hquoted, hbefore, hafter, hvalue, rfl⟩ hrest
    obtain ⟨first, tail, rfl, hfirst, -⟩ := hread.starts hvalue
    simp only [readMember?, Option.bind_eq_bind, Option.bind_eq_some_iff, Prod.exists,
      readQuoted?_eq_some_iff, Text.afterChars?_eq_some_iff]
    refine ⟨name, _, ⟨quoted, hquoted, List.append_assoc ..⟩,
      after ++ (first :: tail ++ rest), ?_, datum, rest, ?_, rfl⟩
    · rw [List.append_assoc, skipSpace_append hbefore, List.cons_append, skipSpace_cons (by decide),
        List.append_assoc]
      rfl
    · rw [skipSpace_append hafter, List.cons_append, skipSpace_cons hfirst]
      exact hread.complete hvalue hrest
  starts := by
    rintro written member ⟨quoted, before, after, value, ⟨body, -, rfl⟩, -, -, -, rfl⟩
    exact ⟨_, _, rfl, by decide, by decide, by decide⟩

theorem isSpace_of_isWordChar {c : Char} (hc : isWordChar c = true) :
    isSpace c = false ∧ c ≠ ']' ∧ c ≠ '\x7d' := by
  refine ⟨?_, ?_, ?_⟩
  · rw [← Bool.not_eq_true]
    intro hspace
    rw [isWordChar_of_isSpace hspace] at hc
    cases hc
  · rintro rfl
    exact absurd hc (by decide)
  · rintro rfl
    exact absurd hc (by decide)

/-- A word starts with a word character, hence not as any other value does. -/
theorem IsWord.exists_cons {word : List Char} {datum : Datum} (h : IsWord word datum) :
    ∃ c cs, word = c :: cs ∧ isWordChar c = true := by
  obtain ⟨c, cs, rfl⟩ := List.exists_cons_of_ne_nil h.ne_nil
  exact ⟨c, cs, rfl, (List.all_eq_true.1 h.all_isWordChar) c List.mem_cons_self⟩

/-- Every value starts like no space and no closing bracket. -/
theorem IsValue.exists_cons {depth : Nat} {written : List Char} {datum : Datum}
    (h : IsValue (depth + 1) written datum) :
    ∃ c cs, written = c :: cs ∧ isSpace c = false ∧ c ≠ ']' ∧ c ≠ '\x7d' := by
  rcases h with hword | ⟨s, -, body, -, rfl⟩ | ⟨items, -, body, rfl, -⟩ | ⟨members, -, body, rfl, -⟩
  · obtain ⟨c, cs, rfl, hc⟩ := hword.exists_cons
    exact ⟨c, cs, rfl, isSpace_of_isWordChar hc⟩
  all_goals exact ⟨_, _, rfl, by decide, by decide, by decide⟩

/-- What is read one level deeper is a value of the grammar. -/
theorem exists_isValue_of_readValue? {depth : Nat} {datum : Datum}
    (hinner : Reads (readValue? depth) (IsValue depth))
    (h : readValue? (depth + 1) cs = some (datum, rest)) :
    ∃ written, IsValue (depth + 1) written datum ∧ cs = written ++ rest := by
  rw [readValue?] at h
  -- The first character says what is read: a text, an array, an object or else a word.
  split at h
  · obtain ⟨⟨s, after⟩, hquoted, heq⟩ := Option.map_eq_some_iff.1 h
    cases heq
    obtain ⟨written, hwritten, rfl⟩ := readQuoted?_eq_some_iff.1 hquoted
    exact ⟨written, .inr (.inl ⟨s, rfl, hwritten⟩), rfl⟩
  split at h
  · next hopening =>
    obtain ⟨tail, rfl⟩ := List.head?_eq_some_iff.1 hopening
    obtain ⟨⟨items, after⟩, hitems, heq⟩ := Option.map_eq_some_iff.1 h
    cases heq
    obtain ⟨written, hwritten, hcs⟩ := (hinner.readBlock?_eq_some_iff (.inl rfl)).1 hitems
    exact ⟨written, .inr (.inr (.inl ⟨items, rfl, hwritten⟩)), hcs⟩
  split at h
  · next hopening =>
    obtain ⟨tail, rfl⟩ := List.head?_eq_some_iff.1 hopening
    obtain ⟨⟨members, after⟩, hmembers, heq⟩ := Option.map_eq_some_iff.1 h
    cases heq
    obtain ⟨written, hwritten, hcs⟩ := (hinner.member.readBlock?_eq_some_iff (.inr rfl)).1 hmembers
    exact ⟨written, .inr (.inr (.inr ⟨members, rfl, hwritten⟩)), hcs⟩
  · obtain ⟨word, hword, rfl⟩ := exists_isWord_of_readWord? h
    exact ⟨word, .inl hword, rfl⟩

/-- A value of the grammar is read one level deeper than what is in it. -/
theorem readValue?_of_isValue {depth : Nat} {written : List Char} {datum : Datum}
    (hinner : Reads (readValue? depth) (IsValue depth)) (h : IsValue (depth + 1) written datum)
    (hrest : Ends rest) : readValue? (depth + 1) (written ++ rest) = some (datum, rest) := by
  rcases h with hword | ⟨s, rfl, hquoted⟩ | ⟨items, rfl, hblock⟩ | ⟨members, rfl, hblock⟩
  · obtain ⟨c, cs, rfl, hc⟩ := hword.exists_cons
    -- A word character opens nothing, so none of the other readers is asked.
    have hne : ∀ d, isWordChar d = false → (c :: cs ++ rest).head? ≠ some d := by
      rintro d hd heq
      obtain rfl : c = d := Option.some.inj heq
      rw [hc] at hd
      cases hd
    rw [readValue?, if_neg (hne _ (by decide)), if_neg (hne _ (by decide)),
      if_neg (hne _ (by decide)), readWord?_of_isWord hword hrest]
  · have hread : readQuoted? (written ++ rest) = some (s, rest) :=
      readQuoted?_eq_some_iff.2 ⟨written, hquoted, rfl⟩
    obtain ⟨body, -, rfl⟩ := hquoted
    rw [readValue?, List.cons_append, List.head?_cons, if_pos rfl, ← List.cons_append, hread]
    rfl
  · obtain ⟨body, rfl, -⟩ := id hblock
    rw [readValue?, List.cons_append, List.head?_cons, if_neg (by simp), if_pos rfl]
    exact Option.map_eq_some_iff.2
      ⟨_, (hinner.readBlock?_eq_some_iff (.inl rfl)).2 ⟨_, hblock, rfl⟩, rfl⟩
  · obtain ⟨body, rfl, -⟩ := id hblock
    rw [readValue?, List.cons_append, List.head?_cons, if_neg (by simp), if_neg (by simp),
      if_pos rfl]
    exact Option.map_eq_some_iff.2
      ⟨_, (hinner.member.readBlock?_eq_some_iff (.inr rfl)).2 ⟨_, hblock, rfl⟩, rfl⟩

/-- The values of the grammar are read, up to the same depth. -/
theorem Reads.value (depth : Nat) : Reads (readValue? depth) (IsValue depth) := by
  induction depth with
  | zero =>
    -- Without any depth there are no values and nothing is read.
    constructor
    · intro cs rest datum h
      cases h
    · intro written rest datum h
      exact h.elim
    · intro written datum h
      exact h.elim
  | succ depth ih =>
    exact {
      sound := exists_isValue_of_readValue? ih
      complete := readValue?_of_isValue ih
      starts := IsValue.exists_cons }

/-! ## Documents -/

/-- A value is read from the front of a text, whatever space is before it, where no word goes
on. -/
theorem read?_of_isValue {depth : Nat} {space written : List Char} {datum : Datum}
    (hspace : IsSpace space) (h : IsValue depth written datum) (hrest : Ends rest) :
    read? (space ++ (written ++ rest)) = some (datum, rest) := by
  obtain ⟨first, tail, rfl, hfirst, -⟩ := (Reads.value depth).starts h
  rw [read?, skipSpace_append hspace, List.cons_append, skipSpace_cons hfirst, ← List.cons_append]
  refine (Reads.value _).complete (h.of_length_le ?_) hrest
  simp only [List.length_append]
  omega

/-- The reader accepts exactly the documents, and answers what they mean. -/
theorem parse?_eq_some_iff {datum : Datum} : parse? cs = some datum ↔ IsDocument cs datum := by
  simp only [parse?, Option.bind_eq_bind, Option.bind_eq_some_iff, Prod.exists,
    Option.ite_none_right_eq_some, skipSpace_eq_nil_iff, Option.some.injEq]
  constructor
  · rintro ⟨found, after, hread, hafter, rfl⟩
    obtain ⟨before, hbefore, hcs⟩ := exists_append_skipSpace cs
    obtain ⟨written, hwritten, hskip⟩ := (Reads.value _).sound hread
    exact ⟨before, written, after, hbefore, ⟨_, hwritten⟩, hafter, by rw [← hskip, ← hcs]⟩
  · rintro ⟨before, written, after, hbefore, ⟨depth, hwritten⟩, hafter, rfl⟩
    refine ⟨datum, after, read?_of_isValue hbefore hwritten ?_, hafter, rfl⟩
    have hends : Ends (after ++ []) := .space_append hafter (by simp [Ends])
    rwa [List.append_nil] at hends

example : parse? "[1e3, \x7b\"\\ud83d\\ude00\" : null \x7d , -0]".toList =
    some (.array [.number "1e3", .object [("😀", .null)], .number "-0"]) := by
  rfl

end CompileCommands.Json
