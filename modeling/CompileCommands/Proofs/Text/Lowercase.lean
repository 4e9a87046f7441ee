import CompileCommands.Text.Lowercase
import Mathlib.Data.List.Infix

/-!
# Endings of lowercase text

The lowercase form of a text and the form in which only ASCII capitals are changed end alike, as
far as the ending is made of ASCII characters other than `k`: the Kelvin sign is the only
character past ASCII whose lowercase form is an ASCII character, and `İ` and the capital sigma
have lowercase forms that end in a character past ASCII.

* `ofChar_eq_iff_toLower_eq`: one character.
* `suffix_lowercase_iff`: the endings of a text.
-/

namespace CompileCommands.Text

namespace Lowercase

/-- An ASCII character other than `k` and the null character. -/
def IsPlain (c : Char) : Prop :=
  0 < c.toNat ∧ c.toNat < 0x80 ∧ c ≠ 'k'

instance (c : Char) : Decidable (IsPlain c) :=
  inferInstanceAs (Decidable (_ ∧ _ ∧ _))

/-! ## One character -/

/-- Among the runs, that of the ASCII capitals alone starts in ASCII, and the Kelvin sign alone
has its lowercase form in ASCII without being there itself. -/
theorem runs_spec : ∀ r ∈ runs, r = ⟨0x41, 0x5A, 1, 32, 0⟩ ∨
    0x80 ≤ r.first ∧ (0x80 + r.down ≤ r.first + r.up ∨ r = ⟨0x212A, 0x212A, 1, 0, 8383⟩) := by
  decide +kernel

theorem le_of_holds {r : Run} {n : Nat} (h : r.holds n = true) : r.first ≤ n ∧ n ≤ r.last := by
  simp only [Run.holds, Bool.and_eq_true, decide_eq_true_eq] at h
  exact h.1

theorem toNat_ofNat_eq_or (n : Nat) : (Char.ofNat n).toNat = n ∨ (Char.ofNat n).toNat = 0 := by
  by_cases h : n.isValidChar
  · rw [Char.ofNat, dif_pos h]
    exact .inl rfl
  · rw [Char.ofNat, dif_neg h]
    exact .inr rfl

/-- Past ASCII, no character but the Kelvin sign has a lowercase form in ASCII. -/
theorem not_isPlain_ofChar {c : Char} (hc : 0x80 ≤ c.toNat) : ¬ IsPlain (ofChar c) := by
  rintro ⟨hpos, hlt, hk⟩
  cases hrun : runs.find? (·.holds c.toNat) with
  | none =>
    simp only [ofChar, hrun] at hlt
    omega
  | some r =>
    simp only [ofChar, hrun, Run.lower] at hpos hlt hk
    obtain ⟨hfirst, hlast⟩ := le_of_holds (by simpa using List.find?_some hrun)
    -- The run is that of the ASCII capitals, one whose lowercase forms are past ASCII, or that of
    -- the Kelvin sign.
    rcases runs_spec r (List.mem_of_find?_eq_some hrun) with rfl | ⟨-, hhigh | rfl⟩
    · dsimp only at hlast
      omega
    · rcases toNat_ofNat_eq_or (c.toNat + r.up - r.down) with h | h <;> omega
    · have hkelvin : c.toNat = 0x212A := Nat.le_antisymm hlast hfirst
      exact hk (by rw [hkelvin]; rfl)

/-- In ASCII, lowercase changes the capitals alone. -/
theorem ofChar_eq_toLower {c : Char} (hc : c.toNat < 0x80) : ofChar c = c.toLower := by
  have hall : ∀ n < 0x80, ofChar (Char.ofNat n) = (Char.ofNat n).toLower := by
    decide +kernel
  rw [← Char.ofNat_toNat c]
  exact hall _ hc

theorem toLower_eq_self_of_high {c : Char} (hc : 0x80 ≤ c.toNat) : c.toLower = c := by
  unfold Char.toLower
  rw [dif_neg]
  simp only [ge_iff_le, UInt32.le_iff_toNat_le, not_and]
  change _ → ¬ c.toNat ≤ 0x5A
  omega

/-- A character has a plain lowercase form exactly when only its ASCII case differs. -/
theorem ofChar_eq_iff_toLower_eq {c d : Char} (hd : IsPlain d) : ofChar c = d ↔ c.toLower = d := by
  rcases Nat.lt_or_ge c.toNat 0x80 with hc | hc
  · rw [ofChar_eq_toLower hc]
  · rw [toLower_eq_self_of_high hc]
    constructor
    · rintro rfl
      exact absurd hd (not_isPlain_ofChar hc)
    · rintro rfl
      exact absurd hd.2.1 (by omega)

/-- In any context a character has the one form it has alone, or its forms end past ASCII and it
is past ASCII itself. -/
theorem inContext_eq_or (before : List Char) (c : Char) (cs : List Char) :
    inContext before c cs = [ofChar c] ∨
      ∃ forms last, inContext before c cs = forms ++ [last] ∧ ¬ IsPlain last ∧
        ¬ IsPlain c.toLower := by
  unfold inContext
  split
  · next hc =>
    subst hc
    refine .inr ⟨[], _, rfl, ?_, by decide⟩
    split <;> decide
  · split
    · next hc =>
      subst hc
      exact .inr ⟨['i'], '\u0307', rfl, by decide, by decide⟩
    · exact .inl rfl

/-! ## Endings of a text -/

/-- A text has a plain lowercase form exactly when only its ASCII case differs from it. -/
theorem after_eq_iff {before cs plain : List Char} (hplain : ∀ e ∈ plain, IsPlain e) :
    after before cs = plain ↔ cs.map Char.toLower = plain := by
  -- The forms of one character are compared at a time.
  induction cs generalizing before plain with
  | nil => rfl
  | cons c cs ih =>
    rw [after, List.map_cons]
    rcases inContext_eq_or before c cs with hforms | ⟨forms, last, hforms, hlast, hlower⟩
    · rw [hforms, List.singleton_append]
      cases plain with
      | nil => simp only [reduceCtorEq]
      | cons d ending =>
        obtain ⟨hd, hending⟩ := List.forall_mem_cons.1 hplain
        rw [List.cons.injEq, List.cons.injEq, ofChar_eq_iff_toLower_eq hd, ih hending]
    · constructor
      · rintro rfl
        exact absurd (hplain last (by simp [hforms])) hlast
      · rintro rfl
        exact absurd (hplain _ List.mem_cons_self) hlower

/-- What a text ends in is not changed by what stands before a character that it lacks. -/
theorem suffix_append_cons_iff {ending before after : List Char} {c : Char} (hc : c ∉ ending) :
    ending <:+ before ++ c :: after ↔ ending <:+ after := by
  constructor
  · intro h
    -- An ending that reached over the character would have it as a member.
    induction before with
    | nil =>
      rcases List.suffix_cons_iff.1 h with rfl | h
      · exact absurd List.mem_cons_self hc
      · exact h
    | cons b before ih =>
      rcases List.suffix_cons_iff.1 h with rfl | h
      · exact absurd (by simp) hc
      · exact ih h
  · exact fun h => h.trans ⟨before ++ [c], by simp⟩

/-- A lowercase text has the plain endings of the text in which only ASCII capitals change. -/
theorem suffix_after_iff {before cs ending : List Char} (hplain : ∀ e ∈ ending, IsPlain e) :
    ending <:+ after before cs ↔ ending <:+ cs.map Char.toLower := by
  -- An ending of the whole is the whole or an ending of what follows the first character.
  induction cs generalizing before with
  | nil => rfl
  | cons c cs ih =>
    rw [List.map_cons, List.suffix_cons_iff, ← List.map_cons,
      eq_comm, ← @after_eq_iff before _ _ hplain, after, ← ih]
    rcases inContext_eq_or before c cs with hforms | ⟨forms, last, hforms, hlast, -⟩
    · rw [hforms, List.singleton_append, List.suffix_cons_iff, eq_comm]
    · rw [hforms, List.append_assoc, List.singleton_append,
        suffix_append_cons_iff fun h => hlast (hplain _ h)]
      refine ⟨.inr, ?_⟩
      rintro (rfl | h)
      · exact absurd (hplain last (by simp)) hlast
      · exact h

end Lowercase

/-- The lowercase form of a text and its form with only ASCII capitals changed have the same
endings among the plain texts. -/
theorem suffix_lowercase_iff {cs ending : List Char}
    (hplain : ∀ e ∈ ending, Lowercase.IsPlain e) :
    ending <:+ lowercase cs ↔ ending <:+ lowercaseAscii cs :=
  Lowercase.suffix_after_iff hplain

/-- The lowercase form of the Kelvin sign is a `k`, which is therefore not plain. -/
example : ['k'] <:+ lowercase ['\u212A'] ∧ ¬ ['k'] <:+ lowercaseAscii ['\u212A'] := by
  decide +kernel

end CompileCommands.Text
