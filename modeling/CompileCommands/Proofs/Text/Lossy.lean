import CompileCommands.Proofs.Text.Utf8

/-!
# Decoding with replacement characters

Lossy decoding goes through the bytes from the start. Where a character starts, it is decoded; where
none does, the longest part that could still have become a character is replaced, or a single byte
if there is no such part.

* `IsIllFormed`: a part that is replaced.
* `IsLossy`: bytes with the text that they decode to.
* `decodeLossy_eq_iff`: every byte string decodes to one text.
* `IsLossy.exists_append`: the parts of the text are those of the bytes.
* `IsLossy.eq_encodeChars`: without a replacement character, the bytes are the encoding of the text.
-/

namespace CompileCommands.Text.Utf8

/-! ## What is replaced -/

/-- The bytes are the start of a character, or a whole one. -/
def StartsChar (bytes : List UInt8) : Prop :=
  ∃ c, bytes <+: encodeChar c

/-- In front of the rest, the part is ill-formed as a whole and apart from it. -/
structure IsIllFormed (part rest : List UInt8) : Prop where
  /-- There is something to replace. -/
  ne_nil : part ≠ []
  /-- No character starts here. -/
  not_char : ∀ c, ¬ encodeChar c <+: part ++ rest
  /-- The part is a single byte, or it could have become a character. -/
  starts : part.length = 1 ∨ StartsChar part
  /-- With more of the bytes that follow, it could not. -/
  longest : ∀ more, more ≠ [] → more <+: rest → ¬ StartsChar (part ++ more)

/-- The bytes decode to the characters. -/
inductive IsLossy : List UInt8 → List Char → Prop where
  /-- Nothing decodes to nothing. -/
  | nil : IsLossy [] []
  /-- A character is decoded. -/
  | char (c : Char) {rest : List UInt8} {cs : List Char} (h : IsLossy rest cs) :
      IsLossy (encodeChar c ++ rest) (c :: cs)
  /-- An ill-formed part is replaced. -/
  | replaced {part rest : List UInt8} {cs : List Char} (hpart : IsIllFormed part rest)
      (h : IsLossy rest cs) : IsLossy (part ++ rest) ('\uFFFD' :: cs)

variable {part rest after bytes more : List UInt8} {s t cs : List Char} {c : Char}

/-- Where a part is ill-formed, it still is when fewer bytes follow. -/
theorem IsIllFormed.of_append (h : IsIllFormed part (rest ++ more)) : IsIllFormed part rest where
  ne_nil := h.ne_nil
  not_char c hc := h.not_char c <| by
    rw [← List.append_assoc]
    exact hc.trans (List.prefix_append _ _)
  starts := h.starts
  longest more hne hmore := h.longest more hne (hmore.trans (List.prefix_append _ _))

/-- Of two ill-formed parts at the start of the same bytes, neither is shorter. -/
theorem IsIllFormed.length_le {part' rest' : List UInt8} (h : IsIllFormed part rest)
    (h' : IsIllFormed part' rest') (heq : part ++ rest = part' ++ rest') :
    part'.length ≤ part.length := by
  by_contra hlt
  obtain ⟨more, rfl⟩ := List.prefix_of_prefix_length_le
    (List.prefix_append part rest) (heq ▸ List.prefix_append part' rest') (by omega)
  rw [List.append_assoc, List.append_cancel_left_eq] at heq
  have hpos := List.length_pos_iff.2 h.ne_nil
  have hmore : more ≠ [] := by
    rintro rfl
    simp at hlt
  rcases h'.starts with hone | hstarts
  · have hmorePos := List.length_pos_iff.2 hmore
    rw [List.length_append] at hone
    omega
  · exact h.longest more hmore (heq ▸ List.prefix_append more rest') hstarts

/-- There is one ill-formed part at the start of some bytes at most. -/
theorem IsIllFormed.unique {part' rest' : List UInt8} (h : IsIllFormed part rest)
    (h' : IsIllFormed part' rest') (heq : part ++ rest = part' ++ rest') :
    part = part' ∧ rest = rest' :=
  List.append_inj heq (Nat.le_antisymm (h'.length_le h heq.symm) (h.length_le h' heq))

/-! ## Reading an ill-formed part -/

/-- What a character has been started with can be finished. -/
theorem exists_finish (following : Nat) {least greatest : Nat} (bits : Nat)
    (hbounds : least ≤ greatest) (hgreatest : greatest ≤ 0xBF) :
    ∃ more c, finish following least greatest bits more = (.char c, []) := by
  induction following generalizing least greatest bits with
  | zero => exact ⟨[], _, rfl⟩
  | succ n ih =>
    have hleast : (UInt8.ofNat least).toNat = least := toNat_byteOfNat (by omega)
    obtain ⟨more, c, hmore⟩ := @ih 0x80 0xBF (bits * 0x40 + (least - 0x80)) (by omega) (by omega)
    refine ⟨UInt8.ofNat least :: more, c, ?_⟩
    rw [finish, hleast, if_pos ⟨Nat.le_refl _, hbounds⟩, hmore]

/-- A character that is not finished stops at a byte that cannot go on with it, and up to there it
could have been finished. -/
theorem finish_eq_illFormed {following least greatest bits : Nat} (hbounds : least ≤ greatest)
    (hgreatest : greatest ≤ 0xBF)
    (h : finish following least greatest bits bytes = (.illFormed, after)) :
    ∃ taken, bytes = taken ++ after ∧
      (∃ more c, finish following least greatest bits (taken ++ more) = (.char c, [])) ∧
      ∀ b ∈ after.head?, ∀ more,
        (finish following least greatest bits (taken ++ b :: more)).1 = .illFormed := by
  induction following generalizing least greatest bits bytes with
  | zero => simp [finish] at h
  | succ n ih =>
    cases bytes with
    | nil =>
      obtain rfl : [] = after := congrArg Prod.snd h
      exact ⟨[], rfl, exists_finish _ _ hbounds hgreatest,
        fun b hb => absurd hb (Option.not_mem_none b)⟩
    | cons b rest =>
      rw [finish] at h
      split at h
      · next hb =>
        obtain ⟨taken, rfl, ⟨more, c, hmore⟩, hstop⟩ := ih (by omega) (by omega) h
        refine ⟨b :: taken, rfl, ⟨more, c, ?_⟩, fun d hd more => ?_⟩
        · rw [List.cons_append, finish, if_pos hb, hmore]
        · rw [List.cons_append, finish, if_pos hb, hstop d hd]
      · next hb =>
        obtain rfl : b :: rest = after := congrArg Prod.snd h
        refine ⟨[], rfl, exists_finish _ _ hbounds hgreatest, fun d hd more => ?_⟩
        obtain rfl : b = d := Option.some.inj hd
        rw [List.nil_append, finish, if_neg hb]

/-- The bounds of what a first byte announces. -/
theorem bounds_of_lead? {b : Nat} {lead : Lead} (h : lead? b = some lead) :
    lead.least ≤ lead.greatest ∧ lead.greatest ≤ 0xBF := by
  unfold lead? at h
  repeat' split at h
  all_goals
    cases h
    try exact ⟨by simp, by simp⟩

/-- A first piece that is ill-formed is replaced. -/
theorem isIllFormed_of_piece {b : UInt8} (h : piece b rest = (.illFormed, after)) :
    ∃ taken, rest = taken ++ after ∧ IsIllFormed (b :: taken) after := by
  have hnot (c : Char) : ¬ encodeChar c <+: b :: rest := by
    rintro ⟨more, hmore⟩
    rw [piece_of_eq_encodeChar_append hmore.symm] at h
    cases h
  -- Whatever is the start of a character can be read as one.
  have hreads {taken : List UInt8} (hstarts : StartsChar (b :: taken)) :
      ∃ more c, piece b (taken ++ more) = (.char c, []) := by
    obtain ⟨c, more, hmore⟩ := hstarts
    exact ⟨more, c, piece_of_eq_encodeChar_append (by rw [List.append_nil]; exact hmore)⟩
  rw [piece] at h
  split at h
  · next lead hlead =>
    obtain ⟨hbounds, hgreatest⟩ := bounds_of_lead? hlead
    obtain ⟨taken, rfl, ⟨more, c, hmore⟩, hstop⟩ := finish_eq_illFormed hbounds hgreatest h
    have hpiece (bytes : List UInt8) :
        piece b bytes = finish lead.following lead.least lead.greatest lead.bits bytes := by
      rw [piece, hlead]
    have hstarts : StartsChar (b :: taken) := by
      rw [← hpiece] at hmore
      refine ⟨c, more, ?_⟩
      rw [← List.append_nil (encodeChar c)]
      exact eq_encodeChar_append_of_piece hmore
    refine ⟨taken, rfl, List.cons_ne_nil _ _, hnot, .inr hstarts, ?_⟩
    rintro (_ | ⟨d, ds⟩) hne ⟨others, hothers⟩ hlonger
    · exact hne rfl
    · rw [List.cons_append] at hlonger
      obtain ⟨more, c, hc⟩ := hreads hlonger
      have hd : d ∈ after.head? := by
        rw [← hothers]
        rfl
      have hillFormed := hstop d hd (ds ++ more)
      rw [List.append_assoc, List.cons_append] at hc
      rw [← hpiece, hc] at hillFormed
      cases hillFormed
  · next hlead =>
    obtain rfl : rest = after := congrArg Prod.snd h
    refine ⟨[], rfl, List.cons_ne_nil _ _, hnot, .inl rfl, fun more hne hmore hlonger => ?_⟩
    obtain ⟨more, c, hc⟩ := hreads hlonger
    rw [piece, hlead] at hc
    cases hc

/-! ## Decoding -/

/-- With enough fuel, the pieces make up the text that the bytes decode to. -/
theorem isLossy_piecesUpTo {count : Nat} (h : bytes.length ≤ count) :
    IsLossy bytes ((piecesUpTo count bytes).map Piece.charOrReplacement) := by
  induction count generalizing bytes with
  | zero =>
    obtain rfl : bytes = [] := List.length_eq_zero_iff.1 (by omega)
    exact .nil
  | succ count ih =>
    cases bytes with
    | nil => exact .nil
    | cons b rest =>
      have hlength := length_piece_le b rest
      rw [List.length_cons] at h
      rw [piecesUpTo, List.map_cons]
      cases hpiece : piece b rest with
      | mk first after =>
        rw [hpiece] at hlength
        dsimp only at hlength
        have hafter := @ih after (by omega)
        cases first with
        | char c =>
          rw [eq_encodeChar_append_of_piece hpiece]
          exact .char c hafter
        | illFormed =>
          obtain ⟨taken, rfl, hpart⟩ := isIllFormed_of_piece hpiece
          exact .replaced hpart hafter

/-- The encodings of two characters at the start of the same bytes are those of one. -/
theorem encodeChar_append_inj {d : Char} (h : encodeChar c ++ rest = encodeChar d ++ after) :
    c = d ∧ rest = after := by
  obtain ⟨b, bytes, hbytes⟩ := List.exists_cons_of_ne_nil
    (List.append_ne_nil_of_left_ne_nil (encodeChar_ne_nil c) rest)
  have hc := piece_of_eq_encodeChar_append hbytes.symm
  have hd := piece_of_eq_encodeChar_append (hbytes.symm.trans h)
  rw [hc] at hd
  cases hd
  exact ⟨rfl, rfl⟩

/-- Bytes decode to one text at most. -/
theorem IsLossy.unique (hs : IsLossy bytes s) (ht : IsLossy more t) (h : bytes = more) : s = t := by
  induction hs generalizing more t with
  | nil =>
    cases ht with
    | nil => rfl
    | char c _ => exact absurd h.symm (List.append_ne_nil_of_left_ne_nil (encodeChar_ne_nil c) _)
    | replaced hpart _ => exact absurd h.symm (List.append_ne_nil_of_left_ne_nil hpart.ne_nil _)
  | char c _ ih =>
    cases ht with
    | nil => exact absurd h (List.append_ne_nil_of_left_ne_nil (encodeChar_ne_nil c) _)
    | char d hrest =>
      obtain ⟨rfl, hafter⟩ := encodeChar_append_inj h
      rw [ih hrest hafter]
    | replaced hpart _ => exact absurd ⟨_, h⟩ (hpart.not_char c)
  | replaced hpart _ ih =>
    cases ht with
    | nil => exact absurd h (List.append_ne_nil_of_left_ne_nil hpart.ne_nil _)
    | char d _ => exact absurd ⟨_, h.symm⟩ (hpart.not_char d)
    | replaced hpart' hrest => rw [ih hrest (hpart.unique hpart' h).2]

/-- Lossy decoding finds the one text that the bytes decode to. -/
theorem decodeLossy_eq_iff {text : String} :
    decodeLossy bytes = text ↔ IsLossy bytes text.toList := by
  have hdecode : IsLossy bytes (decodeLossy bytes).toList := by
    rw [decodeLossy, String.toList_ofList]
    exact isLossy_piecesUpTo (Nat.le_refl _)
  constructor
  · rintro rfl
    exact hdecode
  · intro h
    exact String.toList_inj.1 (hdecode.unique h rfl)

/-! ## Parts of the text -/

/-- The parts of the text are decoded from parts of the bytes. -/
theorem IsLossy.exists_append (h : IsLossy bytes (s ++ t)) :
    ∃ first second, bytes = first ++ second ∧ IsLossy first s ∧ IsLossy second t := by
  induction s generalizing bytes with
  | nil => exact ⟨[], bytes, rfl, .nil, h⟩
  | cons c s ih =>
    cases h with
    | char c hrest =>
      obtain ⟨first, second, rfl, hfirst, hsecond⟩ := ih hrest
      exact ⟨encodeChar c ++ first, second, (List.append_assoc _ _ _).symm, .char c hfirst,
        hsecond⟩
    | replaced hpart hrest =>
      obtain ⟨first, second, rfl, hfirst, hsecond⟩ := ih hrest
      exact ⟨_ ++ first, second, (List.append_assoc _ _ _).symm,
        .replaced hpart.of_append hfirst, hsecond⟩

/-- Without a replacement character in the text, nothing has been replaced. -/
theorem IsLossy.eq_encodeChars (h : IsLossy bytes cs) (hcs : '\uFFFD' ∉ cs) :
    bytes = encodeChars cs := by
  induction h with
  | nil => rfl
  | char c _ ih => rw [encodeChars_cons, ih (fun hmem => hcs (List.mem_cons_of_mem _ hmem))]
  | replaced _ _ _ => exact absurd List.mem_cons_self hcs

/-- The encoding of a text decodes to it. -/
theorem isLossy_encodeChars (cs : List Char) : IsLossy (encodeChars cs) cs := by
  induction cs with
  | nil => exact .nil
  | cons c cs ih => exact .char c ih

/-- The longest part that could become a character is replaced as one, before what cannot be part
of it. -/
example : decodeLossy [0xE2, 0x82, 0x20, 0xC0, 0xAF] = "\uFFFD \uFFFD\uFFFD" := by decide +kernel

end CompileCommands.Text.Utf8
