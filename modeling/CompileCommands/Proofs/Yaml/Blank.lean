import CompileCommands.Proofs.Result
import CompileCommands.Proofs.Text.Whitespace
import CompileCommands.Proofs.Yaml.Node

/-!
# Blank YAML texts

YAML takes fewer characters for white space than trimming does: a no-break space, for one, is a
plain scalar. A text of white space alone may therefore have tokens. They are all plain scalars, so
such a text is never read as a mapping.

* `Lexer.IsBlank`: what is left of the text is white space, and all tokens so far are plain scalars.
* `IsBlank.token_of_stream`: this goes on to the end of the text.
* `IsMapping.trim_ne`: a text that is a mapping is not blank.
-/

namespace CompileCommands.Yaml

/-! ## What is left of a text -/

/-- A plain scalar takes characters from the front of the text. -/
theorem Plain.rest_suffix_of_read {s : Setting} {words : List Char} {gap : Gap}
    {stop position : Position} {cs : List Char} {result : Result}
    (h : read s words gap stop position cs = .ok result) : result.cursor.rest <:+ cs := by
  fun_induction read s words gap stop position cs with
  | case1 =>
    cases h
    exact List.suffix_refl _
  | case2 _ _ _ _ _ ih => exact (ih h).trans ((List.suffix_cons _ _).trans (List.suffix_cons _ _))
  | case3 => cases h
  | case4 _ _ _ _ _ _ _ _ _ ih => exact (ih h).trans (List.suffix_cons _ _)
  | case5 _ _ _ _ _ _ _ _ _ ih => exact (ih h).trans (List.suffix_cons _ _)
  | case6 =>
    cases h
    exact List.suffix_refl _
  | case7 => cases h
  | case8 =>
    cases h
    exact List.suffix_refl _
  | case9 _ _ _ _ _ _ _ _ _ _ _ _ ih => exact (ih h).trans (List.suffix_cons _ _)

namespace Lexer

/-- On the way to the next token characters are dropped from the front of the text. -/
theorem rest_suffix_of_readToToken (inFlow keyAllowed inComment : Bool) (position : Position)
    (cs : List Char) : (readToToken inFlow keyAllowed inComment position cs).2.rest <:+ cs := by
  fun_induction readToToken inFlow keyAllowed inComment position cs with
  | case1 => exact List.suffix_refl _
  | case2 _ _ _ _ ih => exact ih.trans ((List.suffix_cons _ _).trans (List.suffix_cons _ _))
  | case3 _ _ _ _ _ _ _ ih => exact ih.trans (List.suffix_cons _ _)
  | case4 _ _ _ _ _ _ _ _ ih => exact ih.trans (List.suffix_cons _ _)
  | case5 _ _ _ _ _ _ _ _ _ ih => exact ih.trans (List.suffix_cons _ _)
  | case6 => exact List.suffix_refl _

/-! ## Tokens of blank text -/

/-- Nothing but white space is left of the text, no collection is open, and all tokens that wait are
plain scalars. -/
structure IsBlank (s : Lexer) : Prop where
  /-- What is left is white space. -/
  rest : ∀ c ∈ s.cursor.rest, Text.isWhite c = true
  /-- No block collection has been opened. -/
  outer : s.outer = []
  /-- The tokens are plain scalars. -/
  queue : ∀ t ∈ s.queue, ∃ text, t.token = .scalar text .plain

variable {s s' : Lexer}

/-- Dropping a candidate changes nothing else. -/
theorem exists_of_dropCandidate (h : s.dropCandidate = .ok s') :
    ∃ candidates, s' = { s with candidates } := by
  unfold dropCandidate at h
  split at h
  · split at h
    · cases h
    · cases h
      exact ⟨_, rfl⟩
  · cases h
    exact ⟨_, rfl⟩

/-- Making a candidate changes nothing else. -/
theorem exists_of_saveCandidate (h : s.saveCandidate = .ok s') :
    ∃ candidates, s' = { s with candidates } := by
  unfold saveCandidate at h
  split at h
  · cases h
    exact ⟨_, rfl⟩
  · obtain ⟨dropped, hdropped, h⟩ := Except.bind_eq_ok_iff.1 h
    obtain ⟨candidates, rfl⟩ := exists_of_dropCandidate hdropped
    cases h
    exact ⟨_, rfl⟩

/-- Dropping stale candidates changes nothing else. -/
theorem exists_of_dropStale (h : s.dropStale = .ok s') :
    ∃ candidates, s' = { s with candidates } := by
  obtain ⟨candidates, -, h⟩ := Except.bind_eq_ok_iff.1 h
  cases h
  exact ⟨_, rfl⟩

/-- Without open collections there is nothing to close. -/
theorem unindent_of_outer (h : s.outer = []) (column : Int) : s.unindent column = s := by
  unfold unindent
  split
  · rfl
  · simp only [h, closeBlocks, List.append_nil]
    rw [← h]

/-- A plain scalar, or nothing, starts with white space. -/
theorem readToken_of_isWhite {c : Char} {cs : List Char} (hc : Text.isWhite c = true)
    (hrest : s.cursor.rest = c :: cs) (h : s.readToken c = .ok s') : s.readPlain = .ok s' := by
  have hne (x : Char) (hx : Text.isWhite x = false) : (c == x) = false := by
    rw [beq_eq_false_iff_ne]
    rintro rfl
    exact Bool.false_ne_true (hx.symm.trans hc)
  have hmark (x : Char) (hx : Text.isWhite x = false) :
      startsWithMark x s.cursor.rest = false := by
    rw [hrest]
    unfold startsWithMark
    split
    · next heq =>
      cases heq
      simp [hne x hx]
    · rfl
  simp (disch := decide) only [readToken, hne, hmark, Bool.and_false, Bool.false_and,
    Bool.false_eq_true, if_false] at h
  split at h
  · exact h
  · cases h

namespace IsBlank

/-- Candidates do not matter. -/
theorem dropStale (h : s.IsBlank) (hdrop : s.dropStale = .ok s') : s'.IsBlank := by
  obtain ⟨candidates, rfl⟩ := exists_of_dropStale hdrop
  exact ⟨h.rest, h.outer, h.queue⟩

/-- On the way to the next token everything stays blank. -/
theorem toToken (h : s.IsBlank) : s.toToken.IsBlank where
  rest := fun c hc => h.rest c ((rest_suffix_of_readToToken _ _ _ _ _).subset hc)
  outer := h.outer
  queue := h.queue

/-- One more plain scalar does not open anything. -/
theorem readPlain (h : s.IsBlank) (hread : s.readPlain = .ok s') : s'.IsBlank := by
  obtain ⟨saved, hsaved, hread⟩ := Except.bind_eq_ok_iff.1 hread
  obtain ⟨candidates, rfl⟩ := exists_of_saveCandidate hsaved
  obtain ⟨found, hfound, hread⟩ := Except.bind_eq_ok_iff.1 hread
  cases hread
  refine ⟨fun c hc => h.rest c ((Plain.rest_suffix_of_read hfound).subset hc), h.outer, ?_⟩
  intro t ht
  obtain ht | ht := List.mem_append.1 ht
  · exact h.queue t ht
  · exact ⟨_, congrArg Token.Located.token (List.mem_singleton.1 ht)⟩

/-- The end of the text adds no token. -/
theorem readEnd (h : s.IsBlank) (hread : s.readEnd = .ok s') : s'.IsBlank := by
  obtain ⟨dropped, hdropped, hread⟩ := Except.bind_eq_ok_iff.1 hread
  rw [unindent_of_outer] at hdropped
  · obtain ⟨candidates, rfl⟩ := exists_of_dropCandidate hdropped
    cases hread
    exact ⟨fun c hc => absurd hc List.not_mem_nil, h.outer, h.queue⟩
  · exact h.outer

/-- The next token of blank text is a plain scalar, if there is one. -/
theorem read (h : s.IsBlank) (hread : s.read = .ok s') : s'.IsBlank := by
  obtain ⟨-, -, hread⟩ := Except.bind_eq_ok_iff.1 hread
  obtain ⟨fresh, hfresh, hread⟩ := Except.bind_eq_ok_iff.1 hread
  obtain ⟨-, -, hread⟩ := Except.bind_eq_ok_iff.1 hread
  have hblank := h.toToken.dropStale hfresh
  rw [unindent_of_outer hblank.outer] at hread
  split at hread
  · exact hblank.readEnd hread
  · next c cs hrest =>
    obtain ⟨found, hfound, hread⟩ := Except.bind_eq_ok_iff.1 hread
    obtain ⟨-, -, hread⟩ := Except.bind_eq_ok_iff.1 hread
    cases hread
    have hc : Text.isWhite c = true := hblank.rest c (hrest ▸ List.mem_cons_self)
    exact hblank.readPlain (readToken_of_isWhite hc hrest hfound)

end IsBlank

/-- What is handed on comes from the queue, and what is not stays there. -/
theorem append_queue_release (s : Lexer) (queue : List Token.Located) :
    (s.release queue).1 ++ (s.release queue).2.queue = queue := by
  fun_induction release s queue with
  | case1 => rfl
  | case2 => rfl
  | case3 s t queue _ out next heq ih =>
    rw [heq] at ih
    exact congrArg (t :: ·) ih

/-- Handing tokens on changes nothing but the queue. -/
theorem IsBlank.release (h : s.IsBlank) {queue : List Token.Located}
    (hqueue : ∀ t ∈ queue, ∃ text, t.token = .scalar text .plain) :
    (s.release queue).2.IsBlank := by
  fun_induction Lexer.release s queue with
  | case1 s => exact ⟨h.rest, h.outer, hqueue⟩
  | case2 s t queue _ => exact ⟨h.rest, h.outer, hqueue⟩
  | case3 s t queue _ out next heq ih =>
    rw [heq] at ih
    exact ih ⟨h.rest, h.outer, h.queue⟩ fun t ht => hqueue t (List.mem_cons_of_mem _ ht)

/-- The first token of blank text is a plain scalar, if there is one. -/
theorem IsBlank.token_of_stream {fuel : Nat} {t : Token.Located} {rest : Token.Stream}
    (h : s.IsBlank) (hstream : stream fuel s = .next t rest) :
    ∃ text, t.token = .scalar text .plain := by
  induction fuel generalizing s with
  | zero => cases hstream
  | succ fuel ih =>
    unfold stream at hstream
    split at hstream
    · cases hstream
    · next s' hread =>
      have hbind : s.read >>= Lexer.dropStale = .ok s' := hread
      obtain ⟨found, hfound, hfresh⟩ := Except.bind_eq_ok_iff.1 hbind
      have hblank := (h.read hfound).dropStale hfresh
      have hqueue := append_queue_release s' s'.queue
      dsimp only at hstream
      cases hout : (s'.release s'.queue).1 with
      | cons first out =>
        rw [hout] at hstream hqueue
        cases hstream
        exact hblank.queue _ (hqueue ▸ List.mem_cons_self)
      | nil =>
        -- All tokens are held back, so the next step decides.
        rw [hout, List.foldr_nil] at hstream
        split at hstream
        · cases hstream
        · exact ih (hblank.release hblank.queue) hstream

end Lexer

/-! ## Events of blank text -/

/-- A text whose first token is a plain scalar does not start with a collection. -/
theorem Event.exists_events_streamOf {t : Token.Located} {text : String}
    (ht : t.token = .scalar text .plain) (rest : Token.Stream) (fuel : Nat) :
    ∃ events, (streamOf (fuel + 2) { tokens := .next t rest }).events.map Prod.fst =
      .documentStart :: .scalar none none text .plain :: events := by
  obtain ⟨token, start, stop⟩ := t
  obtain rfl : token = .scalar text .plain := ht
  exact ⟨_, rfl⟩

/-- A text that is a mapping is not blank. -/
theorem IsMapping.trim_ne {text : String} {pairs : List Pair} (h : IsMapping text pairs) :
    Text.trim text ≠ "" := by
  intro htrim
  have hwhite := Text.trim_eq_empty_iff.1 htrim
  have hblank : Lexer.IsBlank
      { cursor := .ofText text, flaw? := firstFlaw? 0 0 text.toList } :=
    ⟨hwhite, rfl, fun t ht => absurd ht List.not_mem_nil⟩
  have hevents := h.events
  rw [Event.scan] at hevents
  cases htokens : Token.scan text with
  | next t rest =>
    obtain ⟨scalar, hscalar⟩ := hblank.token_of_stream htokens
    have hfuel : 5 * ((Token.Stream.next t rest).length + 1) = 5 * rest.length + 8 + 2 := by
      rw [Token.Stream.length, Nat.mul_add, Nat.mul_add]
    obtain ⟨events, hfirst⟩ := Event.exists_events_streamOf hscalar rest (5 * rest.length + 8)
    rw [htokens, hfuel, hfirst] at hevents
    cases hevents
  | finish position =>
    rw [htokens] at hevents
    cases hevents
  | failed e =>
    rw [htokens] at hevents
    cases hevents

end CompileCommands.Yaml
