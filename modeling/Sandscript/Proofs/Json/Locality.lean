import Sandscript.Proofs.Json.Texts

/-!
# Where a number ends

A number ends where nothing continues it (`EndsNumber`), and its reader looks at nothing behind it (`Local`): with other
text behind it the same number is read, and the text is left (`readSigned_local`).
-/

namespace Sandscript.Json

/-- Nothing at the start of a text continues a number. -/
def EndsNumber (rest : List Char) : Prop := ∀ x ∈ rest.head?, x.isDigit = false ∧ x ≠ '.' ∧ x ≠ 'e' ∧ x ≠ 'E'

namespace EndsNumber

theorem nil : EndsNumber [] := fun _ h => by cases h

theorem cons {x : Char} {rest : List Char} (h : x.isDigit = false ∧ x ≠ '.' ∧ x ≠ 'e' ∧ x ≠ 'E') :
    EndsNumber (x :: rest) := fun _ hy => by cases hy; exact h

variable {tail : List Char} (htail : EndsNumber tail)
include htail

theorem takeWhile_append (cs : List Char) : (cs ++ tail).takeWhile Char.isDigit = cs.takeWhile Char.isDigit := by
  induction cs with
  | nil =>
    cases tail with
    | nil => rfl
    | cons x tail => exact List.takeWhile_cons_of_neg (by rw [(htail x rfl).1]; exact Bool.false_ne_true)
  | cons x cs ih => rw [List.cons_append, List.takeWhile_cons, List.takeWhile_cons, ih]

theorem dropWhile_append (cs : List Char) :
    (cs ++ tail).dropWhile Char.isDigit = cs.dropWhile Char.isDigit ++ tail := by
  induction cs with
  | nil =>
    cases tail with
    | nil => rfl
    | cons x tail => exact List.dropWhile_cons_of_neg (by rw [(htail x rfl).1]; exact Bool.false_ne_true)
  | cons x cs ih =>
    rw [List.cons_append, List.dropWhile_cons, List.dropWhile_cons, ih]
    split <;> rfl

end EndsNumber

/-- A reader of numbers looks at nothing behind what it reads, except to see that it ends there. -/
def Local (f : Cursor → Except ReadError (JsonNumber × Cursor)) : Prop :=
  ∀ ⦃c : Cursor⦄ ⦃n : JsonNumber⦄ ⦃d : Cursor⦄, f c = .ok (n, d) →
    d.rest <:+ c.rest ∧
      ∀ ⦃c' : Cursor⦄ ⦃tail : List Char⦄, EndsNumber tail → c'.rest = c.rest ++ tail → Reads (f c') n (d.rest ++ tail)

private theorem Local.pure (n : JsonNumber) : Local fun c => .ok (n, c) := by
  intro c n d h
  cases h
  exact ⟨List.suffix_refl _, fun c' tail _ hc => ⟨c', rfl, hc⟩⟩

private theorem Local.fail (kind : ReadErrorKind) : Local fun c => c.fail kind := by
  intro c n d h
  cases h

private theorem finishFloat_local (negative : Bool) (significand : Nat) (exponent : Int) :
    Local fun c => finishFloat c negative significand exponent := by
  unfold finishFloat
  cases (floatOfParts negative significand exponent).bind JsonNumber.ofBinary64? with
  | none => exact Local.fail _
  | some n => exact Local.pure n

private theorem finishInt_local (negative : Bool) (significand : Nat) :
    Local fun c => finishInt c negative significand := by
  unfold finishInt
  cases negative with
  | true =>
    by_cases hwide : significand = 0 ∨ 2 ^ 63 < significand
    · simp only [if_true, if_pos hwide]
      exact finishFloat_local true significand 0
    · simp only [if_true, if_neg hwide]
      cases JsonNumber.ofInt? (-significand) with
      | none => exact finishFloat_local true significand 0
      | some n => exact Local.pure n
  | false =>
    simp only [Bool.false_eq_true, if_false]
    cases JsonNumber.ofInt? significand with
    | none => exact finishFloat_local false significand 0
    | some n => exact Local.pure n

private theorem takeDigits_append {c c' after : Cursor} {ds tail : List Char} (h : takeDigits c = (ds, after))
    (htail : EndsNumber tail) (hc : c'.rest = c.rest ++ tail) :
    ∃ after' : Cursor, takeDigits c' = (ds, after') ∧ after'.rest = after.rest ++ tail := by
  cases h
  refine ⟨(takeDigits c').2, ?_, ?_⟩
  · unfold takeDigits
    dsimp only
    rw [hc, htail.takeWhile_append]
  · dsimp only [takeDigits]
    rw [hc, htail.dropWhile_append]

private theorem suffix_of_takeDigits {c after : Cursor} {ds : List Char} (h : takeDigits c = (ds, after)) :
    after.rest <:+ c.rest := by
  cases h
  exact List.dropWhile_suffix _

section

variable {c c' : Cursor} {x : Char} {cs tail : List Char}

/-- Behind the same character the two cursors still differ by the text at the end. -/
private theorem rest_next_append (h : c.rest = x :: cs) (hc : c'.rest = c.rest ++ tail) :
    c'.next.rest = c.next.rest ++ tail := by
  rw [Cursor.rest_next h]
  exact Cursor.rest_next (x := x) (by rw [hc, h, List.cons_append])

private theorem suffix_next (h : c.rest = x :: cs) : c.next.rest <:+ c.rest := by
  rw [Cursor.rest_next h, h]
  exact List.suffix_cons x cs

private theorem takeSign_plus (h : c.rest = '+' :: cs) : takeSign c = (false, c.next) := by
  unfold takeSign
  rw [h]
  rfl

private theorem takeSign_minus (h : c.rest = '-' :: cs) : takeSign c = (true, c.next) := by
  unfold takeSign
  rw [h]
  rfl

private theorem takeSign_other (h : c.rest = x :: cs) (hplus : x ≠ '+') (hminus : x ≠ '-') :
    takeSign c = (false, c) := by
  unfold takeSign
  rw [h]
  split
  · rename_i heq
    exact absurd (List.cons.inj heq).1 hplus
  · rename_i heq
    exact absurd (List.cons.inj heq).1 hminus
  · rfl

/-- A sign in front of something is skipped, whatever stands behind. -/
private theorem takeSign_append {down : Bool} {d : Cursor} (h : c.rest = x :: cs) (hsign : takeSign c = (down, d))
    (hc : c'.rest = c.rest ++ tail) :
    d.rest <:+ c.rest ∧ ∃ d' : Cursor, takeSign c' = (down, d') ∧ d'.rest = d.rest ++ tail := by
  have hc' : c'.rest = x :: (cs ++ tail) := by rw [hc, h, List.cons_append]
  by_cases hplus : x = '+'
  · subst hplus
    rw [takeSign_plus h] at hsign
    cases hsign
    exact ⟨suffix_next h, c'.next, takeSign_plus hc', rest_next_append h hc⟩
  · by_cases hminus : x = '-'
    · subst hminus
      rw [takeSign_minus h] at hsign
      cases hsign
      exact ⟨suffix_next h, c'.next, takeSign_minus hc', rest_next_append h hc⟩
    · rw [takeSign_other h hplus hminus] at hsign
      cases hsign
      exact ⟨List.suffix_refl _, c', takeSign_other hc' hplus hminus, hc⟩

end

theorem failAtNext_ne_ok {α : Type} (c : Cursor) (kind : ReadErrorKind) (a : α) : c.failAtNext kind ≠ .ok a := by
  unfold Cursor.failAtNext
  split <;> exact fun h => by cases h

private theorem readExponentDigits_local (down negative : Bool) (significand : Nat) (exponent : Int) :
    Local fun c => readExponentDigits c down negative significand exponent := by
  intro c n d h
  dsimp only at h ⊢
  cases hrest : c.rest with
  | nil =>
    rw [readExponentDigits, hrest] at h
    cases h
  | cons x cs =>
    cases hds : takeDigits c with
    | mk ds after =>
      rw [readExponentDigits, hrest, hds] at h
      dsimp only at h
      split at h
      · exact absurd h (failAtNext_ne_ok _ _ _)
      · rename_i hx
        split at h
        · rename_i significand' exponent' hexponent
          obtain ⟨hsuffix, happend⟩ := finishFloat_local negative significand' exponent' h
          refine ⟨hrest ▸ hsuffix.trans (suffix_of_takeDigits hds), fun c' tail htail hc => ?_⟩
          obtain ⟨after', hds', hafter⟩ := takeDigits_append hds htail (hrest ▸ hc)
          rw [readExponentDigits, hc, hds']
          dsimp only [List.cons_append]
          rw [if_neg hx, hexponent]
          exact happend htail hafter
        · cases h

private theorem readExponent_local {x : Char} {c d : Cursor} {negative : Bool} {significand : Nat} {exponent : Int}
    {n : JsonNumber} {cs : List Char} (hc : c.rest = x :: cs)
    (h : readExponent c negative significand exponent = .ok (n, d)) :
    d.rest <:+ c.rest ∧ ∀ ⦃c' : Cursor⦄ ⦃tail : List Char⦄, EndsNumber tail → c'.rest = c.rest ++ tail →
      Reads (readExponent c' negative significand exponent) n (d.rest ++ tail) := by
  cases hsign : takeSign c.next with
  | mk down e =>
    rw [readExponent, hsign] at h
    dsimp only at h
    cases hnext : c.next.rest with
    | nil =>
      -- without digits there is no exponent
      unfold takeSign at hsign
      rw [hnext] at hsign
      cases hsign
      rw [readExponentDigits, hnext] at h
      cases h
    | cons y ys =>
      obtain ⟨hsuffix, happend⟩ := readExponentDigits_local down negative significand exponent h
      obtain ⟨hsigned, -⟩ := takeSign_append hnext hsign (List.append_nil c.next.rest).symm
      refine ⟨hsuffix.trans (hsigned.trans (suffix_next hc)), fun c' tail htail hc' => ?_⟩
      obtain ⟨-, e', hsign', he'⟩ := takeSign_append hnext hsign (rest_next_append hc hc')
      rw [readExponent, hsign']
      exact happend htail he'

/-- What does not start a text does not start it with another text behind it that ends a number. -/
private theorem EndsNumber.head?_append {p : Char → Prop} {cs tail : List Char} (htail : EndsNumber tail)
    (hp : ∀ x, x.isDigit = false ∧ x ≠ '.' ∧ x ≠ 'e' ∧ x ≠ 'E' → p x) (h : ∀ x ∈ cs.head?, p x) :
    ∀ x ∈ (cs ++ tail).head?, p x := by
  cases cs with
  | nil => exact fun x hx => hp x (htail x hx)
  | cons y cs => exact h

private theorem readExponentOrEnd_letter {c : Cursor} {cs : List Char} {x : Char} (hx : x = 'e' ∨ x = 'E')
    (h : c.rest = x :: cs) (negative : Bool) (significand : Nat) (exponent : Int) :
    readExponentOrEnd c negative significand exponent = readExponent c negative significand exponent := by
  unfold readExponentOrEnd
  rw [h]
  rcases hx with rfl | rfl <;> rfl

private theorem readExponentOrEnd_end {c : Cursor} (h : ∀ x ∈ c.rest.head?, x ≠ 'e' ∧ x ≠ 'E') (negative : Bool)
    (significand : Nat) (exponent : Int) :
    readExponentOrEnd c negative significand exponent = finishFloat c negative significand exponent := by
  unfold readExponentOrEnd
  split
  · rename_i heq
    rw [heq] at h
    exact absurd rfl (h 'e' rfl).1
  · rename_i heq
    rw [heq] at h
    exact absurd rfl (h 'E' rfl).2
  · rfl

private theorem readExponentOrEnd_local (negative : Bool) (significand : Nat) (exponent : Int) :
    Local fun c => readExponentOrEnd c negative significand exponent := by
  intro c n d h
  dsimp only at h ⊢
  by_cases hletter : ∃ x cs, c.rest = x :: cs ∧ (x = 'e' ∨ x = 'E')
  · obtain ⟨x, cs, hrest, hx⟩ := hletter
    rw [readExponentOrEnd_letter hx hrest] at h
    obtain ⟨hsuffix, happend⟩ := readExponent_local hrest h
    refine ⟨hsuffix, fun c' tail htail hc => ?_⟩
    rw [readExponentOrEnd_letter hx (by rw [hc, hrest, List.cons_append])]
    exact happend htail hc
  · have hend : ∀ x ∈ c.rest.head?, x ≠ 'e' ∧ x ≠ 'E' := by
      intro x hx
      obtain ⟨cs, hcs⟩ := List.head?_eq_some_iff.1 hx
      exact ⟨fun he => hletter ⟨x, cs, hcs, .inl he⟩, fun he => hletter ⟨x, cs, hcs, .inr he⟩⟩
    rw [readExponentOrEnd_end hend] at h
    obtain ⟨hsuffix, happend⟩ := finishFloat_local negative significand exponent h
    refine ⟨hsuffix, fun c' tail htail hc => ?_⟩
    rw [readExponentOrEnd_end (hc ▸ htail.head?_append (fun x hx => hx.2.2) hend)]
    exact happend htail hc

private theorem readPlaces_local {x : Char} {c d : Cursor} {negative : Bool} {significand : Nat} {exponent : Int}
    {n : JsonNumber} {cs : List Char} (hc : c.rest = x :: cs)
    (h : readPlaces c negative significand exponent = .ok (n, d)) :
    d.rest <:+ c.rest ∧ ∀ ⦃c' : Cursor⦄ ⦃tail : List Char⦄, EndsNumber tail → c'.rest = c.rest ++ tail →
      Reads (readPlaces c' negative significand exponent) n (d.rest ++ tail) := by
  cases hds : takeDigits c.next with
  | mk ds after =>
    rw [readPlaces, hds] at h
    dsimp only at h
    split at h
    · exact absurd h (failAtNext_ne_ok _ _ _)
    · rename_i hne
      obtain ⟨hsuffix, happend⟩ := readExponentOrEnd_local _ _ _ h
      refine ⟨hsuffix.trans ((suffix_of_takeDigits hds).trans (suffix_next hc)), fun c' tail htail hc' => ?_⟩
      obtain ⟨after', hds', hafter⟩ := takeDigits_append hds htail (rest_next_append hc hc')
      rw [readPlaces, hds']
      dsimp only
      split
      · exact absurd rfl hne
      · exact happend htail hafter

private theorem readFraction_point {c : Cursor} {cs : List Char} (h : c.rest = '.' :: cs) (negative : Bool)
    (significand exponent : Nat) :
    readFraction c negative significand exponent = readPlaces c negative significand exponent := by
  unfold readFraction
  rw [h]
  rfl

private theorem readFraction_other {c : Cursor} (h : ∀ x ∈ c.rest.head?, x ≠ '.') (negative : Bool)
    (significand exponent : Nat) :
    readFraction c negative significand exponent = readExponentOrEnd c negative significand exponent := by
  unfold readFraction
  split
  · rename_i heq
    rw [heq] at h
    exact absurd rfl (h '.' rfl)
  · rfl

private theorem readFraction_local (negative : Bool) (significand exponent : Nat) :
    Local fun c => readFraction c negative significand exponent := by
  intro c n d h
  dsimp only at h ⊢
  by_cases hpoint : ∃ cs, c.rest = '.' :: cs
  · obtain ⟨cs, hrest⟩ := hpoint
    rw [readFraction_point hrest] at h
    obtain ⟨hsuffix, happend⟩ := readPlaces_local hrest h
    refine ⟨hsuffix, fun c' tail htail hc => ?_⟩
    rw [readFraction_point (by rw [hc, hrest, List.cons_append])]
    exact happend htail hc
  · have hother : ∀ x ∈ c.rest.head?, x ≠ '.' := by
      rintro x hx rfl
      exact hpoint (List.head?_eq_some_iff.1 hx)
    rw [readFraction_other hother] at h
    obtain ⟨hsuffix, happend⟩ := readExponentOrEnd_local _ _ _ h
    refine ⟨hsuffix, fun c' tail htail hc => ?_⟩
    rw [readFraction_other (hc ▸ htail.head?_append (fun x hx => hx.2.1) hother)]
    exact happend htail hc

theorem goesOn_append {cs tail : List Char} (htail : EndsNumber tail) : goesOn (cs ++ tail) = goesOn cs := by
  cases cs with
  | nil =>
    cases tail with
    | nil => rfl
    | cons x tail =>
      obtain ⟨-, hpoint, he, hE⟩ := htail x rfl
      simp [goesOn, hpoint, he, hE]
  | cons x cs => rfl

private theorem finishNumber_local (negative : Bool) (ds : List Char) : Local fun c => finishNumber c negative ds := by
  intro c n d h
  dsimp only at h ⊢
  cases hread : accumulate 0 ds with
  | mk significand unread =>
    rw [finishNumber, hread] at h
    dsimp only at h
    split at h
    · rename_i hint
      obtain ⟨hsuffix, happend⟩ := finishInt_local negative significand h
      refine ⟨hsuffix, fun c' tail htail hc => ?_⟩
      rw [finishNumber, hread]
      dsimp only
      rw [hc, goesOn_append htail, if_pos hint]
      exact happend htail hc
    · rename_i hfraction
      obtain ⟨hsuffix, happend⟩ := readFraction_local negative significand unread.length h
      refine ⟨hsuffix, fun c' tail htail hc => ?_⟩
      rw [finishNumber, hread]
      dsimp only
      rw [hc, goesOn_append htail, if_neg hfraction]
      exact happend htail hc

/-- The integer digits of a number stand in front of its rest. -/
theorem readNumber_of_takeDigits {c after : Cursor} {ds cs : List Char} {x : Char} (hrest : c.rest = x :: cs)
    (hx : x.isDigit = true) (hds : takeDigits c = (ds, after)) (hzero : ∀ y ys, ds ≠ '0' :: y :: ys) (negative : Bool) :
    readNumber c negative = finishNumber after negative ds := by
  unfold readNumber
  rw [hrest, hds]
  dsimp only
  rw [hx, Bool.not_true, if_neg Bool.false_ne_true]
  split
  · rename_i y ys
    exact absurd rfl (hzero y ys)
  · rfl

private theorem readNumber_local (negative : Bool) : Local fun c => readNumber c negative := by
  intro c n d h
  dsimp only at h ⊢
  cases hrest : c.rest with
  | nil =>
    rw [readNumber, hrest] at h
    cases h
  | cons x cs =>
    cases hds : takeDigits c with
    | mk ds after =>
      rw [readNumber, hrest, hds] at h
      dsimp only at h
      split at h
      · exact absurd h (failAtNext_ne_ok _ _ _)
      · rename_i hx
        have hdigit : x.isDigit = true := by simpa using hx
        split at h
        · exact absurd h (failAtNext_ne_ok _ _ _)
        · rename_i hzero
          obtain ⟨hsuffix, happend⟩ := finishNumber_local negative ds h
          refine ⟨hrest ▸ hsuffix.trans (suffix_of_takeDigits hds), fun c' tail htail hc => ?_⟩
          obtain ⟨after', hds', hafter⟩ := takeDigits_append hds htail (hrest ▸ hc)
          rw [readNumber_of_takeDigits (by rw [hc, List.cons_append]) hdigit hds' hzero]
          exact happend htail hafter

/-- A number and its sign. -/
def readSigned (c : Cursor) : Except ReadError (JsonNumber × Cursor) :=
  match c.rest with
  | '-' :: _ => readNumber c.next true
  | _ => readNumber c false

theorem readSigned_minus {c : Cursor} {cs : List Char} (h : c.rest = '-' :: cs) :
    readSigned c = readNumber c.next true := by
  unfold readSigned
  rw [h]
  rfl

theorem readSigned_other {c : Cursor} (h : ∀ cs, c.rest ≠ '-' :: cs) : readSigned c = readNumber c false := by
  unfold readSigned
  split
  · rename_i heq
    exact absurd heq (h _)
  · rfl

theorem readSigned_local : Local readSigned := by
  intro c n d h
  by_cases hminus : ∃ cs, c.rest = '-' :: cs
  · obtain ⟨cs, hrest⟩ := hminus
    rw [readSigned_minus hrest] at h
    obtain ⟨hsuffix, happend⟩ := readNumber_local true h
    refine ⟨hsuffix.trans (suffix_next hrest), fun c' tail htail hc => ?_⟩
    rw [readSigned_minus (by rw [hc, hrest, List.cons_append])]
    exact happend htail (rest_next_append hrest hc)
  · have hother : ∀ cs, c.rest ≠ '-' :: cs := fun cs hcs => hminus ⟨cs, hcs⟩
    rw [readSigned_other hother] at h
    obtain ⟨hsuffix, happend⟩ := readNumber_local false h
    refine ⟨hsuffix, fun c' tail htail hc => ?_⟩
    cases hrest : c.rest with
    | nil =>
      rw [readNumber, hrest] at h
      cases h
    | cons x cs =>
      have hx : x ≠ '-' := fun hx => hother cs (by rw [hrest, hx])
      have hplus : ∀ cs', c'.rest ≠ '-' :: cs' := by
        intro cs' hcs'
        rw [hc, hrest, List.cons_append] at hcs'
        exact hx (List.cons.inj hcs').1
      rw [readSigned_other hplus]
      exact happend htail hc

end Sandscript.Json
