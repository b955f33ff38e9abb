import Sandscript.Proofs.Syntax.Narrowing

/-!
# What the limits of a lexer do

A limit of the lexer turns a token into a barrier and has no other effect.  Tokens none of which is a barrier are those
of the lexer without limits, and no text among them is too long (`Lexer.tokens_of_plain`).  The other way round, if the
lexer without limits finds neither a barrier nor a text that is too long nor a word that is taken out of the language,
the limits change nothing (`Lexer.tokens_of_fitting`).
-/

namespace Sandscript

/-- The text that a token stands for. -/
def Token.text? : Token → Option String
  | .str s | .openStr s => some s
  | .char c => some c.toString
  | _ => none

/-- Zero is no limit. -/
def Token.IsTooLong (max : Nat) (t : Token) : Prop := ∃ s, t.text? = some s ∧ 0 < max ∧ max < s.utf8ByteSize

namespace Lexer

/-! ### Texts -/

private theorem not_exceeded (n : Nat) : ¬ (decide (0 < 0) && decide (0 < n)) = true := Bool.false_ne_true

/-- A scan with a limit, `x`, and the same scan without, `y`, where `bytes` of the text have been read. -/
structure Limited (max bytes : Nat) (x y : Except SyntaxError ScannedText) : Prop where
  admits : ∀ t, x = .ok t → y = .ok t
  agrees : ∀ t, y = .ok t → bytes ≤ t.text.utf8ByteSize ∧ (¬ (0 < max ∧ max < t.text.utf8ByteSize) → x = .ok t)

namespace Limited

variable {max bytes : Nat} {x y : Except SyntaxError ScannedText}

private theorem ok {t : ScannedText} (h : bytes ≤ t.text.utf8ByteSize) : Limited max bytes (.ok t) (.ok t) := by
  refine ⟨fun _ => id, fun t' ht => ?_⟩
  cases ht
  exact ⟨h, fun _ => rfl⟩

private theorem error {e e' : SyntaxError} : Limited max bytes (.error e) (.error e') :=
  ⟨nofun, nofun⟩

/-- What has been read so far is checked. -/
private theorem checked {e e' : SyntaxError} {n : Nat} (h : Limited max bytes x y) :
    Limited max bytes (if decide (0 < max) && decide (max < bytes) then .error e else x)
      (if decide (0 < 0) && decide (0 < n) then .error e' else y) := by
  rw [if_neg (not_exceeded n)]
  split
  · rename_i hlong
    rw [Bool.and_eq_true, decide_eq_true_eq, decide_eq_true_eq] at hlong
    refine ⟨nofun, fun t ht => ?_⟩
    have hbytes := (h.agrees t ht).1
    exact ⟨hbytes, fun hfits => absurd ⟨hlong.1, Nat.lt_of_lt_of_le hlong.2 hbytes⟩ hfits⟩
  · exact h

private theorem fewer {bytes' : Nat} (h : Limited max bytes' x y) (hbytes : bytes ≤ bytes') : Limited max bytes x y :=
  ⟨h.admits, fun t ht => ⟨Nat.le_trans hbytes (h.agrees t ht).1, (h.agrees t ht).2⟩⟩

end Limited

/-- The bytes of a text are counted as it is read. -/
def TextState.Counted (s : TextState) : Prop := s.bytes = (String.ofList s.text.reverse).utf8ByteSize

private theorem TextState.Counted.push {s : TextState} (h : s.Counted) (c : Char) : (s.push c).Counted := by
  unfold Counted at h ⊢
  rw [TextState.push, List.reverse_cons, String.ofList_append, String.utf8ByteSize_append, h]
  exact congrArg _ String.utf8ByteSize_singleton.symm

private theorem scanTextFrom_limited (style : TextStyle) (maxString : Nat) (start : Position) (s : TextState)
    (hs : s.Counted) (line column : Nat) (chars : List Char) :
    Limited maxString s.bytes (scanTextFrom style maxString start s line column chars)
      (scanTextFrom style 0 start s line column chars) := by
  induction chars generalizing s line column with
  | nil =>
    unfold scanTextFrom
    split
    · exact .error
    · exact .error
  | cons c rest ih =>
    have hsame {s' : TextState} (line column : Nat) (htext : s'.text = s.text) (hbytes : s'.bytes = s.bytes) :
        Limited maxString s.bytes (scanTextFrom style maxString start s' line column rest)
          (scanTextFrom style 0 start s' line column rest) := by
      rw [← hbytes]
      exact ih s' (by rw [TextState.Counted, htext, hbytes]; exact hs) line column
    have hpush {s' : TextState} (line column : Nat) (c : Char) (htext : s'.text = c :: s.text)
        (hbytes : s'.bytes = s.bytes + c.utf8Size) :
        Limited maxString s.bytes (scanTextFrom style maxString start s' line column rest)
          (scanTextFrom style 0 start s' line column rest) := by
      refine (ih s' ?_ line column).fewer (by rw [hbytes]; exact Nat.le_add_right _ _)
      rw [TextState.Counted, htext, hbytes]
      exact hs.push c
    unfold scanTextFrom
    dsimp only
    -- one case for each mode of the scan
    split
    case h_1 =>
      split
      · exact .error
      split
      · exact hsame _ _ rfl rfl
      split
      · exact hpush _ _ _ rfl rfl
      · exact .error
    case h_2 =>
      refine .checked ?_
      split
      · exact hpush _ _ _ rfl rfl
      split
      · exact hpush _ _ _ rfl rfl
      · exact hsame _ _ rfl rfl
      split
      · exact hsame _ _ rfl rfl
      split
      · split
        · exact hsame _ _ rfl rfl
        · exact .error
      · exact .error
    case h_3 => exact hpush _ _ _ rfl rfl
    case h_4 => exact hpush _ _ _ rfl rfl
    case h_5 =>
      -- the place where the text begins plays no part
      obtain ⟨htext, hbytes⟩ : (if s.first.isNone then { s with first := ⟨line, column + 1⟩ } else s).text = s.text ∧
          (if s.first.isNone then { s with first := ⟨line, column + 1⟩ } else s).bytes = s.bytes := by
        split
        · exact ⟨rfl, rfl⟩
        · exact ⟨rfl, rfl⟩
      generalize (if s.first.isNone = true then { s with first := ⟨line, column + 1⟩ } else s) = begun at htext hbytes ⊢
      have hbegun (c : Char) : (begun.push c).text = c :: s.text ∧ (begun.push c).bytes = s.bytes + c.utf8Size :=
        ⟨congrArg (c :: ·) htext, congrArg (· + c.utf8Size) hbytes⟩
      have hread : s.bytes ≤ (String.ofList s.text.reverse).utf8ByteSize := Nat.le_of_eq hs
      split
      · exact .checked (.ok hread)
      refine .checked ?_
      split
      · exact hsame _ _ htext hbytes
      split
      · split
        · exact hsame _ _ htext hbytes
        · exact .checked (.ok hread)
      split
      · exact hsame _ _ htext hbytes
      split
      · exact hsame _ _ htext hbytes
      split
      · split
        · exact hpush _ _ _ (hbegun _).1 (hbegun _).2
        · exact .error
      split
      · exact hsame _ _ htext hbytes
      · exact hpush _ _ _ (hbegun _).1 (hbegun _).2

/-- A limit refuses the texts that are too long, and no others. -/
private theorem scanText_eq_ok_iff {style : TextStyle} {maxString : Nat} {start : Position} {c : Cursor}
    {t : ScannedText} :
    scanText style maxString start c = .ok t ↔
      scanText style 0 start c = .ok t ∧ ¬ (0 < maxString ∧ maxString < t.text.utf8ByteSize) := by
  have hlimited := scanTextFrom_limited style maxString start {} rfl c.line c.column c.rest
  have hfree : scanText style 0 start c = scanTextFrom style 0 start {} c.line c.column c.rest := by
    unfold scanText
    cases scanTextFrom style 0 start {} c.line c.column c.rest with
    | error e => rfl
    | ok t => exact if_neg (not_exceeded _)
  rw [hfree]
  unfold scanText
  constructor
  · intro h
    split at h
    · cases h
    · rename_i t' ht
      split at h
      · cases h
      · rename_i hfits
        cases h
        exact ⟨hlimited.admits t ht, by simpa using hfits⟩
  · rintro ⟨ht, hfits⟩
    rw [(hlimited.agrees t ht).2 hfits]
    exact if_neg (by simpa using hfits)

/-! ### Tokens -/

/-- A token with limits, `x`, and the same token without, `y`. -/
structure SameToken (limits : Limits) (x y : Located × Cursor) : Prop where
  of_plain : x.1.token.isBarrier = false → y = x ∧ ¬ x.1.token.IsTooLong limits.maxString
  of_fitting : limits.disabled ⊆ Names.disabledKeywords → y.1.token.isPlain = true →
    ¬ y.1.token.IsTooLong limits.maxString → x = y

namespace SameToken

variable {limits : Limits}

private theorem of_textless {x : Located × Cursor} (h : x.1.token.text? = none) : SameToken limits x x := by
  refine ⟨fun _ => ⟨rfl, ?_⟩, fun _ _ _ => rfl⟩
  rintro ⟨s, hs, -⟩
  rw [h] at hs
  cases hs

/-- A token that is read off a scan, and that a failed scan makes a barrier. -/
private theorem of_scan {style : TextStyle} {start : Position} {c : Cursor}
    (f : Except SyntaxError ScannedText → Located × Cursor) (herror : ∀ e, (f (.error e)).1.token.isBarrier = true)
    (hok : ∀ t, (f (.ok t)).1.token.text? = some t.text ∨ (f (.ok t)).1.token.isBarrier = true) :
    SameToken limits (f (scanText style limits.maxString start c)) (f (scanText style 0 start c)) := by
  have htext {t : ScannedText} (hopen : (f (.ok t)).1.token.isBarrier = false) :
      (f (.ok t)).1.token.IsTooLong limits.maxString ↔
        0 < limits.maxString ∧ limits.maxString < t.text.utf8ByteSize := by
    rcases hok t with h | h
    · simp [Token.IsTooLong, h]
    · rw [h] at hopen
      cases hopen
  constructor
  · intro hopen
    cases hscan : scanText style limits.maxString start c with
    | error e =>
      rw [hscan, herror] at hopen
      cases hopen
    | ok t =>
      rw [hscan] at hopen
      obtain ⟨hfree, hfits⟩ := scanText_eq_ok_iff.1 hscan
      rw [hfree]
      exact ⟨rfl, fun hlong => hfits ((htext hopen).1 hlong)⟩
  · intro _ hplain hlong
    have hopen := (Token.isPlain_iff.1 hplain).1
    cases hscan : scanText style 0 start c with
    | error e =>
      rw [hscan, herror] at hopen
      cases hopen
    | ok t =>
      rw [hscan] at hopen hlong
      rw [scanText_eq_ok_iff.2 ⟨hscan, fun h => hlong ((htext hopen).2 h)⟩]

end SameToken

section

variable (limits : Limits)

private theorem ofText_same (style : TextStyle) (start : Position) (c : Cursor) (p : Position) :
    SameToken limits (ofText (scanText style limits.maxString start c) p) (ofText (scanText style 0 start c) p) := by
  refine .of_scan (ofText · p) (fun _ => rfl) fun t => Or.inl ?_
  unfold ofText
  dsimp only
  split
  · rfl
  · rfl

private theorem charToken_same (style : TextStyle) (start : Position) (c : Cursor) (p : Position) :
    SameToken limits (charToken (scanText style limits.maxString start c) p)
      (charToken (scanText style 0 start c) p) := by
  refine .of_scan (charToken · p) (fun _ => rfl) fun t => ?_
  unfold charToken
  dsimp only
  split
  · rename_i ch htext
    refine Or.inl (congrArg some ?_)
    rw [← String.ofList_toList (s := t.text), htext]
    rfl
  · exact Or.inr rfl

private theorem continuedText_same (c : Cursor) : SameToken limits (continuedText limits c) (continuedText {} c) := by
  let style : TextStyle := { backQuoted with continued := true }
  let token (scanned : Except SyntaxError ScannedText) : Located × Cursor :=
    ofText scanned (scanned.casesOn SyntaxError.position ScannedText.first)
  have htoken (limits : Limits) : continuedText limits c = token (scanText style limits.maxString c.position c) := by
    unfold continuedText
    dsimp only
    cases scanText style limits.maxString c.position c with
    | error e => rfl
    | ok t => rfl
  rw [htoken limits, htoken {}]
  refine .of_scan token (fun _ => rfl) fun t => Or.inl ?_
  dsimp only [token]
  unfold ofText
  dsimp only
  split
  · rfl
  · rfl

private theorem scanHashed_same (start : Position) (c : Cursor) :
    SameToken limits (scanHashed limits.maxString start c) (scanHashed 0 start c) := by
  unfold scanHashed
  dsimp only
  split
  · split
    · exact .of_textless rfl
    · rename_i text c' _
      rw [if_neg (not_exceeded _)]
      have hlong : Token.IsTooLong limits.maxString (.str (String.ofList text)) ↔
          (decide (0 < limits.maxString) && decide (limits.maxString < (String.ofList text).utf8ByteSize)) = true := by
        simp [Token.IsTooLong, Token.text?]
      split
      · rename_i hexceeds
        exact ⟨nofun, fun _ _ hfits => absurd (hlong.2 hexceeds) hfits⟩
      · rename_i hfits
        exact ⟨fun _ => ⟨rfl, fun h => hfits (hlong.1 h)⟩, fun _ _ _ => rfl⟩
  · exact .of_textless rfl
  · exact .of_textless rfl

private theorem isDisabled_of_spelling {k : Keyword} (h : Names.disabledKeywords.contains k.spelling = true) :
    (Token.keyword k).isDisabled = true := by
  revert h
  cases k <;> decide

/-- A word that was taken out of the language is a barrier. -/
private theorem wordToken_same (word : String) (start : Position) (c : Cursor) :
    SameToken limits (⟨wordToken limits word, start⟩, c) (⟨wordToken {} word, start⟩, c) := by
  unfold wordToken
  dsimp only
  split
  · exact .of_textless rfl
  -- with the limits a word may be missing from the language
  have hmissing (hdisabled : limits.disabled.contains word = true) (hwords : limits.disabled ⊆ Names.disabledKeywords) :
      Names.disabledKeywords.contains word = true :=
    List.contains_iff_mem.2 (hwords (List.contains_iff_mem.1 hdisabled))
  split
  · rename_i k hk
    cases hdisabled : limits.disabled.contains word with
    | false => exact .of_textless rfl
    | true =>
      have hbarrier : (Token.reserved word).isBarrier = true := by rw [Token.isBarrier, hk]; rfl
      refine ⟨fun hopen => absurd hopen (by rw [if_pos rfl, hbarrier]; exact Bool.noConfusion), ?_⟩
      intro hwords hplain
      have hword : (Token.keyword k).isDisabled = false := (Token.isPlain_iff.1 hplain).2
      have hspelling : k.spelling = word := by simpa using List.find?_some hk
      have hdisabledWord := hmissing hdisabled hwords
      rw [← hspelling] at hdisabledWord
      exact absurd hword (by rw [isDisabled_of_spelling hdisabledWord]; exact Bool.noConfusion)
  split
  · exact .of_textless rfl
  split
  · cases hdisabled : limits.disabled.contains word with
    | false => exact .of_textless rfl
    | true =>
      refine ⟨nofun, fun hwords hplain => ?_⟩
      have hword : Names.disabledKeywords.contains word = false := (Token.isPlain_iff.1 hplain).2
      rw [hmissing hdisabled hwords] at hword
      cases hword
  split
  · exact .of_textless rfl
  · exact .of_textless rfl

omit limits in
private theorem numberToken_text? (negative : Bool) (text : List Char) : (numberToken negative text).text? = none := by
  unfold numberToken
  dsimp only
  split
  · rfl
  split
  · rfl
  · rfl

omit limits in
private theorem radixToken_text? (negative : Bool) (radix : Nat) (marker : Char) (digits : List Char) :
    (radixToken negative radix marker digits).text? = none := by
  unfold radixToken
  dsimp only
  split
  · rfl
  split
  · split
    · rfl
    · rfl
  · rfl

omit limits in
private theorem scanNumber_text? (negative : Bool) (first : Char) (c : Cursor) :
    (scanNumber negative first c).1.text? = none := by
  unfold scanNumber
  dsimp only
  split
  · split
    · exact radixToken_text? _ _ _ _
    · exact numberToken_text? _ _
  · exact numberToken_text? _ _

omit limits in
private theorem symbolToken_text? {signs : Bool} {cs : List Char} {t : Token} {n : Nat}
    (h : symbolToken signs cs = some (t, n)) : t.text? = none := by
  unfold symbolToken at h
  split at h
  -- a sign or an operator
  case h_15 | h_19 =>
    cases h
    split
    · rfl
    · rfl
  -- `!in`, unless the word goes on
  case h_54 =>
    split at h
    · cases h
      rfl
    · cases h
      rfl
  case h_75 => cases h
  all_goals
    cases h
    rfl

private theorem next_same (signs : Bool) (c : Cursor) : SameToken limits (next limits signs c) (next {} signs c) := by
  have hsymbol (start : Position) (c : Cursor) :
      SameToken limits (next.symbol signs start c) (next.symbol signs start c) := by
    refine .of_textless ?_
    unfold next.symbol
    split
    · rename_i ht
      exact symbolToken_text? ht
    · rfl
  unfold next
  dsimp only
  split
  · exact .of_textless rfl
  split
  · exact .of_textless (scanNumber_text? _ _ _)
  split
  · exact wordToken_same limits _ _ _
  split
  · exact ofText_same limits _ _ _ _
  split
  · exact ofText_same limits _ _ _ _
  split
  · split
    · exact .of_textless rfl
    · exact charToken_same limits _ _ _ _
  split
  · exact scanHashed_same limits _ _
  · exact scanHashed_same limits _ _
  · split
    · exact .of_textless (scanNumber_text? _ _ _)
    · exact hsymbol _ _
  · exact hsymbol _ _

/-- One step of the lexer: the rest of a text, or the next token of the code. -/
def step (signs inText : Bool) (c : Cursor) : Located × Cursor :=
  if inText then continuedText limits c else next limits signs (skip c)

private theorem step_same (signs inText : Bool) (c : Cursor) :
    SameToken limits (step limits signs inText c) (step {} signs inText c) := by
  unfold step
  split
  · exact continuedText_same limits c
  · exact next_same limits signs _

/-- A token, and what follows it unless it is the last one. -/
private theorem tokensFrom_succ (fuel : Nat) (signs : Bool) (braces : List Nat) (inText : Bool) (c : Cursor) :
    tokensFrom limits (fuel + 1) signs braces inText c =
      (step limits signs inText c).1 :: (match (step limits signs inText c).1.token with
        | .finish | .bad _ => []
        | t => tokensFrom limits fuel t.beforeSign (trackBraces braces t).1 (trackBraces braces t).2
            (step limits signs inText c).2) := by
  rw [tokensFrom, ← step]
  generalize step limits signs inText c = x
  obtain ⟨⟨token, p⟩, c'⟩ := x
  cases token <;> rfl

end

/-! ### Scripts -/

section

variable {limits limits' : Limits}

/-- Every token is found by a step. -/
private theorem exists_step {fuel : Nat} {signs : Bool} {braces : List Nat} {inText : Bool} {c : Cursor} {t : Located}
    (h : t ∈ tokensFrom limits fuel signs braces inText c) : ∃ signs inText c, (step limits signs inText c).1 = t := by
  induction fuel generalizing signs braces inText c with
  | zero => cases h
  | succ fuel ih =>
    rw [tokensFrom_succ] at h
    rcases List.mem_cons.1 h with rfl | h
    · exact ⟨signs, inText, c, rfl⟩
    · split at h
      · cases h
      · cases h
      · exact ih h

/-- Lexers that take the same steps find the same tokens. -/
private theorem tokensFrom_congr {G : Token → Prop} (hstep : ∀ signs inText c, G (step limits signs inText c).1.token →
      step limits' signs inText c = step limits signs inText c)
    (fuel : Nat) (signs : Bool) (braces : List Nat) (inText : Bool) (c : Cursor)
    (h : ∀ t ∈ tokensFrom limits fuel signs braces inText c, G t.token) :
    tokensFrom limits' fuel signs braces inText c = tokensFrom limits fuel signs braces inText c := by
  induction fuel generalizing signs braces inText c with
  | zero => rfl
  | succ fuel ih =>
    rw [tokensFrom_succ] at h
    have htail := fun t ht => h t (List.mem_cons_of_mem _ ht)
    rw [tokensFrom_succ, tokensFrom_succ, hstep _ _ _ (h _ List.mem_cons_self)]
    congr 1
    revert htail
    split
    · exact fun _ => rfl
    · exact fun _ => rfl
    · exact fun htail => ih _ _ _ _ htail

/-- Without a barrier among them, the tokens are those of the lexer without limits, and no text is too long. -/
theorem tokens_of_plain {source : String} (h : ∀ t ∈ tokens limits source, t.token.isBarrier = false) :
    tokens {} source = tokens limits source ∧ ∀ t ∈ tokens limits source, ¬ t.token.IsTooLong limits.maxString := by
  refine ⟨tokensFrom_congr (G := (·.isBarrier = false)) (fun signs inText c hopen => ?_) _ _ _ _ _ h, fun t ht => ?_⟩
  · exact ((step_same limits signs inText c).of_plain hopen).1
  · obtain ⟨signs, inText, c, rfl⟩ := exists_step ht
    exact ((step_same limits signs inText c).of_plain (h _ ht)).2

/-- Nothing follows the end of the script. -/
theorem eq_nil_of_finish {fuel : Nat} {signs : Bool} {braces : List Nat} {inText : Bool} {c : Cursor}
    {front rest : List Located} {t : Located}
    (h : tokensFrom limits fuel signs braces inText c = front ++ t :: rest) (ht : t.token = .finish) : rest = [] := by
  induction fuel generalizing signs braces inText c front with
  | zero => simp [tokensFrom] at h
  | succ fuel ih =>
    rw [tokensFrom_succ] at h
    cases front with
    | nil =>
      obtain ⟨hfirst, hrest⟩ := List.cons.inj h
      rw [hfirst, ht] at hrest
      exact hrest.symm
    | cons t' front =>
      obtain ⟨-, hrest⟩ := List.cons.inj h
      split at hrest
      · exact absurd hrest (by simp)
      · exact absurd hrest (by simp)
      · exact ih hrest

end

end Lexer

end Sandscript
