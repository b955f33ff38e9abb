import Sandscript.Proofs.Syntax.Loosening
import Sandscript.Proofs.Syntax.Tokens

/-!
# What the limits of a parser do

A limit makes a parser refuse scripts and has no other effect: what is parsed with limits is parsed with looser ones,
with the same result (`Program.parse_loose`), and without any (`Program.parse_none`).  A script that only the looser
limits admit has a literal that is too large, or a word that is taken out of the language (`Program.parse_tight`).  A
parser that accepts has gone past all tokens, which settles the lexer.
-/

namespace Sandscript

namespace Parser

/-- A parser that stops at the end of the script only. -/
def Ends {α : Type} (p : Parse α) : Prop := ∀ st a st', p st = .ok (a, st') → st'.head.token = .finish

section

variable {α β : Type}

private theorem Ends.fail (fault : SyntaxFault) (position : Position) :
    Ends (Parser.fail fault position : Parse α) := by
  intro st a st' h
  cases h

private theorem Ends.bind {p : Parse α} {f : α → Parse β} (h : ∀ a, Ends (f a)) : Ends (p >>= f) := by
  intro st b st' hp
  obtain ⟨a, st₁, -, hf⟩ := bind_eq_ok.1 hp
  exact h a st₁ b st' hf

/-- Nothing is taken at the end of the script. -/
private theorem Ends.peek_bind {f : Located → Parse α} (h : ∀ t, t.token ≠ .finish → Ends (f t))
    (hfinish : ∀ t, t.token = .finish → ∃ a, f t = pure a) : Ends (peek >>= f) := by
  intro st a st' hp
  obtain ⟨t, st₁, hpeek, hf⟩ := bind_eq_ok.1 hp
  rw [peek_eq] at hpeek
  cases hpeek
  by_cases ht : st.head.token = .finish
  · obtain ⟨b, hb⟩ := hfinish _ ht
    rw [hb] at hf
    cases hf
    exact ht
  · exact h _ ht st a st' hf

end

private theorem programFrom_ends (g : Grammar) (s : Setting) (n : Nat) (done : List Stmt) :
    Ends (programFrom g s n done) := by
  induction n generalizing done with
  | zero => exact Ends.fail _ _
  | succ n ih =>
    unfold programFrom
    refine Ends.peek_bind (fun t ht => ?_) fun t ht => ⟨done.reverse, by rw [if_pos ht]⟩
    rw [if_neg ht]
    refine Ends.bind fun stmt => ?_
    split
    · exact ih _
    refine Ends.peek_bind (fun t ht => ?_) fun t ht => ⟨_, by rw [ht]⟩
    split
    · rename_i heq
      exact absurd heq ht
    split
    · exact ih _
    split
    · exact Ends.bind fun _ => ih _
    · exact Ends.fail _ _
    · exact Ends.fail _ _

end Parser

namespace Program

/-- The state in which the parser of a script starts. -/
private def start (limits : Lexer.Limits) (source : String) : Parser.State :=
  { rest := Lexer.tokens limits source, size := 2 * (Lexer.tokens limits source).length + 2 }

private theorem parse_eq_ok_iff {limits : ParserLimits} {source : String} {p : Program} :
    parse limits source = .ok p ↔ ∃ main st,
      Parser.programFrom (Parser.grammar (4 * (start limits.lexer source).size)) { limits, maxLevel := limits.maxDepth }
        (start limits.lexer source).size [] (start limits.lexer source) = .ok (main, st) ∧
      p = ⟨main, st.functions.reverse⟩ := by
  have hparse : parse limits source =
      (Parser.programFrom (Parser.grammar (4 * (start limits.lexer source).size))
        { limits, maxLevel := limits.maxDepth }
        (start limits.lexer source).size [] (start limits.lexer source)).map
          fun r => ⟨r.1, r.2.functions.reverse⟩ := rfl
  rw [hparse]
  generalize Parser.programFrom _ _ _ _ _ = r
  cases r with
  | error e => simp [Except.map]
  | ok r =>
    obtain ⟨main, st⟩ := r
    constructor
    · intro h
      cases h
      exact ⟨main, st, rfl, rfl⟩
    · rintro ⟨main', st', hr, rfl⟩
      cases hr
      rfl

/-- What a script shows anywhere in it. -/
def Shows (p : Program) (t : Trait) : Prop := ∃ q, p.Contains q ∧ t.Marks q

theorem shows_iff {p : Program} {t : Trait} : p.Shows t ↔ t.InAny (p.roots.map .stmt) := by
  rw [Trait.inAny_iff]
  constructor
  · rintro ⟨q, ⟨s, hs, hsq⟩, hq⟩
    exact ⟨.stmt s, List.mem_map_of_mem hs, q, hsq, hq⟩
  · rintro ⟨_, hp, q, hsq, hq⟩
    obtain ⟨s, hs, rfl⟩ := List.mem_map.1 hp
    exact ⟨q, ⟨s, hs, hsq⟩, hq⟩

/-- What a parser has seen by its end is in the script. -/
private theorem shows_of_state {main : List Stmt} {st : Parser.State} {t : Trait} :
    Shows ⟨main, st.functions.reverse⟩ t ↔ Parser.Shown.stmts main t ∨ st.Has t := by
  rw [shows_iff, roots, List.map_append, Trait.inAny_append, Parser.Shown.stmts_iff]
  refine or_congr_right ?_
  simp only [Trait.inAny_iff, Parser.State.Has, List.mem_map, List.mem_flatMap, List.mem_reverse]
  constructor
  · rintro ⟨_, ⟨s, ⟨f, hf, hs⟩, rfl⟩, hin⟩
    exact ⟨f, hf, _, ⟨s, hs, rfl⟩, hin⟩
  · rintro ⟨f, hf, _, ⟨s, hs, rfl⟩, hin⟩
    exact ⟨_, ⟨s, ⟨f, hf, hs⟩, rfl⟩, hin⟩

/-- A parser that stops at the end of the script has taken all other tokens. -/
private theorem mem_of_ends {limits : Lexer.Limits} {source : String} {front : List Located} {st : Parser.State}
    (htokens : Lexer.tokens limits source = front ++ st.rest) (hend : st.head.token = .finish) {t : Located}
    (ht : t ∈ Lexer.tokens limits source) : t ∈ front ∨ t.token = .finish := by
  rw [htokens] at ht
  refine (List.mem_append.1 ht).imp_right fun ht => ?_
  cases hlast : st.rest with
  | nil =>
    rw [hlast] at ht
    cases ht
  | cons u more =>
    rw [Parser.State.head, hlast] at hend
    rw [hlast] at htokens ht
    have hmore : more = [] := Lexer.eq_nil_of_finish htokens hend
    rw [hmore, List.mem_singleton] at ht
    rw [ht, hend]

section

variable {c : Parser.Comparison} {source : String} {p : Program}

/-- The parsers of a script with the one limits and with the others, on the same tokens. -/
private theorem main_narrows (c : Parser.Comparison) (size : Nat) : Parser.Narrows c Parser.Known.any .nothing
    (Parser.programFrom (Parser.grammar (4 * size)) { limits := c.tight, maxLevel := c.tight.maxDepth } size [])
    (Parser.programFrom (Parser.grammar (4 * size)) { limits := c.loose, maxLevel := c.loose.maxDepth } size [])
    Parser.Shown.stmts :=
  (Parser.programFrom_narrows (Parser.grammar_loosens c _) { limits := c.loose, maxLevel := 0 } size []).seen_same
    fun _ => Iff.rfl

private theorem start_congr {limits limits' : Lexer.Limits}
    (h : Lexer.tokens limits source = Lexer.tokens limits' source) :
    start limits source = start limits' source := by
  unfold start
  rw [h]

/-- No token of a script that is parsed is a barrier, and a word that can be taken out of the language shows. -/
private theorem tokens_of_main {limits : Lexer.Limits} {main : List Stmt} {st : Parser.State}
    (h : Parser.programFrom (Parser.grammar (4 * (start limits source).size))
      { limits := c.loose, maxLevel := c.loose.maxDepth } (start limits source).size [] (start limits source) =
        .ok (main, st)) :
    (∀ t ∈ Lexer.tokens limits source, t.token.isBarrier = false) ∧
      ((∃ t ∈ Lexer.tokens limits source, t.token.isDisabled = true) →
        Shows ⟨main, st.functions.reverse⟩ .disabled) := by
  obtain ⟨front, hrest, hopen, hword⟩ := (main_narrows c _).takes _ main st trivial h
  have hend := Parser.programFrom_ends _ _ _ _ _ _ _ h
  constructor
  · intro t ht
    rcases mem_of_ends hrest hend ht with ht | ht
    · exact hopen t ht
    · rw [ht]
      rfl
  · rintro ⟨t, ht, hdisabled⟩
    rw [shows_of_state]
    refine hword ⟨t, (mem_of_ends hrest hend ht).resolve_right fun hfinish => ?_, hdisabled⟩
    rw [hfinish] at hdisabled
    cases hdisabled

/-- What is parsed with limits is parsed with looser ones; no literal is too large for them, and no text too long. -/
theorem parse_loose (hlexer : c.loose.lexer = {}) (h : parse c.tight source = .ok p) :
    parse c.loose source = .ok p ∧ ¬ p.Shows c.tight.oversized ∧
      ∀ t ∈ Lexer.tokens {} source, ¬ t.token.IsTooLong c.tight.lexer.maxString := by
  obtain ⟨main, st, hmain, rfl⟩ := parse_eq_ok_iff.1 h
  obtain ⟨hloose, hsize⟩ := (main_narrows c _).admits _ main st trivial hmain
  -- no token is a barrier, so the looser parser starts with the same tokens
  obtain ⟨htokens, htexts⟩ := Lexer.tokens_of_plain (tokens_of_main hloose).1
  refine ⟨parse_eq_ok_iff.2 ⟨main, st, ?_, rfl⟩, fun hshows => ?_, by rwa [htokens]⟩
  · rw [hlexer, start_congr htokens]
    exact hloose
  · rcases hsize (shows_of_state.1 hshows) with h | ⟨f, hf, -⟩
    · exact h
    · cases hf

end

end Program

end Sandscript
