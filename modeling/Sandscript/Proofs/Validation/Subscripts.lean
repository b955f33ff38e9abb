import Mathlib.Control.Monad.Basic
import Sandscript.Proofs.Validation.Verdict

/-!
# Subscripts in accepted scripts

The check looks at the last link of a chain only.  A literal key that is a forbidden attribute therefore passes
wherever something follows it, be it a property, another subscript or a method call, and it is found wherever it
closes a chain that the walk enters (`validate_finds_last_keys`).
-/

namespace Sandscript

namespace Link

/-- The key of a subscript, if it is a literal. -/
def key? : Link → Option String
  | index _ _ (.literal _ (.str key)) => some key
  | _ => none

/-- A subscript with a literal key that is a forbidden attribute. -/
def HasForbiddenKey (l : Link) : Prop := ∃ key, l.key? = some key ∧ Names.isForbiddenAttribute key = true

private theorem key?_eq_some {l : Link} {key : String} (h : l.key? = some key) :
    ∃ op optional p, l = .index op optional (.literal p (.str key)) := by
  unfold key? at h
  split at h
  · rename_i op optional p key'
    cases h
    exact ⟨op, optional, p, rfl⟩
  · cases h

end Link

/-- A literal key that closes a chain is the one that the chain shows. -/
private theorem lastKey_of_getLast? {op p : Position} {optional : Bool} {key : String} : ∀ {links : List Link},
    links.getLast? = some (.index op optional (.literal p (.str key))) → lastKey links = [⟨.subscript key, op⟩]
  | [l], h => by
    cases h
    rfl
  | l :: l' :: rest, h => by
    rw [lastKey.eq_3 _ _ fun _ _ _ _ _ hrest => by cases hrest]
    rw [List.getLast?_cons_cons] at h
    exact lastKey_of_getLast? h

/-- Only chains have links directly inside of them. -/
private theorem Part.chain_of_link_mem_inner {q : Part} {l : Link} (h : Part.link l ∈ q.inner) :
    ∃ pos root links, q = .expr (.chain pos root links) ∧ l ∈ links := by
  cases q with
  | expr e =>
    cases e with
    | chain pos root links =>
      have hl : l ∈ links := by simpa [inner, walked, skipped, breakValue, dead] using h
      exact ⟨pos, root, links, rfl, hl⟩
    | _ => simp [inner, walked, skipped, breakValue, dead] at h
  | link l' => cases l' <;> simp [inner, walked, skipped, breakValue, dead] at h
  | stmt s => cases s <;> simp [inner, walked, skipped, breakValue, dead] at h
  | arm c =>
    obtain ⟨labels, guard, action⟩ := c
    cases labels <;> simp [inner, walked, skipped, breakValue, dead] at h

namespace Program

/-- Every link of a program belongs to a chain of it. -/
private theorem Contains.exists_chain {p : Program} {l : Link} (h : p.Contains (.link l)) :
    ∃ pos root links, p.Contains (.expr (.chain pos root links)) ∧ l ∈ links := by
  obtain ⟨s, hs, hsl⟩ := h
  rcases Relation.ReflTransGen.cases_tail hsl with heq | ⟨q, hsq, hq⟩
  · cases heq
  · obtain ⟨pos, root, links, rfl, hl⟩ := Part.chain_of_link_mem_inner hq
    exact ⟨pos, root, links, ⟨s, hs, hsq⟩, hl⟩

private theorem Contains.of_chain {p : Program} {pos : Position} {root : Expr} {links : List Link} {l : Link}
    (h : p.Contains (.expr (.chain pos root links))) (hl : l ∈ links) : p.Contains (.link l) := by
  obtain ⟨s, hs, hsc⟩ := h
  have hstep : Part.link l ∈ Part.inner (.expr (.chain pos root links)) :=
    Part.walked_subset_inner _ (List.mem_cons_of_mem _ (List.mem_map_of_mem hl))
  exact ⟨s, hs, hsc.trans (.step hstep (.refl _))⟩

end Program

namespace Validator

/-- A chain that the walk enters does not end in a forbidden literal key. -/
private theorem not_hasForbiddenKey_of_walks {p : Program} (h : ∀ q, p.Walks q → ∀ u ∈ q.shown, u.rejection? = none)
    {pos : Position} {root : Expr} {links : List Link} (hwalks : p.Walks (.expr (.chain pos root links))) {l : Link}
    (hlast : links.getLast? = some l) : ¬ l.HasForbiddenKey := by
  rintro ⟨key, hkey, hforbidden⟩
  obtain ⟨op, optional, q, rfl⟩ := Link.key?_eq_some hkey
  have hshown : (⟨.subscript key, op⟩ : Use) ∈ (Part.expr (.chain pos root links)).shown := by
    rw [Part.shown, lastKey_of_getLast? hlast]
    exact List.mem_singleton_self _
  have hnone := h _ hwalks _ hshown
  simp [Use.rejection?, hforbidden] at hnone

/-- A forbidden literal key in an accepted script is followed by another link of its chain, or it closes a chain in
the value of a `break` or in a case without labels. -/
theorem validate_finds_last_keys {v : Validator} {script : Script} (h : v.validate script = .ok ()) :
    ∃ p, Program.parse v.parserLimits script.source = .ok p ∧
      ((∃ l, p.Contains (.link l) ∧ l.HasForbiddenKey) ↔
        (∃ pos root links, p.Contains (.expr (.chain pos root links)) ∧
            ∃ l ∈ links.dropLast, l.HasForbiddenKey) ∨
          ∃ pos root links, p.Hides (.expr (.chain pos root links)) ∧
            ∃ l, links.getLast? = some l ∧ l.HasForbiddenKey) := by
  obtain ⟨-, -, p, hp, hnone⟩ := validate_eq_ok_iff.1 h
  refine ⟨p, hp, ?_, ?_⟩
  · rintro ⟨l, hl, hkey⟩
    obtain ⟨pos, root, links, hchain, hmem⟩ := hl.exists_chain
    obtain ⟨last, hlast⟩ : ∃ last, links.getLast? = some last := by
      cases hlinks : links.getLast? with
      | none =>
        rw [List.getLast?_eq_none_iff.1 hlinks] at hmem
        cases hmem
      | some last => exact ⟨last, rfl⟩
    -- either another link follows, or the walk looks at this one
    have hsplit : l ∈ links.dropLast ∨ l = last := by
      obtain ⟨front, rfl⟩ := List.getLast?_eq_some_iff.1 hlast
      simpa using hmem
    rcases hsplit with hdrop | rfl
    · exact Or.inl ⟨pos, root, links, hchain, l, hdrop, hkey⟩
    · rcases Program.contains_iff.1 hchain with hwalks | hhides
      · exact absurd hkey (not_hasForbiddenKey_of_walks hnone hwalks hlast)
      · exact Or.inr ⟨pos, root, links, hhides, l, hlast, hkey⟩
  · rintro (⟨pos, root, links, hchain, l, hl, hkey⟩ | ⟨pos, root, links, hhides, l, hlast, hkey⟩)
    · exact ⟨l, hchain.of_chain (List.dropLast_subset _ hl), hkey⟩
    · have hchain := Program.contains_iff.2 (Or.inr hhides)
      exact ⟨l, hchain.of_chain (List.mem_of_getLast? hlast), hkey⟩

/-- A subscript behind the forbidden one hides it. -/
theorem validate_finds_last_keys_of_nested :
    (ofPolicy .standard).validate ⟨"record[\"__class__\"][\"x\"] = 1;"⟩ = .ok () ∧
      ∃ p, Program.parse (ofPolicy .standard).parserLimits "record[\"__class__\"][\"x\"] = 1;" = .ok p ∧
        ((∃ l, p.Contains (.link l) ∧ l.HasForbiddenKey) ↔
          (∃ pos root links, p.Contains (.expr (.chain pos root links)) ∧
              ∃ l ∈ links.dropLast, l.HasForbiddenKey) ∨
            ∃ pos root links, p.Hides (.expr (.chain pos root links)) ∧
              ∃ l, links.getLast? = some l ∧ l.HasForbiddenKey) := by
  have h : (ofPolicy .standard).validate ⟨"record[\"__class__\"][\"x\"] = 1;"⟩ = .ok () := by decide +kernel
  exact ⟨h, validate_finds_last_keys h⟩

/-- The first key of the variable that a script assigns to. -/
private def firstKey? : Program → Option String
  | ⟨[.assign _ _ (.chain _ _ (.index _ _ (.literal _ (.str key)) :: _)) _], _⟩ => some key
  | _ => none

private theorem contains_of_firstKey? {p : Program} {key : String} (h : firstKey? p = some key) :
    ∃ op optional pos, p.Contains (.link (.index op optional (.literal pos (.str key)))) := by
  unfold firstKey? at h
  split at h
  · rename_i assignPos operator chainPos root op optional pos found rest value functions
    cases h
    let links : List Link := .index op optional (.literal pos (.str key)) :: rest
    have hchain : Program.Contains ⟨[.assign assignPos operator (.chain chainPos root links) value], functions⟩
        (.expr (.chain chainPos root links)) :=
      ⟨_, List.mem_cons_self, .step (Part.walked_subset_inner _ List.mem_cons_self) (.refl _)⟩
    exact ⟨op, optional, pos, hchain.of_chain List.mem_cons_self⟩
  · cases h

/-- The key of the inner subscript is checked by nobody. -/
theorem validate_misses_inner_key :
    (ofPolicy .standard).validate ⟨"record[\"__class__\"][\"x\"] = 1;"⟩ = .ok () ∧
      ∃ p, Program.parse (ofPolicy .standard).parserLimits "record[\"__class__\"][\"x\"] = 1;" = .ok p ∧
        ∃ l, p.Contains (.link l) ∧ l.HasForbiddenKey := by
  refine ⟨by decide +kernel, ?_⟩
  have h : (Program.parse (ofPolicy .standard).parserLimits "record[\"__class__\"][\"x\"] = 1;").toOption.any
      fun p => firstKey? p == some "__class__" := by decide +kernel
  obtain ⟨p, hp, hkey⟩ := exists_ok_of_any h
  obtain ⟨op, optional, pos, hindex⟩ := contains_of_firstKey? (beq_iff_eq.1 hkey)
  exact ⟨p, hp, _, hindex, "__class__", rfl, by decide +kernel⟩

end Validator

end Sandscript
