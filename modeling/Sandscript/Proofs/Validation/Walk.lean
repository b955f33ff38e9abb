import Sandscript.Proofs.Syntax.Parts
import Sandscript.Validation

/-!
# What the walk of a script finds

`Program.uses` is a recursion of its own over the tree.  This file ties it to the parts of the program: a part shows at
most one use of its own (`Part.shown`), and the walk lists exactly what the parts show that it enters
(`Program.mem_uses_iff`).
-/

namespace Sandscript

/-- The literal key at the end of a chain. -/
def lastKey : List Link → List Use
  | [] => []
  | [.index p _ (.literal _ (.str key))] => [⟨.subscript key, p⟩]
  | _ :: rest => lastKey rest

namespace Part

/-- What a part shows of itself, without the parts inside of it. -/
def shown : Part → List Use
  | expr (.capture p _ _) => [⟨.captured, p⟩]
  | expr (.call p _ name _ args) => [⟨.ofCall (.call name) name args, p⟩]
  | expr (.chain _ _ links) => lastKey links
  | link (.property _ p _ name) => [⟨.property name, p⟩]
  | link (.method _ p _ name args) => [⟨.ofCall (.method name) name args, p⟩]
  | stmt (.importModule p _ _) => [⟨.importing, p⟩]
  | stmt (.exportName p _ _) => [⟨.exporting, p⟩]
  | _ => []

/-- A use is shown by a part or by one that the walk finds inside of it. -/
def Shows (p : Part) (u : Use) : Prop := ∃ q, Within walked p q ∧ u ∈ q.shown

def AnyShows (ps : List Part) (u : Use) : Prop := ∃ q ∈ ps, q.Shows u

private theorem shows_iff {p : Part} {u : Use} : p.Shows u ↔ u ∈ p.shown ∨ AnyShows p.walked u := by
  constructor
  · rintro ⟨q, hpq, hu⟩
    rcases within_iff.1 hpq with rfl | ⟨r, hr, hrq⟩
    · exact Or.inl hu
    · exact Or.inr ⟨r, hr, q, hrq, hu⟩
  · rintro (hu | ⟨r, hr, q, hrq, hu⟩)
    · exact ⟨p, Within.refl p, hu⟩
    · exact ⟨q, Within.step hr hrq, hu⟩

@[simp]
private theorem anyShows_nil {u : Use} : AnyShows [] u ↔ False := by simp [AnyShows]

@[simp]
private theorem anyShows_cons {p : Part} {ps : List Part} {u : Use} :
    AnyShows (p :: ps) u ↔ p.Shows u ∨ AnyShows ps u := by
  simp [AnyShows]

@[simp]
private theorem anyShows_append {ps qs : List Part} {u : Use} :
    AnyShows (ps ++ qs) u ↔ AnyShows ps u ∨ AnyShows qs u := by
  simp [AnyShows, or_and_right, exists_or]

end Part

open Sandscript.Part

/-- A literal key with nothing inside of it is the only link that shows nothing on its own. -/
private theorem not_shows_literal_index {op p : Position} {optional : Bool} {v : Value} {u : Use} :
    ¬ (Part.link (.index op optional (.literal p v))).Shows u := by
  rw [shows_iff, walked, anyShows_cons, shows_iff (p := .expr _)]
  simp [shown, walked]

/-- The walk takes the first link of a chain by itself, unless it is a literal key with nothing behind it. -/
private theorem usesLinks_cons (before : List Use) (l : Link) (rest : List Link) :
    (∃ op optional p key, l = .index op optional (.literal p (.str key)) ∧ rest = []) ∨
      usesLinks before (l :: rest) = before ++ usesLinks l.uses rest ∧ lastKey (l :: rest) = lastKey rest := by
  by_cases h : ∃ op optional p key, l = .index op optional (.literal p (.str key)) ∧ rest = []
  · exact Or.inl h
  · have hne : ∀ op optional p key, l = .index op optional (.literal p (.str key)) → rest = [] → False :=
      fun op optional p key hl hrest => h ⟨op, optional, p, key, hl, hrest⟩
    exact Or.inr ⟨usesLinks.eq_3 _ _ _ hne, lastKey.eq_3 _ _ hne⟩

/-! ### The recursion of the walk

The theorems below follow the clauses of `Expr.uses` and its siblings one by one. -/

mutual

private theorem Expr.mem_uses_iff {u : Use} : ∀ e : Expr, u ∈ e.uses ↔ (Part.expr e).Shows u
  | .literal .. | .var .. | .qualified .. | .this _ => by
    rw [shows_iff]
    simp [Expr.uses, shown, walked]
  | .capture .. => by
    rw [shows_iff]
    simp [Expr.uses, shown, walked]
  | .text _ pieces => by
    rw [shows_iff, Expr.uses, mem_usesAll_iff pieces]
    simp [shown, walked]
  | .array _ items => by
    rw [shows_iff, Expr.uses, mem_usesAll_iff items]
    simp [shown, walked]
  | .map _ entries => by
    rw [shows_iff, Expr.uses, mem_usesEntries_iff entries]
    simp [shown, walked]
  | .unary _ _ arg => by
    rw [shows_iff, Expr.uses, arg.mem_uses_iff]
    simp [shown, walked]
  | .binary _ _ lhs rhs => by
    rw [shows_iff, Expr.uses, List.mem_append, lhs.mem_uses_iff, rhs.mem_uses_iff]
    simp [shown, walked]
  | .call _ _ _ _ args => by
    rw [shows_iff, Expr.uses, List.mem_cons, mem_usesAll_iff args]
    simp [shown, walked]
  | .chain _ root links => by
    rw [shows_iff, Expr.uses, mem_usesLinks_iff _ links, root.mem_uses_iff]
    simp only [shown, walked, anyShows_cons]
    exact or_left_comm
  | .statement s => by
    rw [shows_iff, Expr.uses, s.mem_uses_iff]
    simp [shown, walked]

private theorem mem_usesAll_iff {u : Use} : ∀ es : List Expr, u ∈ usesAll es ↔ AnyShows (es.map .expr) u
  | [] => by simp [usesAll]
  | e :: rest => by
    rw [usesAll, List.mem_append, e.mem_uses_iff, mem_usesAll_iff rest]
    simp

private theorem mem_usesEntries_iff {u : Use} :
    ∀ es : List (String × Expr), u ∈ usesEntries es ↔ AnyShows (es.map fun e => .expr e.2) u
  | [] => by simp [usesEntries]
  | (_, e) :: rest => by
    rw [usesEntries, List.mem_append, e.mem_uses_iff, mem_usesEntries_iff rest]
    simp

private theorem mem_usesLinks_iff {u : Use} (before : List Use) :
    ∀ links : List Link, u ∈ usesLinks before links ↔ u ∈ before ∨ u ∈ lastKey links ∨ AnyShows (links.map .link) u
  | [] => by simp [usesLinks, lastKey]
  | l :: rest => by
    have hrest := mem_usesLinks_iff (u := u) l.uses rest
    rw [l.mem_uses_iff] at hrest
    -- the last link is treated apart if it is a literal key
    rcases usesLinks_cons before l rest with ⟨op, optional, p, key, rfl, rfl⟩ | ⟨hwalk, hkey⟩
    · rw [usesLinks, List.mem_cons, lastKey, List.map_cons, anyShows_cons]
      simp [not_shows_literal_index, or_comm]
    · rw [hwalk, hkey, List.mem_append, hrest, List.map_cons, anyShows_cons]
      exact or_congr_right or_left_comm

private theorem Link.mem_uses_iff {u : Use} : ∀ l : Link, u ∈ l.uses ↔ (Part.link l).Shows u
  | .property .. => by
    rw [shows_iff]
    simp [Link.uses, shown, walked]
  | .index _ _ key => by
    rw [shows_iff, Link.uses, key.mem_uses_iff]
    simp [shown, walked]
  | .method _ _ _ _ args => by
    rw [shows_iff, Link.uses, List.mem_cons, mem_usesAll_iff args]
    simp [shown, walked]

private theorem Stmt.mem_uses_iff {u : Use} : ∀ s : Stmt, u ∈ s.uses ↔ (Part.stmt s).Shows u
  | .expr e => by
    rw [shows_iff, Stmt.uses, e.mem_uses_iff]
    simp [shown, walked]
  | .declare _ _ _ _ value => by
    rw [shows_iff, Stmt.uses, mem_usesOption_iff value]
    simp [shown, walked]
  | .assign _ _ target value => by
    rw [shows_iff, Stmt.uses, List.mem_append, target.mem_uses_iff, value.mem_uses_iff]
    simp [shown, walked]
  | .block _ body => by
    rw [shows_iff, Stmt.uses, mem_usesBody_iff body]
    simp [shown, walked]
  | .ifElse _ condition yes no => by
    rw [shows_iff, Stmt.uses, List.mem_append, List.mem_append, condition.mem_uses_iff, mem_usesBody_iff yes,
      mem_usesBody_iff no]
    simp [shown, walked, or_assoc]
  | .switch _ subject cases otherwise => by
    rw [shows_iff, Stmt.uses, List.mem_append, List.mem_append, subject.mem_uses_iff, mem_usesCases_iff cases,
      mem_usesDefault_iff otherwise]
    simp [shown, walked, or_assoc]
  | .whileLoop _ condition _ body => by
    rw [shows_iff, Stmt.uses, List.mem_append, mem_usesOption_iff condition, mem_usesBody_iff body]
    simp [shown, walked]
  | .doWhile _ _ body condition => by
    rw [shows_iff, Stmt.uses, List.mem_append, condition.mem_uses_iff, mem_usesBody_iff body]
    simp [shown, walked]
  | .forIn _ _ _ source _ body => by
    rw [shows_iff, Stmt.uses, List.mem_append, source.mem_uses_iff, mem_usesBody_iff body]
    simp [shown, walked]
  | .breakLoop .. | .continueLoop _ => by
    rw [shows_iff]
    simp [Stmt.uses, shown, walked]
  | .returnValue _ value | .throwValue _ value => by
    rw [shows_iff, Stmt.uses, mem_usesOption_iff value]
    simp [shown, walked]
  | .tryCatch _ body _ handler => by
    rw [shows_iff, Stmt.uses, List.mem_append, mem_usesBody_iff body, mem_usesBody_iff handler]
    simp [shown, walked]
  | .importModule _ path _ => by
    rw [shows_iff, Stmt.uses, List.mem_cons, path.mem_uses_iff]
    simp [shown, walked]
  | .exportName .. => by
    rw [shows_iff]
    simp [Stmt.uses, shown, walked]

private theorem mem_usesBody_iff {u : Use} : ∀ body : List Stmt, u ∈ usesBody body ↔ AnyShows (body.map .stmt) u
  | [] => by simp [usesBody]
  | s :: rest => by
    rw [usesBody, List.mem_append, s.mem_uses_iff, mem_usesBody_iff rest]
    simp

private theorem mem_usesOption_iff {u : Use} : ∀ e : Option Expr, u ∈ usesOption e ↔ AnyShows (e.toList.map .expr) u
  | none => by simp [usesOption]
  | some e => by
    rw [usesOption, e.mem_uses_iff]
    simp

private theorem mem_usesDefault_iff {u : Use} : ∀ s : Option Stmt, u ∈ usesDefault s ↔ AnyShows (s.toList.map .stmt) u
  | none => by simp [usesDefault]
  | some s => by
    rw [usesDefault, s.mem_uses_iff]
    simp

private theorem mem_usesCases_iff {u : Use} : ∀ cases : List Case, u ∈ usesCases cases ↔ AnyShows (cases.map .arm) u
  | [] => by simp [usesCases]
  | .mk [] _ _ :: rest => by
    rw [usesCases, mem_usesCases_iff rest, List.map_cons, anyShows_cons, shows_iff (p := .arm _)]
    simp [shown, walked]
  | .mk (_ :: _) guard action :: rest => by
    rw [usesCases, List.mem_append, List.mem_append, mem_usesOption_iff guard, action.mem_uses_iff,
      mem_usesCases_iff rest, List.map_cons, anyShows_cons, shows_iff (p := .arm _)]
    simp [shown, walked]

end

namespace Program

/-- The walk lists what the parts show that it enters. -/
theorem mem_uses_iff {p : Program} {u : Use} : u ∈ p.uses ↔ ∃ q, p.Walks q ∧ u ∈ q.shown := by
  have hfunctions : u ∈ p.functions.flatMap (fun f => usesBody f.body) ↔
      AnyShows ((p.functions.flatMap (·.body)).map .stmt) u := by
    rw [List.mem_flatMap, List.map_flatMap]
    simp only [mem_usesBody_iff, AnyShows, List.mem_flatMap]
    constructor
    · rintro ⟨f, hf, q, hq, hu⟩
      exact ⟨q, ⟨f, hf, hq⟩, hu⟩
    · rintro ⟨q, ⟨f, hf, hq⟩, hu⟩
      exact ⟨f, hf, q, hq, hu⟩
  rw [uses, List.mem_append, mem_usesBody_iff, hfunctions, ← anyShows_append, ← List.map_append]
  constructor
  · rintro ⟨r, hr, q, hrq, hu⟩
    obtain ⟨s, hs, rfl⟩ := List.mem_map.1 hr
    exact ⟨q, ⟨s, hs, hrq⟩, hu⟩
  · rintro ⟨q, ⟨s, hs, hsq⟩, hu⟩
    exact ⟨.stmt s, List.mem_map_of_mem hs, q, hsq, hu⟩

end Program

end Sandscript
