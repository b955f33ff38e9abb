import Mathlib.Data.List.TakeWhile
import Sandscript.Proofs.Numeric.Digits
import Sandscript.Proofs.Value.Conversion

/-!
# What a path tells

If no key on the way holds a point or a bracket, the steps to a leaf can be read off its path (`position_inj`), except
for empty keys in front of all others: nothing is written for them.  Two leaves of a value are therefore reported under
one path exactly if their positions show the same steps (`paths_coincide_iff`), and a map with an empty key can hold
two such leaves (`path_names_two_places`).  That a leaf would be reported under the text of its steps is said with
`Value.replace`, which puts a value without a JSON form in its place (`toJson_replace`).
-/

namespace Sandscript.Value

/-! ### Steps and their texts -/

/-- A key without the characters that divide the steps of a path. -/
def IsPlainKey (key : String) : Prop := ∀ c ∈ key.toList, c ∉ ['.', '[', ']']

namespace Step

def IsPlain : Step → Prop
  | item _ => True
  | entry key => IsPlainKey key

/-- The first character of the text of a step. -/
def mark : Step → Char
  | item _ => '['
  | entry _ => '.'

/-- The text of a step behind its first character. -/
def body : Step → List Char
  | item index => Numeric.digits index ++ [']']
  | entry key => key.toList

private theorem toList_text (step : Step) : step.text.toList = step.mark :: step.body := by
  cases step with
  | item index => simp [text, mark, body, Numeric.digits]
  | entry key => simp [text, mark, body]

private theorem eq_of_body {s t : Step} (hmark : s.mark = t.mark) (hbody : s.body = t.body) : s = t := by
  cases s with
  | item i =>
    cases t with
    | item j =>
      have hdigits : Numeric.digits i = Numeric.digits j := List.append_cancel_right hbody
      rw [← Numeric.ofDigits_digits i, hdigits, Numeric.ofDigits_digits]
    | entry key => cases hmark
  | entry key =>
    cases t with
    | item j => cases hmark
    | entry key' => rw [String.toList_inj.1 hbody]

end Step

/-- The characters that a step may start with. -/
private def opens (c : Char) : Bool := c == '[' || c == '.'

private theorem opens_mark (step : Step) : opens step.mark = true := by cases step <;> rfl

private theorem not_opens_of_mem_body {step : Step} (h : step.IsPlain) {c : Char} (hc : c ∈ step.body) :
    opens c = false := by
  cases step with
  | item index =>
    rcases List.mem_append.1 hc with hdigit | hlast
    · have hd := Numeric.isDigit_of_mem_digits hdigit
      cases hopens : opens c with
      | false => rfl
      | true =>
        rcases Bool.or_eq_true_iff.1 hopens with heq | heq <;> rw [eq_of_beq heq] at hd <;> exact absurd hd (by decide)
    · rw [List.mem_singleton.1 hlast]
      rfl
  | entry key =>
    have hplain := h c hc
    simp only [List.mem_cons, not_or] at hplain
    simp [opens, hplain.1, hplain.2.1]

/-- The text of some steps behind others. -/
def textOf (steps : List Step) : List Char := steps.flatMap fun step => step.mark :: step.body

private theorem toList_join_text (steps : List Step) : (String.join (steps.map Step.text)).toList = textOf steps := by
  rw [String.toList_join, List.flatMap_map, textOf]
  exact congrArg (steps.flatMap ·) (funext Step.toList_text)

/-- The body of a step ends where the next step starts. -/
private theorem takeWhile_body {step : Step} (h : step.IsPlain) (steps : List Step) :
    (step.body ++ textOf steps).takeWhile (!opens ·) = step.body := by
  have hstop : (textOf steps).takeWhile (!opens ·) = [] := by
    cases steps with
    | nil => rfl
    | cons next rest => exact List.takeWhile_cons_of_neg (by simp [opens_mark])
  rw [List.takeWhile_append_of_pos fun c hc => by simp [not_opens_of_mem_body h hc], hstop, List.append_nil]

private theorem textOf_inj {ss ts : List Step} (hs : ∀ s ∈ ss, s.IsPlain) (ht : ∀ t ∈ ts, t.IsPlain)
    (h : textOf ss = textOf ts) : ss = ts := by
  induction ss generalizing ts with
  | nil =>
    cases ts with
    | nil => rfl
    | cons t ts => cases h
  | cons s ss ih =>
    cases ts with
    | nil => cases h
    | cons t ts =>
      obtain ⟨hmark, hrest⟩ := List.cons.inj h
      have hbody : s.body = t.body := by
        rw [← takeWhile_body (hs s List.mem_cons_self) ss, ← takeWhile_body (ht t List.mem_cons_self) ts]
        exact congrArg _ hrest
      have htail : textOf ss = textOf ts := List.append_cancel_left (hbody ▸ hrest)
      rw [Step.eq_of_body hmark hbody, ih (fun s hm => hs s (List.mem_cons_of_mem _ hm))
        (fun t hm => ht t (List.mem_cons_of_mem _ hm)) htail]

/-! ### Positions and their texts -/

private theorem toList_position_entry (key : String) (steps : List Step) :
    '.' :: (position (.entry key :: steps)).toList = textOf (.entry key :: steps) := by
  rw [position, String.toList_append, toList_join_text]
  rfl

/-- Only in front of a key does the text of some steps hold a character that the text of their position does not. -/
private theorem toList_position_of_ne {steps : List Step} (h : ∀ key rest, steps ≠ .entry key :: rest) :
    (position steps).toList = textOf steps := by
  cases steps with
  | nil => rfl
  | cons step rest =>
    cases step with
    | item index =>
      rw [position, String.toList_append, toList_join_text]
      exact congrArg (· ++ textOf rest) (Step.toList_text (.item index))
    | entry key => exact absurd rfl (h key rest)

section

variable {ss ts : List Step}

/-- A position that starts with a key is told from all others by its first character. -/
private theorem exists_entry_of_position {key : String} (hplain : IsPlainKey key) (hkey : key ≠ "")
    (h : position (.entry key :: ss) = position ts) : ∃ key' rest, ts = .entry key' :: rest := by
  by_contra hother
  push Not at hother
  obtain ⟨c, cs, hc⟩ := List.exists_cons_of_ne_nil (mt String.toList_eq_nil_iff.1 hkey)
  have hbracket : c ≠ '[' := by
    have hmem := hplain c (hc ▸ List.mem_cons_self)
    simp only [List.mem_cons, not_or] at hmem
    exact hmem.2.1
  have htext : c :: (cs ++ textOf ss) = textOf ts := by
    rw [← toList_position_of_ne hother, ← h, position, String.toList_append, toList_join_text, hc, List.cons_append]
  cases ts with
  | nil => cases htext
  | cons t ts =>
    cases t with
    | item index => exact hbracket (List.cons.inj htext).1
    | entry key' => exact hother key' ts rfl

theorem position_inj (hs : ∀ s ∈ ss, s.IsPlain) (ht : ∀ t ∈ ts, t.IsPlain)
    (hs' : ∀ s ∈ ss.head?, s.isEmptyKey = false) (ht' : ∀ t ∈ ts.head?, t.isEmptyKey = false)
    (h : position ss = position ts) : ss = ts := by
  have hnonempty : ∀ {key : String}, (Step.entry key).isEmptyKey = false → key ≠ "" := by
    intro key hkey heq
    rw [heq] at hkey
    cases hkey
  by_cases hentry : ∃ key rest, ss = .entry key :: rest
  · obtain ⟨key, rest, rfl⟩ := hentry
    obtain ⟨key', rest', rfl⟩ := exists_entry_of_position (hs _ List.mem_cons_self) (hnonempty (hs' _ rfl)) h
    refine textOf_inj hs ht ?_
    rw [← toList_position_entry, ← toList_position_entry, h]
  · have hother : ∀ key rest, ts ≠ .entry key :: rest := by
      rintro key rest rfl
      exact hentry (exists_entry_of_position (ht _ List.mem_cons_self) (hnonempty (ht' _ rfl)) h.symm)
    push Not at hentry
    refine textOf_inj hs ht ?_
    rw [← toList_position_of_ne hentry, ← toList_position_of_ne hother, h]

end

private theorem not_isEmptyKey_of_mem_head? {steps : List Step} {step : Step} (h : step ∈ (shown steps).head?) :
    step.isEmptyKey = false := by
  have hfirst := List.head?_dropWhile_not Step.isEmptyKey steps
  rwa [show (steps.dropWhile Step.isEmptyKey).head? = some step from h] at hfirst

/-- Two paths are the same text exactly if they show the same steps. -/
private theorem spell_eq_spell_iff {ss ts : List Step} (hs : ∀ s ∈ ss, s.IsPlain) (ht : ∀ t ∈ ts, t.IsPlain) :
    spell ss = spell ts ↔ shown ss = shown ts := by
  rw [spell_eq_position_shown, spell_eq_position_shown]
  have hshown : ∀ {steps : List Step}, (∀ s ∈ steps, s.IsPlain) → ∀ s ∈ shown steps, s.IsPlain :=
    fun h s hs => h s ((List.dropWhile_sublist _).subset hs)
  exact ⟨position_inj (hshown hs) (hshown ht) (fun _ => not_isEmptyKey_of_mem_head?)
    (fun _ => not_isEmptyKey_of_mem_head?), congrArg position⟩

/-! ### Another value at a position -/

/-- The value with `w` in the place of what stands at a position. -/
def replace : Value → List Step → Value → Value
  | _, [], w => w
  | arr items, .item i :: steps, w => arr (items.modify i (replace · steps w))
  | map entries, .entry key :: steps, w =>
    map (entries.map fun p => if p.1 = key then (key, replace p.2 steps w) else p)
  | v, _ :: _, _ => v

private theorem isLeaf_of_unfit? {w : Value} {name : String} (h : w.unfit? = some name) : w.isLeaf = true := by
  cases w with
  | arr items => cases h
  | map entries => cases h
  | _ => rfl

/-- Only arrays and maps have leaves inside of them. -/
private theorem cases_of_mem_leaves_cons {v x : Value} {step : Step} {steps : List Step}
    (h : ⟨step :: steps, x⟩ ∈ v.leaves) :
    (∃ items index u, v = arr items ∧ step = .item index ∧ items[index]? = some u ∧ ⟨steps, x⟩ ∈ u.leaves) ∨
      ∃ entries key u, v = map entries ∧ step = .entry key ∧ (key, u) ∈ entries ∧ ⟨steps, x⟩ ∈ u.leaves := by
  cases v with
  | arr items =>
    obtain ⟨i, u, hu, ⟨_, _⟩, hinner, heq⟩ := mem_itemLeaves_iff.1 h
    cases heq
    exact .inl ⟨items, 0 + i, u, rfl, rfl, by rwa [Nat.zero_add], hinner⟩
  | map entries =>
    obtain ⟨⟨key, u⟩, hu, ⟨_, _⟩, hinner, heq⟩ := mem_entryLeaves_iff.1 h
    cases heq
    exact .inr ⟨entries, key, u, rfl, rfl, hu, hinner⟩
  | _ => cases List.mem_singleton.1 h

section

variable {v w x : Value} {steps : List Step}

private theorem mem_leaves_replace (hw : w.isLeaf = true) (h : ⟨steps, x⟩ ∈ v.leaves) :
    ⟨steps, w⟩ ∈ (v.replace steps w).leaves := by
  induction steps generalizing v with
  | nil =>
    rw [replace, leaves_of_isLeaf hw]
    exact List.mem_singleton_self _
  | cons step steps ih =>
    rcases cases_of_mem_leaves_cons h with
      ⟨items, index, u, rfl, rfl, hu, hinner⟩ | ⟨entries, key, u, rfl, rfl, hu, hinner⟩
    · rw [replace, mem_leaves_item_iff]
      exact ⟨_, by rw [List.getElem?_modify_eq, hu]; rfl, ih hinner⟩
    · rw [replace, mem_leaves_entry_iff]
      exact ⟨_, List.mem_map.2 ⟨_, hu, if_pos rfl⟩, ih hinner⟩

private theorem eq_or_mem_of_mem_leaves_replace (hw : w.isLeaf = true) {t : List Step}
    (h : ⟨t, x⟩ ∈ (v.replace steps w).leaves) : t = steps ∧ x = w ∨ ⟨t, x⟩ ∈ v.leaves := by
  induction steps generalizing v t with
  | nil =>
    rw [replace, leaves_of_isLeaf hw] at h
    cases List.mem_singleton.1 h
    exact .inl ⟨rfl, rfl⟩
  | cons step steps ih =>
    -- inside of what stands at the first step, the other steps lead to `w`
    have hinside : ∀ {u : Value} {s : List Step}, ⟨s, x⟩ ∈ (u.replace steps w).leaves →
        (⟨s, x⟩ ∈ u.leaves → ⟨step :: s, x⟩ ∈ v.leaves) →
        step :: s = step :: steps ∧ x = w ∨ ⟨step :: s, x⟩ ∈ v.leaves := by
      intro u s hs hbehind
      rcases ih hs with ⟨rfl, rfl⟩ | hmem
      · exact .inl ⟨rfl, rfl⟩
      · exact .inr (hbehind hmem)
    cases v with
    | arr items =>
      cases step with
      | item i =>
        obtain ⟨j, u, hu, ⟨s, _⟩, hs, heq⟩ := mem_itemLeaves_iff.1 h
        cases heq
        rw [Nat.zero_add]
        by_cases hij : i = j
        · subst hij
          rw [List.getElem?_modify_eq, Option.map_eq_map, Option.map_eq_some_iff] at hu
          obtain ⟨u, hu, rfl⟩ := hu
          exact hinside hs fun hmem => mem_leaves_item_iff.2 ⟨u, hu, hmem⟩
        · rw [List.getElem?_modify_ne _ _ hij] at hu
          exact .inr (mem_leaves_item_iff.2 ⟨u, hu, hs⟩)
      | entry key => exact .inr h
    | map entries =>
      cases step with
      | item i => exact .inr h
      | entry key =>
        obtain ⟨p, hp, ⟨s, _⟩, hs, heq⟩ := mem_entryLeaves_iff.1 h
        obtain ⟨⟨k, u⟩, hu, rfl⟩ := List.mem_map.1 hp
        cases heq
        by_cases hkey : k = key
        · subst hkey
          rw [if_pos rfl] at hs ⊢
          exact hinside hs fun hmem => mem_leaves_entry_iff.2 ⟨u, hu, hmem⟩
        · rw [if_neg hkey] at hs ⊢
          exact .inr (mem_leaves_entry_iff.2 ⟨u, hu, hs⟩)
    | _ => cases step <;> exact .inr h

/-- A leaf is reported under the text of the steps to it. -/
theorem toJson_replace {name : String} (hv : ∀ l ∈ v.leaves, l.value.unfit? = none) (h : ⟨steps, x⟩ ∈ v.leaves)
    (hw : w.unfit? = some name) : (v.replace steps w).toJson = .error ⟨spell steps, name⟩ := by
  have hleaf := isLeaf_of_unfit? hw
  cases hjson : (v.replace steps w).toJson with
  | ok j =>
    have hnone := exists_toJson_iff.1 ⟨j, hjson⟩ _ (mem_leaves_replace hleaf h)
    rw [hw] at hnone
    cases hnone
  | error u =>
    obtain ⟨front, ⟨t, y⟩, back, hleaves, -, hname, hpath⟩ := firstUnfit?_eq_some_iff.1 (toJson_eq_error_iff.1 hjson)
    have hmem : ⟨t, y⟩ ∈ (v.replace steps w).leaves := hleaves ▸ List.mem_append_right _ List.mem_cons_self
    rcases eq_or_mem_of_mem_leaves_replace hleaf hmem with ⟨rfl, rfl⟩ | hold
    · obtain rfl : name = u.typeName := Option.some_inj.1 (hw.symm.trans hname)
      rw [spell, ← hpath]
    · rw [hv _ hold] at hname
      cases hname

end

/-! ### Two leaves under one path -/

/-- If the keys on the way to two leaves hold neither points nor brackets, the leaves have the same path exactly if the
steps to them are the same but for empty keys in front of all others.  The path of a leaf is what is reported if only
this leaf has no JSON form. -/
theorem paths_coincide_iff {v : Value} {l m : Leaf} (hl : l ∈ v.leaves) (hm : m ∈ v.leaves)
    (hkeys : ∀ key, .entry key ∈ l.steps ++ m.steps → IsPlainKey key) :
    (spell l.steps = spell m.steps ↔ shown l.steps = shown m.steps) ∧
      ((∃ j, v.toJson = .ok j) → ∀ w name, w.unfit? = some name →
        (v.replace l.steps w).toJson = .error ⟨spell l.steps, name⟩ ∧
          (v.replace m.steps w).toJson = .error ⟨spell m.steps, name⟩) := by
  have hplain : ∀ s ∈ l.steps ++ m.steps, s.IsPlain := by
    intro s hs
    cases s with
    | item index => trivial
    | entry key => exact hkeys key hs
  refine ⟨spell_eq_spell_iff (fun s hs => hplain s (List.mem_append_left _ hs))
    (fun s hs => hplain s (List.mem_append_right _ hs)), fun hjson w name hw => ?_⟩
  have hfit := exists_toJson_iff.1 hjson
  exact ⟨toJson_replace hfit hl hw, toJson_replace hfit hm hw⟩

/-- Nothing is written for the empty key, but the step behind it tells the two leaves apart. -/
theorem paths_coincide_iff_of_nested :
    let v := map [("", arr [unit, unit]), ("a", unit)]
    spell [.entry "", .item 1] ≠ spell [.entry "a"] ∧
      (v.replace [.entry "", .item 1] (float .nan)).toJson = .error ⟨spell [.entry "", .item 1], nonFinite⟩ ∧
        (v.replace [.entry "a"] (float .nan)).toJson = .error ⟨spell [.entry "a"], nonFinite⟩ := by
  intro v
  have hleaves : v.leaves = [⟨[.entry "", .item 0], unit⟩, ⟨[.entry "", .item 1], unit⟩, ⟨[.entry "a"], unit⟩] := rfl
  have hplain : ∀ key, .entry key ∈ [.entry "", .item 1] ++ [Step.entry "a"] → IsPlainKey key := by
    intro key hkey
    have hkeys : key = "" ∨ key = "a" := by simpa using hkey
    rcases hkeys with rfl | rfl <;> simp [IsPlainKey]
  obtain ⟨hiff, hreported⟩ := paths_coincide_iff (v := v) (l := ⟨[.entry "", .item 1], unit⟩)
    (m := ⟨[.entry "a"], unit⟩) (by simp [hleaves]) (by simp [hleaves]) hplain
  refine ⟨fun heq => ?_, hreported ⟨_, rfl⟩ (float .nan) nonFinite rfl⟩
  cases hiff.1 heq

/-- Both leaves are reported as `r`, whichever of them has no JSON form. -/
theorem path_names_two_places :
    let v (x y : Value) := map [("", map [("r", x)]), ("r", y)]
    (∀ key ∈ ["", "r"], IsPlainKey key) ∧
      (v unit unit).leaves.map Leaf.steps = [[.entry "", .entry "r"], [.entry "r"]] ∧
        (v (range 1 3) unit).toJson = .error ⟨"r", (range 1 3).typeName⟩ ∧
          (v unit (range 1 3)).toJson = .error ⟨"r", (range 1 3).typeName⟩ :=
  ⟨by simp [IsPlainKey], rfl, rfl, rfl⟩

end Sandscript.Value
