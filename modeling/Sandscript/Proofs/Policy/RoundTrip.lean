import Sandscript.Policy.Document
import Sandscript.Proofs.Toml.Tables

/-!
# Policies and their settings files

A policy is written as a list of settings and a table of those of its guards (`toToml_eq`).  The document is read as
their data, from which the same guards and the same policy are decoded, and so a usable policy is read back from its
settings file (`ofToml_toToml`).
-/

namespace Sandscript

open Toml

/-! ### Decoded values -/

namespace Datum

private theorem asWord_toNat (expected : String) (p : Span) (x : UInt64) :
    asWord expected (.int p x.toNat) = .ok x := by
  have hrange : (0 : Int) ≤ x.toNat ∧ (x.toNat : Int) < 2 ^ 64 := by
    have hlt := x.toNat_lt
    omega
  unfold asWord
  dsimp only
  rw [if_pos hrange, Int.toNat_natCast, UInt64.ofNat_toNat]

private theorem asOption_eq_some {α : Type} {f : Datum → Decoded α} {d : Datum} {a : α} (hd : ∀ p, d ≠ null p)
    (h : f d = .ok a) :
    asOption f d = .ok (some a) := by
  cases d with
  | null p => exact absurd rfl (hd p)
  | _ => exact congrArg (Except.map some) h

private theorem mapM_asString {ss : List String} {ds : List Datum} (h : List.Forall₂ IsString ss ds) :
    ds.mapM asString = .ok ss := by
  induction h with
  | nil => rfl
  | cons hs _ ih =>
    obtain ⟨p, rfl⟩ := hs
    rw [List.mapM_cons, ih]
    rfl

end Datum

namespace Policy

/-- A list of strings is read back, however many lines it takes. -/
private theorem stands_texts (ss : List String) : ∃ ps, textOf ps = stringList ss ∧ Stands ps (.texts ss) := by
  cases ss with
  | nil => exact ⟨_, rfl, stands_none⟩
  | cons s ss =>
    cases ss with
    | nil =>
      obtain ⟨k, hk⟩ := quoted_stringChars s.toList
      exact ⟨_, by simp [stringList], stands_one hk⟩
    | cons t ss => exact exists_many (s :: t :: ss)

/-! ### Written settings -/

/-- The text of a value. -/
def valueChars : Setting → List Char
  | .word n => Numeric.digits n
  | .flag b => boolean b
  | .text s => stringChars s.toList
  | .texts ss => stringList ss

/-- The text of settings. -/
def settingChars (ss : List (String × Setting)) : List Char := ss.flatMap fun s => setting s.1 (valueChars s.2)

private theorem exists_stands (v : Setting) : ∃ ps, textOf ps = valueChars v ∧ Stands ps v := by
  cases v with
  | word n => exact ⟨_, by simp [valueChars], stands_word n⟩
  | flag b => exact ⟨_, by simp [valueChars, boolean], stands_flag b⟩
  | text s => exact stands_text s
  | texts ss => exact stands_texts ss

theorem exists_writes {ss : List (String × Setting)} (h : ∀ s ∈ ss, IsBare s.1) :
    ∃ ps, textOf ps = settingChars ss ∧ Writes ss ps := by
  induction ss with
  | nil => exact ⟨[], rfl, .nil⟩
  | cons s ss ih =>
    obtain ⟨qs, hqs, hrest⟩ := ih fun s hs => h s (List.mem_cons_of_mem _ hs)
    obtain ⟨ps, hps, hv⟩ := exists_stands s.2
    refine ⟨_, ?_, .cons (h s List.mem_cons_self) hv hrest⟩
    rw [settingChars, List.flatMap_cons, textOf_append, hqs, setting, ← hps]
    simp [linePieces, settingChars]

end Policy

/-! ### The settings of a policy -/

/-- The settings of guards, in the order in which they are written. -/
def Guards.settings (g : Guards) : List (String × Setting) :=
  (g.maxOperations.map fun n => ("max_operations", Setting.word n.toNat)).toList ++
    [("max_string_bytes", .word g.maxStringBytes.toNat), ("max_array_len", .word g.maxArrayLen.toNat),
     ("max_map_len", .word g.maxMapLen.toNat), ("max_call_depth", .word g.maxCallDepth.toNat),
     ("max_expr_depth", .word g.maxExprDepth.toNat), ("max_fn_expr_depth", .word g.maxFnExprDepth.toNat)]

/-- The settings of a policy but for its guards, in the order in which they are written. -/
def Policy.settings (p : Policy) : List (String × Setting) :=
  [("max_script_bytes", .word p.maxScriptBytes.toNat), ("timeout_ms", .word p.timeoutMs.toNat),
   ("max_console_lines", .word p.maxConsoleLines.toNat), ("max_line_chars", .word p.maxLineChars.toNat),
   ("max_samples", .word p.maxSamples.toNat), ("max_errors", .word p.maxErrors.toNat),
   ("identifier_field", .text p.identifierField)] ++
    ((p.trackedFields.map fun fs => ("tracked_fields", Setting.texts fs)).toList ++
      [("prefer_restricted", .flag p.preferRestricted)])

namespace Guards

private theorem guardSettings_eq (g : Guards) : Policy.guardSettings g = Policy.settingChars g.settings := by
  unfold Policy.guardSettings settings Policy.settingChars
  cases g.maxOperations <;> simp [Policy.valueChars, Policy.word]

/-- Guards some of whose settings, those of the given names, are taken from other guards. -/
def mix (g : Guards) (done : List String) : Guards where
  maxOperations := if "max_operations" ∈ done then g.maxOperations else standard.maxOperations
  maxStringBytes := if "max_string_bytes" ∈ done then g.maxStringBytes else standard.maxStringBytes
  maxArrayLen := if "max_array_len" ∈ done then g.maxArrayLen else standard.maxArrayLen
  maxMapLen := if "max_map_len" ∈ done then g.maxMapLen else standard.maxMapLen
  maxCallDepth := if "max_call_depth" ∈ done then g.maxCallDepth else standard.maxCallDepth
  maxExprDepth := if "max_expr_depth" ∈ done then g.maxExprDepth else standard.maxExprDepth
  maxFnExprDepth := if "max_fn_expr_depth" ∈ done then g.maxFnExprDepth else standard.maxFnExprDepth

private theorem set_mix {g : Guards} {s : String × Setting} (hs : s ∈ g.settings) {d : Datum} (hd : s.2.Is d)
    (done : List String) : (g.mix done).set s.1 d = .ok (g.mix (s.1 :: done)) := by
  simp only [settings, List.mem_append, Option.mem_toList, List.mem_cons, List.not_mem_nil, or_false] at hs
  rcases hs with hs | rfl | rfl | rfl | rfl | rfl | rfl
  · obtain ⟨n, hn, rfl⟩ := Option.map_eq_some_iff.1 hs
    obtain ⟨p, hp⟩ := hd
    have hword : d.asOption (Datum.asWord "u64") = .ok (some n) :=
      Datum.asOption_eq_some (fun q hq => by rw [hp] at hq; cases hq) (hp ▸ Datum.asWord_toNat "u64" p n)
    simp [set, mix, hword, hn, bind, Except.bind, pure, Except.pure]
  all_goals
    obtain ⟨p, hp⟩ := hd
    have hword : ∀ expected, d.asWord expected = .ok _ := fun expected => hp ▸ Datum.asWord_toNat expected p _
    simp [set, mix, hword, bind, Except.bind, pure, Except.pure]

private theorem mix_eq_self {g : Guards} {done : List String} (h : ∀ s ∈ g.settings, s.1 ∈ done) : g.mix done = g := by
  have hoperations :
      (if "max_operations" ∈ done then g.maxOperations else standard.maxOperations) = g.maxOperations := by
    cases hg : g.maxOperations with
    | none => exact ite_self _
    | some n => exact if_pos (h ("max_operations", .word n.toNat) (by simp [settings, hg]))
  simp only [settings, List.mem_append, List.mem_cons, List.not_mem_nil, or_false, or_imp, forall_and, forall_eq] at h
  obtain ⟨-, h₁, h₂, h₃, h₄, h₅, h₆⟩ := h
  simp only [mix, hoperations, if_pos h₁, if_pos h₂, if_pos h₃, if_pos h₄, if_pos h₅, if_pos h₆]

end Guards

/-- Settings taken one after the other, in any order. -/
private theorem Policy.foldlM_mix {σ : Type} {set : σ → String → Datum → Datum.Decoded σ} {mix : List String → σ}
    {fields : List (String × Datum)} (h : ∀ q ∈ fields, ∀ done, set (mix done) q.1 q.2 = .ok (mix (q.1 :: done))) :
    ∀ done, fields.foldlM (fun x q => set x q.1 q.2) (mix done) = .ok (mix ((Fields.keys fields).reverse ++ done)) := by
  induction fields with
  | nil => exact fun _ => rfl
  | cons q fields ih =>
    intro done
    rw [List.foldlM_cons, h q List.mem_cons_self]
    change fields.foldlM _ (mix (q.1 :: done)) = _
    rw [ih fun q hq => h q (List.mem_cons_of_mem _ hq), Fields.keys, Fields.keys, List.map_cons, List.reverse_cons,
      List.append_assoc, List.singleton_append]

private theorem Toml.exists_of_gives {ds : List (String × Datum)} {ss : List (String × Setting)}
    (h : List.Forall₂ Gives ds ss) :
    (∀ q ∈ ds, ∃ s ∈ ss, q.1 = s.1 ∧ s.2.Is q.2) ∧ Fields.keys ds = Fields.keys ss := by
  induction h with
  | nil => exact ⟨List.forall_mem_nil _, rfl⟩
  | @cons q s ds ss hq _ ih =>
    refine ⟨fun r hr => ?_, congrArg₂ List.cons hq.1 ih.2⟩
    rcases List.mem_cons.1 hr with rfl | hr
    · exact ⟨s, List.mem_cons_self, hq⟩
    · obtain ⟨s', hs', hgives⟩ := ih.1 r hr
      exact ⟨s', List.mem_cons_of_mem _ hs', hgives⟩

namespace Guards

theorem ofDatum_settings {g : Guards} {ds : List (String × Datum)} (h : List.Forall₂ Gives ds g.settings)
    (span : Span) :
    ofDatum (.map span (Fields.ofPairs ds)) = .ok g := by
  obtain ⟨hgives, hkeys⟩ := exists_of_gives h
  have hset : ∀ q ∈ Fields.ofPairs ds, ∀ done, (g.mix done).set q.1 q.2 = .ok (g.mix (q.1 :: done)) := by
    intro q hq done
    obtain ⟨s, hs, hname, his⟩ := hgives q (Fields.mem_of_mem_ofPairs hq)
    rw [hname]
    exact set_mix hs his done
  have hfold := Policy.foldlM_mix hset []
  have hself : g.mix ((Fields.keys (Fields.ofPairs ds)).reverse ++ []) = g := by
    refine mix_eq_self fun s hs => List.mem_append_left _ (List.mem_reverse.2 (Fields.mem_keys_ofPairs ?_))
    rw [hkeys]
    exact List.mem_map_of_mem hs
  rw [hself] at hfold
  have hstart : g.mix [] = standard := by simp [mix]
  rw [hstart] at hfold
  change ((Fields.ofPairs ds).foldlM (fun g q => g.set q.1 q.2) standard >>= fun g => _) = _
  rw [hfold]
  rfl

end Guards

namespace Policy

theorem toToml_eq (p : Policy) :
    p.toToml =
      String.ofList (settingChars p.settings ++ ("\n[guards]\n".toList ++ settingChars p.guards.settings)) := by
  unfold toToml settings settingChars
  rw [Guards.guardSettings_eq]
  cases p.trackedFields <;> simp [valueChars, word, settingChars]

/-- A policy some of whose settings, those of the given names, are taken from another policy. -/
def mix (p : Policy) (done : List String) : Policy where
  maxScriptBytes := if "max_script_bytes" ∈ done then p.maxScriptBytes else standard.maxScriptBytes
  timeoutMs := if "timeout_ms" ∈ done then p.timeoutMs else standard.timeoutMs
  maxConsoleLines := if "max_console_lines" ∈ done then p.maxConsoleLines else standard.maxConsoleLines
  maxLineChars := if "max_line_chars" ∈ done then p.maxLineChars else standard.maxLineChars
  maxSamples := if "max_samples" ∈ done then p.maxSamples else standard.maxSamples
  maxErrors := if "max_errors" ∈ done then p.maxErrors else standard.maxErrors
  identifierField := if "identifier_field" ∈ done then p.identifierField else standard.identifierField
  trackedFields := if "tracked_fields" ∈ done then p.trackedFields else standard.trackedFields
  preferRestricted := if "prefer_restricted" ∈ done then p.preferRestricted else standard.preferRestricted
  guards := if "guards" ∈ done then p.guards else standard.guards

private theorem set_mix {p : Policy} {s : String × Setting} (hs : s ∈ p.settings) {d : Datum} (hd : s.2.Is d)
    (done : List String) : (p.mix done).set s.1 d = .ok (p.mix (s.1 :: done)) := by
  simp only [settings, List.mem_append, Option.mem_toList, List.mem_cons, List.not_mem_nil, or_false] at hs
  rcases hs with (rfl | rfl | rfl | rfl | rfl | rfl | rfl) | hs | rfl
  case inl.inr.inr.inr.inr.inr.inr =>
    obtain ⟨q, rfl⟩ := hd
    simp [set, mix, Datum.asString, bind, Except.bind, pure, Except.pure]
  case inr.inl =>
    obtain ⟨fs, hfs, rfl⟩ := Option.map_eq_some_iff.1 hs
    obtain ⟨q, ds, hq, his⟩ := hd
    have hlist : d.asOption (Datum.asList Datum.asString) = .ok (some fs) :=
      Datum.asOption_eq_some (fun q' hq' => by rw [hq] at hq'; cases hq') (hq ▸ Datum.mapM_asString his)
    simp [set, mix, hlist, hfs, bind, Except.bind, pure, Except.pure]
  case inr.inr =>
    obtain ⟨q, rfl⟩ := hd
    simp [set, mix, Datum.asBool, bind, Except.bind, pure, Except.pure]
  all_goals
    obtain ⟨q, hq⟩ := hd
    have hword : ∀ expected, d.asWord expected = .ok _ := fun expected => hq ▸ Datum.asWord_toNat expected q _
    simp [set, mix, hword, bind, Except.bind, pure, Except.pure]

private theorem set_guards {p : Policy} {d : Datum} (hd : Guards.ofDatum d = .ok p.guards) (done : List String) :
    (p.mix done).set "guards" d = .ok (p.mix ("guards" :: done)) := by
  simp [set, mix, hd, bind, Except.bind, pure, Except.pure]

private theorem mix_eq_self {p : Policy} {done : List String} (hguards : "guards" ∈ done)
    (h : ∀ s ∈ p.settings, s.1 ∈ done) :
    p.mix done = p := by
  have htracked : (if "tracked_fields" ∈ done then p.trackedFields else standard.trackedFields) = p.trackedFields := by
    cases hp : p.trackedFields with
    | none => exact ite_self _
    | some fs => exact if_pos (h ("tracked_fields", .texts fs) (by simp [settings, hp]))
  simp only [settings, List.mem_append, List.mem_cons, List.not_mem_nil, or_false, or_imp, forall_and, forall_eq] at h
  obtain ⟨⟨h₁, h₂, h₃, h₄, h₅, h₆, h₇⟩, -, h₈⟩ := h
  simp only [mix, htracked, if_pos hguards, if_pos h₁, if_pos h₂, if_pos h₃, if_pos h₄, if_pos h₅, if_pos h₆, if_pos h₇,
    if_pos h₈]

/-- The settings of a policy may come in any order. -/
theorem ofDatum_of_gives {p : Policy} {d : Datum} (hd : Guards.ofDatum d = .ok p.guards) {ds : List (String × Datum)}
    {ss : List (String × Setting)} (h : List.Forall₂ Gives ds ss) (hss : ss.Perm p.settings) (span : Span) :
    ofDatum (.map span (Fields.insert "guards" d (Fields.ofPairs ds))) = .ok p := by
  obtain ⟨hgives, hkeys⟩ := exists_of_gives h
  have hset : ∀ q ∈ Fields.insert "guards" d (Fields.ofPairs ds), ∀ done,
      (p.mix done).set q.1 q.2 = .ok (p.mix (q.1 :: done)) := by
    intro q hq done
    rcases Fields.mem_insert hq with rfl | hq
    · exact set_guards hd done
    · obtain ⟨s, hs, hname, his⟩ := hgives q (Fields.mem_of_mem_ofPairs hq)
      rw [hname]
      exact set_mix (hss.subset hs) his done
  have hfold := foldlM_mix hset []
  have hself : p.mix ((Fields.keys (Fields.insert "guards" d (Fields.ofPairs ds))).reverse ++ []) = p := by
    refine mix_eq_self ?_ fun s hs => ?_
    · exact List.mem_append_left _ (List.mem_reverse.2 (Fields.mem_keys_insert (.inl rfl)))
    · refine List.mem_append_left _ (List.mem_reverse.2 (Fields.mem_keys_insert (.inr (Fields.mem_keys_ofPairs ?_))))
      rw [hkeys]
      exact List.mem_map_of_mem (hss.mem_iff.2 hs)
  have hstart : p.mix [] = standard := by simp [mix]
  rw [hself, hstart] at hfold
  change ((Fields.insert "guards" d (Fields.ofPairs ds)).foldlM (fun p q => p.set q.1 q.2) standard >>= fun p => _) = _
  rw [hfold]
  rfl

private theorem ofDatum_settings {p : Policy} {d : Datum} (hd : Guards.ofDatum d = .ok p.guards)
    {ds : List (String × Datum)} (h : List.Forall₂ Gives ds p.settings) (span : Span) :
    ofDatum (.map span (Fields.insert "guards" d (Fields.ofPairs ds))) = .ok p :=
  ofDatum_of_gives hd h (.refl _) span

/-! ### Settings files -/

/-- Settings with different names that need no quotes, from a list of such names. -/
theorem wellNamed {ss : List (String × Setting)} {names : List String} (h : (Fields.keys ss).Sublist names)
    (hbare : ∀ name ∈ names, IsBare name) (hdistinct : names.Pairwise (· ≠ ·)) :
    (∀ s ∈ ss, IsBare s.1) ∧ ss.Pairwise (·.1 ≠ ·.1) :=
  ⟨fun _ hs => hbare _ (h.subset (List.mem_map_of_mem hs)), List.pairwise_map.1 (hdistinct.sublist h)⟩

theorem keys_settings (p : Policy) : (Fields.keys p.settings).Sublist fieldNames.dropLast := by
  have hfirst := List.Sublist.refl (fieldNames.take 7)
  unfold settings Fields.keys
  cases p.trackedFields with
  | none => exact hfirst.append (.cons _ (.refl _))
  | some fs => exact hfirst.append (.refl _)

theorem keys_guards (g : Guards) : (Fields.keys g.settings).Sublist Guards.fieldNames := by
  unfold Guards.settings Fields.keys
  cases g.maxOperations with
  | none => exact .cons _ (.refl _)
  | some n => exact .refl _

/-- A usable policy is read back from its settings file. -/
theorem ofToml_toToml {p : Policy} (h : p.validate = .ok ()) : ofToml p.toToml = .ok p := by
  obtain ⟨hbare, hdistinct⟩ := wellNamed p.keys_settings (by decide) (by decide)
  obtain ⟨hbare', hdistinct'⟩ := wellNamed (keys_guards p.guards) (by decide) (by decide)
  have hname : ∀ s ∈ p.settings, s.1 ≠ "guards" := by
    intro s hs heq
    have hmem := p.keys_settings.subset (List.mem_map_of_mem (f := Prod.fst) hs)
    rw [heq] at hmem
    exact absurd hmem (by decide)
  obtain ⟨ps, hps, hwrites⟩ := exists_writes hbare
  obtain ⟨qs, hqs, hwrites'⟩ := exists_writes hbare'
  have htext : p.toToml = String.ofList (textOf (documentPieces "guards" ps qs)) := by
    rw [toToml_eq, documentPieces, textOf_append, textOf_append, hps, hqs]
    rfl
  obtain ⟨span, span', ds, ds', hds, hds', hread⟩ := read_document hwrites hwrites' (by decide) hdistinct hname
    hdistinct'
  have hdecoded : (Toml.read p.toToml >>= ofDatum) = .ok p := by
    rw [htext, hread]
    exact ofDatum_settings (Guards.ofDatum_settings hds' span') hds span
  unfold ofToml
  rw [hdecoded]
  dsimp only
  rw [h]

/-- Names with quotes of both kinds, a line end and a control character, and a number of all 64 bits. -/
def oddPolicy : Policy :=
  { standard with
    identifierField := "it's \"x\"\n\u0001é", trackedFields := some ["''' \"\"\"", "a\\b\t"],
    timeoutMs := 0xFFFFFFFFFFFFFFFF,
    guards := { Guards.standard with maxOperations := some 0 } }

theorem ofToml_toToml_of_odd : oddPolicy.validate = .ok () ∧ ofToml oddPolicy.toToml = .ok oddPolicy := by
  have hvalid : oddPolicy.validate = .ok () := by decide +kernel
  exact ⟨hvalid, ofToml_toToml hvalid⟩

end Policy

end Sandscript
