import Sandscript.Command.Execution
import Sandscript.Proofs.Policy.RoundTrip
import Sandscript.Proofs.Text.Trimming

/-!
# Printed policies

A policy is printed as its settings file under two comments, the first of which names the file that it came from.  The
printed text is read as the same policy as long as the path of this file is a comment (`ofToml_printed_iff`).  A
setting on a line of its own in the path is read as a setting (`ofToml_printed_of_injected`).
-/

namespace Sandscript

open Toml

namespace Policy

/-! ### Settings files among remarks -/

private theorem named_settings (p : Policy) : (∀ s ∈ p.settings, IsBare s.1) ∧ p.settings.Pairwise (·.1 ≠ ·.1) :=
  wellNamed p.keys_settings (by decide) (by decide)

private theorem named_guards (g : Guards) : (∀ s ∈ g.settings, IsBare s.1) ∧ g.settings.Pairwise (·.1 ≠ ·.1) :=
  wellNamed (keys_guards g) (by decide) (by decide)

private theorem exists_document (p : Policy) : ∃ ps qs, p.toToml.toList = textOf (documentPieces "guards" ps qs) ∧
    Writes p.settings ps ∧ Writes p.guards.settings qs := by
  obtain ⟨ps, hps, hwrites⟩ := exists_writes p.named_settings.1
  obtain ⟨qs, hqs, hwrites'⟩ := exists_writes (named_guards p.guards).1
  refine ⟨ps, qs, ?_, hwrites, hwrites'⟩
  rw [toToml_eq, String.toList_ofList, documentPieces, textOf_append, textOf_append, hps, hqs]
  rfl

/-- A settings file is read as it is if remarks stand in front of it and behind it, and with further settings if these
stand in front of it too. -/
private theorem ofToml_of_framed {p p' : Policy} (hvalid : p'.validate = .ok ()) (hguards : p'.guards = p.guards)
    {ss₀ : List (String × Setting)} {ps₀ front mid back : List Piece} (hps₀ : Writes ss₀ ps₀)
    (hsettings : (ss₀ ++ p.settings).Perm p'.settings) (hfront : Passed front) (hmid : Passed mid)
    (hback : Passed back) {text : String}
    (htext : text.toList = textOf front ++ (textOf ps₀ ++ (textOf mid ++ (p.toToml.toList ++ textOf back))))
    (hstart : ∀ c ∈ text.toList.head?, c.toNat ≠ 0xFEFF) : ofToml text = .ok p' := by
  obtain ⟨ps, qs, htoToml, hwrites, hwrites'⟩ := p.exists_document
  have hdistinct : (ss₀ ++ p.settings).Pairwise (·.1 ≠ ·.1) :=
    (hsettings.pairwise_iff fun h => Ne.symm h).2 p'.named_settings.2
  have hname : ∀ s ∈ ss₀ ++ p.settings, s.1 ≠ "guards" := by
    intro s hs heq
    have hmem := p'.keys_settings.subset (List.mem_map_of_mem (f := Prod.fst) (hsettings.subset hs))
    rw [heq] at hmem
    exact absurd hmem (by decide)
  have hpieces : text.toList = textOf (front ++ (ps₀ ++ (mid ++ (documentPieces "guards" ps qs ++ back)))) := by
    rw [htext, htoToml]
    simp only [textOf_append]
  rw [hpieces] at hstart
  obtain ⟨span, span', ds, ds', hds, hds', hread⟩ := read_framed hwrites hwrites' (by decide) hps₀ hfront hmid hback
    hstart hdistinct hname (named_guards p.guards).2
  rw [← hpieces, String.ofList_toList] at hread
  have hdecoded : (Toml.read text >>= ofDatum) = .ok p' := by
    rw [hread]
    exact ofDatum_of_gives (hguards ▸ Guards.ofDatum_settings hds' span') hds hsettings span
  unfold ofToml
  rw [hdecoded]
  dsimp only
  rw [hvalid]

private theorem head?_toToml (p : Policy) : ∀ c ∈ p.toToml.toList.head?, c.toNat ≠ 0xFEFF := by
  obtain ⟨ps, qs, htoToml, hwrites, -⟩ := p.exists_document
  rw [htoToml, documentPieces, textOf_append]
  exact hwrites.head_ne_mark _

private theorem ofToml_unframed {p : Policy} (hvalid : p.validate = .ok ()) : ofToml p.toToml = .ok p :=
  ofToml_of_framed hvalid rfl .nil (.refl _) passed_nil passed_nil passed_nil (by simp) p.head?_toToml

end Policy

namespace PolicyReport

/-! ### Headers -/

/-- The lines of the origin of a policy. -/
def originLines (r : PolicyReport) : List (List Char) := r.origin.text.toList.splitOn '\n'

/-- The comment that names the backend. -/
def backendLine (r : PolicyReport) : List Char := "# backend: ".toList ++ r.policy.backend.name.toList

/-- The lines in front of the settings of a printed policy. -/
def headerLines (r : PolicyReport) : List (List Char) :=
  r.originLines.modifyHead ("# source: ".toList ++ ·) ++ [r.backendLine]

private theorem exists_headerLines (r : PolicyReport) : ∃ first others, r.originLines = first :: others ∧
    r.headerLines = ("# source: ".toList ++ first) :: (others ++ [r.backendLine]) := by
  obtain ⟨first, others, hlines⟩ := List.exists_cons_of_ne_nil (List.splitOn_ne_nil '\n' r.origin.text.toList)
  exact ⟨first, others, hlines, by rw [headerLines, originLines, hlines]; rfl⟩

private theorem out_policy (r : PolicyReport) : (Command.policy r .text).out = r.settings ++ "\n" := rfl

private theorem toList_printed (r : PolicyReport) : (Command.policy r .text).out.toList =
    r.headerLines.flatMap (· ++ ['\n']) ++ (r.policy.toToml.toList ++ ['\n']) := by
  obtain ⟨first, others, hlines, hheader⟩ := r.exists_headerLines
  have horigin : first ++ ['\n'] ++ others.flatMap (· ++ ['\n']) = r.origin.text.toList ++ ['\n'] := by
    rw [← Text.flatMap_splitOn '\n' r.origin.text.toList, ← originLines, hlines, List.flatMap_cons]
  have hsplit : r.headerLines.flatMap (· ++ ['\n']) =
      "# source: ".toList ++ (first ++ ['\n'] ++ others.flatMap (· ++ ['\n'])) ++ (r.backendLine ++ ['\n']) := by
    simp only [hheader, List.flatMap_cons, List.flatMap_append, List.flatMap_nil, List.append_assoc, List.append_nil]
  have hbackend : "\n# backend: ".toList = '\n' :: "# backend: ".toList := rfl
  have hfeed : "\n".toList = ['\n'] := rfl
  rw [hsplit, horigin, out_policy]
  unfold settings backendLine
  simp only [String.toList_append, hbackend, hfeed, List.append_assoc, List.cons_append, List.nil_append]

private theorem isRemark_of_mem_headerLines {r : PolicyReport} (h : ∀ l ∈ r.originLines.tail, IsRemark l) :
    ∀ l ∈ r.headerLines, IsRemark l := by
  obtain ⟨first, others, hlines, hheader⟩ := r.exists_headerLines
  rw [hlines, List.tail_cons] at h
  have hcomment : ∀ cs, IsRemark ('#' :: cs) := fun cs => .inr (.inr rfl)
  rw [hheader]
  exact List.forall_mem_cons.2 ⟨hcomment _, List.forall_mem_append.2 ⟨h, List.forall_mem_singleton.2 (hcomment _)⟩⟩

private theorem newline_notMem_of_mem_headerLines {r : PolicyReport} : ∀ l ∈ r.headerLines, '\n' ∉ l := by
  obtain ⟨first, others, hlines, hheader⟩ := r.exists_headerLines
  have horigin : ∀ l ∈ first :: others, '\n' ∉ l := fun l hl => Text.notMem_of_mem_splitOn (hlines ▸ hl)
  obtain ⟨hfirst, hothers⟩ := List.forall_mem_cons.1 horigin
  have hsource : '\n' ∉ "# source: ".toList := by decide
  have hbackend : '\n' ∉ r.backendLine := by
    unfold backendLine
    cases r.policy.backend <;> decide
  rw [hheader]
  exact List.forall_mem_cons.2 ⟨fun hmem => (List.mem_append.1 hmem).elim hsource hfirst,
    List.forall_mem_append.2 ⟨hothers, List.forall_mem_singleton.2 hbackend⟩⟩

private theorem isPrintable_source_append {l : List Char} : IsPrintable ("# source: ".toList ++ l) ↔ IsPrintable l := by
  have hreturn : '\r' ∉ "# source: ".toList := by decide
  have hsource : IsPrintable "# source: ".toList := by decide
  rw [IsPrintable, lineBody_append hreturn, List.forall_mem_append]
  exact and_iff_right hsource

private theorem isPrintable_backendLine (r : PolicyReport) : IsPrintable r.backendLine := by
  unfold backendLine
  cases r.policy.backend <;> decide

private theorem isPrintable_headerLines_iff {r : PolicyReport} :
    (∀ l ∈ r.headerLines, IsPrintable l) ↔ ∀ l ∈ r.originLines, IsPrintable l := by
  obtain ⟨first, others, hlines, hheader⟩ := r.exists_headerLines
  rw [hheader, hlines, List.forall_mem_cons, List.forall_mem_cons, List.forall_mem_append, List.forall_mem_singleton,
    isPrintable_source_append]
  exact and_congr_right fun _ => and_iff_left r.isPrintable_backendLine

/-! ### Reading a printed policy -/

private theorem head?_printed (r : PolicyReport) :
    ∀ c ∈ (Command.policy r .text).out.toList.head?, c.toNat ≠ 0xFEFF := by
  obtain ⟨first, others, -, hheader⟩ := r.exists_headerLines
  rw [toList_printed, hheader]
  rintro c ⟨⟩
  decide

/-- A printed policy whose origin is a comment is read as the policy exactly if no line of this comment holds what no
comment may contain. -/
theorem ofToml_printed_iff {r : PolicyReport} (hvalid : r.policy.validate = .ok ())
    (h : ∀ l ∈ r.originLines.tail, IsRemark l) :
    Policy.ofToml (Command.policy r .text).out = Policy.ofToml r.policy.toToml ↔
      ∀ l ∈ r.originLines, IsPrintable l := by
  rw [Policy.ofToml_unframed hvalid]
  constructor
  · intro heq
    by_contra hunprintable
    rw [← isPrintable_headerLines_iff] at hunprintable
    have hunsound := startsUnsound_of_remarks (isRemark_of_mem_headerLines h) newline_notMem_of_mem_headerLines
      hunprintable (r.policy.toToml.toList ++ ['\n'])
    rw [← toList_printed] at hunsound
    obtain ⟨e, he⟩ := lines_of_startsUnsound hunsound r.head?_printed
    have hread : Toml.read (Command.policy r .text).out = .error e := by
      unfold Toml.read
      dsimp only
      rw [he]
      rfl
    unfold Policy.ofToml at heq
    rw [hread] at heq
    cases heq
  · intro hprintable
    obtain ⟨front, hfront, hpassed⟩ := exists_remarks (isRemark_of_mem_headerLines h)
      (isPrintable_headerLines_iff.2 hprintable)
    refine Policy.ofToml_of_framed hvalid rfl .nil (.refl _) hpassed passed_nil passed_feed ?_ r.head?_printed
    rw [toList_printed, ← hfront]
    simp

/-- A path with blanks, quotes and a further line that is a comment. -/
theorem ofToml_printed_iff_of_path :
    Policy.standard.validate = .ok () ∧
      (∀ l ∈ (originLines ⟨.file "my \"policy\" # 1\n# of 2.toml", .standard⟩).tail, IsRemark l) ∧
      Policy.ofToml (Command.policy ⟨.file "my \"policy\" # 1\n# of 2.toml", .standard⟩ .text).out =
        Policy.ofToml Policy.standard.toToml := by
  have hvalid : Policy.standard.validate = .ok () := rfl
  have hremarks : ∀ l ∈ (originLines ⟨.file "my \"policy\" # 1\n# of 2.toml", .standard⟩).tail, IsRemark l := by decide
  exact ⟨hvalid, hremarks, (ofToml_printed_iff hvalid hremarks).2 (by decide)⟩

private theorem validate_trackedFields {p : Policy} (h : p.validate = .ok ()) {fields : List String}
    (hfields : fields.any Text.isBlank = false) : { p with trackedFields := some fields }.validate = .ok () := by
  have hpositive : { p with trackedFields := some fields }.positiveSettings = p.positiveSettings := rfl
  unfold Policy.validate at h ⊢
  rw [hpositive]
  cases hzero : p.positiveSettings.find? (·.2 == 0) with
  | some s =>
    rw [hzero] at h
    cases h
  | none =>
    rw [hzero] at h
    dsimp only at h ⊢
    split at h
    · cases h
    · rename_i hidentifier
      rw [if_neg hidentifier, Option.getD_some, if_neg (by rw [hfields]; exact Bool.false_ne_true)]

/-- What stands on a line of its own in the path of a policy is read as a setting. -/
theorem ofToml_printed_of_injected {p : Policy} (hvalid : p.validate = .ok ()) (hnone : p.trackedFields = none)
    {first : String} (hfirst : IsPrintable first.toList) {fields : List String}
    (hfields : fields.any Text.isBlank = false) {path : String}
    (hpath : path.toList = first.toList ++ '\n' :: ("tracked_fields = ".toList ++ Policy.stringList fields)) :
    Policy.ofToml (Command.policy ⟨.file path, p⟩ .text).out = .ok { p with trackedFields := some fields } := by
  obtain ⟨front, hfront, hpassed⟩ := exists_passed (.inr (.inr rfl)) (isPrintable_source_append.2 hfirst)
  obtain ⟨mid, hmid, hpassed'⟩ := exists_passed (.inr (.inr rfl)) (isPrintable_backendLine ⟨.file path, p⟩)
  obtain ⟨ps₀, hps₀, hwrites⟩ := Policy.exists_writes
    (List.forall_mem_singleton.2 (by decide : IsBare "tracked_fields") :
      ∀ s ∈ [("tracked_fields", Setting.texts fields)], IsBare s.1)
  have hsettings : ([("tracked_fields", Setting.texts fields)] ++ p.settings).Perm
      { p with trackedFields := some fields }.settings := by
    unfold Policy.settings
    rw [hnone]
    simp only [Option.map_none, Option.toList_none, Option.map_some, Option.toList_some, List.nil_append,
      List.singleton_append]
    exact List.perm_middle.symm
  refine Policy.ofToml_of_framed (p := p) (validate_trackedFields hvalid hfields) rfl hwrites hsettings hpassed
    hpassed' passed_feed ?_ (head?_printed _)
  have hbackend : "\n# backend: ".toList = '\n' :: "# backend: ".toList := rfl
  have hfeed : "\n".toList = ['\n'] := rfl
  have htracked : "tracked_fields = ".toList = "tracked_fields".toList ++ " = ".toList := rfl
  rw [hfront, hmid, hps₀, out_policy]
  unfold settings backendLine
  simp only [Policy.settingChars, Policy.setting, Policy.valueChars, PolicyOrigin.text, String.toList_append, hbackend,
    hfeed, hpath, htracked, List.flatMap_singleton, textOf_cons, textOf_nil, List.append_assoc, List.cons_append,
    List.nil_append, List.append_nil]

/-- Behind a line feed in its path, the settings of a printed policy are no longer those of the policy. -/
theorem printed_policy_changed :
    Policy.standard.validate = .ok () ∧
      Policy.ofToml (Command.policy ⟨.file "p\ntracked_fields = [\"x\"]", .standard⟩ .text).out ≠
        Policy.ofToml Policy.standard.toToml := by
  have hvalid : Policy.standard.validate = .ok () := rfl
  have hprinted : Policy.ofToml (Command.policy ⟨.file "p\ntracked_fields = [\"x\"]", .standard⟩ .text).out =
      .ok { Policy.standard with trackedFields := some ["x"] } :=
    ofToml_printed_of_injected hvalid rfl (by decide : IsPrintable "p".toList) (by decide) (by decide)
  refine ⟨hvalid, fun heq => ?_⟩
  rw [hprinted, Policy.ofToml_unframed hvalid] at heq
  cases heq

end PolicyReport

end Sandscript
