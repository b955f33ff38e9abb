import Sandscript.Proofs.Fields
import Sandscript.Proofs.Toml.Remarks

/-!
# Tables of settings

Settings with different names are entered one after the other, into the document itself or into the table whose header
was read last (`Context`).  A document of settings and one table of further settings is read as the data of the
settings (`read_document`).
-/

namespace Sandscript

namespace Toml

/-- Enters nodes one after the other. -/
def enter (es : Entries) (ns : List (String × Node)) : Entries := ns.foldl (fun es p => Fields.insert p.1 p.2 es) es

private theorem datumsOfEntries_eq_map (es : Entries) :
    datumsOfEntries es = es.map fun p => (p.1, datumOfNode p.2) := by
  induction es with
  | nil => rfl
  | cons p es ih =>
    obtain ⟨k, n⟩ := p
    rw [datumsOfEntries, ih, List.map_cons]

private theorem datumsOfEntries_insert (key : String) (n : Node) (es : Entries) :
    datumsOfEntries (Fields.insert key n es) = Fields.insert key (datumOfNode n) (datumsOfEntries es) := by
  rw [datumsOfEntries_eq_map, datumsOfEntries_eq_map, Fields.map_insert]

private theorem datumsOfEntries_enter (ns : List (String × Node)) :
    datumsOfEntries (enter [] ns) = Fields.ofPairs (ns.map fun p => (p.1, datumOfNode p.2)) := by
  have hfold : ∀ (ns : List (String × Node)) (es : Entries), datumsOfEntries (enter es ns) =
      (ns.map fun p => (p.1, datumOfNode p.2)).foldl (fun fs p => Fields.insert p.1 p.2 fs) (datumsOfEntries es) := by
    intro ns
    induction ns with
    | nil => exact fun _ => rfl
    | cons n ns ih =>
      intro es
      rw [enter, List.foldl_cons, List.map_cons, List.foldl_cons, ← datumsOfEntries_insert]
      exact ih _
  exact hfold ns []

/-! ### Open tables -/

/-- Entries that stand at `current` in a document, the rest of which is `wrap`. -/
def Context (current : List (String × Span)) (wrap : Entries → Entries) : Prop :=
  ∀ (f : Entries → Except DecodeError Entries) (es : Entries), changeAt f current (wrap es) = (f es).map wrap

private theorem context_document : Context [] id := by
  intro f es
  change f es = (f es).map id
  cases f es <;> rfl

private theorem context_table (name : String) (p : Span) (origin : Origin) (span : Span) (es : Entries) :
    Context [(name, p)] fun inner => Fields.insert name (.table origin span inner) es := by
  intro f inner
  unfold changeAt
  rw [Fields.get?_insert_self]
  change (f inner >>= fun inner' => .ok (Fields.insert name (Node.table origin span inner') _)) = _
  cases f inner with
  | error e => rfl
  | ok inner' => exact congrArg Except.ok (Fields.insert_insert ..)

/-- A node is the value of a setting under its name. -/
def Enters (p : String × Node) (s : String × Setting) : Prop := ∃ kind d, p = (s.1, .leaf kind d) ∧ s.2.Is d

private theorem build_settings {current : List (String × Span)} {wrap : Entries → Entries}
    (hcontext : Context current wrap)
    {ls : List Line} {ss : List (String × Setting)} (hls : List.Forall₂ Line.Sets ls ss) :
    ∀ es : Entries, (∀ s ∈ ss, Fields.get? s.1 es = none) → ss.Pairwise (·.1 ≠ ·.1) → ∃ ns, List.Forall₂ Enters ns ss ∧
      ∀ rest, build (ls ++ rest) current (wrap es) = build rest current (wrap (enter es ns)) := by
  induction hls with
  | nil => exact fun _ _ _ => ⟨[], .nil, fun _ => rfl⟩
  | @cons l s ls ss hl _ ih =>
    intro es hfresh hdistinct
    obtain ⟨k, t, d, rfl, hkey, hdatum, his⟩ := hl
    obtain ⟨hfirst, hothers⟩ := List.pairwise_cons.1 hdistinct
    obtain ⟨ns, hns, hbuild⟩ := ih (Fields.insert s.1 (.leaf (kindOf t d) d) es) (fun s' hs' => by
      rw [Fields.get?_insert_of_ne (hfirst s' hs')]
      exact hfresh s' (List.mem_cons_of_mem _ hs')) hothers
    refine ⟨(s.1, .leaf (kindOf t d) d) :: ns, .cons ⟨_, d, rfl, his⟩ hns, fun rest => ?_⟩
    have hassign : assign (kindOf t d) d [(s.1, k.span)] es = .ok (Fields.insert s.1 (.leaf (kindOf t d) d) es) := by
      unfold assign
      rw [Fields.contains, hfresh s List.mem_cons_self]
      rfl
    have hkeys : keysOf [k] = .ok [(s.1, k.span)] := by
      unfold keysOf
      rw [hkey]
      rfl
    rw [List.cons_append, build, hkeys, hdatum]
    change (changeAt (assign (kindOf t d) d [(s.1, k.span)]) current (wrap es) >>= fun es =>
      build (ls ++ rest) current es) = _
    rw [hcontext, hassign]
    exact hbuild rest

/-! ### Documents -/

/-- A datum is the value of a setting under its name. -/
def Gives (p : String × Datum) (s : String × Setting) : Prop := p.1 = s.1 ∧ s.2.Is p.2

private theorem gives_of_enters {ns : List (String × Node)} {ss : List (String × Setting)}
    (h : List.Forall₂ Enters ns ss) :
    List.Forall₂ Gives (ns.map fun p => (p.1, datumOfNode p.2)) ss := by
  induction h with
  | nil => exact .nil
  | cons hn _ ih =>
    obtain ⟨kind, d, rfl, his⟩ := hn
    exact .cons ⟨rfl, his⟩ ih

private theorem get?_enter {ns : List (String × Node)} {ss : List (String × Setting)} (h : List.Forall₂ Enters ns ss)
    {name : String} (hname : ∀ s ∈ ss, s.1 ≠ name) {es : Entries} (hes : Fields.get? name es = none) :
    Fields.get? name (enter es ns) = none := by
  induction h generalizing es with
  | nil => exact hes
  | @cons n s ns ss hn _ ih =>
    obtain ⟨kind, d, rfl, -⟩ := hn
    refine ih (fun s hs => hname s (List.mem_cons_of_mem _ hs)) ?_
    rw [Fields.get?_insert_of_ne (hname s List.mem_cons_self)]
    exact hes

private theorem build_document {ls ls' : List Line} {ss ss' : List (String × Setting)}
    (hls : List.Forall₂ Line.Sets ls ss)
    (hls' : List.Forall₂ Line.Sets ls' ss') {name : String} {span : Span} {k : Written} (hkey : k.key = .ok name)
    (hdistinct : ss.Pairwise (·.1 ≠ ·.1)) (hname : ∀ s ∈ ss, s.1 ≠ name) (hdistinct' : ss'.Pairwise (·.1 ≠ ·.1)) :
    ∃ ns ns', List.Forall₂ Enters ns ss ∧ List.Forall₂ Enters ns' ss' ∧
      build (ls ++ .header false span [k] :: ls') [] [] =
        .ok (Fields.insert name (.table .header span (enter [] ns')) (enter [] ns)) := by
  obtain ⟨ns, hns, hbuild⟩ := build_settings context_document hls [] (fun _ _ => rfl) hdistinct
  obtain ⟨ns', hns', hbuild'⟩ := build_settings (context_table name k.span .header span (enter [] ns)) hls' []
    (fun _ _ => rfl) hdistinct'
  have hkeys : keysOf [k] = .ok [(name, k.span)] := by
    unfold keysOf
    rw [hkey]
    rfl
  have hopen : openTable false span [(name, k.span)] (enter [] ns) =
      .ok (Fields.insert name (.table .header span []) (enter [] ns)) := by
    unfold openTable
    rw [get?_enter hns hname rfl]
    rfl
  refine ⟨ns, ns', hns, hns', ?_⟩
  have hstart := hbuild (.header false span [k] :: ls')
  simp only [id] at hstart
  rw [hstart, build, hkeys]
  change (openTable false span [(name, k.span)] (enter [] ns) >>= fun es => build ls' [(name, k.span)] es) = _
  rw [hopen]
  change build ls' [(name, k.span)] _ = _
  have hend := hbuild' []
  rw [List.append_nil] at hend
  rw [hend]
  rfl

private theorem Writes.length_le {ss : List (String × Setting)} {ps : List Piece} (h : Writes ss ps) :
    ss.length ≤ ps.length := by
  induction h with
  | nil => exact Nat.le_refl _
  | cons _ _ _ ih =>
    simp only [linePieces, List.length_cons, List.length_append]
    omega

theorem Writes.head_ne_mark {ss : List (String × Setting)} {ps : List Piece} (h : Writes ss ps) (more : List Char) :
    ∀ c ∈ (textOf ps ++ '\n' :: more).head?, c.toNat ≠ 0xFEFF := by
  intro c hc
  cases h with
  | nil =>
    cases hc
    decide
  | @cons name v ss ps qs hname hv rest =>
    obtain ⟨x, xs, hcons⟩ := List.exists_cons_of_ne_nil hname.1
    rw [linePieces, List.cons_append, textOf_cons, hcons] at hc
    cases hc
    intro hmark
    have hword := hname.2 c (hcons ▸ List.mem_cons_self)
    rw [← Char.ofNat_toNat c, hmark] at hword
    exact absurd hword (by decide)

/-- The pieces of a document: settings, and a table of further settings. -/
def documentPieces (name : String) (ps qs : List Piece) : List Piece := ps ++ (headerPieces name ++ qs)

section

variable {ss₀ ss ss' : List (String × Setting)} {ps₀ ps qs : List Piece} {name : String} (hps : Writes ss ps)
  (hqs : Writes ss' qs) (hbare : IsBare name)
include hps hqs hbare

private theorem readLines_document (eof start fuel : Nat) (hps' : ps.length < fuel + ss'.length + 2)
    (hqs' : qs.length < fuel)
    {back : List Piece} (hback : Remarks back) (read : List Line) : ∃ ls ls' span k, List.Forall₂ Line.Sets ls ss ∧
      List.Forall₂ Line.Sets ls' ss' ∧ Written.key k = .ok name ∧
      readLines eof (fuel + ss'.length + 2 + ss.length) read (place start (documentPieces name ps qs ++ back)) =
        .ok (read.reverse ++ (ls ++ .header false span [k] :: ls')) := by
  have hplace : place start (documentPieces name ps qs ++ back) = place start ps ++
      (place (start + (textOf ps).length) (headerPieces name) ++
        (place (start + (textOf ps).length + (textOf (headerPieces name)).length) qs ++
          place (start + (textOf ps).length + (textOf (headerPieces name)).length + (textOf qs).length) back)) := by
    rw [documentPieces, List.append_assoc, List.append_assoc, place_append, place_append, place_append]
  obtain ⟨ls, hls, hread⟩ := readLines_settings hps eof hps' (place (start + (textOf ps).length) (headerPieces name) ++
    (place (start + (textOf ps).length + (textOf (headerPieces name)).length) qs ++
      place (start + (textOf ps).length + (textOf (headerPieces name)).length + (textOf qs).length) back)) start read
  obtain ⟨span, k, hkey, hheader⟩ := readLines_header hbare eof (start + (textOf ps).length) (fuel + ss'.length)
    (ls.reverse ++ read) (place (start + (textOf ps).length + (textOf (headerPieces name)).length) qs ++
      place (start + (textOf ps).length + (textOf (headerPieces name)).length + (textOf qs).length) back)
  obtain ⟨ls', hls', hread'⟩ := readLines_settings hqs eof hqs'
    (place (start + (textOf ps).length + (textOf (headerPieces name)).length + (textOf qs).length) back)
    (start + (textOf ps).length + (textOf (headerPieces name)).length) (.header false span [k] :: (ls.reverse ++ read))
  refine ⟨ls, ls', span, k, hls, hls', hkey, ?_⟩
  rw [hplace, hread, hheader, hread', readLines_end hback]
  simp only [List.reverse_append, List.reverse_cons, List.reverse_reverse, List.append_assoc, List.singleton_append]

variable (hps₀ : Writes ss₀ ps₀) {front mid back : List Piece} (hfront : Passed front) (hmid : Passed mid)
  (hback : Passed back)
include hps₀ hfront hmid hback

/-- Remarks may stand in front of a document and behind it, and further settings between remarks in front of it. -/
private theorem lines_document
    (hstart : ∀ c ∈ (textOf (front ++ (ps₀ ++ (mid ++ (documentPieces name ps qs ++ back))))).head?, c.toNat ≠ 0xFEFF) :
    ∃ ls ls' span k, List.Forall₂ Line.Sets ls (ss₀ ++ ss) ∧ List.Forall₂ Line.Sets ls' ss' ∧ Written.key k = .ok name ∧
      lines (textOf (front ++ (ps₀ ++ (mid ++ (documentPieces name ps qs ++ back))))) =
        .ok (ls ++ .header false span [k] :: ls') := by
  have hcuts : Cuts (front ++ (ps₀ ++ (mid ++ (documentPieces name ps qs ++ back)))) [] := by
    rw [documentPieces]
    exact (hfront.cuts _).append ((hps₀.cuts _).append ((hmid.cuts _).append
      (((hps.cuts _).append ((cuts_header hbare _).append (hqs.cuts _))).append (hback.cuts _))))
  have hcalm : Calm (documentPieces name ps qs) := calm_append hps.calm (calm_append (calm_header name) hqs.calm)
  have hsound : Sound (front ++ (ps₀ ++ (mid ++ (documentPieces name ps qs ++ back)))) :=
    hfront.sound.append (hps₀.calm.sound.append (hmid.sound.append (hcalm.sound.append hback.sound)))
  -- every line has several pieces, and so there is fuel left for each of them behind the others
  obtain ⟨fuel, hfuel, hps₀', hps', hqs'⟩ : ∃ fuel,
      2 * (front ++ (ps₀ ++ (mid ++ (documentPieces name ps qs ++ back)))).length + 2 =
        fuel + ss'.length + 2 + ss.length + mid.length + ss₀.length + front.length ∧
      ps₀.length < fuel + ss'.length + 2 + ss.length + mid.length ∧ ps.length < fuel + ss'.length + 2 ∧
      qs.length < fuel := by
    have hle₀ := hps₀.length_le
    have hle := hps.length_le
    have hle' := hqs.length_le
    have hheader : (headerPieces name).length = 5 := rfl
    refine ⟨2 * (front ++ (ps₀ ++ (mid ++ (documentPieces name ps qs ++ back)))).length + 2 - front.length -
      ss₀.length - mid.length - ss.length - 2 - ss'.length, ?_⟩
    simp only [documentPieces, List.length_append, hheader]
    omega
  rw [lines_of_cuts hcuts hsound hstart, hfuel]
  generalize (textOf (front ++ (ps₀ ++ (mid ++ (documentPieces name ps qs ++ back))))).length = eof
  rw [place_append, place_append, place_append, readLines_remarks hfront.remarks]
  obtain ⟨ls₀, hls₀, hread₀⟩ := readLines_settings hps₀ eof hps₀'
    (place (0 + (textOf front).length + (textOf ps₀).length) mid ++
      place (0 + (textOf front).length + (textOf ps₀).length + (textOf mid).length) (documentPieces name ps qs ++ back))
    (0 + (textOf front).length) []
  obtain ⟨ls, ls', span, k, hls, hls', hkey, hread⟩ := readLines_document hps hqs hbare eof
    (0 + (textOf front).length + (textOf ps₀).length + (textOf mid).length) fuel hps' hqs' hback.remarks
    (ls₀.reverse ++ [])
  refine ⟨ls₀ ++ ls, ls', span, k, List.rel_append hls₀ hls, hls', hkey, ?_⟩
  rw [hread₀, readLines_remarks hmid.remarks, hread]
  simp

/-- A document of settings and a table of further settings is read as their data. -/
theorem read_framed
    (hstart : ∀ c ∈ (textOf (front ++ (ps₀ ++ (mid ++ (documentPieces name ps qs ++ back))))).head?, c.toNat ≠ 0xFEFF)
    (hdistinct : (ss₀ ++ ss).Pairwise (·.1 ≠ ·.1)) (hname : ∀ s ∈ ss₀ ++ ss, s.1 ≠ name)
    (hdistinct' : ss'.Pairwise (·.1 ≠ ·.1)) : ∃ span span' ds ds', List.Forall₂ Gives ds (ss₀ ++ ss) ∧
      List.Forall₂ Gives ds' ss' ∧
      read (String.ofList (textOf (front ++ (ps₀ ++ (mid ++ (documentPieces name ps qs ++ back)))))) =
        .ok (.map span (Fields.insert name (.map span' (Fields.ofPairs ds')) (Fields.ofPairs ds))) := by
  obtain ⟨ls, ls', span, k, hls, hls', hkey, hlines⟩ := lines_document hps hqs hbare hps₀ hfront hmid hback hstart
  obtain ⟨ns, ns', hns, hns', hbuild⟩ := build_document hls hls' hkey hdistinct hname hdistinct'
  refine ⟨⟨0, (textOf (front ++ (ps₀ ++ (mid ++ (documentPieces name ps qs ++ back))))).length⟩, span, _, _,
    gives_of_enters hns, gives_of_enters hns', ?_⟩
  unfold read
  dsimp only
  rw [String.toList_ofList, hlines]
  change (build (ls ++ .header false span [k] :: ls') [] [] >>= fun es => .ok (Datum.map _ (datumsOfEntries es))) = _
  rw [hbuild]
  change Except.ok (Datum.map _ (datumsOfEntries _)) = _
  rw [datumsOfEntries_insert, datumsOfEntries_enter, datumOfNode, datumsOfEntries_enter]

end

/-- A document of settings and a table of further settings is read as their data. -/
theorem read_document {ss ss' : List (String × Setting)} {ps qs : List Piece} {name : String} (hps : Writes ss ps)
    (hqs : Writes ss' qs) (hbare : IsBare name) (hdistinct : ss.Pairwise (·.1 ≠ ·.1)) (hname : ∀ s ∈ ss, s.1 ≠ name)
    (hdistinct' : ss'.Pairwise (·.1 ≠ ·.1)) : ∃ span span' ds ds', List.Forall₂ Gives ds ss ∧
      List.Forall₂ Gives ds' ss' ∧ read (String.ofList (textOf (documentPieces name ps qs))) =
        .ok (.map span (Fields.insert name (.map span' (Fields.ofPairs ds')) (Fields.ofPairs ds))) := by
  have hall : documentPieces name ps qs ++ [] = documentPieces name ps qs := List.append_nil _
  have hstart : ∀ c ∈ (textOf (documentPieces name ps qs)).head?, c.toNat ≠ 0xFEFF := by
    rw [documentPieces, textOf_append]
    exact hps.head_ne_mark _
  have hread := read_framed hps hqs hbare .nil passed_nil passed_nil passed_nil
  simp only [List.nil_append, hall] at hread
  exact hread hstart hdistinct hname hdistinct'

end Toml

end Sandscript
