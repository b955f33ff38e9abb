import Mathlib.Data.String.Basic
import Sandscript.Proofs.Trace.Document
import Sandscript.Script

/-!
# Short forms of digests

The short form of a digest takes its first twelve bytes.  A digest of the engine has sixty-four characters of one byte
each (`Script.short?_digest`), but the digest of a stored trace may be any text, and one with a character over the end
of the twelfth byte has no short form (`ScriptDigest.short_exact`).
-/

namespace Sandscript

namespace ScriptDigest

open String (utf8Len)

/-! ### Bytes from the front -/

section

variable {n : Nat} {cs front : List Char}

private theorem takeBytes_nil (n : Nat) : takeBytes n [] = if n = 0 then some [] else none := by
  cases n with
  | zero => rw [takeBytes, if_pos rfl]
  | succ n =>
    rw [takeBytes, if_neg (Nat.succ_ne_zero n)]
    exact Nat.succ_ne_zero n

private theorem takeBytes_cons (n : Nat) (c : Char) (rest : List Char) :
    takeBytes n (c :: rest) =
      if n = 0 then some []
      else if c.utf8Size ≤ n then (takeBytes (n - c.utf8Size) rest).map (c :: ·) else none := by
  cases n with
  | zero => rw [takeBytes, if_pos rfl]
  | succ n => rw [takeBytes, if_neg (Nat.succ_ne_zero n)]

/-- The characters that are taken are those at the front that make up the bytes. -/
private theorem takeBytes_eq_some_iff : takeBytes n cs = some front ↔ front <+: cs ∧ utf8Len front = n := by
  induction cs generalizing n front with
  | nil =>
    rw [takeBytes_nil, List.prefix_nil]
    split
    · rename_i hzero
      rw [hzero, String.utf8Len_eq_zero, Option.some.injEq]
      exact ⟨fun h => ⟨h.symm, h.symm⟩, fun h => h.1.symm⟩
    · rename_i hpos
      refine ⟨nofun, ?_⟩
      rintro ⟨rfl, hsize⟩
      exact absurd hsize.symm hpos
  | cons c rest ih =>
    rw [takeBytes_cons, List.prefix_cons_iff]
    by_cases hzero : n = 0
    · rw [if_pos hzero, hzero, String.utf8Len_eq_zero, Option.some.injEq]
      exact ⟨fun h => ⟨.inl h.symm, h.symm⟩, fun h => h.2.symm⟩
    have hne (hsize : utf8Len front = n) : front ≠ [] := by
      rintro rfl
      exact hzero hsize.symm
    rw [if_neg hzero]
    split
    · rename_i hfits
      rw [Option.map_eq_some_iff]
      constructor
      · rintro ⟨more, hmore, rfl⟩
        obtain ⟨hstarts, hsize⟩ := ih.1 hmore
        refine ⟨.inr ⟨more, rfl, hstarts⟩, ?_⟩
        rw [String.utf8Len_cons]
        omega
      · rintro ⟨hnil | ⟨more, rfl, hstarts⟩, hsize⟩
        · exact absurd hnil (hne hsize)
        · rw [String.utf8Len_cons] at hsize
          exact ⟨more, ih.2 ⟨hstarts, by omega⟩, rfl⟩
    · rename_i hlarge
      refine ⟨nofun, ?_⟩
      rintro ⟨hnil | ⟨more, rfl, -⟩, hsize⟩
      · exact absurd hnil (hne hsize)
      · rw [String.utf8Len_cons] at hsize
        omega

private theorem utf8Len_of_one_byte (h : ∀ c ∈ cs, c.utf8Size = 1) : utf8Len cs = cs.length := by
  induction cs with
  | nil => rfl
  | cons c rest ih =>
    rw [String.utf8Len_cons, List.length_cons, h c List.mem_cons_self, ih fun c hc => h c (List.mem_cons_of_mem _ hc)]

end

/-! ### Short forms -/

variable {d : ScriptDigest} {s : String}

/-- The end of the twelfth byte, as a place in a text. -/
def cut : String.Pos.Raw := ⟨12⟩

private theorem short?_eq_some_iff :
    d.short? = some s ↔ (∃ rest, d.text = s ++ rest) ∧ s.utf8ByteSize = min 12 d.text.utf8ByteSize := by
  unfold short?
  split
  · rename_i hsmall
    rw [Nat.min_eq_right hsmall, Option.some.injEq]
    constructor
    · rintro rfl
      exact ⟨⟨"", String.append_empty.symm⟩, rfl⟩
    · rintro ⟨⟨rest, hrest⟩, hsize⟩
      have hnone : rest.utf8ByteSize = 0 := by
        have htotal := congrArg String.utf8ByteSize hrest
        rw [String.utf8ByteSize_append] at htotal
        omega
      rw [hrest, String.utf8ByteSize_eq_zero_iff.1 hnone, String.append_empty]
  · rename_i hlarge
    rw [Nat.min_eq_left (by omega), Option.map_eq_some_iff]
    constructor
    · rintro ⟨front, hfront, rfl⟩
      obtain ⟨⟨rest, hrest⟩, hsize⟩ := takeBytes_eq_some_iff.1 hfront
      refine ⟨⟨String.ofList rest, ?_⟩, ?_⟩
      · rw [← String.ofList_append, hrest, String.ofList_toList]
      · rw [String.utf8ByteSize_ofList, hsize]
    · rintro ⟨⟨rest, hrest⟩, hsize⟩
      refine ⟨s.toList, takeBytes_eq_some_iff.2 ⟨⟨rest.toList, ?_⟩, ?_⟩, String.ofList_toList⟩
      · rw [hrest, String.toList_append]
      · rw [String.utf8Len_toList, hsize]

/-- A place in a text is the end of a character just if the text has that many bytes in front of it. -/
private theorem isValid_iff {text : String} {n : Nat} :
    (⟨n⟩ : String.Pos.Raw).IsValid text ↔ ∃ front rest, text = front ++ rest ∧ front.utf8ByteSize = n := by
  rw [String.Pos.Raw.isValid_iff_exists_append]
  simp only [String.Pos.Raw.ext_iff, String.rawEndPos, eq_comm]

/-- There is a short form just if no character of a longer text lies over the end of the twelfth byte. -/
private theorem exists_short?_iff :
    (∃ s, d.short? = some s) ↔ d.text.utf8ByteSize ≤ 12 ∨ cut.IsValid d.text := by
  simp only [short?_eq_some_iff, cut, isValid_iff]
  constructor
  · rintro ⟨s, ⟨rest, hrest⟩, hsize⟩
    rcases Nat.le_total d.text.utf8ByteSize 12 with hsmall | hlarge
    · exact .inl hsmall
    · rw [Nat.min_eq_left hlarge] at hsize
      exact .inr ⟨s, rest, hrest, hsize⟩
  · rintro (hsmall | ⟨front, rest, htext, hsize⟩)
    · exact ⟨d.text, ⟨"", String.append_empty.symm⟩, (Nat.min_eq_right hsmall).symm⟩
    · refine ⟨front, ⟨rest, htext⟩, ?_⟩
      rw [hsize, htext, String.utf8ByteSize_append, hsize]
      omega

end ScriptDigest

/-! ### Digests of the engine -/

private theorem Blake3.length_hash (bytes : ByteArray) : (hash bytes).length = 32 := by
  unfold hash
  simp

namespace Script

private theorem length_digest (script : Script) : script.digest.text.toList.length = 64 := by
  unfold digest ScriptDigest.ofText
  rw [String.toList_ofList, List.length_flatMap]
  simp [Text.hexByte, Blake3.length_hash]

private theorem utf8Size_of_mem_digest {script : Script} {c : Char} (h : c ∈ script.digest.text.toList) :
    c.utf8Size = 1 := by
  unfold digest ScriptDigest.ofText at h
  rw [String.toList_ofList, List.mem_flatMap] at h
  obtain ⟨b, -, hc⟩ := h
  have hdigit : ∀ i : Fin 16, (Text.hexDigit i).utf8Size = 1 := by decide
  simp only [Text.hexByte, List.mem_cons, List.not_mem_nil, or_false] at hc
  rcases hc with rfl | rfl
  · exact hdigit ⟨_, Nat.mod_lt _ (by decide)⟩
  · exact hdigit ⟨_, Nat.mod_lt _ (by decide)⟩

/-- The short form of the engine's own digests is made up of the first twelve characters. -/
theorem short?_digest (script : Script) :
    script.digest.short? = some (String.ofList (script.digest.text.toList.take 12)) := by
  have hsize {cs : List Char} (h : cs.Sublist script.digest.text.toList) : String.utf8Len cs = cs.length :=
    ScriptDigest.utf8Len_of_one_byte fun c hc => utf8Size_of_mem_digest (h.subset hc)
  have htext : script.digest.text.utf8ByteSize = 64 := by
    rw [← String.utf8Len_toList, hsize (List.Sublist.refl _), length_digest]
  rw [ScriptDigest.short?_eq_some_iff, htext, String.utf8ByteSize_ofList, hsize (List.take_sublist _ _),
    List.length_take, length_digest]
  refine ⟨⟨String.ofList (script.digest.text.toList.drop 12), ?_⟩, rfl⟩
  rw [← String.ofList_append, List.take_append_drop, String.ofList_toList]

end Script

/-! ### Any digest -/

namespace ScriptDigest

/-- A digest has a short form unless it is longer than twelve bytes and a character lies over the end of the twelfth
one.  The short form is the text itself if that is no longer than twelve bytes, and twelve bytes from its front
otherwise.  A stored trace may hold any text for the digest of its script, but those of the engine have a short form. -/
theorem short_exact (d : ScriptDigest) (script : Script) :
    ((∃ s, d.short? = some s) ↔ d.text.utf8ByteSize ≤ 12 ∨ cut.IsValid d.text) ∧
      (∀ s, d.short? = some s → (∃ rest, d.text = s ++ rest) ∧ s.utf8ByteSize ≤ 12 ∧
        (d.text.utf8ByteSize ≤ 12 → s = d.text) ∧ (cut.IsValid d.text → s.utf8ByteSize = 12)) ∧
      (∀ t : Trace, t.Fits →
        ∃ back, Trace.ofJson { t with scriptDigest := d }.toJson = .ok back ∧ back.scriptDigest = d) ∧
      script.digest.short? = some (String.ofList (script.digest.text.toList.take 12)) := by
  refine ⟨exists_short?_iff, fun s hs => ?_, fun t ht => ?_, script.short?_digest⟩
  · obtain ⟨hstarts, hsize⟩ := short?_eq_some_iff.1 hs
    refine ⟨hstarts, by omega, fun hsmall => ?_, fun hcut => ?_⟩
    · rw [short?, if_pos hsmall] at hs
      exact (Option.some.inj hs).symm
    · rw [hsize]
      exact Nat.min_eq_left hcut.le_utf8ByteSize
  · exact ⟨_, Trace.ofJson_toJson { ht with }, rfl⟩

/-- The trace of a run without records. -/
def emptyTrace (d : ScriptDigest) : Trace :=
  { batchId := default, startedAt := ⟨2024, 1, 1, 0, 0, 0, 0⟩, scriptDigest := d, backend := .restricted, console := [],
    consoleDropped := 0, elapsedMs := 0, processed := 0, modified := 0, failed := 0, samples := [], errors := [] }

private theorem fits_emptyTrace (d : ScriptDigest) : (emptyTrace d).Fits := by
  have hstart : Timestamp.Valid ⟨2024, 1, 1, 0, 0, 0, 0⟩ := by constructor <;> decide
  constructor
  · exact hstart
  all_goals simp [emptyTrace]

/-- The twelfth byte of the first text ends a character of two bytes, and the second text is no longer than this. -/
theorem short_exact_of_boundary :
    (∃ s, short? ⟨"aaaaaaaaaaéz"⟩ = some s ∧ s.utf8ByteSize = 12) ∧ short? ⟨"é"⟩ = some "é" ∧
      ∃ back, Trace.ofJson (emptyTrace ⟨"aaaaaaaaaaéz"⟩).toJson = .ok back ∧ back.scriptDigest = ⟨"aaaaaaaaaaéz"⟩ := by
  obtain ⟨hexists, hsome, hstored, -⟩ := short_exact ⟨"aaaaaaaaaaéz"⟩ default
  obtain ⟨hshort, hwhole, -⟩ := short_exact ⟨"é"⟩ default
  have hcut : cut.IsValid "aaaaaaaaaaéz" := isValid_iff.2 ⟨"aaaaaaaaaaé", "z", rfl, rfl⟩
  obtain ⟨s, hs⟩ := hexists.2 (.inr hcut)
  have hsmall : "é".utf8ByteSize ≤ 12 := by decide
  obtain ⟨t, ht⟩ := hshort.2 (.inl hsmall)
  refine ⟨⟨s, hs, (hsome s hs).2.2.2 hcut⟩, ?_, hstored (emptyTrace default) (fits_emptyTrace default)⟩
  rw [ht, (hwhole t ht).2.2.1 hsmall]

/-- The twelfth byte lies inside the last character, in a trace that is read from its document. -/
theorem short_lost_in_character :
    ∃ document back, Trace.ofJson document = .ok back ∧ back.scriptDigest.text = "aaaaaaaaaaaé" ∧
      back.scriptDigest.short? = none := by
  refine ⟨_, _, Trace.ofJson_toJson (fits_emptyTrace ⟨"aaaaaaaaaaaé"⟩), rfl, ?_⟩
  decide +kernel

end ScriptDigest

end Sandscript
