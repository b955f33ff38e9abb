import Mathlib.Algebra.Ring.Nat
import Sandscript.Proofs.Batch.Composition

/-!
# Sessions

An engine serves one request after the other.  A request changes the statistics by the outcomes of the batch that it
runs, if it runs one, and nothing else, and the trace of the batch counts the same outcomes (`Engine.serve_counts`).  So
behind every request the statistics are the totals of all traces so far (`Engine.stats_of_session`).
-/

namespace Sandscript

/-- A run that timed out has failed. -/
private theorem Outcome.failed_of_timedOut {o : Outcome} (h : o.timedOut = true) : o.failed = true := by
  cases o with
  | ok after => cases h
  | error failure => rfl

namespace RunStats

private theorem addAll_eq (s : RunStats) (os : List Outcome) :
    s.addAll os =
      ⟨s.runs + os.length, s.timeouts + os.countP Outcome.timedOut, s.failures + os.countP Outcome.failed⟩ := by
  induction os generalizing s with
  | nil => rfl
  | cons o os ih =>
    rw [addAll_cons, ih, List.length_cons, List.countP_cons, List.countP_cons]
    have hruns : s.runs + 1 + os.length = s.runs + (os.length + 1) := by omega
    have hcount (n : Nat) (p : Outcome → Bool) :
        (if p o then n + 1 else n) + os.countP p = n + (os.countP p + if p o then 1 else 0) := by
      split <;> omega
    exact congr (congr (congrArg mk hruns) (hcount s.timeouts _)) (hcount s.failures _)

end RunStats

namespace Engine

namespace Reply

/-- The trace of a batch that was run. -/
def trace? : Reply → Option Trace
  | applied _ trace => some trace
  | valid | rejected _ => none

/-- The outcomes of the records of a batch that was run. -/
def outcomes : Reply → List Outcome
  | applied batch _ => batch.outcomes
  | valid | rejected _ => []

/-- The trace, if there is one, counts the outcomes. -/
structure Exact (r : Reply) : Prop where
  processed : (r.trace?.toList.map (·.processed)).sum = r.outcomes.length
  failed : (r.trace?.toList.map (·.failed)).sum = r.outcomes.countP Outcome.failed

private theorem exact_of_eq_none {r : Reply} (h : r.trace? = none) (houtcomes : r.outcomes = []) : r.Exact where
  processed := by rw [h, houtcomes]; rfl
  failed := by rw [h, houtcomes]; rfl

private theorem exact_applied (policy : Policy) (t : Transformer) (records : List Record) (stamp : Batch.Stamp) :
    (applied (t.batch policy records) ((t.batch policy records).trace stamp)).Exact where
  processed := by
    change (t.batch policy records).tally.processed + 0 = (t.batch policy records).outcomes.length
    rw [t.processed_batch, t.outcomes_batch, List.length_map, Nat.add_zero]
  failed := by
    change (t.batch policy records).tally.failed + 0 = (t.batch policy records).outcomes.countP Outcome.failed
    rw [t.failed_batch, t.outcomes_batch, List.countP_map, Nat.add_zero]
    rfl

/-- The traces of some replies count their outcomes. -/
private theorem sum_traces {f : Trace → Nat} {g : List Outcome → Nat} (hnil : g [] = 0)
    (happend : ∀ os more, g (os ++ more) = g os + g more) {rs : List Reply}
    (h : ∀ r ∈ rs, (r.trace?.toList.map f).sum = g r.outcomes) :
    ((rs.filterMap trace?).map f).sum = g (rs.flatMap outcomes) := by
  induction rs with
  | nil => exact hnil.symm
  | cons r rs ih =>
    have hrest := ih fun r' hr' => h r' (List.mem_cons_of_mem _ hr')
    have hfirst := h r List.mem_cons_self
    have hcons : (r :: rs).filterMap trace? = r.trace?.toList ++ rs.filterMap trace? := by
      cases hr : r.trace? <;> simp [hr]
    rw [hcons, List.map_append, List.sum_append, hfirst, hrest, List.flatMap_cons, happend]

end Reply

/-! ### One request -/

section

variable {e : Engine}

private theorem counting_nil (e : Engine) : e.counting [] = e := rfl

private theorem counting_counting (e : Engine) (os more : List Outcome) :
    (e.counting os).counting more = e.counting (os ++ more) := by
  rw [counting, counting, counting, RunStats.addAll_append]

/-- A check leaves the engine as it is. -/
private theorem serve_check (e : Engine) (script : Script) :
    ∃ reply, e.serve (.check script) = (reply, e) ∧ reply.trace? = none ∧ reply.outcomes = [] := by
  unfold serve
  cases hcheck : e.check script with
  | ok u => exact ⟨.valid, by simp only [hcheck], rfl, rfl⟩
  | error reason => exact ⟨.rejected reason, by simp only [hcheck], rfl, rfl⟩

/-- A rejected script leaves the engine as it is. -/
private theorem serve_apply_of_error {script : Script} {records : List Record} {reason : Rejection}
    (h : e.apply script records = .error reason) (stamp : Batch.Stamp) :
    e.serve (.apply script records stamp) = (.rejected reason, e) := by
  unfold serve
  simp only [h]

private theorem serve_apply_of_ok {script : Script} {t : Transformer}
    (ht : Transformer.ofScript e.policy script = .ok t) (records : List Record) (stamp : Batch.Stamp) :
    e.serve (.apply script records stamp) =
      (.applied (t.batch e.policy records) ((t.batch e.policy records).trace stamp),
        e.counting (t.batch e.policy records).outcomes) := by
  unfold serve
  simp only [apply_eq_ok ht records, t.outcomes_batch]

/-- A request changes nothing but the statistics, and those by the outcomes in its reply. -/
theorem serve_counts (e : Engine) (request : Request) :
    (e.serve request).2 = e.counting (e.serve request).1.outcomes ∧ (e.serve request).1.Exact := by
  cases request with
  | check script =>
    obtain ⟨reply, hserve, htrace, houtcomes⟩ := e.serve_check script
    rw [hserve, houtcomes]
    exact ⟨e.counting_nil.symm, Reply.exact_of_eq_none htrace houtcomes⟩
  | apply script records stamp =>
    cases ht : Transformer.ofScript e.policy script with
    | error reason =>
      have happly : e.apply script records = .error reason := by
        unfold apply
        rw [ht]
        rfl
      rw [serve_apply_of_error happly]
      exact ⟨e.counting_nil.symm, Reply.exact_of_eq_none rfl rfl⟩
    | ok t =>
      rw [serve_apply_of_ok ht]
      exact ⟨rfl, Reply.exact_applied e.policy t records stamp⟩

end

/-! ### Several requests -/

private theorem serveAll_append (e : Engine) (xs ys : List Request) :
    e.serveAll (xs ++ ys) =
      ((e.serveAll xs).1 ++ ((e.serveAll xs).2.serveAll ys).1, ((e.serveAll xs).2.serveAll ys).2) := by
  induction xs generalizing e with
  | nil => rfl
  | cons x xs ih =>
    change (_ :: ((e.serve x).2.serveAll (xs ++ ys)).1, ((e.serve x).2.serveAll (xs ++ ys)).2) = _
    rw [ih]
    rfl

/-- By induction on the requests: the engine has counted the outcomes in all replies, and every trace counts its own. -/
private theorem serveAll_counts (e : Engine) (requests : List Request) :
    (e.serveAll requests).2 = e.counting ((e.serveAll requests).1.flatMap Reply.outcomes) ∧
      ∀ reply ∈ (e.serveAll requests).1, reply.Exact := by
  induction requests generalizing e with
  | nil => exact ⟨e.counting_nil.symm, fun reply hreply => by cases hreply⟩
  | cons request rest ih =>
    obtain ⟨hserve, hexact⟩ := e.serve_counts request
    obtain ⟨hrest, hexacts⟩ := ih (e.serve request).2
    constructor
    · change ((e.serve request).2.serveAll rest).2 = e.counting
        ((e.serve request).1.outcomes ++ ((e.serve request).2.serveAll rest).1.flatMap Reply.outcomes)
      rw [hrest, ← e.counting_counting, ← hserve]
    · intro reply hreply
      rcases List.mem_cons.1 hreply with rfl | hreply
      · exact hexact
      · exact hexacts reply hreply

theorem stats_of_session {policy : Policy} {e : Engine} (h : ofPolicy policy = .ok e) (earlier : List Request)
    (request : Request) :
    ∃ replies before reply after,
      e.serveAll earlier = (replies, before) ∧ before.serve request = (reply, after) ∧
      e.serveAll (earlier ++ [request]) = (replies ++ [reply], after) ∧
      after.stats.runs = (((replies ++ [reply]).filterMap Reply.trace?).map (·.processed)).sum ∧
      after.stats.failures = (((replies ++ [reply]).filterMap Reply.trace?).map (·.failed)).sum ∧
      after.stats.timeouts = ((replies ++ [reply]).flatMap Reply.outcomes).countP Outcome.timedOut ∧
      after.stats.timeouts ≤ after.stats.failures ∧ after.stats.failures ≤ after.stats.runs ∧
      (∀ script, request = .check script → after = before) ∧
      ∀ script records stamp reason, request = .apply script records stamp →
        before.apply script records = .error reason → after = before := by
  have hstart : e.stats = {} := by
    unfold ofPolicy at h
    cases hvalid : policy.validate with
    | error failure =>
      rw [hvalid] at h
      cases h
    | ok u =>
      rw [hvalid] at h
      cases h
      rfl
  have hall := e.serveAll_append earlier [request]
  obtain ⟨hcounts, hexact⟩ := e.serveAll_counts (earlier ++ [request])
  let before := (e.serveAll earlier).2
  change e.serveAll (earlier ++ [request]) =
    ((e.serveAll earlier).1 ++ [(before.serve request).1], (before.serve request).2) at hall
  rw [hall] at hcounts hexact
  refine ⟨(e.serveAll earlier).1, before, (before.serve request).1, (before.serve request).2, rfl, rfl, hall, ?_⟩
  have hstats : (before.serve request).2.stats = e.stats.addAll _ := congrArg Engine.stats hcounts
  rw [hstart, RunStats.addAll_eq] at hstats
  rw [hstats]
  refine ⟨?_, ?_, Nat.zero_add _, ?_, ?_, ?_, ?_⟩
  · rw [Reply.sum_traces (g := List.length) rfl (fun _ _ => List.length_append) fun r hr => (hexact r hr).processed]
    exact Nat.zero_add _
  · rw [Reply.sum_traces (g := List.countP Outcome.failed) rfl (fun _ _ => List.countP_append)
      fun r hr => (hexact r hr).failed]
    exact Nat.zero_add _
  · exact Nat.add_le_add_left (List.countP_mono_left fun o _ => Outcome.failed_of_timedOut) 0
  · exact Nat.add_le_add_left List.countP_le_length 0
  · rintro script rfl
    obtain ⟨reply, hserve, -⟩ := before.serve_check script
    rw [hserve]
  · rintro script records stamp reason rfl hreject
    rw [serve_apply_of_error hreject]

/-- Behind a check, a rejected script and a batch with a failing record, a batch with a record that has no identifier:
the traces of the two batches make up the statistics. -/
theorem stats_of_session_of_mixed :
    ∃ e replies before reply after,
      ofPolicy .standard = .ok e ∧
      e.serveAll [.check ⟨"eval(1)"⟩, .apply ⟨"eval(1)"⟩ [[("ticker", .str "A")]] default,
        .apply ⟨"record.n = 4 / record.n;"⟩
          [[("n", .ofNat 0), ("ticker", .str "A")], [("n", .ofNat 1), ("ticker", .str "B")]] default] =
        (replies, before) ∧
      before.serve (.apply ⟨"record.x = 1;"⟩ [[("n", .ofNat 1)]] default) = (reply, after) ∧
      after.stats = ⟨3, 0, 2⟩ ∧
      (((replies ++ [reply]).filterMap Reply.trace?).map (·.processed)).sum = 3 ∧
      (((replies ++ [reply]).filterMap Reply.trace?).map (·.failed)).sum = 2 := by
  let earlier : List Request :=
    [.check ⟨"eval(1)"⟩, .apply ⟨"eval(1)"⟩ [[("ticker", .str "A")]] default,
      .apply ⟨"record.n = 4 / record.n;"⟩
        [[("n", .ofNat 0), ("ticker", .str "A")], [("n", .ofNat 1), ("ticker", .str "B")]] default]
  let last : Request := .apply ⟨"record.x = 1;"⟩ [[("n", .ofNat 1)]] default
  have hok : (ofPolicy .standard).toOption.any fun e =>
      ((e.serveAll earlier).2.serve last).2.stats == ⟨3, 0, 2⟩ := by decide +kernel
  obtain ⟨e, he, hstats⟩ := exists_ok_of_any hok
  obtain ⟨replies, before, reply, after, hearlier, hlast, -, hruns, hfailures, -⟩ := stats_of_session he earlier last
  rw [hearlier, hlast, beq_iff_eq] at hstats
  rw [hstats] at hruns hfailures
  exact ⟨e, replies, before, reply, after, he, hearlier, hlast, hstats, hruns.symm, hfailures.symm⟩

end Engine

end Sandscript
