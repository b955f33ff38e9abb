import Mathlib
import Sandscript.Command.Execution
import Sandscript.Proofs.Batch.Composition
import Sandscript.Proofs.Command.Files

/-!
# How applying a script to a file ends

The command looks at the script file, the records file, the policy, the script and the output file, in this order, and
ends at the first that will not do.  Whatever the files are, nothing is written unless the script was accepted; then
the output file holds the records that the report would have carried, and the trace of the report is the same either
way but for its stamp (`Command.apply_ends`).
-/

namespace Sandscript

/-- Two traces that differ at most in the identifier of the batch and its times. -/
def Trace.SameUnstamped (a b : Trace) : Prop :=
  { a with batchId := b.batchId, startedAt := b.startedAt, elapsedMs := b.elapsedMs } = b

private theorem Batch.sameUnstamped_trace (b : Batch) (stamp other : Stamp) :
    (b.trace stamp).SameUnstamped (b.trace other) := rfl

namespace Engine

variable {policy : Policy}

private theorem ofPolicy_of_ok (h : policy.validate = .ok ()) : ofPolicy policy = .ok { policy } := by
  unfold ofPolicy
  rw [h]
  rfl

private theorem ofPolicy_of_error {e : EngineError} (h : policy.validate = .error e) : ofPolicy policy = .error e := by
  unfold ofPolicy
  rw [h]
  rfl

private theorem apply_eq_error {e : Engine} {script : Script} {reason : Rejection}
    (h : Transformer.ofScript e.policy script = .error reason) (records : List Record) :
    e.apply script records = .error reason := by
  unfold apply
  rw [h]
  rfl

end Engine

private theorem Transformer.isClean_trace_batch (policy : Policy) (t : Transformer) (records : List Record)
    (stamp : Batch.Stamp) : ((t.batch policy records).trace stamp).isClean = !records.any t.fails := by
  change ((t.batch policy records).tally.failed == 0) = _
  rw [t.failed_batch, Bool.eq_iff_iff, beq_iff_eq, List.countP_eq_zero]
  simp

namespace Command

variable {σ F α β : Type} {s : Surroundings (StateM σ)}

/-! ### Steps of a command -/

/-- What a step comes to, and the state behind it. -/
def ends (x : Step (StateM σ) α) (w : σ) : Except Failure α × σ := x.run.run w

private theorem ends_lift (x : StateM σ α) (w : σ) : ends (ExceptT.lift x) w = (.ok (x.run w).1, (x.run w).2) := rfl

private theorem ends_bind_ok {x : Step (StateM σ) α} {k : α → Step (StateM σ) β} {w w' : σ} {a : α}
    (h : ends x w = (.ok a, w')) : ends (x >>= k) w = ends (k a) w' := by
  have hx : x.run.run w = pure (.ok a, w') := h
  unfold ends
  rw [ExceptT.run_bind, StateT.run_bind, hx, pure_bind]

private theorem ends_bind_error {x : Step (StateM σ) α} {k : α → Step (StateM σ) β} {w w' : σ} {e : Failure}
    (h : ends x w = (.error e, w')) : ends (x >>= k) w = (.error e, w') := by
  have hx : x.run.run w = pure (.error e, w') := h
  unfold ends
  rw [ExceptT.run_bind, StateT.run_bind, hx, pure_bind]
  rfl

section

variable (files : s.Files F)

/-- Reading leaves a state with the same files, and gives what they hold. -/
private theorem run_readText (path : String) (w : σ) :
    ∃ w', (s.readText path).run w = (files.text (files.view w) path, w') ∧ files.view w' = files.view w :=
  ⟨_, Prod.ext (files.readText_fst w path) rfl, files.view_readText w path⟩

private theorem ends_readFile (purpose path : String) (w : σ) :
    ∃ w', files.view w' = files.view w ∧
      (∀ e, files.text (files.view w) path = .error e →
        ends (readFile s purpose path) w = (.error ⟨"failed to read " ++ purpose ++ " " ++ path, e.message⟩, w')) ∧
      ∀ text, files.text (files.view w) path = .ok text → ends (readFile s purpose path) w = (.ok text, w') := by
  obtain ⟨w', hread, hview⟩ := run_readText files path w
  have hends : ends (ExceptT.lift (s.readText path)) w = (.ok (files.text (files.view w) path), w') := by
    rw [ends_lift, hread]
  refine ⟨w', hview, fun e he => ?_, fun text htext => ?_⟩
  · rw [he] at hends
    exact ends_bind_ok hends
  · rw [htext] at hends
    exact ends_bind_ok hends

private theorem run_readRecords (path : String) (w : σ) :
    ∃ w', files.view w' = files.view w ∧
      (∀ e, files.text (files.view w) path = .error e →
        (readRecords s path).run w = (.error ("failed to read records " ++ path ++ ": " ++ e.message), w')) ∧
      ∀ text, files.text (files.view w) path = .ok text →
        (∀ e, Records.read text = .error e →
          (readRecords s path).run w = (.error ("invalid records in " ++ path ++ ": " ++ e.message), w')) ∧
        ∀ records, Records.read text = .ok records → (readRecords s path).run w = (.ok records, w') := by
  obtain ⟨w', hread, hview⟩ := run_readText files path w
  refine ⟨w', hview, fun e he => ?_, fun text htext => ⟨fun e he => ?_, fun records hrecords => ?_⟩⟩
  · have hrun : (s.readText path).run w = pure (.error e, w') := by rw [hread, he]; rfl
    unfold readRecords
    rw [StateT.run_bind, hrun, pure_bind]
    rfl
  · have hrun : (s.readText path).run w = pure (.ok text, w') := by rw [hread, htext]; rfl
    unfold readRecords
    rw [StateT.run_bind, hrun, pure_bind]
    simp only [he]
    rfl
  · have hrun : (s.readText path).run w = pure (.ok text, w') := by rw [hread, htext]; rfl
    unfold readRecords
    rw [StateT.run_bind, hrun, pure_bind]
    simp only [hrecords]
    rfl

end

private theorem ends_deliver_none (records : List Record) (w : σ) :
    ends (deliver s none records) w = (.ok (.inReport records), w) := rfl

private theorem ends_deliver_of_ok {path : String} {records : List Record} {w w' : σ}
    (h : (s.writeText path (Records.write records)).run w = (.ok (), w')) :
    ends (deliver s (some path) records) w = (.ok (.file path), w') := by
  have hwrite : ends (ExceptT.lift (s.writeText path (Records.write records))) w = (.ok (.ok ()), w') := by
    rw [ends_lift, h]
  exact ends_bind_ok hwrite

private theorem ends_deliver_of_error {path : String} {records : List Record} {w w' : σ} {e : FileProblem}
    (h : (s.writeText path (Records.write records)).run w = (.error e, w')) :
    ends (deliver s (some path) records) w = (.error ⟨"failed to write " ++ path, e.message⟩, w') := by
  have hwrite : ends (ExceptT.lift (s.writeText path (Records.write records))) w = (.ok (.error e), w') := by
    rw [ends_lift, h]
  exact ends_bind_ok hwrite

/-! ### The command -/

section

variable (files : s.Files F) (script source : String) (records : List Record) (output : Option String) (strict : Bool)
  (policy : Policy) (format : OutputFormat)

private theorem ends_stamp (w : σ) :
    ∃ stamp : BatchId × Timestamp, ∃ start w', files.view w' = files.view w ∧
      ends (ExceptT.lift s.newBatch) w = (.ok stamp, (s.newBatch.run w).2) ∧
      ends (ExceptT.lift s.milliseconds) (s.newBatch.run w).2 = (.ok start, w') :=
  ⟨_, _, _, (files.view_milliseconds _).trans (files.view_newBatch w), ends_lift _ _, ends_lift _ _⟩

private theorem ends_applyTo_of_invalid {e : EngineError} (h : policy.validate = .error e) (w : σ) :
    ends (applyTo s script source records output strict policy format) w =
      (.error ⟨"invalid policy", e.message⟩, w) := by
  unfold applyTo
  rw [Engine.ofPolicy_of_error h]
  rfl

private theorem ends_applyTo_of_rejected (hpolicy : policy.validate = .ok ()) {reason : Rejection}
    (h : Transformer.ofScript policy ⟨source⟩ = .error reason) (w : σ) :
    ∃ w', files.view w' = files.view w ∧
      ends (applyTo s script source records output strict policy format) w =
        (.ok (printed .scriptRejected ((RejectionReport.toJson ⟨script, reason⟩).format format false)), w') := by
  obtain ⟨stamp, start, w', hview, hstamp, hstart⟩ := ends_stamp files w
  refine ⟨w', hview, ?_⟩
  unfold applyTo
  rw [Engine.ofPolicy_of_ok hpolicy]
  refine (ends_bind_ok hstamp).trans ((ends_bind_ok hstart).trans ?_)
  rw [Engine.apply_eq_error h]
  rfl

/-- A script that is accepted runs on all records before anything is handed out. -/
private theorem ends_applyTo_of_accepted (hpolicy : policy.validate = .ok ()) {t : Transformer}
    (h : Transformer.ofScript policy ⟨source⟩ = .ok t) (w : σ) :
    ∃ stamp w', files.view w' = files.view w ∧
      ends (applyTo s script source records output strict policy format) w =
        ends (finish s output strict format (t.batch policy records) stamp) w' := by
  obtain ⟨stamp, start, w₁, hview, hstamp, hstart⟩ := ends_stamp files w
  refine ⟨⟨stamp.1, stamp.2, (s.milliseconds.run w₁).1 - start⟩, (s.milliseconds.run w₁).2,
    (files.view_milliseconds w₁).trans hview, ?_⟩
  unfold applyTo
  rw [Engine.ofPolicy_of_ok hpolicy]
  refine (ends_bind_ok hstamp).trans ((ends_bind_ok hstart).trans ?_)
  rw [Engine.apply_eq_ok h]
  exact ends_bind_ok (ends_lift s.milliseconds w₁)

/-- The report on a batch whose records went where they were to go. -/
private theorem ends_finish_of_delivered {t : Transformer} {stamp : Batch.Stamp} {delivery : Delivery} {w w' : σ}
    (h : ends (deliver s output (t.batch policy records).outputs) w = (.ok delivery, w')) :
    ends (finish s output strict format (t.batch policy records) stamp) w =
      (.ok { status := if strict && records.any t.fails then 4 else 0
             out := (BatchReport.toJson ⟨delivery, (t.batch policy records).trace stamp⟩).format format false ++ "\n" },
        w') := by
  have hstatus : (if strict && !((t.batch policy records).trace stamp).isClean then ExitStatus.recordFailures
      else .success).code = if strict && records.any t.fails then 4 else 0 := by
    rw [t.isClean_trace_batch, Bool.not_not, apply_ite ExitStatus.code]
    rfl
  rw [← hstatus]
  exact ends_bind_ok h

private theorem ends_finish_of_unwritten {batch : Batch} {stamp : Batch.Stamp} {path : String} {w w' : σ}
    {e : FileProblem} (h : (s.writeText path (Records.write batch.outputs)).run w = (.error e, w')) :
    ends (finish s (some path) strict format batch stamp) w =
      (.error ⟨"failed to write " ++ path, e.message⟩, w') :=
  ends_bind_error (ends_deliver_of_error h)

end

/-- A command that comes to an end and leaves the files as they were. -/
def Spares (files : s.Files F) (w : σ) (run : Except Failure CommandResult × σ)
    (result : Except Failure CommandResult) :
    Prop := run.1 = result ∧ files.view run.2 = files.view w

private theorem Spares.of_eq {files : s.Files F} {w w' : σ} {run : Except Failure CommandResult × σ}
    {result : Except Failure CommandResult} (h : run = (result, w')) (hview : files.view w' = files.view w) :
    Spares files w run result := by
  subst h
  exact ⟨rfl, hview⟩

/-- The command ends at the first thing that will not do, and leaves the files as they were.  If all will do, the
records go into the report or into the output file, whose writing may fail, and only failed records that are not to be
tolerated make a difference to the status. -/
theorem apply_ends (files : s.Files F) (w : σ) (script records : String) (output : Option String) (strict : Bool)
    (policy : Policy) (format : OutputFormat) :
    let before := files.view w
    let run := ends (apply s script records output strict policy format) w
    (∀ e, files.text before script = .error e →
      Spares files w run (.error ⟨"failed to read script " ++ script, e.message⟩)) ∧
    ∀ source, files.text before script = .ok source →
    (∀ e, files.text before records = .error e →
      Spares files w run
        (.ok { status := 2
               err := "error: " ++ ("failed to read records " ++ records ++ ": " ++ e.message) ++ "\n" })) ∧
    ∀ text, files.text before records = .ok text →
    (∀ e, Records.read text = .error e →
      Spares files w run
        (.ok { status := 2, err := "error: " ++ ("invalid records in " ++ records ++ ": " ++ e.message) ++ "\n" })) ∧
    ∀ rs, Records.read text = .ok rs →
    (∀ e, policy.validate = .error e → Spares files w run (.error ⟨"invalid policy", e.message⟩)) ∧
    (policy.validate = .ok () →
    (∀ reason, Transformer.ofScript policy ⟨source⟩ = .error reason →
      Spares files w run
        (.ok { status := 3
               out := (Json.obj [("script", .str script), ("reason", .str reason.message)]).format format false ++
                 "\n" })) ∧
    ∀ t, Transformer.ofScript policy ⟨source⟩ = .ok t →
    let batch := t.batch policy rs
    let status := if strict && rs.any t.fails then 4 else 0
    (∀ stamp other, (batch.trace stamp).SameUnstamped (batch.trace other)) ∧
    ∃ stamp,
      (output = none →
        Spares files w run
          (.ok { status
                 out := (Json.obj [("records", .arr (batch.outputs.map .obj)),
                   ("trace", (batch.trace stamp).toJson)]).format format false ++ "\n" })) ∧
      ∀ path, output = some path →
        ∃ w₁, files.view w₁ = before ∧
          let write := (s.writeText path (Json.arr (batch.outputs.map .obj)).pretty).run w₁
          (∀ e, write.1 = .error e → run = (.error ⟨"failed to write " ++ path, e.message⟩, write.2)) ∧
          (write.1 = .ok () →
            run = (.ok { status
                         out := (Json.obj [("output", .str path),
                           ("trace", (batch.trace stamp).toJson)]).format format false ++ "\n" }, write.2) ∧
            files.text (files.view run.2) path = .ok (Json.arr (batch.outputs.map .obj)).pretty)) := by
  intro before run
  -- the script file
  obtain ⟨w₁, hview₁, hscriptError, hscript⟩ := ends_readFile files "script" script w
  refine ⟨fun e he => .of_eq (ends_bind_error (hscriptError e he)) hview₁, fun source hsource => ?_⟩
  -- the records
  have hread := hscript source hsource
  obtain ⟨w₂, hview₂, hmissing, hpresent⟩ := run_readRecords files records w₁
  rw [hview₁] at hview₂ hmissing hpresent
  have hrefused : ∀ message, (readRecords s records).run w₁ = (.error message, w₂) →
      Spares files w run (.ok { status := 2, err := "error: " ++ message ++ "\n" }) := by
    intro message hmessage
    have hlift : ends (ExceptT.lift (readRecords s records)) w₁ = (.ok (.error message), w₂) := by
      rw [ends_lift, hmessage]
    exact .of_eq ((ends_bind_ok hread).trans (ends_bind_ok hlift)) hview₂
  refine ⟨fun e he => hrefused _ (hmissing e he), fun text htext => ?_⟩
  obtain ⟨hmalformed, hrecords⟩ := hpresent text htext
  refine ⟨fun e he => hrefused _ (hmalformed e he), fun rs hrs => ?_⟩
  have hlift : ends (ExceptT.lift (readRecords s records)) w₁ = (.ok (.ok rs), w₂) := by
    rw [ends_lift, hrecords rs hrs]
  have hrun : run = ends (applyTo s script source rs output strict policy format) w₂ :=
    (ends_bind_ok hread).trans (ends_bind_ok hlift)
  -- the policy and the script
  refine ⟨fun e he => ?_, fun hpolicy => ⟨fun reason hreason => ?_, fun t ht => ?_⟩⟩
  · rw [ends_applyTo_of_invalid script source rs output strict policy format he] at hrun
    exact .of_eq hrun hview₂
  · obtain ⟨w₃, hview₃, hrejected⟩ :=
      ends_applyTo_of_rejected files script source rs output strict policy format hpolicy hreason w₂
    rw [hrejected] at hrun
    exact .of_eq hrun (hview₃.trans hview₂)
  obtain ⟨stamp, w₃, hview₃, haccepted⟩ :=
    ends_applyTo_of_accepted files script source rs output strict policy format hpolicy ht w₂
  rw [haccepted] at hrun
  -- the report, and the output file if there is to be one
  refine ⟨Batch.sameUnstamped_trace _, stamp, ?_, ?_⟩
  · rintro rfl
    rw [ends_finish_of_delivered rs none strict policy format (ends_deliver_none _ w₃)] at hrun
    exact .of_eq hrun (hview₃.trans hview₂)
  · rintro path rfl
    refine ⟨w₃, hview₃.trans hview₂, fun e he => ?_, fun hok => ?_⟩
    · exact hrun.trans (ends_finish_of_unwritten strict format (Prod.ext he rfl))
    · have hdelivered := ends_deliver_of_ok (Prod.ext hok rfl)
      have hwritten := hrun.trans (ends_finish_of_delivered rs (some path) strict policy format hdelivered)
      refine ⟨hwritten, ?_⟩
      rw [hwritten]
      exact files.text_writeText w₃ path _ hok

namespace Workbench

def source : String := "record.n = 4 / record.n;"

/-- The script fails on the first of these. -/
def records : List Record := [[("n", .ofNat 0), ("ticker", .str "A")], [("n", .ofNat 1), ("ticker", .str "B")]]

def outputs : List Record := [[("n", .ofNat 0), ("ticker", .str "A")], [("n", .ofNat 4), ("ticker", .str "B")]]

def recordsText : String := "[\x7b\"ticker\": \"A\", \"n\": 0\x7d, \x7b\"n\": 1, \"ticker\": \"B\"\x7d]"

/-- A folder with the script and the records. -/
def folder : Folder where
  place := []
  files := [(["s"], source.toUTF8.toList), (["r"], recordsText.toUTF8.toList)]

private theorem text_source : folder.text "s" = .ok source :=
  Folder.text_of_entry? (Folder.locate_of_name (by cbv) (by cbv) rfl) rfl

private theorem text_records : folder.text "r" = .ok recordsText :=
  Folder.text_of_entry? (Folder.locate_of_name (by cbv) (by cbv) rfl) rfl

private theorem locate_output : folder.locate "o" = .ok ["o"] := Folder.locate_of_name (by cbv) (by cbv) rfl

end Workbench

/-- The failed record is written as it was, and counts as a failure. -/
theorem apply_ends_of_failed_record :
    ∃ out after, ends (apply (Folder.surroundings default none none) "s" "r" (some "o") true .standard .json)
        Workbench.folder = (.ok { status := 4, out }, after) ∧
      after.text "o" = .ok (Records.write Workbench.outputs) := by
  have hok : (Transformer.ofScript .standard ⟨Workbench.source⟩).toOption.any fun t =>
      Workbench.records.any t.fails &&
        Records.write (t.batch .standard Workbench.records).outputs == Records.write Workbench.outputs := by
    decide +kernel
  obtain ⟨t, ht, hbatch⟩ := exists_ok_of_any hok
  rw [Bool.and_eq_true, beq_iff_eq] at hbatch
  obtain ⟨hfails, houtputs⟩ := hbatch
  obtain ⟨-, hread⟩ :=
    apply_ends (Folder.asFiles default none none) Workbench.folder "s" "r" (some "o") true .standard .json
  obtain ⟨-, hparsed⟩ := hread _ Workbench.text_source
  obtain ⟨-, hvalid⟩ := hparsed _ Workbench.text_records
  obtain ⟨-, haccepted⟩ := hvalid Workbench.records rfl
  obtain ⟨-, hran⟩ := haccepted rfl
  obtain ⟨-, stamp, -, hwritten⟩ := hran t ht
  obtain ⟨w, hw, -, hdone⟩ := hwritten "o" rfl
  obtain rfl : w = Workbench.folder := hw
  obtain ⟨hrun, hfile⟩ := hdone (congrArg Prod.fst
    (Folder.run_writeText_of_ok default none none (Folder.write_of_locate Workbench.locate_output rfl)))
  rw [hfails] at hrun
  rw [hrun] at hfile
  exact ⟨_, _, hrun, hfile.trans (congrArg Except.ok houtputs)⟩

end Command

end Sandscript
