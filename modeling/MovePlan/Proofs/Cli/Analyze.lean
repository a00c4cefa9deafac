import MovePlan.Proofs.Cli.Asking
import MovePlan.Proofs.Diagnosis.Rules
import MovePlan.Proofs.Simulation.Faults

/-!
# What an analysis ends with

An analysis shows what it read, or tells in a line what is wrong with its input. It ends otherwise where
a value cannot be gone through, which is no news about the input to it, where the console cannot show the
line, and after the reading, when nothing is told any more: the writes are read a second time, for all
positions, a failure is diagnosed, and the report is written (`Cli.AnalysisEscapes`). If all can be read,
an error is raised exactly if something goes wrong later (`Cli.Evidence.GoesWrong`).
-/

namespace MovePlan

open Error Plan Move Simulation Storage Numeric

/-! ## Files -/

namespace Storage.FileTree

/-- Whether a path leads to a file, or to where there is none yet. -/
def IsForFile (t : FileTree) (path : String) : Prop :=
  ∃ place, t.resolve (Path.parse path) = .ok place ∧
    ∀ n, t.node? place = some n → ∃ content, n = .file content

variable {t : FileTree} {path : String}

/-- A file that is no text is one of the faults that are told. -/
theorem contentText_fails (c : Content) : FailsBy IsReported (contentText c) := by
  unfold contentText
  split
  · exact .ok _
  · split
    · exact .ok _
    · exact .error rfl

/-- A text that is no document is another one. -/
theorem load_fails (context : String) (width : Int) (text : String) :
    FailsBy IsReported (Json.load context width text) := by
  unfold Json.load
  dsimp only
  split
  · exact .ok _
  · exact .error rfl
  · exact .error rfl

/-- What is wrong with a file is told, also that it is missing. -/
theorem readJson_fails (h : t.IsForFile path) (context : String) :
    FailsBy IsReported (t.readJson path context true) := by
  obtain ⟨place, hplace, hfile⟩ := h
  unfold readJson
  refine FailsBy.bind (by rw [isThere, hplace]; exact .ok _) fun there hthere => ?_
  rw [isThere, hplace] at hthere
  obtain rfl := Except.ok.inj hthere
  cases hnode : t.node? place with
  | none => exact .error rfl
  | some n =>
    obtain ⟨content, rfl⟩ := hfile n hnode
    have hread : t.read (Path.parse path) = contentText content := by
      rw [read, hplace]
      simp only [bind, Except.bind, hnode]
    refine FailsBy.bind ?_ fun _ _ => ?_
    · unfold readText?
      rw [hread]
      split
      next => exact .ok _
      next e hc =>
        rw [Bool.not_true, Bool.and_false, if_neg Bool.false_ne_true]
        exact .error (contentText_fails content e hc)
    · split
      next => exact .ok _
      next text _ =>
        split
        next => exact .ok _
        next e hload => exact .error (load_fails context _ text e hload)

end Storage.FileTree

/-! ## Plans -/

/-- Whether a plan has a reference whose mode is a list or an object. -/
def Plan.HasStrayMode (p : Json) : Prop :=
  ∃ k s, (p.get? "steps").bind (Json.item? k) = some s ∧ StepEscapes s .wrongType

/-- A plan that is read can also hold a mode that is neither told nor caught. -/
theorem Storage.FileTree.readPlan_fails {t : FileTree} {path : String} (h : t.IsForFile path) :
    FailsBy (fun e => e.IsReported ∨ (e = .wrongType ∧ ∃ j, t.readJson path "plan" true = .ok j ∧
      HasStrayMode (repair j).1)) (t.readPlan path true) := by
  unfold readPlan
  refine ((t.readJson_fails h "plan").imp fun _ => Or.inl).bind fun j hj => ?_
  refine FailsBy.bind ((decode_fails (repair j).1).imp ?_) fun _ _ => .ok _
  rintro e (hof | ⟨k, s, hs, i, a, ha, hescapes⟩)
  · cases hof <;> exact Or.inl rfl
  · cases hescapes with
    | literal | tooLong => exact Or.inl rfl
    | mode kind hstep hne hindex hmode hkeyless =>
      exact Or.inr ⟨rfl, j, hj, k, s, hs, i, a, ha, .mode kind hstep hne hindex hmode hkeyless⟩

/-! ## The command -/

namespace Cli

/-- What a reading meets that ends it and is not told: a reference of the plan whose mode is a list or an
object, or a position that is tracked and has a table without entries to go through. -/
inductive MeetsStray (files : FileTree) (outcome : String) (plan protocol : Option String) : Prop where
  | mode {path : String} {j : Json} (hplan : plan = some path)
    (hread : files.readJson path "plan" true = .ok j) (h : HasStrayMode (repair j).1)
  | table {j : Json} {o : Outcome} {change : Json.Fields}
    (hread : files.readJson outcome "simulate response" true = .ok j)
    (ho : Outcome.ofResponse j = .ok o) (hprotocol : (Config.filled protocol).isSome = true)
    (hmem : change ∈ o.changes) (h : HasLoneTable change)

variable {files : FileTree} {outcome owner : String} {plan protocol : Option String}

/-- All that can go wrong before the outcome is summarised. -/
theorem readOutcome_fails (houtcome : files.IsForFile outcome)
    (hplan : ∀ path ∈ plan, files.IsForFile path) : FailsBy (fun e => e.IsReported ∨
      (e = .wrongType ∧ MeetsStray files outcome plan protocol))
      (readOutcome files outcome owner plan protocol) := by
  unfold readOutcome
  refine ((files.readJson_fails houtcome _).imp fun _ => Or.inl).bind fun j hj => ?_
  refine ((ofResponse_fails j).imp fun _ he => Or.inl he.isReported).bind fun o ho => ?_
  have hanalyze : ∀ tokens, FailsBy (fun e => e.IsReported ∨ (e = .wrongType ∧
      MeetsStray files outcome plan protocol))
      (analyze o tokens owner ((Config.filled protocol).map fun protocol => { protocol })) := by
    intro tokens
    refine (analyze_fails o tokens owner _).imp fun e => Or.imp_right ?_
    rintro ⟨he, hposition, change, hmem, h⟩
    exact ⟨he, .table hj ho (by simpa using hposition) hmem h⟩
  -- without a plan there are no tokens, and no mode to meet
  cases plan with
  | none => exact (hanalyze []).bind fun _ _ => .ok _
  | some path =>
    have hread := FileTree.readPlan_fails (hplan path rfl)
    refine FailsBy.bind ?_ fun tokens _ => (hanalyze tokens).bind fun _ _ => .ok _
    intro e he
    cases hp : files.readPlan path true with
    | ok p => rw [hp] at he; cases he
    | error e' =>
      rw [hp] at he
      obtain rfl := Except.error.inj he
      refine (hread e' hp).imp_right ?_
      rintro ⟨he, j, hj, hmode⟩
      exact ⟨he, .mode rfl hj hmode⟩

/-- What is read can be analyzed. -/
theorem analyze_of_readOutcome {r : Evidence}
    (h : readOutcome files outcome owner plan protocol = .ok r) :
    analyze r.outcome r.tokens owner r.position = .ok r.analysis := by
  obtain ⟨j, -, h⟩ := bind_eq_ok_iff.1 h
  obtain ⟨o, -, h⟩ := bind_eq_ok_iff.1 h
  cases plan <;>
  · obtain ⟨tokens, -, h⟩ := bind_eq_ok_iff.1 h
    obtain ⟨analysis, hanalysis, h⟩ := bind_eq_ok_iff.1 h
    obtain rfl := Except.ok.inj h
    exact hanalysis

/-- Whether the report of an analysis has an integer without a text. -/
def HasLongReport (r : Evidence) : Prop :=
  ∃ summary ds, summarize r.outcome (Registry.ofTokens r.tokens) r.position = .ok summary ∧
    diagnosesOf summary = .ok ds ∧ (analysisJson r summary ds).isWritable = false

/-- What goes wrong with an analysis after the reading, when nothing is told any more. -/
inductive Evidence.GoesWrong (r : Evidence) : Error → Prop where
  /-- A position is wrong that only the second reading looks at. -/
  | position {change : Json.Fields} {e : Error} (hmem : change ∈ r.outcome.changes)
    (hspoils : SpoilsVault r.position change e) : GoesWrong r e
  /-- The cost of the gas is beyond the range of floating-point numbers. -/
  | gas (hgas : r.outcome.gasCost = .error .overflow) : GoesWrong r .overflow
  /-- The transaction failed with an abort whose code has too many digits. -/
  | abort {digits : Nat} (hfailed : r.outcome.success = false)
    (hcode : Diagnosis.parseAbort r.outcome.status = .error (.numeralTooLong digits)) :
    GoesWrong r (.numeralTooLong digits)
  /-- An integer of the report has too many digits. -/
  | long (hlong : HasLongReport r) : GoesWrong r .tooManyDigits

variable {σ : Type} {s : Surroundings σ} {argv : List String} {r : Evidence}

/-- The ways in which an analysis ends that is neither shown nor told. -/
inductive AnalysisEscapes (s : Surroundings σ) (outcome owner : String)
    (plan protocol : Option String) : Error → Prop where
  /-- The reading meets something that it cannot go through. -/
  | reading (h : readOutcome s.files outcome owner plan protocol = .error .wrongType)
    (hstray : MeetsStray s.files outcome plan protocol) :
    AnalysisEscapes s outcome owner plan protocol .wrongType
  /-- It would be told what is wrong with the input, but the console does not show it. -/
  | console {e fault : Error} (h : readOutcome s.files outcome owner plan protocol = .error e)
    (he : e.IsReported) (hfault : s.console (errorShown e) = .error fault) :
    AnalysisEscapes s outcome owner plan protocol fault
  /-- Something goes wrong after the reading. -/
  | later {r : Evidence} {e : Error} (h : readOutcome s.files outcome owner plan protocol = .ok r)
    (hwrong : r.GoesWrong e) : AnalysisEscapes s outcome owner plan protocol e

/-- What comes of an analysis. -/
inductive AnalysisEnds (s : Surroundings σ) (outcome owner : String) (plan protocol : Option String) :
    Except Error (Result σ) → Prop where
  /-- The report is shown, and the code tells whether the transaction succeeded. -/
  | shown {r : Evidence} {summary : Summary} {ds : List Diagnosis} {text : String}
    (h : readOutcome s.files outcome owner plan protocol = .ok r)
    (hsummary : summarize r.outcome (Registry.ofTokens r.tokens) r.position = .ok summary)
    (hds : diagnosesOf summary = .ok ds)
    (htext : FileTree.documentText (analysisJson r summary ds) = .ok text) :
    AnalysisEnds s outcome owner plan protocol
      (.ok ⟨if r.outcome.success then 0 else 1, text, s.files, s.state⟩)
  /-- It is told what is wrong with the input. -/
  | told {e : Error} {line : String}
    (h : readOutcome s.files outcome owner plan protocol = .error e) (he : e.IsReported)
    (hline : s.console (errorShown e) = .ok line) :
    AnalysisEnds s outcome owner plan protocol (.ok ⟨2, line, s.files, s.state⟩)
  | escaped {e : Error} (h : AnalysisEscapes s outcome owner plan protocol e) :
    AnalysisEnds s outcome owner plan protocol (.error e)

/-- Whether a command line asks for an analysis as JSON. -/
def Asks (argv : List String) (outcome owner : String) (plan protocol : Option String) : Prop :=
  readOrder argv = .done ⟨.analyze outcome owner plan protocol, ⟨true, none⟩⟩

/-- The command reads, summarises and shows, in this order, and tells a fault of reading only. -/
theorem run_analyze (s : Surroundings σ) (horder : Asks argv outcome owner plan protocol) :
    run s argv = match readOutcome s.files outcome owner plan protocol with
      | .error e => report s.console e s.files s.state
      | .ok r => do
        let summary ← summarize r.outcome (Registry.ofTokens r.tokens) r.position
        let ds ← diagnosesOf summary
        let text ← FileTree.documentText (analysisJson r summary ds)
        return ⟨codeOf summary.success, text, s.files, s.state⟩ := by
  rw [run, horder]
  rfl

/-- A fault of reading that is told ends the command with the line that shows it. -/
theorem run_of_reported (horder : Asks argv outcome owner plan protocol) {e : Error} {line : String}
    (hread : readOutcome s.files outcome owner plan protocol = .error e) (he : e.IsReported)
    (hline : s.console (errorShown e) = .ok line) :
    run s argv = .ok ⟨2, line, s.files, s.state⟩ := by
  have hreported : isReported e = true := he
  rw [run_analyze s horder, hread]
  dsimp only
  rw [report, if_pos hreported, hline]
  rfl

/-! ## After the reading -/

/-- A summary repeats what the node said of the run. -/
theorem of_summarize {o : Outcome} {registry : Registry} {position : Option Position}
    {summary : Summary} (h : summarize o registry position = .ok summary) :
    summary.success = o.success ∧ summary.status = o.status := by
  obtain ⟨writes, -, h⟩ := bind_eq_ok_iff.1 h
  obtain ⟨cost, -, h⟩ := bind_eq_ok_iff.1 h
  obtain rfl := Except.ok.inj h
  exact ⟨rfl, rfl⟩

/-- A failure is diagnosed unless the code of its abort has too many digits. -/
theorem diagnosesOf_eq_error_iff {o : Outcome} {registry : Registry} {position : Option Position}
    {summary : Summary} (h : summarize o registry position = .ok summary) {e : Error} :
    diagnosesOf summary = .error e ↔
      o.success = false ∧ Diagnosis.parseAbort o.status = .error e := by
  obtain ⟨hsuccess, hstatus⟩ := of_summarize h
  rw [diagnosesOf, Diagnosis.diagnoseOutcome, hsuccess, hstatus]
  cases o.success <;> simp [Diagnosis.diagnose_eq_error_iff]

/-- A document cannot be shown exactly if an integer in it has too many digits. -/
theorem documentText_eq_error_iff {j : Json} {e : Error} :
    FileTree.documentText j = .error e ↔ j.isWritable = false ∧ e = .tooManyDigits := by
  unfold FileTree.documentText
  cases j.isWritable <;> simp [eq_comm]

/-! ## The run -/

/-- Every way in which the command ends, put together from its three stages. -/
theorem analysisEnds (horder : Asks argv outcome owner plan protocol)
    (houtcome : s.files.IsForFile outcome) (hplan : ∀ path ∈ plan, s.files.IsForFile path) :
    AnalysisEnds s outcome owner plan protocol (run s argv) := by
  rw [run_analyze s horder]
  cases hread : readOutcome s.files outcome owner plan protocol with
  | error e =>
    dsimp only
    rcases readOutcome_fails houtcome hplan e hread with he | ⟨rfl, hstray⟩
    · have hreported : isReported e = true := he
      rw [report, if_pos hreported]
      cases hline : s.console (errorShown e) with
      | error fault => exact .escaped (.console hread he hline)
      | ok line => exact .told hread he hline
    · exact .escaped (.reading hread hstray)
  | ok r =>
    simp only [bind, Except.bind, pure, Except.pure]
    cases hsummary : summarize r.outcome (Registry.ofTokens r.tokens) r.position with
    | error e =>
      rcases summarize_fails _ (analyze_of_readOutcome hread) e hsummary with
        ⟨change, hmem, hspoils⟩ | ⟨rfl, hgas⟩
      · exact .escaped (.later hread (.position hmem hspoils))
      · exact .escaped (.later hread (.gas hgas))
    | ok summary =>
      dsimp only
      cases hds : diagnosesOf summary with
      | error e =>
        obtain ⟨hfailed, hcode⟩ := (diagnosesOf_eq_error_iff hsummary).1 hds
        obtain ⟨digits, rfl⟩ := Diagnosis.exists_of_parseAbort_eq_error hcode
        exact .escaped (.later hread (.abort hfailed hcode))
      | ok ds =>
        dsimp only
        cases htext : FileTree.documentText (analysisJson r summary ds) with
        | error e =>
          obtain ⟨hlong, rfl⟩ := documentText_eq_error_iff.1 htext
          exact .escaped (.later hread (.long ⟨summary, ds, hsummary, hds, hlong⟩))
        | ok text =>
          have hcode : codeOf summary.success = if r.outcome.success then 0 else 1 := by
            rw [codeOf, (of_summarize hsummary).1]
          rw [hcode]
          exact .shown hread hsummary hds htext

/-- What is written was read a second time, diagnosed and without long integers. -/
theorem exists_of_run_eq_ok (horder : Asks argv outcome owner plan protocol)
    (hread : readOutcome s.files outcome owner plan protocol = .ok r) {result : Result σ}
    (h : run s argv = .ok result) :
    ∃ summary ds, summarize r.outcome (Registry.ofTokens r.tokens) r.position = .ok summary ∧
      diagnosesOf summary = .ok ds ∧ (analysisJson r summary ds).isWritable = true := by
  rw [run_analyze s horder, hread] at h
  obtain ⟨summary, hsummary, h⟩ := bind_eq_ok_iff.1 h
  obtain ⟨ds, hds, h⟩ := bind_eq_ok_iff.1 h
  obtain ⟨text, htext, -⟩ := bind_eq_ok_iff.1 h
  refine ⟨summary, ds, hsummary, hds, ?_⟩
  by_contra hlong
  rw [documentText_eq_error_iff.2 ⟨Bool.eq_false_of_not_eq_true hlong, rfl⟩] at htext
  cases htext

/-- Where all can be read, an error comes from something that goes wrong later. -/
theorem goesWrong_of_run_eq_error (horder : Asks argv outcome owner plan protocol)
    (houtcome : s.files.IsForFile outcome) (hplan : ∀ path ∈ plan, s.files.IsForFile path)
    (hread : readOutcome s.files outcome owner plan protocol = .ok r) {e : Error}
    (h : run s argv = .error e) : r.GoesWrong e := by
  have hends := analysisEnds horder houtcome hplan
  rw [h] at hends
  cases hends with
  | escaped hescapes =>
    cases hescapes with
    | reading hfails | console hfails =>
      rw [hread] at hfails
      cases hfails
    | later hread' hwrong =>
      obtain rfl := Except.ok.inj (hread.symm.trans hread')
      exact hwrong

/-- What goes wrong later keeps the command from ending in order. -/
theorem Evidence.GoesWrong.run_ne_ok (horder : Asks argv outcome owner plan protocol)
    (hread : readOutcome s.files outcome owner plan protocol = .ok r) {e : Error}
    (hwrong : r.GoesWrong e) (result : Result σ) : run s argv ≠ .ok result := by
  intro h
  -- the last thing that went well rules out each way of going wrong before it
  obtain ⟨summary, ds, hsummary, hds, hwritable⟩ := exists_of_run_eq_ok horder hread h
  have hfine : ¬∃ e, summarize r.outcome (Registry.ofTokens r.tokens) r.position = .error e := by
    simp [hsummary]
  rw [exists_summarize_eq_error_iff _ (analyze_of_readOutcome hread), not_or] at hfine
  cases hwrong with
  | position hmem hspoils => exact hfine.1 ⟨_, hmem, _, hspoils⟩
  | gas hgas => exact hfine.2 hgas
  | abort hfailed hcode =>
    rw [(diagnosesOf_eq_error_iff hsummary).2 ⟨hfailed, hcode⟩] at hds
    cases hds
  | long hlong =>
    obtain ⟨summary', ds', hsummary', hds', hlong⟩ := hlong
    obtain rfl := Except.ok.inj (hsummary.symm.trans hsummary')
    obtain rfl := Except.ok.inj (hds.symm.trans hds')
    rw [hlong] at hwritable
    cases hwritable

/-- What there is to tell of an analysis. -/
structure AnalysisSettled (s : Surroundings σ) (outcome owner : String)
    (plan protocol : Option String) : Prop where
  /-- It can be asked for, whatever the owner, the plan and the protocol are. -/
  asked : outcome.toList.head? ≠ some '-' →
    Asks (asking outcome owner plan protocol) outcome owner plan protocol
  /-- However it is asked for, it is shown or told, or ends in a way that is named. -/
  ends : ∀ argv, Asks argv outcome owner plan protocol →
    AnalysisEnds s outcome owner plan protocol (run s argv)
  /-- On a console that shows everything, what is wrong with the input is told, and nothing is written. -/
  told : s.console.Shows → ∀ argv, Asks argv outcome owner plan protocol → ∀ e,
    readOutcome s.files outcome owner plan protocol = .error e → e.IsReported →
      ∃ line, s.console (errorShown e) = .ok line ∧ run s argv = .ok ⟨2, line, s.files, s.state⟩
  /-- Where all can be read, an error is raised just where a position is wrong, the cost of the gas is
  out of range, or the code of an abort or an integer of the report has too many digits. -/
  raised : ∀ argv, Asks argv outcome owner plan protocol → ∀ r,
    readOutcome s.files outcome owner plan protocol = .ok r →
      ((∃ e, run s argv = .error e) ↔ ∃ e, r.GoesWrong e)

/-- **An analysis is shown or told**, but for what it cannot go through, what the console does not show,
and what is found wrong only after the reading. -/
theorem analysis_ends_as_declared (s : Surroundings σ) (houtcome : s.files.IsForFile outcome)
    (hplan : ∀ path ∈ plan, s.files.IsForFile path) :
    AnalysisSettled s outcome owner plan protocol where
  asked := readOrder_asking
  ends _ horder := analysisEnds horder houtcome hplan
  told hshows argv horder e hread he := by
    obtain ⟨line, hline⟩ := hshows (errorShown e)
    exact ⟨line, hline, run_of_reported horder hread he hline⟩
  raised argv horder r hread := by
    constructor
    · rintro ⟨e, h⟩
      exact ⟨e, goesWrong_of_run_eq_error horder houtcome hplan hread h⟩
    · rintro ⟨e, hwrong⟩
      cases h : run s argv with
      | error e' => exact ⟨e', rfl⟩
      | ok result => exact absurd h (hwrong.run_ne_ok horder hread result)

/-! ## A position that is not tracked -/

/-- A command line for an outcome in a file. -/
def analyzing : List String := ["analyze", "outcome.json", "--owner", "0x1", "--json"]

/-- Where there is a file with an outcome, a console that shows lines as they are, and no node. -/
def deskWith (text : String) : Surroundings Unit where
  defaults := default
  env := []
  files := ⟨[(["outcome.json"], .file (.text text))]⟩
  transport := fun _ s => (.ok (.failed ""), s)
  console
    | .line shown => .ok (shown ++ "\n")
    | _ => .ok ""
  state := ()

theorem isForFile_deskWith (text : String) : (deskWith text).files.IsForFile "outcome.json" := by
  have hplace : (deskWith text).files.resolve (Path.parse "outcome.json") = .ok ["outcome.json"] := by
    rfl
  have hnode : (deskWith text).files.node? ["outcome.json"] = some (.file (.text text)) := by rfl
  refine ⟨["outcome.json"], hplace, fun n hn => ⟨.text text, ?_⟩⟩
  rw [hnode, Option.some.injEq] at hn
  exact hn.symm

theorem asks_analyzing : Asks analyzing "outcome.json" "0x1" none none := by
  rfl

/-- An outcome with a collateral that is no amount. -/
def spoiled : String :=
  "\x7b\"changes\":[\x7b\"type\":\"write_resource\",\"data\":" ++
  "\x7b\"type\":\"0xa::lending::Vault\",\"data\":" ++
  "\x7b\"collaterals\":\x7b\"data\":[\x7b\"value\":\"\"\x7d]\x7d\x7d\x7d\x7d]\x7d"

theorem analysis_ends_spoiled : (deskWith spoiled).files.IsForFile "outcome.json" ∧
    Asks analyzing "outcome.json" "0x1" none none ∧
    AnalysisEnds (deskWith spoiled) "outcome.json" "0x1" none none
      (run (deskWith spoiled) analyzing) :=
  ⟨isForFile_deskWith spoiled, asks_analyzing,
    (analysis_ends_as_declared (deskWith spoiled) (isForFile_deskWith spoiled) (by simp)).ends
      analyzing asks_analyzing⟩

/-- A position that is not tracked is raised; if it is tracked, it is told what is wrong with it. -/
theorem analysis_raises_untracked : (deskWith spoiled).files.IsForFile "outcome.json" ∧
    (∃ e, run (deskWith spoiled) analyzing = .error e) ∧
    ∃ r, run (deskWith spoiled) (analyzing ++ ["--vault-protocol", "0xa"]) = .ok r ∧
      r.exitCode = 2 := by
  have hboth : ((match run (deskWith spoiled) analyzing with
      | .error _ => true
      | .ok _ => false) &&
      (match run (deskWith spoiled) (analyzing ++ ["--vault-protocol", "0xa"]) with
      | .error _ => false
      | .ok r => r.exitCode == 2)) = true := by decide +kernel
  rw [Bool.and_eq_true] at hboth
  obtain ⟨hraised, htold⟩ := hboth
  refine ⟨isForFile_deskWith spoiled, ?_, ?_⟩
  · split at hraised
    next e h => exact ⟨e, h⟩
    next => cases hraised
  · split at htold
    next => cases htold
    next r h => exact ⟨r, h, beq_iff_eq.1 htold⟩

end Cli

end MovePlan
