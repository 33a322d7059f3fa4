import LogicalVolumes.Proofs.Run.Reading

/-! A dry run is the real run with its last command shown instead of run. -/

namespace LogicalVolumes

open Dialogue

def IsReport (desired : DesiredState) (command : CommandLine) : Prop :=
  ∃ program,
    command = .reportGroup program desired.groupName ∨ command = .reportVolume program desired.volumeName

/-- Two dialogues that differ in their last command only, which the second one shows with `echo`; the number
is that of the commands before. -/
inductive Displayed {α : Type} (echo : String) (desired : DesiredState) :
    Nat → Dialogue α → Dialogue α → Prop
  | done (n : Nat) (result : α) : Displayed echo desired n (.done result) (.done result)
  | resolve {n : Nat} {name : String} {next shown : Except Fault String → Dialogue α} :
      (∀ path, Displayed echo desired n (next path) (shown path)) →
      Displayed echo desired n (.resolve name next) (.resolve name shown)
  | report {n : Nat} {command : CommandLine} {next shown : Except Fault CommandOutput → Dialogue α} :
      n < 2 → IsReport desired command →
      (∀ reply, Displayed echo desired (n + 1) (next reply) (shown reply)) →
      Displayed echo desired n (.execute command next) (.execute command shown)
  | last {command : CommandLine} {next shown : Except Fault CommandOutput → Dialogue α}
      {result : Except Fault CommandOutput → α} : (∀ reply, next reply = .done (result reply)) →
      (∀ reply, shown reply = .done (result reply)) →
      Displayed echo desired 2 (.execute command next) (.execute (command.echoed echo) shown)

/-- Two transcripts that are the same up to a third command. -/
inductive ShownLast {α : Type} (echo : String) : Transcript α → Transcript α → Prop
  | alike {run : Transcript α} : (commands run.exchanges).length ≤ 2 → ShownLast echo run run
  | last {before : List Exchange} {command : CommandLine} {result : Except Fault CommandOutput → α}
      (reply other : Except Fault CommandOutput) : (commands before).length = 2 →
      ShownLast echo ⟨before ++ [.executed command reply], result reply⟩
        ⟨before ++ [.executed (command.echoed echo) other], result other⟩

/-- Asked what was asked in `exchanges`, and after the same exchanges, the runner finds the same programs and
gives the same replies to the two reports. -/
structure AnswersAlike (desired : DesiredState) (exchanges : List Exchange) (runner : Runner) : Prop where
  resolved : ∀ before name path, before ++ [.resolved name path] <+: exchanges →
    runner.resolve before name = path
  reported : ∀ before command reply, IsReport desired command →
    before ++ [.executed command reply] <+: exchanges → runner.execute before command = reply

section

variable {α : Type} {echo : String} {desired : DesiredState} {n : Nat} {real shown : Dialogue α}
  {runner other : Runner} {past : List Exchange}

def Transcript.after (past : List Exchange) (run : Transcript α) : Transcript α :=
  ⟨past ++ run.exchanges, run.result⟩

lemma playAfter_resolve (name : String) (next : Except Fault String → Dialogue α) :
    ((Dialogue.resolve name next).playAfter runner past).after past =
      ((next (runner.resolve past name)).playAfter runner
        (past ++ [.resolved name (runner.resolve past name)])).after
        (past ++ [.resolved name (runner.resolve past name)]) := by
  simp [Transcript.after, playAfter]

lemma playAfter_execute (command : CommandLine) (next : Except Fault CommandOutput → Dialogue α) :
    ((Dialogue.execute command next).playAfter runner past).after past =
      ((next (runner.execute past command)).playAfter runner
        (past ++ [.executed command (runner.execute past command)])).after
        (past ++ [.executed command (runner.execute past command)]) := by
  simp [Transcript.after, playAfter]

lemma Displayed.shownLast (h : Displayed echo desired n real shown) (hn : n ≤ 2)
    (hpast : (commands past).length = n)
    (hsame : AnswersAlike desired ((real.playAfter runner past).after past).exchanges other) :
    ShownLast echo ((real.playAfter runner past).after past) ((shown.playAfter other past).after past) := by
  induction h generalizing past with
  | done n result =>
    refine .alike ?_
    simpa [Transcript.after, playAfter, hpast] using hn
  | @resolve n name next shown _ ih =>
    rw [playAfter_resolve] at hsame ⊢
    have hpath := hsame.resolved past name _ (List.prefix_append _ _)
    rw [playAfter_resolve, hpath]
    exact ih _ hn (by simpa [commands_append] using hpast) hsame
  | @report n command next shown htwo hreport _ ih =>
    rw [playAfter_execute] at hsame ⊢
    have hreply := hsame.reported past command _ hreport (List.prefix_append _ _)
    rw [playAfter_execute, hreply]
    exact ih _ htwo (by simp [commands_append, hpast]) hsame
  | @last command next shown result hnext hshown =>
    rw [playAfter_execute, playAfter_execute, hnext, hshown]
    simpa [Transcript.after, playAfter] using .last _ _ hpast

lemma Displayed.shownLast_play (h : Displayed echo desired 0 real shown)
    (hsame : AnswersAlike desired (real.play runner).exchanges other) :
    ShownLast echo (real.play runner) (shown.play other) := by
  have hnone : (commands []).length = 0 := rfl
  exact h.shownLast (Nat.zero_le _) hnone hsame

lemma Displayed.resolving {α : Type} {name : String} {next shown : String → Dialogue (Except Fault α)}
    (h : ∀ path, Displayed echo desired n (next path) (shown path)) :
    Displayed echo desired n (resolving name next) (resolving name shown) :=
  .resolve fun found =>
    match found with
    | .error _ => .done n _
    | .ok path => h path

lemma Displayed.executing {α : Type} {command : CommandLine}
    {next shown : CommandOutput → Dialogue (Except Fault α)} (hn : n < 2) (hreport : IsReport desired command)
    (h : ∀ output, Displayed echo desired (n + 1) (next output) (shown output)) :
    Displayed echo desired n (executing command next) (executing command shown) :=
  .report hn hreport fun reply =>
    match reply with
    | .error _ => .done _ _
    | .ok output => h output

end

section

/-- How a run ends, by the reply to the command that makes the change. -/
def changeResult (volume : String) (change : Change) :
    Except Fault CommandOutput → Except Fault RunOutcome
  | .error fault => .error fault
  | .ok output =>
    if output.succeeded then .ok (.changed volume change)
    else .error (.commandFailed (.make volume change) output)

/-- After the program has been found, the reply to one command decides how the run ends. -/
lemma makeChange_eq_changeResult (settings : RunSettings) (desired : DesiredState) (change : Change) :
    makeChange settings desired change =
      resolving (settings.binaries.forChange change) fun program =>
        .execute (settings.issued desired program change) fun reply =>
          .done (changeResult desired.volumeName change reply) := by
  rw [makeChange_eq]
  congr 1
  funext program
  unfold executing
  congr 1
  funext reply
  cases reply with
  | error cause => rfl
  | ok output => cases hs : output.succeeded <;> simp [changeResult, hs, fail]

variable (binaries : Binaries) (desired : DesiredState)

lemma makeChange_displayed (change : Change) : Displayed binaries.echo desired 2
    (makeChange ⟨false, binaries⟩ desired change) (makeChange ⟨true, binaries⟩ desired change) := by
  rw [makeChange_eq_changeResult, makeChange_eq_changeResult]
  refine Displayed.resolving fun program => ?_
  exact .last (fun _ => rfl) (fun _ => rfl)

lemma carryOut_displayed (group : GroupFacts) (volume : Option VolumeFacts) :
    Displayed binaries.echo desired 2 (carryOut ⟨false, binaries⟩ desired group volume)
      (carryOut ⟨true, binaries⟩ desired group volume) := by
  unfold carryOut
  cases plan desired group volume with
  | error fault => exact .done _ _
  | ok action =>
    cases action with
    | keep reason => exact .done _ _
    | change change => exact makeChange_displayed binaries desired change

lemma withVolume_displayed (lslv : String) (group : GroupFacts) : Displayed binaries.echo desired 1
    (withVolume ⟨false, binaries⟩ desired lslv group) (withVolume ⟨true, binaries⟩ desired lslv group) := by
  refine Displayed.executing (by omega) ⟨lslv, .inr rfl⟩ fun output => ?_
  cases volumeReport output with
  | error fault => exact .done _ _
  | ok volume => exact carryOut_displayed binaries desired group volume

lemma withGroup_displayed (lsvg lslv : String) : Displayed binaries.echo desired 0
    (withGroup ⟨false, binaries⟩ desired lsvg lslv) (withGroup ⟨true, binaries⟩ desired lsvg lslv) := by
  refine Displayed.executing (by omega) ⟨lsvg, .inl rfl⟩ fun output => ?_
  cases groupReport output with
  | error fault => exact .done _ _
  | ok read =>
    cases read with
    | some group => exact withVolume_displayed binaries desired lslv group
    | none => cases desired.presence <;> exact .done _ _

lemma reconcile_displayed : Displayed binaries.echo desired 0
    (reconcile ⟨false, binaries⟩ desired) (reconcile ⟨true, binaries⟩ desired) := by
  unfold reconcile
  cases desired.validate with
  | error cause => exact .done _ _
  | ok _ => exact .resolving fun lsvg => .resolving fun lslv => withGroup_displayed binaries desired lsvg lslv

end

def Exchange.resolution? : Exchange → Option (String × Except Fault String)
  | .resolved name path => some (name, path)
  | .executed _ _ => none

def resolutions (exchanges : List Exchange) : List (String × Except Fault String) :=
  exchanges.filterMap Exchange.resolution?

/-- The command is a report by the program found for it, or is shown with `echo`. -/
def OnlyShown (binaries : Binaries) (desired : DesiredState) (exchanges : List Exchange)
    (command : CommandLine) : Prop :=
  (∃ lsvg, .resolved binaries.lsvg (.ok lsvg) ∈ exchanges ∧ command = .reportGroup lsvg desired.groupName) ∨
  (∃ lslv, .resolved binaries.lslv (.ok lslv) ∈ exchanges ∧
    command = .reportVolume lslv desired.volumeName) ∨
  ∃ program args, command = ⟨binaries.echo, program :: args⟩

structure DryRunOf (binaries : Binaries) (desired : DesiredState)
    (real dry : Transcript (Except Fault RunOutcome)) : Prop where
  same_resolutions : resolutions dry.exchanges = resolutions real.exchanges
  same_reports : (executions dry.exchanges).take 2 = (executions real.exchanges).take 2
  at_most_three : (commands real.exchanges).length ≤ 3 ∧ (commands dry.exchanges).length ≤ 3
  third_iff : ∀ program args, (commands real.exchanges)[2]? = some ⟨program, args⟩ ↔
    (commands dry.exchanges)[2]? = some ⟨binaries.echo, program :: args⟩
  third_shown : ∀ command, (commands dry.exchanges)[2]? = some command →
    ∃ program args, command = ⟨binaries.echo, program :: args⟩
  only_shown : ∀ command ∈ commands dry.exchanges, OnlyShown binaries desired dry.exchanges command
  same_early : (commands real.exchanges).length ≤ 2 ∨ (commands dry.exchanges).length ≤ 2 → dry = real
  same_end : ∀ third shown reply, (executions real.exchanges)[2]? = some (third, reply) →
    (executions dry.exchanges)[2]? = some (shown, reply) → dry.result = real.result

section

variable {α : Type} {echo : String} {real dry : Transcript α} {binaries : Binaries} {desired : DesiredState}
  {exchanges : List Exchange} {result : Except Fault RunOutcome} {runner : Runner} {past : List Exchange}

lemma ShownLast.same_resolutions (h : ShownLast echo real dry) :
    resolutions dry.exchanges = resolutions real.exchanges := by
  cases h with
  | alike _ => rfl
  | last reply other _ =>
    simp only [resolutions, List.filterMap_append]
    rfl

lemma ShownLast.same_reports (h : ShownLast echo real dry) :
    (executions dry.exchanges).take 2 = (executions real.exchanges).take 2 := by
  cases h with
  | alike _ => rfl
  | last reply other hbefore =>
    rw [← executions_length] at hbefore
    simp [executions_append, List.take_left' hbefore]

lemma ShownLast.third_iff (h : ShownLast echo real dry) (program : String) (args : List String) :
    (commands real.exchanges)[2]? = some ⟨program, args⟩ ↔
      (commands dry.exchanges)[2]? = some ⟨echo, program :: args⟩ := by
  cases h with
  | alike hfew =>
    rw [List.getElem?_eq_none hfew]
    simp
  | @last before command _ reply other hbefore =>
    cases command
    simp [commands_append, hbefore, CommandLine.echoed]

lemma ShownLast.third_shown (h : ShownLast echo real dry) {command : CommandLine}
    (hthird : (commands dry.exchanges)[2]? = some command) :
    ∃ program args, command = ⟨echo, program :: args⟩ := by
  cases h with
  | alike hfew => simp [List.getElem?_eq_none hfew] at hthird
  | last reply other hbefore =>
    simp only [commands_append, commands_executed, commands_nil, ← hbefore, List.getElem?_concat_length,
      Option.some.injEq] at hthird
    exact ⟨_, _, hthird.symm⟩

lemma ShownLast.same_early (h : ShownLast echo real dry)
    (hfew : (commands real.exchanges).length ≤ 2 ∨ (commands dry.exchanges).length ≤ 2) : dry = real := by
  cases h with
  | alike _ => rfl
  | last reply other hbefore => simp [commands_append, hbefore] at hfew

lemma ShownLast.same_end (h : ShownLast echo real dry) {third shown : CommandLine}
    {reply : Except Fault CommandOutput} (hreal : (executions real.exchanges)[2]? = some (third, reply))
    (hdry : (executions dry.exchanges)[2]? = some (shown, reply)) : dry.result = real.result := by
  cases h with
  | alike _ => rfl
  | last reply other hbefore =>
    rw [← executions_length] at hbefore
    simp only [executions_append, executions_executed, executions_nil, ← hbefore,
      List.getElem?_concat_length, Option.some.injEq, Prod.mk.injEq] at hreal hdry
    rw [hreal.2, hdry.2]

lemma Course.onlyShown (h : Course ⟨true, binaries⟩ desired exchanges result) :
    ∀ command ∈ commands exchanges, OnlyShown binaries desired exchanges command := by
  intro command hcommand
  rcases h.command_origin hcommand with hgroup | hvolume | ⟨_, _, _, hgrounded⟩
  · exact .inl hgroup
  · exact .inr (.inl hvolume)
  · obtain ⟨_, _, _, _, _, _, _, change, _, _, _, _, _, _, _, _, hthird⟩ := hgrounded
    exact .inr (.inr ⟨_, _, hthird⟩)

lemma Course.at_most_three {settings : RunSettings} (h : Course settings desired exchanges result) :
    (commands exchanges).length ≤ 3 := by
  obtain ⟨_, _, _, horderly⟩ := h.orderly
  exact horderly.commands_prefix.length_le

end

section

variable {α : Type} {runner : Runner} {past : List Exchange}

def Exchange.AnsweredBy (runner : Runner) (before : List Exchange) : Exchange → Prop
  | .resolved name path => runner.resolve before name = path
  | .executed command reply => runner.execute before command = reply

def Answered (runner : Runner) (exchanges : List Exchange) : Prop :=
  ∀ before e, before ++ [e] <+: exchanges → e.AnsweredBy runner before

lemma Answered.concat {e : Exchange} (h : Answered runner past) (he : e.AnsweredBy runner past) :
    Answered runner (past ++ [e]) := by
  intro before d hd
  rcases List.prefix_concat_iff.mp hd with heq | hd
  · obtain ⟨rfl, hlast⟩ := List.append_inj' heq rfl
    cases hlast
    exact he
  · exact h before d hd

/-- A transcript holds the runner's own answers. -/
lemma answered_playAfter (dialogue : Dialogue α) (hpast : Answered runner past) :
    Answered runner ((dialogue.playAfter runner past).after past).exchanges := by
  induction dialogue generalizing past with
  | done result => simpa [Transcript.after, playAfter] using hpast
  | resolve name next ih =>
    rw [playAfter_resolve]
    exact ih _ (hpast.concat rfl)
  | execute command next ih =>
    rw [playAfter_execute]
    exact ih _ (hpast.concat rfl)

lemma answered_play (dialogue : Dialogue α) (runner : Runner) :
    Answered runner (dialogue.play runner).exchanges := by
  have hnone : Answered runner [] := fun before e h => by simp at h
  exact answered_playAfter dialogue hnone

lemma answersAlike_self (desired : DesiredState) (dialogue : Dialogue α) (runner : Runner) :
    AnswersAlike desired (dialogue.play runner).exchanges runner where
  resolved before _ _ h := answered_play dialogue runner before _ h
  reported before _ _ _ h := answered_play dialogue runner before _ h

end

/-- A dry run asks for the programs and the reports that the real run asks for, and then shows with `echo` the
command that the real run runs. -/
theorem dry_run_shows_last_command (binaries : Binaries) (desired : DesiredState) (runner other : Runner)
    (hsame : AnswersAlike desired ((reconcile ⟨false, binaries⟩ desired).play runner).exchanges other) :
    DryRunOf binaries desired ((reconcile ⟨false, binaries⟩ desired).play runner)
      ((reconcile ⟨true, binaries⟩ desired).play other) := by
  have hreal := reconcile_course ⟨false, binaries⟩ desired runner
  have hdry := reconcile_course ⟨true, binaries⟩ desired other
  have hshown := (reconcile_displayed binaries desired).shownLast_play hsame
  exact {
    same_resolutions := hshown.same_resolutions
    same_reports := hshown.same_reports
    at_most_three := ⟨hreal.at_most_three, hdry.at_most_three⟩
    third_iff := hshown.third_iff
    third_shown := fun _ => hshown.third_shown
    only_shown := hdry.onlyShown
    same_early := hshown.same_early
    same_end := fun _ _ _ => hshown.same_end }

def removedVolume : DesiredState := { DesiredState.ofNames "datavg" "testlv" with presence := .absent }

def sampleRemoval (dryRun : Bool) : Transcript (Except Fault RunOutcome) :=
  (reconcile ⟨dryRun, {}⟩ removedVolume).play (sampleScript "testlv" "datavg").runner

lemma sampleRemoval_commands : commands (sampleRemoval false).exchanges =
    [.reportGroup "/usr/sbin/lsvg" "datavg", .reportVolume "/usr/sbin/lslv" "testlv",
      .removeVolume "/usr/sbin/rmlv" "testlv"] := by
  have hholds : (sampleSurvey "testlv" "datavg").Holds (sampleScript "testlv" "datavg").runner {}
      removedVolume := sampleSurvey_holds (by decide +kernel) (by decide +kernel) rfl
  have hfacts : (sampleSurvey "testlv" "datavg").facts? =
      some ⟨"testlv", String.ofList ("datavg".toList.takeWhile Text.isWord), 16 * 32, .maximum⟩ :=
    if_pos (by decide +kernel)
  rw [sampleRemoval, hholds.reconcile, hfacts, Survey.commands_exchanges]
  simp only [carryOut, plan, removedVolume, makeChange_commands]
  rfl

theorem removal_shown_not_run :
    AnswersAlike removedVolume (sampleRemoval false).exchanges (sampleScript "testlv" "datavg").runner ∧
    (commands (sampleRemoval false).exchanges)[2]? = some ⟨"/usr/sbin/rmlv", ["-f", "testlv"]⟩ ∧
    (commands (sampleRemoval true).exchanges)[2]? = some ⟨"echo", ["/usr/sbin/rmlv", "-f", "testlv"]⟩ ∧
    DryRunOf {} removedVolume (sampleRemoval false) (sampleRemoval true) := by
  have hsame : AnswersAlike removedVolume (sampleRemoval false).exchanges
      (sampleScript "testlv" "datavg").runner :=
    answersAlike_self removedVolume (reconcile ⟨false, {}⟩ removedVolume) _
  have hdry : DryRunOf {} removedVolume (sampleRemoval false) (sampleRemoval true) :=
    dry_run_shows_last_command {} removedVolume _ _ hsame
  have hthird : (commands (sampleRemoval false).exchanges)[2]? =
      some ⟨"/usr/sbin/rmlv", ["-f", "testlv"]⟩ := by
    rw [sampleRemoval_commands]
    rfl
  have hshown := (hdry.third_iff "/usr/sbin/rmlv" ["-f", "testlv"]).mp hthird
  exact ⟨hsame, hthird, hshown, hdry⟩

end LogicalVolumes
