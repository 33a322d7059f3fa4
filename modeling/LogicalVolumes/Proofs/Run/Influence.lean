import LogicalVolumes.Proofs.Run.DryRun

/-! What the fields that lay a new volume out can do in a run: nothing, unless the run makes one. -/

namespace LogicalVolumes

open Dialogue

/-- Two valid states with the same names and presence. Size and policy may differ as well where the volume
should be absent. -/
structure AskAlike (desired other : DesiredState) : Prop where
  valid : desired.validate = .ok ()
  other_valid : other.validate = .ok ()
  group : other.groupName = desired.groupName
  volume : other.volumeName = desired.volumeName
  presence : other.presence = desired.presence
  size : desired.presence = .present → other.size = desired.size
  policy : desired.presence = .present → other.policy = desired.policy

/-- The second command reports on the volume, and its reply is read as there being none. -/
def ReadsAbsent (desired : DesiredState) (exchanges : List Exchange) : Prop :=
  ∃ lslv output, (executions exchanges)[1]? = some (.reportVolume lslv desired.volumeName, .ok output) ∧
    volumeReport output = .ok none

def DesiredState.layout (desired : DesiredState) (size : Megabytes) : VolumeLayout where
  size := size
  volumeType := desired.volumeType
  copies := desired.copies
  policy := desired.policy
  options := desired.extraOptions
  physicalVolumes := desired.physicalVolumes

/-- Two dialogues after the exchanges `past` that ask for the same until one of them makes a new volume as
`desired` lays it out, and the other one as `other` does. -/
inductive Parting (settings : RunSettings) (desired other : DesiredState) : List Exchange →
    Dialogue (Except Fault RunOutcome) → Dialogue (Except Fault RunOutcome) → Prop
  | done (past : List Exchange) (result : Except Fault RunOutcome) :
      Parting settings desired other past (.done result) (.done result)
  | resolve {past : List Exchange} {name : String}
      {next next' : Except Fault String → Dialogue (Except Fault RunOutcome)} :
      (∀ path, Parting settings desired other (past ++ [.resolved name path]) (next path) (next' path)) →
      Parting settings desired other past (.resolve name next) (.resolve name next')
  | execute {past : List Exchange} {command : CommandLine}
      {next next' : Except Fault CommandOutput → Dialogue (Except Fault RunOutcome)} :
      (∀ reply, Parting settings desired other (past ++ [.executed command reply]) (next reply)
        (next' reply)) →
      Parting settings desired other past (.execute command next) (.execute command next')
  | create {past : List Exchange} {program : String} {size : Megabytes}
      {next next' : Except Fault CommandOutput → Dialogue (Except Fault RunOutcome)}
      {result result' : Except Fault CommandOutput → Except Fault RunOutcome} :
      desired.presence = .present → ReadsAbsent desired past → (commands past).length = 2 →
      .resolved settings.binaries.mklv (.ok program) ∈ past →
      (∀ reply, next reply = .done (result reply)) → (∀ reply, next' reply = .done (result' reply)) →
      Parting settings desired other past
        (.execute (settings.issued desired program (.create (desired.layout size))) next)
        (.execute (settings.issued other program (.create (other.layout size))) next')

inductive PartsLast (settings : RunSettings) (desired other : DesiredState) :
    Transcript (Except Fault RunOutcome) → Transcript (Except Fault RunOutcome) → Prop
  | alike (run : Transcript (Except Fault RunOutcome)) : PartsLast settings desired other run run
  | create {before : List Exchange} {program : String} {size : Megabytes}
      (reply reply' : Except Fault CommandOutput) (result result' : Except Fault RunOutcome) :
      desired.presence = .present → ReadsAbsent desired before → (commands before).length = 2 →
      .resolved settings.binaries.mklv (.ok program) ∈ before →
      PartsLast settings desired other
        ⟨before ++ [.executed (settings.issued desired program (.create (desired.layout size))) reply], result⟩
        ⟨before ++ [.executed (settings.issued other program (.create (other.layout size))) reply'], result'⟩

lemma ReadsAbsent.append {desired : DesiredState} {past : List Exchange} (h : ReadsAbsent desired past)
    (exchanges : List Exchange) : ReadsAbsent desired (past ++ exchanges) := by
  obtain ⟨lslv, output, hsecond, hread⟩ := h
  refine ⟨lslv, output, ?_, hread⟩
  obtain ⟨hlength, -⟩ := List.getElem?_eq_some_iff.mp hsecond
  rw [executions_append, List.getElem?_append_left hlength, hsecond]

section

variable {settings : RunSettings} {desired other : DesiredState} {past : List Exchange}
  {left right : Dialogue (Except Fault RunOutcome)}

lemma Parting.refl (past : List Exchange) (dialogue : Dialogue (Except Fault RunOutcome)) :
    Parting settings desired other past dialogue dialogue := by
  induction dialogue generalizing past with
  | done result => exact .done past result
  | resolve name next ih => exact .resolve fun path => ih path _
  | execute command next ih => exact .execute fun reply => ih reply _

lemma Parting.resolving {name : String} {next next' : String → Dialogue (Except Fault RunOutcome)}
    (h : ∀ path, Parting settings desired other (past ++ [.resolved name (.ok path)]) (next path)
      (next' path)) :
    Parting settings desired other past (resolving name next) (resolving name next') :=
  .resolve fun found =>
    match found with
    | .error _ => .done _ _
    | .ok path => h path

lemma Parting.executing {command : CommandLine}
    {next next' : CommandOutput → Dialogue (Except Fault RunOutcome)}
    (h : ∀ output, Parting settings desired other (past ++ [.executed command (.ok output)]) (next output)
      (next' output)) :
    Parting settings desired other past (executing command next) (executing command next') :=
  .execute fun reply =>
    match reply with
    | .error _ => .done _ _
    | .ok output => h output

lemma Parting.makeChange (hpresent : desired.presence = .present) (habsent : ReadsAbsent desired past)
    (htwo : (commands past).length = 2) (size : Megabytes) :
    Parting settings desired other past (makeChange settings desired (.create (desired.layout size)))
      (makeChange settings other (.create (other.layout size))) := by
  rw [makeChange_eq_changeResult, makeChange_eq_changeResult]
  refine .resolving fun program => ?_
  have htwo' : (commands (past ++ [.resolved settings.binaries.mklv (.ok program)])).length = 2 := by
    simpa [commands_append] using htwo
  exact .create hpresent (habsent.append _) htwo' List.mem_concat_self (fun _ => rfl) (fun _ => rfl)

lemma Parting.partsLast (h : Parting settings desired other past left right) (runner : Runner) :
    PartsLast settings desired other ((left.playAfter runner past).after past)
      ((right.playAfter runner past).after past) := by
  -- one runner answers both, so that the exchanges are the same as long as the questions are
  induction h with
  | done past result => exact .alike _
  | resolve _ ih =>
    rw [playAfter_resolve, playAfter_resolve]
    exact ih _
  | execute _ ih =>
    rw [playAfter_execute, playAfter_execute]
    exact ih _
  | create hpresent habsent htwo hmklv hnext hnext' =>
    rw [playAfter_execute, playAfter_execute, hnext, hnext']
    simpa [Transcript.after, playAfter] using .create _ _ _ _ hpresent habsent htwo hmklv

end

section

variable {desired other : DesiredState} (h : AskAlike desired other)

include h

lemma AskAlike.planUpdate (hpresent : desired.presence = .present) (group : GroupFacts)
    (volume : VolumeFacts) : planUpdate other group volume = planUpdate desired group volume := by
  simp only [LogicalVolumes.planUpdate, h.policy hpresent, h.group, h.volume, h.size hpresent]

lemma AskAlike.planCreation (hpresent : desired.presence = .present) (group : GroupFacts) :
    planCreation other group = planCreation desired group ∨
      ∃ size, planCreation desired group = .ok (.change (.create (desired.layout size))) ∧
        planCreation other group = .ok (.change (.create (other.layout size))) := by
  unfold LogicalVolumes.planCreation
  rw [h.size hpresent, h.volume]
  cases desired.size with
  | none => simp only [true_or]
  | some text =>
    cases htarget : targetSize text group.unitSize with
    | error fault => simp only [htarget, true_or]
    | ok size =>
      by_cases hfree : group.freeCapacity < size
      · simp only [htarget, if_pos hfree, true_or]
      · simp only [htarget, if_neg hfree]
        exact .inr ⟨size, rfl, rfl⟩

lemma AskAlike.plan (group : GroupFacts) (volume : Option VolumeFacts) :
    plan other group volume = plan desired group volume ∨
      desired.presence = .present ∧ volume = none ∧
        ∃ size, plan desired group volume = .ok (.change (.create (desired.layout size))) ∧
          plan other group volume = .ok (.change (.create (other.layout size))) := by
  unfold LogicalVolumes.plan
  rw [h.presence]
  cases hp : desired.presence with
  | absent => cases volume <;> exact .inl rfl
  | present =>
    cases volume with
    | some volume => exact .inl (h.planUpdate hp group volume)
    | none => exact (h.planCreation hp group).imp_right fun hcreate => ⟨rfl, rfl, hcreate⟩

lemma AskAlike.makeChange (settings : RunSettings) (change : Change) :
    makeChange settings other change = makeChange settings desired change := by
  have hforChange (program : String) :
      CommandLine.forChange program other change = CommandLine.forChange program desired change := by
    cases change <;> simp only [CommandLine.forChange, h.group, h.volume]
  simp only [Dialogue.makeChange, hforChange, h.volume]

variable (settings : RunSettings) {past : List Exchange}

lemma AskAlike.carryOut_parting (group : GroupFacts) (volume : Option VolumeFacts)
    (htwo : (commands past).length = 2) (hread : volume = none → ReadsAbsent desired past) :
    Parting settings desired other past (carryOut settings desired group volume)
      (carryOut settings other group volume) := by
  unfold carryOut
  rcases h.plan group volume with hplan | ⟨hpresent, hnone, size, hplan, hother⟩
  · rw [hplan, h.volume]
    simp only [h.makeChange]
    exact .refl _ _
  · rw [hplan, hother]
    exact .makeChange hpresent (hread hnone) htwo size

lemma AskAlike.withVolume_parting (lslv : String) (group : GroupFacts) (hone : (commands past).length = 1) :
    Parting settings desired other past (withVolume settings desired lslv group)
      (withVolume settings other lslv group) := by
  unfold withVolume
  rw [h.volume]
  refine .executing fun output => ?_
  cases hv : volumeReport output with
  | error fault => exact .refl _ _
  | ok volume =>
    refine h.carryOut_parting settings group volume (by simp [commands_append, hone]) ?_
    rintro rfl
    refine ⟨lslv, output, ?_, hv⟩
    rw [← executions_length] at hone
    rw [executions_append, ← hone]
    exact List.getElem?_concat_length

lemma AskAlike.withGroup_parting (lsvg lslv : String) (hnone : commands past = []) :
    Parting settings desired other past (withGroup settings desired lsvg lslv)
      (withGroup settings other lsvg lslv) := by
  unfold withGroup
  rw [h.group, h.presence]
  refine .executing fun output => ?_
  cases groupReport output with
  | error fault => exact .refl _ _
  | ok read =>
    cases read with
    | none => exact .refl _ _
    | some group => exact h.withVolume_parting settings lslv group (by simp [commands_append, hnone])

lemma AskAlike.reconcile_parting :
    Parting settings desired other [] (reconcile settings desired) (reconcile settings other) := by
  unfold reconcile
  rw [h.valid, h.other_valid]
  exact .resolving fun lsvg => .resolving fun lslv => h.withGroup_parting settings lsvg lslv rfl

end

structure WithoutInfluence (settings : RunSettings) (desired other : DesiredState)
    (run otherRun : Transcript (Except Fault RunOutcome)) : Prop where
  same : desired.presence = .absent ∨ ¬ ReadsAbsent desired run.exchanges → otherRun = run
  same_count : (commands otherRun.exchanges).length = (commands run.exchanges).length
  same_reports : (executions otherRun.exchanges).take 2 = (executions run.exchanges).take 2
  only_by_mklv : ∀ i, (commands otherRun.exchanges)[i]? ≠ (commands run.exchanges)[i]? → i = 2 ∧
    ∃ program size, .resolved settings.binaries.mklv (.ok program) ∈ run.exchanges ∧
      .resolved settings.binaries.mklv (.ok program) ∈ otherRun.exchanges ∧
      (commands run.exchanges)[i]? =
        some (settings.issued desired program (.create (desired.layout size))) ∧
      (commands otherRun.exchanges)[i]? =
        some (settings.issued other program (.create (other.layout size)))

section

variable {settings : RunSettings} {desired other : DesiredState}
  {run otherRun : Transcript (Except Fault RunOutcome)} (h : PartsLast settings desired other run otherRun)

include h

lemma PartsLast.same (hunread : desired.presence = .absent ∨ ¬ ReadsAbsent desired run.exchanges) :
    otherRun = run := by
  cases h with
  | alike run => rfl
  | create reply reply' result result' hpresent habsent _ _ =>
    rcases hunread with habsent' | hunread
    · simp [hpresent] at habsent'
    · exact absurd (habsent.append _) hunread

lemma PartsLast.same_count : (commands otherRun.exchanges).length = (commands run.exchanges).length := by
  cases h with
  | alike run => rfl
  | create reply reply' result result' _ _ _ _ => simp [commands_append]

lemma PartsLast.same_reports :
    (executions otherRun.exchanges).take 2 = (executions run.exchanges).take 2 := by
  cases h with
  | alike run => rfl
  | create reply reply' result result' _ _ htwo _ =>
    rw [← executions_length] at htwo
    simp [executions_append, List.take_left' htwo]

lemma PartsLast.only_by_mklv {i : Nat}
    (hi : (commands otherRun.exchanges)[i]? ≠ (commands run.exchanges)[i]?) : i = 2 ∧
    ∃ program size, .resolved settings.binaries.mklv (.ok program) ∈ run.exchanges ∧
      .resolved settings.binaries.mklv (.ok program) ∈ otherRun.exchanges ∧
      (commands run.exchanges)[i]? =
        some (settings.issued desired program (.create (desired.layout size))) ∧
      (commands otherRun.exchanges)[i]? =
        some (settings.issued other program (.create (other.layout size))) := by
  cases h with
  | alike run => exact absurd rfl hi
  | @create before program size reply reply' result result' _ _ htwo hmklv =>
    have hthird : i = 2 := by
      simp only [commands_append, commands_executed, commands_nil] at hi
      rcases Nat.lt_trichotomy i 2 with hlt | rfl | hgt
      · rw [List.getElem?_append_left (by omega), List.getElem?_append_left (by omega)] at hi
        exact absurd rfl hi
      · rfl
      · rw [List.getElem?_eq_none (by simp; omega), List.getElem?_eq_none (by simp; omega)] at hi
        exact absurd rfl hi
    subst hthird
    exact ⟨rfl, program, size, List.mem_append_left _ hmklv, List.mem_append_left _ hmklv,
      by simp [commands_append, htwo], by simp [commands_append, htwo]⟩

end

/-- The fields that lay a new volume out, and those of an absent volume, have no influence on a run but through
the command that makes a volume. -/
theorem layout_without_influence (settings : RunSettings) (runner : Runner) {desired other : DesiredState}
    (h : AskAlike desired other) :
    WithoutInfluence settings desired other ((reconcile settings desired).play runner)
      ((reconcile settings other).play runner) := by
  have hparts : PartsLast settings desired other ((reconcile settings desired).play runner)
      ((reconcile settings other).play runner) := (h.reconcile_parting settings).partsLast runner
  exact {
    same := hparts.same
    same_count := hparts.same_count
    same_reports := hparts.same_reports
    only_by_mklv := fun _ => hparts.only_by_mklv }

def overlaidRemoval : DesiredState :=
  { removedVolume with
    volumeType := "raw", size := some "many", copies := 3, policy := .minimum,
    extraOptions := "-r n", physicalVolumes := ["hdisk7"] }

theorem removal_without_influence :
    AskAlike removedVolume overlaidRemoval ∧
    WithoutInfluence {} removedVolume overlaidRemoval (sampleRemoval false)
      ((reconcile {} overlaidRemoval).play (sampleScript "testlv" "datavg").runner) ∧
    commands ((reconcile {} overlaidRemoval).play (sampleScript "testlv" "datavg").runner).exchanges =
      [.reportGroup "/usr/sbin/lsvg" "datavg", .reportVolume "/usr/sbin/lslv" "testlv",
        .removeVolume "/usr/sbin/rmlv" "testlv"] := by
  have halike : AskAlike removedVolume overlaidRemoval :=
    ⟨rfl, rfl, rfl, rfl, rfl, nofun, nofun⟩
  have hruns := layout_without_influence {} (sampleScript "testlv" "datavg").runner halike
  refine ⟨halike, hruns, ?_⟩
  rw [hruns.same (.inl rfl)]
  exact sampleRemoval_commands

end LogicalVolumes
