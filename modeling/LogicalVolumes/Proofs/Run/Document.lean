import LogicalVolumes.Cli.Program
import LogicalVolumes.Proofs.Decode.RoundTrip

/-! The program leaves one line, which decodes to a document that agrees with its exit status. -/

namespace LogicalVolumes

open Json

/-- The member called `name`, if the value is an object with one. -/
def Json.member? (name : String) : Json → Option Json
  | .object members => members.lookup name
  | _ => none

structure RunOutcome.DescribedBy (outcome : RunOutcome) (document : Json) : Prop where
  changed : document.member? "changed" = some (.boolean outcome.isChange)
  message : document.member? "msg" = some (.text outcome.message)
  action : (document.member? "action").map Action.ofJson = outcome.action?.map .ok
  not_failed : document.member? "failed" = none

structure Fault.DescribedBy (fault : Fault) (document : Json) : Prop where
  failed : document.member? "failed" = some (.boolean true)
  message : document.member? "msg" = some (.text fault.message)
  exitCode : document.member? "rc" = fault.diagnostics.map fun output => .integer output.exitCode.toInt
  stdout : document.member? "out" = fault.diagnostics.map fun output => .text output.stdout
  stderr : document.member? "err" = fault.diagnostics.map fun output => .text output.stderr
  of_command : fault.diagnostics.isSome ↔ ∃ purpose output, fault = .commandFailed purpose output

def DescribedBy (result : Except Fault RunOutcome) (document : Json) : Prop :=
  match result with
  | .ok outcome => outcome.DescribedBy document
  | .error fault => fault.DescribedBy document

/-- What a program leaves agrees with the result of its run. -/
structure Exit.Reports (exit : Exit) (result : Except Fault RunOutcome) : Prop where
  one_line : ∃ line : String, exit.stdout = line ++ "\n" ∧ '\n' ∉ line.toList
  succeeded : exit.status = 0 ↔ ∃ outcome, result = .ok outcome
  failed : exit.status = 1 ↔ ∃ fault, result = .error fault
  document : ∃ document, Json.read exit.stdout = some document ∧ DescribedBy result document

variable {outcome : RunOutcome} {fault : Fault} {result : Except Fault RunOutcome}

section Documents

lemma lookup_orderedMember (members : Members) (name : String) :
    (members.map orderedMember).lookup name = (members.lookup name).map ordered := by
  induction members with
  | nil => rfl
  | cons m members ih =>
    obtain ⟨n, v⟩ := m
    simp only [List.map_cons, orderedMember, List.lookup_cons]
    cases name == n
    · exact ih
    · rfl

lemma member?_ordered {members : Members} (hnodup : (members.map Prod.fst).Nodup) (name : String) :
    (Json.object members).ordered.member? name = (members.lookup name).map ordered := by
  obtain ⟨other, hperm, hordered⟩ := ordered_object hnodup
  have hnames : ((members.map orderedMember).map Prod.fst).Nodup := by
    rwa [List.map_map]
  rw [hordered, member?, lookup_perm hperm hnames, lookup_orderedMember]

def RunOutcome.members (outcome : RunOutcome) : Members :=
  ("changed", .boolean outcome.isChange) :: ("msg", .text outcome.message) ::
    outcome.action?.elim [] fun action => [("action", action.toJson)]

lemma RunOutcome.toJson_eq (outcome : RunOutcome) : outcome.toJson = .object outcome.members := by
  rw [toJson, members]
  cases outcome.action? <;> rfl

lemma RunOutcome.exact (outcome : RunOutcome) : outcome.toJson.Exact := by
  rw [toJson_eq]
  refine .object ?_
  cases outcome <;> simp [members, action?, Exact.boolean, Exact.text, Action.exact]

lemma RunOutcome.describedBy (outcome : RunOutcome) : outcome.DescribedBy outcome.toJson.ordered := by
  have hnodup : (outcome.members.map Prod.fst).Nodup := by
    rw [members]
    cases outcome.action? <;> simp
  have hmember := member?_ordered hnodup
  rw [toJson_eq]
  constructor
  · exact hmember "changed"
  · exact hmember "msg"
  · rw [hmember, members]
    cases outcome.action? <;> simp [List.lookup_cons, Action.undoes.sorted]
  · rw [hmember, members]
    cases outcome.action? <;> rfl

def Fault.members (fault : Fault) : Members :=
  ("failed", .boolean true) :: ("msg", .text fault.message) :: fault.diagnostics.elim [] fun output =>
    [("rc", .integer output.exitCode.toInt), ("out", .text output.stdout), ("err", .text output.stderr)]

lemma Fault.toJson_eq (fault : Fault) : fault.toJson = .object fault.members := by
  rw [toJson, members]
  cases fault.diagnostics <;> rfl

lemma Fault.exact (fault : Fault) : fault.toJson.Exact := by
  rw [toJson_eq]
  refine .object ?_
  cases houtput : fault.diagnostics with
  | none => simp [members, houtput, Exact.boolean, Exact.text]
  | some output =>
    have hlow := output.exitCode.le_toInt
    have hhigh := output.exitCode.toInt_lt
    have hexact : (Json.integer output.exitCode.toInt).Exact := .integer (by omega) (by omega)
    simp [members, houtput, Exact.boolean, Exact.text, hexact]

lemma Fault.describedBy (fault : Fault) : fault.DescribedBy fault.toJson.ordered := by
  have hnodup : (fault.members.map Prod.fst).Nodup := by
    rw [members]
    cases fault.diagnostics <;> simp
  have hmember := member?_ordered hnodup
  rw [toJson_eq]
  constructor
  · exact hmember "failed"
  · exact hmember "msg"
  · rw [hmember, members]
    cases fault.diagnostics <;> rfl
  · rw [hmember, members]
    cases fault.diagnostics <;> rfl
  · rw [hmember, members]
    cases fault.diagnostics <;> rfl
  · cases fault <;> simp [diagnostics]

lemma one_line_of_exact {document : Json} (h : document.Exact) :
    ∃ line : String, document.compact ++ "\n" = line ++ "\n" ∧ '\n' ∉ line.toList := by
  refine ⟨document.compact, rfl, fun hmem => ?_⟩
  rw [compact, String.toList_ofList] at hmem
  exact absurd (h.printable '\n' hmem) (by decide)

lemma read_line {document : Json} (h : document.Exact) :
    Json.read (document.compact ++ "\n") = some document.ordered :=
  read_compact (s := ['\n']) h (List.forall_mem_singleton.mpr rfl)

lemma reports_ofResult (result : Except Fault RunOutcome) : (Exit.ofResult result).Reports result := by
  cases result with
  | ok outcome =>
    have hexact := outcome.exact
    exact ⟨one_line_of_exact hexact, by simp [Exit.ofResult], by simp [Exit.ofResult],
      _, read_line hexact, outcome.describedBy⟩
  | error fault =>
    have hexact := fault.exact
    exact ⟨one_line_of_exact hexact, by simp [Exit.ofResult], by simp [Exit.ofResult],
      _, read_line hexact, fault.describedBy⟩

end Documents

/-- The one line that the program leaves says what the run came to, in agreement with the exit status: for
every result, and for every run on a machine past its command line. -/
theorem exit_reports_result :
    (∀ result : Except Fault RunOutcome, (Exit.ofResult result).Reports result) ∧
    ∀ (machine : Host.Machine) (environment : String → Option String) (words : List String)
      (options : Cli.Options), Cli.opening environment words = .inr options →
      (Cli.run machine environment words).result.Reports
        ((options.dialogue machine.loadDesiredState).play (machine.runner options.binDir)).result := by
  refine ⟨reports_ofResult, fun machine environment words options hopening => ?_⟩
  rw [Cli.run, hopening]
  exact reports_ofResult _

def failedRemoval : Except Fault RunOutcome :=
  .error (.commandFailed (.make "testlv" .delete) ⟨1, "", "rmlv: \"testlv\"\n\tis open.\n"⟩)

def emptyMachine : Host.Machine where
  files := { root := .directory [] }
  path := none
  complaint _ := ""

theorem failures_reported :
    (Exit.ofResult failedRemoval).Reports failedRemoval ∧
    ∃ options, Cli.opening (fun _ => none) ["--vg", "datavg", "--lv", "testlv"] = .inr options ∧
      (Cli.run emptyMachine (fun _ => none) ["--vg", "datavg", "--lv", "testlv"]).result.Reports
        ((options.dialogue emptyMachine.loadDesiredState).play (emptyMachine.runner options.binDir)).result := by
  have hopening : Cli.opening (fun _ => none) ["--vg", "datavg", "--lv", "testlv"] =
      .inr ⟨.options (.ofNames "datavg" "testlv"), false, none⟩ := rfl
  exact ⟨exit_reports_result.1 failedRemoval, _, hopening, exit_reports_result.2 _ _ _ _ hopening⟩

end LogicalVolumes
