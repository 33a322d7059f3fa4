import LogicalVolumes.Host.Standard
import LogicalVolumes.Proofs.Host.Entry

/-! Which program of a name a machine finds, and whether a directory that is to be searched first comes first. -/

namespace LogicalVolumes.Host

open LogicalVolumes.Text

/-- The directories of the search path, with the home directory for a tilde. -/
def Machine.searched (machine : Machine) : List String :=
  (directories machine.path).map (expandHome machine.home)

/-- A search through directories in their order, for an executable file of that name. -/
inductive Finds (files : FileSystem) (name : String) : List String → Except Fault String → Prop
  | found {before after : List String} {directory : String} :
      (∀ passed ∈ before, ¬ files.Holds passed name) → files.Holds directory name →
      Finds files name (before ++ directory :: after) (.ok (inDirectory directory name))
  | missing {all : List String} : (∀ directory ∈ all, ¬ files.Holds directory name) →
      Finds files name all (.error (.programNotFound name))

/-- What comes of looking for a program in the directory `extra` first. A colon keeps a directory off the search
path, and then the search ends as it should only if `extra` makes no difference. On a search path it comes
first, but nothing is searched before the path of the working directory is known. -/
structure SearchedFirst (machine : Machine) (extra name : String) : Prop where
  first : ':' ∉ extra.toList → ∀ here, machine.files.currentDirectory = .ok here →
    Finds machine.files name (extra :: machine.searched) (machine.resolve (some extra) name)
  lost : ':' ∉ extra.toList → ∀ cause, machine.files.currentDirectory = .error cause →
    machine.resolve (some extra) name = .error (.host cause)
  passed_over : ':' ∈ extra.toList →
    Finds machine.files name machine.searched (machine.resolve (some extra) name)
  first_iff : Finds machine.files name (extra :: machine.searched) (machine.resolve (some extra) name) ↔
    if ':' ∈ extra.toList then
      ¬ machine.files.Holds extra name ∨ machine.resolve none name = .ok (inDirectory extra name)
    else ∃ here, machine.files.currentDirectory = .ok here

section

variable {machine : Machine} {files : FileSystem} {all : List String} {directory extra name : String}
  {outcome : Except Fault String}

lemma Finds.here (h : files.Holds directory name) (all : List String) :
    Finds files name (directory :: all) (.ok (inDirectory directory name)) :=
  @Finds.found files name [] all directory (by simp) h

lemma Finds.behind (hnone : ¬ files.Holds directory name) (h : Finds files name all outcome) :
    Finds files name (directory :: all) outcome := by
  cases h with
  | @found before after _ hbefore hholds =>
    exact @Finds.found files name (directory :: before) after _
      (List.forall_mem_cons.mpr ⟨hnone, hbefore⟩) hholds
  | missing hall => exact .missing (List.forall_mem_cons.mpr ⟨hnone, hall⟩)

lemma Finds.eq_here (hholds : files.Holds directory name) (h : Finds files name (directory :: all) outcome) :
    outcome = .ok (inDirectory directory name) := by
  generalize hdirectories : directory :: all = directories at h
  cases h with
  | @found before after place hbefore _ =>
    cases before with
    | nil =>
      obtain ⟨rfl, _⟩ := List.cons.inj hdirectories
      rfl
    | cons passed before =>
      obtain ⟨rfl, _⟩ := List.cons.inj hdirectories
      exact absurd hholds (hbefore directory List.mem_cons_self)
  | missing hnone =>
    exact absurd hholds (hnone directory (hdirectories ▸ List.mem_cons_self))

/-- The first place that can be run is the first directory that has the program. -/
lemma finds_find? (hslash : '/' ∉ name.toList) (hnul : '\x00' ∉ name.toList) (all : List String) :
    Finds files name all (((all.map (inDirectory · name)).find? files.isExecutableAt).elim
      (.error (.programNotFound name)) .ok) := by
  induction all with
  | nil => exact .missing (by simp)
  | cons directory all ih =>
    have hholds : files.isExecutableAt (inDirectory directory name) = true ↔ files.Holds directory name :=
      isExecutableAt_inDirectory hslash hnul
    rw [List.map_cons, List.find?_cons]
    split
    · next hexecutable => exact .here (hholds.mp hexecutable) all
    · next hexecutable => exact ih.behind fun h => by simp [hholds.mpr h] at hexecutable

lemma isPath_name (hslash : '/' ∉ name.toList) : isPath name = false := by
  have hrelative : isAbsolute name = false := decide_eq_false fun hhead => hslash (List.mem_of_mem_head? hhead)
  rw [isPath, steps, components_name hslash, hrelative]
  by_cases hdot : name = "."
  · simp [hdot]
  · by_cases hempty : name = "" <;> simp [hdot, hempty]

lemma places_name (hslash : '/' ∉ name.toList) (home here path : Option String) :
    places home here path name =
      ((directories path).map (expandHome home)).map (inDirectory · name) := by
  have hrelative : isAbsolute name = false := decide_eq_false fun hhead => hslash (List.mem_of_mem_head? hhead)
  have hnone : here.filter (fun _ => isPath name) = none := by simp [isPath_name hslash]
  simp only [places, hnone, joined, hrelative, if_neg Bool.false_ne_true, List.map_map, Function.comp_def]

lemma finds_seek (hslash : '/' ∉ name.toList) (machine : Machine) (here path : Option String) :
    Finds machine.files name ((directories path).map (expandHome machine.home))
      (machine.seek here path name) := by
  rw [Machine.seek]
  split
  · next hnul =>
    -- no directory has an entry whose name holds a NUL
    have hmem : '\x00' ∈ name.toList := by simpa using hnul
    exact .missing fun _ _ hholds => hholds.isEntryName.no_nul hmem
  · next hnul =>
    have hfinds : Finds machine.files name ((directories path).map (expandHome machine.home)) _ :=
      finds_find? hslash (by simpa using hnul) _
    rw [← places_name hslash machine.home here path] at hfinds
    rw [FileSystem.locate]
    split
    · next hnone => rwa [hnone] at hfinds
    · next place hplace => rwa [hplace] at hfinds

lemma not_mem_of_mem_directories {path : Option String} (h : directory ∈ directories path) :
    ':' ∉ directory.toList := by
  cases path with
  | none => simp [directories] at h
  | some path =>
    obtain ⟨piece, hpiece, rfl⟩ := List.mem_map.mp h
    rw [String.toList_ofList]
    exact (isJoin_pieces ':' path.toList).plain piece hpiece

/-- Directories without a colon are the same after they have been joined and split again. -/
lemma splitPath_intercalate (hne : all ≠ []) (hplain : ∀ directory ∈ all, ':' ∉ directory.toList) :
    splitPath (":".intercalate all) = all := by
  have hjoin : IsJoin ':' (all.map String.toList) (":".intercalate all).toList :=
    ⟨by rw [String.toList_intercalate]; rfl, by simpa using hne, by simpa using hplain⟩
  rw [splitPath, ← hjoin.eq_pieces, List.map_map]
  simp [Function.comp_def]

lemma extendedPath_of_colon (hcolon : ':' ∈ extra.toList) (path : Option String) :
    extendedPath (some extra) path = none := by
  simp [extendedPath, joinPath, hcolon]

lemma extendedPath_of_plain (hplain : ':' ∉ extra.toList) (path : Option String) :
    ∃ extended, extendedPath (some extra) path = some extended ∧
      directories (some extended) = extra :: directories path := by
  have hall : ∀ directory ∈ extra :: directories path, ':' ∉ directory.toList :=
    List.forall_mem_cons.mpr ⟨hplain, fun _ => not_mem_of_mem_directories⟩
  have hjoin : joinPath (extra :: directories path) = some (":".intercalate (extra :: directories path)) :=
    if_neg (by simpa using hall)
  exact ⟨_, hjoin, splitPath_intercalate (List.cons_ne_nil _ _) hall⟩

/-- A path from the root does not begin with a tilde. -/
lemma expandHome_absolute (habsolute : isAbsolute extra = true) (home : Option String) :
    expandHome home extra = extra := by
  obtain ⟨s, hs⟩ := List.head?_eq_some_iff.mp (of_decide_eq_true habsolute)
  have hcomponents : ∃ names, components extra = "" :: names := by
    have happend := components_append_cons [] s
    rw [List.nil_append, ← hs, String.ofList_toList] at happend
    exact ⟨_, happend⟩
  obtain ⟨names, hnames⟩ := hcomponents
  cases home <;> simp [expandHome, hnames]

lemma resolve_of_colon (hcolon : ':' ∈ extra.toList) (machine : Machine) (name : String) :
    machine.resolve (some extra) name = machine.resolve none name := by
  rw [Machine.resolve, extendedPath_of_colon hcolon]
  rfl

lemma finds_resolve_none (hslash : '/' ∉ name.toList) (machine : Machine) :
    Finds machine.files name machine.searched (machine.resolve none name) :=
  finds_seek hslash machine _ machine.path

lemma resolve_of_lost {cause : HostFault} (hplain : ':' ∉ extra.toList)
    (hlost : machine.files.currentDirectory = .error cause) (name : String) :
    machine.resolve (some extra) name = .error (.host cause) := by
  obtain ⟨extended, hextended, _⟩ := extendedPath_of_plain hplain machine.path
  simp only [Machine.resolve, hextended, hlost]

lemma finds_resolve_first {here : String} (hslash : '/' ∉ name.toList) (habsolute : isAbsolute extra = true)
    (hplain : ':' ∉ extra.toList) (hhere : machine.files.currentDirectory = .ok here) :
    Finds machine.files name (extra :: machine.searched) (machine.resolve (some extra) name) := by
  obtain ⟨extended, hextended, hdirectories⟩ := extendedPath_of_plain hplain machine.path
  have hfinds := finds_seek hslash machine (some here) (some extended)
  rw [hdirectories, List.map_cons, expandHome_absolute habsolute] at hfinds
  simpa only [Machine.resolve, hextended, hhere, Machine.searched] using hfinds

lemma Finds.not_host {cause : HostFault} : ¬ Finds files name all (.error (.host cause)) :=
  nofun

end

/-- A directory that is to be searched first is searched first exactly if its path can be put on a search path and
the working directory is known, or if it cannot and makes no difference to what is found. -/
theorem extra_directory_first_iff (machine : Machine) (extra name : String)
    (habsolute : isAbsolute extra = true) (hslash : '/' ∉ name.toList) :
    SearchedFirst machine extra name where
  first hplain _ hhere := finds_resolve_first hslash habsolute hplain hhere
  lost hplain _ hlost := resolve_of_lost hplain hlost name
  passed_over hcolon := by
    rw [resolve_of_colon hcolon]
    exact finds_resolve_none hslash machine
  first_iff := by
    split
    · next hcolon =>
      rw [resolve_of_colon hcolon]
      have hpassed := finds_resolve_none hslash machine
      by_cases hholds : machine.files.Holds extra name
      · constructor
        · exact fun h => .inr (h.eq_here hholds)
        · rintro (h | h)
          · exact absurd hholds h
          · exact h ▸ .here hholds _
      · exact iff_of_true (hpassed.behind hholds) (.inl hholds)
    · next hplain =>
      cases hhere : machine.files.currentDirectory with
      | ok here => exact iff_of_true (finds_resolve_first hslash habsolute hplain hhere) ⟨here, rfl⟩
      | error cause =>
        rw [resolve_of_lost hplain hhere]
        exact iff_of_false Finds.not_host (by simp)

/-- A machine with an `echo` in a directory that has a colon in its name. -/
def machineWithTools : Machine where
  files := Standard.filesWith [("opt", .directory [("a:b", .directory Standard.programs)])]
  path := some Standard.path
  complaint _ := ""

/-- The same machine, after its working directory has been removed. -/
def machineAstray : Machine :=
  { machineWithTools with files := { machineWithTools.files with workingDirectory := "/gone" } }

example : machineAstray.resolve (some "/bin") "echo" = .error (.host .notFound) := rfl

example : machineAstray.resolve none "echo" = .ok "/usr/bin/echo" := rfl

lemma resolve_echo : machineWithTools.resolve (some "/opt/a:b") "echo" = .ok "/usr/bin/echo" := rfl

lemma tools_hold_echo : machineWithTools.files.Holds "/opt/a:b" "echo" :=
  (isExecutableAt_inDirectory (by decide +kernel) (by decide +kernel)).mp (by decide +kernel)

theorem colon_directory_passed_over : isAbsolute "/opt/a:b" = true ∧ '/' ∉ "echo".toList ∧
    machineWithTools.files.Holds "/opt/a:b" "echo" ∧
    Finds machineWithTools.files "echo" ["/usr/bin", "/bin"] (.ok "/usr/bin/echo") := by
  have habsolute : isAbsolute "/opt/a:b" = true := by decide +kernel
  have hslash : '/' ∉ "echo".toList := by decide +kernel
  have hsearched : machineWithTools.searched = ["/usr/bin", "/bin"] := by decide +kernel
  have hfound := (extra_directory_first_iff machineWithTools "/opt/a:b" "echo" habsolute hslash).passed_over
    (by decide +kernel)
  rw [resolve_echo, hsearched] at hfound
  exact ⟨habsolute, hslash, tools_hold_echo, hfound⟩

theorem extra_directory_not_always_first : ¬ ∀ (machine : Machine) (extra name : String),
    isAbsolute extra = true → '/' ∉ name.toList → (∃ here, machine.files.currentDirectory = .ok here) →
      Finds machine.files name (extra :: machine.searched) (machine.resolve (some extra) name) := by
  intro h
  have hfinds := h machineWithTools "/opt/a:b" "echo" (by decide +kernel) (by decide +kernel)
    ⟨"/home/operator", rfl⟩
  have hplace := hfinds.eq_here tools_hold_echo
  rw [resolve_echo] at hplace
  exact absurd (Except.ok.inj hplace) (by decide +kernel)

end LogicalVolumes.Host
