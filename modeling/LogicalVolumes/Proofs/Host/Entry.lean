import LogicalVolumes.Host.SearchPath
import LogicalVolumes.Proofs.Text.Pieces

/-! Where the path of a name in a directory leads: to what the directory has under that name. -/

namespace LogicalVolumes.Host

open LogicalVolumes.Text

/-- A name that a directory can have an entry under. -/
structure IsEntryName (name : String) : Prop where
  nonempty : name ≠ ""
  not_here : name ≠ "."
  not_parent : name ≠ ".."
  no_slash : '/' ∉ name.toList
  no_nul : '\x00' ∉ name.toList
  short : name.utf8ByteSize ≤ nameLimit

/-- A directory of a search path has an executable file of that name, within reach of a path. An empty text on
the search path stands for the working directory. -/
structure FileSystem.Holds (files : FileSystem) (directory name : String) : Prop where
  isEntryName : IsEntryName name
  executable : ∃ entries bytes program,
    files.entry (if directory = "" then "." else directory) = .ok (.directory entries) ∧
      entries.lookup name = some (.file bytes (some program))
  within_limit : (inDirectory directory name).utf8ByteSize ≤ pathLimit

/-- Only directories have something above them. -/
def IsTrail (trail : List Entry) : Prop := ∀ above ∈ trail.tail, ∃ entries, above = .directory entries

variable {files : FileSystem} {trail : List Entry} {entry : Entry} {entries : List (String × Entry)}
  {names : List String} {directory name : String}

lemma isTrail_root (files : FileSystem) : IsTrail [files.root] := by simp [IsTrail]

lemma IsTrail.parent {here : Entry} {above : List Entry} (h : IsTrail (here :: above)) :
    IsTrail (if above.isEmpty then [here] else above) := by
  split
  · simp [IsTrail]
  · exact fun e he => h e (List.mem_of_mem_tail he)

lemma IsTrail.child {above : List Entry} (h : IsTrail (.directory entries :: above)) (entry : Entry) :
    IsTrail (entry :: .directory entries :: above) :=
  List.forall_mem_cons.mpr ⟨⟨entries, rfl⟩, h⟩

/-- Two ways that begin alike are told apart by what follows from the trail that they have come to. -/
lemma follow_behind {R : Except HostFault Entry → Except HostFault Entry → Prop} (more other : List String)
    (hfault : ∀ fault, R (.error fault) (.error fault))
    (hmore : ∀ trail, IsTrail trail → R (follow trail more) (follow trail other)) (htrail : IsTrail trail)
    (names : List String) : R (follow trail (names ++ more)) (follow trail (names ++ other)) := by
  induction names generalizing trail with
  | nil => exact hmore trail htrail
  | cons name names ih =>
    match trail with
    | [] => exact hfault .notFound
    | .file bytes program :: above => exact hfault .notDirectory
    | .directory entries :: above =>
      simp only [List.cons_append, follow]
      split
      · exact ih htrail
      split
      · exact ih htrail.parent
      split
      · exact hfault .nameTooLong
      split
      · exact hfault .notFound
      next entry _ => exact ih (htrail.child entry)

lemma follow_name (hname : IsEntryName name) (htrail : IsTrail trail) (names : List String) :
    follow trail (names ++ [name]) = .ok entry ↔
      ∃ entries, follow trail names = .ok (.directory entries) ∧ entries.lookup name = some entry := by
  have hmoves : ¬ (name = "" ∨ name = ".") := not_or.mpr ⟨hname.nonempty, hname.not_here⟩
  have hshort : ¬ nameLimit < name.utf8ByteSize := Nat.not_lt.mpr hname.short
  have hlast : ∀ trail, IsTrail trail → (follow trail [name] = .ok entry ↔
      ∃ entries, follow trail [] = .ok (.directory entries) ∧ entries.lookup name = some entry) := by
    intro trail _
    match trail with
    | [] => simp [follow]
    | .file bytes program :: above => simp [follow]
    | .directory entries :: above =>
      simp only [follow, if_neg hmoves, if_neg hname.not_parent, if_neg hshort]
      cases hentry : entries.lookup name <;> simp [hentry]
  simpa using follow_behind (R := fun found parent => found = .ok entry ↔
    ∃ entries, parent = .ok (.directory entries) ∧ entries.lookup name = some entry)
    [name] [] (by simp) hlast htrail names

lemma follow_stay (hname : name = "" ∨ name = ".") (htrail : IsTrail trail) (names : List String) :
    follow trail (names ++ [name]) = .ok (.directory entries) ↔
      follow trail names = .ok (.directory entries) := by
  have hlast : ∀ trail, IsTrail trail →
      (follow trail [name] = .ok (.directory entries) ↔ follow trail [] = .ok (.directory entries)) := by
    intro trail _
    match trail with
    | [] => simp [follow]
    | .file bytes program :: above => simp [follow]
    | .directory entries :: above => simp only [follow, if_pos hname]
  simpa using follow_behind (R := fun found parent => found = .ok (.directory entries) ↔
    parent = .ok (.directory entries)) [name] [] (by simp) hlast htrail names

/-- A path to a file ends with a name under which a directory can have it. -/
lemma follow_file {bytes : List UInt8} {program : Option Program} (htrail : IsTrail trail)
    (h : follow trail (names ++ [name]) = .ok (.file bytes program)) :
    name ≠ "" ∧ name ≠ "." ∧ name ≠ ".." ∧ name.utf8ByteSize ≤ nameLimit := by
  have hlast : ∀ trail, IsTrail trail → follow trail [name] = .ok (.file bytes program) →
      name ≠ "" ∧ name ≠ "." ∧ name ≠ ".." ∧ name.utf8ByteSize ≤ nameLimit := by
    intro trail htrail h
    match trail with
    | [] => simp [follow] at h
    | .file bytes program :: above => simp [follow] at h
    | .directory entries :: above =>
      simp only [follow] at h
      split at h
      · cases h
      next hmoves =>
      split at h
      · -- what is above a directory is none but directories
        cases above with
        | nil => cases h
        | cons e above =>
          obtain ⟨entries, rfl⟩ := htrail e List.mem_cons_self
          cases h
      next hparent =>
      split at h
      · cases h
      next hshort =>
      exact ⟨fun he => hmoves (.inl he), fun he => hmoves (.inr he), hparent, Nat.not_lt.mp hshort⟩
  exact follow_behind (R := fun found _ => found = .ok (.file bytes program) →
    name ≠ "" ∧ name ≠ "." ∧ name ≠ ".." ∧ name.utf8ByteSize ≤ nameLimit) [name] [] (by simp) hlast htrail names h

lemma components_append_cons (s t : List Char) :
    components (String.ofList (s ++ '/' :: t)) =
      components (String.ofList s) ++ components (String.ofList t) := by
  have hpieces : pieces (· == '/') (s ++ '/' :: t) = pieces (· == '/') s ++ pieces (· == '/') t :=
    pieces_append_cons (by decide) s t
  simp only [components, String.toList_ofList, hpieces, List.map_append]

lemma components_name (hname : '/' ∉ name.toList) : components name = [name] := by
  have hplain : ∀ c ∈ name.toList, (c == '/') = false := fun c hc => beq_false_of_ne fun he => hname (he ▸ hc)
  rw [components, pieces_of_none hplain, List.map_singleton, String.ofList_toList]

/-- A path in a directory has the components of the directory in front; a slash at the end of a directory is no
component of its own then. -/
lemma components_inDirectory (directory : String) : ∃ front,
    (∀ path, components (inDirectory directory path) = front ++ components path) ∧
      (components directory = front ∨ components directory = front ++ [""]) := by
  by_cases hempty : directory = ""
  · subst hempty
    exact ⟨[], fun path => by simp [inDirectory], .inr rfl⟩
  by_cases hend : directory.toList.getLast? = some '/'
  · obtain ⟨front, hfront⟩ := List.getLast?_eq_some_iff.mp hend
    refine ⟨components (String.ofList front), fun path => ?_, .inr ?_⟩
    · have hpath : inDirectory directory path = String.ofList (front ++ '/' :: path.toList) := by
        rw [inDirectory, if_pos (.inr hend), ← String.toList_inj, String.toList_append, hfront]
        simp
      rw [hpath, components_append_cons, String.ofList_toList]
    · have hcomponents := components_append_cons front []
      rwa [← hfront, String.ofList_toList] at hcomponents
  · refine ⟨components directory, fun path => ?_, .inl rfl⟩
    have hpath : inDirectory directory path = String.ofList (directory.toList ++ '/' :: path.toList) := by
      rw [inDirectory, if_neg (not_or.mpr ⟨hempty, hend⟩), ← String.toList_inj]
      simp
    rw [hpath, components_append_cons, String.ofList_toList, String.ofList_toList]

lemma isAbsolute_inDirectory (hne : directory ≠ "") (path : String) :
    isAbsolute (inDirectory directory path) = isAbsolute directory := by
  have hhead : (inDirectory directory path).toList.head? = directory.toList.head? := by
    obtain ⟨c, s, hs⟩ := List.exists_cons_of_ne_nil (mt String.toList_eq_nil_iff.mp hne)
    rw [inDirectory]
    split <;> simp [hs]
  rw [isAbsolute, isAbsolute, hhead]

/-- The way from the root to a name in a directory leads through the directory. -/
lemma way_to_name (files : FileSystem) (directory : String) (hname : '/' ∉ name.toList) : ∃ front,
    components (files.absolute (inDirectory directory name)) = front ++ [name] ∧
      ∀ entries, follow [files.root] (components (files.absolute (if directory = "" then "." else directory))) =
        .ok (.directory entries) ↔ follow [files.root] front = .ok (.directory entries) := by
  have hrelative : isAbsolute name = false := by
    refine decide_eq_false fun hhead => hname (List.mem_of_mem_head? hhead)
  obtain ⟨above, habove, _⟩ := components_inDirectory files.workingDirectory
  by_cases hempty : directory = ""
  · subst hempty
    refine ⟨above, ?_, fun entries => ?_⟩
    · have hplace : inDirectory "" name = name := by simp [inDirectory]
      rw [hplace, FileSystem.absolute, joined, hrelative, if_neg Bool.false_ne_true, habove,
          components_name hname]
    · have hhere : components (files.absolute ".") = above ++ ["."] := by
        have hdot : isAbsolute "." = false := by decide +kernel
        rw [FileSystem.absolute, joined, hdot, if_neg Bool.false_ne_true, habove,
            components_name (by decide +kernel)]
      rw [if_pos rfl, hhere, follow_stay (.inr rfl) (isTrail_root files)]
  · obtain ⟨front, hfront, hdirectory⟩ := components_inDirectory directory
    have hway : ∃ before, components (files.absolute (inDirectory directory name)) = before ++ (front ++ [name]) ∧
        components (files.absolute directory) = before ++ components directory := by
      rw [FileSystem.absolute, FileSystem.absolute, joined, joined, isAbsolute_inDirectory hempty]
      cases isAbsolute directory with
      | true => exact ⟨[], by simp [hfront, components_name hname], by simp⟩
      | false => exact ⟨above, by simp [habove, hfront, components_name hname], by simp [habove]⟩
    obtain ⟨before, hplace, hway⟩ := hway
    refine ⟨before ++ front, by rw [hplace, List.append_assoc], fun entries => ?_⟩
    rw [if_neg hempty, hway]
    rcases hdirectory with heq | heq
    · rw [heq]
    · rw [heq, ← List.append_assoc, follow_stay (.inl rfl) (isTrail_root files)]

lemma utf8ByteSize_inDirectory (directory name : String) :
    directory.utf8ByteSize ≤ (inDirectory directory name).utf8ByteSize := by
  rw [inDirectory]
  split <;> simp only [String.utf8ByteSize_append] <;> omega

lemma entry_of_short {path : String} (hne : path ≠ "") (hshort : path.utf8ByteSize ≤ pathLimit) :
    files.entry path = follow [files.root] (components (files.absolute path)) := by
  rw [FileSystem.entry, if_neg hne, if_neg (Nat.not_lt.mpr hshort)]

lemma isExecutableAt_eq_true {path : String} : files.isExecutableAt path = true ↔
    ∃ bytes program, files.entry path = .ok (.file bytes (some program)) := by
  rw [FileSystem.isExecutableAt]
  split
  · next entry hentry =>
    rw [hentry]
    match entry with
    | .file bytes (some program) => simp [Entry.isExecutable]
    | .file bytes none => simp [Entry.isExecutable]
    | .directory entries => simp [Entry.isExecutable]
  · next fault hentry => simp [hentry]

lemma isExecutableAt_inDirectory (hslash : '/' ∉ name.toList) (hnul : '\x00' ∉ name.toList) :
    files.isExecutableAt (inDirectory directory name) = true ↔ files.Holds directory name := by
  obtain ⟨front, hplace, hway⟩ := way_to_name files directory hslash
  have hthere : (inDirectory directory name).utf8ByteSize ≤ pathLimit → ∀ entries,
      files.entry (if directory = "" then "." else directory) = .ok (.directory entries) ↔
        follow [files.root] front = .ok (.directory entries) := by
    intro hshort entries
    have hsize := utf8ByteSize_inDirectory directory name
    rw [← hway, entry_of_short]
    · split
      · decide
      · assumption
    · split
      · decide
      · omega
  rw [isExecutableAt_eq_true]
  constructor
  · rintro ⟨bytes, program, hentry⟩
    rw [FileSystem.entry] at hentry
    split at hentry
    · cases hentry
    split at hentry
    · cases hentry
    next hshort =>
    rw [hplace] at hentry
    obtain ⟨hne, hhere, hparent, hlimit⟩ := follow_file (isTrail_root files) hentry
    have hname : IsEntryName name := ⟨hne, hhere, hparent, hslash, hnul, hlimit⟩
    obtain ⟨entries, hfront, hlookup⟩ := (follow_name hname (isTrail_root files) front).mp hentry
    have hshort := Nat.not_lt.mp hshort
    exact ⟨hname, ⟨entries, bytes, program, (hthere hshort entries).mpr hfront, hlookup⟩, hshort⟩
  · rintro ⟨hname, ⟨entries, bytes, program, hdirectory, hlookup⟩, hshort⟩
    have hne : inDirectory directory name ≠ "" := by
      rw [inDirectory]
      split <;> simp [hname.nonempty]
    refine ⟨bytes, program, ?_⟩
    rw [entry_of_short hne hshort, hplace, follow_name hname (isTrail_root files)]
    exact ⟨entries, (hthere hshort entries).mp hdirectory, hlookup⟩

end LogicalVolumes.Host
