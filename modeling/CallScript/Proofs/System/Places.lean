import Mathlib.Data.List.Induction
import CallScript.System.Files

/-! # Paths and the places that they lead to

A path is taken name by name.  The names of a path in a directory are those of the directory and then those of
the path (`Files.names_join`), so a process that has gone to a directory finds at a relative path what is at
that path in the directory (`Files.find_entered`).

* `Path.isAbsolute_join`, `Path.isAbsolute_of_parent?`: where paths that are made of others start.
* `Files.follow_append`, `Files.follow_eq_foldl`: what names lead to, part by part and step by step.
* `Files.names_text`: the path of a place leads back to it. -/

namespace CallScript

namespace Path

/-! ### The pieces of a path -/

theorem not_mem_of_mem_pieces {path piece : List Char} (member : piece ∈ pieces path) : separator ∉ piece := by
  unfold pieces at member
  induction path generalizing piece with
  | nil => simp_all
  | cons c path ih =>
      rw [List.splitOn_cons_eq_if_modifyHead] at member
      split at member
      · rcases List.mem_cons.mp member with rfl | member
        · exact List.not_mem_nil
        · exact ih member
      next other =>
        rcases split : path.splitOn separator with _ | ⟨first, rest⟩
        · exact absurd split (List.splitOn_ne_nil _ _)
        · rw [split, List.modifyHead_cons, List.mem_cons] at member
          rw [split] at ih
          rcases member with rfl | member
          · rw [List.mem_cons, not_or]
            exact ⟨fun same => other (by simp [same]), ih List.mem_cons_self⟩
          · exact ih (List.mem_cons_of_mem _ member)

theorem pieces_intercalate {names : List (List Char)} (inhabited : names ≠ [])
    (whole : ∀ name ∈ names, separator ∉ name) : pieces ([separator].intercalate names) = names :=
  List.splitOn_intercalate separator whole inhabited

theorem isAbsolute_iff {path : List Char} :
    isAbsolute path ↔ ∃ second rest, pieces path = [] :: second :: rest := by
  cases path with
  | nil => simp [isAbsolute, pieces]
  | cons c path =>
      unfold pieces
      rw [List.splitOn_cons_eq_if_modifyHead]
      rcases split : path.splitOn separator with _ | ⟨first, rest⟩
      · exact absurd split (List.splitOn_ne_nil _ _)
      · by_cases rooted : c = separator
        · simp [isAbsolute, rooted]
        · simp [isAbsolute, rooted]

theorem isAbsolute_iff_of_pieces {path first : List Char} {rest : List (List Char)} (inhabited : rest ≠ [])
    (split : pieces path = first :: rest) : isAbsolute path ↔ first = [] := by
  rw [isAbsolute_iff, split]
  obtain ⟨second, rest, rfl⟩ := List.exists_cons_of_ne_nil inhabited
  simp

theorem isAbsolute_intercalate {first : List Char} {rest : List (List Char)} (inhabited : rest ≠ [])
    (whole : ∀ name ∈ first :: rest, separator ∉ name) :
    isAbsolute ([separator].intercalate (first :: rest)) ↔ first = [] :=
  isAbsolute_iff_of_pieces inhabited (pieces_intercalate (List.cons_ne_nil _ _) whole)

theorem isAbsolute_of_named {path first : List Char} {rest : List (List Char)} (named : first ≠ [])
    (split : pieces path = first :: rest) : isAbsolute path = false := by
  rw [Bool.eq_false_iff]
  intro rooted
  obtain ⟨second, rest, pieces_eq⟩ := isAbsolute_iff.mp rooted
  rw [split, List.cons.injEq] at pieces_eq
  exact named pieces_eq.1

theorem isAbsolute_of_not_mem {path : List Char} (whole : separator ∉ path) : isAbsolute path = false := by
  cases path with
  | nil => rfl
  | cons c path =>
      have : c ≠ separator := fun same => whole (by simp [same])
      simp [isAbsolute, this]

theorem mem_of_mem_trimmed {names : List (List Char)} {name : List Char}
    (member : name ∈ names.reverse.dropWhile isIdle) : name ∈ names :=
  List.mem_reverse.mp ((List.dropWhile_sublist _).mem member)

theorem isAbsolute_trimIdle {path first : List Char} {rest : List (List Char)} (inhabited : rest ≠ [])
    (split : pieces path = first :: rest) : isAbsolute (trimIdle path) ↔ first = [] := by
  have whole : ∀ name ∈ first :: rest, separator ∉ name :=
    fun name member => not_mem_of_mem_pieces (split ▸ member)
  have kept_sub : ∀ name ∈ (rest.reverse.dropWhile isIdle).reverse, name ∈ rest :=
    fun name member => mem_of_mem_trimmed (List.mem_reverse.mp member)
  unfold trimIdle
  simp only [split]
  split
  next rooted =>
    simp only [Bool.and_eq_true, List.isEmpty_iff] at rooted
    simp [isAbsolute, rooted.1.1]
  next other =>
    rcases kept : (rest.reverse.dropWhile isIdle).reverse with _ | ⟨second, more⟩
    · have first_ne : first ≠ [] := by
        rintro rfl
        simp [kept, inhabited] at other
      rw [List.intercalate_singleton, isAbsolute_of_not_mem (whole first List.mem_cons_self)]
      simp [first_ne]
    · refine isAbsolute_intercalate (List.cons_ne_nil _ _) ?_
      rw [← kept, List.forall_mem_cons]
      exact ⟨whole first List.mem_cons_self,
        fun name member => whole name (List.mem_cons_of_mem _ (kept_sub name member))⟩

/-! ### Where paths start -/

/-- A path in a directory starts from the root if one of the two does. -/
theorem isAbsolute_join (directory path : List Char) :
    isAbsolute (join directory path) = (isAbsolute directory || isAbsolute path) := by
  unfold join
  cases rooted : isAbsolute path with
  | true => simp [rooted]
  | false =>
      cases directory with
      | nil => simp_all [isAbsolute]
      | cons first rest =>
          simp only [List.isEmpty_cons, Bool.or_false, Bool.false_eq_true, if_false]
          split <;> rfl

theorem mem_join {path : List Char} {c : Char} (member : c ∈ path) (directory : List Char) :
    c ∈ join directory path := by
  unfold join
  split
  · exact member
  · split
    · exact List.mem_append_right _ member
    · exact List.mem_append_right _ (List.mem_cons_of_mem _ member)

/-- A path starts where the path of its directory does. -/
theorem isAbsolute_of_parent? {path directory : List Char} (found : parent? path = some directory) :
    isAbsolute directory = isAbsolute path := by
  rw [Bool.eq_iff_iff]
  unfold parent? at found
  rcases split : pieces path with _ | ⟨first, rest⟩
  · exact absurd split (List.splitOn_ne_nil _ _)
  have whole : ∀ name ∈ first :: rest, separator ∉ name :=
    fun name member => not_mem_of_mem_pieces (split ▸ member)
  simp only [split] at found
  split at found
  next last before stripped =>
    have rest_ne : rest ≠ [] := by
      rintro rfl
      cases stripped
    have before_sub : ∀ name ∈ before, name ∈ rest :=
      fun name member => mem_of_mem_trimmed (stripped ▸ List.mem_cons_of_mem _ member)
    have pieces_eq : pieces ([separator].intercalate (first :: before.reverse ++ [[]])) =
        first :: (before.reverse ++ [[]]) := by
      refine pieces_intercalate (List.cons_ne_nil _ _) ?_
      simp only [List.cons_append, List.forall_mem_cons, List.forall_mem_append]
      refine ⟨whole first List.mem_cons_self, fun name member => ?_, by simp⟩
      exact whole name (List.mem_cons_of_mem _ (before_sub name (List.mem_reverse.mp member)))
    cases found
    rw [isAbsolute_trimIdle (by simp) pieces_eq, isAbsolute_iff_of_pieces rest_ne split]
  · split at found
    · cases found
    next named =>
      cases found
      rw [isAbsolute_of_named (by simpa using named) split]
      rfl

theorem isSome_parent? (path : List Char) : (parent? path).isSome = (lastName? path).isSome := by
  unfold parent? lastName?
  rcases pieces path with _ | ⟨first, rest⟩
  · rfl
  · dsimp only
    rcases rest.reverse.dropWhile isIdle with _ | ⟨last, before⟩
    · cases first.isEmpty <;> rfl
    · rfl

end Path

namespace Files

/-! ### The names of a path -/

theorem names_append_separator (path more : List Char) :
    names (path ++ Path.separator :: more) = names path ++ names more := by
  unfold names Path.pieces
  rw [List.splitOn_append_cons_self, List.filter_append]

/-- A name that can stand between slashes. -/
def IsName (name : List Char) : Prop := name ≠ [] ∧ Path.separator ∉ name

theorem isName_of_mem_names {path name : List Char} (member : name ∈ names path) : IsName name := by
  obtain ⟨piece, inhabited⟩ := List.mem_filter.mp member
  exact ⟨by simpa using inhabited, Path.not_mem_of_mem_pieces piece⟩

theorem names_of_isName {name : List Char} (h : IsName name) : names name = [name] := by
  unfold names Path.pieces
  rw [List.splitOn_eq_singleton h.2]
  simp [h.1]

/-- The names of a path in a directory are those of the directory and then those of the path. -/
theorem names_join {path : List Char} (relative : Path.isAbsolute path = false) (directory : List Char) :
    names (Path.join directory path) = names directory ++ names path := by
  unfold Path.join
  rw [relative, Bool.false_or]
  split
  next empty =>
    rw [List.isEmpty_iff.mp empty]
    rfl
  · split
    next closed =>
      obtain ⟨stem, rfl⟩ := List.getLast?_eq_some_iff.mp closed
      rw [List.append_assoc, List.singleton_append, names_append_separator, names_append_separator]
      simp [names, Path.pieces]
    · exact names_append_separator _ _

theorem join_ne_nil {path : List Char} (inhabited : path ≠ []) (directory : List Char) :
    Path.join directory path ≠ [] := by
  unfold Path.join
  split
  · exact inhabited
  · split <;> simp [inhabited]

theorem endsOpen_join {path : List Char} (inhabited : path ≠ []) (directory : List Char) :
    endsOpen (Path.join directory path) = endsOpen path := by
  have last_eq : path.getLast? = some (path.getLast inhabited) := List.getLast?_eq_some_getLast inhabited
  unfold Path.join endsOpen
  split
  · rfl
  · split
    · rw [List.getLast?_append, last_eq]
      rfl
    · rw [List.getLast?_append, List.getLast?_cons, last_eq]
      rfl

/-! ### Places -/

/-- The path of a place leads back to it. -/
theorem names_text {place : Place} (whole : ∀ name ∈ place, IsName name) :
    names place.text.toList = place := by
  have names_path : names place.path = place := by
    -- From the right, where a slash and the last name come after the path of the other names.
    induction place using List.reverseRecOn with
    | nil => rfl
    | append_singleton before last ih =>
        obtain ⟨before_named, last_named⟩ := List.forall_mem_append.mp whole
        have path_eq : Place.path (before ++ [last]) = Place.path before ++ Path.separator :: last := by
          simp [Place.path]
        rw [path_eq, names_append_separator, ih before_named,
          names_of_isName (last_named last List.mem_cons_self)]
  unfold Place.text
  split
  next root =>
    rw [List.isEmpty_iff.mp root]
    rfl
  · rw [Place.key, String.toList_ofList]
    exact names_path

/-- Names lead where the first of them lead, and from there where the others do. -/
theorem follow_append (files : Files) (here : Place) (first rest : List (List Char)) :
    files.follow here (first ++ rest) = (files.follow here first).bind fun there => files.follow there rest := by
  induction first generalizing here with
  | nil => rfl
  | cons name first ih =>
      rw [List.cons_append, follow, follow]
      split
      · rfl
      · exact ih _
      · rfl

/-- What names lead to, step by step. -/
theorem follow_eq_foldl {files : Files} {here there : Place} {path : List (List Char)}
    (followed : files.follow here path = .ok there) : there = path.foldl Place.step here := by
  induction path generalizing here with
  | nil => exact (Except.ok.inj followed).symm
  | cons name path ih =>
      rw [follow] at followed
      split at followed
      · cases followed
      · exact ih followed
      · cases followed

theorem isName_of_mem_foldl {here : Place} {path : List (List Char)} (here_named : ∀ name ∈ here, IsName name)
    (path_named : ∀ name ∈ path, IsName name) : ∀ name ∈ path.foldl Place.step here, IsName name := by
  induction path generalizing here with
  | nil => exact here_named
  | cons name path ih =>
      obtain ⟨named, rest_named⟩ := List.forall_mem_cons.mp path_named
      refine ih ?_ rest_named
      unfold Place.step
      split
      · exact here_named
      · split
        · exact fun name member => here_named name ((List.dropLast_sublist here).mem member)
        · exact List.forall_mem_append.mpr ⟨here_named, by simpa using named⟩

theorem origin_root (path : List Char) : origin "/".toList path = [] := by
  unfold origin
  split
  · rfl
  · rfl

/-! ### Where a process is that has gone to a directory -/

variable {files : Files} {directory path : String} {place : Place}

/-- A directory that has been gone to is where its names lead. -/
theorem follow_of_enter (entered : files.enter "/" directory = .ok place) :
    files.follow [] (names directory.toList) = .ok place := by
  unfold enter locate at entered
  rw [origin_root] at entered
  split at entered
  · cases entered
  next there located =>
    obtain rfl : there = place := by
      split at entered
      · exact Except.ok.inj entered
      · cases entered
      · cases entered
    split at located
    · cases located
    · rw [follow_append] at located
      cases followed : files.follow [] (names directory.toList) with
      | error flaw => simp [followed, Except.bind] at located
      | ok here =>
          simp only [followed, Except.bind] at located
          split at located
          · -- A slash at the end leads from a directory to itself.
            rw [follow] at located
            split at located
            · cases located
            · exact located
            · cases located
          · exact located

/-- The path of something in a directory, as a text. -/
def inside (directory path : String) : String := String.ofList (Path.join directory.toList path.toList)

theorem toList_inside (directory path : String) :
    (inside directory path).toList = Path.join directory.toList path.toList := String.toList_ofList

theorem mem_inside {c : Char} (member : c ∈ path.toList) (directory : String) :
    c ∈ (inside directory path).toList := by
  rw [toList_inside]
  exact Path.mem_join member _

/-- A process that has gone to a directory finds at a path what is at this path in the directory. -/
theorem find_entered (entered : files.enter "/" directory = .ok place) (inhabited : path ≠ "") :
    files.find place.text path = files.find "/" (inside directory path) := by
  have path_ne : path.toList ≠ [] := by simpa using inhabited
  have located : files.locate place.text.toList path.toList =
      files.locate "/".toList (Path.join directory.toList path.toList) := by
    cases rooted : Path.isAbsolute path.toList with
    | true => simp [Path.join_of_isAbsolute rooted, locate, origin, rooted]
    | false =>
        have followed := follow_of_enter entered
        have place_named : ∀ name ∈ place, IsName name := by
          rw [follow_eq_foldl followed]
          exact isName_of_mem_foldl (by simp) (fun name => isName_of_mem_names)
        have origin_eq : origin place.text.toList path.toList = place := by
          rw [origin, rooted, names_text place_named]
          rfl
        have joined : files.follow [] (names (Path.join directory.toList path.toList) ++
            if endsOpen path.toList then [['.']] else []) =
            files.follow place (names path.toList ++ if endsOpen path.toList then [['.']] else []) := by
          rw [names_join rooted, List.append_assoc, follow_append, followed]
          rfl
        unfold locate
        rw [origin_eq, origin_root, endsOpen_join path_ne, joined]
        simp [path_ne, join_ne_nil path_ne]
  unfold find
  rw [toList_inside, located]

/-! ### Places by their paths -/

theorem ofPath_of_locate (located : files.locate "/".toList path.toList = .ok place) :
    place = Place.ofPath "/" path := by
  unfold locate at located
  rw [origin_root] at located
  unfold Place.ofPath
  rw [origin_root, List.nil_append]
  split at located
  · cases located
  · rw [follow_eq_foldl located, List.foldl_append]
    split <;> rfl

theorem ofPath_inside (relative : Path.isAbsolute path.toList = false) (directory : String) :
    Place.ofPath "/" (inside directory path) = (names path.toList).foldl Place.step (Place.ofPath "/" directory) := by
  unfold Place.ofPath
  rw [origin_root, origin_root, toList_inside, names_join relative, List.nil_append, List.nil_append,
    List.foldl_append]

/-- Names that do not climb lead further down. -/
theorem foldl_step_of_not_climbing {path : List (List Char)} (here : Place) (level : ['.', '.'] ∉ path) :
    path.foldl Place.step here = here ++ path.filter (· ≠ ['.']) := by
  induction path generalizing here with
  | nil => simp
  | cons name path ih =>
      obtain ⟨name_ne, level⟩ := not_or.mp (List.mem_cons.not.mp level)
      rw [List.foldl_cons, ih _ level, Place.step]
      by_cases stays : name = ['.']
      · simp [stays]
      · simp [stays, Ne.symm name_ne]

end Files

end CallScript
