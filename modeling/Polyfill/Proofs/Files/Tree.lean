import Polyfill.Files.Basic

/-!
# Trees of files

In the files below a working directory, whatever is there stands in a directory. Something new is put
under a free name of a directory: the files stay a tree, and every path that could be followed before
leads to the same place.
-/

namespace Polyfill

open Text

/-- A name that leads down, to what a directory holds. -/
structure Path.LeadsDown (name : Octets) : Prop where
  notRoot : name ≠ Path.root
  notIdle : Path.isIdle name = false
  notUp : name ≠ Path.up

theorem exists_of_bind {ε α β : Type} {first : Except ε α} {next : α → Except ε β} {result : β}
    (succeeded : (first >>= next) = .ok result) :
    ∃ value, first = .ok value ∧ next value = .ok result := by
  cases first with
  | error fault => cases succeeded
  | ok value => exact ⟨value, rfl, succeeded⟩

/-- What every step keeps holds after all of them. -/
theorem of_foldlM {ε α β : Type} {step : α → β → Except ε α} (Holds : α → Prop)
    (keeps : ∀ {value item next}, Holds value → step value item = .ok next → Holds next)
    {items : List β} {first last : α} (holds : Holds first)
    (folded : items.foldlM step first = .ok last) : Holds last := by
  induction items generalizing first with
  | nil =>
    cases folded
    exact holds
  | cons item rest ih =>
    rw [List.foldlM_cons] at folded
    obtain ⟨next, stepped, folded⟩ := exists_of_bind folded
    exact ih (keeps holds stepped) folded

namespace Files

variable {files : Files} {location place : Location} {name : Octets} {entry : Entry}

/-- Whatever is there stands in a directory. -/
def IsTree (files : Files) : Prop :=
  ∀ name location, (files.get? (name :: location)).isSome → files.get? location = some .directory

/-- A name in a directory that something can be put under: no directory has it yet. -/
structure IsFree (files : Files) (location : Location) (name : Octets) : Prop where
  directory : files.get? location = some .directory
  down : Path.LeadsDown name
  short : name.length ≤ Path.maxName
  free : files.get? (name :: location) ≠ some .directory

theorem get?_of_isOuter (outer : location.isOuter = true) :
    files.get? location = some .directory := by
  rw [get?, if_pos outer]

theorem isOuter_cons (down : Path.LeadsDown name) : Location.isOuter (name :: location) = false := by
  simp [Location.isOuter, down.notRoot, down.notUp]

theorem isOuter_of_cons (outer : Location.isOuter (name :: location) = true) :
    location.isOuter = true := by
  simp only [Location.isOuter, Bool.or_eq_true, beq_iff_eq, List.cons.injEq, List.all_cons,
    Bool.and_eq_true] at outer ⊢
  rcases outer with ⟨_, rfl⟩ | ⟨_, above⟩
  · exact .inr rfl
  · exact .inr above

theorem isTree_empty : IsTree {} := by
  intro name location present
  unfold get? at present
  split at present
  case isTrue outer => exact get?_of_isOuter (isOuter_of_cons outer)
  case isFalse => simp at present

theorem above_cases (location : Location) :
    location.above.isOuter = true ∨ location.above = location.tail := by
  unfold Location.above
  split
  case isTrue root => exact .inl (by rw [Location.isOuter, root, Bool.true_or])
  case isFalse notRoot =>
    split
    case isTrue outer =>
      refine .inl ?_
      simp only [Location.isOuter, notRoot, Bool.false_or] at outer
      simp [Location.isOuter, outer]
    case isFalse => exact .inr rfl

section Entering

theorem enter_of_leadsDown (directory : files.get? location = some .directory)
    (down : Path.LeadsDown name) :
    files.enter location name =
      if Path.maxName < name.length then .error .nameTooLong
      else if (files.get? (name :: location)).isSome then .ok (name :: location)
      else .error .notFound := by
  simp [enter, directory, down.notRoot, down.notIdle, down.notUp]

theorem enter_eq_ok_iff (directory : files.get? location = some .directory)
    (down : Path.LeadsDown name) :
    files.enter location name = .ok place ↔
      name.length ≤ Path.maxName ∧ (files.get? (name :: location)).isSome ∧
        name :: location = place := by
  rw [enter_of_leadsDown directory down, ← Nat.not_lt]
  split
  case isTrue long => simp [long]
  case isFalse fits =>
    split
    case isTrue present => simp [fits, present]
    case isFalse missing => simp [missing]

/-- Where a name leads that does not lead down has nothing to do with the files. -/
theorem enter_of_not_leadsDown (location : Location) (other : ¬ Path.LeadsDown name) :
    ∃ place, (place.isOuter = true ∨ place = location ∨ place = location.tail) ∧
      ∀ files : Files, files.get? location = some .directory →
        files.enter location name = .ok place := by
  by_cases root : name = Path.root
  · exact ⟨[Path.root], .inl rfl, fun files directory => by simp [enter, directory, root]⟩
  · by_cases idle : Path.isIdle name = true
    · exact ⟨location, .inr (.inl rfl), fun files directory => by simp [enter, directory, root, idle]⟩
    · have up : name = Path.up := Decidable.byContradiction fun notUp =>
        other ⟨root, Bool.eq_false_iff.mpr idle, notUp⟩
      refine ⟨location.above, (above_cases location).imp_right .inr, fun files directory => ?_⟩
      simp only [enter, directory, up]
      rfl

theorem directory_of_enter (entered : files.enter location name = .ok place) :
    files.get? location = some .directory := by
  unfold enter at entered
  split at entered
  case h_1 => cases entered
  case h_2 => cases entered
  case h_3 directory => exact directory

theorem isFree_of_enter (present : (files.get? location).isSome)
    (missing : files.enter location name = .error .notFound) : files.IsFree location name := by
  have directory : files.get? location = some .directory := by
    unfold enter at missing
    split at missing
    case h_1 none => simp [none] at present
    case h_2 => cases missing
    case h_3 directory => exact directory
  by_cases down : Path.LeadsDown name
  · rw [enter_of_leadsDown directory down] at missing
    split at missing
    case isTrue => cases missing
    case isFalse fits =>
      refine ⟨directory, down, Nat.not_lt.mp fits, fun taken => ?_⟩
      simp [taken] at missing
  · obtain ⟨other, _, leads⟩ := enter_of_not_leadsDown location down
    cases missing.symm.trans (leads files directory)

end Entering

namespace IsTree

theorem enter_cases (tree : files.IsTree) (entered : files.enter location name = .ok place) :
    files.get? place = some .directory ∨
      place = name :: location ∧ Path.LeadsDown name ∧ name.length ≤ Path.maxName ∧
        (files.get? place).isSome := by
  have directory := directory_of_enter entered
  by_cases down : Path.LeadsDown name
  · obtain ⟨short, present, rfl⟩ := (enter_eq_ok_iff directory down).mp entered
    exact .inr ⟨rfl, down, short, present⟩
  · obtain ⟨other, outside, leads⟩ := enter_of_not_leadsDown location down
    cases entered.symm.trans (leads files directory)
    refine .inl ?_
    rcases outside with outer | rfl | rfl
    · exact get?_of_isOuter outer
    · exact directory
    · cases location with
      | nil => exact directory
      | cons last above => exact tree last above (by rw [directory]; rfl)

theorem isSome_enter (tree : files.IsTree) (entered : files.enter location name = .ok place) :
    (files.get? place).isSome := by
  rcases tree.enter_cases entered with directory | ⟨_, _, _, present⟩
  · rw [directory, Option.isSome_some]
  · exact present

theorem isSome_follow (tree : files.IsTree) {names : List Octets}
    (followed : files.follow names = .ok place) : (files.get? place).isSome :=
  of_foldlM (fun place => (files.get? place).isSome = true) (fun _ => tree.isSome_enter) rfl followed

end IsTree

namespace IsFree

variable (isFree : files.IsFree location name)
include isFree

theorem get?_put (entry : Entry) (other : Location) :
    (files.put (name :: location) entry).get? other =
      if other = name :: location then some entry else files.get? other :=
  Files.get?_put files _ other entry (isOuter_cons isFree.down)

theorem get?_put_directory (directory : files.get? place = some .directory) :
    (files.put (name :: location) entry).get? place = some .directory := by
  rw [isFree.get?_put, if_neg, directory]
  rintro rfl
  exact isFree.free directory

theorem isSome_put (present : (files.get? place).isSome) :
    ((files.put (name :: location) entry).get? place).isSome := by
  rw [isFree.get?_put]
  split
  · rfl
  · exact present

theorem isTree_put (tree : files.IsTree) : (files.put (name :: location) entry).IsTree := by
  intro last above present
  rw [isFree.get?_put] at present
  split at present
  case isTrue same =>
    cases same
    exact isFree.get?_put_directory isFree.directory
  case isFalse => exact isFree.get?_put_directory (tree last above present)

theorem enter_put {other : Octets} {start : Location} (entered : files.enter start other = .ok place) :
    (files.put (name :: location) entry).enter start other = .ok place := by
  have directory := directory_of_enter entered
  have stays : (files.put (name :: location) entry).get? start = some .directory :=
    isFree.get?_put_directory directory
  by_cases down : Path.LeadsDown other
  · obtain ⟨short, present, rfl⟩ := (enter_eq_ok_iff directory down).mp entered
    exact (enter_eq_ok_iff stays down).mpr ⟨short, isFree.isSome_put present, rfl⟩
  · obtain ⟨_, _, leads⟩ := enter_of_not_leadsDown start down
    rw [← entered, leads files directory, leads _ stays]

theorem foldlM_put {names : List Octets} {start : Location}
    (followed : names.foldlM files.enter start = .ok place) :
    names.foldlM (files.put (name :: location) entry).enter start = .ok place := by
  induction names generalizing start with
  | nil => exact followed
  | cons first rest ih =>
    rw [List.foldlM_cons] at followed ⊢
    obtain ⟨next, entered, followed⟩ := exists_of_bind followed
    rw [isFree.enter_put entered]
    exact ih followed

theorem follow_put {names : List Octets} (followed : files.follow names = .ok place) :
    (files.put (name :: location) entry).follow names = .ok place :=
  isFree.foldlM_put followed

end IsFree

section Making

-- Each of these goes on from a place that is there: from the working directory, from a name that was
-- entered, or from a directory that was just made.

theorem IsTree.makeEach (tree : files.IsTree) {names : List Octets}
    (present : (files.get? location).isSome) : (files.makeEach location names).2.IsTree := by
  fun_induction Files.makeEach files location names with
  | case1 => exact tree
  | case2 files location name rest place entered directory ih => exact ih tree (tree.isSome_enter entered)
  | case3 => exact tree
  | case4 files location name rest missing ih =>
    have isFree := isFree_of_enter present missing
    exact ih (isFree.isTree_put tree) (by simp [isFree.get?_put])
  | case5 => exact tree

theorem IsTree.makeFrom (tree : files.IsTree) {names : List Octets}
    (present : (files.get? location).isSome) : (files.makeFrom location names).2.IsTree := by
  fun_induction Files.makeFrom files location names with
  | case1 location name next rest place entered ih => exact ih (tree.isSome_enter entered)
  | case2 => exact tree.makeEach present
  | case3 => exact tree
  | case4 => exact tree.makeEach present

theorem IsTree.makeAll (tree : files.IsTree) (names : List Octets) :
    (files.makeAll names).2.IsTree := by
  unfold Files.makeAll
  extract_lets names
  split
  case isTrue =>
    have made : (files.makeFrom [] (Path.parent names)).2.IsTree := tree.makeFrom rfl
    split
    case h_1 =>
      split
      case h_1 same =>
        rw [same] at made
        exact made
      case h_2 => exact made
    case h_2 => exact tree
  case isFalse => exact tree.makeFrom rfl

theorem IsTree.makeDirectory (tree : files.IsTree) (path : String) :
    (files.makeDirectory path).2.IsTree := by
  unfold Files.makeDirectory
  split
  · exact tree
  · split
    · exact tree
    · exact tree.makeAll _

end Making

end Files

end Polyfill
