import Polyfill.Output
import Polyfill.Proofs.Files.Path
import Polyfill.Proofs.Files.Tree

/-!
# Reading what was written

A text that was written can be read back under the same path for as long as nothing is written to the
same place again. Other names of the same directory are other places.
-/

namespace Polyfill

open Text

namespace Files

variable {files after : Files} {location : Location} {name : Octets}

theorem locateNew_cases (tree : files.IsTree) {path : Octets} {target : Location}
    (located : files.locateNew path = .ok target) :
    ∃ front name location, Path.components path = .ok (front ++ [name]) ∧
      files.follow front = .ok location ∧ files.IsFree location name ∧ target = name :: location := by
  obtain ⟨names, split, located⟩ := exists_of_bind located
  obtain ⟨location, followed, located⟩ := exists_of_bind located
  rcases List.eq_nil_or_concat names with rfl | ⟨front, name, rfl⟩
  case inl => cases located
  case inr =>
    rw [List.concat_eq_append] at split followed located
    rw [List.dropLast_concat] at followed
    rw [List.getLastD_concat] at located
    refine ⟨front, name, location, split, followed, ?_⟩
    extract_lets last next at located
    split at located
    case isTrue => cases located
    case isFalse =>
      simp only [next, last] at located
      split at located
      case h_1 missing =>
        exact ⟨isFree_of_enter (tree.isSome_follow followed) missing, (Except.ok.inj located).symm⟩
      case h_2 => cases located
      case h_3 place entered =>
        split at located
        case isTrue => cases located
        case isFalse notDirectory =>
          cases located
          rcases tree.enter_cases entered with directory | ⟨rfl, down, short, _⟩
          · exact absurd (beq_iff_eq.mpr directory) notDirectory
          · exact ⟨⟨directory_of_enter entered, down, short, mt beq_iff_eq.mpr notDirectory⟩, rfl⟩

/-- A text is put under a free name of the directory that the names before it lead to. -/
theorem write_cases (tree : files.IsTree) {path text : String}
    (written : files.write path text = (.ok (), after)) :
    ∃ front name location, Path.components (octets path) = .ok (front ++ [name]) ∧
      files.follow front = .ok location ∧ files.IsFree location name ∧
      after = files.put (name :: location) (.file (octets text)) := by
  unfold write at written
  split at written
  case h_1 target located =>
    obtain ⟨front, name, location, split, followed, isFree, rfl⟩ := locateNew_cases tree located
    exact ⟨front, name, location, split, followed, isFree, (Prod.mk.inj written).2.symm⟩
  case h_2 => cases (Prod.mk.inj written).1

theorem IsTree.write (tree : files.IsTree) {path text : String}
    (written : files.write path text = (.ok (), after)) : after.IsTree := by
  obtain ⟨_, _, _, _, _, isFree, rfl⟩ := write_cases tree written
  exact isFree.isTree_put tree

theorem readText_eq_ok_iff {path text : String} {front : List Octets}
    (split : Path.components (octets path) = .ok (front ++ [name]))
    (followed : files.follow front = .ok location) :
    files.readText path = .ok text ↔
      ∃ place content, files.enter location name = .ok place ∧
        files.get? place = some (.file content) ∧ decode? content = some text := by
  have located : files.locate path = files.enter location name := by
    have steps : (front ++ [name]).foldlM files.enter [] = files.enter location name := by
      rw [List.foldlM_append, show front.foldlM files.enter [] = .ok location from followed]
      exact bind_pure (files.enter location name)
    rw [locate, split]
    exact steps
  rw [readText, read, located]
  cases files.enter location name with
  | error fault => simp [bind, Except.bind]
  | ok place =>
    cases held : files.get? place with
    | none => simp [bind, Except.bind, held]
    | some entry =>
      cases entry with
      | directory => simp [bind, Except.bind, held]
      | file content =>
        cases decoded : decode? content <;>
          simp [bind, Except.bind, pure, Except.pure, held, textOf, decoded]

theorem readText_write (tree : files.IsTree) {path text : String}
    (written : files.write path text = (.ok (), after)) : after.readText path = .ok text := by
  obtain ⟨front, name, location, split, followed, isFree, rfl⟩ := write_cases tree written
  have held := isFree.get?_put (.file (octets text)) (name :: location)
  rw [if_pos rfl] at held
  rw [readText_eq_ok_iff split (isFree.follow_put followed)]
  refine ⟨name :: location, octets text, ?_, held, decode?_octets text⟩
  rw [enter_eq_ok_iff (isFree.get?_put_directory isFree.directory) isFree.down, held]
  exact ⟨isFree.short, rfl, rfl⟩

theorem readText_write_other (tree : files.IsTree) {directory name other text kept : String}
    (plain : '/' ∉ name.toList) (plain' : '/' ∉ other.toList) (differs : other ≠ name)
    (written : files.write (Path.join directory name) text = (.ok (), after))
    (before : files.readText (Path.join directory other) = .ok kept) :
    after.readText (Path.join directory other) = .ok kept := by
  -- Both paths go through the same names, up to the last one.
  obtain ⟨front, last, location, split, followed, isFree, rfl⟩ := write_cases tree written
  obtain ⟨front', joined⟩ := Path.exists_components_join directory
  obtain ⟨rfl, same⟩ := List.append_inj' (joined name plain _ split) rfl
  cases same
  have splitOther : Path.components (octets (Path.join directory other)) =
      .ok (front ++ [octets other]) := by
    obtain ⟨content, read, _⟩ := exists_of_bind before
    obtain ⟨place, located, _⟩ := exists_of_bind read
    obtain ⟨names, components, _⟩ := exists_of_bind located
    rw [components, joined other plain' names components]
  rw [readText_eq_ok_iff splitOther followed] at before
  obtain ⟨place, content, entered, held, decoded⟩ := before
  rw [readText_eq_ok_iff splitOther (isFree.follow_put followed)]
  refine ⟨place, content, isFree.enter_put entered, ?_, decoded⟩
  rw [isFree.get?_put, if_neg, held]
  rintro rfl
  rcases tree.enter_cases entered with directory | ⟨same, _⟩
  · exact isFree.free directory
  · have octets : octets name = octets other := (List.cons.inj same).1
    exact differs (by simpa [decode?_octets] using (congrArg decode? octets).symm)

end Files

namespace Source

variable {files after : Files} {directory : String} {sources : List Source}

/--
Sources with distinct names can all be read back once they are written, and so can what other names of
the directory held.
-/
theorem readText_of_writeEach (tree : files.IsTree)
    (plain : ∀ source ∈ sources, '/' ∉ source.name.toList)
    (distinct : (sources.map (·.name)).Nodup)
    (written : writeEach .ofFiles directory sources files = (.ok (), after)) :
    (∀ source ∈ sources, after.readText (Path.join directory source.name) = .ok source.text) ∧
      ∀ other kept, '/' ∉ other.toList → other ∉ sources.map (·.name) →
        files.readText (Path.join directory other) = .ok kept →
        after.readText (Path.join directory other) = .ok kept := by
  induction sources generalizing files with
  | nil =>
    cases written
    exact ⟨fun _ member => absurd member List.not_mem_nil, fun _ _ _ _ kept => kept⟩
  | cons source rest ih =>
    rw [List.map_cons, List.nodup_cons] at distinct
    rcases first : files.write (Path.join directory source.name) source.text with ⟨result, between⟩
    have step : writeEach .ofFiles directory (source :: rest) files =
        match result with
        | .error fault => (.error (.notWritten (Path.join directory source.name) fault), between)
        | .ok () => writeEach .ofFiles directory rest between := by
      simp only [writeEach, FileAccess.ofFiles, bind, StateT.bind, first]
      cases result <;> rfl
    rw [step] at written
    cases result with
    | error fault => cases (Prod.mk.inj written).1
    | ok _ =>
      obtain ⟨readable, keeps⟩ := ih (tree.write first)
        (fun other member => plain other (List.mem_cons_of_mem source member)) distinct.2 written
      have plainFirst := plain source List.mem_cons_self
      constructor
      · intro other member
        rcases List.mem_cons.mp member with rfl | member
        · exact keeps _ _ plainFirst distinct.1 (Files.readText_write tree first)
        · exact readable other member
      · intro other kept plainOther fresh before
        rw [List.map_cons, List.mem_cons, not_or] at fresh
        exact keeps other kept plainOther fresh.2
          (Files.readText_write_other tree plainFirst plainOther fresh.1 first before)

theorem readText_of_writeAll (tree : files.IsTree)
    (plain : ∀ source ∈ sources, '/' ∉ source.name.toList)
    (distinct : (sources.map (·.name)).Nodup)
    (written : writeAll .ofFiles directory sources files = (.ok (), after)) :
    ∀ source ∈ sources, after.readText (Path.join directory source.name) = .ok source.text := by
  rcases made : files.makeDirectory directory with ⟨result, between⟩
  have step : writeAll .ofFiles directory sources files =
      match result with
      | .error fault => (.error (.noDirectory directory fault), between)
      | .ok () => writeEach .ofFiles directory sources between := by
    simp only [writeAll, FileAccess.ofFiles, bind, StateT.bind, made]
    cases result <;> rfl
  rw [step] at written
  cases result with
  | error fault => cases (Prod.mk.inj written).1
  | ok _ =>
    have treeBetween : between.IsTree := by
      simpa [made] using tree.makeDirectory directory
    exact (readText_of_writeEach treeBetween plain distinct written).1

end Source

end Polyfill
