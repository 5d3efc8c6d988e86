import Mathlib.Data.List.Perm.Subperm
import Polyfill.Json.Kind
import Polyfill.NameSet
import Polyfill.Proofs.Json.Tree

/-!
# Kinds that restore their values

A kind restores a value if reading the tree of what is written for it gives the value again. Kinds that
are made of others restore what is made of values that those restore. Records are put together field by
field, in whatever order the members of the object stand.
-/

namespace Polyfill.Json

theorem read_write {α : Type} (reader : Reader α) {layout : Layout} (blank : layout.IsBlank)
    {value : Value} (exact : value.IsExact) (depth : Nat) :
    read reader (String.ofList (value.write layout depth)) = reader value.node := by
  rw [read, Document.ofText_write blank exact, Document.read]
  cases reader value.node <;> rfl

/-- A value that is read again as it was written, and that holds no doubles. -/
structure Kind.Restores {α : Type} (kind : Kind α) (value : α) : Prop where
  exact : (kind.value value).IsExact
  reads : kind.reader (kind.value value).node = .ok value

theorem Kind.Restores.parse_print {α : Type} {kind : Kind α} {value : α}
    (restores : kind.Restores value) : kind.parse (kind.print value) = .ok value :=
  (read_write kind.reader Layout.isBlank_spread restores.exact 0).trans restores.reads

namespace Kind

variable {α : Type}

theorem restores_bool (value : Bool) : bool.Restores value where
  exact := trivial
  reads := rfl

theorem restores_text (value : String) : text.Restores value where
  exact := trivial
  reads := Literal.read_written value

theorem restores_natural {limit number : Nat} (word : limit ≤ Numeral.wordLimit)
    (below : number < limit) : (natural limit).Restores number where
  exact := trivial
  reads := by
    have value := Numeral.value_ofInt (Nat.lt_of_lt_of_le below word)
    simp only [natural, Value.natural, Value.node, Number.scalar_integer, Reader.natural, value]
    exact if_pos below

theorem restores_named {name : α → String} {ofName? : String → Option α} {value : α}
    (known : ofName? (name value) = some value) : (named name ofName?).Restores value where
  exact := trivial
  reads := by
    simp only [named, Value.node, Reader.name, Reader.named, Literal.read_written]
    simp only [bind, Except.bind, known]
    rfl

theorem restores_list {kind : Kind α} {values : List α} (all : ∀ value ∈ values, kind.Restores value) :
    (list kind).Restores values where
  exact := Value.areExactItems_iff.mpr (List.forall_mem_map.mpr fun value among => (all value among).exact)
  reads := by
    simp only [list, Value.node, Reader.list]
    induction values with
    | nil => rfl
    | cons first rest ih =>
      have head := (all first (by simp)).reads
      have tail := ih fun value among => all value (by simp [among])
      rw [List.map_cons, Value.itemNodes, Reader.items, head, tail]
      rfl

end Kind

/-! ## Records -/

def Field.member {α : Type} (record : α) (field : Field α) : String × Value :=
  (field.name, field.get record)

/-- Reading a field of a record again sets it in another one. -/
structure Field.Copies {α : Type} (field : Field α) (record : α) (copy : α → α) : Prop where
  exact : (field.get record).IsExact
  put : ∀ other, field.put (field.get record).node other = .ok (copy other)

theorem Field.Copies.of {α β : Type} {name : String} {required : Bool} {kind : Kind β} {get : α → β}
    {set : α → β → α} {record : α} (restores : kind.Restores (get record)) :
    (Field.of name required kind get set).Copies record (set · (get record)) where
  exact := restores.exact
  put other := by
    simp only [Field.of, restores.reads]
    rfl

namespace Form

variable {α : Type} {form : Form α} {record : α}

theorem field?_name (distinct : (form.fields.map (·.name)).Nodup) {field : Field α}
    (known : field ∈ form.fields) : form.field? field.name = some field := by
  unfold field?
  generalize form.fields = fields at distinct known
  induction fields with
  | nil => simp at known
  | cons first rest ih =>
    obtain ⟨fresh, distinct⟩ := List.nodup_cons.mp distinct
    rcases List.mem_cons.mp known with rfl | known
    · simp
    · have other : first.name ≠ field.name := by
        intro same
        exact fresh (List.mem_map.mpr ⟨field, known, same.symm⟩)
      rw [List.find?_cons_of_neg (by simpa using other)]
      exact ih distinct known

theorem readKey_written (distinct : (form.fields.map (·.name)).Nodup) {field : Field α}
    (known : field ∈ form.fields) {seen : List String} (fresh : field.name ∉ seen) :
    form.readKey seen (.written field.name) = .ok (some field) := by
  simp only [readKey, Literal.read_written, bind, Except.bind, field?_name distinct known]
  simp [fresh]
  rfl

variable (record) in
/-- Members that stand for different fields are put into the record one after the other. -/
theorem readMembers_eq_foldlM (distinct : (form.fields.map (·.name)).Nodup) {fields : List (Field α)}
    (known : ∀ field ∈ fields, field ∈ form.fields) (different : (fields.map (·.name)).Nodup)
    {seen : List String} (fresh : ∀ field ∈ fields, field.name ∉ seen)
    (filled : form.isFilled ((fields.map (·.name)).reverse ++ seen) = true) (start : α) :
    form.readMembers seen start (Value.memberNodes (fields.map (Field.member record))) =
      fields.foldlM (fun other field => field.put (field.get record).node other) start := by
  induction fields generalizing seen start with
  | nil => exact if_pos filled
  | cons field fields ih =>
    obtain ⟨apart, different⟩ := List.nodup_cons.mp different
    have key := readKey_written distinct (known field (by simp)) (fresh field (by simp))
    rw [List.map_cons, Field.member, Value.memberNodes, readMembers, key, List.foldlM_cons]
    simp only [bind, Except.bind]
    cases field.put (field.get record).node start with
    | error fault => rfl
    | ok next =>
      have more : ∀ field ∈ fields, field ∈ form.fields := fun other among =>
        known other (by simp [among])
      refine ih more different ?_ (by simpa using filled) next
      intro other among
      have unequal : other.name ≠ field.name := by
        intro same
        exact apart (List.mem_map.mpr ⟨other, among, same⟩)
      simp [unequal, fresh other (by simp [among])]

theorem areExactMembers_map {fields : List (Field α)}
    (exact : ∀ field ∈ fields, (field.get record).IsExact) :
    Value.AreExactMembers (fields.map (Field.member record)) :=
  Value.areExactMembers_iff.mpr (List.forall_mem_map.mpr exact)

theorem isFilled_of_forall_mem {seen : List String}
    (all : ∀ field ∈ form.fields, field.required = true → field.name ∈ seen) :
    form.isFilled seen = true := by
  rw [isFilled, List.all_eq_true]
  intro field among
  cases required : field.required with
  | false => rfl
  | true => simp [all field among required]

theorem forall_isExact_of_copies {fields : List (Field α)} {copies : List (α → α)}
    (copied : List.Forall₂ (fun field copy => field.Copies record copy) fields copies) :
    ∀ field ∈ fields, (field.get record).IsExact := by
  induction copied with
  | nil => simp
  | cons first _ ih => exact List.forall_mem_cons.mpr ⟨first.exact, ih⟩

theorem foldlM_put_of_copies {fields : List (Field α)} {copies : List (α → α)}
    (copied : List.Forall₂ (fun field copy => field.Copies record copy) fields copies) (start : α) :
    fields.foldlM (fun other field => field.put (field.get record).node other) start =
      .ok (copies.foldl (fun other copy => copy other) start) := by
  induction copied generalizing start with
  | nil => rfl
  | @cons field copy fields copies first _ ih =>
    rw [List.foldlM_cons, first.put]
    exact ih (copy start)

/-- A record is restored if its fields, copied one after the other, make it up. -/
theorem restores (distinct : (form.fields.map (·.name)).Nodup) {copies : List (α → α)}
    (copied : List.Forall₂ (fun field copy => field.Copies record copy) form.fields copies)
    (result : copies.foldl (fun other copy => copy other) form.blank = record) :
    form.kind.Restores record where
  exact := areExactMembers_map (forall_isExact_of_copies copied)
  reads := by
    have filled : form.isFilled ((form.fields.map (·.name)).reverse ++ []) = true := by
      refine isFilled_of_forall_mem fun field among _ => ?_
      simpa using ⟨field, among, rfl⟩
    have members := readMembers_eq_foldlM record distinct (fun _ among => among) distinct
      (by simp) filled form.blank
    exact members.trans ((foldlM_put_of_copies copied form.blank).trans (congrArg _ result))

/-! ## Parts of records -/

theorem exists_fields_of_subperm {kept : List (String × Value)}
    (part : kept.Subperm (form.members record)) :
    ∃ fields : List (Field α), fields.Subperm form.fields ∧
      kept = fields.map (Field.member record) := by
  obtain ⟨chosen, same, part⟩ := part
  obtain ⟨fields, among, rfl⟩ := List.sublist_map_iff.mp part
  have written : List.Forall₂ (fun member field => member = Field.member record field)
      (fields.map (Field.member record)) fields := by
    rw [List.forall₂_map_left_iff, List.forall₂_same]
    exact fun _ _ => rfl
  obtain ⟨reordered, written, same⟩ := List.perm_comp_forall₂ same.symm written
  refine ⟨reordered, ⟨fields, same.symm, among⟩, ?_⟩
  rw [← List.forall₂_eq_eq_eq, List.forall₂_map_right_iff]
  exact written

/-- Records, by the names of the fields that are as in a given record, the others being blank. -/
structure Keeps (form : Form α) (record : α) (keeping : List String → α) : Prop where
  blank : keeping [] = form.blank
  copies : ∀ field ∈ form.fields, ∃ copy, field.Copies record copy ∧
    ∀ names, copy (keeping names) = keeping (field.name :: names)

variable {keeping : List String → α}

theorem Keeps.foldlM_put (keeps : form.Keeps record keeping) {fields : List (Field α)}
    (known : ∀ field ∈ fields, field ∈ form.fields) (names : List String) :
    fields.foldlM (fun other field => field.put (field.get record).node other) (keeping names) =
      .ok (keeping ((fields.map (·.name)).reverse ++ names)) := by
  induction fields generalizing names with
  | nil => rfl
  | cons field fields ih =>
    obtain ⟨first, rest⟩ := List.forall_mem_cons.mp known
    obtain ⟨copy, copies, keep⟩ := keeps.copies field first
    rw [List.foldlM_cons, copies.put, keep]
    refine (ih rest (field.name :: names)).trans ?_
    rw [List.map_cons, List.reverse_cons, List.append_assoc, List.singleton_append]

/-- Any of the fields of a record, in any order, if no field is required. -/
theorem Keeps.read_object (keeps : form.Keeps record keeping)
    (distinct : (form.fields.map (·.name)).Nodup)
    (optional : ∀ field ∈ form.fields, field.required = false)
    {kept : List (String × Value)} (part : kept.Subperm (form.members record)) :
    (Value.object kept).IsExact ∧
      form.reader (Value.object kept).node = .ok (keeping (kept.map Prod.fst).reverse) := by
  obtain ⟨fields, ⟨ordered, same, among⟩, rfl⟩ := exists_fields_of_subperm part
  have known : ∀ field ∈ fields, field ∈ form.fields := fun field member =>
    among.subset (same.mem_iff.mpr member)
  have different : (fields.map (·.name)).Nodup :=
    (same.map _).nodup_iff.mp ((among.map _).nodup distinct)
  have filled : form.isFilled ((fields.map (·.name)).reverse ++ []) = true := by
    refine isFilled_of_forall_mem fun field member required => ?_
    simp [optional field member] at required
  have members := readMembers_eq_foldlM record distinct known different (by simp) filled
    form.blank
  constructor
  · refine areExactMembers_map fun field member => ?_
    obtain ⟨copy, copies, -⟩ := keeps.copies field (known field member)
    exact copies.exact
  · refine members.trans ?_
    rw [← keeps.blank, keeps.foldlM_put known []]
    simp [Field.member, Function.comp_def]

end Form

end Polyfill.Json
