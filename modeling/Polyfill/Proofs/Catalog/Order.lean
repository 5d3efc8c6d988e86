import Polyfill.Catalog.Basic
import Polyfill.Proofs.Text.Octets

/-!
# The order of a catalog

A catalog is made of any list of candidates with distinct ids. It puts them into one order, which can be
read off the octets of the ids as well as off their characters.
-/

namespace Polyfill

namespace Candidate

/-- Catalog order by octets: by category, then by the octets of the ids. -/
def octetLe (a b : Candidate) : Bool :=
  a.category.rank < b.category.rank ||
    (a.category.rank == b.category.rank && Files.nameLe (Text.octets a.id) (Text.octets b.id))

theorem le_eq_octetLe : le = octetLe := by
  funext a b
  rw [le, octetLe, Files.nameLe_octets]

end Candidate

theorem firstRepeatAfter?_eq_none {α : Type} [DecidableEq α] {list seen : List α}
    (nodup : list.Nodup) (fresh : ∀ x ∈ list, x ∉ seen) : firstRepeatAfter? seen list = none := by
  induction list generalizing seen with
  | nil => rfl
  | cons x rest ih =>
    obtain ⟨single, nodup⟩ := List.nodup_cons.mp nodup
    rw [firstRepeatAfter?, if_neg (fresh x (by simp))]
    apply ih nodup
    intro y member
    rw [List.mem_cons, not_or]
    exact ⟨fun same => single (same ▸ member), fresh y (by simp [member])⟩

namespace Catalog

variable {candidates : List Candidate}

theorem exists_ofList (distinct : (candidates.map (·.id)).Nodup) :
    ∃ catalog, ofList candidates = .ok catalog := by
  have fresh : firstRepeat? ((candidates.mergeSort Candidate.le).map (·.id)) = none :=
    firstRepeatAfter?_eq_none (nodup_mergeSort distinct) (by simp)
  simp only [ofList]
  split
  next id repeated =>
    rw [fresh] at repeated
    cases repeated
  next => exact ⟨_, rfl⟩

theorem candidates_of_ofList {catalog : Catalog} (accepted : ofList candidates = .ok catalog) :
    catalog.candidates = candidates.mergeSort Candidate.octetLe := by
  simp only [ofList] at accepted
  split at accepted
  · cases accepted
  · cases accepted
    exact congrArg (candidates.mergeSort ·) Candidate.le_eq_octetLe

end Catalog

end Polyfill
