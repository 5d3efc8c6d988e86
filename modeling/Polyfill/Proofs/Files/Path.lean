import Polyfill.Proofs.Text.Octets
import Polyfill.Proofs.Text.Pieces

/-!
# Paths into a directory

A name without a slash, put behind the path of a directory, is the last of the names that the joined
path leads through, and the names before it are those of the directory, whatever the name is.
-/

namespace Polyfill

namespace Text

theorem octets_append (a b : String) : octets (a ++ b) = octets a ++ octets b := by
  simp only [octets_eq_flatMap, String.toList_append, List.flatMap_append]

theorem le_of_mem_tailOctets {octet : UInt8} {count n : Nat} (member : octet ∈ tailOctets count n) :
    0x80 ≤ octet.toNat := by
  induction count with
  | zero => simp [tailOctets] at member
  | succ count ih =>
    rcases List.mem_cons.mp member with rfl | member
    · rw [UInt8.toNat_ofNat']
      omega
    · exact ih member

theorem eq_of_mem_utf8EncodeChar {c : Char} {octet : UInt8} (ascii : octet.toNat < 0x80)
    (member : octet ∈ String.utf8EncodeChar c) : octet.toNat = c.val.toNat := by
  obtain ⟨count, lead, spread, encoded⟩ := exists_spread c
  rw [encoded] at member
  rcases List.mem_cons.mp member with rfl | member
  · rw [UInt8.toNat_ofNat'] at ascii ⊢
    cases spread <;> omega
  · have := le_of_mem_tailOctets member
    omega

theorem slash_mem_octets_iff {name : String} : Path.slash ∈ octets name ↔ '/' ∈ name.toList := by
  rw [octets_eq_flatMap, List.mem_flatMap]
  constructor
  · rintro ⟨c, listed, member⟩
    have same : c.val.toNat = '/'.val.toNat :=
      (eq_of_mem_utf8EncodeChar (by decide) member).symm
    exact Char.ext (UInt32.toNat_inj.mp same) ▸ listed
  · exact fun listed => ⟨'/', listed, by decide⟩

end Text

open Text

namespace Path

theorem exists_join (directory : String) :
    ∃ front, (front = "" ∨ ∃ base, front = base ++ "/") ∧
      ∀ name : String, '/' ∉ name.toList → join directory name = front ++ name := by
  have stays {name : String} (plain : '/' ∉ name.toList) : name.startsWith "/" = false :=
    String.startsWith_string_eq_false_iff.mpr fun ⟨rest, starts⟩ => plain (by simp [← starts])
  by_cases ends : (directory.isEmpty || directory.endsWith "/") = true
  · refine ⟨directory, ?_, fun name plain => by simp [join, ends, stays plain]⟩
    rcases Bool.or_eq_true_iff.mp ends with empty | ends
    · exact .inl (String.isEmpty_iff.mp empty)
    · rw [String.endsWith_eq_endsWith_toSlice, String.Slice.endsWith_string_iff] at ends
      obtain ⟨base, joined⟩ := ends
      refine .inr ⟨.ofList base, String.toList_inj.mp ?_⟩
      simpa using joined.symm
  · exact ⟨directory ++ "/", .inr ⟨directory, rfl⟩,
      fun name plain => by simp [join, ends, stays plain]⟩

theorem eq_of_components {path : Octets} {names : List Octets}
    (split : components path = .ok names) :
    names = if path.head? == some slash then root :: (pieces (· == slash) path).tail
      else pieces (· == slash) path := by
  unfold components at split
  split at split
  · cases split
  · split at split
    · cases split
    · split at split
      · cases split
      · exact (Except.ok.inj split).symm

theorem exists_components_join (directory : String) :
    ∃ front, ∀ name : String, '/' ∉ name.toList → ∀ names,
      components (octets (join directory name)) = .ok names → names = front ++ [octets name] := by
  obtain ⟨start, ends, joined⟩ := exists_join directory
  have last {name : String} (plain : '/' ∉ name.toList) :
      pieces (· == slash) (octets name) = [octets name] :=
    pieces_eq_singleton fun octet member =>
      beq_eq_false_iff_ne.mpr fun same => plain (slash_mem_octets_iff.mp (same ▸ member))
  rcases ends with rfl | ⟨base, rfl⟩
  · refine ⟨[], fun name plain names split => ?_⟩
    rw [eq_of_components split, joined name plain, String.empty_append, last plain, if_neg]
    · rfl
    · exact fun starts => plain (slash_mem_octets_iff.mp (List.mem_of_head? (beq_iff_eq.mp starts)))
  · let inner := pieces (· == slash) (octets base)
    have closed : octets (base ++ "/") = octets base ++ [slash] := octets_append base "/"
    have whole {name : String} (plain : '/' ∉ name.toList) :
        pieces (· == slash) (octets (join directory name)) = inner ++ [octets name] := by
      rw [joined name plain, octets_append, closed, List.append_assoc, List.singleton_append,
        pieces_append_cons rfl, last plain]
    have head {name : String} (plain : '/' ∉ name.toList) :
        (octets (join directory name)).head? = (octets base ++ [slash]).head? := by
      simp [joined name plain, octets_append, closed]
    refine ⟨if (octets base ++ [slash]).head? == some slash then root :: inner.tail else inner,
      fun name plain names split => ?_⟩
    rw [eq_of_components split, whole plain, head plain, List.tail_append_of_ne_nil (pieces_ne_nil _)]
    split <;> rfl

end Path

end Polyfill
