import Mathlib.Data.List.Dedup
import Mathlib.Logic.Function.Basic
import Polyfill.Proofs.Generation.Caching

/-!
# The steps of calls

A call looks its selection up, and where it finds nothing it computes a text and settles it. The look-up
and the settling are one step each. Between them other calls may take any steps of theirs, be they the
calls of other callers or those that computing the text itself makes. `Cache.Run` is any order of such
steps, with any texts.
-/

namespace Polyfill

namespace Cache

section Settle

variable (cache : Cache) (key : Selection) (text : String)

theorem get?_settle (other : Selection) :
    (cache.settle key text).2.get? other =
      (cache.get? other).or (if other = key then some text else none) := by
  cases known : cache.get? key with
  | none => rw [settle_of_fresh cache key text known, get?_add]
  | some settled =>
    rw [settle_of_get? cache key text known]
    by_cases same : other = key <;> simp [same, known]

theorem get?_settle_self : (cache.settle key text).2.get? key = some (cache.settle key text).1 := by
  cases known : cache.get? key with
  | none => simp [settle_of_fresh cache key text known, get?_add, known]
  | some settled => simp [settle_of_get? cache key text known, known]

theorem extends_settle : (cache.settle key text).2.Extends cache := by
  intro other settled known
  rw [get?_settle, known, Option.some_or]

end Settle

/-- How far a call for the text of a selection has come. -/
inductive Phase where
  /-- It has not begun. -/
  | idle
  /-- It found no entry and computes a text. -/
  | computing (key : Selection)
  /-- It has computed a text, which is not settled yet. -/
  | computed (key : Selection) (text : String)
  /-- It has returned, or computing came to nothing. -/
  | ended

/-- A step in the use of a cache. Calls are told apart by names. -/
inductive Event (Name : Type) where
  /-- A call finds an entry and returns its text. -/
  | found (call : Name) (key : Selection) (text : String)
  /-- A call finds no entry. -/
  | missed (call : Name) (key : Selection)
  /-- A call has computed a text. -/
  | computed (call : Name) (key : Selection) (text : String)
  /-- Computing comes to nothing, and so does the call. -/
  | failed (call : Name)
  /-- A call settles its text and returns the one that counts. -/
  | settled (call : Name) (key : Selection) (text : String)
  /-- Somebody looks an entry up, without computing one. -/
  | got (key : Selection) (text? : Option String)
  /-- Somebody counts the entries. -/
  | counted (size : Nat)

namespace Event

variable {Name : Type}

def call? : Event Name → Option Name
  | found call _ _ | missed call _ | computed call _ _ | failed call | settled call _ _ => some call
  | got _ _ | counted _ => none

/-- The text that a call returns, and for which selection. -/
def returned? : Event Name → Option (Selection × String)
  | found _ key text | settled _ key text => some (key, text)
  | _ => none

/-- The selection for which a call has completed its settling. -/
def settledKey? : Event Name → Option Selection
  | settled _ key _ => some key
  | _ => none

/-- What a step answers. -/
def reply? : Event Name → Option Reply
  | found _ _ text => some (.obtained text false)
  | settled _ _ text => some (.obtained text true)
  | got _ text? => some (.found text?)
  | counted _ => some .counted
  | _ => none

end Event

/-- A cache together with the calls that use it. -/
structure Shared (Name : Type) where
  cache : Cache
  phase : Name → Phase

namespace Shared

variable {Name : Type}

def fresh : Shared Name where
  cache := ∅
  phase := fun _ => .idle

def advance [DecidableEq Name] (shared : Shared Name) (call : Name) (phase : Phase) : Shared Name :=
  { shared with phase := Function.update shared.phase call phase }

@[simp] theorem cache_advance [DecidableEq Name] (shared : Shared Name) (call : Name)
    (phase : Phase) : (shared.advance call phase).cache = shared.cache :=
  rfl

@[grind =] theorem phase_advance [DecidableEq Name] (shared : Shared Name) (call other : Name)
    (phase : Phase) :
    (shared.advance call phase).phase other =
      if other = call then phase else shared.phase other :=
  Function.update_apply shared.phase call phase other

end Shared

section Steps

variable {Name : Type} [DecidableEq Name]

/-- What can happen to a shared cache at once. -/
inductive Step : Shared Name → Event Name → Shared Name → Prop where
  | found {shared : Shared Name} {call key text} (idle : shared.phase call = .idle)
      (known : shared.cache.get? key = some text) :
      Step shared (.found call key text) (shared.advance call .ended)
  | missed {shared : Shared Name} {call key} (idle : shared.phase call = .idle)
      (unknown : shared.cache.get? key = none) :
      Step shared (.missed call key) (shared.advance call (.computing key))
  | computed {shared : Shared Name} {call key} (text : String)
      (computing : shared.phase call = .computing key) :
      Step shared (.computed call key text) (shared.advance call (.computed key text))
  | failed {shared : Shared Name} {call key} (computing : shared.phase call = .computing key) :
      Step shared (.failed call) (shared.advance call .ended)
  | settled {shared : Shared Name} {call key text}
      (computed : shared.phase call = .computed key text) :
      Step shared (.settled call key (shared.cache.settle key text).1)
        { shared.advance call .ended with cache := (shared.cache.settle key text).2 }
  | got {shared : Shared Name} (key : Selection) :
      Step shared (.got key (shared.cache.get? key)) shared
  | counted {shared : Shared Name} : Step shared (.counted shared.cache.size) shared

/-- Any steps, one after the other; the history lists them in their order. -/
inductive Run (start : Shared Name) : List (Event Name) → Shared Name → Prop where
  | nil : Run start [] start
  | snoc {history event shared next} (run : Run start history shared)
      (step : Step shared event next) : Run start (history ++ [event]) next

namespace Step

variable {shared next : Shared Name} {event : Event Name} (step : Step shared event next)
include step

theorem extends_cache : next.cache.Extends shared.cache := by
  cases step with
  | settled => exact extends_settle _ _ _
  | found | missed | computed | failed | got | counted => exact .refl _

theorem get?_of_returned {key : Selection} {text : String}
    (returned : event.returned? = some (key, text)) : next.cache.get? key = some text := by
  cases step with
  | found _ known =>
    cases returned
    exact known
  | settled =>
    cases returned
    exact get?_settle_self _ _ _
  | missed | computed | failed | got | counted => cases returned

theorem get?_cases {key : Selection} {text : String} (entry : next.cache.get? key = some text) :
    shared.cache.get? key = some text ∨ ∃ call, shared.phase call = .computed key text := by
  cases step with
  | @settled call own _ computed =>
    rw [get?_settle, Option.or_eq_some_iff] at entry
    rcases entry with known | ⟨_, new⟩
    · exact .inl known
    · obtain ⟨rfl, rfl⟩ : key = own ∧ _ = text := by simpa using new
      exact .inr ⟨call, computed⟩
  | found | missed | computed | failed | got | counted => exact .inl entry

theorem isSome_get?_iff (key : Selection) :
    (next.cache.get? key).isSome ↔
      (shared.cache.get? key).isSome ∨ event.settledKey? = some key := by
  cases step with
  | @settled _ own =>
    by_cases same : key = own
    · simp [get?_settle, Event.settledKey?, same]
    · simp [get?_settle, Event.settledKey?, same, Ne.symm same]
  | found | missed | computed | failed | got | counted => simp [Event.settledKey?]

theorem computed_cases {call : Name} {key : Selection} {text : String}
    (computed : next.phase call = .computed key text) :
    shared.phase call = .computed key text ∨ event = .computed call key text := by
  cases step <;> grind

theorem of_idle {call : Name} (idle : next.phase call = .idle) :
    shared.phase call = .idle ∧ event.call? ≠ some call := by
  cases step <;> grind [Event.call?]

theorem of_ended {call : Name} (ended : shared.phase call = .ended) :
    next.phase call = .ended ∧ event.call? ≠ some call := by
  cases step <;> grind [Event.call?]

end Step

namespace Run

variable {start shared last : Shared Name} {history later : List (Event Name)}

theorem append (before : Run start history shared) (after : Run shared later last) :
    Run start (history ++ later) last := by
  induction after with
  | nil => simpa using before
  | snoc _ step ih => simpa using ih.snoc step

theorem extends_cache (run : Run start history last) : last.cache.Extends start.cache := by
  induction run with
  | nil => exact .refl _
  | snoc _ step ih => exact ih.trans step.extends_cache

/-- A returned text is the entry from then on. -/
theorem get?_of_returned (run : Run start history last) {event : Event Name}
    (member : event ∈ history) {key : Selection} {text : String}
    (returned : event.returned? = some (key, text)) : last.cache.get? key = some text := by
  induction run with
  | nil => cases member
  | snoc _ step ih =>
    rcases List.mem_append.mp member with old | new
    · exact step.extends_cache _ _ (ih old)
    · obtain rfl := List.mem_singleton.mp new
      exact step.get?_of_returned returned

section Fresh

variable (run : Run .fresh history last)
include run

theorem mem_of_computed {call : Name} {key : Selection} {text : String}
    (computed : last.phase call = .computed key text) : .computed call key text ∈ history := by
  induction run with
  | nil => cases computed
  | snoc _ step ih =>
    rcases step.computed_cases computed with before | rfl
    · exact List.mem_append_left _ (ih before)
    · exact List.mem_append_right _ List.mem_cons_self

theorem exists_computed {key : Selection} {text : String}
    (entry : last.cache.get? key = some text) : ∃ call, .computed call key text ∈ history := by
  induction run with
  | nil => cases entry
  | snoc before step ih =>
    rcases step.get?_cases entry with old | ⟨call, computed⟩
    · exact (ih old).imp fun _ => List.mem_append_left _
    · exact ⟨call, List.mem_append_left _ (before.mem_of_computed computed)⟩

theorem isSome_get?_iff (key : Selection) :
    (last.cache.get? key).isSome ↔ key ∈ history.filterMap Event.settledKey? := by
  induction run with
  | nil => simp [Shared.fresh, get?, EmptyCollection.emptyCollection, empty]
  | snoc _ step ih =>
    rw [step.isSome_get?_iff, ih]
    simp

theorem size_eq : last.cache.size = (history.filterMap Event.settledKey?).dedup.length := by
  have members (key : Selection) : key ∈ last.cache.entries.map (·.1) ↔
      key ∈ (history.filterMap Event.settledKey?).dedup := by
    rw [List.mem_dedup, ← run.isSome_get?_iff, Option.isSome_iff_ne_none, ne_eq, get?_eq_none_iff,
      not_not]
  have perm := (List.perm_ext_iff_of_nodup last.cache.keys_nodup (List.nodup_dedup _)).mpr members
  rw [← perm.length_eq, List.length_map]
  rfl

theorem not_mem_of_idle {call : Name} (idle : last.phase call = .idle) :
    ∀ event ∈ history, event.call? ≠ some call := by
  induction run with
  | nil => simp
  | snoc _ step ih =>
    obtain ⟨before, other⟩ := step.of_idle idle
    simpa [or_imp, forall_and] using ⟨ih before, other⟩

/-- A call that finds an entry has ended and has computed nothing. -/
theorem of_found {call : Name} {key : Selection} {text : String}
    (found : .found call key text ∈ history) :
    last.phase call = .ended ∧ ∀ key text, .computed call key text ∉ history := by
  induction run with
  | nil => cases found
  | @snoc history event shared next before step ih =>
    rcases List.mem_append.mp found with old | new
    · obtain ⟨ended, never⟩ := ih old
      obtain ⟨still, other⟩ := step.of_ended ended
      refine ⟨still, fun key text member => ?_⟩
      rcases List.mem_append.mp member with old | new
      · exact never key text old
      · obtain rfl := List.mem_singleton.mp new
        exact other rfl
    · obtain rfl := List.mem_singleton.mp new
      cases step with
      | found idle _ =>
        refine ⟨by simp [Shared.phase_advance], fun key text member => ?_⟩
        rcases List.mem_append.mp member with old | new
        · exact before.not_mem_of_idle idle _ old rfl
        · cases List.mem_singleton.mp new

end Fresh

end Run

end Steps

end Cache

end Polyfill
