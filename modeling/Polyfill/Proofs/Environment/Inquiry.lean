import Polyfill.Environment.Inquiry

/-!
# Laws of inquiries

An inquiry has one value that only the answers of the environment decide. From whatever progress it is
run, it either comes to this value or stops because the flag is up, and whether the flag is up is
decided by how it was at the start and by the queries made. `Inquiry.Yields` says both, and it is closed
under the operations that inquiries are made of.
-/

namespace Polyfill

namespace Environment

/-- Whether the flag went up during one of the queries made, the latest of which comes first. -/
def raisedDuring (environment : Environment) : List Query → Bool
  | [] => false
  | query :: earlier => environment.raises earlier query || environment.raisedDuring earlier

theorem raisedDuring_iff {environment : Environment} {asked : List Query} :
    environment.raisedDuring asked = true ↔
      ∃ later query earlier, asked = later ++ query :: earlier ∧
        environment.raises earlier query = true := by
  induction asked with
  | nil => simp [raisedDuring]
  | cons first rest ih =>
    rw [raisedDuring, Bool.or_eq_true, ih]
    constructor
    · rintro (raised | ⟨later, query, earlier, rfl, raised⟩)
      · exact ⟨[], first, rest, rfl, raised⟩
      · exact ⟨first :: later, query, earlier, rfl, raised⟩
    · rintro ⟨later, query, earlier, split, raised⟩
      cases later with
      | nil =>
        obtain ⟨rfl, rfl⟩ := List.cons.inj split
        exact .inl raised
      | cons latest later =>
        obtain ⟨rfl, rfl⟩ := List.cons.inj split
        exact .inr ⟨later, query, earlier, rfl, raised⟩

@[simp] theorem raisedDuring_calm (environment : Environment) (asked : List Query) :
    environment.calm.raisedDuring asked = false := by
  induction asked with
  | nil => rfl
  | cons query earlier ih => exact ih

end Environment

namespace Inquiry

variable {α β : Type}

@[simp] theorem runFrom_pure (value : α) (progress : Progress) :
    (pure value : Inquiry α).runFrom progress = (.ok value, progress) :=
  rfl

theorem runFrom_bind (first : Inquiry α) (next : α → Inquiry β) (progress : Progress) :
    (first >>= next).runFrom progress =
      match first.runFrom progress with
      | (.ok value, progress) => (next value).runFrom progress
      | (.error stop, progress) => (.error stop, progress) := by
  show StateT.run (ExceptT.run (first >>= next)) progress = _
  simp only [ExceptT.run_bind, StateT.run_bind, runFrom]
  rcases StateT.run (ExceptT.run first) progress with ⟨_ | _, _⟩ <;> rfl

@[simp] theorem runFrom_ask (environment : Environment) (query : Query) (progress : Progress) :
    (ask environment query).runFrom progress =
      (.ok (environment.answer query),
        { asked := query :: progress.asked
          raised := progress.raised || environment.raises progress.asked query }) :=
  rfl

@[simp] theorem runFrom_poll (progress : Progress) :
    poll.runFrom progress =
      (if progress.raised then .error .cancelled else .ok (), progress) := by
  obtain ⟨asked, raised⟩ := progress
  cases raised <;> rfl

/--
An inquiry yields a value: it stops only if the flag is up, comes to nothing but the value, and
accounts for the flag by the queries it makes.
-/
structure Yields (environment : Environment) (inquiry : Inquiry α) (value : α) : Prop where
  outcome : ∀ progress, (inquiry.runFrom progress).1 = .ok value ∨
    (inquiry.runFrom progress).1 = .error .cancelled ∧ (inquiry.runFrom progress).2.raised = true
  flag : ∀ progress before,
    progress.raised = (before || environment.raisedDuring progress.asked) →
      (inquiry.runFrom progress).2.raised =
        (before || environment.raisedDuring (inquiry.runFrom progress).2.asked)

namespace Yields

variable {environment : Environment}

theorem of_pure (value : α) : Yields environment (pure value) value where
  outcome _ := .inl rfl
  flag _ _ accounted := accounted

theorem of_ask (query : Query) :
    Yields environment (ask environment query) (environment.answer query) where
  outcome _ := .inl rfl
  flag progress before accounted := by
    simp only [runFrom_ask, accounted, Environment.raisedDuring]
    grind

theorem of_poll : Yields environment poll () where
  outcome progress := by
    cases up : progress.raised <;> simp [up]
  flag progress before accounted := by simpa using accounted

theorem bind {first : Inquiry α} {next : α → Inquiry β} {value : α} {result : β}
    (head : Yields environment first value) (tail : Yields environment (next value) result) :
    Yields environment (first >>= next) result where
  outcome progress := by
    have outcome := head.outcome progress
    rw [runFrom_bind]
    rcases run : first.runFrom progress with ⟨_ | found, reached⟩
    · simpa [run] using outcome
    · obtain rfl : found = value := by simpa [run] using outcome
      exact tail.outcome reached
  flag progress before accounted := by
    have outcome := head.outcome progress
    have flag := head.flag progress before accounted
    rw [runFrom_bind]
    rcases run : first.runFrom progress with ⟨_ | found, reached⟩
    · simpa [run] using flag
    · obtain rfl : found = value := by simpa [run] using outcome
      exact tail.flag reached before (by simpa [run] using flag)

theorem ask_bind {query : Query} {next : Bool → Inquiry β} {result : β}
    (tail : Yields environment (next (environment.answer query)) result) :
    Yields environment (ask environment query >>= next) result :=
  (of_ask query).bind tail

theorem poll_bind {next : Unit → Inquiry β} {result : β}
    (tail : Yields environment (next ()) result) :
    Yields environment (poll >>= next) result :=
  of_poll.bind tail

theorem run_calm {inquiry : Inquiry α} {value : α}
    (yields : Yields environment.calm inquiry value) : (inquiry.runFrom {}).1 = .ok value := by
  have flag := yields.flag {} false (by simp)
  rcases yields.outcome {} with ended | ⟨_, up⟩
  · exact ended
  · simp [up] at flag

/-- An inquiry comes to what it comes to where nobody raises the flag, or it is cancelled. -/
theorem complete_or_cancelled {inquiry undisturbed : Inquiry α} {value : α}
    (yields : Yields environment inquiry value)
    (calmly : Yields environment.calm undisturbed value) (progress : Progress) :
    (undisturbed.runFrom {}).1 ≠ .error .cancelled ∧
      ((inquiry.runFrom progress).1 = .error .cancelled ∨
        (inquiry.runFrom progress).1 = (undisturbed.runFrom {}).1) := by
  rw [calmly.run_calm]
  refine ⟨by simp, ?_⟩
  rcases yields.outcome progress with complete | ⟨cancelled, _⟩
  · exact .inr complete
  · exact .inl cancelled

end Yields

end Inquiry

end Polyfill
