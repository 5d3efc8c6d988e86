import Polyfill.Proofs.Cache.Steps
import Polyfill.Proofs.Generation.Attempts

/-!
# Caches with several callers

Whatever the order in which calls take their steps, the first text that is settled for a selection is the
one that every call returns. Calls that are made in a row, or in each other, take the steps of one such
order: each misses or finds its entry where its turn comes, and evaluations call for one selection after
the other.
-/

namespace Polyfill

namespace Cache

section Tasks

variable {Name : Type}

/-- The steps of one task, and then those of another one. -/
def Then (first later : List (Event Name) → Prop) (history : List (Event Name)) : Prop :=
  ∃ own others, first own ∧ later others ∧ history = own ++ others

/-- The steps of tasks, one after the other. -/
def InTurn (tasks : List (List (Event Name) → Prop)) : List (Event Name) → Prop :=
  tasks.foldr Then (· = [])

/--
The steps of a call for the text of a selection, where computing it comes to a text or to nothing, and
takes steps of its own.
-/
inductive Obtains (key : Selection) (text? : Option String) (inside : List (Event Name) → Prop) :
    List (Event Name) → Prop where
  | found (call : Name) (settled : String) : Obtains key text? inside [.found call key settled]
  | settled {text : String} {steps : List (Event Name)} (call : Name) (settled : String)
      (own : text? = some text) (during : inside steps) :
      Obtains key text? inside
        (.missed call key :: (steps ++ [.computed call key text, .settled call key settled]))
  | failed (call : Name) (nothing : text? = none) :
      Obtains key text? inside [.missed call key, .failed call]

mutual

/-- The steps of a use of the cache. -/
def Call.Takes : Call → List (Event Name) → Prop
  | .get key => fun history => ∃ text?, history = [.got key text?]
  | .count => fun history => ∃ size, history = [.counted size]
  | .compute key text during => Obtains key (some text) (Call.TakeAll during)

def Call.TakeAll : List Call → List (Event Name) → Prop
  | [] => fun history => history = []
  | call :: rest => Then (Call.Takes call) (Call.TakeAll rest)

end

/-- The steps of an evaluation: it asks for one selection after the other, and templates give the texts. -/
def EvaluationTakes (generator : Generator) (call : Generator.Call) : List (Event Name) → Prop :=
  InTurn ((call.attempts generator).map fun selection =>
    Obtains selection (generator.templates.materialize selection).toOption (· = []))

end Tasks

section Told

variable {Name : Type} [DecidableEq Name]

/-- A run with what is told on it: each reply with the number of entries after it. -/
inductive Tells (start : Shared Name) :
    List (Event Name) → List (Reply × Nat) → Shared Name → Prop where
  | nil : Tells start [] [] start
  | silent {history told event shared next} (before : Tells start history told shared)
      (step : Step shared event next) (unanswered : event.reply? = none) :
      Tells start (history ++ [event]) told next
  | answered {history told event reply shared next} (before : Tells start history told shared)
      (step : Step shared event next) (answer : event.reply? = some reply) :
      Tells start (history ++ [event]) (told ++ [(reply, next.cache.size)]) next

namespace Tells

variable {start shared last : Shared Name} {history later : List (Event Name)}
  {told others : List (Reply × Nat)}

theorem run (tells : Tells start history told last) : Run start history last := by
  induction tells with
  | nil => exact .nil
  | silent _ step _ ih | answered _ step _ ih => exact ih.snoc step

theorem append (before : Tells start history told shared) (after : Tells shared later others last) :
    Tells start (history ++ later) (told ++ others) last := by
  induction after with
  | nil => simpa using before
  | silent _ step unanswered ih => simpa using ih.silent step unanswered
  | answered _ step answer ih => simpa using ih.answered step answer

end Tells

end Told

namespace Shared

/-- No name from a number on has been used for a call. -/
def FreeFrom (shared : Shared Nat) (first : Nat) : Prop :=
  ∀ name, first ≤ name → shared.phase name = .idle

/-- Calls named from a number on take the steps of a task, are told this, and leave this cache. -/
def Performs (shared : Shared Nat) (first : Nat) (task : List (Event Nat) → Prop)
    (told : List (Reply × Nat)) (cache : Cache) : Prop :=
  ∃ history last next, Tells shared history told last ∧ task history ∧ last.cache = cache ∧
    first ≤ next ∧ last.FreeFrom next ∧ ∀ name < first, last.phase name = shared.phase name

namespace Performs

variable {shared : Shared Nat} {first : Nat} {task later inside : List (Event Nat) → Prop}
  {told others : List (Reply × Nat)} {cache after : Cache}

theorem nil (free : shared.FreeFrom first) : shared.Performs first (· = []) [] shared.cache :=
  ⟨[], shared, first, .nil, rfl, rfl, Nat.le_refl _, free, fun _ _ => rfl⟩

theorem following {history : List (Event Nat)} {between : Shared Nat} {next : Nat}
    (performs : between.Performs next later others after)
    (tells : Tells shared history told between) (takes : task history) (le : first ≤ next)
    (kept : ∀ name < first, between.phase name = shared.phase name) :
    shared.Performs first (Then task later) (told ++ others) after := by
  obtain ⟨history', last, beyond, tells', takes', same, le', free, kept'⟩ := performs
  refine ⟨history ++ history', last, beyond, tells.append tells', ⟨_, _, takes, takes', rfl⟩, same,
    Nat.le_trans le le', free, fun name below => ?_⟩
  rw [kept' name (Nat.lt_of_lt_of_le below le), kept name below]

theorem append (performs : shared.Performs first task told cache)
    (rest : ∀ (between : Shared Nat) next, between.FreeFrom next → between.cache = cache →
      between.Performs next later others after) :
    shared.Performs first (Then task later) (told ++ others) after := by
  obtain ⟨history, between, next, tells, takes, same, le, free, kept⟩ := performs
  exact (rest between next free same).following tells takes le kept

/-- Tasks can be performed in turn if each of them can be performed, whatever it finds in the cache. -/
theorem inTurn {α : Type} {items : List α} {task : α → List (Event Nat) → Prop}
    {step : Cache → α → Cache}
    (each : ∀ item (between : Shared Nat) next, between.FreeFrom next →
      ∃ told, between.Performs next (task item) told (step between.cache item))
    (free : shared.FreeFrom first) :
    ∃ told, shared.Performs first (InTurn (items.map task)) told
      (items.foldl step shared.cache) := by
  induction items generalizing shared first with
  | nil => exact ⟨[], .nil free⟩
  | cons item rest ih =>
    obtain ⟨told, history, between, next, tells, takes, same, le, free, kept⟩ :=
      each item shared first free
    obtain ⟨others, performs⟩ := ih free
    rw [same] at performs
    exact ⟨told ++ others, performs.following tells takes le kept⟩

theorem of_observed {event : Event Nat} {reply : Reply} (step : Step shared event shared)
    (answer : event.reply? = some reply) (takes : task [event]) (free : shared.FreeFrom first) :
    shared.Performs first task [(reply, shared.cache.size)] shared.cache :=
  ⟨[event], shared, first, Tells.nil.answered step answer, takes, rfl, Nat.le_refl _, free,
    fun _ _ => rfl⟩

theorem of_get? (free : shared.FreeFrom first) {key : Selection} {text : String}
    (known : shared.cache.get? key = some text) (text? : Option String) :
    shared.Performs first (Obtains key text? inside) [(.obtained text false, shared.cache.size)]
      shared.cache := by
  have found := Step.found (free first (Nat.le_refl _)) known
  refine ⟨_, shared.advance first .ended, first + 1, Tells.nil.answered found rfl,
    .found first text, rfl, by omega, ?_, ?_⟩
  · grind [FreeFrom]
  · grind

/-- A call that misses, and the steps of others while it computes. -/
theorem of_missed (free : shared.FreeFrom first) {key : Selection}
    (unknown : shared.cache.get? key = none) (text : String)
    (during : (shared.advance first (.computing key)).Performs (first + 1) inside told cache) :
    shared.Performs first (Obtains key (some text) inside)
      (told ++ [(.obtained (cache.settle key text).1 true, (cache.settle key text).2.size)])
      (cache.settle key text).2 := by
  obtain ⟨history, between, next, tells, takes, rfl, le, free', kept⟩ := during
  have computing : between.phase first = .computing key := by
    rw [kept first (Nat.lt_succ_self first), phase_advance, if_pos rfl]
  have missed : Tells shared [.missed first key] [] _ :=
    Tells.nil.silent (.missed (free first (Nat.le_refl _)) unknown) rfl
  have computed : Step between _ (between.advance first (.computed key text)) :=
    .computed text computing
  have settled : Step (between.advance first (.computed key text))
      (.settled first key (between.cache.settle key text).1) _ :=
    .settled (by rw [phase_advance, if_pos rfl])
  refine ⟨_, _, next, ((missed.append tells).silent computed rfl).answered settled rfl, ?_, rfl,
    by omega, ?_, ?_⟩
  · simpa using Obtains.settled first _ rfl takes
  · grind [FreeFrom]
  · grind

theorem of_failed (free : shared.FreeFrom first) {key : Selection}
    (unknown : shared.cache.get? key = none) :
    shared.Performs first (Obtains key none inside) [] shared.cache := by
  have missed := Step.missed (free first (Nat.le_refl _)) unknown
  have failed : Step (shared.advance first (.computing key)) (.failed first) _ :=
    .failed (by rw [phase_advance, if_pos rfl])
  refine ⟨_, _, first + 1, (Tells.nil.silent missed rfl).silent failed rfl, .failed first rfl, rfl,
    by omega, ?_, ?_⟩
  · grind [FreeFrom]
  · grind

end Performs

mutual

/-- A call runs by such steps, whatever calls are made while it computes. -/
theorem performs_run (call : Call) {shared : Shared Nat} {first : Nat}
    (free : shared.FreeFrom first) :
    shared.Performs first call.Takes (run shared.cache call).1 (run shared.cache call).2 := by
  cases call with
  | get key => exact .of_observed (.got key) rfl ⟨_, rfl⟩ free
  | count => exact .of_observed .counted rfl ⟨_, rfl⟩ free
  | compute key text during =>
    rw [run, Call.Takes]
    cases known : shared.cache.get? key with
    | some settled => exact .of_get? free known (some text)
    | none =>
      have began : (shared.advance first (.computing key)).FreeFrom (first + 1) := by
        grind [FreeFrom]
      exact .of_missed free known text (performs_runAll during began)

theorem performs_runAll (calls : List Call) {shared : Shared Nat} {first : Nat}
    (free : shared.FreeFrom first) :
    shared.Performs first (Call.TakeAll calls) (runAll shared.cache calls).1
      (runAll shared.cache calls).2 := by
  cases calls with
  | nil => exact .nil free
  | cons call rest =>
    have others (between : Shared Nat) (next : Nat) (free : between.FreeFrom next)
        (same : between.cache = (run shared.cache call).2) :
        between.Performs next (Call.TakeAll rest) (runAll (run shared.cache call).2 rest).1
          (runAll (run shared.cache call).2 rest).2 :=
      same ▸ performs_runAll rest free
    rw [runAll, Call.TakeAll]
    exact (performs_run call free).append others

end

theorem performs_obtain {ε : Type} (key : Selection) (compute : Unit → Except ε String)
    {shared : Shared Nat} {first : Nat} (free : shared.FreeFrom first) :
    ∃ told, shared.Performs first (Obtains key (compute ()).toOption (· = [])) told
      (shared.cache.obtain key compute).2 := by
  cases known : shared.cache.get? key with
  | some settled =>
    rw [obtain_of_get? _ _ _ known]
    exact ⟨_, .of_get? free known _⟩
  | none =>
    cases computed : compute () with
    | ok text =>
      have began : (shared.advance first (.computing key)).FreeFrom (first + 1) := by
        grind [FreeFrom]
      have performs := Performs.of_missed free known text (.nil began)
      rw [cache_advance, settle_of_fresh _ _ text known] at performs
      rw [obtain_of_ok _ _ _ known computed]
      exact ⟨_, performs⟩
    | error fault =>
      rw [obtain_of_error _ _ _ known computed]
      exact ⟨_, .of_failed free known⟩

theorem performs_evaluations (generator : Generator) (calls : List Generator.Call)
    {shared : Shared Nat} {first : Nat} (free : shared.FreeFrom first) :
    ∃ told, shared.Performs first (InTurn (calls.map (EvaluationTakes generator))) told
      (calls.foldl (fun cache call => (call.run generator cache).cache) shared.cache) := by
  refine Performs.inTurn (fun call between next free => ?_) free
  rw [call.cache_run, Generator.materializeAll_snd]
  exact Performs.inTurn (fun selection _ _ free =>
    performs_obtain selection (fun _ => generator.templates.materialize selection) free) free

end Shared

section Settled

variable {Name : Type} [DecidableEq Name]

/--
Whatever steps calls take on a new cache, and in whatever order: entries stay; a text that a call returns
is the entry from then on, and a text that some call computed for this selection; calls for one selection
return one text; a call that finds an entry computes nothing; and there are as many entries as there are
selections for which some call has completed its settling. Calls in a row, some of them made while others
compute, take just the steps of these calls, with what they tell, and evaluations those of a call for each
selection that they attempt.
-/
theorem first_settled_counts {earlier later : List (Event Name)} {between last : Shared Name}
    (before : Run .fresh earlier between) (after : Run between later last) :
    last.cache.Extends between.cache ∧
      (∀ event ∈ earlier, ∀ key text, event.returned? = some (key, text) →
        last.cache.get? key = some text ∧ ∃ call, .computed call key text ∈ earlier) ∧
      (∀ event ∈ earlier ++ later, ∀ other ∈ earlier ++ later, ∀ key text text',
        event.returned? = some (key, text) → other.returned? = some (key, text') → text = text') ∧
      (∀ call key text, .found call key text ∈ earlier ++ later →
        ∀ key' text', .computed call key' text' ∉ earlier ++ later) ∧
      last.cache.size = ((earlier ++ later).filterMap Event.settledKey?).dedup.length ∧
      (∀ calls, ∃ (history : List (Event Nat)) (last : Shared Nat), Run .fresh history last ∧
        Call.TakeAll calls history ∧ Tells .fresh history (runAll ∅ calls).1 last ∧
        last.cache = (runAll ∅ calls).2) ∧
      ∀ generator calls, ∃ (history : List (Event Nat)) (last : Shared Nat), Run .fresh history last ∧
        InTurn (calls.map (EvaluationTakes generator)) history ∧
        last.cache = Generator.cacheAfter generator calls := by
  have whole := before.append after
  have unused : (Shared.fresh : Shared Nat).FreeFrom 0 := fun _ _ => rfl
  refine ⟨after.extends_cache, ?_, ?_, ?_, whole.size_eq, ?_, ?_⟩
  · intro event member key text returned
    have settled := before.get?_of_returned member returned
    exact ⟨after.extends_cache _ _ settled, before.exists_computed settled⟩
  · intro event member other member' key text text' returned returned'
    exact Option.some.inj
      ((whole.get?_of_returned member returned).symm.trans (whole.get?_of_returned member' returned'))
  · exact fun call key text found => (whole.of_found found).2
  · intro calls
    obtain ⟨history, last, _, tells, takes, cache, _⟩ := Shared.performs_runAll calls unused
    exact ⟨history, last, tells.run, takes, tells, cache⟩
  · intro generator calls
    obtain ⟨_, history, last, _, tells, takes, cache, _⟩ :=
      Shared.performs_evaluations generator calls unused
    exact ⟨history, last, tells.run, takes, cache⟩

end Settled

/-- Two calls that miss the same selection; the one that missed first settles last. -/
theorem first_settled_counts_of_late_call :
    let key : Selection := ⟨"System.Range", true, .empty⟩
    let earlier : List (Event Nat) :=
      [.missed 0 key, .missed 1 key, .computed 1 key "b", .settled 1 key "b"]
    let later : List (Event Nat) := [.computed 0 key "a", .settled 0 key "b", .found 2 key "b"]
    ∃ between last, Run .fresh earlier between ∧ Run between later last ∧
      last.cache.get? key = some "b" ∧ last.cache.size = 1 := by
  intro key earlier later
  obtain ⟨between, last, before, after⟩ :
      ∃ between last, Run .fresh earlier between ∧ Run between later last :=
    ⟨_, _, (((Run.nil.snoc (.missed rfl rfl)).snoc (.missed rfl rfl)).snoc (.computed "b" rfl)).snoc
        (.settled rfl),
      ((Run.nil.snoc (.computed "a" rfl)).snoc (.settled rfl)).snoc (.found rfl rfl)⟩
  obtain ⟨_, returned, _, _, size, _⟩ := first_settled_counts before after
  refine ⟨between, last, before, after, ?_, size⟩
  exact (returned (.settled 1 key "b") (by simp [earlier]) key "b" rfl).1

end Cache

end Polyfill
