import Polyfill.Cache
import Polyfill.Template.Store
import Polyfill.Text.Quoted
import Polyfill.TypeForward

/-!
# Generation

A generator turns one set of options and one environment into sources. An evaluation resolves the
options, selects what the target misses, materializes it, selects the type forwards, and then delivers
everything at once: diagnostics, the marker, the artifacts in catalog order, the forwards. If it is
cancelled, or if a template is missing, nothing is delivered at all.
-/

namespace Polyfill

structure Source where
  name : String
  text : String
  deriving DecidableEq, Repr

/-- The marker that every evaluation delivers first. -/
def Source.marker : Source where
  name := Artifact.sourceName Artifact.embeddedMarker
  text := Template.Builtin.embeddedAttribute

def Source.ofForward (id : String) : Source where
  name := TypeForward.sourceName id
  text := TypeForward.text id

structure Summary where
  artifacts : Nat
  forwards : Nat
  diagnostics : Nat
  /-- The entries of the cache after the evaluation. -/
  cacheEntries : Nat
  deriving DecidableEq, Repr

structure Delivery where
  diagnostics : List Diagnostic
  artifacts : List Source
  forwards : List String
  deriving DecidableEq

namespace Delivery

def sources (delivery : Delivery) : List Source :=
  .marker :: delivery.artifacts ++ delivery.forwards.map .ofForward

def summary (delivery : Delivery) (cacheEntries : Nat) : Summary where
  artifacts := delivery.artifacts.length
  forwards := delivery.forwards.length
  diagnostics := delivery.diagnostics.length
  cacheEntries := cacheEntries

end Delivery

/-- Why an evaluation delivers nothing. -/
inductive Stop where
  | cancelled
  | missingTemplate (missing : MissingTemplate)
  deriving DecidableEq, Repr

/-- How an evaluation ended, and the state it leaves. -/
structure Evaluation where
  outcome : Except Stop Delivery
  cache : Cache
  progress : Progress

/-- What receives the results of evaluations, one after the other. -/
structure Sinks where
  diagnostics : List Diagnostic := []
  sources : List Source := []

namespace Sinks

def report (sinks : Sinks) (diagnostic : Diagnostic) : Sinks :=
  { sinks with diagnostics := sinks.diagnostics ++ [diagnostic] }

def addSource (sinks : Sinks) (source : Source) : Sinks :=
  { sinks with sources := sinks.sources ++ [source] }

end Sinks

namespace Evaluation

/-- Hand the results of an evaluation over: the diagnostics first, then the sources. -/
def deliverTo (evaluation : Evaluation) (sinks : Sinks) : Sinks :=
  match evaluation.outcome with
  | .ok delivery =>
    delivery.sources.foldl Sinks.addSource (delivery.diagnostics.foldl Sinks.report sinks)
  | .error _ => sinks

def summary? (evaluation : Evaluation) : Option Summary :=
  evaluation.outcome.toOption.map (·.summary evaluation.cache.size)

end Evaluation

/--
What goes on beside an evaluation while its selections are materialized. They do not wait for each
other, so if the flag goes up meanwhile, any of them may find it up, or may not be reached any more.
-/
structure Interference where
  givesUp : Selection → Bool
  /-- Whether the flag is up after all selections had their turn, although no query raised it. -/
  raisesAfter : Bool

def Interference.none : Interference where
  givesUp := fun _ => false
  raisesAfter := false

/-- A catalog with its templates and the types that may be forwarded. -/
structure Generator where
  catalog : Catalog
  templates : Templates
  forwardCandidates : List String

namespace Generator

def builtin : Generator where
  catalog := .builtin
  templates := .builtin
  forwardCandidates := TypeForward.builtinCandidates

def resolve (generator : Generator) (options : Options) : Configuration.Resolved :=
  Configuration.resolve generator.catalog options

def line (generator : Generator) (cache : Cache) : String :=
  "Generator \x7b catalog: " ++ toString generator.catalog.size ++
    ", forward_candidates: " ++ Text.quoteList generator.forwardCandidates ++
    ", cache: " ++ toString cache.size ++ ", .. \x7d"

/--
Materialize selections through a cache. Selections do not wait for each other: one without a template
keeps none of the others from being settled, and the first one without a template is reported.
-/
def materializeAll (templates : Templates) :
    List Selection → Cache → Except MissingTemplate (List Source) × Cache
  | [], cache => (.ok [], cache)
  | selection :: rest, cache =>
    let (text, cache) := cache.obtain selection fun _ => templates.materialize selection
    let (others, cache) := materializeAll templates rest cache
    (do return ⟨selection.sourceName, ← text⟩ :: (← others), cache)

/-- The configuration of an evaluation, its diagnostics, and the selections that it comes to. -/
def plan (generator : Generator) (environment : Environment) (options : Options) :
    Inquiry (Configuration × List Diagnostic × List Selection) := do
  let resolved := generator.resolve options
  let supported ← Inquiry.ask environment .supportsPipeline
  let diagnostics :=
    if supported then resolved.diagnostics
    else resolved.diagnostics ++ [.ofDescriptor .unsupportedLanguageLevel []]
  let selections ← Selecting.select generator.catalog environment resolved.configuration
  return (resolved.configuration, diagnostics, selections)

/-- The forwards of an evaluation; the flag is looked at once more before anything is delivered. -/
def finish (generator : Generator) (environment : Environment) (configuration : Configuration) :
    Inquiry (List String) := do
  let forwards ← TypeForward.select environment configuration generator.forwardCandidates
  Inquiry.poll
  return forwards

/--
Run one evaluation with the cache of earlier ones, while something goes on beside it. The flag may be
up from the start, and is looked at before each selection is materialized.
-/
def evaluateAmid (generator : Generator) (interference : Interference) (cache : Cache)
    (environment : Environment) (raised : Bool) (options : Options) : Evaluation :=
  match (generator.plan environment options).runFrom { raised } with
  | (.error _, progress) => ⟨.error .cancelled, cache, progress⟩
  | (.ok (configuration, diagnostics, selections), progress) =>
    let givenUp selection := progress.raised || interference.givesUp selection
    match materializeAll generator.templates (selections.filter (!givenUp ·)) cache with
    | (.error missing, cache) => ⟨.error (.missingTemplate missing), cache, progress⟩
    | (.ok artifacts, cache) =>
      if selections.any givenUp then
        ⟨.error .cancelled, cache, { progress with raised := true }⟩
      else
        let progress := { progress with raised := progress.raised || interference.raisesAfter }
        match (generator.finish environment configuration).runFrom progress with
        | (.error _, progress) => ⟨.error .cancelled, cache, progress⟩
        | (.ok forwards, progress) => ⟨.ok ⟨diagnostics, artifacts, forwards⟩, cache, progress⟩

/-- Run one evaluation with the cache of earlier ones, with nothing going on beside it. -/
def evaluate (generator : Generator) (cache : Cache) (environment : Environment) (raised : Bool)
    (options : Options) : Evaluation :=
  generator.evaluateAmid .none cache environment raised options

end Generator

end Polyfill
