import RulePlane.Watchers

/-!
# Metrics

The numbers that an operator reads: how many changes the caches took, how many events were ignored
and how many watchers are active. A number is shown on a line of its own, under a name and with
labels that say what was counted; a counter is not shown before it has counted something.
-/

namespace RulePlane

/-- A number under a name and labels. -/
structure Sample where
  name : String
  labels : List (String × String)
  value : Nat
deriving DecidableEq, Repr

namespace Sample

/-- A label is written as its name and its value between double quotes. The value is written as it
    is. -/
def renderLabel (label : String × String) : String := label.1 ++ "=\"" ++ label.2 ++ "\""

/-- The labels of a sample between braces; nothing if it has none. -/
def renderLabels (labels : List (String × String)) : String :=
  if labels.isEmpty then ""
  else String.singleton '\x7b' ++ String.intercalate "," (labels.map renderLabel) ++
    String.singleton '\x7d'

/-- A sample is written as its name, its labels and its value. -/
def render (sample : Sample) : String :=
  sample.name ++ renderLabels sample.labels ++ " " ++ toString sample.value

/-- Put a text before the name of a sample. -/
def under (heading : String) (sample : Sample) : Sample :=
  { sample with name := heading ++ sample.name }

/-- A counter, once it has counted something. -/
def counter (name : String) (labels : List (String × String)) (value : Nat) : List Sample :=
  if value = 0 then [] else [⟨name ++ "_total", labels, value⟩]

/-- The lines of some samples in ascending order. -/
def lines (samples : List Sample) : List String := orderedTexts (samples.map render)

end Sample

/-- The changes that a cache took to its groups. -/
def Cache.samples (cache : Cache) : List Sample :=
  let mutation (operation : String) (count : Nat) : List Sample :=
    Sample.counter "cache_mutations" [("kind", cache.kind.text), ("op", operation)] count
  mutation "set" cache.sets ++ mutation "delete" cache.deletes

/-- The changes that a watcher's cache took and the events that it ignored. -/
def Watcher.samples (watcher : Watcher) : List Sample :=
  watcher.cache.samples ++
    Sample.counter "ignored_events" [("kind", watcher.kind.text)] watcher.ignored

/-- The number of active watchers. -/
def watcherGauge (count : Nat) : Sample := ⟨"watchers", [], count⟩

/-- The numbers of all active watchers. -/
def Watchers.samples (watchers : Watchers) : List Sample :=
  watcherGauge watchers.active.size :: watchers.active.values.flatMap Watcher.samples

end RulePlane
