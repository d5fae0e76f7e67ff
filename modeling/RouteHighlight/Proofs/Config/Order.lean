import RouteHighlight.Proofs.Config.Layers
import RouteHighlight.Proofs.Config.Reordered

/-!
# The order of layers

Layers are sorted before anything is read: the files in their order, and the overrides by their
keys.  So it does not matter how files and overrides are interleaved.

In which order the entries of a table and the overrides are taken is open.  A run takes them in
some order; it gives an answer unless a list would have to be longer than memory allows.
-/

namespace RouteHighlight.Config

/-! ## Sorting layers -/

def Layer.set? : Layer → Option (Key × Value)
  | .override text value => (Key.parse text).toOption.map (·, value)
  | .file _ => none

/-- The same files in the same order and the same overrides in the same order. -/
structure Interleaving (layers others : List Layer) : Prop where
  files : layers.filterMap Layer.file? = others.filterMap Layer.file?
  overrides : layers.filter Layer.isOverride = others.filter Layer.isOverride

theorem Interleaving.sets {layers others : List Layer} (h : Interleaving layers others) :
    layers.filterMap Layer.set? = others.filterMap Layer.set? := by
  have hset (layers : List Layer) :
      (layers.filter Layer.isOverride).filterMap Layer.set? = layers.filterMap Layer.set? := by
    rw [List.filterMap_filter]
    refine List.filterMap_congr fun layer _ => ?_
    cases layer <;> rfl
  rw [← hset, h.overrides, hset]

namespace Loader

end Loader

/-- The values of a file under the keys of its top level, or what is wrong with it. -/
def FileLayer.sets (dir : Directory) (layer : FileLayer) :
    Except LoadError (List (Key × Value)) :=
  match dir.find? layer.path with
  | none => if layer.required then .error (.missingFile layer.path) else .ok []
  | some (uri, text) =>
    match Toml.parse? text with
    | none => .error (.malformedFile uri)
    | some entries =>
      .ok ((Value.ofTomlEntries (some uri) entries).map fun p => (Loader.topLevelKey p.1, p.2))

namespace Loader

variable {dir : Directory} {layer : FileLayer} {error : LoadError}

/-- What is set at one go, or why that cannot be read. -/
abbrev Batch := Except LoadError (List (Key × Value))

def batches (loader : Loader) (dir : Directory) : List Batch :=
  loader.files.map (·.sets dir) ++ [.ok loader.overrides]

/-- The answers that there may be when batches are set on a configuration, each in any order. -/
inductive Runs : List Batch → Value → Except LoadError LexerConfig → Prop where
  | done (root : Value) : Runs [] root (decodeRoot root)
  | failed (error : LoadError) (rest : List Batch) (root : Value) :
      Runs (.error error :: rest) root (.error error)
  | set {sets others : List (Key × Value)} {rest : List Batch} {root : Value}
      {answer : Except LoadError LexerConfig} (order : Shuffled sets others)
      (memory : sets.all (withinLimit ·.1)) (next : Runs rest (setAll root others) answer) :
      Runs (.ok sets :: rest) root answer

def Answers (loader : Loader) (dir : Directory) (answer : Except LoadError LexerConfig) : Prop :=
  Runs (loader.batches dir) defaults answer

variable {batches front back : List Batch} {root copy : Value}
  {answer other : Except LoadError LexerConfig}

/-- One batch after the other leaves the same, so that there is no more than one answer. -/
theorem Runs.unique (h : Runs batches root answer) (hcopy : Runs batches copy other)
    (hbatches : ∀ batch ∈ batches, ∀ sets, batch = .ok sets → Orderless sets)
    (hroot : root.Alike copy) : answer = other := by
  induction h generalizing copy with
  | done root =>
      cases hcopy
      exact decodeRoot_eq_of_alike hroot
  | failed error rest root =>
      cases hcopy
      rfl
  | @set sets others rest root answer order memory next ih =>
      cases hcopy with
      | set order' memory' next' =>
          obtain ⟨hsets, hrest⟩ := List.forall_mem_cons.1 hbatches
          have hleft := (order.alike (hsets sets rfl) (.refl root)).symm
          have hright := order'.alike (hsets sets rfl) hroot
          exact ih next' hrest (hleft.trans hright)

end Loader

end RouteHighlight.Config
