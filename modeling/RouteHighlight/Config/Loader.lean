import RouteHighlight.Config.Decode
import RouteHighlight.Config.Directory
import RouteHighlight.Config.Merge
import RouteHighlight.Toml.Document

/-!
# Loading a configuration

A configuration is built in layers: the defaults, then files in order, and at last single values
that are set by their keys, wherever they stood among the files.

The entries of a table and the overrides are taken in the order in which they are written. That is
one order of many: which it is, no document and no host can tell.
-/

namespace RouteHighlight.Config

mutual

/-- A value of a file. Dates and times become texts. -/
def Value.ofToml (origin : Option String) : Toml.Value → Value
  | .text s => .scalar origin (.text s)
  | .int n => .scalar origin (.int n)
  | .float x => .scalar origin (.float x)
  | .bool b => .scalar origin (.bool b)
  | .dateTime d => .scalar origin (.text d.text)
  | .array items => .list origin (Value.ofTomlItems origin items)
  | .table entries => .table origin (Value.ofTomlEntries origin entries)

def Value.ofTomlItems (origin : Option String) : List Toml.Value → List Value
  | [] => []
  | item :: items => Value.ofToml origin item :: Value.ofTomlItems origin items

def Value.ofTomlEntries (origin : Option String) :
    List (String × Toml.Value) → List (String × Value)
  | [] => []
  | (name, value) :: rest => (name, Value.ofToml origin value) :: Value.ofTomlEntries origin rest

end

def Value.ofTexts (texts : List String) : Value :=
  .list none (texts.map fun s => .scalar none (.text s))

def Value.ofLexer (lexer : RoutesLexer) : Value :=
  .table none
    [("name", .scalar none (.text lexer.name)),
     ("aliases", .ofTexts lexer.aliases),
     ("filenames", .ofTexts lexer.filenames),
     ("reset_on_newline", .scalar none (.bool lexer.options.resetOnNewline))]

def defaultsLines : List String :=
  ["# Built-in defaults for the routes highlighter.",
   "# User files layered through `Loader` override any of these keys.",
   "",
   "[lexer]",
   "name = \"ROUTES\"",
   "aliases = [\"routes\"]",
   "filenames = [\"routes\", \"*.routes\"]",
   "# Return to root mode after any token that spans a newline.",
   "reset_on_newline = false"]

def defaultsText : String := String.join (defaultsLines.map (· ++ "\n"))

/-- The configuration before any layer: that of the usual lexer. -/
def defaults : Value := .table none [("lexer", .ofLexer .default)]

structure FileLayer where
  path : String
  required : Bool
  deriving DecidableEq, Repr

structure Loader where
  files : List FileLayer
  /-- The values that are set, no key twice. -/
  overrides : List (Key × Value)

inductive Layer where
  | file (layer : FileLayer)
  | override (key : String) (value : Value)

/-- A layer is refused, since its key is none; layers are counted from zero. -/
structure RefusedLayer where
  index : Nat
  reason : KeyError
  deriving DecidableEq, Repr

namespace Loader

def empty : Loader := ⟨[], []⟩

def withFile (loader : Loader) (layer : FileLayer) : Loader :=
  { loader with files := loader.files ++ [layer] }

/-- The values with one more set; the same key keeps its place. -/
def setIn (key : Key) (value : Value) : List (Key × Value) → List (Key × Value)
  | [] => [(key, value)]
  | (other, present) :: rest =>
    if other = key then (key, value) :: rest else (other, present) :: setIn key value rest

def setOverride (loader : Loader) (key : String) (value : Value) : Except KeyError Loader := do
  let key ← Key.parse key
  return { loader with overrides := setIn key value loader.overrides }

def add (loader : Loader) : Layer → Except KeyError Loader
  | .file layer => .ok (loader.withFile layer)
  | .override key value => loader.setOverride key value

def addFrom (loader : Loader) (index : Nat) : List Layer → Except RefusedLayer Loader
  | [] => .ok loader
  | layer :: rest =>
    match loader.add layer with
    | .ok loader => loader.addFrom (index + 1) rest
    | .error reason => .error ⟨index, reason⟩

/-- The loader of some layers. A key that is none is refused before any file is read. -/
def ofLayers (layers : List Layer) : Except RefusedLayer Loader := empty.addFrom 0 layers

/-- The most items of one list: a value takes 96 bytes, and those of a list are counted by a signed
word. Memory may give out before, of which nothing is said. -/
def itemLimit : Nat := 9223372036854775807 / 96

def withinLimit (key : Key) : Bool :=
  key.steps.all fun
    | .index n => n < itemLimit
    | .child _ => true

def setBounded (root : Value) (key : Key) (value : Value) : Except LoadError Value :=
  if withinLimit key then .ok (setKey key value root) else .error .tooLong

/-- The key that the name of an entry of a file stands for. A name that is no key is taken
literally. -/
def topLevelKey (name : String) : Key :=
  match Key.parse name with
  | .ok key => key
  | .error _ => ⟨name, []⟩

def applyFile (dir : Directory) (root : Value) (layer : FileLayer) : Except LoadError Value :=
  match dir.find? layer.path with
  | none => if layer.required then .error (.missingFile layer.path) else .ok root
  | some (uri, text) =>
    match Toml.parse? text with
    | none => .error (.malformedFile uri)
    | some entries =>
      (Value.ofTomlEntries (some uri) entries).foldlM
        (fun root (name, value) => setBounded root (topLevelKey name) value) root

def root (loader : Loader) (dir : Directory) : Except LoadError Value := do
  let root ← loader.files.foldlM (applyFile dir) defaults
  loader.overrides.foldlM (fun root (key, value) => setBounded root key value) root

def build (loader : Loader) (dir : Directory) : Except LoadError LexerConfig := do
  decodeRoot (← loader.root dir)

end Loader

def loadDefaults : Except LoadError LexerConfig := Loader.empty.build ⟨[]⟩

end RouteHighlight.Config
