/-
ScriptureText.Config.Loader — loading the configuration. Layers are merged in
order over the standard settings, a later layer over an earlier one; settings
that are pinned by the program go over all layers, in whatever order they were
given.
-/
import ScriptureText.Config.Environment
import ScriptureText.Normalization

namespace ScriptureText.Config

/-! ## §1 Faults -/

/-- Why settings do not make a configuration: something is missing, a list is too
short, or a value stands where a group of settings is wanted. -/
inductive Misfit where
  | missing (name : String)
  | tooShort
  | scalar (found : Scalar)
  deriving DecidableEq, Repr

/-- What the settings of normalization are called. -/
def groupName : String := "struct NormalizationConfig"

def Misfit.message : Misfit → String
  | .missing name => "missing field `" ++ name ++ "`"
  | .tooShort => "invalid length 0, expected " ++ groupName ++ " with 1 element"
  | .scalar found => "invalid type: " ++ found.description ++ ", expected " ++ groupName

/-- Why there is no configuration. -/
inductive Error where
  /-- The path of a pinned setting cannot be read. -/
  | path (fault : PathFault)
  /-- A file that has to exist does not. -/
  | noFile
  /-- A file is not TOML. -/
  | notToml
  /-- A value cannot be read as a truth value. -/
  | notBool (path : String) (found : Value)
  | misfit (m : Misfit)

/-- A value that is no truth value, as a complaint names it. -/
def Value.unexpected : Value → String
  | .scalar _ (.string s) => Scalar.description (.string (Unicode.lowercase s))
  | .scalar _ s => s.description
  | .list _ _ => "sequence"
  | .table _ _ => "map"

/-! ## §2 Settings -/

/-- The settings of this library. -/
structure Settings where
  keepWhitespace : Bool
  deriving DecidableEq, Repr

/-- Settings as options of normalization. -/
def Settings.normalizeOptions (s : Settings) : NormalizeOptions := ⟨s.keepWhitespace⟩

/-- The truth value that a word in lower case stands for. -/
def wordBool? (word : String) : Option Bool :=
  if ["1", "true", "on", "yes"].contains word then some true
  else if ["0", "false", "off", "no"].contains word then some false
  else none

/-- The truth value of a value: numbers are true unless they are zero. -/
def Scalar.bool? : Scalar → Option Bool
  | .nil => none
  | .bool b => some b
  | .int n => some (n ≠ 0)
  | .float x => some !x.isZero
  | .string s => wordBool? (Unicode.lowercase s)

/-- The truth value at a path. -/
def Value.readBool (path : String) (v : Value) : Except Error Bool :=
  match v with
  | .scalar _ s => match s.bool? with
    | some b => .ok b
    | none => .error (.notBool path v)
  | _ => .error (.notBool path v)

/-- The settings of normalization: a table of them, or a list of them in order. -/
def Settings.ofGroup : Value → Except Error Settings
  | .table _ entries => match entries.lookup "keep_whitespace" with
    | some v => (v.readBool "normalization.keep_whitespace").map (⟨·⟩)
    | none => .error (.misfit (.missing "keep_whitespace"))
  | .list _ [] => .error (.misfit .tooShort)
  | .list _ (v :: _) => (v.readBool "normalization[0]").map (⟨·⟩)
  | .scalar _ s => .error (.misfit (.scalar s))

/-- The settings that a table of all values holds. -/
def Settings.ofValue (root : Value) : Except Error Settings :=
  match root.find? "normalization" with
  | some v => ofGroup v
  | none => .error (.misfit (.missing "normalization"))

/-! ## §3 Layers -/

/-- A source of settings. -/
inductive Layer where
  /-- A file with its text, if it exists. -/
  | file (text : Option String) (required : Bool)
  | environment (vars : List (String × String))

/-- The settings of a layer. -/
def Layer.settings : Layer → Except Error (List (String × Value))
  | .file (some text) _ => match Toml.document? text with
    | some entries => .ok (Value.ofTomlEntries entries)
    | none => .error .notToml
  | .file none true => .error .noFile
  | .file none false => .ok []
  | .environment vars => .ok (Environment.settings vars)

/-- The standard settings. -/
def standard : List (String × Value) :=
  [("normalization", .table none [("keep_whitespace", .scalar none (.bool false))])]

/-! ## §4 Loading -/

/-- What to load: layers in order, and pinned settings. -/
structure Loader where
  layers : List Layer
  pinned : List (Path × Scalar)

namespace Loader

/-- The standard settings alone. -/
def start : Loader := ⟨[], []⟩

/-- Add a layer over those there are. -/
def addLayer (l : Loader) (layer : Layer) : Loader := ⟨l.layers ++ [layer], l.pinned⟩

/-- Pin the setting at a path; the last value counts. -/
def pinAt (path : Path) (s : Scalar) : List (Path × Scalar) → List (Path × Scalar)
  | [] => [(path, s)]
  | (p, old) :: rest => if p = path then (p, s) :: rest else (p, old) :: pinAt path s rest

/-- Pin a setting above all layers. -/
def pin (l : Loader) (key : String) (s : Scalar) : Except Error Loader :=
  match Path.ofString key with
  | .ok path => .ok ⟨l.layers, pinAt path s l.pinned⟩
  | .error fault => .error (.path fault)

/-- Merge layers over settings. -/
def merge : List Layer → Value → Except Error Value
  | [], root => .ok root
  | layer :: rest, root => do
    let settings ← layer.settings
    merge rest (root.assignAll settings)

/-- All settings. Those of the layers are collected first and then set as a
whole, so a key whose lower case is a path leads where that path leads. -/
def settings (l : Loader) : Except Error Value := do
  let layered ← merge l.layers (Value.empty.assignAll standard)
  let root := Value.empty.assignAll layered.entries
  return l.pinned.foldl (fun root (path, s) => root.assign path (.scalar none s)) root

/-- Load the configuration. -/
def build (l : Loader) : Except Error Settings := do
  let root ← l.settings
  Settings.ofValue root

end Loader

/-- A step of preparing a loader. -/
inductive Step where
  | layer (layer : Layer)
  | pin (key : String) (s : Scalar)

/-- Take one more step. -/
def Step.apply (l : Loader) : Step → Except Error Loader
  | .layer source => .ok (l.addLayer source)
  | .pin key s => l.pin key s

/-- The configuration that steps lead to. A fault of a step comes before all
faults of layers. -/
def load (steps : List Step) : Except Error Settings := do
  let l ← steps.foldlM Step.apply Loader.start
  l.build

/-- The standard settings with those of the environment over them. -/
def loadDefaults (vars : List (String × String)) : Except Error Settings :=
  load [.layer (.environment vars)]

end ScriptureText.Config
