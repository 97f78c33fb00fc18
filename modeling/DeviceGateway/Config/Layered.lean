import DeviceGateway.Config.Environment
import DeviceGateway.Files

/-!
# Layered configuration

Settings of a file lie over the defaults, and settings of the environment over both. Where two
layers hold a map their members are united; otherwise the upper one counts.
-/

namespace DeviceGateway

open Shape

/-! ### Layers -/

mutual

def overlay {τ : Type} (lower upper : DataTree τ) : DataTree τ :=
  match lower, upper with
  | .map _ ms, .map t ns => .map t (overlayMembers ms ns)
  | _, upper => upper
  termination_by structural upper

/-- The members of a map with those of another one laid over them. -/
def overlayMembers {τ : Type} (lower : List (String × DataTree τ)) :
    List (String × DataTree τ) → List (String × DataTree τ)
  | [] => lower
  | (key, t) :: rest =>
    let t' := match lower.lookup key with
      | some below => overlay below t
      | none => t
    overlayMembers (Yaml.insertTree key t' lower) rest
  termination_by structural upper => upper

end

/-- The layer of the environment: one tree a variable, later ones over earlier ones. -/
def Environment.layer (environment : List (String × String)) : DataTree SettingSource :=
  environment.foldl (fun t v =>
    match Environment.pathOf v.1 with
    | some path => overlay t (Environment.nested (Environment.value v.2) path)
    | none => t) (.map .environment [])

/-! ### Loading -/

inductive LoadFault where
  | missingFile (path : String)
  | malformedFile (path : String)
  | setting (fault : Located SettingSource)

/-- The wording of where a setting comes from and which one it is. -/
def Shape.Located.place (e : Located SettingSource) : String :=
  match e.source with
  | .file shown =>
    " for key " ++ Text.quoted (String.intercalate "." ("default" :: e.path)) ++ " in " ++ shown
      ++ " YAML file"
  | .environment =>
    " for key " ++ Text.quoted (String.intercalate "." (e.path.map Text.upperAscii)) ++ " in `"
      ++ Environment.namePrefix ++ "` environment variable(s)"

def LoadFault.message : LoadFault → String
  | .missingFile path => "Config file not found: " ++ path
  | .malformedFile path => path ++ " holds no map of settings"
  | .setting e => e.fault.settingMessage ++ e.place

def shownPath (path : String) : String :=
  String.intercalate "/" ((FileTree.partsOf path).filter (· ≠ FileTree.rootPart))

/-- The layer of a file, empty if no path is given or the path leads to a directory. -/
def fileLayer (files : FileTree) (path : Option String) :
    Except LoadFault (DataTree SettingSource) :=
  match path with
  | none => .ok (.map .environment [])
  | some p =>
    match files.find p with
    | .error _ => .error (.missingFile p)
    | .ok .directory => .ok (.map .environment [])
    | .ok (.file content) =>
      let source := SettingSource.file (shownPath p)
      match (Utf8.decodeText? content).bind (Yaml.members? source) with
      | some members => .ok (.map source members)
      | none => .error (.malformedFile (shownPath p))

def Config.load (files : FileTree) (path : Option String) (environment : List (String × String)) :
    Except LoadFault Config := do
  let settings := overlay (← fileLayer files path) (Environment.layer environment)
  match Config.read .settings settings with
  | .ok c => .ok c
  | .error e => .error (.setting e)

end DeviceGateway
