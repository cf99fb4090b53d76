import BannedApi.Store.Basic
import BannedApi.Yaml.Reader

/-!
YAML documents in files.
-/
namespace BannedApi

/-- What the content of a file is to a reader of YAML. -/
def Content.source : Content → Yaml.Source
  | .text t => .ofText (Text.unifyNewlines t.toList)
  | .bytes data => .ofBytes data
  | .workbook _ => .ofText []

/-- The value of a YAML file. -/
def Content.yaml (content : Content) : Except Yaml.Fault Value := Yaml.read content.source

end BannedApi
